import Aff4Lite.XWays.Plugin
import Aff4Lite.XWays.SparseExtent

/-!
# What a user of the plugin sees

The plugin is a desk where images are handed out by numbers. Caches, the walk over the entries
of the maps and the table of handles do not show: a session has the outcomes of the desk.
-/

set_option autoImplicit false

namespace Aff4Lite.XWays

open Lib Rdf Aff4Lite.Stream

/-! ## The desk -/

/-- What a handle stands for. -/
structure Disc where
  image : Extent UInt8
  sparse : Extent Bool

/-- A request for `nSize` bytes. One that checks for sparse bytes and finds nothing else leaves
the buffer alone and only adds a flag. -/
def Disc.work (disc : Disc) (nOfs nSize : Nat) (pFlags : Option (BitVec 8)) : WorkAnswer :=
  let count := min nSize (disc.image.size - nOfs)
  if pFlags.getD 0 &&& iioCheckForSparse = iioCheckForSparse ∧ count ≠ 0 ∧
      (disc.sparse.read nOfs count).all id then
    ⟨count, [], pFlags.map fun flags => flags ||| iioSparseDetected, false⟩
  else ⟨count, disc.image.read nOfs nSize, pFlags, false⟩

namespace Disc

variable (disc : Disc) {nOfs nSize : Nat} {pFlags : Option (BitVec 8)}

private theorem work_unchecked (nOfs nSize : Nat)
    (unchecked : pFlags.getD 0 &&& iioCheckForSparse ≠ iioCheckForSparse) :
    disc.work nOfs nSize pFlags =
      ⟨(disc.image.read nOfs nSize).length, disc.image.read nOfs nSize, pFlags, false⟩ := by
  rw [work, if_neg (fun all => unchecked all.1), Extent.length_read]

private theorem work_behind (behind : disc.image.size ≤ nOfs) (nSize : Nat)
    (pFlags : Option (BitVec 8)) : disc.work nOfs nSize pFlags = ⟨0, [], pFlags, false⟩ := by
  have nothing : min nSize (disc.image.size - nOfs) = 0 := by omega
  rw [work, nothing, if_neg (fun all => all.2.1 rfl), disc.image.read_behind behind]
  rfl

private theorem work_checked (checks : pFlags.getD 0 &&& iioCheckForSparse = iioCheckForSparse)
    (nonzero : min nSize (disc.image.size - nOfs) ≠ 0) :
    disc.work nOfs nSize pFlags =
      if (disc.sparse.read nOfs (min nSize (disc.image.size - nOfs))).all id then
        ⟨(min nSize (disc.image.size - nOfs) : Nat), [],
          pFlags.map fun flags => flags ||| iioSparseDetected, false⟩
      else ⟨(disc.image.read nOfs nSize).length, disc.image.read nOfs nSize, pFlags, false⟩ := by
  rw [work, Extent.length_read]
  by_cases sparse : (disc.sparse.read nOfs (min nSize (disc.image.size - nOfs))).all id
  · rw [if_pos ⟨checks, nonzero, sparse⟩, if_pos sparse]
  · rw [if_neg (fun all => sparse all.2.2), if_neg sparse]

end Disc

/-- What was handed out under each number; number 0 never is. -/
abbrev Desk := List (Option Disc)

namespace Desk

def initial : Desk := [none]

def find (desk : Desk) (handle : BitVec 32) : Option Disc := desk[handle.toNat]?.join

section Init

variable (packageString : Bytes) (toString : RDFValue → Bytes)

def init (desk : Desk) (lpFilePath : Option Bytes) (pImgInfo : Bool) (findings : Findings Disc) :
    Except Crash (InitAnswer × Desk) :=
  match lpFilePath with
  | none => .ok (⟨0, none, false⟩, desk)
  | some file =>
      if !pImgInfo then .ok (⟨0, none, false⟩, desk)
      else if file = [] then .ok (⟨0, some .initial, true⟩, desk)
      else
        let number := (BitVec.ofNat 32 desk.length).signExtend 64
        match findings.opening with
        | .unopened => .ok (⟨0, some .initial, true⟩, desk)
        | .givenUp enoent message => .ok
            (⟨number, some (givenUpInfo message), enoent⟩, desk ++ [none])
        | .opened properties disc => do
            let info ← imageInfo packageString toString properties (.ofNat 64 disc.image.size)
            return (⟨number, some info, false⟩, desk ++ [some disc])

def work (desk : Desk) (lpImage nOfs nSize : U64) (lpBuffer : Option (Nat → UInt8))
    (pFlags : Option (BitVec 8)) : WorkAnswer :=
  if lpBuffer.isNone ∨ lpImage = 0 ∨ nOfs.toInt < 0 ∨ nSize.toInt ≤ 0 ∨
      pFlags.getD 0 &&& iioWrite = iioWrite then ⟨0, [], pFlags, false⟩
  else
    match desk.find (lpImage.setWidth 32) with
    | none => ⟨0, [], pFlags, true⟩
    | some disc => disc.work nOfs.toNat nSize.toNat pFlags

def done (desk : Desk) (lpImage : U64) : Desk := desk.set (lpImage.setWidth 32).toNat none

def step (call : Call Disc) (desk : Desk) : Outcome Crash (PluginAnswer × Desk) :=
  match call with
  | .init lpFilePath pImgInfo findings =>
      some ((desk.init packageString toString lpFilePath pImgInfo findings).map fun outcome =>
        (.init outcome.1, outcome.2))
  | .work lpImage nOfs nSize lpBuffer pFlags =>
      some (.ok (.work (desk.work lpImage nOfs nSize lpBuffer pFlags), desk))
  | .done lpImage => some (.ok (.done 1, desk.done lpImage))

end Init

end Desk

/-! ## The images behind the handles -/

/-- A map with its records and streams, and the extents of the streams. Its size is an `INT64`. -/
structure Drive (Ref : Type) where
  objects : Ref → StreamObject
  content : Ref → Extent UInt8
  good : Ref → ImageState → Prop
  holds : ∀ ref, (objects ref).Holds (content ref) (good ref)
  getResourceID : Ref → Bytes
  opened : OpenedMap Ref content
  signed : opened.self.size.toNat < 2 ^ 63

namespace Drive

variable {Ref : Type}

/-- The stream object, when nothing was read from it. -/
def held (drive : Drive Ref) : HeldStream Ref :=
  ⟨drive.opened.self, drive.objects, drive.getResourceID, fun ref => (drive.objects ref).fresh⟩

def disc (drive : Drive Ref) : Disc :=
  ⟨drive.opened.image, sparseness drive.opened drive.getResourceID⟩

/-- The stream object at any later time. -/
structure Keeps (drive : Drive Ref) (stream : HeldStream Ref) : Prop where
  map : stream.map = drive.opened.self
  objects : stream.objects = drive.objects
  getResourceID : stream.getResourceID = drive.getResourceID
  caches : ∀ ref, drive.good ref (stream.caches ref)

private theorem keeps_held (drive : Drive Ref) : drive.Keeps drive.held :=
  ⟨rfl, rfl, rfl, fun ref => (drive.holds ref).fresh⟩

end Drive

/-- The stream of a handle, and what it stands for. -/
def StandsFor {Ref : Type} (stream : HeldStream Ref) (disc : Disc) : Prop :=
  ∃ drive : Drive Ref, drive.Keeps stream ∧ disc = drive.disc

/-- A request whose end is an `INT64`. -/
def Call.Representable {Stream : Type} : Call Stream → Prop
  | .work _ nOfs nSize _ _ => nOfs.toInt + nSize.toInt < 2 ^ 63
  | _ => True

/-! ## One request -/

theorem ReadResult.returned_delivered {res : Int} {memory : Buffer} {bytes : Bytes}
    (same : ReadResult.returned res memory = .delivered bytes) : res = bytes.length := by
  unfold ReadResult.returned at same
  split at same
  · cases same
  · cases same
    rw [length_firstCells]
    omega

/-- A read of the stream of a handle delivers the bytes of the image. -/
theorem Drive.Keeps.readStream {Ref : Type} [DecidableEq Ref] {drive : Drive Ref}
    {stream : HeldStream Ref} (keeps : drive.Keeps stream) (self : PluginState Ref)
    (handle : BitVec 32) {nOfs nSize : U64} (small : nSize.toNat < 2 ^ 63)
    (noOverflow : nOfs.toNat + nSize.toNat < 2 ^ 64) (memory : Nat → UInt8)
    (pFlags : Option (BitVec 8)) :
    ∃ after, drive.Keeps after ∧
      self.readStream handle stream nOfs nSize memory pFlags =
        some (.ok (⟨(drive.disc.image.read nOfs.toNat nSize.toNat).length,
          drive.disc.image.read nOfs.toNat nSize.toNat, pFlags, false⟩,
          { self with handles := self.handles.insert handle.toInt after })) := by
  have addressed := fun ref => (drive.holds ref).addressed
  have transparent := (drive.opened.pictures addressed).transparent
    (StreamObject.reader_serves drive.holds fun _ => memory) addressed memory
  have answered := transparent.answered (nSize, nOfs) stream.caches keeps.caches small noOverflow
  have kept := transparent.kept (nSize, nOfs) stream.caches keeps.caches
  dsimp only at answered kept
  unfold PluginState.readStream
  rw [keeps.map, keeps.objects]
  unfold MapStream.deliver at answered kept
  cases ran : drive.opened.self.read (StreamObject.reader drive.objects fun _ => memory)
      (freshBuffer memory nSize) nSize nOfs stream.caches with
  | none =>
      rw [ran] at answered
      cases answered
  | some outcome =>
      cases outcome with
      | error fault =>
          rw [ran] at answered
          cases answered
      | ok result =>
          rw [ran] at answered kept
          dsimp only at answered kept ⊢
          have counted := ReadResult.returned_delivered answered
          refine ⟨⟨drive.opened.self, drive.objects, stream.getResourceID, result.world⟩,
            ⟨rfl, rfl, keeps.getResourceID, kept⟩, ?_⟩
          rw [answered, counted, max_eq_left (Int.natCast_nonneg _)]
          rfl

/-- The cut leaves nothing where the request begins at the end or behind it, and else the part
inside the disk. -/
theorem toInt_capAtEnd {length nOfs nSize : U64} (signed : length.toNat < 2 ^ 63)
    (offset : 0 ≤ nOfs.toInt) (size : 0 < nSize.toInt)
    (representable : nOfs.toInt + nSize.toInt < 2 ^ 63) :
    (capAtEnd length nOfs nSize).toInt =
      if length.toNat ≤ nOfs.toNat then (length.toNat : Int) - nOfs.toNat
      else (min nSize.toNat (length.toNat - nOfs.toNat) : Nat) := by
  have offsetNat : nOfs.toInt = nOfs.toNat := by
    have cond := BitVec.toInt_eq_toNat_cond nOfs
    split at cond <;> omega
  have sizeNat : nSize.toInt = nSize.toNat := by
    have cond := BitVec.toInt_eq_toNat_cond nSize
    split at cond <;> omega
  have lengthNat : length.toInt = length.toNat := BitVec.toInt_eq_toNat_of_lt (by omega)
  have endNat : (nOfs + nSize).toNat = nOfs.toNat + nSize.toNat := by bv_omega
  have endInt : (nOfs + nSize).toInt = (nOfs.toNat + nSize.toNat : Nat) := by
    rw [BitVec.toInt_eq_toNat_of_lt (by omega), endNat]
  rw [capAtEnd, endInt, lengthNat]
  split
  · have cut : nSize - ((nOfs + nSize) - length) = length - nOfs := by bv_omega
    rw [cut]
    split
    · have behind : (length - nOfs).toNat = 2 ^ 64 - (nOfs.toNat - length.toNat) ∨
          length.toNat = nOfs.toNat ∧ (length - nOfs).toNat = 0 := by bv_omega
      have cond := BitVec.toInt_eq_toNat_cond (length - nOfs)
      split at cond <;> omega
    · have before : (length - nOfs).toNat = length.toNat - nOfs.toNat := by bv_omega
      rw [BitVec.toInt_eq_toNat_of_lt (by omega), before]
      omega
  · rw [if_neg (by omega), sizeNat]
    omega

private theorem toNat_capAtEnd {length nOfs nSize : U64} (signed : length.toNat < 2 ^ 63)
    (offset : 0 ≤ nOfs.toInt) (size : 0 < nSize.toInt)
    (representable : nOfs.toInt + nSize.toInt < 2 ^ 63) (inside : nOfs.toNat < length.toNat) :
    (capAtEnd length nOfs nSize).toNat = min nSize.toNat (length.toNat - nOfs.toNat) := by
  have cut := toInt_capAtEnd signed offset size representable
  have cond := BitVec.toInt_eq_toNat_cond (capAtEnd length nOfs nSize)
  have bounded := (capAtEnd length nOfs nSize).isLt
  rw [if_neg (by omega)] at cut
  split at cond <;> omega

/-- The desk knows what every handle stands for, and `left` more of them can be given out. -/
structure Related {Ref : Type} (left : Nat) (state : PluginState Ref) (desk : Desk) : Prop where
  counter : state.nextHandle = BitVec.ofNat 32 desk.length
  room : desk.length + left ≤ 2 ^ 32
  handles : ∀ handle : BitVec 32,
    Option.Rel StandsFor (state.handles.find? handle.toInt) (desk.find handle)

namespace Related

variable {Ref : Type} {left : Nat} {state : PluginState Ref} {desk : Desk}

private theorem weaken (related : Related (left + 1) state desk) : Related left state desk :=
  ⟨related.counter, (by have := related.room; omega), related.handles⟩

theorem replace (related : Related (left + 1) state desk) {handle : BitVec 32}
    {stream : HeldStream Ref} {disc : Disc} (found : desk.find handle = some disc)
    (stands : StandsFor stream disc) :
    Related left { state with handles := state.handles.insert handle.toInt stream } desk := by
  refine ⟨related.counter, related.weaken.room, ?_⟩
  intro other
  dsimp only
  rw [OrderedMap.find?_insert]
  by_cases same : other = handle
  · rw [if_pos (congrArg BitVec.toInt same), same, found]
    exact .some stands
  · rw [if_neg (fun equal => same (BitVec.toInt_inj.mp equal))]
    exact related.handles other

theorem work [DecidableEq Ref] (related : Related (left + 1) state desk) {lpImage nOfs nSize : U64}
    (representable : nOfs.toInt + nSize.toInt < 2 ^ 63) (lpBuffer : Option (Nat → UInt8))
    (pFlags : Option (BitVec 8)) :
    ∃ after, state.iioWork lpImage nOfs nSize lpBuffer pFlags =
        some (.ok (desk.work lpImage nOfs nSize lpBuffer pFlags, after)) ∧
      Related left after desk := by
  unfold PluginState.iioWork Desk.work
  cases lpBuffer with
  | none => exact ⟨state, rfl, related.weaken⟩
  | some memory =>
      dsimp only
      by_cases refused : lpImage = 0 ∨ nOfs.toInt < 0 ∨ nSize.toInt ≤ 0
      · rw [if_pos refused, if_pos (by tauto)]
        exact ⟨state, rfl, related.weaken⟩
      by_cases write : pFlags.getD 0 &&& iioWrite = iioWrite
      · rw [if_neg refused, if_pos write, if_pos (by tauto)]
        exact ⟨state, rfl, related.weaken⟩
      rw [if_neg refused, if_neg write, if_neg (by simp only [Option.isNone_some]; tauto)]
      push Not at refused
      obtain ⟨_, offset, size⟩ := refused
      have stands := related.handles (lpImage.setWidth 32)
      generalize lpImage.setWidth 32 = handle at stands ⊢
      cases found : desk.find handle with
      | none =>
          rw [found] at stands
          generalize state.handles.find? handle.toInt = held at stands ⊢
          cases stands
          exact ⟨state, rfl, related.weaken⟩
      | some disc =>
          rw [found] at stands
          generalize state.handles.find? handle.toInt = held at stands ⊢
          cases stands with
          | @some stream _ stands =>
              obtain ⟨drive, keeps, rfl⟩ := stands
              have offsetSmall := BitVec.toInt_eq_toNat_cond nOfs
              have sizeSmall := BitVec.toInt_eq_toNat_cond nSize
              have positions : nOfs.toNat + nSize.toNat < 2 ^ 63 := by
                split at offsetSmall <;> split at sizeSmall <;> omega
              dsimp only
              by_cases checks : pFlags.getD 0 &&& iioCheckForSparse = iioCheckForSparse
              · rw [if_pos checks, keeps.map, keeps.getResourceID]
                have cut := toInt_capAtEnd drive.signed offset size representable
                by_cases behind : drive.opened.self.size.toNat ≤ nOfs.toNat
                · rw [if_pos behind] at cut
                  rw [if_pos (by omega), drive.disc.work_behind behind]
                  exact ⟨state, rfl, related.weaken⟩
                · have cutNat := toNat_capAtEnd drive.signed offset size representable
                    (not_le.mp behind)
                  rw [if_neg behind] at cut
                  have nonzero : min nSize.toNat (drive.disc.image.size - nOfs.toNat) ≠ 0 := by
                    change min nSize.toNat (drive.opened.self.size.toNat - nOfs.toNat) ≠ 0
                    split at sizeSmall <;> omega
                  rw [drive.disc.work_checked checks nonzero, if_neg (by omega), isSparse_eq
                    drive.opened (fun ref => (drive.holds ref).addressed) drive.getResourceID
                    (by omega) (by omega), cut]
                  generalize capAtEnd drive.opened.self.size nOfs nSize = count at *
                  have flags : (sparseness drive.opened drive.getResourceID).read nOfs.toNat
                      count.toNat = drive.disc.sparse.read nOfs.toNat
                        (min nSize.toNat (drive.disc.image.size - nOfs.toNat)) := by
                    rw [cutNat]
                    rfl
                  rw [flags]
                  cases (drive.disc.sparse.read nOfs.toNat
                      (min nSize.toNat (drive.disc.image.size - nOfs.toNat))).all id with
                  | true => exact ⟨state, rfl, related.weaken⟩
                  | false =>
                      obtain ⟨after, kept, reads⟩ := keeps.readStream state handle
                        (show count.toNat < 2 ^ 63 by omega)
                        (show nOfs.toNat + count.toNat < 2 ^ 64 by omega) memory pFlags
                      refine ⟨_, ?_, related.replace found ⟨drive, kept, rfl⟩⟩
                      have same : drive.disc.image.read nOfs.toNat count.toNat =
                          drive.disc.image.read nOfs.toNat nSize.toNat := by
                        rw [cutNat]
                        exact drive.disc.image.read_min nOfs.toNat nSize.toNat
                      dsimp only
                      rw [reads, same]
                      rfl
              · obtain ⟨after, kept, reads⟩ := keeps.readStream state handle
                  (show nSize.toNat < 2 ^ 63 by omega)
                  (show nOfs.toNat + nSize.toNat < 2 ^ 64 by omega) memory pFlags
                refine ⟨_, ?_, related.replace found ⟨drive, kept, rfl⟩⟩
                rw [if_neg checks, drive.disc.work_unchecked _ _ checks, reads]

/-- The number that comes next is not known yet. -/
theorem unknown (related : Related (left + 1) state desk) :
    (BitVec.ofNat 32 desk.length).toNat = desk.length := by
  have room := related.room
  rw [BitVec.toNat_ofNat, Nat.mod_eq_of_lt (by omega)]

private theorem find_append (related : Related (left + 1) state desk) (given : Option Disc)
    (handle : BitVec 32) :
    Desk.find (desk ++ [given]) handle =
      if handle = state.nextHandle then given else desk.find handle := by
  have next := related.unknown
  rw [← related.counter] at next
  unfold Desk.find
  split
  · rename_i same
    rw [same, next, List.getElem?_append_right le_rfl, Nat.sub_self]
    rfl
  · rename_i other
    have apart : handle.toNat ≠ desk.length :=
      fun same => other (BitVec.eq_of_toNat_eq (same.trans next.symm))
    by_cases below : handle.toNat < desk.length
    · rw [List.getElem?_append_left below]
    · rw [List.getElem?_eq_none (show (desk ++ [given]).length ≤ handle.toNat by simp; omega),
        List.getElem?_eq_none (show desk.length ≤ handle.toNat by omega)]

/-- A number that stands for nothing. -/
theorem giveUp (related : Related (left + 1) state desk) :
    Related left { state with nextHandle := state.nextHandle + 1 } (desk ++ [none]) := by
  have room := related.room
  refine ⟨?_, by simp; omega, ?_⟩
  · rw [related.counter, List.length_append]
    apply BitVec.eq_of_toNat_eq
    simp
  · intro handle
    rw [related.find_append]
    have held := related.handles handle
    split
    · rename_i same
      have nothing : desk.find handle = none := by
        rw [Desk.find, same, related.counter, related.unknown, List.getElem?_eq_none le_rfl]
        rfl
      rwa [nothing] at held
    · exact held

theorem register (related : Related (left + 1) state desk) {stream : HeldStream Ref} {disc : Disc}
    (stands : StandsFor stream disc) :
    Related left
      { nextHandle := state.nextHandle + 1
        handles := state.handles.insert state.nextHandle.toInt stream }
      (desk ++ [some disc]) := by
  have room := related.room
  refine ⟨?_, by simp; omega, ?_⟩
  · rw [related.counter, List.length_append]
    apply BitVec.eq_of_toNat_eq
    simp
  · intro handle
    dsimp only
    rw [related.find_append, OrderedMap.find?_insert]
    by_cases same : handle = state.nextHandle
    · rw [if_pos same, if_pos (congrArg BitVec.toInt same)]
      exact .some stands
    · rw [if_neg same, if_neg (fun equal => same (BitVec.toInt_inj.mp equal))]
      exact related.handles handle

theorem done (related : Related (left + 1) state desk) (lpImage : U64) :
    Related left (state.iioDone lpImage).2 (desk.done lpImage) := by
  refine ⟨related.counter.trans (by rw [Desk.done, List.length_set]),
    by rw [Desk.done, List.length_set]; exact related.weaken.room, ?_⟩
  intro handle
  unfold PluginState.iioDone Desk.done Desk.find
  dsimp only
  generalize lpImage.setWidth 32 = closed
  rw [OrderedMap.find?_erase, List.getElem?_set]
  by_cases same : handle = closed
  · rw [if_pos (congrArg BitVec.toInt same), if_pos (congrArg BitVec.toNat same.symm)]
    split <;> exact .none
  · rw [if_neg (fun equal => same (BitVec.toInt_inj.mp equal)),
      if_neg (fun equal => same (BitVec.eq_of_toNat_eq equal.symm))]
    exact related.handles handle

section Init

variable (packageString : Bytes) (toString : RDFValue → Bytes)

theorem init (related : Related (left + 1) state desk) (lpFilePath : Option Bytes) (pImgInfo : Bool)
    (findings : Findings (Drive Ref)) :
    (∃ crash, state.iioInit packageString toString lpFilePath pImgInfo (findings.map Drive.held) =
        .error crash ∧
      desk.init packageString toString lpFilePath pImgInfo (findings.map Drive.disc) =
        .error crash) ∨
    ∃ answer after spec,
      state.iioInit packageString toString lpFilePath pImgInfo (findings.map Drive.held) =
        .ok (answer, after) ∧
      desk.init packageString toString lpFilePath pImgInfo (findings.map Drive.disc) =
        .ok (answer, spec) ∧ Related left after spec := by
  unfold PluginState.iioInit Desk.init
  cases lpFilePath with
  | none => exact .inr ⟨_, _, _, rfl, rfl, related.weaken⟩
  | some file =>
      cases pImgInfo with
      | false => exact .inr ⟨_, _, _, rfl, rfl, related.weaken⟩
      | true =>
          dsimp only
          by_cases empty : file = []
          · rw [if_pos empty, if_pos empty]
            exact .inr ⟨_, _, _, rfl, rfl, related.weaken⟩
          · rw [if_neg empty, if_neg empty, Findings.opening_map, Findings.opening_map,
              ← related.counter]
            cases findings.opening with
            | unopened => exact .inr ⟨_, _, _, rfl, rfl, related.weaken⟩
            | givenUp enoent message => exact .inr ⟨_, _, _, rfl, rfl, related.giveUp⟩
            | opened properties drive =>
                have size : BitVec.ofNat 64 drive.disc.image.size = drive.held.map.size :=
                  (BitVec.ofNat_toNat 64 drive.opened.self.size).trans (BitVec.setWidth_eq _)
                dsimp only [Opening.map]
                rw [size]
                cases imageInfo packageString toString properties drive.held.map.size with
                | error crash => exact .inl ⟨crash, rfl, rfl⟩
                | ok info =>
                    exact .inr ⟨_, _, _, rfl, rfl, related.register ⟨drive, drive.keeps_held, rfl⟩⟩

end Init

end Related

section Session

variable (packageString : Bytes) (toString : RDFValue → Bytes) {Ref : Type} [DecidableEq Ref]

private theorem step_related {call : Call (Drive Ref)} (representable : call.Representable)
    {left : Nat}
    {state : PluginState Ref} {desk : Desk} (related : Related (left + 1) state desk) :
    SameOutcome (Related left)
      (PluginState.step packageString toString (call.map Drive.held) state)
      (Desk.step packageString toString (call.map Drive.disc) desk) := by
  cases call with
  | init lpFilePath pImgInfo findings =>
      unfold PluginState.step Desk.step Call.map
      dsimp only
      rcases related.init packageString toString lpFilePath pImgInfo findings with
        ⟨crash, held, disc⟩ | ⟨answer, after, spec, held, disc, kept⟩
      · rw [held, disc]
        exact .fault crash
      · rw [held, disc]
        exact .answer _ kept
  | work lpImage nOfs nSize lpBuffer pFlags =>
      unfold PluginState.step Desk.step Call.map
      dsimp only
      obtain ⟨after, worked, kept⟩ := related.work representable lpBuffer pFlags
      rw [worked]
      exact .answer _ kept
  | done lpImage => exact .answer _ (related.done lpImage)

/-- In whatever order a user opens images, reads them and closes them, the plugin answers like
the desk: a handle reads its image and nothing else, until it is closed. -/
theorem plugin_session (calls : List (Call (Drive Ref))) (few : calls.length < 2 ^ 32)
    (representable : ∀ call ∈ calls, call.Representable) :
    session (fun call => PluginState.step packageString toString (call.map Drive.held)) calls
        .initial =
      session (fun call => Desk.step packageString toString (call.map Drive.disc)) calls
        .initial := by
  refine session_eq Related (fun call left state desk allowed =>
    step_related packageString toString allowed) representable ⟨rfl, ?_, ?_⟩
  · change 1 + calls.length ≤ 2 ^ 32
    omega
  · intro handle
    have nothing : Desk.initial.find handle = none := by
      unfold Desk.find Desk.initial
      cases handle.toNat <;> rfl
    rw [nothing]
    exact .none

end Session

def smallDrive : Drive Bytes where
  objects := namedObject
  content := namedContent
  good := namedGood
  holds := namedObject_holds
  getResourceID := zeroNames
  opened := smallMap
  signed := by decide

/-- Opens the small image and an empty container, and reads both and a closed image. -/
def smallSession : List (Call (Drive Bytes)) := [
  .init (some (text "small.aff4")) true
    ⟨some [some ⟨.empty, some (some smallDrive)⟩], true, text "aff4://small", true⟩,
  .init (some (text "empty.aff4")) true ⟨some [], true, text "aff4://empty", true⟩,
  .work 1 8 4 (some fun _ => 0) (some iioCheckForSparse),
  .work 1 12 100 (some fun _ => 0) (some iioCheckForSparse),
  .work 2 0 4 (some fun _ => 0) none,
  .done 1,
  .work 1 8 4 (some fun _ => 0) none]

theorem plugin_session_small :
    session (fun call => PluginState.step (text "aff4 2.0.6") RDFValue.valueLiteral
        (call.map Drive.held)) smallSession .initial =
      session (fun call => Desk.step (text "aff4 2.0.6") RDFValue.valueLiteral
        (call.map Drive.disc)) smallSession .initial := by
  refine plugin_session _ _ smallSession (by decide) ?_
  unfold smallSession
  simp only [List.forall_mem_cons, Call.Representable]
  exact ⟨trivial, trivial, by decide, by decide, by decide, trivial, by decide,
    List.forall_mem_nil _⟩

end Aff4Lite.XWays
