import Aff4Lite.CApi.Aff4C
import Aff4Lite.Containers.DescriptorsProperties

/-!
# Handles

What a handle is for: a stream over the files that it was opened with. Every answer of the
interface is the one that this stream alone would give, whatever the other handles do.
-/

set_option autoImplicit false

namespace Aff4Lite.CApi

open Lib Rdf Zip Containers Aff4Lite.Stream

/-! ## A handle by itself -/

/-- A stream with the files of its archives. -/
structure Session (Stream : Type) where
  stream : Stream
  files : List File

section Sessions

variable {Stream : Type} (code : StreamCode Stream)

namespace Session

def access (session : Session Stream) (volume : Nat) (count offset : U64) : ReadResult :=
  match session.files[volume]? with
  | some file => Zip.fileRead file count offset
  | none => .failed

/-- A call on a handle that stands for `session`, or for nothing. -/
def request (session : Option (Session Stream)) :
    Request → Answer × Option (Session Stream)
  | .objectSize =>
      match session with
      | some held => (⟨(code.size held.stream).toInt, none, []⟩, session)
      | none => (.failed .ebadf, none)
  | .objectBlocksize =>
      match session with
      | some held => (ApiState.blocksizeOf (code.blocksize held.stream), session)
      | none => (.failed .ebadf, none)
  | .read offset buffer length =>
      if !buffer then (.failed .efault, session)
      else if length.toInt ≤ 0 then (.failed .einval, session)
      else
        match session with
        | some held =>
            if offset > code.size held.stream then (.failed .einval, session)
            else
              let (read, stream) :=
                code.read held.stream held.access (length.signExtend 64) offset
              (ApiState.readAnswer read, some { held with stream := stream })
        | none => (.failed .ebadf, none)
  | .close =>
      match session with
      | some _ => (⟨0, none, []⟩, none)
      | none => (.failed .ebadf, none)

end Session

/-- The stream of the file that is opened. -/
def Findings.session (findings : Findings Stream) : Option (Session Stream) := do
  let archive ← findings.container
  let image ← findings.images.head?.join
  let map ← image.map
  let opened ← map.stream
  return ⟨opened.stream, archive.file :: opened.external.map (·.file)⟩

/-! ## Histories -/

/-- The handle that a successful `AFF4_open` returns. -/
def Moment.issued? (moment : Moment Stream) : Option Int :=
  match moment.call with
  | .openFile _ _ => if moment.answer.res = -1 then none else some moment.answer.res
  | .on _ _ => none

/-- The handle that a successful `AFF4_close` was given. -/
def Moment.closed? (moment : Moment Stream) : Option Int :=
  match moment.call with
  | .on handle .close => if moment.answer.res = 0 then some handle else none
  | _ => none

def issued (past : List (Moment Stream)) : List Int := past.filterMap Moment.issued?

def closed (past : List (Moment Stream)) : List Int := past.filterMap Moment.closed?

/-- What the calls that are about `handle` make of it. -/
def follow (handle : Int) (current : Option (Session Stream)) (moment : Moment Stream) :
    Option (Session Stream) :=
  match moment.call with
  | .openFile _ findings =>
      if moment.issued? = some handle then findings.session else current
  | .on other request =>
      if other = handle then (Session.request code current request).2 else current

def sessionOf (handle : Int) (past : List (Moment Stream)) : Option (Session Stream) :=
  past.foldl (follow code handle) none

/-- What holds of a call after `past`. -/
structure Orderly (past : List (Moment Stream)) (moment : Moment Stream) : Prop where
  live : ∀ handle, moment.after.handles.HasKey handle ↔
    handle ∈ issued (past ++ [moment]) ∧ handle ∉ closed (past ++ [moment])
  known : ∀ handle, moment.before.handles.HasKey handle ↔ (sessionOf code handle past).isSome
  acts : ∀ handle request, moment.call = .on handle request →
    moment.answer = (Session.request code (sessionOf code handle past) request).1
  other : ∀ handle request, moment.call = .on handle request →
    ¬moment.before.handles.HasKey handle → moment.answer.res = -1
  failing : moment.answer.res = -1 → moment.after.handles = moment.before.handles

end Sessions

/-! ## Archives -/

/-- The archive with the number is open, on the file. -/
def Stands (zips : List ZipObject) (number : Nat) (file : File) : Prop :=
  ∃ zip opened, zips[number]? = some zip ∧ zip.closed = false ∧ zip.opened = some opened ∧
    opened.file = file

private theorem Stands.lt {zips : List ZipObject} {number : Nat} {file : File}
    (stands : Stands zips number file) : number < zips.length := by
  obtain ⟨zip, _, found, _⟩ := stands
  exact (List.getElem?_eq_some_iff.mp found).1

section Archives

variable {system : System} {number : Nat} {file : File}

theorem Stands.openArchive (stands : Stands system.zips number file) (archive : Archive) :
    Stands (openArchive system archive).zips number file := by
  obtain ⟨zip, opened, found, rest⟩ := stands
  exact ⟨zip, opened, getElem?_append_some found, rest⟩

private theorem stands_opened (system : System) (archive : Archive) :
    Stands (openArchive system archive).zips system.zips.length archive.file :=
  ⟨_, _, List.getElem?_concat_length, rfl, rfl, rfl⟩

theorem Stands.closeVolume (stands : Stands system.zips number file) {volume : Nat}
    (other : number ≠ volume) : Stands (closeVolume system volume).zips number file := by
  obtain ⟨zip, opened, found, rest⟩ := stands
  refine ⟨zip, opened, ?_, rest⟩
  unfold CApi.closeVolume
  cases system.zips[volume]? with
  | none => exact found
  | some old =>
      show (system.zips.set volume old.close)[number]? = some zip
      rw [List.getElem?_set, if_neg (Ne.symm other), found]

private theorem openArchive_consistent (consistent : Consistent system) (archive : Archive) :
    Consistent (openArchive system archive) :=
  (openZip_consistent consistent archive.file archive.entries).1

private theorem closeVolume_consistent (consistent : Consistent system) (volume : Nat) :
    Consistent (closeVolume system volume) := by
  unfold closeVolume
  cases found : system.zips[volume]? with
  | none => exact consistent
  | some zip => exact (closeZip_consistent consistent found).1

/-- The archives of a closed handle go, and no other one does. -/
theorem closeVolumes_consistent (consistent : Consistent system) (volumes : List Nat) :
    Consistent (volumes.foldl closeVolume system) ∧
      ∀ number file, number ∉ volumes → Stands system.zips number file →
        Stands (volumes.foldl closeVolume system).zips number file := by
  induction volumes generalizing system with
  | nil => exact ⟨consistent, fun _ _ _ stands => stands⟩
  | cons volume volumes ih =>
      obtain ⟨after, kept⟩ := ih (closeVolume_consistent consistent volume)
      refine ⟨after, fun number file elsewhere stands => ?_⟩
      rw [List.mem_cons, not_or] at elsewhere
      exact kept number file elsewhere.2 (stands.closeVolume elsewhere.1)

private theorem openArchives_consistent (consistent : Consistent system) (archives : List Archive) :
    Consistent (archives.foldl openArchive system) ∧
      (∀ number file, Stands system.zips number file →
        Stands (archives.foldl openArchive system).zips number file) ∧
      List.Forall₂ (Stands (archives.foldl openArchive system).zips)
        (List.range' system.zips.length archives.length) (archives.map (·.file)) := by
  induction archives generalizing system with
  | nil => exact ⟨consistent, fun _ _ stands => stands, .nil⟩
  | cons archive archives ih =>
      obtain ⟨after, kept, opened⟩ :=
        ih (openArchive_consistent consistent archive)
      refine ⟨after, fun number file stands => kept number file (stands.openArchive archive), ?_⟩
      refine .cons (kept _ _ (stands_opened system archive)) ?_
      have length : (openArchive system archive).zips.length = system.zips.length + 1 := by
        simp [openArchive, System.openZip]
      rw [← length]
      exact opened

end Archives

/-! ## States -/

section States

variable {Stream : Type} {code : StreamCode Stream} {state : ApiState Stream}

/-- The handle holds the stream of the session, and its archives are open on the files. -/
inductive Matches (state : ApiState Stream) (handle : Int) : Option (Session Stream) → Prop where
  | unknown : state.find handle = none → Matches state handle none
  | known {number : Nat} {object : StreamObject Stream} {files : List File} :
      state.find handle = some (number, object) →
      List.Forall₂ (Stands state.system.zips) object.volumes files →
      Matches state handle (some ⟨object.stream, files⟩)

/-- What holds of the state after `past`. -/
structure Sound (code : StreamCode Stream) (past : List (Moment Stream))
    (state : ApiState Stream) : Prop where
  consistent : Consistent state.system
  next : state.nextHandle.toNat = (issued past).length + 1
  range : ∀ handle ∈ issued past, 1 ≤ handle ∧ handle ≤ (issued past).length
  nodup : (issued past).Nodup
  opened : ∀ handle ∈ closed past, handle ∈ issued past
  live : ∀ handle, state.handles.HasKey handle ↔
    handle ∈ issued past ∧ handle ∉ closed past
  numbered : ∀ handle number, state.handles.find? handle = some number →
    number < state.objects.length
  sessions : ∀ handle, Matches state handle (sessionOf code handle past)
  apart : ∀ left right, left ≠ right → ∀ number object other another,
    state.find left = some (number, object) → state.find right = some (other, another) →
      number ≠ other ∧ ∀ volume ∈ object.volumes, volume ∉ another.volumes

private theorem init_sound (code : StreamCode Stream) (process : Process) (opens : Nat) :
    Sound code [] (aff4Init (.initial process opens)) where
  consistent := initial_consistent process opens
  next := rfl
  range handle member := by cases member
  nodup := .nil
  opened handle member := by cases member
  live handle := by
    constructor
    · rintro ⟨number, member⟩
      cases member
    · rintro ⟨member, _⟩
      cases member
  numbered handle number found := by cases found
  sessions handle := .unknown rfl
  apart left right _ number object other another found := by cases found

private theorem find_eq_some {handle : Int} {number : Nat} {object : StreamObject Stream} :
    state.find handle = some (number, object) ↔
      state.handles.find? handle = some number ∧ state.objects[number]? = some object := by
  unfold ApiState.find
  cases state.handles.find? handle with
  | none => simp
  | some held =>
      cases found : state.objects[held]? with
      | none =>
          constructor
          · intro impossible
            simp [found] at impossible
          · rintro ⟨⟨⟩, present⟩
            cases found.symm.trans present
      | some object =>
          constructor
          · intro same
            simp only [found, Option.bind_eq_bind, Option.bind_some, Option.pure_def,
              Option.some.injEq, Prod.mk.injEq] at same
            obtain ⟨rfl, rfl⟩ := same
            exact ⟨rfl, found⟩
          · rintro ⟨⟨⟩, present⟩
            cases found.symm.trans present
            simp [found]

private theorem hasKey_iff {handle : Int} :
    state.handles.HasKey handle ↔ ∃ number, state.handles.find? handle = some number := by
  simp only [OrderedMap.HasKey, OrderedMap.find?_eq_some_iff]

private theorem Sound.find_iff {past : List (Moment Stream)} (sound : Sound code past state)
    (handle : Int) : state.handles.HasKey handle ↔ ∃ found, state.find handle = some found := by
  rw [hasKey_iff]
  constructor
  · rintro ⟨number, held⟩
    have inside := sound.numbered handle number held
    exact ⟨(number, state.objects[number]),
      find_eq_some.mpr ⟨held, List.getElem?_eq_getElem inside⟩⟩
  · rintro ⟨⟨number, object⟩, found⟩
    exact ⟨number, (find_eq_some.mp found).1⟩

theorem Sound.known {past : List (Moment Stream)} (sound : Sound code past state)
    (handle : Int) : state.handles.HasKey handle ↔ (sessionOf code handle past).isSome := by
  rw [sound.find_iff handle]
  have matched := sound.sessions handle
  generalize sessionOf code handle past = session at matched ⊢
  cases matched with
  | unknown missing => simp [missing]
  | known found _ => simp [found]

/-! ## Histories -/

variable {past : List (Moment Stream)} {moment : Moment Stream}

private theorem issued_append (past : List (Moment Stream)) (moment : Moment Stream) :
    issued (past ++ [moment]) = issued past ++ moment.issued?.toList := by
  cases given : moment.issued? <;> simp [issued, given]

private theorem closed_append (past : List (Moment Stream)) (moment : Moment Stream) :
    closed (past ++ [moment]) = closed past ++ moment.closed?.toList := by
  cases given : moment.closed? <;> simp [closed, given]

private theorem sessionOf_append (handle : Int) (past : List (Moment Stream))
    (moment : Moment Stream) :
    sessionOf code handle (past ++ [moment]) =
      follow code handle (sessionOf code handle past) moment := by
  simp [sessionOf]

private theorem follow_request (state : ApiState Stream) (handle other : Int) (request : Request)
    (session : Option (Session Stream)) :
    follow code other session (state.moment code (.on handle request)) =
      if other = handle then (Session.request code session request).2 else session := by
  by_cases same : other = handle
  · rw [if_pos same]
    exact if_pos same.symm
  · rw [if_neg same]
    exact if_neg (Ne.symm same)

/-- The archives of a handle read as its files alone would. -/
theorem access_alone (consistent : Consistent state.system) {object : StreamObject Stream}
    {files : List File} (stands : List.Forall₂ (Stands state.system.zips) object.volumes files) :
    state.access object = Session.access ⟨object.stream, files⟩ := by
  funext volume count offset
  have length := stands.length_eq
  unfold ApiState.access Session.access
  by_cases inside : volume < object.volumes.length
  · have place := (List.forall₂_iff_get.mp stands).2 volume inside (by omega)
    obtain ⟨zip, opened, found, isOpen, own, file⟩ := place
    obtain ⟨again, sameOpened, reads⟩ := consistent.reads_alone found isOpen
    cases own.symm.trans sameOpened
    rw [List.getElem?_eq_getElem inside,
      List.getElem?_eq_getElem (by omega : volume < files.length)]
    rw [List.get_eq_getElem] at found file
    simp only [Option.bind_some, found, reads, file]
  · rw [List.getElem?_eq_none (by omega), List.getElem?_eq_none (by dsimp only; omega)]
    rfl

private theorem stands_kept {zips later : List ZipObject} {volumes : List Nat} {files : List File}
    (stands : List.Forall₂ (Stands zips) volumes files)
    (kept : ∀ volume ∈ volumes, ∀ file, Stands zips volume file → Stands later volume file) :
    List.Forall₂ (Stands later) volumes files := by
  induction stands with
  | nil => exact .nil
  | cons first _ ih =>
      exact .cons (kept _ List.mem_cons_self _ first)
        (ih fun volume member => kept volume (List.mem_cons_of_mem _ member))

private theorem stands_mem {zips : List ZipObject} {volumes : List Nat} {files : List File}
    (stands : List.Forall₂ (Stands zips) volumes files) {volume : Nat} (member : volume ∈ volumes) :
    ∃ file ∈ files, Stands zips volume file := by
  induction stands with
  | nil => cases member
  | cons first _ ih =>
      rcases List.mem_cons.mp member with rfl | later
      · exact ⟨_, List.mem_cons_self, first⟩
      · obtain ⟨file, inside, standing⟩ := ih later
        exact ⟨file, List.mem_cons_of_mem _ inside, standing⟩

private theorem find_congr {after : ApiState Stream} (objects : after.objects = state.objects)
    (handles : after.handles = state.handles) (handle : Int) :
    after.find handle = state.find handle := by
  unfold ApiState.find
  rw [objects, handles]

theorem Matches.kept {after : ApiState Stream} {handle : Int} {session : Option (Session Stream)}
    (matched : Matches state handle session) (same : after.find handle = state.find handle)
    (kept : ∀ number object, state.find handle = some (number, object) →
      ∀ volume ∈ object.volumes, ∀ file, Stands state.system.zips volume file →
        Stands after.system.zips volume file) : Matches after handle session := by
  cases matched with
  | unknown missing => exact .unknown (same.trans missing)
  | known found stands =>
      exact .known (same.trans found) (stands_kept stands (kept _ _ found))

/-- Streams with the numbers and the archives of older ones are apart as these are. -/
theorem Sound.apart_of_older (sound : Sound code past state) {after : ApiState Stream}
    (older : ∀ handle number object, after.find handle = some (number, object) →
      ∃ before, state.find handle = some (number, before) ∧ before.volumes = object.volumes)
    (left right : Int) (different : left ≠ right) (number : Nat) (object : StreamObject Stream)
    (other : Nat) (another : StreamObject Stream)
    (first : after.find left = some (number, object))
    (second : after.find right = some (other, another)) :
    number ≠ other ∧ ∀ volume ∈ object.volumes, volume ∉ another.volumes := by
  obtain ⟨one, foundOne, sameOne⟩ := older left number object first
  obtain ⟨two, foundTwo, sameTwo⟩ := older right other another second
  rw [← sameOne, ← sameTwo]
  exact sound.apart left right different number one other two foundOne foundTwo

/-- A call that no handle comes or goes with. -/
theorem Sound.sameHandles (sound : Sound code past state) {after : ApiState Stream}
    (notIssued : moment.issued? = none) (notClosed : moment.closed? = none)
    (consistent : Consistent after.system) (next : after.nextHandle = state.nextHandle)
    (handles : after.handles = state.handles)
    (objects : after.objects.length = state.objects.length)
    (sessions : ∀ handle, Matches after handle
      (follow code handle (sessionOf code handle past) moment))
    (older : ∀ handle number object, after.find handle = some (number, object) →
      ∃ before, state.find handle = some (number, before) ∧ before.volumes = object.volumes) :
    Sound code (past ++ [moment]) after := by
  have sameIssued : issued (past ++ [moment]) = issued past := by
    simp [issued_append, notIssued]
  have sameClosed : closed (past ++ [moment]) = closed past := by
    simp [closed_append, notClosed]
  constructor
  · exact consistent
  · rw [next, sameIssued]
    exact sound.next
  · rw [sameIssued]
    exact sound.range
  · rw [sameIssued]
    exact sound.nodup
  · rw [sameIssued, sameClosed]
    exact sound.opened
  · rw [sameIssued, sameClosed, handles]
    exact sound.live
  · rw [handles, objects]
    exact sound.numbered
  · intro handle
    rw [sessionOf_append]
    exact sessions handle
  · exact sound.apart_of_older older

/-- A call that leaves the table and the streams as they are. -/
theorem Sound.carry (sound : Sound code past state) {after : ApiState Stream}
    (notIssued : moment.issued? = none) (notClosed : moment.closed? = none)
    (unchanged : ∀ handle, follow code handle (sessionOf code handle past) moment =
      sessionOf code handle past)
    (consistent : Consistent after.system)
    (kept : ∀ number file, Stands state.system.zips number file →
      Stands after.system.zips number file)
    (objects : after.objects = state.objects) (next : after.nextHandle = state.nextHandle)
    (handles : after.handles = state.handles) : Sound code (past ++ [moment]) after := by
  have same := find_congr objects handles
  refine sound.sameHandles notIssued notClosed consistent next handles
    (congrArg List.length objects) ?_ ?_
  · intro handle
    rw [unchanged handle]
    exact (sound.sessions handle).kept (same handle) fun _ _ _ volume _ => kept volume
  · intro handle number object found
    exact ⟨object, (same handle).symm.trans found, rfl⟩

/-! ## Opening -/

/-- `AFF4_open` does nothing, or drops the container that it has opened, or comes to its end. -/
theorem aff4Open_cases (state : ApiState Stream) (filename : Option Bytes)
    (findings : Findings Stream) :
    state.aff4Open filename findings = (.failed .enoent, state) ∨
      (∃ archive, state.aff4Open filename findings =
        ({ state with system := openArchive state.system archive } : ApiState Stream).refuse
          state.system.zips.length) ∨
      ∃ archive opened, findings.session =
          some ⟨opened.stream, archive.file :: opened.external.map (·.file)⟩ ∧
        state.aff4Open filename findings =
          ({ state with system := openArchive state.system archive } : ApiState Stream).register
            state.system.zips.length opened := by
  obtain ⟨container, resolver, images⟩ := findings
  cases filename with
  | none => exact .inl rfl
  | some file =>
      unfold ApiState.aff4Open
      by_cases empty : file = []
      · exact .inl (if_pos empty)
      · simp only [if_neg empty]
        cases container with
        | none => exact .inl rfl
        | some archive =>
            refine .inr ?_
            cases resolver with
            | false => exact .inl ⟨archive, rfl⟩
            | true =>
                rcases images with _ | ⟨_ | ⟨_ | ⟨_ | opened⟩⟩, rest⟩
                · exact .inl ⟨archive, rfl⟩
                · exact .inl ⟨archive, rfl⟩
                · exact .inl ⟨archive, rfl⟩
                · exact .inl ⟨archive, rfl⟩
                · exact .inr ⟨archive, opened, rfl, rfl⟩

/-- The container of a failing `AFF4_open` is closed again. -/
theorem refuse_kept (consistent : Consistent state.system) (archive : Archive) :
    Consistent (closeVolume (openArchive state.system archive) state.system.zips.length) ∧
      ∀ number file, Stands state.system.zips number file →
        Stands (closeVolume (openArchive state.system archive) state.system.zips.length).zips
          number file := by
  have opened := openArchive_consistent consistent archive
  refine ⟨closeVolume_consistent opened _, fun number file stands => ?_⟩
  exact (stands.openArchive archive).closeVolume (Nat.ne_of_lt stands.lt)

private theorem Sound.next_handle (sound : Sound code past state)
    (few : (issued past).length < 2 ^ 31 - 1) :
    state.nextHandle.toInt = (issued past).length + 1 := by
  have next := sound.next
  rw [BitVec.toInt_eq_toNat_of_lt (by omega), next]
  push_cast
  rfl

private theorem Sound.find_insert (sound : Sound code past state) {after : ApiState Stream}
    {added : Int}
    {object : StreamObject Stream} (objects : after.objects = state.objects ++ [object])
    (handles : after.handles = state.handles.insert added state.objects.length) (handle : Int) :
    after.find handle =
      if handle = added then some (state.objects.length, object) else state.find handle := by
  unfold ApiState.find
  rw [objects, handles, OrderedMap.find?_insert]
  by_cases same : handle = added
  · simp [same]
  · rw [if_neg same, if_neg same]
    cases held : state.handles.find? handle with
    | none => rfl
    | some number =>
        have inside := sound.numbered handle number held
        simp only [Option.bind_eq_bind, Option.bind_some, List.getElem?_append_left inside]

theorem Sound.older (sound : Sound code past state) {handle : Int} {number : Nat}
    {object : StreamObject Stream} (held : state.find handle = some (number, object)) :
    number < state.objects.length ∧ ∀ volume ∈ object.volumes,
      volume < state.system.zips.length := by
  refine ⟨sound.numbered handle number (find_eq_some.mp held).1, fun volume member => ?_⟩
  have matched := sound.sessions handle
  generalize sessionOf code handle past = session at matched
  cases matched with
  | unknown missing => cases held.symm.trans missing
  | known again stands =>
      cases held.symm.trans again
      obtain ⟨file, _, standing⟩ := stands_mem stands member
      exact standing.lt

/-- A new entry, under the next number. -/
theorem Sound.insert (sound : Sound code past state) (few : (issued past).length < 2 ^ 31 - 1)
    {after : ApiState Stream} {object : StreamObject Stream} {files : List File}
    (objects : after.objects = state.objects ++ [object])
    (next : after.nextHandle = state.nextHandle + 1)
    (handles : after.handles =
      state.handles.insert state.nextHandle.toInt state.objects.length)
    (returned : moment.issued? = some state.nextHandle.toInt) (notClosed : moment.closed? = none)
    (followed : ∀ handle, follow code handle (sessionOf code handle past) moment =
      if handle = state.nextHandle.toInt then some ⟨object.stream, files⟩
      else sessionOf code handle past)
    (consistent : Consistent after.system)
    (kept : ∀ number file, Stands state.system.zips number file →
      Stands after.system.zips number file)
    (stands : List.Forall₂ (Stands after.system.zips) object.volumes files)
    (newer : ∀ volume ∈ object.volumes, state.system.zips.length ≤ volume) :
    Sound code (past ++ [moment]) after := by
  have handle := sound.next_handle few
  have fresh : state.nextHandle.toInt ∉ issued past := by
    intro member
    have range := sound.range _ member
    omega
  have sameIssued : issued (past ++ [moment]) = issued past ++ [state.nextHandle.toInt] := by
    simp [issued_append, returned]
  have sameClosed : closed (past ++ [moment]) = closed past := by
    simp [closed_append, notClosed]
  have found := sound.find_insert objects handles
  constructor
  · exact consistent
  · have before := sound.next
    rw [sameIssued, List.length_append, List.length_singleton, next]
    bv_omega
  · rw [sameIssued]
    intro other member
    rw [List.length_append, List.length_singleton]
    rcases List.mem_append.mp member with old | added
    · have range := sound.range other old
      omega
    · rw [List.mem_singleton.mp added, handle]
      omega
  · rw [sameIssued]
    exact sound.nodup.append (List.nodup_singleton _) (by simpa using fresh)
  · rw [sameIssued, sameClosed]
    exact fun other member => List.mem_append_left _ (sound.opened other member)
  · intro other
    rw [sameIssued, sameClosed, handles, OrderedMap.hasKey_insert, sound.live other,
      List.mem_append, List.mem_singleton]
    constructor
    · rintro (rfl | ⟨old, isOpen⟩)
      · exact ⟨.inr rfl, fun member => fresh (sound.opened _ member)⟩
      · exact ⟨.inl old, isOpen⟩
    · rintro ⟨old | rfl, isOpen⟩
      · exact .inr ⟨old, isOpen⟩
      · exact .inl rfl
  · intro other number held
    rw [objects, List.length_append, List.length_singleton]
    rw [handles, OrderedMap.find?_insert] at held
    split at held
    · cases held
      exact Nat.lt_succ_self _
    · exact Nat.lt_succ_of_lt (sound.numbered other number held)
  · intro other
    rw [sessionOf_append, followed]
    by_cases same : other = state.nextHandle.toInt
    · rw [if_pos same]
      exact .known ((found other).trans (if_pos same)) stands
    · rw [if_neg same]
      exact (sound.sessions other).kept ((found other).trans (if_neg same))
        fun _ _ _ volume _ => kept volume
  · intro left right different number object other another first second
    rw [found] at first second
    by_cases isLeft : left = state.nextHandle.toInt
    · rw [if_neg (fun isRight => different (isLeft.trans isRight.symm))] at second
      rw [if_pos isLeft] at first
      cases first
      obtain ⟨below, volumes⟩ := sound.older second
      refine ⟨Nat.ne_of_gt below, fun volume member shared => ?_⟩
      exact absurd (volumes volume shared) (Nat.not_lt.mpr (newer volume member))
    · rw [if_neg isLeft] at first
      by_cases isRight : right = state.nextHandle.toInt
      · rw [if_pos isRight] at second
        cases second
        obtain ⟨below, volumes⟩ := sound.older first
        refine ⟨Nat.ne_of_lt below, fun volume member shared => ?_⟩
        exact absurd (volumes volume member) (Nat.not_lt.mpr (newer volume shared))
      · rw [if_neg isRight] at second
        exact sound.apart left right different number object other another first second

theorem Sound.open (sound : Sound code past state) (few : (issued past).length < 2 ^ 31 - 1)
    (filename : Option Bytes) (findings : Findings Stream) :
    Sound code (past ++ [state.moment code (.openFile filename findings)])
        (state.aff4Open filename findings).2 ∧
      ((state.aff4Open filename findings).1.res = -1 →
        (state.aff4Open filename findings).2.handles = state.handles) := by
  have refused (after : ApiState Stream)
      (failed : state.aff4Open filename findings = (.failed .enoent, after))
      (consistent : Consistent after.system)
      (kept : ∀ number file, Stands state.system.zips number file →
        Stands after.system.zips number file)
      (objects : after.objects = state.objects) (next : after.nextHandle = state.nextHandle)
      (handles : after.handles = state.handles) :
      Sound code (past ++ [state.moment code (.openFile filename findings)]) after := by
    have notIssued : (state.moment code (.openFile filename findings)).issued? = none := by
      simp [Moment.issued?, ApiState.moment, ApiState.step, failed, Answer.failed]
    refine sound.carry notIssued rfl ?_ consistent kept objects next handles
    intro handle
    unfold follow
    rw [notIssued]
    rfl
  rcases aff4Open_cases state filename findings with failed | ⟨archive, failed⟩ |
    ⟨archive, opened, session, made⟩
  · rw [failed]
    exact ⟨refused state failed sound.consistent (fun _ _ stands => stands) rfl rfl rfl,
      fun _ => rfl⟩
  · obtain ⟨consistent, kept⟩ := refuse_kept sound.consistent archive
    rw [failed]
    exact ⟨refused _ failed consistent kept rfl rfl rfl, fun _ => rfl⟩
  · have handle := sound.next_handle few
    have returned : (state.moment code (.openFile filename findings)).issued? =
        some state.nextHandle.toInt := by
      simp only [Moment.issued?, ApiState.moment, ApiState.step, made, ApiState.register]
      exact if_neg (by omega)
    obtain ⟨consistent, kept, external⟩ := openArchives_consistent
      (openArchive_consistent sound.consistent archive) opened.external
    rw [made]
    have followed : ∀ other, follow code other (sessionOf code other past)
        (state.moment code (.openFile filename findings)) =
          if other = state.nextHandle.toInt then
            some ⟨opened.stream, archive.file :: opened.external.map (·.file)⟩
          else sessionOf code other past := by
      intro other
      unfold follow
      rw [returned]
      by_cases same : other = state.nextHandle.toInt
      · rw [if_pos same]
        exact (if_pos (congrArg some same.symm)).trans session
      · rw [if_neg same]
        exact if_neg fun equal => same (Option.some.inj equal).symm
    refine ⟨sound.insert few rfl rfl rfl returned rfl followed consistent ?_ ?_ ?_, ?_⟩
    · exact fun number file stands => kept number file (stands.openArchive archive)
    · exact .cons (kept _ _ (stands_opened state.system archive)) external
    · intro volume member
      have length : (openArchive state.system archive).zips.length =
          state.system.zips.length + 1 := by
        simp [openArchive, System.openZip]
      rcases List.mem_cons.mp member with rfl | later
      · exact Nat.le_refl _
      · have bounds : (openArchive state.system archive).zips.length ≤ volume ∧ _ :=
          List.mem_range'_1.mp later
        omega
    · intro impossible
      have positive : state.nextHandle.toInt = -1 := impossible
      omega

/-! ## Requests -/

/-- It answers as the session would, and keeps the order. -/
structure Answers (code : StreamCode Stream) (past : List (Moment Stream))
    (state : ApiState Stream) (handle : Int) (request : Request) : Prop where
  sound : Sound code (past ++ [state.moment code (.on handle request)])
    (state.request code handle request).2
  acts : (state.request code handle request).1 =
    (Session.request code (sessionOf code handle past) request).1
  failing : (state.request code handle request).1.res = -1 →
    (state.request code handle request).2.handles = state.handles

theorem Sound.unchanged (sound : Sound code past state) {handle : Int} {request : Request}
    (answer : Answer) (same : state.request code handle request = (answer, state))
    (acts : Session.request code (sessionOf code handle past) request =
      (answer, sessionOf code handle past))
    (notClosed : (state.moment code (.on handle request)).closed? = none) :
    Answers code past state handle request := by
  refine ⟨?_, ?_, ?_⟩
  · rw [same]
    refine sound.carry rfl notClosed ?_ sound.consistent (fun _ _ stands => stands) rfl rfl rfl
    intro other
    rw [follow_request]
    by_cases same : other = handle
    · rw [if_pos same, same, acts]
    · rw [if_neg same]
  · rw [same, acts]
  · rw [same]
    exact fun _ => rfl

theorem Sound.objectSize (sound : Sound code past state) (handle : Int) :
    Answers code past state handle .objectSize := by
  have matched := sound.sessions handle
  generalize given : sessionOf code handle past = session at matched
  cases matched with
  | unknown missing =>
      refine sound.unchanged (.failed .ebadf) ?_ ?_ rfl
      · simp only [ApiState.request, ApiState.aff4ObjectSize, missing]
      · rw [given]
        rfl
  | @known number object files found stands =>
      refine sound.unchanged ⟨(code.size object.stream).toInt, none, []⟩ ?_ ?_ rfl
      · simp only [ApiState.request, ApiState.aff4ObjectSize, found]
      · rw [given]
        rfl

theorem Sound.objectBlocksize (sound : Sound code past state) (handle : Int) :
    Answers code past state handle .objectBlocksize := by
  have matched := sound.sessions handle
  generalize given : sessionOf code handle past = session at matched
  cases matched with
  | unknown missing =>
      refine sound.unchanged (.failed .ebadf) ?_ ?_ rfl
      · simp only [ApiState.request, ApiState.aff4ObjectBlocksize, missing]
      · rw [given]
        rfl
  | @known number object files found stands =>
      refine sound.unchanged (ApiState.blocksizeOf (code.blocksize object.stream)) ?_ ?_ rfl
      · simp only [ApiState.request, ApiState.aff4ObjectBlocksize, found]
      · rw [given]
        rfl

/-- Only the handle itself leads to its stream. -/
theorem Sound.find_set (sound : Sound code past state) {handle : Int} {number : Nat}
    {object : StreamObject Stream} (found : state.find handle = some (number, object))
    (replaced : StreamObject Stream) (other : Int) :
    ({ state with objects := state.objects.set number replaced } : ApiState Stream).find other =
      if other = handle then some (number, replaced) else state.find other := by
  obtain ⟨held, present⟩ := find_eq_some.mp found
  by_cases same : other = handle
  · rw [if_pos same, same]
    refine find_eq_some.mpr ⟨held, ?_⟩
    have inside := (List.getElem?_eq_some_iff.mp present).1
    rw [List.getElem?_set, if_pos rfl, if_pos inside]
  · rw [if_neg same]
    cases before : state.find other with
    | some entry =>
        obtain ⟨place, another⟩ := entry
        have different := (sound.apart other handle same place another number object before found).1
        obtain ⟨heldOther, presentOther⟩ := find_eq_some.mp before
        refine find_eq_some.mpr ⟨heldOther, ?_⟩
        rw [List.getElem?_set, if_neg (Ne.symm different), presentOther]
    | none =>
        have absent : state.handles.find? other = none := by
          cases heldOther : state.handles.find? other with
          | none => rfl
          | some place =>
              have inside := sound.numbered other place heldOther
              have present := find_eq_some.mpr ⟨heldOther, List.getElem?_eq_getElem inside⟩
              cases before.symm.trans present
        unfold ApiState.find
        rw [absent]
        rfl

/-- A read changes the stream of its handle, and no other stream. -/
theorem Sound.replace (sound : Sound code past state) {handle : Int} {number : Nat}
    {object : StreamObject Stream} {files : List File}
    (found : state.find handle = some (number, object))
    (stands : List.Forall₂ (Stands state.system.zips) object.volumes files) {stream : Stream}
    (notIssued : moment.issued? = none) (notClosed : moment.closed? = none)
    (followed : ∀ other, follow code other (sessionOf code other past) moment =
      if other = handle then some ⟨stream, files⟩ else sessionOf code other past) :
    Sound code (past ++ [moment])
      { state with objects := state.objects.set number { object with stream := stream } } := by
  have after := sound.find_set found { object with stream := stream }
  refine sound.sameHandles notIssued notClosed sound.consistent rfl rfl
    (List.length_set ..) ?_ ?_
  · intro other
    rw [followed]
    by_cases same : other = handle
    · rw [if_pos same]
      exact .known ((after other).trans (if_pos same)) stands
    · rw [if_neg same]
      exact (sound.sessions other).kept ((after other).trans (if_neg same))
        fun _ _ _ _ _ _ standing => standing
  · intro other place another held
    rw [after] at held
    by_cases same : other = handle
    · rw [if_pos same] at held
      cases held
      exact ⟨object, same ▸ found, rfl⟩
    · rw [if_neg same] at held
      exact ⟨another, held, rfl⟩

theorem Sound.read (sound : Sound code past state) (handle : Int) (offset : U64) (buffer : Bool)
    (length : BitVec 32) : Answers code past state handle (.read offset buffer length) := by
  cases buffer with
  | false => exact sound.unchanged (.failed .efault) rfl rfl rfl
  | true =>
      by_cases positive : length.toInt ≤ 0
      · refine sound.unchanged (.failed .einval) ?_ ?_ rfl
        · simp [ApiState.request, ApiState.aff4Read, positive]
        · simp [Session.request, positive]
      · have matched := sound.sessions handle
        generalize given : sessionOf code handle past = session at matched
        cases matched with
        | unknown missing =>
            refine sound.unchanged (.failed .ebadf) ?_ ?_ rfl
            · simp [ApiState.request, ApiState.aff4Read, positive, missing]
            · simp [Session.request, positive, given]
        | @known number object files found stands =>
            by_cases behind : offset > code.size object.stream
            · refine sound.unchanged (.failed .einval) ?_ ?_ rfl
              · simp [ApiState.request, ApiState.aff4Read, positive, found, behind]
              · simp [Session.request, positive, given, behind]
            · have alone := access_alone sound.consistent stands
              have ran : state.request code handle (.read offset true length) =
                  (ApiState.readAnswer (code.read object.stream (state.access object)
                    (length.signExtend 64) offset).1, { state with
                      objects := state.objects.set number { object with
                        stream := (code.read object.stream (state.access object)
                          (length.signExtend 64) offset).2 } }) := by
                simp [ApiState.request, ApiState.aff4Read, positive, found, behind]
              have spec : Session.request code (sessionOf code handle past)
                    (.read offset true length) =
                  (ApiState.readAnswer (code.read object.stream (state.access object)
                    (length.signExtend 64) offset).1,
                    some ⟨(code.read object.stream (state.access object)
                      (length.signExtend 64) offset).2, files⟩) := by
                simp [Session.request, positive, given, behind, alone]
              refine ⟨?_, ?_, ?_⟩
              · rw [ran]
                refine sound.replace found stands rfl rfl ?_
                intro other
                rw [follow_request]
                by_cases same : other = handle
                · rw [if_pos same, if_pos same, same, spec]
                · rw [if_neg same, if_neg same]
              · rw [ran, spec]
              · rw [ran]
                exact fun _ => rfl

/-- A closed handle goes with its archives, and no other handle does. -/
theorem Sound.erase (sound : Sound code past state) {handle : Int} {number : Nat}
    {object : StreamObject Stream} (found : state.find handle = some (number, object))
    (notIssued : moment.issued? = none) (shut : moment.closed? = some handle)
    (followed : ∀ other, follow code other (sessionOf code other past) moment =
      if other = handle then none else sessionOf code other past) :
    Sound code (past ++ [moment]) { state with
      system := object.volumes.foldl closeVolume state.system
      handles := state.handles.erase handle } := by
  obtain ⟨consistent, kept⟩ := closeVolumes_consistent sound.consistent object.volumes
  have after : ∀ other, ({ state with
      system := object.volumes.foldl closeVolume state.system
      handles := state.handles.erase handle } : ApiState Stream).find other =
        if other = handle then none else state.find other := by
    intro other
    unfold ApiState.find
    dsimp only
    rw [OrderedMap.find?_erase]
    by_cases same : other = handle
    · rw [if_pos same, if_pos same]
      rfl
    · rw [if_neg same, if_neg same]
  have sameIssued : issued (past ++ [moment]) = issued past := by
    simp [issued_append, notIssued]
  have sameClosed : closed (past ++ [moment]) = closed past ++ [handle] := by
    simp [closed_append, shut]
  have wasIssued := ((sound.live handle).mp ((sound.find_iff handle).mpr ⟨_, found⟩)).1
  constructor
  · exact consistent
  · rw [sameIssued]
    exact sound.next
  · rw [sameIssued]
    exact sound.range
  · rw [sameIssued]
    exact sound.nodup
  · rw [sameIssued, sameClosed]
    intro other member
    rcases List.mem_append.mp member with old | now
    · exact sound.opened other old
    · exact List.mem_singleton.mp now ▸ wasIssued
  · intro other
    rw [sameIssued, sameClosed, hasKey_iff]
    dsimp only
    rw [OrderedMap.find?_erase, List.mem_append, List.mem_singleton, not_or]
    by_cases same : other = handle
    · simp [same]
    · rw [if_neg same, ← hasKey_iff, sound.live other]
      simp [same]
  · intro other place held
    dsimp only at held
    rw [OrderedMap.find?_erase] at held
    split at held
    · cases held
    · exact sound.numbered other place held
  · intro other
    rw [sessionOf_append, followed]
    by_cases same : other = handle
    · rw [if_pos same]
      exact .unknown ((after other).trans (if_pos same))
    · rw [if_neg same]
      refine (sound.sessions other).kept ((after other).trans (if_neg same)) ?_
      intro place another held volume member file
      exact kept volume file ((sound.apart other handle same _ _ _ _ held found).2 volume member)
  · refine sound.apart_of_older fun other place another held => ?_
    rw [after] at held
    split at held
    · cases held
    · exact ⟨another, held, rfl⟩

theorem Sound.close (sound : Sound code past state) (handle : Int) :
    Answers code past state handle .close := by
  have matched := sound.sessions handle
  generalize given : sessionOf code handle past = session at matched
  cases matched with
  | unknown missing =>
      have same : state.request code handle .close = (.failed .ebadf, state) := by
        simp only [ApiState.request, ApiState.aff4Close, missing]
      refine sound.unchanged (.failed .ebadf) same ?_ ?_
      · rw [given]
        rfl
      · simp [Moment.closed?, ApiState.moment, ApiState.step, same, Answer.failed]
  | @known number object files found stands =>
      have ran : state.request code handle .close = (⟨0, none, []⟩, { state with
          system := object.volumes.foldl closeVolume state.system
          handles := state.handles.erase handle }) := by
        simp only [ApiState.request, ApiState.aff4Close, found]
      have shut : (state.moment code (.on handle .close)).closed? = some handle := by
        simp [Moment.closed?, ApiState.moment, ApiState.step, ran]
      refine ⟨?_, ?_, ?_⟩
      · rw [ran]
        refine sound.erase found rfl shut ?_
        intro other
        rw [follow_request]
        by_cases same : other = handle
        · rw [if_pos same, if_pos same, same, given]
          rfl
        · rw [if_neg same, if_neg same]
      · rw [ran, given]
        rfl
      · rw [ran]
        intro impossible
        cases impossible

theorem Sound.request (sound : Sound code past state) (handle : Int) (request : Request) :
    Answers code past state handle request := by
  cases request with
  | objectSize => exact sound.objectSize handle
  | objectBlocksize => exact sound.objectBlocksize handle
  | read offset buffer length => exact sound.read handle offset buffer length
  | close => exact sound.close handle

/-! ## Runs -/

theorem request_none (request : Request) :
    (Session.request code none request).1.res = -1 := by
  cases request with
  | objectSize => rfl
  | objectBlocksize => rfl
  | read offset buffer length =>
      cases buffer with
      | false => rfl
      | true =>
          by_cases positive : length.toInt ≤ 0
          · simp [Session.request, positive, Answer.failed]
          · simp [Session.request, positive, Answer.failed]
  | close => rfl

theorem Sound.step (sound : Sound code past state) (few : (issued past).length < 2 ^ 31 - 1)
    (call : Call Stream) :
    Sound code (past ++ [state.moment code call]) (state.moment code call).after ∧
      Orderly code past (state.moment code call) := by
  cases call with
  | openFile filename findings =>
      obtain ⟨after, failing⟩ := sound.open few filename findings
      refine ⟨after, after.live, sound.known, ?_, ?_, failing⟩
      · intro handle request impossible
        cases impossible
      · intro handle request impossible
        cases impossible
  | on handle request =>
      have answers := sound.request handle request
      refine ⟨answers.sound, answers.sound.live, sound.known, ?_, ?_, answers.failing⟩
      · intro other again same
        cases same
        exact answers.acts
      · intro other again same missing
        cases same
        have acts := answers.acts
        have nothing : sessionOf code handle past = none := by
          have unknown := mt (sound.known handle).mpr missing
          simpa using unknown
        rw [nothing] at acts
        exact (congrArg Answer.res acts).trans (request_none request)

private theorem issued_length_append (past rest : List (Moment Stream)) :
    (issued past).length ≤ (issued (past ++ rest)).length := by
  simp [issued]

theorem Sound.run (sound : Sound code past state) (calls : List (Call Stream))
    (few : (issued (past ++ state.run code calls)).length < 2 ^ 31 - 1) :
    (issued (past ++ state.run code calls)).Nodup ∧
      ∀ before moment rest, state.run code calls = before ++ moment :: rest →
        Orderly code (past ++ before) moment := by
  induction calls generalizing past state with
  | nil =>
      refine ⟨by simpa [ApiState.run] using sound.nodup, ?_⟩
      intro before moment rest impossible
      simp [ApiState.run] at impossible
  | cons call calls ih =>
      have fewBefore := (issued_length_append past (state.run code (call :: calls))).trans_lt few
      obtain ⟨after, orderly⟩ := sound.step fewBefore call
      have split : past ++ state.run code (call :: calls) =
          past ++ [state.moment code call] ++
            (state.moment code call).after.run code calls := by
        simp [ApiState.run]
      rw [split] at few ⊢
      obtain ⟨nodup, later⟩ := ih after few
      refine ⟨nodup, ?_⟩
      intro before moment rest ran
      cases before with
      | nil =>
          simp only [ApiState.run, List.nil_append, List.cons.injEq] at ran
          rw [← ran.1, List.append_nil]
          exact orderly
      | cons first before =>
          simp only [ApiState.run, List.cons_append, List.cons.injEq] at ran
          have shifted := later before moment rest ran.2
          rw [ran.1, List.append_assoc] at shifted
          exact shifted

/-- After `AFF4_init`, no handle is issued twice, and every call is in order. -/
theorem run_orderly (code : StreamCode Stream) (process : Process) (opens : Nat)
    (calls : List (Call Stream))
    (few : (issued ((aff4Init (.initial process opens)).run code calls)).length < 2 ^ 31 - 1) :
    (issued ((aff4Init (.initial process opens)).run code calls)).Nodup ∧
      ∀ past moment rest,
        (aff4Init (.initial process opens)).run code calls = past ++ moment :: rest →
          Orderly code past moment :=
  (init_sound code process opens).run calls few

end States

/-! ## Two files -/

/-- A stream that reads its container as it is. -/
def plainCode : StreamCode Unit where
  size := fun _ => 3
  blocksize := fun _ => []
  read := fun _ access count offset => (access 0 count offset, ())

def plainFindings (file : File) : Findings Unit where
  container := some ⟨file, []⟩
  resolver := true
  images := [some ⟨some ⟨some ⟨(), []⟩⟩⟩]

/-- The second file is opened before the first one is closed, and read afterwards. -/
def twoFiles : List (Call Unit) := [
  .openFile (some (text "a")) (plainFindings firstFile),
  .openFile (some (text "b")) (plainFindings secondFile),
  .on 1 .close,
  .on 2 (.read 1 true 2),
  .on 1 (.read 1 true 2)]

theorem run_orderly_twoFiles :
    ((aff4Init (.initial emptyProcess 0)).run plainCode twoFiles).map (·.answer) =
        [⟨1, none, []⟩, ⟨2, none, []⟩, ⟨0, none, []⟩, ⟨2, none, [5, 6]⟩, .failed .ebadf] ∧
      (issued ((aff4Init (.initial emptyProcess 0)).run plainCode twoFiles)).Nodup ∧
      ∀ past moment rest,
        (aff4Init (.initial emptyProcess 0)).run plainCode twoFiles = past ++ moment :: rest →
          Orderly plainCode past moment :=
  ⟨by decide +kernel, run_orderly plainCode emptyProcess 0 twoFiles (by decide +kernel)⟩

end Aff4Lite.CApi
