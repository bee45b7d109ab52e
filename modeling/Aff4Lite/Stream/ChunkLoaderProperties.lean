import Aff4Lite.Stream.ChunkLoader
import Aff4Lite.Stream.ImageStreamRead

/-!
# Genuine bytes

The loader tells the reader about a missing index and an empty point, and about nothing
else. What a range gets is decided by the loads that its chunks come from, in the read or
when they were cached: by the answers of the container and of the codec to each of them.
-/

set_option autoImplicit false

namespace Aff4Lite.Stream

open Lib Utils

/-! ## One turn of the loop over `fileRead` -/

namespace ReadLoop

variable {World : Type}

/-- The counters after bytes have arrived. -/
def advance (state : ReadLoop World) (count : Nat) (world : World) : ReadLoop World where
  toRead := state.toRead - BitVec.ofNat 64 count
  chunkOffset := state.chunkOffset + BitVec.ofNat 64 count
  position := state.position + count
  delivered := state.delivered + count
  world := world

/-- The counters after a -1. -/
def back (state : ReadLoop World) (world : World) : ReadLoop World where
  toRead := state.toRead + 1
  chunkOffset := state.chunkOffset - 1
  position := state.position - 1
  delivered := state.delivered
  world := world

/-- What is left to read ends where the chunk buffer ends. -/
structure Within (chunkLength : U32) (state : ReadLoop World) : Prop where
  inside : 0 ≤ state.position
  remaining : state.position + state.toRead.toNat = chunkLength.toNat

end ReadLoop

namespace Device

variable {World : Type} {device : Device World} {chunkLength : U32} {state : ReadLoop World}
  {middle : World}

theorem loopTurn_finished (finished : state.toRead = 0) : device.loopTurn state = .done state := by
  unfold loopTurn
  rw [if_neg (by rw [finished]; decide)]

theorem loopTurn_ended (more : 0 < state.toRead)
    (answered : device.fileRead state.toRead state.chunkOffset state.world =
      (.delivered [], middle)) :
    device.loopTurn state = .done { state with world := middle } := by
  unfold loopTurn
  rw [if_pos more, answered]
  rfl

theorem loopTurn_more {bytes : Bytes} (more : 0 < state.toRead)
    (small : state.toRead.toNat < 2 ^ 32)
    (answered : device.fileRead state.toRead state.chunkOffset state.world =
      (.delivered bytes, middle)) (nonempty : bytes ≠ []) :
    bytes.length ≤ state.toRead.toNat ∧
      device.loopTurn state = .next (state.advance bytes.length middle) := by
  have bounded := device.bounded state.toRead state.chunkOffset state.world
  rw [answered, ReadResult.bytes_delivered] at bounded
  have positive := List.length_pos_of_ne_nil nonempty
  have count : (BitVec.ofNat 64 bytes.length).toInt = bytes.length := by
    rw [toInt_of_lt (by bv_omega)]
    bv_omega
  refine ⟨bounded, ?_⟩
  unfold loopTurn
  rw [if_pos more, answered]
  dsimp only
  rw [ReadResult.res_delivered, BitVec.ofInt_natCast, if_neg (by bv_omega), count,
    ReadResult.bytes_delivered]
  rfl

theorem loopTurn_failed (more : 0 < state.toRead)
    (answered : device.fileRead state.toRead state.chunkOffset state.world = (.failed, middle)) :
    device.loopTurn state = .next (state.back middle) := by
  have minusOne : BitVec.ofInt 64 (-1) = -1#64 := by decide
  have up : state.toRead - -1#64 = state.toRead + 1 := by bv_omega
  have earlier : state.chunkOffset + -1#64 = state.chunkOffset - 1 := by bv_omega
  have moved : state.position + (-1#64).toInt = state.position - 1 := rfl
  unfold loopTurn
  rw [if_pos more, answered]
  dsimp only
  rw [ReadResult.res_failed, minusOne, if_neg (by decide), up, earlier, moved]
  rfl

private theorem loopStart_within (chunkLength : U32) (chunkOffset : U64) (world : World) :
    (loopStart chunkLength chunkOffset world).Within chunkLength where
  inside := le_rfl
  remaining := by
    have wide := toNat_widen chunkLength (by decide : 32 ≤ 64)
    change 0 + ((chunkLength.setWidth 64).toNat : Int) = _
    omega

end Device

/-! ## One load -/

/-- The container answers a request for `toRead` bytes with `bytes`, in calls that never
return -1, until it has answered in full or returns 0. -/
inductive Device.Serves {World : Type} (device : Device World) :
    U64 → U64 → World → Bytes → World → Prop where
  | full {chunkOffset : U64} {world : World} : Serves device 0 chunkOffset world [] world
  | ended {toRead chunkOffset : U64} {world after : World} : 0 < toRead →
      device.fileRead toRead chunkOffset world = (.delivered [], after) →
      Serves device toRead chunkOffset world [] after
  | more {toRead chunkOffset : U64} {world middle after : World} {bytes rest : Bytes} :
      0 < toRead → device.fileRead toRead chunkOffset world = (.delivered bytes, middle) →
      bytes ≠ [] → Serves device (toRead - BitVec.ofNat 64 bytes.length)
        (chunkOffset + BitVec.ofNat 64 bytes.length) middle rest after →
      Serves device toRead chunkOffset world (bytes ++ rest) after

/-- The calls of the loop, in at most `turns` turns, until the chunk is there or `fileRead` returns
0. After a -1 the byte before is asked for again, where there is one. `arrived` lies in the chunk
buffer before, `bytes` when the loop has ended. -/
inductive Device.Fetches {World : Type} (device : Device World) :
    Nat → ReadLoop World → Bytes → Bytes → World → Prop where
  | full {turns : Nat} {state : ReadLoop World} {arrived : Bytes} : state.toRead = 0 →
      Fetches device (turns + 1) state arrived arrived state.world
  | ended {turns : Nat} {state : ReadLoop World} {arrived : Bytes} {after : World} :
      0 < state.toRead →
      device.fileRead state.toRead state.chunkOffset state.world = (.delivered [], after) →
      Fetches device (turns + 1) state arrived arrived after
  | more {turns : Nat} {state : ReadLoop World} {arrived part bytes : Bytes}
      {middle after : World} : 0 < state.toRead →
      device.fileRead state.toRead state.chunkOffset state.world = (.delivered part, middle) →
      part ≠ [] → Fetches device turns (state.advance part.length middle)
        (overlay arrived state.position.toNat part) bytes after →
      Fetches device (turns + 1) state arrived bytes after
  | again {turns : Nat} {state : ReadLoop World} {arrived bytes : Bytes} {middle after : World} :
      0 < state.toRead →
      device.fileRead state.toRead state.chunkOffset state.world = (.failed, middle) →
      0 < state.position → Fetches device turns (state.back middle) arrived bytes after →
      Fetches device (turns + 1) state arrived bytes after

namespace Device

variable {World : Type} {device : Device World}

section Turns

variable {turns : Nat} {chunkLength : U32} {state : ReadLoop World} {middle after : World}
  {arrived part bytes : Bytes}

private theorem chunkTurn_finished (finished : state.toRead = 0) (arrived : Bytes) :
    device.chunkTurn ⟨state, arrived⟩ = .done (some ⟨state, arrived⟩) := by
  rw [chunkTurn, loopTurn_finished finished]

private theorem chunkTurn_ended (more : 0 < state.toRead)
    (answered : device.fileRead state.toRead state.chunkOffset state.world =
      (.delivered [], middle)) (arrived : Bytes) :
    device.chunkTurn ⟨state, arrived⟩ =
      .done (some ⟨{ state with world := middle }, arrived⟩) := by
  rw [chunkTurn, loopTurn_ended more answered]

private theorem chunkTurn_more (within : state.Within chunkLength) (more : 0 < state.toRead)
    (answered : device.fileRead state.toRead state.chunkOffset state.world =
      (.delivered part, middle)) (nonempty : part ≠ []) (arrived : Bytes) :
    (state.advance part.length middle).Within chunkLength ∧
      device.chunkTurn ⟨state, arrived⟩ = .next ⟨state.advance part.length middle,
        overlay arrived state.position.toNat part⟩ := by
  obtain ⟨inside, remaining⟩ := within
  have bound := chunkLength.isLt
  obtain ⟨bounded, turned⟩ := loopTurn_more more (by omega) answered nonempty
  refine ⟨⟨Int.add_nonneg inside (Int.natCast_nonneg _), ?_⟩, ?_⟩
  · unfold ReadLoop.advance
    dsimp only
    bv_omega
  · rw [chunkTurn, turned]
    dsimp only [ReadLoop.advance]
    rw [if_neg (by omega), answered]
    rfl

/-- A -1 leaves what has arrived, and `buf` goes back inside the chunk buffer or leaves it. -/
theorem chunkTurn_failed (within : state.Within chunkLength) (more : 0 < state.toRead)
    (answered : device.fileRead state.toRead state.chunkOffset state.world = (.failed, middle))
    (arrived : Bytes) :
    if 0 < state.position then
      (state.back middle).Within chunkLength ∧
        device.chunkTurn ⟨state, arrived⟩ = .next ⟨state.back middle, arrived⟩
    else device.chunkTurn ⟨state, arrived⟩ = .done none := by
  obtain ⟨inside, remaining⟩ := within
  have bound := chunkLength.isLt
  have turned := loopTurn_failed more answered
  split
  · rename_i room
    refine ⟨⟨Int.sub_nonneg_of_le room, ?_⟩, ?_⟩
    · unfold ReadLoop.back
      dsimp only
      bv_omega
    · rw [chunkTurn, turned]
      dsimp only [ReadLoop.back]
      rw [if_neg (by omega), answered, ReadResult.bytes_failed, overlay_nil]
  · rename_i start
    rw [chunkTurn, turned]
    exact if_pos (show state.position - 1 < 0 by omega)

private theorem fetches_of_run (within : state.Within chunkLength) {last : ChunkRead World}
    (ran : Loop.run device.chunkTurn turns ⟨state, arrived⟩ = some (some last)) :
    device.Fetches turns state arrived last.arrived last.counters.world := by
  induction turns generalizing state arrived with
  | zero => cases ran
  | succ turns ih =>
      by_cases finished : state.toRead = 0
      · rw [Loop.run_done (chunkTurn_finished finished arrived)] at ran
        cases ran
        exact .full finished
      have more : 0 < state.toRead := by bv_omega
      cases answered : device.fileRead state.toRead state.chunkOffset state.world with
      | mk answer middle =>
          cases answer with
          | failed =>
              have turned := chunkTurn_failed within more answered arrived
              split at turned
              · rename_i room
                rw [Loop.run_next turned.2] at ran
                exact .again more answered room (ih turned.1 ran)
              · rw [Loop.run_done turned] at ran
                cases ran
          | delivered part =>
              by_cases nothing : part = []
              · subst nothing
                rw [Loop.run_done (chunkTurn_ended more answered arrived)] at ran
                cases ran
                exact .ended more answered
              · obtain ⟨next, turned⟩ := chunkTurn_more within more answered nothing arrived
                rw [Loop.run_next turned] at ran
                exact .more more answered nothing (ih next ran)

private theorem run_of_fetches (within : state.Within chunkLength)
    (fetches : device.Fetches turns state arrived bytes after) :
    ∃ last, Loop.run device.chunkTurn turns ⟨state, arrived⟩ = some (some last) ∧
      last.arrived = bytes ∧ last.counters.world = after := by
  induction fetches with
  | full finished => exact ⟨_, Loop.run_done (chunkTurn_finished finished _) _, rfl, rfl⟩
  | ended more answered => exact ⟨_, Loop.run_done (chunkTurn_ended more answered _) _, rfl, rfl⟩
  | more more answered nonempty _ ih =>
      obtain ⟨next, turned⟩ := chunkTurn_more within more answered nonempty _
      obtain ⟨last, ran, facts⟩ := ih next
      exact ⟨last, (Loop.run_next turned _).trans ran, facts⟩
  | @again _ _ arrived _ _ _ more answered room _ ih =>
      have turned := chunkTurn_failed within more answered arrived
      rw [if_pos room] at turned
      obtain ⟨last, ran, facts⟩ := ih turned.1
      exact ⟨last, (Loop.run_next turned.2 _).trans ran, facts⟩

theorem readChunk_iff {chunkOffset : U64} {world : World} :
    device.readChunk chunkLength chunkOffset world = some (bytes, after) ↔
      device.Fetches device.turns (loopStart chunkLength chunkOffset world) [] bytes after := by
  have within := loopStart_within chunkLength chunkOffset world
  constructor
  · intro read
    unfold readChunk at read
    split at read
    · rename_i last ran
      cases read
      exact fetches_of_run within ran
    · cases read
  · intro fetches
    obtain ⟨last, ran, rfl, rfl⟩ := run_of_fetches within fetches
    rw [readChunk, ran]

/-- Answers without a -1 are put behind what has arrived. -/
theorem fetches_of_serves {toRead chunkOffset : U64} {world : World} (asked : state.toRead = toRead)
    (offset : state.chunkOffset = chunkOffset) (now : state.world = world)
    (position : state.position = arrived.length) (enough : toRead.toNat < turns)
    (serves : device.Serves toRead chunkOffset world bytes after) :
    device.Fetches turns state arrived (arrived ++ bytes) after := by
  induction serves generalizing turns state arrived with
  | full =>
      obtain ⟨turns, rfl⟩ : ∃ rest, turns = rest + 1 := ⟨turns - 1, by omega⟩
      rw [List.append_nil, ← now]
      exact .full asked
  | ended more answered =>
      obtain ⟨turns, rfl⟩ : ∃ rest, turns = rest + 1 := ⟨turns - 1, by omega⟩
      rw [← asked] at more
      rw [← asked, ← offset, ← now] at answered
      rw [List.append_nil]
      exact .ended more answered
  | @more toRead chunkOffset world middle after part rest more answered nonempty _ ih =>
      obtain ⟨turns, rfl⟩ : ∃ rest, turns = rest + 1 := ⟨turns - 1, by omega⟩
      have bounded := device.bounded toRead chunkOffset world
      rw [answered, ReadResult.bytes_delivered] at bounded
      have positive := List.length_pos_of_ne_nil nonempty
      have behind : overlay arrived state.position.toNat part = arrived ++ part := by
        rw [position, Int.toNat_natCast, overlay_end]
      subst asked offset now
      refine .more more answered nonempty ?_
      rw [behind, ← List.append_assoc]
      refine ih rfl rfl rfl ?_ (by bv_omega)
      unfold ReadLoop.advance
      rw [position, List.length_append]
      push_cast
      rfl

/-- Where no call returns -1, the chunk buffer holds the answers one after the other. -/
theorem readChunk_of_serves {chunkOffset : U64} {world : World}
    (enough : chunkLength.toNat < device.turns)
    (serves : device.Serves (chunkLength.setWidth 64) chunkOffset world bytes after) :
    device.readChunk chunkLength chunkOffset world = some (bytes, after) := by
  have wide := toNat_widen chunkLength (by decide : 32 ≤ 64)
  exact readChunk_iff.mpr (fetches_of_serves rfl rfl rfl rfl (wide.trans_lt enough) serves)

end Turns

/-- A container of which the first call gives two bytes and the second one nothing. -/
def interrupted (content : Bytes) : Device Nat where
  turns := 5
  fileRead count offset calls :=
    (if calls = 1 then .failed
      else .delivered (slice content offset.toNat (if calls = 0 then min 2 count.toNat
        else count.toNat)), calls + 1)
  loadIndex _ calls := (none, calls)
  decompress _ _ calls := (⟨false, []⟩, calls)
  allocate calls := (fun _ => 0, calls)
  bounded count offset calls := by
    dsimp only
    split
    · exact Nat.zero_le _
    · refine (length_slice _ _ _).le.trans ((min_le_left _ _).trans ?_)
      split
      · exact min_le_right _ _
      · exact le_rfl

-- The -1 takes back one byte, which is read again.
example : (interrupted [1, 2, 3, 4]).readChunk 4 0 0 = some ([1, 2, 3, 4], 3) := by decide

private theorem fill_genuine (heap : Nat → UInt8) (bytes : Bytes) (origin : Origin) (index : Nat) :
    (fill heap bytes origin index).Genuine ↔
      index < bytes.length ∧ (origin = .container ∨ origin = .decoded) := by
  unfold fill Cell.Genuine
  by_cases inside : index < bytes.length
  · have found : (bytes.map fun byte => Cell.mk byte origin)[index]? =
        some ⟨bytes[index], origin⟩ := by
      rw [List.getElem?_map, List.getElem?_eq_getElem inside]
      rfl
    have stored := store_inside (fun position => Cell.mk (heap position) .uninitialised) 0 found
    rw [Nat.zero_add] at stored
    simp [stored, inside]
  · have kept := store_after (fun position => Cell.mk (heap position) .uninitialised)
      (show 0 + (bytes.map fun byte => Cell.mk byte origin).length ≤ index by
        rw [List.length_map]
        omega)
    simp [kept, inside]

end Device

namespace DeviceStream

variable {World : Type}

/-- The loop over `fileRead` for the point, behind the allocation of its buffer, ends with `bytes`
in the buffer. -/
def Fetched (self : DeviceStream World) (event : LoadEvent World) (bytes : Bytes) (after : World) :
    Prop :=
  self.device.Fetches self.device.turns
    (Device.loopStart event.point.length (event.dataOffset + event.point.offset)
      (self.device.allocate event.world).2) [] bytes after

/-- The loop over `fileRead` for the point ends, and gets -1 only behind the first byte. -/
def Answered (self : DeviceStream World) (event : LoadEvent World) : Prop :=
  ∃ bytes after, self.Fetched event bytes after

/-- `bytes` are enough for the first `part` bytes of the chunk: as they are when they are as
many as a chunk has, else as the whole input of a codec that succeeds. -/
def Suffices (self : DeviceStream World) (event : LoadEvent World) (bytes : Bytes) (world : World)
    (part : Nat) : Prop :=
  if event.point.length = self.chunkSize then part ≤ bytes.length
  else
    let result := (self.device.decompress bytes self.chunkSize.toNat
      (self.device.allocate world).2).1
    part = 0 ∨ bytes.length = event.point.length.toNat ∧ result.success ∧
      part ≤ result.output.length

/-- The container and the codec provide the first `part` bytes of the chunk. -/
def Provides (self : DeviceStream World) (event : LoadEvent World) (part : Nat) : Prop :=
  ∃ bytes after, self.Fetched event bytes after ∧ self.Suffices event bytes after part

/-- A buffer of the stream with as many genuine bytes as its load provides. -/
structure Loaded (stream : DeviceStream World) (event : LoadEvent World)
    (buffer : ChunkBuffer World) : Prop where
  source : buffer.source = some event
  size : buffer.size = stream.chunkSize
  answered : stream.Answered event
  genuine : ∃ count, (∀ index, (buffer.cells index).Genuine ↔ index < count) ∧
    ∀ part, stream.Provides event part ↔ part ≤ count

theorem Provides.answered {self : DeviceStream World} {event : LoadEvent World} {part : Nat}
    (provides : self.Provides event part) : self.Answered event := by
  obtain ⟨bytes, after, fetched, _⟩ := provides
  exact ⟨bytes, after, fetched⟩

private theorem provides_iff {self : DeviceStream World} {event : LoadEvent World} {bytes : Bytes}
    {after : World} (fetched : self.Fetched event bytes after) (part : Nat) :
    self.Provides event part ↔ self.Suffices event bytes after part := by
  constructor
  · rintro ⟨others, last, again, enough⟩
    have same := (Device.readChunk_iff.mpr fetched).symm.trans (Device.readChunk_iff.mpr again)
    simp only [Prod.mk.injEq, Option.some.injEq] at same
    obtain ⟨rfl, rfl⟩ := same
    exact enough
  · exact fun enough => ⟨bytes, after, fetched, enough⟩

/-- The codec is given what was read, and its output is genuine when that was the whole point
and it succeeds. -/
theorem loadPoint_decompresses (self : DeviceStream World) {event : LoadEvent World}
    (packed : event.point.length ≠ self.chunkSize) {heap : Nat → UInt8} {fresh after : World}
    {bytes : Bytes} (allocated : self.device.allocate event.world = (heap, fresh))
    (read : self.device.readChunk event.point.length (event.dataOffset + event.point.offset) fresh =
      some (bytes, after)) (fetched : self.Fetched event bytes after) :
    ∃ buffer world, self.loadPoint event = (.ok buffer, world) ∧ self.Loaded event buffer := by
  have wide := toNat_widen event.point.length (by decide : 32 ≤ 64)
  have differ : event.point.length.setWidth 64 ≠ self.chunkSize.setWidth 64 := by bv_omega
  obtain ⟨dest, next, given⟩ : ∃ dest next, self.device.allocate after = (dest, next) :=
    ⟨_, _, rfl⟩
  obtain ⟨result, last, answer⟩ : ∃ result last, self.device.decompress
      (firstCells (store heap 0 bytes) (event.point.length.setWidth 64).toNat)
      self.chunkSize.toNat next = (result, last) := ⟨_, _, rfl⟩
  refine ⟨⟨Device.fill dest result.output
      (if result.success ∧ bytes.length = (event.point.length.setWidth 64).toNat then .decoded
        else .spoiled), self.chunkSize, some event⟩, last,
    by simp only [loadPoint, allocated, read, if_pos differ, given, answer],
    rfl, rfl, ⟨bytes, after, fetched⟩, ?_⟩
  by_cases full : bytes.length = event.point.length.toNat
  · have source : firstCells (store heap 0 bytes) (event.point.length.setWidth 64).toNat =
        bytes := by
      rw [wide, ← full]
      exact firstCells_store heap bytes
    rw [source] at answer
    refine ⟨if result.success then result.output.length else 0, ?_, ?_⟩
    · intro index
      cases success : result.success with
      | true => simp [Device.fill_genuine, full, wide]
      | false => simp [Device.fill_genuine]
    · intro part
      rw [provides_iff fetched, Suffices, if_neg packed, given, answer]
      cases success : result.success with
      | false => simp [success]
      | true =>
          simp only [success, full, true_and, if_true]
          constructor
          · rintro (rfl | reaches)
            · exact Nat.zero_le _
            · exact reaches
          · exact fun reaches => .inr reaches
  · refine ⟨0, ?_, ?_⟩
    · intro index
      simp [Device.fill_genuine, full, wide]
    · intro part
      rw [provides_iff fetched, Suffices, if_neg packed]
      simp [full]

theorem loadPoint_cases (self : DeviceStream World) (event : LoadEvent World) :
    (∃ world, self.loadPoint event = (.error (.notLoaded event), world) ∧
        ¬self.Answered event) ∨
      ∃ buffer world, self.loadPoint event = (.ok buffer, world) ∧ self.Loaded event buffer := by
  cases allocated : self.device.allocate event.world with
  | mk heap fresh =>
      cases read : self.device.readChunk event.point.length
          (event.dataOffset + event.point.offset) fresh with
      | none =>
          refine .inl ⟨fresh, by simp only [loadPoint, allocated, read], ?_⟩
          rintro ⟨bytes, last, fetched⟩
          unfold Fetched at fetched
          rw [allocated] at fetched
          cases read.symm.trans (Device.readChunk_iff.mpr fetched)
      | some got =>
          obtain ⟨bytes, after⟩ := got
          have fetched : self.Fetched event bytes after := by
            unfold Fetched
            rw [allocated]
            exact Device.readChunk_iff.mp read
          refine .inr ?_
          by_cases whole : event.point.length = self.chunkSize
          · have same : ¬event.point.length.setWidth 64 ≠ self.chunkSize.setWidth 64 := by
              rw [whole]
              exact not_not_intro rfl
            refine ⟨⟨Device.fill heap bytes .container, self.chunkSize, some event⟩, after,
              by simp only [loadPoint, allocated, read, if_neg same], rfl, rfl,
              ⟨bytes, after, fetched⟩, bytes.length, ?_, ?_⟩
            · intro index
              simp [Device.fill_genuine]
            · intro part
              rw [provides_iff fetched, Suffices, if_pos whole]
          · exact loadPoint_decompresses self whole allocated read fetched

/-! ## The caches -/

section Preserved

variable {good : Except (ReadFault World) (ChunkBuffer World) → Prop} {holds : World → Prop}

/-- What is loaded is good, as long as the world is, and the world stays so. -/
def Loads (self : DeviceStream World)
    (good : Except (ReadFault World) (ChunkBuffer World) → Prop) (holds : World → Prop) : Prop :=
  ∀ key state, holds state.2 →
    good (self.loadChunk key state).1 ∧ holds (self.loadChunk key state).2.2

/-- Every cached chunk is good, and so is the world. -/
structure Kept (good : Except (ReadFault World) (ChunkBuffer World) → Prop)
    (holds : World → Prop) (state : DeviceState World) : Prop where
  cached : state.chunkCache.All fun _ value => good value
  world : holds state.world

theorem fresh_kept (self : DeviceStream World) {world : World} (initial : holds world) :
    Kept good holds (self.fresh world) where
  cached := by
    intro item member
    cases member
  world := initial

theorem getChunk_preserves {self : DeviceStream World} (loads : self.Loads good holds)
    {state : DeviceState World} (kept : Kept good holds state) (fault : good (.error .cacheEnd))
    (key : U64) :
    good (self.getChunk key state).1 ∧ Kept good holds (self.getChunk key state).2 := by
  cases got : state.chunkCache.get key (fun inner => some (self.loadChunk key inner))
      (state.bevvyIndexCache, state.world) with
  | none =>
      simp only [getChunk, got]
      exact ⟨fault, kept⟩
  | some result =>
      have loaded : ∀ loaded after,
          (fun inner => some (self.loadChunk key inner)) (state.bevvyIndexCache, state.world) =
            some (loaded, after) → good loaded ∧ holds after.2 := by
        intro loaded after ran
        have same : self.loadChunk key (state.bevvyIndexCache, state.world) = (loaded, after) :=
          Option.some.inj ran
        have facts := loads key (state.bevvyIndexCache, state.world) kept.world
        rwa [same] at facts
      obtain ⟨fits, cached, _, world⟩ :=
        Cache.get_preserves kept.cached (by exact kept.world) loaded got
      simp only [getChunk, got]
      exact ⟨fits, cached, world⟩

/-- What a turn goes on with, or what the read leaves behind. -/
def KeptTurn (good : Except (ReadFault World) (ChunkBuffer World) → Prop) (holds : World → Prop) :
    Turn (ReadState World) (Except (ReadFault World) (ReadEnd World)) → Prop
  | .next after => Kept good holds after.state ∧ ∀ chunk ∈ after.touched, good (.ok chunk.2)
  | .done (.ok finish) =>
      Kept good holds finish.state ∧ ∀ chunk ∈ finish.touched, good (.ok chunk.2)
  | .done (.error _) => True

private theorem readTurn_preserves {self : DeviceStream World} (loads : self.Loads good holds)
    (fault : good (.error .cacheEnd)) {state : ReadState World}
    (kept : Kept good holds state.state) (touched : ∀ chunk ∈ state.touched, good (.ok chunk.2)) :
    KeptTurn good holds (self.readTurn state) := by
  unfold readTurn
  split
  · split
    · trivial
    · obtain ⟨fits, after⟩ := getChunk_preserves loads kept fault
        (state.offset / self.chunkSize.setWidth 64 * self.chunkSize.setWidth 64)
      dsimp only
      cases got : self.getChunk (state.offset / self.chunkSize.setWidth 64 *
          self.chunkSize.setWidth 64) state.state with
      | mk found later =>
          rw [got] at fits after
          cases found with
          | error fault => trivial
          | ok entry =>
              dsimp only
              split
              · exact ⟨after, touched⟩
              · refine ⟨after, ?_⟩
                intro chunk member
                rcases List.mem_append.mp member with earlier | added
                · exact touched chunk earlier
                · rw [List.mem_singleton.mp added]
                  exact fits
  · exact ⟨kept, touched⟩

theorem read_preserves {self : DeviceStream World} (loads : self.Loads good holds)
    (fault : good (.error .cacheEnd)) {state : DeviceState World} (kept : Kept good holds state)
    {memory : Nat → Cell} {count offset : U64} {finish : ReadEnd World}
    (ran : self.read memory count offset state = some (.ok finish)) :
    Kept good holds finish.state ∧ ∀ chunk ∈ finish.touched, good (.ok chunk.2) := by
  have untouched : ∀ chunk ∈ ([] : List (U64 × ChunkBuffer World)), good (.ok chunk.2) := by
    intro chunk member
    cases member
  unfold read at ran
  split at ran
  · cases ran
    exact ⟨kept, untouched⟩
  · split at ran
    · cases ran
      exact ⟨kept, untouched⟩
    · obtain ⟨last, reached, left⟩ := Loop.run_reaches ran
      have invariant : Kept good holds last.state ∧
          ∀ chunk ∈ last.touched, good (.ok chunk.2) := by
        refine reached.invariant (fun state => Kept good holds state.state ∧
          ∀ chunk ∈ state.touched, good (.ok chunk.2)) ⟨kept, untouched⟩ ?_
        rintro before after ⟨held, earlier⟩ turned
        have turn := readTurn_preserves loads fault held earlier
        rwa [turned] at turn
      have turn := readTurn_preserves loads fault invariant.1 invariant.2
      rwa [left] at turn

end Preserved

/-! ## The loads behind the chunks -/

/-- No call changes what holds of the world. -/
structure Keeps (device : Device World) (holds : World → Prop) : Prop where
  fileRead : ∀ count offset world, holds world → holds (device.fileRead count offset world).2
  loadIndex : ∀ bevvyID world, holds world → holds (device.loadIndex bevvyID world).2
  decompress : ∀ source destSize world, holds world →
    holds (device.decompress source destSize world).2
  allocate : ∀ world, holds world → holds (device.allocate world).2

theorem Keeps.answered {device : Device World} {holds : World → Prop} (keeps : Keeps device holds)
    {count offset : U64} {world after : World} {answer : ReadResult} (before : holds world)
    (answered : device.fileRead count offset world = (answer, after)) : holds after := by
  have kept := keeps.fileRead count offset world before
  rwa [answered] at kept

theorem Keeps.fetches {device : Device World} {holds : World → Prop} (keeps : Keeps device holds)
    {turns : Nat} {state : ReadLoop World} {arrived bytes : Bytes} {after : World}
    (before : holds state.world) (fetches : device.Fetches turns state arrived bytes after) :
    holds after := by
  induction fetches with
  | full => exact before
  | ended _ answered => exact keeps.answered before answered
  | more _ answered _ _ ih => exact ih (keeps.answered before answered)
  | again _ answered _ _ ih => exact ih (keeps.answered before answered)

private theorem loadPoint_keeps {self : DeviceStream World} {holds : World → Prop}
    (keeps : Keeps self.device holds) {event : LoadEvent World} (before : holds event.world) :
    holds (self.loadPoint event).2 := by
  have allocated := keeps.allocate event.world before
  unfold loadPoint
  dsimp only
  split
  · exact allocated
  · rename_i bytes after read
    have kept : holds after := keeps.fetches allocated (Device.readChunk_iff.mp read)
    split
    · exact keeps.decompress _ _ _ (keeps.allocate _ kept)
    · exact kept

/-- The load that a buffer comes from is good. -/
def Tracked (good : LoadEvent World → Prop) : Except (ReadFault World) (ChunkBuffer World) → Prop
  | .ok buffer => ∀ event, buffer.source = some event → good event
  | .error _ => True

private theorem loadPoint_tracked {self : DeviceStream World} {good : LoadEvent World → Prop}
    {event : LoadEvent World} (fits : good event) : Tracked good (self.loadPoint event).1 := by
  rcases self.loadPoint_cases event with ⟨world, failed, _⟩ | ⟨buffer, world, loaded, facts⟩
  · rw [failed]
    trivial
  · rw [loaded]
    intro other source
    rw [facts.source] at source
    exact Option.some.inj source ▸ fits

/-- Every chunk comes from a load in a world of which holds what no call changes. -/
theorem loads_tracked {self : DeviceStream World} {holds : World → Prop}
    {good : LoadEvent World → Prop} (keeps : Keeps self.device holds)
    (fits : ∀ event, holds event.world → good event) : self.Loads (Tracked good) holds := by
  intro key state before
  unfold loadChunk
  split
  · exact ⟨trivial, before⟩
  · dsimp only
    have index (bevvyID : U32) : ∀ loaded after,
        some (self.device.loadIndex bevvyID state.2) = some (loaded, after) → holds after := by
      intro loaded after ran
      have kept := keeps.loadIndex bevvyID state.2 before
      rwa [Option.some.inj ran] at kept
    split
    · exact ⟨trivial, before⟩
    · rename_i got
      refine ⟨?_, Cache.get_keeps before (index _) got⟩
      intro event source
      cases source
    · rename_i got
      have after := Cache.get_keeps before (index _) got
      split
      · refine ⟨?_, after⟩
        intro event source
        cases source
      · exact ⟨loadPoint_tracked (fits _ after), loadPoint_keeps keeps after⟩

/-! ## What the loads provide -/

/-- What a lookup of a chunk can give: a fault, the null pointer, or a buffer and its load. -/
def GoodChunk (self : DeviceStream World) :
    Except (ReadFault World) (ChunkBuffer World) → Prop
  | .error (.notLoaded event) => ¬self.Answered event
  | .error _ => True
  | .ok buffer => (buffer.source = none ∧ buffer.size = 0) ∨
      self.chunkSize ≠ 0 ∧ ∃ event, self.Loaded event buffer

theorem loadChunk_good (self : DeviceStream World) (key : U64) (state : LoaderState World) :
    self.GoodChunk (self.loadChunk key state).1 := by
  unfold loadChunk
  split
  · trivial
  · rename_i nonzero
    dsimp only
    split
    · trivial
    · exact .inl ⟨rfl, rfl⟩
    · rename_i index bevvyIndexCache world _
      split
      · exact .inl ⟨rfl, rfl⟩
      · rcases self.loadPoint_cases ⟨index.dataChunkOffset, index.getPoint
            ((key / self.chunkSize.setWidth 64 % self.chunksInSegment.setWidth 64).setWidth 32),
            world⟩ with ⟨last, loaded, unanswered⟩ | ⟨buffer, last, loaded, fits⟩
        · simp only [loaded]
          exact unanswered
        · simp only [loaded]
          exact .inr ⟨fun zero => nonzero (.inl zero), _, fits⟩

/-- Everything in the chunk cache came out of a load. -/
abbrev Sound (self : DeviceStream World) (state : DeviceState World) : Prop :=
  Kept self.GoodChunk (fun _ => True) state

theorem loads_good (self : DeviceStream World) : self.Loads self.GoodChunk fun _ => True :=
  fun key state _ => ⟨self.loadChunk_good key state, trivial⟩

/-! ## One turn of the read -/

/-- The part of a chunk that lies below the length of the stream. -/
def part (self : DeviceStream World) (key : U64) : Nat :=
  min self.chunkSize.toNat (self.length.toNat - key.toNat)

def ChunkBuffer.Delivers (buffer : ChunkBuffer World) (count : Nat) : Prop :=
  ∀ index < count, (buffer.cells index).Genuine

/-- The loads that the chunks of a range come from, looked up in turn, each with the number
of bytes that it has to provide; `none` for a chunk without index or point, or a fault. -/
def needs (self : DeviceStream World) :
    Nat → U64 → U64 → DeviceState World → List (Option (LoadEvent World × Nat))
  | 0, _, _, _ => []
  | fuel + 1, offset, leftToRead, state =>
      if leftToRead > 0 then
        if self.chunkSize = 0 then [none]
        else
          let chunkOffset := offset / self.chunkSize.setWidth 64 * self.chunkSize.setWidth 64
          match self.getChunk chunkOffset state with
          | (.error (.notLoaded event), _) => [some (event, 0)]
          | (.error _, _) => [none]
          | (.ok entry, after) =>
              match entry.source with
              | none => [none]
              | some event =>
                  let toCopy := stdMin (self.chunkSize.setWidth 64 - (offset - chunkOffset))
                    leftToRead
                  some (event, max (self.part chunkOffset)
                      ((offset - chunkOffset).toNat + toCopy.toNat)) ::
                    self.needs fuel (offset + toCopy) (leftToRead - toCopy) after
      else []

end DeviceStream

end Aff4Lite.Stream
