import Aff4Lite.Stream.ChunkLoaderProperties

/-!
# The counters of the loop over `fileRead`

`toRead`, `chunkOffset` and `buf` in `ChunkLoader::load`, turn by turn. The signed result is
kept in an unsigned variable: -1 makes the loop ask for one more byte, one position earlier,
and it does not leave the loop.
-/

set_option autoImplicit false

namespace Aff4Lite.Stream

open Lib

namespace Device

variable {World : Type} (device : Device World)

/-- The loop asks for more bytes and gets -1. -/
def FailsAt (state : ReadLoop World) : Prop :=
  0 < state.toRead ∧
    (device.fileRead state.toRead state.chunkOffset state.world).1 = .failed

/-- What the loop is meant to keep. -/
structure ReadsWithin (chunkLength : U32) (chunkOffset : U64) (world : World) : Prop where
  terminates : ∃ fuel last,
    Loop.run device.loopTurn fuel (loopStart chunkLength chunkOffset world) = some last
  inside : ∀ state,
    Loop.Reaches device.loopTurn (loopStart chunkLength chunkOffset world) state →
      0 ≤ state.position ∧ state.position ≤ chunkLength.toNat
  remaining : ∀ state,
    Loop.Reaches device.loopTurn (loopStart chunkLength chunkOffset world) state →
      (state.toRead.toNat : Int) = chunkLength.toNat - state.delivered
  failureEnds : ∀ state,
    Loop.Reaches device.loopTurn (loopStart chunkLength chunkOffset world) state →
      device.FailsAt state → ∃ last, device.loopTurn state = .done last

variable {device}

/-! ## One turn -/

theorem FailsAt.loopTurn {state : ReadLoop World} (fails : device.FailsAt state) :
    device.loopTurn state = .next (state.back
      (device.fileRead state.toRead state.chunkOffset state.world).2) :=
  loopTurn_failed fails.1 (Prod.ext fails.2 rfl)

/-! ## Whole runs -/

/-- The invariant. -/
structure Counts (device : Device World) (chunkLength : U32) (state : ReadLoop World) : Prop where
  served : ∃ bytes after,
    device.Serves state.toRead state.chunkOffset state.world bytes after
  position : state.position = state.delivered
  remaining : state.toRead.toNat + state.delivered = chunkLength.toNat

private theorem Counts.not_failsAt {chunkLength : U32} {state : ReadLoop World}
    (counts : device.Counts chunkLength state) : ¬device.FailsAt state := by
  rintro ⟨more, failed⟩
  obtain ⟨_, _, serves⟩ := counts.served
  generalize remaining : state.toRead = toRead at *
  cases serves with
  | full => exact absurd more (by decide)
  | ended _ answered => simp [answered] at failed
  | more _ answered => simp [answered] at failed

theorem Counts.progress {chunkLength : U32} {state : ReadLoop World}
    (counts : device.Counts chunkLength state) :
    Loop.Progress device.loopTurn (device.Counts chunkLength) (·.toRead.toNat) (fun _ => True)
      state := by
  obtain ⟨⟨_, _, serves⟩, position, remaining⟩ := counts
  have bound := chunkLength.isLt
  generalize asked : state.toRead = toRead at serves
  cases serves with
  | full => exact .inl ⟨_, loopTurn_finished asked, trivial⟩
  | ended more answered =>
      rw [← asked] at more answered
      exact .inl ⟨_, loopTurn_ended more answered, trivial⟩
  | @more _ _ _ middle after bytes rest more answered nonempty later =>
      rw [← asked] at more answered later
      have positive := List.length_pos_of_ne_nil nonempty
      obtain ⟨bounded, turned⟩ := loopTurn_more more (by omega) answered nonempty
      refine .inr ⟨_, turned, ⟨⟨_, _, later⟩, ?_, ?_⟩, ?_⟩
      · dsimp only [ReadLoop.advance]
        rw [position]
        push_cast
        rfl
      · dsimp only [ReadLoop.advance]
        bv_omega
      · dsimp only [ReadLoop.advance]
        bv_omega

/-- Where no reached state sees -1, the container answers in full or until its end. -/
theorem serves_of_not_failsAt {state : ReadLoop World} (small : state.toRead.toNat < 2 ^ 32)
    (never : ∀ reached, Loop.Reaches device.loopTurn state reached → ¬device.FailsAt reached) :
    ∃ bytes after, device.Serves state.toRead state.chunkOffset state.world bytes after := by
  induction size : state.toRead.toNat using Nat.strong_induction_on generalizing state with
  | _ count ih =>
      by_cases finished : state.toRead = 0
      · rw [finished]
        exact ⟨_, _, .full⟩
      have more : 0 < state.toRead := by bv_omega
      cases answered : device.fileRead state.toRead state.chunkOffset state.world with
      | mk answer middle =>
          cases answer with
          | failed => exact absurd ⟨more, congrArg Prod.fst answered⟩ (never state .refl)
          | delivered bytes =>
              by_cases nothing : bytes = []
              · exact ⟨_, _, .ended more (nothing ▸ answered)⟩
              have positive := List.length_pos_of_ne_nil nothing
              obtain ⟨bounded, turned⟩ := loopTurn_more more small answered nothing
              have less : (state.toRead - BitVec.ofNat 64 bytes.length).toNat < count := by
                bv_omega
              obtain ⟨rest, after, later⟩ := ih _ less (by dsimp only [ReadLoop.advance]; bv_omega)
                (fun reached path => never reached (.trans (.step .refl turned) path)) rfl
              exact ⟨_, _, .more more answered nothing later⟩

/-- The loop keeps what it is meant to exactly if no call returns -1 before the chunk is there
or a call returns 0. -/
theorem readsWithin_iff (device : Device World) (chunkLength : U32) (chunkOffset : U64)
    (world : World) :
    device.ReadsWithin chunkLength chunkOffset world ↔
      ∃ bytes after, device.Serves (chunkLength.setWidth 64) chunkOffset world bytes after := by
  have wide := toNat_widen chunkLength (by decide : 32 ≤ 64)
  have bound := chunkLength.isLt
  constructor
  · intro within
    have small : (loopStart chunkLength chunkOffset world).toRead.toNat < 2 ^ 32 := by
      show (chunkLength.setWidth 64).toNat < 2 ^ 32
      omega
    refine serves_of_not_failsAt small fun state reached fails => ?_
    obtain ⟨last, left⟩ := within.failureEnds state reached fails
    rw [fails.loopTurn] at left
    cases left
  · intro served
    have start : device.Counts chunkLength (loopStart chunkLength chunkOffset world) :=
      ⟨served, rfl, wide⟩
    have progress := fun state (counts : device.Counts chunkLength state) => counts.progress
    have kept := fun state (reached : Loop.Reaches device.loopTurn
      (loopStart chunkLength chunkOffset world) state) => reached.holds progress start
    refine ⟨?_, fun state reached => ?_, fun state reached => ?_, fun state reached fails => ?_⟩
    · obtain ⟨last, ran, _⟩ := Loop.run_total _ _ _ progress start (Nat.lt_succ_self _)
      exact ⟨_, last, ran⟩
    · have counts := kept state reached
      have total := counts.remaining
      rw [counts.position]
      omega
    · have total := (kept state reached).remaining
      omega
    · exact absurd fails (kept state reached).not_failsAt

/-- A loop that keeps it leaves the chunk in its buffer. -/
theorem ReadsWithin.readChunk {chunkLength : U32} {chunkOffset : U64} {world : World}
    (within : device.ReadsWithin chunkLength chunkOffset world)
    (enough : chunkLength.toNat < device.turns) :
    ∃ bytes after, device.readChunk chunkLength chunkOffset world = some (bytes, after) := by
  obtain ⟨bytes, after, serves⟩ := (device.readsWithin_iff chunkLength chunkOffset world).mp within
  exact ⟨bytes, after, readChunk_of_serves enough serves⟩

end Device

/-- A container that cannot be read. -/
def unreadable : Device Unit where
  turns := 2
  fileRead _ _ world := (.failed, world)
  loadIndex _ world := (none, world)
  decompress _ _ world := (⟨false, []⟩, world)
  allocate world := (fun _ => 0, world)
  bounded := fun _ _ _ => Nat.zero_le _

/-- The first -1 moves `buf` in front of a chunk of one byte, and the loop goes on. -/
theorem readsWithin_fails :
    ¬∀ (device : Device Unit) (chunkLength : U32) (chunkOffset : U64) (world : Unit),
      device.ReadsWithin chunkLength chunkOffset world := by
  intro every
  have within := every unreadable 1 0 ()
  have fails : unreadable.FailsAt (Device.loopStart 1 0 ()) := ⟨by decide, rfl⟩
  have before := within.inside _ (.step .refl fails.loopTurn)
  exact absurd before.1 (by decide)

end Aff4Lite.Stream
