import Aff4Lite.Stream.Interface

/-!
# `aff4::stream::SymbolicImageStream`

A stream of one symbol. `read` does not look at the offset.
-/

set_option autoImplicit false

namespace Aff4Lite.Stream

open Lib

structure SymbolicImageStream where
  resource : Bytes
  symbol : UInt8

namespace SymbolicImageStream

/-- `ULLONG_MAX` -/
def size (_ : SymbolicImageStream) : U64 := BitVec.allOnes 64

/-- `SymbolicImageStream::read`, with `none` for a null buffer. -/
def read (self : SymbolicImageStream) (buf : Option Buffer) (count _offset : U64) :
    Int × Option Buffer :=
  match buf with
  | none => (0, none)
  | some memory =>
      if count = 0 then (0, some memory)
      else (count.toInt, some (memory.write 0 (List.replicate count.toNat self.symbol)))

/-- The buffer holds the symbol as far as the request goes, and behind it what it held before. -/
theorem read_fills (self : SymbolicImageStream) (memory : Buffer) {count : U64} (offset : U64)
    (fits : count.toNat ≤ memory.capacity) :
    ∃ after, self.read (some memory) count offset = ((count.toNat : Int), some after) ∧
      (∀ index, index < count.toNat → after.bytes index = self.symbol) ∧
      ∀ index, count.toNat ≤ index → after.bytes index = memory.bytes index := by
  have small := memory.capacity_lt
  unfold read
  by_cases nothing : count = 0
  · subst nothing
    exact ⟨memory, rfl, fun index below => absurd below (Nat.not_lt_zero index), fun _ _ => rfl⟩
  · dsimp only
    rw [if_neg nothing, toInt_of_lt (by omega)]
    refine ⟨_, rfl, ?_, ?_⟩
    · intro index below
      have found : (List.replicate count.toNat self.symbol)[index]? = some self.symbol := by
        rw [List.getElem?_replicate, if_pos below]
      have stored := store_inside memory.bytes 0 found
      rwa [Nat.zero_add] at stored
    · intro index behind
      have after : 0 + (List.replicate count.toNat self.symbol).length ≤ index := by
        rwa [Nat.zero_add, List.length_replicate]
      exact store_after memory.bytes after

end SymbolicImageStream

end Aff4Lite.Stream
