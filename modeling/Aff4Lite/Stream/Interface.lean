import Aff4Lite.Lib.Memory

/-!
# Streams

What the stream classes share: the `IAFF4Stream::read` contract, the caller's buffer,
the truncation of a request at the end of a stream, and the segments of the container
that a constructor reads with a single call. Memory handed out by `new` without an
initialiser is an arbitrary function of the position.
-/

set_option autoImplicit false

namespace Aff4Lite.Stream

open Lib

def text (literal : String) : Bytes := literal.toList.map fun char => UInt8.ofNat char.toNat

/-- Outcome of one `IAFF4Stream::read` call: -1, or the bytes it placed in the buffer. -/
inductive ReadResult where
  | failed
  | delivered (bytes : Bytes)
  deriving DecidableEq, Repr

namespace ReadResult

def res : ReadResult → Int
  | failed => -1
  | delivered bytes => bytes.length

def bytes : ReadResult → Bytes
  | failed => []
  | delivered bytes => bytes

def toOption : ReadResult → Option Bytes
  | failed => none
  | delivered bytes => some bytes

@[simp] theorem res_failed : failed.res = -1 := rfl
@[simp] theorem res_delivered (bytes : Bytes) : (delivered bytes).res = bytes.length := rfl
@[simp] theorem bytes_failed : failed.bytes = [] := rfl
@[simp] theorem bytes_delivered (bytes : Bytes) : (delivered bytes).bytes = bytes := rfl

theorem res_eq_of_pos {result : ReadResult} (positive : ¬result.res ≤ 0) :
    result = delivered result.bytes := by
  cases result with
  | failed => simp at positive
  | delivered bytes => rfl

end ReadResult

/-- The `read` methods behind a family of streams. A call may depend on, and change,
the state of the world; the interface only promises that it returns -1 or a number of
bytes that is at most the count asked for and fits the returned `int64_t`. -/
structure StreamReader (Stream World : Type) where
  read : Stream → U64 → U64 → World → ReadResult × World
  bounded : ∀ stream count offset world,
    (read stream count offset world).1.bytes.length ≤ count.toNat ∧
      (read stream count offset world).1.bytes.length < 2 ^ 63

/-- Every stream is a fixed function of the position and delivers all it is asked for. -/
def StreamReader.Serves {Stream World : Type} (reader : StreamReader Stream World)
    (content : Stream → U64 → UInt8) : Prop :=
  ∀ stream count offset world, count.toNat < 2 ^ 63 →
    (reader.read stream count offset world).1 =
      .delivered (window (content stream) offset count.toNat)

/-- The streams with a given content, read in full. -/
def StreamReader.ofContent {Stream : Type} (content : Stream → U64 → UInt8) :
    StreamReader Stream Unit where
  read stream count offset world :=
    (.delivered (window (content stream) offset (min count.toNat (2 ^ 63 - 1))), world)
  bounded := by
    intro stream count offset world
    simp only [ReadResult.bytes_delivered, length_window]
    omega

theorem StreamReader.ofContent_serves {Stream : Type} (content : Stream → U64 → UInt8) :
    (StreamReader.ofContent content).Serves content := by
  intro stream count offset world fits
  simp only [StreamReader.ofContent, Nat.min_eq_left (by omega : count.toNat ≤ 2 ^ 63 - 1)]

/-- The caller's buffer. No object is larger than `PTRDIFF_MAX` bytes. -/
structure Buffer where
  bytes : Nat → UInt8
  capacity : Nat
  capacity_lt : capacity < 2 ^ 63

def Buffer.write (buffer : Buffer) (position : Nat) (data : Bytes) : Buffer :=
  { buffer with bytes := store buffer.bytes position data }

/-- `if (offset + count > size()) count -= ((offset + count) - size());` -/
def truncateCount (size offset count : U64) : U64 :=
  if offset + count > size then count - ((offset + count) - size) else count

theorem toNat_truncateCount {size offset count : U64} (inside : offset ≤ size)
    (noOverflow : offset.toNat + count.toNat < 2 ^ 64) :
    (truncateCount size offset count).toNat = min count.toNat (size.toNat - offset.toNat) := by
  unfold truncateCount
  split <;> bv_omega

theorem truncateCount_le {size offset count : U64} (inside : offset ≤ size) :
    (truncateCount size offset count).toNat ≤ count.toNat := by
  unfold truncateCount
  split
  · bv_omega
  · exact le_rfl

/-- A segment of the container, as a constructor sees it that calls
`stream->read(buffer, stream->size(), 0)` once. The call ends in one `pread64` (at most
0x7ffff000 bytes), one `ReadFile` (at most `MAXDWORD`) or one inflated buffer (at most
32 MiB); a failed call delivers nothing. -/
structure Segment where
  size : U64
  bytes : Bytes
  within : bytes.length ≤ size.toNat
  oneTransfer : bytes.length < 2 ^ 32

end Aff4Lite.Stream
