import Aff4Lite.Stream.MapStream

/-!
# `isSparse` of the X-Ways plugin

The loop walks the entries of a map like `MapStream::read`, but only asks the name of the
lower stream that each of them points to.
-/

set_option autoImplicit false

namespace Aff4Lite.XWays

open Aff4Lite.Lib Aff4Lite.Stream

def isSpareResource (resource : Bytes) : Bool :=
  resource = text "http://aff4.org/Schema#UnreadableData" ∨
    resource = text "http://aff4.org/Schema#UnknownData" ∨
    resource = text "http://aff4.org/Schema#Zero" ∨
    resource = text "http://aff4.org/Schema#SymbolicStream" ++ text "00"

structure SparseState where
  leftToRead : U64
  offset : U64

/-- One turn of the loop. The lookup is that of `MapStream::read`, line for line. -/
def sparseTurn {Stream : Type} (map : MapStream Stream) (getResourceID : Stream → Bytes)
    (state : SparseState) : Turn SparseState (Except Fault Bool) :=
  if state.leftToRead = 0 then .done (.ok true)
  else
    match map.entryAt state.offset with
    | .error fault => .done (.error fault)
    | .ok entry =>
        match map.streams[entry.streamID.toNat]? with
        | none => .done (.error .streamIndex)
        | some none => .done (.error .nullDereference)
        | some (some stream) =>
            if isSpareResource (getResourceID stream) then
              let count := entry.readLength state.offset state.leftToRead
              .next ⟨state.leftToRead - count, state.offset + count⟩
            else .done (.ok false)

/-- `isSparse`; the `INT64` arguments are converted to `uint64_t`. -/
def isSparse {Stream : Type} (map : MapStream Stream) (getResourceID : Stream → Bytes)
    (nOfs nSize : U64) : Option (Except Fault Bool) :=
  Loop.run (sparseTurn map getResourceID) (nSize.toNat + 1) ⟨nSize, nOfs⟩

end Aff4Lite.XWays
