import Aff4Lite.Stream.MapImage

/-!
# The copy loops of the tools

`sha1sum` of `utils.cc` and `main` of `extract.cc` read a stream to its end with one buffer
and hand on what every call returned. The two loops differ in the sink only, and in the dots
that they print on the way.
-/

set_option autoImplicit false

namespace Aff4Lite.Tools

open Lib Aff4Lite.Stream

/-- Where the bytes of a stream go. Writing takes no notice of how they are cut into blocks. -/
structure Sink (Target : Type) where
  write : Target → Bytes → Target
  write_nil : ∀ target, write target [] = target
  write_append : ∀ target first second,
    write (write target first) second = write target (first ++ second)

/-- A file that was opened for writing. -/
def fileSink : Sink Bytes where
  write := (· ++ ·)
  write_nil := List.append_nil
  write_append := List.append_assoc

/-- The variables of the loop. -/
structure CopyState (Target World : Type) where
  toRead : U64
  offset : U64
  target : Target
  world : World

variable {Target Stream World : Type}

def copyTurn (sink : Sink Target) (reader : StreamReader Stream World) (stream : Stream)
    (bufferSize : U64) (state : CopyState Target World) :
    Turn (CopyState Target World) (Target × World) :=
  if state.toRead > 0 then
    let sz := stdMin bufferSize state.toRead
    let outcome := reader.read stream sz state.offset state.world
    let res := outcome.1.res
    if res > 0 then
      .next {
        toRead := state.toRead - BitVec.ofInt 64 res
        offset := state.offset + BitVec.ofInt 64 res
        target := sink.write state.target outcome.1.bytes
        world := outcome.2 }
    else
      -- The read has failed.
      .next {
        toRead := 0
        offset := state.offset + BitVec.ofInt 64 res
        target := state.target
        world := outcome.2 }
  else .done (state.target, state.world)

/-- The whole loop over a stream of `size` bytes. Every turn leaves less to read. -/
def copy (sink : Sink Target) (reader : StreamReader Stream World) (stream : Stream)
    (size bufferSize : U64) (target : Target) (world : World) : Option (Target × World) :=
  Loop.run (copyTurn sink reader stream bufferSize) (size.toNat + 1) ⟨size, 0, target, world⟩

/-- The answer to a request is a part of the extent from the asked position on, or, where that can
be, a failure. -/
def ReadsPart (extent : Extent UInt8) (fails : Prop) (request : U64 × U64) (result : ReadResult) :
    Prop :=
  0 < request.1.toNat → request.1.toNat < 2 ^ 63 →
    request.2.toNat + request.1.toNat ≤ extent.size →
    (result.res ≤ 0 ∧ fails) ∨ ∃ got, 0 < got ∧ got ≤ request.1.toNat ∧
      result = .delivered (extent.read request.2.toNat got)

section Copy

variable {sink : Sink Target} {reader : StreamReader Stream World} {stream : Stream}
  {bufferSize : U64} {good : World → Prop} {extent : Extent UInt8} {fails : Prop} {start : Target}

/-- The loop head: what was handed on is the front of the extent, up to the offset. -/
structure Copying (sink : Sink Target) (extent : Extent UInt8) (fails : Prop) (good : World → Prop)
    (start : Target) (state : CopyState Target World) : Prop where
  world : good state.world
  copied : ∃ length, length + state.toRead.toNat ≤ extent.size ∧
    state.target = sink.write start (extent.read 0 length) ∧
    (state.toRead ≠ 0 → state.offset.toNat = length) ∧
    (fails ∨ length + state.toRead.toNat = extent.size)

theorem copyTurn_progress (addressed : extent.size < 2 ^ 64) (room : bufferSize ≠ 0)
    (small : bufferSize.toNat < 2 ^ 63)
    (transparent : Transparent
      (fun (request : U64 × U64) => reader.read stream request.1 request.2) good
      (ReadsPart extent fails)) (state : CopyState Target World)
    (copying : Copying sink extent fails good start state) :
    Loop.Progress (copyTurn sink reader stream bufferSize) (Copying sink extent fails good start)
      (fun state => state.toRead.toNat)
      (fun result => ∃ length, length ≤ extent.size ∧ (fails ∨ length = extent.size) ∧
        result.1 = sink.write start (extent.read 0 length) ∧ good result.2) state := by
  obtain ⟨world, length, inside, target, offset, complete⟩ := copying
  unfold Loop.Progress copyTurn
  by_cases unfinished : state.toRead > 0
  · rw [if_pos unfinished]
    have position := offset (by bv_omega)
    have asked := toNat_stdMin bufferSize state.toRead
    have nonzero : 0 < (stdMin bufferSize state.toRead).toNat :=
      stdMin_pos (by bv_omega) (by bv_omega)
    generalize stdMin bufferSize state.toRead = sz at *
    have kept := transparent.kept (sz, state.offset) state.world world
    have answered := transparent.answered (sz, state.offset) state.world world nonzero
      (by dsimp only; omega) (by dsimp only; omega)
    dsimp only at answered kept ⊢
    generalize reader.read stream sz state.offset state.world = outcome at *
    rcases answered with ⟨stopped, failed⟩ | ⟨got, positive, less, delivered⟩
    · rw [if_neg (by omega)]
      exact .inr ⟨_, rfl, ⟨kept, length, by dsimp only; bv_omega, target,
        fun more => absurd rfl more, .inl failed⟩, unfinished⟩
    · have count : ((extent.read state.offset.toNat got).length : Int) = got := by
        rw [Extent.length_read]
        omega
      rw [delivered, ReadResult.res_delivered, count, if_pos (by omega)]
      have word : (BitVec.ofInt 64 (got : Int)).toNat = got := by
        rw [BitVec.ofInt_natCast, BitVec.toNat_ofNat, Nat.mod_eq_of_lt]
        have last := sz.isLt
        omega
      have left : (state.toRead - BitVec.ofInt 64 (got : Int)).toNat =
          state.toRead.toNat - got := by
        rw [toNat_sub_of_le (by omega), word]
      refine .inr ⟨_, rfl, ⟨kept, length + got, ?_, ?_, ?_, ?_⟩, ?_⟩
      · dsimp only
        omega
      · dsimp only
        rw [target, sink.write_append, ReadResult.bytes_delivered, position, Extent.read_add,
          Nat.zero_add]
      · intro _
        dsimp only
        rw [toNat_add_of_lt (by rw [word]; omega), word, position]
      · refine complete.imp_right ?_
        intro whole
        dsimp only
        omega
      · dsimp only
        omega
  · rw [if_neg unfinished]
    refine .inl ⟨_, rfl, length, ?_, ?_, target, world⟩
    · omega
    · refine complete.imp_right ?_
      intro whole
      bv_omega

/-- The loop ends, and has handed on the front of the extent, all of it unless a read failed. -/
theorem copy_part (sink : Sink Target) (start : Target) {size : U64}
    (sized : size.toNat = extent.size) (room : bufferSize ≠ 0) (small : bufferSize.toNat < 2 ^ 63)
    (transparent : Transparent
      (fun (request : U64 × U64) => reader.read stream request.1 request.2) good
      (ReadsPart extent fails)) {world : World} (initial : good world) :
    ∃ length after, length ≤ extent.size ∧ (fails ∨ length = extent.size) ∧
      copy sink reader stream size bufferSize start world =
        some (sink.write start (extent.read 0 length), after) ∧ good after := by
  have addressed : extent.size < 2 ^ 64 := sized ▸ size.isLt
  have empty : start = sink.write start (extent.read 0 0) := by
    rw [Extent.read_zero, sink.write_nil]
  have all : 0 + size.toNat = extent.size := (Nat.zero_add _).trans sized
  have begins : Copying sink extent fails good start ⟨size, 0, start, world⟩ :=
    ⟨initial, 0, all.le, empty, fun _ => rfl, .inr all⟩
  obtain ⟨⟨_, after⟩, ran, length, inside, complete, rfl, kept⟩ := Loop.run_total
    (Copying sink extent fails good start) (fun state => state.toRead.toNat) _
    (copyTurn_progress addressed room small transparent) begins (Nat.lt_succ_self size.toNat)
  exact ⟨length, after, inside, complete, ran, kept⟩

private theorem readsPart_of_extent {request : U64 × U64} {result : ReadResult}
    (addressed : extent.size < 2 ^ 64) (reads : ReadsExtent extent request result) :
    ReadsPart extent False request result := by
  intro positive small inside
  exact .inr ⟨request.1.toNat, positive, le_rfl, reads small (by omega)⟩

/-- A stream that is read as an extent is copied in full, with a buffer of any size. -/
theorem copy_extent (sink : Sink Target) (start : Target) {size : U64}
    (sized : size.toNat = extent.size) (room : bufferSize ≠ 0)
    (small : bufferSize.toNat < 2 ^ 63)
    (transparent : Transparent
      (fun (request : U64 × U64) => reader.read stream request.1 request.2) good
      (ReadsExtent extent)) {world : World} (initial : good world) :
    ∃ after, copy sink reader stream size bufferSize start world =
        some (sink.write start extent.whole, after) ∧ good after := by
  have addressed : extent.size < 2 ^ 64 := sized ▸ size.isLt
  have parts : Transparent (fun (request : U64 × U64) => reader.read stream request.1 request.2)
      good (ReadsPart extent False) :=
    ⟨fun request world held =>
      readsPart_of_extent addressed (transparent.answered request world held), transparent.kept⟩
  obtain ⟨length, after, _, complete, ran, kept⟩ := copy_part sink start sized
    room small parts initial
  rcases complete with never | whole
  · exact never.elim
  · exact ⟨after, by rw [ran, whole]; rfl, kept⟩

end Copy

/-! ## `sha1sum` -/

/-- The SHA-1 functions of OpenSSL. -/
structure Sha1 (Context : Type) extends Sink Context where
  init : Context
  final : Context → Bytes

/-- `%02x` -/
def hexByte (byte : UInt8) : Bytes :=
  let digit (value : Nat) : UInt8 := UInt8.ofNat (if value < 10 then 0x30 + value else 0x57 + value)
  [digit (byte.toNat / 16), digit (byte.toNat % 16)]

def sha1sum {Context : Type} (sha : Sha1 Context) (reader : StreamReader Stream World)
    (size : Stream → U64) (stream : Option Stream) (readSize : U64) (world : World) :
    Option (Bytes × World) :=
  match stream with
  | none => some (text "Failed: no stream?", world)
  | some stream =>
      (copy sha.toSink reader stream (size stream) readSize sha.init world).map fun result =>
        ((sha.final result.1).flatMap hexByte, result.2)

/-- The digest of a list of bytes as text. -/
def Sha1.text {Context : Type} (sha : Sha1 Context) (bytes : Bytes) : Bytes :=
  (sha.final (sha.write sha.init bytes)).flatMap hexByte

/-- The digest of a mapped image is that of its bytes, whatever was read before and however large
the buffer is. -/
theorem sha1sum_image {Context Ref Map : Type} [DecidableEq Ref] (sha : Sha1 Context)
    {objects : Ref → StreamObject} {content : Ref → Extent UInt8}
    {good : Ref → ImageState → Prop} (holds : ∀ ref, (objects ref).Holds (content ref) (good ref))
    (opened : Map → OpenedMap Ref content) (memory : Map ⊕ Ref → Nat → UInt8)
    (earlier : List ((Map ⊕ Ref) × U64 × U64)) (map : Map) {readSize : U64} (room : readSize ≠ 0)
    (small : readSize.toNat < 2 ^ 63) :
    ∃ after,
      sha1sum sha
          (mapReader (fun map => (opened map).self)
            (StreamObject.reader objects fun ref => memory (.inr ref)) fun map => memory (.inl map))
          (fun map => (opened map).self.size) (some map) readSize
          (replies (accessStore objects (fun map => (opened map).self) memory) earlier
            fun ref => (objects ref).fresh).2 =
        some (sha.text (opened map).image.whole, after) := by
  have transparent := accessStore_transparent holds opened memory
  have before := (transparent.replied earlier fun ref => (holds ref).fresh).2
  have reads : Transparent (fun (request : U64 × U64) =>
      (mapReader (fun map => (opened map).self)
        (StreamObject.reader objects fun ref => memory (.inr ref))
        fun map => memory (.inl map)).read map request.1 request.2)
      (fun world => ∀ ref, good ref (world ref)) (ReadsExtent (opened map).image) :=
    ⟨fun request => transparent.answered (.inl map, request),
      fun request => transparent.kept (.inl map, request)⟩
  obtain ⟨after, ran, _⟩ := copy_extent sha.toSink sha.init
    (show (opened map).self.size.toNat = (opened map).image.size from rfl) room small reads before
  exact ⟨after, by rw [sha1sum, ran]; rfl⟩

/-- SHA-1, as far as the bytes of the small map go. -/
def smallSha : Sha1 Bytes where
  toSink := fileSink
  init := []
  final bytes :=
    if bytes = [7, 7, 7, 7, 1, 2, 3, 4, 5, 6, 7, 7, 7, 7, 7, 7, 7, 7, 7, 7] then
      [84, 68, 145, 146, 79, 18, 180, 4, 211, 35, 29, 200, 137, 37, 174, 7, 65, 173, 135, 0]
    else []

theorem sha1sum_smallMap :
    ∃ after,
      sha1sum smallSha
          (mapReader (fun _ : Unit => smallMap.self)
            (StreamObject.reader namedObject fun _ _ => 0) fun _ _ => 0)
          (fun _ => smallMap.self.size) (some ()) 8
          (replies (accessStore namedObject (fun _ : Unit => smallMap.self) fun _ _ => 0)
            [(.inr (text "a"), 3, 1)] fun name => (namedObject name).fresh).2 =
        some (smallSha.text smallMap.image.whole, after) :=
  sha1sum_image smallSha namedObject_holds (fun _ => smallMap) (fun _ _ => 0) _ () (by decide)
    (by decide)

/-! ## `extract` -/

/-- The exit code, and the contents of the output file if it was opened. -/
structure ExtractEnd (World : Type) where
  code : Nat
  file : Option Bytes
  world : World

/-- The loop of `main` over the images, each with what `getMap` returns and, unless that is null,
what `getStream` returns. Every image is written to the one output file; `opens` tells whether
`fopen` gets it. -/
def extractImages (reader : StreamReader Stream World) (size : Stream → U64) (opens : Bool) :
    List (Option (Option Stream)) → Option Bytes → World → Option (ExtractEnd World)
  | [], file, world => some ⟨0, file, world⟩
  | none :: _, file, world => some ⟨1, file, world⟩
  | some none :: _, file, world => some ⟨1, file, world⟩
  | some (some stream) :: images, file, world =>
      if opens then
        match copy fileSink reader stream (size stream) (1024 * 1024) [] world with
        | none => none
        | some (written, world) => extractImages reader size opens images (some written) world
      else some ⟨1, file, world⟩

/-- The streams that the loop gets to. -/
def reachedStreams {Stream : Type} : List (Option (Option Stream)) → List Stream
  | some (some stream) :: images => stream :: reachedStreams images
  | _ => []

/-- `extract` leaves the bytes of the last image that it gets to, and reports success exactly where
every image has a map with a stream. -/
theorem extractImages_last {reader : StreamReader Stream World} {good : World → Prop}
    {content : Stream → Extent UInt8} (serves : reader.ServesExtents good content)
    {size : Stream → U64} (sized : ∀ stream, (size stream).toNat = (content stream).size)
    (images : List (Option (Option Stream))) (file : Option Bytes) {world : World}
    (initial : good world) :
    ∃ result, extractImages reader size true images file world = some result ∧
      result.file = (((reachedStreams images).getLast?.map fun stream => (content stream).whole).or
        file) ∧
      (result.code = 0 ↔ ∀ image ∈ images, image.join.isSome) := by
  induction images generalizing file world with
  | nil => exact ⟨_, rfl, rfl, by simp⟩
  | cons image images ih =>
      match image with
      | none => exact ⟨_, rfl, rfl, by simp⟩
      | some none => exact ⟨_, rfl, rfl, by simp⟩
      | some (some stream) =>
          have transparent : Transparent
              (fun (request : U64 × U64) => reader.read stream request.1 request.2) good
              (ReadsExtent (content stream)) :=
            ⟨fun request => serves.answered (stream, request),
              fun request => serves.kept (stream, request)⟩
          obtain ⟨after, ran, kept⟩ := copy_extent fileSink [] (sized stream)
            (show (1024 * 1024 : U64) ≠ 0 by decide) (by decide) transparent initial
          obtain ⟨result, finished, left, code⟩ := ih (some (content stream).whole) kept
          refine ⟨result, ?_, ?_, ?_⟩
          · rw [extractImages, if_pos rfl, ran]
            exact finished
          · rw [left, reachedStreams]
            cases reachedStreams images with
            | nil => rfl
            | cons next streams =>
                have last := List.getLast?_eq_some_getLast (List.cons_ne_nil next streams)
                rw [List.getLast?_cons_cons, last]
                rfl
          · rw [code]
            simp

theorem extractImages_last_smallMap :
    ∃ result,
      extractImages
          (mapReader (fun _ : Unit => smallMap.self)
            (StreamObject.reader namedObject fun _ _ => 0) fun _ _ => 0)
          (fun _ => smallMap.self.size) true [some (some ()), none] none
          (fun name => (namedObject name).fresh) = some result ∧
      result.file = some smallMap.image.whole ∧
      (result.code = 0 ↔ ∀ image ∈ [some (some ()), none], image.join.isSome) := by
  have addressed : ∀ name, (namedContent name).size < 2 ^ 64 :=
    fun name => (namedObject_holds name).addressed
  have serves := mapReader_serves (fun _ : Unit => smallMap.pictures addressed)
    (StreamObject.reader_serves namedObject_holds fun _ _ => 0) addressed fun _ _ => 0
  exact extractImages_last serves (fun _ => rfl) _ none fun name => (namedObject_holds name).fresh

end Aff4Lite.Tools
