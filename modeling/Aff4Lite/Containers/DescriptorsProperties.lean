import Aff4Lite.Containers.Descriptors
import Aff4Lite.Stream.ChunkLoaderProperties

/-!
# Whose bytes a read returns

An open archive holds the descriptor that its constructor opened, and no other open archive
has the number. A closed one has a number only, which the next `open` may take.
-/

set_option autoImplicit false

namespace Aff4Lite.Containers

open Lib Zip Aff4Lite.Stream Utils

/-! ## One archive -/

namespace ZipObject

private theorem mem_sources {zip : ZipObject} {process : Process} {source : OpenFile} :
    source ∈ zip.sources process ↔ ∃ number, zip.fileHandle = some number ∧
      process.descriptors.lookup number = some source := by
  simp [sources, Option.bind_eq_some_iff]

theorem sources_unique {zip : ZipObject} {process : Process} {first second : OpenFile}
    (one : first ∈ zip.sources process) (other : second ∈ zip.sources process) :
    first = second := by
  obtain ⟨number, handle, found⟩ := mem_sources.mp one
  obtain ⟨again, same, stands⟩ := mem_sources.mp other
  cases handle.symm.trans same
  exact Option.some.inj (found.symm.trans stands)

/-- The archive has the descriptor that its constructor opened. -/
def Holds (zip : ZipObject) (descriptors : Slots OpenFile) : Prop :=
  ∃ number opened, zip.fileHandle = some number ∧ zip.opened = some opened ∧
    descriptors.lookup number = some opened ∧ zip.length = opened.file.length

/-- Whatever the descriptor number of the archive stands for is what its constructor opened. -/
def Own (zip : ZipObject) (process : Process) : Prop :=
  ∀ source ∈ zip.sources process, zip.opened = some source

theorem Holds.own {zip : ZipObject} {process : Process} (held : zip.Holds process.descriptors) :
    zip.Own process := by
  obtain ⟨number, opened, handle, own, found, _⟩ := held
  intro source member
  obtain ⟨other, again, stands⟩ := mem_sources.mp member
  cases handle.symm.trans again
  rw [found] at stands
  exact own.trans stands

/-- Whatever a read delivers stands in the open file of the number. -/
theorem fileRead_slice {zip : ZipObject} {process : Process} {source : OpenFile}
    (stands : source ∈ zip.sources process) (count offset : U64) :
    (zip.fileRead process count offset).bytes = slice source.file.content offset.toNat
      (zip.fileRead process count offset).bytes.length := by
  obtain ⟨number, handle, found⟩ := mem_sources.mp stands
  unfold fileRead
  split
  · exact (slice_zero _ _).symm
  · split
    · exact (slice_zero _ _).symm
    · rw [Process.pread64, handle, Option.bind_some, found]
      dsimp only
      unfold File.pread64
      split
      · exact (slice_self_length _ _ _).symm
      · exact (slice_zero _ _).symm

theorem transfers_exact {zip : ZipObject} {process : Process} {offset : U64} {bytes : Bytes}
    (stands : ∀ source ∈ zip.sources process,
      bytes = slice source.file.content offset.toNat bytes.length) :
    ∀ transfer ∈ zip.transfers process offset bytes,
      transfer.source ∈ zip.sources process ∧ transfer.Exact := by
  intro transfer member
  obtain ⟨source, inside, rfl⟩ := List.mem_map.mp member
  exact ⟨inside, stands source inside⟩

theorem Holds.fileRead {zip : ZipObject} {process : Process}
    (held : zip.Holds process.descriptors) :
    ∃ opened, zip.opened = some opened ∧ ∀ count offset,
      zip.fileRead process count offset = Zip.fileRead opened.file count offset := by
  obtain ⟨number, opened, handle, own, found, length⟩ := held
  refine ⟨opened, own, ?_⟩
  intro count offset
  unfold ZipObject.fileRead Zip.fileRead Process.pread64
  rw [handle, Option.bind_some, found, length]

end ZipObject

/-- What a read of a segment takes from the file stands in it. -/
theorem SegmentStream.transfers_exact (segment : SegmentStream) (zip : ZipObject)
    (process : Process) (count offset : U64) :
    ∀ transfer ∈ segment.transfers zip process count offset,
      transfer.source ∈ zip.sources process ∧ transfer.Exact := by
  unfold transfers
  dsimp only
  split
  · intro transfer member
    cases member
  · split
    · exact ZipObject.transfers_exact fun source stands => ZipObject.fileRead_slice stands _ _
    · exact ZipObject.transfers_exact fun source stands => ZipObject.fileRead_slice stands _ _

private theorem readSegmentThrough_alone {inflate : Bytes → Nat → Option Bytes} {zip : ZipObject}
    {process : Process} {file : File}
    (reads : ∀ count offset,
      zip.fileRead process count offset = Zip.fileRead file count offset)
    (entry : ZipEntry) (decompbuffer : Nat → UInt8) (count offset : U64) :
    readSegmentThrough inflate zip process entry decompbuffer count offset =
      readSegment inflate file entry decompbuffer count offset := by
  have packed (count : U64) :
      readCompressedThrough inflate zip process entry decompbuffer count offset =
        readCompressed inflate file entry decompbuffer count offset := by
    unfold readCompressedThrough readCompressed
    rewrite [reads]
    rfl
  unfold readSegmentThrough readSegment
  simp only [reads, packed]

namespace ImageObject

theorem createIndex_alone (image : ImageObject) {inflate : Bytes → Nat → Option Bytes}
    {zip : ZipObject} {process : Process} {file : File}
    (reads : ∀ count offset,
      zip.fileRead process count offset = Zip.fileRead file count offset)
    (bevvyID : U32) (heap decompbuffer : Nat → UInt8) :
    image.createIndex inflate zip process bevvyID heap decompbuffer =
      BevvyIndex.create ⟨file, zip.entries, image.resourceID, inflate⟩ image.resource bevvyID heap
        decompbuffer := by
  unfold createIndex
  simp only [readSegmentThrough_alone reads]
  rfl

/-- What arrives in a chunk buffer stands in the open file of the number, from where the chunk
begins on. -/
theorem fetches_slice {image : ImageObject} {inflate : Bytes → Nat → Option Bytes}
    {heap : Nat → Nat → UInt8} {zip : ZipObject} {source : OpenFile} {base : U64} {turns : Nat}
    {state : ReadLoop Process} {arrived bytes : Bytes} {after : Process}
    (fetches : (image.device inflate heap zip).Fetches turns state arrived bytes after)
    (stands : source ∈ zip.sources state.world)
    (place : ∃ position : Nat, state.position = position ∧ position ≤ arrived.length ∧
      state.chunkOffset = base + BitVec.ofNat 64 position)
    (before : arrived = slice source.file.content base.toNat arrived.length) :
    bytes = slice source.file.content base.toNat bytes.length := by
  induction fetches with
  | full => exact before
  | ended => exact before
  | @more turns state arrived part bytes middle after _ answered nonempty _ ih =>
      obtain ⟨position, same, inside, offset⟩ := place
      have unchanged : middle = state.world := (congrArg Prod.snd answered).symm
      have delivered : zip.fileRead state.world state.toRead state.chunkOffset =
          .delivered part := congrArg Prod.fst answered
      have read := ZipObject.fileRead_slice stands state.toRead state.chunkOffset
      rw [delivered, ReadResult.bytes_delivered] at read
      have small := source.file.small
      have whole := congrArg List.length before
      have positive := List.length_pos_of_ne_nil nonempty
      rw [length_slice] at whole
      have moved : state.chunkOffset.toNat = base.toNat + position := by
        rw [offset, BitVec.toNat_add, BitVec.toNat_ofNat]
        omega
      rw [moved] at read
      have next : (state.advance part.length middle).position = (position + part.length : Nat) := by
        rw [ReadLoop.advance, same]
        push_cast
        rfl
      have together := overlay_slice before read inside
      have length := length_overlay part inside
      rw [same, Int.toNat_natCast] at ih
      refine ih (unchanged ▸ stands) ⟨_, next, by omega, ?_⟩ together
      rw [ReadLoop.advance, offset]
      dsimp only
      rw [BitVec.add_assoc, BitVec.ofNat_add]
  | @again turns state arrived bytes middle after _ answered room _ ih =>
      obtain ⟨position, same, inside, offset⟩ := place
      have unchanged : middle = state.world := (congrArg Prod.snd answered).symm
      refine ih (unchanged ▸ stands) ⟨position - 1, ?_, by omega, ?_⟩ before
      · rw [ReadLoop.back]
        dsimp only
        omega
      · rw [ReadLoop.back, offset]
        dsimp only
        bv_omega

/-- What a load takes from the file stands in it. -/
theorem chunkTransfers_exact (image : ImageObject) (inflate : Bytes → Nat → Option Bytes)
    (heap : Nat → Nat → UInt8) (zip : ZipObject) (event : LoadEvent Process) :
    ∀ transfer ∈ System.chunkTransfers zip (image.stream inflate heap zip) event,
      transfer.source ∈ zip.sources event.world ∧ transfer.Exact := by
  unfold System.chunkTransfers
  dsimp only
  split
  · intro transfer member
    cases member
  · rename_i bytes after read
    refine ZipObject.transfers_exact fun source stands => ?_
    exact fetches_slice (Device.readChunk_iff.mp read) stands
      ⟨0, rfl, le_rfl, (BitVec.add_zero _).symm⟩ (slice_zero _ _).symm

end ImageObject

/-! ## The archives and the descriptors -/

/-- Every open archive has its descriptor, under a number that no other open archive has. -/
structure Live (zips : List ZipObject) (descriptors : Slots OpenFile) : Prop where
  held : ∀ {index : Nat} {zip : ZipObject}, zips[index]? = some zip → zip.closed = false →
    zip.Holds descriptors
  distinct : ∀ {left right : Nat} {zip other : ZipObject}, zips[left]? = some zip →
    zips[right]? = some other → zip.closed = false → other.closed = false →
    zip.fileHandle = other.fileHandle → left = right

/-- Archives keep their place, their number and what they opened. -/
def Extends (zips later : List ZipObject) : Prop :=
  ∀ (index : Nat) (zip : ZipObject), zips[index]? = some zip → ∃ after : ZipObject,
    later[index]? = some after ∧ after.fileHandle = zip.fileHandle ∧ after.opened = zip.opened

theorem Extends.refl (zips : List ZipObject) : Extends zips zips :=
  fun _ zip found => ⟨zip, found, rfl, rfl⟩

theorem Extends.trans {zips middle later : List ZipObject} (first : Extends zips middle)
    (second : Extends middle later) : Extends zips later := by
  intro index zip found
  obtain ⟨between, there, handle, opened⟩ := first index zip found
  obtain ⟨after, present, sameHandle, sameOpened⟩ := second index between there
  exact ⟨after, present, sameHandle.trans handle, sameOpened.trans opened⟩

theorem Extends.append (zips : List ZipObject) (zip : ZipObject) : Extends zips (zips ++ [zip]) :=
  fun _ old found => ⟨old, getElem?_append_some found, rfl, rfl⟩

private theorem ZipObject.close_members (zip : ZipObject) :
    zip.close.fileHandle = zip.fileHandle ∧ zip.close.opened = zip.opened ∧
      zip.close.closed = true := by
  unfold ZipObject.close
  split
  · rename_i closed
    exact ⟨rfl, rfl, closed⟩
  · exact ⟨rfl, rfl, rfl⟩

theorem Extends.close {zips : List ZipObject} {index : Nat} {zip : ZipObject}
    (found : zips[index]? = some zip) : Extends zips (zips.set index zip.close) := by
  intro place old there
  by_cases same : index = place
  · subst same
    cases found.symm.trans there
    have inside := (List.getElem?_eq_some_iff.mp found).1
    obtain ⟨handle, opened, _⟩ := zip.close_members
    exact ⟨zip.close, by rw [List.getElem?_set, if_pos rfl, if_pos inside], handle, opened⟩
  · exact ⟨old, by rw [List.getElem?_set, if_neg same, there], rfl, rfl⟩

theorem Live.install {zips : List ZipObject} {descriptors : Slots OpenFile}
    (live : Live zips descriptors) (opened : OpenFile) :
    Live zips (descriptors.install opened) where
  held := by
    intro index zip found isOpen
    obtain ⟨number, own, handle, opened, stands, length⟩ := live.held found isOpen
    refine ⟨number, own, handle, opened, ?_, length⟩
    rw [Slots.lookup_install, if_neg, stands]
    intro free
    rw [free, Slots.lookup_lowestFree] at stands
    cases stands
  distinct := live.distinct

theorem Live.release {zips : List ZipObject} {descriptors : Slots OpenFile}
    (live : Live zips descriptors) {number : Nat}
    (other : ∀ zip ∈ zips, zip.closed = false → zip.fileHandle ≠ some number) :
    Live zips (descriptors.release number) where
  held := by
    intro index zip found isOpen
    obtain ⟨held, own, handle, opened, stands, length⟩ := live.held found isOpen
    refine ⟨held, own, handle, opened, ?_, length⟩
    rw [Slots.lookup_release, if_neg, stands]
    rintro rfl
    exact other zip (List.mem_of_getElem? found) isOpen handle
  distinct := live.distinct

/-- A new archive, closed from the start or with a number that no open one has. -/
theorem Live.append {zips : List ZipObject} {descriptors : Slots OpenFile}
    (live : Live zips descriptors) {added : ZipObject}
    (fits : added.closed = false → added.Holds descriptors ∧
      ∀ zip ∈ zips, zip.closed = false → zip.fileHandle ≠ added.fileHandle) :
    Live (zips ++ [added]) descriptors where
  held := by
    intro index zip found isOpen
    rcases getElem?_append_singleton found with old | ⟨_, rfl⟩
    · exact live.held old isOpen
    · exact (fits isOpen).1
  distinct := by
    intro left right zip other first second isOpen otherOpen handle
    rcases getElem?_append_singleton first with old | ⟨place, rfl⟩
    · rcases getElem?_append_singleton second with older | ⟨_, rfl⟩
      · exact live.distinct old older isOpen otherOpen handle
      · exact ((fits otherOpen).2 zip (List.mem_of_getElem? old) isOpen handle).elim
    · rcases getElem?_append_singleton second with older | ⟨again, _⟩
      · exact ((fits isOpen).2 other (List.mem_of_getElem? older) otherOpen handle.symm).elim
      · rw [place, again]

theorem Live.close {zips : List ZipObject} {process : Process}
    (live : Live zips process.descriptors) {index : Nat} {zip : ZipObject}
    (found : zips[index]? = some zip) :
    Live (zips.set index zip.close) (process.closeZip zip).descriptors := by
  have shut := zip.close_members.2.2
  have rest : Live (zips.set index zip.close) process.descriptors := by
    constructor
    · intro place other there isOpen
      rcases getElem?_set_some there with ⟨_, rfl⟩ | ⟨_, old⟩
      · cases shut.symm.trans isOpen
      · exact live.held old isOpen
    · intro left right one other first second isOpen otherOpen handle
      rcases getElem?_set_some first with ⟨_, rfl⟩ | ⟨_, old⟩
      · cases shut.symm.trans isOpen
      · rcases getElem?_set_some second with ⟨_, rfl⟩ | ⟨_, older⟩
        · cases shut.symm.trans otherOpen
        · exact live.distinct old older isOpen otherOpen handle
  unfold Process.closeZip
  split
  · exact rest
  · rename_i wasOpen
    split
    · exact rest
    · rename_i number handle
      refine rest.release ?_
      intro other member isOpen same
      obtain ⟨place, there⟩ := List.mem_iff_getElem?.mp member
      rcases getElem?_set_some there with ⟨_, rfl⟩ | ⟨elsewhere, old⟩
      · cases shut.symm.trans isOpen
      · exact elsewhere (live.distinct old found isOpen (by simpa using wasOpen)
          (same.trans handle.symm))

/-! ## The streams and the reads -/

/-- A cached chunk was loaded while the number stood for the archive's own file. -/
def ZipObject.OwnChunk (zip : ZipObject) :
    Except (ReadFault Process) (ChunkBuffer Process) → Prop :=
  DeviceStream.Tracked fun event => zip.Own event.world

private theorem own_congr {zip after : ZipObject} (handle : after.fileHandle = zip.fileHandle)
    (opened : after.opened = zip.opened) {process : Process} (own : zip.Own process) :
    after.Own process := by
  intro source member
  rw [ZipObject.sources, handle] at member
  exact opened.trans (own source member)

/-- The image stream belongs to an archive, from whose file its cached chunks are. -/
def ImageObject.OwnCache (image : ImageObject) (zips : List ZipObject) : Prop :=
  ∃ zip, zips[image.zip]? = some zip ∧ image.chunkCache.All fun _ value => zip.OwnChunk value

/-- What was returned is from the file that the archive's own constructor opened. -/
def Returned.Own (returned : Returned) (zips : List ZipObject) : Prop :=
  ∃ zip, zips[returned.zip]? = some zip ∧
    ∀ transfer ∈ returned.transfers, transfer.Exact ∧ zip.opened = some transfer.source

theorem ImageObject.OwnCache.extends {image : ImageObject} {zips later : List ZipObject}
    (own : image.OwnCache zips) (grown : Extends zips later) : image.OwnCache later := by
  obtain ⟨zip, found, cached⟩ := own
  obtain ⟨after, there, handle, opened⟩ := grown _ _ found
  refine ⟨after, there, ?_⟩
  intro item member
  have chunk := cached item member
  cases value : item.2 with
  | error fault => trivial
  | ok buffer =>
      rw [value] at chunk
      intro event source
      exact own_congr handle opened (chunk event source)

theorem Returned.Own.extends {returned : Returned} {zips later : List ZipObject}
    (own : returned.Own zips) (grown : Extends zips later) : returned.Own later := by
  obtain ⟨zip, found, transfers⟩ := own
  obtain ⟨after, there, _, opened⟩ := grown _ _ found
  exact ⟨after, there, fun transfer member =>
    ⟨(transfers transfer member).1, opened.trans (transfers transfer member).2⟩⟩

/-- What holds of every system that an undisturbed run reaches. -/
structure Consistent (system : System) : Prop where
  live : Live system.zips system.process.descriptors
  serials : ∀ zip ∈ system.zips, ∀ opened, zip.opened = some opened → opened.serial < system.opens
  images : ∀ image ∈ system.images, image.OwnCache system.zips
  returned : ∀ returned ∈ system.returned, returned.Own system.zips

theorem initial_consistent (process : Process) (opens : Nat) :
    Consistent (.initial process opens) where
  live := by
    constructor
    · intro index zip found
      cases found
    · intro left right zip other found
      cases found
  serials := by
    intro zip member
    cases member
  images := by
    intro image member
    cases member
  returned := by
    intro returned member
    cases member

/-- An archive that is open, or whose number is not in use, cannot be read from another file. -/
theorem Consistent.own {system : System} (consistent : Consistent system) {index : Nat}
    {zip : ZipObject} (found : system.zips[index]? = some zip) (unused : system.Unused index) :
    zip.Own system.process := by
  cases closed : zip.closed with
  | false => exact (consistent.live.held found closed).own
  | true =>
      intro source member
      obtain ⟨number, handle, stands⟩ := ZipObject.mem_sources.mp member
      cases (unused zip found closed number handle).symm.trans stands

theorem Consistent.reads_alone {system : System} (consistent : Consistent system) {index : Nat}
    {zip : ZipObject} (found : system.zips[index]? = some zip) (isOpen : zip.closed = false) :
    ∃ opened, zip.opened = some opened ∧ ∀ count offset,
      zip.fileRead system.process count offset = Zip.fileRead opened.file count offset :=
  (consistent.live.held found isOpen).fileRead

private theorem device_keeps (image : ImageObject) (inflate : Bytes → Nat → Option Bytes)
    (heap : Nat → Nat → UInt8) (zip : ZipObject) (descriptors : Slots OpenFile) :
    DeviceStream.Keeps (image.device inflate heap zip)
      (fun process => process.descriptors = descriptors) where
  fileRead := fun _ _ _ same => same
  loadIndex := fun _ _ same => same
  decompress := fun _ _ _ same => same
  allocate := fun _ same => same

/-- What a read of an image stream leaves in the cache and copies from is from the archive's
own file, when its number stands for nothing else or the stream is closed. -/
theorem readImage_own {image : ImageObject} {inflate : Bytes → Nat → Option Bytes}
    {heap : Nat → Nat → UInt8} {zip : ZipObject} {process : Process}
    (cached : image.chunkCache.All fun _ value => zip.OwnChunk value)
    (either : image.closed = true ∨ zip.Own process) {memory : Nat → Cell} {count offset : U64}
    {finish : DeviceStream.ReadEnd Process}
    (ran : (image.stream inflate heap zip).read memory count offset (image.state process) =
      some (.ok finish)) :
    finish.state.world.descriptors = process.descriptors ∧
      (finish.state.chunkCache.All fun _ value => zip.OwnChunk value) ∧
      ∀ transfer ∈ (System.imageReturned image.zip zip (image.stream inflate heap zip)
          finish).transfers,
        transfer.Exact ∧ zip.opened = some transfer.source := by
  have kept : DeviceStream.Kept zip.OwnChunk
        (fun after => after.descriptors = process.descriptors) finish.state ∧
      ∀ chunk ∈ finish.touched, zip.OwnChunk (.ok chunk.2) := by
    rcases either with closed | own
    · rw [DeviceStream.read, if_pos (show (image.stream inflate heap zip).closed = true from
        closed)] at ran
      cases ran
      refine ⟨⟨cached, rfl⟩, ?_⟩
      intro chunk member
      cases member
    · have loads : (image.stream inflate heap zip).Loads zip.OwnChunk
          (fun after => after.descriptors = process.descriptors) := by
        refine DeviceStream.loads_tracked (device_keeps image inflate heap zip _) ?_
        intro event same source member
        rw [ZipObject.sources, same] at member
        exact own source member
      exact DeviceStream.read_preserves loads trivial ⟨cached, rfl⟩ ran
  obtain ⟨⟨after, world⟩, touched⟩ := kept
  refine ⟨world, after, ?_⟩
  intro transfer member
  obtain ⟨chunk, inside, taken⟩ := List.mem_flatMap.mp member
  have chunkOwn := touched chunk inside
  cases origin : chunk.2.source with
  | none =>
      rw [origin] at taken
      cases taken
  | some event =>
      rw [origin] at taken
      obtain ⟨stands, exactly⟩ := image.chunkTransfers_exact inflate heap zip event transfer taken
      exact ⟨exactly, chunkOwn event origin _ stands⟩

/-! ## Steps and runs -/

theorem Consistent.carry {system after : System} (grown : Extends system.zips after.zips)
    (live : Live after.zips after.process.descriptors)
    (serials : ∀ zip ∈ after.zips, ∀ opened, zip.opened = some opened →
      opened.serial < after.opens)
    (images : ∀ image ∈ after.images, image.OwnCache system.zips)
    (returned : ∀ returned ∈ after.returned, returned.Own system.zips) : Consistent after where
  live := live
  serials := serials
  images := fun image member => (images image member).extends grown
  returned := fun read member => (returned read member).extends grown

private theorem openFile_consistent {system : System} (consistent : Consistent system)
    (file : File) :
    Consistent (system.openFile file) where
  live := consistent.live.install _
  serials := fun zip member opened own =>
    Nat.lt_succ_of_lt (consistent.serials zip member opened own)
  images := consistent.images
  returned := consistent.returned

theorem openZip_consistent {system : System} (consistent : Consistent system) (file : File)
    (entries : List ZipEntry) :
    Consistent (system.openZip file entries) ∧
      Extends system.zips (system.openZip file entries).zips := by
  have grown := Extends.append system.zips {
    opened := some ⟨system.opens, file⟩
    fileHandle := some system.process.descriptors.lowestFree
    length := file.length
    closed := false
    entries := entries }
  refine ⟨.carry grown ?_ ?_ consistent.images consistent.returned, grown⟩
  · refine (openFile_consistent consistent file).live.append fun _ => ⟨?_, ?_⟩
    · refine ⟨_, _, rfl, rfl, ?_, rfl⟩
      exact (Slots.lookup_install _ _).trans (if_pos rfl)
    · intro zip member isOpen handle
      obtain ⟨index, found⟩ := List.mem_iff_getElem?.mp member
      obtain ⟨number, opened, held, _, stands, _⟩ := consistent.live.held found isOpen
      cases held.symm.trans handle
      exact absurd stands (by simp [Slots.lookup_lowestFree])
  · intro zip member opened own
    rcases List.mem_append.mp member with old | added
    · exact (openFile_consistent consistent file).serials zip old opened own
    · cases List.mem_singleton.mp added
      cases own
      exact Nat.lt_succ_self _

theorem closeZip_consistent {system : System} (consistent : Consistent system) {index : Nat}
    {zip : ZipObject} (found : system.zips[index]? = some zip) :
    Consistent (system.closeZip index zip) ∧
      Extends system.zips (system.closeZip index zip).zips := by
  have grown := Extends.close found
  refine ⟨.carry grown (consistent.live.close found) ?_ consistent.images consistent.returned,
    grown⟩
  intro other member opened own
  rcases List.mem_or_eq_of_mem_set member with old | rfl
  · exact consistent.serials other old opened own
  · rw [zip.close_members.2.1] at own
    exact consistent.serials zip (List.mem_of_getElem? found) opened own

/-- A read whose bytes are from its archive's own file. -/
theorem giveBack_consistent {system : System} (consistent : Consistent system) {process : Process}
    (same : process.descriptors = system.process.descriptors) {returned : Returned}
    (own : returned.Own system.zips) : Consistent (system.giveBack process returned) where
  live := by
    unfold System.giveBack
    dsimp only
    rw [same]
    exact consistent.live
  serials := consistent.serials
  images := consistent.images
  returned := by
    intro read member
    rcases List.mem_append.mp member with old | added
    · exact consistent.returned read old
    · rw [List.mem_singleton.mp added]
      exact own

private theorem readImageStream_consistent {inflate : Bytes → Nat → Option Bytes}
    {heap : Nat → Nat → UInt8} {system : System} (consistent : Consistent system) {index : Nat}
    {image : ImageObject} {zip : ZipObject} (present : system.images[index]? = some image)
    (found : system.zips[image.zip]? = some zip)
    (either : image.closed = true ∨ system.Unused image.zip) {count offset : U64}
    {finish : DeviceStream.ReadEnd Process}
    (ran : (image.stream inflate heap zip).read (fun _ => ⟨0, .uninitialised⟩) count offset
      (image.state system.process) = some (.ok finish)) :
    Consistent (system.finishRead index image zip (image.stream inflate heap zip) finish) := by
  obtain ⟨owner, again, cached⟩ := consistent.images image (List.mem_of_getElem? present)
  cases found.symm.trans again
  obtain ⟨same, kept, transfers⟩ := readImage_own cached
    (either.imp_right fun unused => consistent.own found unused) ran
  have own : (System.imageReturned image.zip zip (image.stream inflate heap zip) finish).Own
      system.zips := ⟨zip, found, transfers⟩
  have read := giveBack_consistent consistent same own
  refine ⟨read.live, read.serials, ?_, read.returned⟩
  intro other member
  rcases List.mem_or_eq_of_mem_set member with old | rfl
  · exact consistent.images other old
  · exact ⟨zip, found, kept⟩

section Steps

variable {inflate : Bytes → Nat → Option Bytes} {heap : Nat → Nat → UInt8}

private theorem step_consistent {system after : System} {operation : Operation}
    (consistent : Consistent system) (undisturbed : Undisturbed system operation)
    (step : Step inflate heap system operation after) :
    Consistent after ∧ Extends system.zips after.zips := by
  have grown := Extends.refl system.zips
  cases step with
  | openZip parsed => exact openZip_consistent consistent _ _
  | openFails =>
      have longer := Extends.append system.zips .notOpened
      refine ⟨.carry longer (consistent.live.append fun isOpen => by cases isOpen) ?_
        consistent.images consistent.returned, longer⟩
      intro zip member opened own
      rcases List.mem_append.mp member with old | added
      · exact consistent.serials zip old opened own
      · cases List.mem_singleton.mp added
        cases own
  | closeZip found => exact closeZip_consistent consistent found
  | openOther file => exact ⟨openFile_consistent consistent file, grown⟩
  | closeOther other =>
      exact ⟨⟨consistent.live.release other, consistent.serials, consistent.images,
        consistent.returned⟩, grown⟩
  | getStream found entry =>
      exact ⟨⟨consistent.live, consistent.serials, consistent.images, consistent.returned⟩, grown⟩
  | closeStream present =>
      exact ⟨⟨consistent.live, consistent.serials, consistent.images, consistent.returned⟩, grown⟩
  | @getImageStream image zip found fresh =>
      refine ⟨⟨consistent.live, consistent.serials, ?_, consistent.returned⟩, grown⟩
      intro other member
      rcases List.mem_append.mp member with old | added
      · exact consistent.images other old
      · rw [List.mem_singleton.mp added]
        refine ⟨zip, found, ?_⟩
        rw [fresh.2.1]
        intro item inside
        cases inside
  | @closeImageStream index image present =>
      refine ⟨⟨consistent.live, consistent.serials, ?_, consistent.returned⟩, grown⟩
      intro other member
      rcases List.mem_or_eq_of_mem_set member with old | rfl
      · exact consistent.images other old
      · exact consistent.images image (List.mem_of_getElem? present)
  | fileRead count offset found =>
      refine ⟨giveBack_consistent consistent rfl ⟨_, found, fun transfer member => ?_⟩, grown⟩
      obtain ⟨stands, exactly⟩ := ZipObject.transfers_exact
        (fun source stands => ZipObject.fileRead_slice stands count offset) transfer member
      exact ⟨exactly, consistent.own found undisturbed _ stands⟩
  | @readStream index segment zip count offset present found =>
      refine ⟨giveBack_consistent consistent ?_ ?_, grown⟩
      · rfl
      refine ⟨zip, found, fun transfer member => ?_⟩
      rcases undisturbed segment present with closed | unused
      · simp [SegmentStream.transfers, closed] at member
      · obtain ⟨stands, exactly⟩ :=
          segment.transfers_exact zip system.process count offset transfer member
        exact ⟨exactly, consistent.own found unused _ stands⟩
  | readImageStream present found ran =>
      exact ⟨readImageStream_consistent consistent present found (undisturbed _ present) ran,
        grown⟩

private theorem run_consistent {start system : System} (consistent : Consistent start)
    (run : Run inflate heap Undisturbed start system) :
    Consistent system ∧ Extends start.zips system.zips := by
  induction run with
  | refl => exact ⟨consistent, .refl _⟩
  | step _ undisturbed step ih =>
      obtain ⟨after, grown⟩ := step_consistent ih.1 undisturbed step
      exact ⟨after, ih.2.trans grown⟩

end Steps

/-! ## Two files -/

def firstFile : File := ⟨[1, 2, 3], by decide⟩

def secondFile : File := ⟨[4, 5, 6], by decide⟩

def noInflate : Bytes → Nat → Option Bytes := fun _ _ => none

def zeroHeap : Nat → Nat → UInt8 := fun _ _ => 0

def emptyProcess : Process := ⟨[], 0⟩

def firstOpened : System := (System.initial emptyProcess 0).openZip firstFile []

def firstZip : ZipObject := ⟨some ⟨0, firstFile⟩, some 0, 3, false, []⟩

def firstClosed : System := firstOpened.closeZip 0 firstZip

def secondOpened : System := firstClosed.openZip secondFile []

def firstReturned : Returned :=
  ⟨0, firstZip.fileRead firstOpened.process 2 1, firstZip.transfers firstOpened.process 1
    (firstZip.fileRead firstOpened.process 2 1).bytes⟩

def firstRead : System := firstOpened.giveBack firstOpened.process firstReturned

private theorem parses_firstFile : ParsesTo firstFile zeroHeap (.returned ⟨[], [], .eio⟩) :=
  ⟨0, rfl⟩

private theorem parses_secondFile : ParsesTo secondFile zeroHeap (.returned ⟨[], [], .eio⟩) :=
  ⟨0, rfl⟩

end Aff4Lite.Containers
