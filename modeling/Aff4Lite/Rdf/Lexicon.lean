import Aff4Lite.Lib.OrderedMap
import Aff4Lite.Stream.Interface

/-!
# `aff4::Lexicon`

The terms of the RDF vocabulary and the URIs that they stand for.
-/

set_option autoImplicit false

namespace Aff4Lite.Rdf

open Lib Aff4Lite.Stream

inductive Lexicon where
  | unknown
  | aff4Type
  | aff4Tool
  | aff4MinorVersion
  | aff4MajorVersion
  | aff4CreationTime
  | aff4Filename
  | aff4Stored
  | aff4Contains
  | aff4Target
  | aff4ZipType
  | aff4ImageType
  | aff4DiskImageType
  | aff4VolumeImageType
  | aff4MemoryImageType
  | aff4ContiguousImageType
  | aff4DiscontiguousImageType
  | aff4MapType
  | aff4MapGapStream
  | aff4ImagestreamType
  | aff4Datastream
  | aff4DependentStream
  | aff4Size
  | aff4StreamChunkSize
  | aff4StreamVersion
  | aff4StreamChunksPerSegment
  | aff4ImageCompression
  | aff4ImageCompressionZlib
  | aff4ImageCompressionDeflate
  | aff4ImageCompressionSnappy
  | aff4ImageCompressionSnappy2
  | aff4ImageCompressionLz4
  | aff4ImageCompressionStored
  | aff4ImagestreamZero
  | aff4ImagestreamFf
  | aff4ImagestreamUnknown
  | aff4ImagestreamUnreadable
  | aff4ImagestreamSymbolicPrefix
  | aff4Hash
  | aff4DigestMd5
  | aff4DigestSha1
  | aff4DigestSha256
  | aff4DigestSha512
  | aff4DigestBlake2b
  | aff4DigestBlake2bUnderscore
  | aff4MapIdxHash
  | aff4MapPointHash
  | aff4MapPathHash
  | aff4MapHash
  | aff4DigestBlockMapHashSha512
  | aff4AcquisitionCompletionState
  | aff4AcquisitionType
  | aff4Pagesize
  | aff4MemoryPagetableEntryOffset
  | aff4MemoryInstalledSize
  | aff4MemoryAddressibleSize
  | aff4Blocksize
  | aff4DiskDeviceName
  | aff4DiskDeviceFirmware
  | aff4DiskDeviceInterface
  | aff4DiskDeviceMake
  | aff4DiskDeviceModel
  | aff4DiskDeviceSerial
  | aff4DiskDeviceSectorCount
  | aff4CaseDetails
  | aff4CaseDescription
  | aff4CaseName
  | aff4CaseExaminer
  | bbtApfsContainerType
  | bbtApfsContainerTypeT2
  | bbtApfsContainerTypeFusion
  | bbtApfsContainerTypeStandard
  | bbtContainsExtents
  | bbtContainsUnallocated
  deriving DecidableEq, Repr

/-- The order of a `std::map` with these keys. -/
instance : LinearOrder Lexicon :=
  LinearOrder.lift' Lexicon.ctorIdx fun left right same => by
    rw [← Lexicon.ofNat_ctorIdx left, ← Lexicon.ofNat_ctorIdx right, same]

/-- `AFF4_RDF_PREFIX` -/
def rdfPrefix : Bytes := text "http://www.w3.org/1999/02/22-rdf-syntax-ns#"

/-- `AFF4_BASE_URI` -/
def baseUri : Bytes := text "http://aff4.org/Schema#"

/-- `BBT_BASE_URI` -/
def bbtBaseUri : Bytes := text "https://blackbagtech.com/aff4/Schema#"

/-- In the order of the keys, as the map is iterated. -/
def lexiconMappings : List (Lexicon × Bytes) := [
  (.unknown, rdfPrefix ++ text "unknown"),
  (.aff4Type, rdfPrefix ++ text "type"),
  (.aff4Tool, baseUri ++ text "tool"),
  (.aff4MinorVersion, baseUri ++ text "toolMinorVersion"),
  (.aff4MajorVersion, baseUri ++ text "toolMajorVersion"),
  (.aff4CreationTime, baseUri ++ text "creationTime"),
  (.aff4Stored, baseUri ++ text "stored"),
  (.aff4Contains, baseUri ++ text "contains"),
  (.aff4Target, baseUri ++ text "target"),
  (.aff4ZipType, baseUri ++ text "ZipVolume"),
  (.aff4ImageType, baseUri ++ text "Image"),
  (.aff4DiskImageType, baseUri ++ text "DiskImage"),
  (.aff4VolumeImageType, baseUri ++ text "VolumeImage"),
  (.aff4MemoryImageType, baseUri ++ text "MemoryImage"),
  (.aff4ContiguousImageType, baseUri ++ text "ContiguousImage"),
  (.aff4DiscontiguousImageType, baseUri ++ text "DiscontiguousImage"),
  (.aff4MapType, baseUri ++ text "Map"),
  (.aff4MapGapStream, baseUri ++ text "mapGapDefaultStream"),
  (.aff4ImagestreamType, baseUri ++ text "ImageStream"),
  (.aff4Datastream, baseUri ++ text "dataStream"),
  (.aff4DependentStream, baseUri ++ text "dependentStream"),
  (.aff4Size, baseUri ++ text "size"),
  (.aff4StreamChunkSize, baseUri ++ text "chunkSize"),
  (.aff4StreamVersion, baseUri ++ text "version"),
  (.aff4StreamChunksPerSegment, baseUri ++ text "chunksInSegment"),
  (.aff4ImageCompression, baseUri ++ text "compressionMethod"),
  (.aff4ImageCompressionZlib, text "https://www.ietf.org/rfc/rfc1950.txt"),
  (.aff4ImageCompressionDeflate, text "https://tools.ietf.org/html/rfc1951"),
  (.aff4ImageCompressionSnappy, text "http://code.google.com/p/snappy/"),
  (.aff4ImageCompressionSnappy2, text "https://github.com/google/snappy"),
  (.aff4ImageCompressionLz4, text "https://code.google.com/p/lz4/"),
  (.aff4ImageCompressionStored, baseUri ++ text "NullCompressor"),
  (.aff4ImagestreamZero, baseUri ++ text "Zero"),
  (.aff4ImagestreamFf, baseUri ++ text "FFDevice"),
  (.aff4ImagestreamUnknown, baseUri ++ text "UnknownData"),
  (.aff4ImagestreamUnreadable, baseUri ++ text "UnreadableData"),
  (.aff4ImagestreamSymbolicPrefix, baseUri ++ text "SymbolicStream"),
  (.aff4Hash, baseUri ++ text "hash"),
  (.aff4DigestMd5, baseUri ++ text "MD5"),
  (.aff4DigestSha1, baseUri ++ text "SHA1"),
  (.aff4DigestSha256, baseUri ++ text "SHA256"),
  (.aff4DigestSha512, baseUri ++ text "SHA512"),
  (.aff4DigestBlake2b, baseUri ++ text "blake2b"),
  (.aff4DigestBlake2bUnderscore, baseUri ++ text "Blake2b"),
  (.aff4MapIdxHash, baseUri ++ text "mapIdxHash"),
  (.aff4MapPointHash, baseUri ++ text "mapPointHash"),
  (.aff4MapPathHash, baseUri ++ text "mapPathHash"),
  (.aff4MapHash, baseUri ++ text "mapHash"),
  (.aff4DigestBlockMapHashSha512, baseUri ++ text "blockMapHashSHA512"),
  (.aff4AcquisitionCompletionState, baseUri ++ text "acquisitionCompletionState"),
  (.aff4AcquisitionType, baseUri ++ text "acquisitionType"),
  (.aff4Pagesize, baseUri ++ text "pageSize"),
  (.aff4MemoryPagetableEntryOffset, baseUri ++ text "memoryPageTableEntryOffset"),
  (.aff4MemoryInstalledSize, baseUri ++ text "memoryInstalledSize"),
  (.aff4MemoryAddressibleSize, baseUri ++ text "memoryAddressableSize"),
  (.aff4Blocksize, baseUri ++ text "blockSize"),
  (.aff4DiskDeviceName, baseUri ++ text "diskDeviceName"),
  (.aff4DiskDeviceFirmware, baseUri ++ text "diskFirmware"),
  (.aff4DiskDeviceInterface, baseUri ++ text "diskInterfaceType"),
  (.aff4DiskDeviceMake, baseUri ++ text "diskMake"),
  (.aff4DiskDeviceModel, baseUri ++ text "diskModel"),
  (.aff4DiskDeviceSerial, baseUri ++ text "diskSerial"),
  (.aff4DiskDeviceSectorCount, baseUri ++ text "sectorCount"),
  (.aff4CaseDetails, baseUri ++ text "CaseDetails"),
  (.aff4CaseDescription, baseUri ++ text "caseDescription"),
  (.aff4CaseName, baseUri ++ text "caseName"),
  (.aff4CaseExaminer, baseUri ++ text "examiner"),
  (.bbtApfsContainerType, bbtBaseUri ++ text "APFSContainerType"),
  (.bbtApfsContainerTypeT2, bbtBaseUri ++ text "APFST2ContainerType"),
  (.bbtApfsContainerTypeFusion, bbtBaseUri ++ text "APFSFusionContainerType"),
  (.bbtApfsContainerTypeStandard, bbtBaseUri ++ text "APFSStandardContainerType"),
  (.bbtContainsExtents, bbtBaseUri ++ text "ContainsExtents"),
  (.bbtContainsUnallocated, bbtBaseUri ++ text "ContainsUnallocated")]

/-- The mapping of `UNKNOWN`, which is the first row. -/
def lexiconUnknownString : Bytes := rdfPrefix ++ text "unknown"

def getLexiconString (lexicon : Lexicon) : Bytes :=
  match lexiconMappings.find? fun row => row.1 = lexicon with
  | some row => row.2
  | none => lexiconUnknownString

/-- `it->second.compare(lexicon.c_str()) == 0` looks at the string up to its first NUL. -/
def getLexicon (lexicon : Bytes) : Lexicon :=
  if lexicon.length = 0 then .unknown
  else
    match lexiconMappings.find? fun row => row.2 = lexicon.takeWhile fun byte => byte ≠ 0 with
    | some row => row.1
    | none => .unknown

/-! ## Properties -/

theorem lexiconMappings_keys_nodup : (lexiconMappings.map (·.1)).Nodup := by
  decide +kernel

private theorem getLexiconString_of_mem {row : Lexicon × Bytes} (member : row ∈ lexiconMappings) :
    getLexiconString row.1 = row.2 := by
  unfold getLexiconString
  cases found : lexiconMappings.find? fun other => other.1 = row.1 with
  | none => simpa using List.find?_eq_none.mp found row member
  | some other =>
      have same : other.1 = row.1 := by simpa using List.find?_some found
      have unique := List.inj_on_of_nodup_map lexiconMappings_keys_nodup
        (List.mem_of_find?_eq_some found) member same
      rw [unique]

theorem getLexiconString_getLexicon {lexicon : Bytes} (terminated : 0 ∉ lexicon)
    (known : getLexicon lexicon ≠ .unknown) : getLexiconString (getLexicon lexicon) = lexicon := by
  have whole : (lexicon.takeWhile fun byte => byte ≠ 0) = lexicon := by
    rw [List.takeWhile_eq_self_iff]
    intro byte member
    simpa using fun zero : byte = 0 => terminated (zero ▸ member)
  unfold getLexicon at known ⊢
  split at known
  · exact absurd rfl known
  · rename_i nonempty
    rw [if_neg nonempty]
    rw [whole] at known ⊢
    cases found : lexiconMappings.find? fun row => row.2 = lexicon with
    | none => simp [found] at known
    | some row =>
        have same : row.2 = lexicon := by simpa using List.find?_some found
        exact (getLexiconString_of_mem (List.mem_of_find?_eq_some found)).trans same

end Aff4Lite.Rdf
