import Aff4Lite.Lib.Bytes

/-!
# `aff4::zip::structs`

The packed records of a zip file, with the default values of their signatures. `ofBytes`
is the cast of a buffer to the record, `toBytes` its image in memory.
-/

set_option autoImplicit false

namespace Aff4Lite.Zip

open Lib

structure EndCentralDirectory where
  magic : U32
  number_of_this_disk : U16
  disk_with_cd : U16
  total_entries_in_cd_on_disk : U16
  total_entries_in_cd : U16
  size_of_cd : U32
  offset_of_cd : U32
  comment_len : U16
  deriving DecidableEq, Repr

namespace EndCentralDirectory

def defaultMagic : U32 := 0x6054b50

def sizeof : Nat := 22

def widths : List Nat := [4, 2, 2, 2, 2, 4, 4, 2]

def values (record : EndCentralDirectory) : List Nat :=
  [record.magic.toNat, record.number_of_this_disk.toNat, record.disk_with_cd.toNat,
    record.total_entries_in_cd_on_disk.toNat, record.total_entries_in_cd.toNat,
    record.size_of_cd.toNat, record.offset_of_cd.toNat, record.comment_len.toNat]

def toBytes (record : EndCentralDirectory) : Bytes := pack widths record.values

def ofBytes (bytes : Bytes) : EndCentralDirectory where
  magic := wordAt 32 0 bytes
  number_of_this_disk := wordAt 16 4 bytes
  disk_with_cd := wordAt 16 6 bytes
  total_entries_in_cd_on_disk := wordAt 16 8 bytes
  total_entries_in_cd := wordAt 16 10 bytes
  size_of_cd := wordAt 32 12 bytes
  offset_of_cd := wordAt 32 16 bytes
  comment_len := wordAt 16 20 bytes

@[simp] theorem length_toBytes (record : EndCentralDirectory) : record.toBytes.length = sizeof :=
  length_pack rfl

theorem ofBytes_append (record : EndCentralDirectory) (rest : Bytes) :
    ofBytes (record.toBytes ++ rest) = record := by
  unfold ofBytes toBytes
  rw [wordAt_pack widths record.values 0 0 record.magic (by decide) rfl,
    wordAt_pack widths record.values 1 4 record.number_of_this_disk (by decide) rfl,
    wordAt_pack widths record.values 2 6 record.disk_with_cd (by decide) rfl,
    wordAt_pack widths record.values 3 8 record.total_entries_in_cd_on_disk (by decide) rfl,
    wordAt_pack widths record.values 4 10 record.total_entries_in_cd (by decide) rfl,
    wordAt_pack widths record.values 5 12 record.size_of_cd (by decide) rfl,
    wordAt_pack widths record.values 6 16 record.offset_of_cd (by decide) rfl,
    wordAt_pack widths record.values 7 20 record.comment_len (by decide) rfl]

end EndCentralDirectory

structure CDFileHeader where
  magic : U32
  version_made_by : U16
  version_needed : U16
  flags : U16
  compression_method : U16
  dostime : U16
  dosdate : U16
  crc32_cs : U32
  compress_size : U32
  file_size : U32
  file_name_length : U16
  extra_field_len : U16
  file_comment_length : U16
  disk_number_start : U16
  internal_file_attr : U16
  external_file_attr : U32
  relative_offset_local_header : U32
  deriving DecidableEq, Repr

namespace CDFileHeader

def defaultMagic : U32 := 0x2014b50

def sizeof : Nat := 46

def widths : List Nat := [4, 2, 2, 2, 2, 2, 2, 4, 4, 4, 2, 2, 2, 2, 2, 4, 4]

def values (record : CDFileHeader) : List Nat :=
  [record.magic.toNat, record.version_made_by.toNat, record.version_needed.toNat,
    record.flags.toNat, record.compression_method.toNat, record.dostime.toNat, record.dosdate.toNat,
    record.crc32_cs.toNat, record.compress_size.toNat, record.file_size.toNat,
    record.file_name_length.toNat, record.extra_field_len.toNat, record.file_comment_length.toNat,
    record.disk_number_start.toNat, record.internal_file_attr.toNat,
    record.external_file_attr.toNat, record.relative_offset_local_header.toNat]

def toBytes (record : CDFileHeader) : Bytes := pack widths record.values

def ofBytes (bytes : Bytes) : CDFileHeader where
  magic := wordAt 32 0 bytes
  version_made_by := wordAt 16 4 bytes
  version_needed := wordAt 16 6 bytes
  flags := wordAt 16 8 bytes
  compression_method := wordAt 16 10 bytes
  dostime := wordAt 16 12 bytes
  dosdate := wordAt 16 14 bytes
  crc32_cs := wordAt 32 16 bytes
  compress_size := wordAt 32 20 bytes
  file_size := wordAt 32 24 bytes
  file_name_length := wordAt 16 28 bytes
  extra_field_len := wordAt 16 30 bytes
  file_comment_length := wordAt 16 32 bytes
  disk_number_start := wordAt 16 34 bytes
  internal_file_attr := wordAt 16 36 bytes
  external_file_attr := wordAt 32 38 bytes
  relative_offset_local_header := wordAt 32 42 bytes

@[simp] theorem length_toBytes (record : CDFileHeader) : record.toBytes.length = sizeof :=
  length_pack rfl

theorem ofBytes_append (record : CDFileHeader) (rest : Bytes) :
    ofBytes (record.toBytes ++ rest) = record := by
  unfold ofBytes toBytes
  rw [wordAt_pack widths record.values 0 0 record.magic (by decide) rfl,
    wordAt_pack widths record.values 1 4 record.version_made_by (by decide) rfl,
    wordAt_pack widths record.values 2 6 record.version_needed (by decide) rfl,
    wordAt_pack widths record.values 3 8 record.flags (by decide) rfl,
    wordAt_pack widths record.values 4 10 record.compression_method (by decide) rfl,
    wordAt_pack widths record.values 5 12 record.dostime (by decide) rfl,
    wordAt_pack widths record.values 6 14 record.dosdate (by decide) rfl,
    wordAt_pack widths record.values 7 16 record.crc32_cs (by decide) rfl,
    wordAt_pack widths record.values 8 20 record.compress_size (by decide) rfl,
    wordAt_pack widths record.values 9 24 record.file_size (by decide) rfl,
    wordAt_pack widths record.values 10 28 record.file_name_length (by decide) rfl,
    wordAt_pack widths record.values 11 30 record.extra_field_len (by decide) rfl,
    wordAt_pack widths record.values 12 32 record.file_comment_length (by decide) rfl,
    wordAt_pack widths record.values 13 34 record.disk_number_start (by decide) rfl,
    wordAt_pack widths record.values 14 36 record.internal_file_attr (by decide) rfl,
    wordAt_pack widths record.values 15 38 record.external_file_attr (by decide) rfl,
    wordAt_pack widths record.values 16 42 record.relative_offset_local_header (by decide) rfl]

end CDFileHeader

structure ZipFileHeader where
  magic : U32
  version : U16
  flags : U16
  compression_method : U16
  lastmodtime : U16
  lastmoddate : U16
  crc32_cs : U32
  compress_size : U32
  file_size : U32
  file_name_length : U16
  extra_field_len : U16
  deriving DecidableEq, Repr

namespace ZipFileHeader

def defaultMagic : U32 := 0x4034b50

def sizeof : Nat := 30

def widths : List Nat := [4, 2, 2, 2, 2, 2, 4, 4, 4, 2, 2]

def values (record : ZipFileHeader) : List Nat :=
  [record.magic.toNat, record.version.toNat, record.flags.toNat, record.compression_method.toNat,
    record.lastmodtime.toNat, record.lastmoddate.toNat, record.crc32_cs.toNat,
    record.compress_size.toNat, record.file_size.toNat, record.file_name_length.toNat,
    record.extra_field_len.toNat]

def toBytes (record : ZipFileHeader) : Bytes := pack widths record.values

def ofBytes (bytes : Bytes) : ZipFileHeader where
  magic := wordAt 32 0 bytes
  version := wordAt 16 4 bytes
  flags := wordAt 16 6 bytes
  compression_method := wordAt 16 8 bytes
  lastmodtime := wordAt 16 10 bytes
  lastmoddate := wordAt 16 12 bytes
  crc32_cs := wordAt 32 14 bytes
  compress_size := wordAt 32 18 bytes
  file_size := wordAt 32 22 bytes
  file_name_length := wordAt 16 26 bytes
  extra_field_len := wordAt 16 28 bytes

@[simp] theorem length_toBytes (record : ZipFileHeader) : record.toBytes.length = sizeof :=
  length_pack rfl

theorem ofBytes_append (record : ZipFileHeader) (rest : Bytes) :
    ofBytes (record.toBytes ++ rest) = record := by
  unfold ofBytes toBytes
  rw [wordAt_pack widths record.values 0 0 record.magic (by decide) rfl,
    wordAt_pack widths record.values 1 4 record.version (by decide) rfl,
    wordAt_pack widths record.values 2 6 record.flags (by decide) rfl,
    wordAt_pack widths record.values 3 8 record.compression_method (by decide) rfl,
    wordAt_pack widths record.values 4 10 record.lastmodtime (by decide) rfl,
    wordAt_pack widths record.values 5 12 record.lastmoddate (by decide) rfl,
    wordAt_pack widths record.values 6 14 record.crc32_cs (by decide) rfl,
    wordAt_pack widths record.values 7 18 record.compress_size (by decide) rfl,
    wordAt_pack widths record.values 8 22 record.file_size (by decide) rfl,
    wordAt_pack widths record.values 9 26 record.file_name_length (by decide) rfl,
    wordAt_pack widths record.values 10 28 record.extra_field_len (by decide) rfl]

end ZipFileHeader

structure ZipExtraFieldHeader where
  header_id : U16
  data_size : U16
  deriving DecidableEq, Repr

namespace ZipExtraFieldHeader

def sizeof : Nat := 4

def widths : List Nat := [2, 2]

def values (record : ZipExtraFieldHeader) : List Nat :=
  [record.header_id.toNat, record.data_size.toNat]

def toBytes (record : ZipExtraFieldHeader) : Bytes := pack widths record.values

def ofBytes (bytes : Bytes) : ZipExtraFieldHeader where
  header_id := wordAt 16 0 bytes
  data_size := wordAt 16 2 bytes

@[simp] theorem length_toBytes (record : ZipExtraFieldHeader) : record.toBytes.length = sizeof :=
  length_pack rfl

theorem ofBytes_append (record : ZipExtraFieldHeader) (rest : Bytes) :
    ofBytes (record.toBytes ++ rest) = record := by
  unfold ofBytes toBytes
  rw [wordAt_pack widths record.values 0 0 record.header_id (by decide) rfl,
    wordAt_pack widths record.values 1 2 record.data_size (by decide) rfl]

end ZipExtraFieldHeader

structure Zip64EndCD where
  magic : U32
  size_of_header : U64
  version_made_by : U16
  version_needed : U16
  number_of_disk : U32
  number_of_disk_with_cd : U32
  number_of_entries_in_volume : U64
  number_of_entries_in_total : U64
  size_of_cd : U64
  offset_of_cd : U64
  deriving DecidableEq, Repr

namespace Zip64EndCD

def defaultMagic : U32 := 0x06064b50

def sizeof : Nat := 56

def widths : List Nat := [4, 8, 2, 2, 4, 4, 8, 8, 8, 8]

def values (record : Zip64EndCD) : List Nat :=
  [record.magic.toNat, record.size_of_header.toNat, record.version_made_by.toNat,
    record.version_needed.toNat, record.number_of_disk.toNat, record.number_of_disk_with_cd.toNat,
    record.number_of_entries_in_volume.toNat, record.number_of_entries_in_total.toNat,
    record.size_of_cd.toNat, record.offset_of_cd.toNat]

def toBytes (record : Zip64EndCD) : Bytes := pack widths record.values

def ofBytes (bytes : Bytes) : Zip64EndCD where
  magic := wordAt 32 0 bytes
  size_of_header := wordAt 64 4 bytes
  version_made_by := wordAt 16 12 bytes
  version_needed := wordAt 16 14 bytes
  number_of_disk := wordAt 32 16 bytes
  number_of_disk_with_cd := wordAt 32 20 bytes
  number_of_entries_in_volume := wordAt 64 24 bytes
  number_of_entries_in_total := wordAt 64 32 bytes
  size_of_cd := wordAt 64 40 bytes
  offset_of_cd := wordAt 64 48 bytes

@[simp] theorem length_toBytes (record : Zip64EndCD) : record.toBytes.length = sizeof :=
  length_pack rfl

theorem ofBytes_append (record : Zip64EndCD) (rest : Bytes) :
    ofBytes (record.toBytes ++ rest) = record := by
  unfold ofBytes toBytes
  rw [wordAt_pack widths record.values 0 0 record.magic (by decide) rfl,
    wordAt_pack widths record.values 1 4 record.size_of_header (by decide) rfl,
    wordAt_pack widths record.values 2 12 record.version_made_by (by decide) rfl,
    wordAt_pack widths record.values 3 14 record.version_needed (by decide) rfl,
    wordAt_pack widths record.values 4 16 record.number_of_disk (by decide) rfl,
    wordAt_pack widths record.values 5 20 record.number_of_disk_with_cd (by decide) rfl,
    wordAt_pack widths record.values 6 24 record.number_of_entries_in_volume (by decide) rfl,
    wordAt_pack widths record.values 7 32 record.number_of_entries_in_total (by decide) rfl,
    wordAt_pack widths record.values 8 40 record.size_of_cd (by decide) rfl,
    wordAt_pack widths record.values 9 48 record.offset_of_cd (by decide) rfl]

end Zip64EndCD

structure Zip64CDLocator where
  magic : U32
  disk_with_cd : U32
  offset_of_end_cd : U64
  number_of_disks : U32
  deriving DecidableEq, Repr

namespace Zip64CDLocator

def defaultMagic : U32 := 0x07064b50

def sizeof : Nat := 20

def widths : List Nat := [4, 4, 8, 4]

def values (record : Zip64CDLocator) : List Nat :=
  [record.magic.toNat, record.disk_with_cd.toNat, record.offset_of_end_cd.toNat,
    record.number_of_disks.toNat]

def toBytes (record : Zip64CDLocator) : Bytes := pack widths record.values

def ofBytes (bytes : Bytes) : Zip64CDLocator where
  magic := wordAt 32 0 bytes
  disk_with_cd := wordAt 32 4 bytes
  offset_of_end_cd := wordAt 64 8 bytes
  number_of_disks := wordAt 32 16 bytes

@[simp] theorem length_toBytes (record : Zip64CDLocator) : record.toBytes.length = sizeof :=
  length_pack rfl

theorem ofBytes_append (record : Zip64CDLocator) (rest : Bytes) :
    ofBytes (record.toBytes ++ rest) = record := by
  unfold ofBytes toBytes
  rw [wordAt_pack widths record.values 0 0 record.magic (by decide) rfl,
    wordAt_pack widths record.values 1 4 record.disk_with_cd (by decide) rfl,
    wordAt_pack widths record.values 2 8 record.offset_of_end_cd (by decide) rfl,
    wordAt_pack widths record.values 3 16 record.number_of_disks (by decide) rfl]

end Zip64CDLocator

end Aff4Lite.Zip
