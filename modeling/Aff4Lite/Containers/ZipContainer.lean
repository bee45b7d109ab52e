import Aff4Lite.Zip.ZipStream

/-!
# `aff4::container::AFF4ZipContainer`

The segments of an opened archive, as far as an image stream uses them.
-/

set_option autoImplicit false

namespace Aff4Lite.Containers

open Lib Zip Aff4Lite.Stream

/-- The archive behind a container, with the resource ID of the container and zlib. -/
structure ZipContainer where
  file : File
  entries : List ZipEntry
  resourceID : Bytes
  inflate : Bytes → Nat → Option Bytes

def hasPrefix (value pre : Bytes) : Bool := value.take pre.length = pre

def nameCodecEncode (url : Bytes) : Bytes :=
  if hasPrefix url (text "aff4://") then text "aff4%3A%2F%2F" ++ url.drop 7 else url

/-- `while (hasPrefix(res, "/")) res = res.substr(1);` -/
def stripSlashes (res : Bytes) : Bytes := res.dropWhile fun byte => byte = 0x2f

namespace ZipContainer

def sanitizeResource (container : ZipContainer) (resource : Bytes) : Bytes :=
  let res := stripSlashes resource
  let res := if hasPrefix res container.resourceID then res.drop container.resourceID.length
    else res
  stripSlashes (nameCodecEncode res)

def getSegment (container : ZipContainer) (segmentName : Bytes) : Option ZipEntry :=
  getStream container.entries (container.sanitizeResource segmentName)

def getSegmentEntry (container : ZipContainer) (segmentName : Bytes) : Option ZipEntry :=
  container.entries.find? fun entry =>
    entry.segmentName = container.sanitizeResource segmentName

end ZipContainer

end Aff4Lite.Containers
