import WimLean.Basic

/-!
# WimLean — lookup-table entries (`struct wim_lookup_table_entry`)

A lookup-table entry names one stream by its SHA-1 digest and says where its bytes are: in a
WIM file (`resource_entry` gives the offset and sizes there), in a file on disk, in a buffer
in memory, or in an attribute of an NTFS volume. `read_wim_resource` dispatches on that
location; `capture_ntfs_streams` creates entries of the last kind.

`lookup_table.h`, which declares the structure and the inline accessors
`wim_resource_size` and `wim_resource_compression_type`, is not among the sources. The
fields kept are those the modelled functions of `resource.c` and `ntfs-capture.c` read or
write.
-/

namespace WimLean

/-- `resource_entry.flags`: the flags byte of a resource entry. -/
structure ResourceFlags where
  byte : UInt8 := 0
  deriving DecidableEq, Repr

/-- `WIM_RESHDR_FLAG_METADATA` (0x02; the header defining the flag values is not among the
sources, and the values are wimlib's). -/
def ResourceFlags.metadata (f : ResourceFlags) : Bool := f.byte &&& 0x02 != 0

/-- `WIM_RESHDR_FLAG_COMPRESSED` (0x04). -/
def ResourceFlags.compressed (f : ResourceFlags) : Bool := f.byte &&& 0x04 != 0

/-- `struct resource_entry`: a resource's place in a WIM file. -/
structure ResourceEntry where
  size : Nat
  flags : ResourceFlags
  offset : Nat
  originalSize : Nat
  deriving DecidableEq, Repr

/-- `struct ntfs_location`: the NTFS stream a captured entry reads from. -/
structure NtfsLocation where
  path : String
  streamName : List UInt16
  isReparsePoint : Bool
  deriving DecidableEq, Repr

/-- `lte->resource_location`, with the member of the entry each location uses. -/
inductive ResourceLocation where
  /-- `RESOURCE_IN_WIM`: at `resource_entry.offset` of `lte->wim`. -/
  | inWim
  /-- `RESOURCE_IN_FILE_ON_DISK` and `RESOURCE_IN_STAGING_FILE`: `lte->file_on_disk`. -/
  | inFileOnDisk (path : String)
  /-- `RESOURCE_IN_ATTACHED_BUFFER`: `lte->attached_buffer`. -/
  | inAttachedBuffer (buf : List UInt8)
  /-- `RESOURCE_IN_NTFS_VOLUME`: `lte->ntfs_loc`. -/
  | inNtfsVolume (loc : NtfsLocation)
  deriving DecidableEq, Repr

/-- `struct wim_lookup_table_entry`. -/
structure WimLookupTableEntry where
  hash : Sha1Hash
  resourceEntry : ResourceEntry
  location : ResourceLocation
  refcnt : Nat
  deriving DecidableEq, Repr

/-- `wim_resource_size(lte)`: the uncompressed size of the stream. -/
def wimResourceSize (lte : WimLookupTableEntry) : Nat := lte.resourceEntry.originalSize

/-- `wim_resource_compression_type(lte)`: the compression type of the entry's WIM
(`wimCtype`) for a compressed resource in a WIM, `NONE` otherwise. -/
def wimResourceCompressionType (wimCtype : CompressionType) (lte : WimLookupTableEntry) :
    CompressionType :=
  match lte.location with
  | .inWim => if lte.resourceEntry.flags.compressed then wimCtype else .none
  | _ => .none

end WimLean
