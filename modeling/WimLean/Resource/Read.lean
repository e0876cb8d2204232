import WimLean.LookupTable

/-!
# WimLean — reading a resource (`resource.c`)

The model of `read_compressed_resource`, `read_uncompressed_resource` and
`read_wim_resource`. The `FILE*` is its bytes and a position (`WimFile`); `fseeko` takes an
`off_t`, so a `u64` offset of `2^63` or more is refused.

`read_compressed_resource` is cut where the C function has its stages:

* `readPlan` — the locals it computes from the sizes and the requested range, before any
  I/O (`num_chunks`, `start_chunk`, `num_needed_chunks`, `chunk_table_size`, ...);
* `readChunkTable` — the seek to the needed slice of the chunk table, its `fread`, and the
  decoding of its entries into `chunk_offsets`;
* `readChunk` — one iteration of the chunk loop;
* `chunkLoop` — the loop over `start_chunk ..= end_chunk`.

A run records the buffer accesses it makes (`Access`): which entries of the on-disk chunk
table it reads, which indices of `chunk_offsets` it reads, how many bytes each `fread` of a
chunk asks for, and which chunks it hands to the codec. The correctness proof reads the
output; the safety results read the accesses.
-/

namespace WimLean

/-- The `FILE*` of a WIM file: its bytes and the stream position. -/
structure WimFile where
  bytes : List UInt8
  pos : Nat

/-- `fseeko(fp, off, SEEK_SET)`. -/
def WimFile.seekSet (fp : WimFile) (off : Nat) : Option WimFile :=
  if off < 2 ^ 63 then some { fp with pos := off } else none

/-- `fseeko(fp, off, SEEK_CUR)`. -/
def WimFile.seekCur (fp : WimFile) (off : Nat) : Option WimFile :=
  fp.seekSet (fp.pos + off)

/-- `fread(buf, 1, n, fp)`: the bytes it stores, fewer than `n` at end of file. -/
def WimFile.readBytes (fp : WimFile) (n : Nat) : List UInt8 :=
  (fp.bytes.drop fp.pos).take n

/-- The stream after `fread(buf, 1, n, fp)`. -/
def WimFile.afterRead (fp : WimFile) (n : Nat) : WimFile :=
  { fp with pos := fp.pos + (fp.readBytes n).length }

/-- The two chunk codecs as `read_compressed_resource` calls them:
`decompress(src, src_len, dst, dst_len)` yields the `dst_len` bytes it decoded, or fails. -/
structure Codecs where
  lzxDecompress : List UInt8 → Nat → Option (List UInt8)
  xpressDecompress : List UInt8 → Nat → Option (List UInt8)

/-- The codec `read_compressed_resource` selects for `resource_ctype`. -/
def Codecs.select (c : Codecs) (ctype : CompressionType) : List UInt8 → Nat → Option (List UInt8) :=
  if ctype = .lzx then c.lzxDecompress else c.xpressDecompress

/-- A buffer access made by `read_compressed_resource`. -/
inductive Access where
  /-- `fread` of `count` entries of the on-disk chunk table, from entry `first`. -/
  | chunkTable (first count : Nat)
  /-- A read of `chunk_offsets[idx]`. -/
  | chunkOffset (idx : Nat)
  /-- `fread` of `n` bytes of chunk `i` straight into the output, `skip` bytes into it. -/
  | rawChunk (i skip n : Nat)
  /-- `fread` of `n` bytes of chunk `i` into `compressed_buf`. -/
  | compressedChunk (i n : Nat)
  /-- The codec run on chunk `i`. -/
  | decompress (i : Nat)
  deriving DecidableEq, Repr

/-- The state a run of `read_compressed_resource` threads: the stream, the bytes written to
`contents_ret` so far, and the accesses made so far. -/
structure ReadState where
  fp : WimFile
  out : List UInt8
  accesses : List Access

/-- A run's end: `.ok () s` for a return of 0, `.error e s` for a return of `e`. -/
abbrev ReadResult := EStateM.Result WimlibErr ReadState Unit

/-- The locals of `read_compressed_resource` computed before any I/O. -/
structure ReadPlan where
  numChunks : Nat
  numChunkEntries : Nat
  startChunk : Nat
  startChunkOffset : Nat
  endChunk : Nat
  endChunkOffset : Nat
  numNeededChunks : Nat
  chunkEntrySize : Nat
  chunkTableSize : Nat
  startTableIdx : Nat
  numNeededChunkEntries : Nat

/-- The locals for a read of `len` bytes at `offset` of a resource of `uncompressedSize`
bytes, in `u64` arithmetic. -/
def readPlan (uncompressedSize len offset : Nat) : ReadPlan :=
  let numChunks := (uncompressedSize + wimChunkSize - 1) % 2 ^ 64 / wimChunkSize
  let numChunkEntries := subU64 numChunks 1
  let startChunk := offset / wimChunkSize
  let endChunk := (offset + len - 1) / wimChunkSize
  let numNeededChunks := endChunk - startChunk + 1 +
    (if endChunk ≠ subU64 numChunks 1 then 1 else 0)
  let chunkEntrySize := if 2 ^ 32 ≤ uncompressedSize then 8 else 4
  { numChunks
    numChunkEntries
    startChunk
    startChunkOffset := offset % wimChunkSize
    endChunk
    endChunkOffset := (offset + len - 1) % wimChunkSize
    numNeededChunks
    chunkEntrySize
    chunkTableSize := chunkEntrySize * numChunkEntries % 2 ^ 64
    startTableIdx := if startChunk = 0 then 0 else startChunk - 1
    numNeededChunkEntries := if startChunk = 0 then numNeededChunks - 1 else numNeededChunks }

/-- `le32_to_cpu` / `le64_to_cpu` over `count` consecutive entries of `w` bytes. -/
def decodeChunkEntries (w : Nat) : Nat → List UInt8 → List Nat
  | 0, _ => []
  | count + 1, buf => leValue (buf.take w) :: decodeChunkEntries w count (buf.drop w)

/-- Seek to the needed entries of the chunk table, read them, and fill `chunk_offsets`
(with the implicit `0` of the first chunk in front when the read starts there). -/
def readChunkTable (resourceOffset : Nat) (pl : ReadPlan) (s : ReadState) :
    EStateM.Result WimlibErr ReadState (List Nat) :=
  match s.fp.seekSet ((resourceOffset + pl.startTableIdx * pl.chunkEntrySize) % 2 ^ 64) with
  | none => .error .read s
  | some fp =>
    let size := pl.numNeededChunkEntries * pl.chunkEntrySize
    let buf := fp.readBytes size
    let s := { s with fp := fp.afterRead size,
                      accesses := s.accesses ++ [.chunkTable pl.startTableIdx
                                                    pl.numNeededChunkEntries] }
    if buf.length ≠ size then .error .read s
    else
      .ok ((if pl.startChunk = 0 then [0] else []) ++
        decodeChunkEntries pl.chunkEntrySize pl.numNeededChunkEntries buf) s

/-- Where chunk `i`'s compressed data ends, as the loop derives it: from the next entry of
`chunk_offsets`, or, for the last chunk of the resource, from the stored size. The result
is an `unsigned`. Also the indices of `chunk_offsets` read. -/
def compressedChunkSize (compressedSize : Nat) (pl : ReadPlan) (offs : List Nat) (i : Nat) :
    Nat × List Access :=
  if i ≠ subU64 pl.numChunks 1 then
    (subU64 (offs.getD (i + 1 - pl.startChunk) 0) (offs.getD (i - pl.startChunk) 0) % 2 ^ 32,
      [.chunkOffset (i + 1 - pl.startChunk), .chunkOffset (i - pl.startChunk)])
  else
    (subU64 (subU64 compressedSize pl.chunkTableSize) (offs.getD (i - pl.startChunk) 0)
        % 2 ^ 32,
      [.chunkOffset (i - pl.startChunk)])

/-- The uncompressed size of chunk `i`: a full chunk, or the remainder for the last one. -/
def uncompressedChunkSize (uncompressedSize : Nat) (pl : ReadPlan) (i : Nat) : Nat :=
  if i ≠ subU64 pl.numChunks 1 then wimChunkSize
  else if uncompressedSize % wimChunkSize = 0 then wimChunkSize
  else uncompressedSize % wimChunkSize

/-- The byte of chunk `i` where the read starts. -/
def ReadPlan.startOffset (pl : ReadPlan) (i : Nat) : Nat :=
  if i = pl.startChunk then pl.startChunkOffset else 0

/-- The last byte of chunk `i` the read needs. -/
def ReadPlan.endOffset (pl : ReadPlan) (i : Nat) : Nat :=
  if i = pl.endChunk then pl.endChunkOffset else wimChunkSize - 1

/-- `partial_chunk_size`: the bytes of chunk `i` the read needs. -/
def ReadPlan.partialChunkSize (pl : ReadPlan) (i : Nat) : Nat :=
  subU64 (pl.endOffset i + 1) (pl.startOffset i)

/-- One iteration of the chunk loop of `read_compressed_resource`, for chunk `i`. -/
def readChunk (decompress : List UInt8 → Nat → Option (List UInt8))
    (compressedSize uncompressedSize : Nat) (pl : ReadPlan) (offs : List Nat) (i : Nat)
    (s : ReadState) : ReadResult :=
  let (ccs, idx) := compressedChunkSize compressedSize pl offs i
  let ucs := uncompressedChunkSize uncompressedSize pl i
  let startOffset := pl.startOffset i
  let partialSize := pl.partialChunkSize i
  let s := { s with accesses := s.accesses ++ idx }
  if ccs = ucs then
    -- Stored uncompressed: skip to the first needed byte and read straight into the output.
    match (if startOffset ≠ 0 then s.fp.seekCur startOffset else some s.fp) with
    | none => .error .read s
    | some fp =>
      let got := fp.readBytes partialSize
      let s := { s with fp := fp.afterRead partialSize, out := s.out ++ got,
                        accesses := s.accesses ++ [.rawChunk i startOffset partialSize] }
      if got.length ≠ partialSize then .error .read s else .ok () s
  else
    let cbuf := s.fp.readBytes ccs
    let s := { s with fp := s.fp.afterRead ccs,
                      accesses := s.accesses ++ [.compressedChunk i ccs] }
    if cbuf.length ≠ ccs then .error .read s
    else
      let s := { s with accesses := s.accesses ++ [.decompress i] }
      match decompress cbuf ucs with
      | none => .error .decompression s
      | some ubuf =>
        -- A partial chunk is decompressed into a scratch buffer and only the needed
        -- slice copied; a whole chunk is decompressed in place.
        if partialSize ≠ ucs then .ok () { s with out := s.out ++ (ubuf.drop startOffset).take partialSize }
        else .ok () { s with out := s.out ++ ubuf }

/-- The chunk loop: `k` iterations starting at chunk `i`. -/
def chunkLoop (decompress : List UInt8 → Nat → Option (List UInt8))
    (compressedSize uncompressedSize : Nat) (pl : ReadPlan) (offs : List Nat) :
    Nat → Nat → ReadState → ReadResult
  | 0, _, s => .ok () s
  | k + 1, i, s =>
    match readChunk decompress compressedSize uncompressedSize pl offs i s with
    | .ok () s => chunkLoop decompress compressedSize uncompressedSize pl offs k (i + 1) s
    | .error e s => .error e s

/-- `read_compressed_resource(fp, compressed_size, uncompressed_size, resource_offset,
ctype, len, offset, contents_ret)`. -/
def readCompressedResource (codecs : Codecs) (fp : WimFile)
    (compressedSize uncompressedSize resourceOffset : Nat) (ctype : CompressionType)
    (len offset : Nat) : ReadResult :=
  let s : ReadState := { fp, out := [], accesses := [] }
  if len = 0 then .ok () s
  else
    let pl := readPlan uncompressedSize len offset
    match readChunkTable resourceOffset pl s with
    | .error e s => .error e s
    | .ok offs s =>
      let s := { s with accesses := s.accesses ++ [.chunkOffset 0] }
      match s.fp.seekSet ((resourceOffset + pl.chunkTableSize + offs.getD 0 0) % 2 ^ 64) with
      | none => .error .read s
      | some fp =>
        chunkLoop (codecs.select ctype) compressedSize uncompressedSize pl offs
          (pl.endChunk - pl.startChunk + 1) pl.startChunk { s with fp }

/-- `read_uncompressed_resource(fp, offset, len, contents_ret)`. -/
def readUncompressedResource (fp : WimFile) (offset len : Nat) : Except WimlibErr (List UInt8) :=
  match fp.seekSet offset with
  | none => .error .read
  | some fp =>
    let got := fp.readBytes len
    if got.length ≠ len then .error .read else .ok got

/-- `ntfs_attr_pread(na, pos, count, buf)` on an attribute whose value is `attr`: the bytes it
stores, fewer than `count` past the end of the value. -/
def ntfsAttrPread (attr : List UInt8) (pos count : Nat) : List UInt8 :=
  (attr.drop pos).take count

/-- What `read_wim_resource` reaches through a lookup-table entry besides the entry's own
fields. -/
structure ReadEnv where
  codecs : Codecs
  /-- `wimlib_get_compression_type(lte->wim)`. -/
  wimCtype : CompressionType
  /-- `tfopen(path, T("rb"))`, or the entry's open `file_on_disk_fp`. -/
  tfopen : String → Option WimFile
  /-- `lte->attr`: the value of the attribute named by `lte->ntfs_loc`. -/
  ntfsAttr : NtfsLocation → List UInt8

/-- `read_wim_resource(lte, buf, size, offset, flags)`, with `raw` for
`WIMLIB_RESOURCE_FLAG_RAW`: the `size` bytes it stores in `buf`, or its error. `fp` is the
`FILE*` of `lte->wim`: `lte->wim->fp`, or the handle `wim_get_fp` gave a multithreaded
reader (`FpTable`). The assertion `offset + size <= original_size` is a precondition. -/
def readWimResource (env : ReadEnv) (fp : WimFile) (lte : WimLookupTableEntry) (size offset : Nat)
    (raw : Bool) : Except WimlibErr (List UInt8) :=
  match lte.location with
  | .inWim =>
    let ctype := wimResourceCompressionType env.wimCtype lte
    if raw || ctype = .none then
      readUncompressedResource fp (lte.resourceEntry.offset + offset) size
    else
      match readCompressedResource env.codecs fp lte.resourceEntry.size
          lte.resourceEntry.originalSize lte.resourceEntry.offset ctype size offset with
      | .ok () s => .ok s.out
      | .error e _ => .error e
  | .inFileOnDisk path =>
    match env.tfopen path with
    | none => .error .open
    | some fp => readUncompressedResource fp offset size
  | .inAttachedBuffer buf => .ok ((buf.drop offset).take size)
  | .inNtfsVolume loc =>
    let offset := if loc.isReparsePoint then offset + 8 else offset
    let got := ntfsAttrPread (env.ntfsAttr loc) offset size
    if got.length ≠ size then .error .ntfs3g else .ok got

end WimLean
