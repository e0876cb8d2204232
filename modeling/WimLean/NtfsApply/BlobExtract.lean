import WimLean.Basic

/-!
# WimLean — extracting blobs to an NTFS volume (`ntfs_3g_*_extract_blob`)

`ntfs_3g_extract` hands `extract_blob_list` three callbacks over one `struct ntfs_3g_apply_ctx`:
`ntfs_3g_begin_extract_blob` opens every extraction target of a blob (the NTFS inode, then the
data attribute, or a slot for reparse data), `ntfs_3g_extract_chunk` writes each chunk to every
open attribute and after `reparse_ptr`, and `ntfs_3g_end_extract_blob` sets the reparse data and
closes everything through `ntfs_3g_cleanup_blob_extract`.

The model is a state machine over `ApplyState`: the context (its arrays as lists, whose lengths
are the counters), the `i_visited` flags of the WIM inodes, the libntfs-3g calls made so far
(`NtfsCall`, with their outcomes), and the outcomes of the calls to come, which are an input: any
pattern of failures is a list of booleans. Writing past one of the `MAX_OPEN_FILES` arrays, a
failed `wimlib_assert`, following a `NULL` entry of `open_inodes` and copying past `rpdata` are
`none`. `MAX_OPEN_FILES`, `REPARSE_DATA_MAX_SIZE` and the layout of `struct
reparse_buffer_disk` come from headers that are not among the sources: the first two are
parameters (`Ntfs3gApplyEnv`), the layout is `rptag`, `rpdatalen`, `rpreserved`, then `rpdata`.

`extract_blob_list` is not among the sources either: it drives one blob as `begin`, the blob's
chunks in order and `end(status)`, and `end` after a failed `begin` or not (`BlobSession`).
-/

namespace WimLean

/-! ## The context and the calls -/

/-- `stream_type` of an extraction target's stream: `STREAM_TYPE_DATA` with its
`stream_name` (empty for the unnamed stream), or `STREAM_TYPE_REPARSE_POINT`. -/
inductive StreamType where
  | data (streamName : List UInt16)
  | reparsePoint
  deriving DecidableEq, Repr

/-- `struct blob_extraction_target`: the WIM inode (by index) and its stream. -/
structure BlobExtractionTarget where
  inode : Nat
  stream : StreamType
  deriving DecidableEq, Repr

/-- A blob to extract: `size`, and its `out_refcnt` extraction targets. -/
structure BlobDescriptor where
  size : Nat
  targets : List BlobExtractionTarget
  deriving DecidableEq, Repr

/-- What the callbacks read and never change: the constants `MAX_OPEN_FILES` and
`REPARSE_DATA_MAX_SIZE`, and the `i_mft_no` and `i_reparse_tag` of each WIM inode. -/
structure Ntfs3gApplyEnv where
  maxOpenFiles : Nat
  reparseDataMaxSize : Nat
  mftNo : Nat → Nat
  reparseTag : Nat → Nat

/-- An open `ntfs_attr`: the `AT_DATA` attribute of the NTFS inode `mft` named `name`. -/
structure NtfsDataAttr where
  mft : Nat
  name : List UInt16
  deriving DecidableEq, Repr

/-- `struct reparse_buffer_disk`. -/
structure ReparseBufferDisk where
  rptag : Nat
  rpdatalen : Nat
  rpreserved : Nat
  rpdata : List UInt8
  deriving DecidableEq, Repr

/-- `REPARSE_DATA_OFFSET`: the bytes of `rptag`, `rpdatalen` and `rpreserved`. -/
def reparseDataOffset : Nat := 8

/-- The bytes of `ctx->rpbuf` as `(const char *)&ctx->rpbuf` reads them. -/
def ReparseBufferDisk.bytes (rpbuf : ReparseBufferDisk) : List UInt8 :=
  leBytes 4 rpbuf.rptag ++ leBytes 2 rpbuf.rpdatalen ++ leBytes 2 rpbuf.rpreserved ++ rpbuf.rpdata

/-- `struct ntfs_3g_apply_ctx`, the fields the blob callbacks use. An `ntfs_inode *` is the
MFT number it was opened with (`none` for `NULL`); `ntfs_reparse_inodes` and
`wim_reparse_inodes` share `num_reparse_inodes` and are one list of pairs. -/
structure Ntfs3gApplyCtx where
  openAttrs : List NtfsDataAttr
  openInodes : List (Option Nat)
  rpbuf : ReparseBufferDisk
  reparsePtr : Option Nat
  offset : Nat
  reparseInodes : List (Nat × Nat)
  deriving DecidableEq, Repr

/-- A call to libntfs-3g, with its outcome where it has one. -/
inductive NtfsCall where
  | inodeOpen (mft : Nat) (ok : Bool)
  | inodeClose (ni : Option Nat) (ok : Bool)
  | attrAdd (mft : Nat) (name : List UInt16) (ok : Bool)
  | attrOpen (attr : NtfsDataAttr) (ok : Bool)
  | attrTruncateSolid (attr : NtfsDataAttr) (size : Nat) (ok : Bool)
  | attrPwrite (attr : NtfsDataAttr) (pos : Nat) (bytes : List UInt8) (ok : Bool)
  | attrPclose (attr : NtfsDataAttr) (ok : Bool)
  | attrClose (attr : NtfsDataAttr)
  | setNtfsReparseData (ni : Nat) (buf : List UInt8) (ok : Bool)
  deriving DecidableEq, Repr

/-- The state the callbacks run in: the context, the `i_visited` flags, the calls made so far,
the outcomes of the calls to come (success once they run out), and the `mempcpy`s into
`rpbuf.rpdata` so far (offset and length). -/
structure ApplyState where
  ctx : Ntfs3gApplyCtx
  visited : Nat → Bool
  calls : List NtfsCall
  results : List Bool
  rpdataWrites : List (Nat × Nat)

/-- The outcome of the next call that has one. -/
def ApplyState.outcome (s : ApplyState) : Bool := s.results.headD true

/-- A call that succeeds or fails: the next outcome, and the state with the call made. The code
reads the outcome of each such call but `ntfs_attr_truncate_solid`. -/
def ApplyState.call (s : ApplyState) (c : Bool → NtfsCall) : Bool × ApplyState :=
  (s.outcome, { s with calls := s.calls ++ [c s.outcome], results := s.results.tail })

/-- A call that has no outcome (`ntfs_attr_close`). -/
def ApplyState.log (s : ApplyState) (c : NtfsCall) : ApplyState :=
  { s with calls := s.calls ++ [c] }

/-! ## `ntfs_3g_begin_extract_blob` -/

/-- `ctx->open_inodes[ctx->num_open_inodes++] = ni; inode->i_visited = 1;` -/
def ApplyState.pushInode (s : ApplyState) (inode : Nat) (ni : Option Nat) : ApplyState :=
  { s with
    ctx := { s.ctx with openInodes := s.ctx.openInodes ++ [ni] }
    visited := Function.update s.visited inode true }

/-- The loop of `ntfs_3g_open_inode` over `open_inodes` for an inode already visited: the
entry with its MFT number, `none` inside when there is none, and `none` when it reaches a `NULL`
entry, whose `mft_no` it would read. -/
def findOpenInode (mft : Nat) : List (Option Nat) → Option (Option Nat)
  | [] => some none
  | none :: _ => none
  | some m :: nis => if m = mft then some (some m) else findOpenInode mft nis

/-- `ntfs_3g_open_inode(inode, ctx)`: an inode already visited is looked up among the open
ones; otherwise it is opened, stored in `open_inodes` whatever `ntfs_inode_open` returned, and
marked visited. -/
def ntfs3gOpenInode (env : Ntfs3gApplyEnv) (inode : Nat) (s : ApplyState) :
    Option (Option Nat × ApplyState) :=
  match (if s.visited inode then findOpenInode (env.mftNo inode) s.ctx.openInodes
      else some none) with
  | none => none
  | some (some ni) => some (some ni, s)
  | some none =>
    if env.maxOpenFiles ≤ s.ctx.openInodes.length then none
    else
      let (ok, s) := s.call (.inodeOpen (env.mftNo inode))
      let ni := if ok then some (env.mftNo inode) else none
      some (ni, s.pushInode inode ni)

/-- The end of `ntfs_3g_begin_extract_blob_instance` for a data stream, once a named stream is
created: `wimlib_assert(ctx->num_open_attrs < MAX_OPEN_FILES)`, `ntfs_attr_open`, and
`ntfs_attr_truncate_solid` of the attribute it stores, whose return value is not read. -/
def openDataAttr (env : Ntfs3gApplyEnv) (size : Nat) (attr : NtfsDataAttr) (s : ApplyState) :
    Option (Option WimlibErr × ApplyState) :=
  if ¬s.ctx.openAttrs.length < env.maxOpenFiles then none
  else
    let opened := s.call (.attrOpen attr)
    if !opened.1 then some (some .ntfs3g, opened.2)
    else
      let s := { opened.2 with ctx := { opened.2.ctx with openAttrs := opened.2.ctx.openAttrs ++ [attr] } }
      some (none, (s.call (.attrTruncateSolid attr size)).2)

/-- `ntfs_3g_begin_extract_blob_instance(blob, ni, inode, strm, ctx)`. A reparse stream takes
a slot of the reparse arrays and points `reparse_ptr` at `rpdata`; a data stream is created
when it is named, then opened. -/
def ntfs3gBeginExtractBlobInstance (env : Ntfs3gApplyEnv) (size ni inode : Nat)
    (strm : StreamType) (s : ApplyState) : Option (Option WimlibErr × ApplyState) :=
  match strm with
  | .reparsePoint =>
    if size > env.reparseDataMaxSize then some (some .invalidReparseData, s)
    else if env.maxOpenFiles ≤ s.ctx.reparseInodes.length then none
    else some (none, { s with ctx := { s.ctx with
      reparsePtr := some 0,
      rpbuf := { s.ctx.rpbuf with rpdatalen := size, rpreserved := 0 },
      reparseInodes := s.ctx.reparseInodes ++ [(ni, inode)] } })
  | .data streamName =>
    if streamName.length ≠ 0 then
      let added := s.call (.attrAdd ni streamName)
      if !added.1 then some (some .ntfs3g, added.2) else openDataAttr env size ⟨ni, streamName⟩ added.2
    else openDataAttr env size ⟨ni, streamName⟩ s

/-- The loop of `ntfs_3g_begin_extract_blob` over the targets, up to the first failure. -/
def beginTargets (env : Ntfs3gApplyEnv) (size : Nat) :
    List BlobExtractionTarget → ApplyState → Option (Option WimlibErr × ApplyState)
  | [], s => some (none, s)
  | t :: ts, s =>
    match ntfs3gOpenInode env t.inode s with
    | none => none
    | some (none, s) => some (some .ntfs3g, s)
    | some (some ni, s) =>
      match ntfs3gBeginExtractBlobInstance env size ni t.inode t.stream s with
      | none => none
      | some (some e, s) => some (some e, s)
      | some (none, s) => beginTargets env size ts s

/-- The `ntfs_attr_pclose` and `ntfs_attr_close` of each open attribute; `false` when a
`pclose` failed. -/
def closeAttrs : List NtfsDataAttr → ApplyState → Bool × ApplyState
  | [], s => (true, s)
  | a :: as, s =>
    let (ok, s) := s.call (.attrPclose a)
    let (ok', s) := closeAttrs as (s.log (.attrClose a))
    (ok && ok', s)

/-- The `ntfs_inode_close` of each open inode; `false` when one failed. -/
def closeInodes : List (Option Nat) → ApplyState → Bool × ApplyState
  | [], s => (true, s)
  | ni :: nis, s =>
    let (ok, s) := s.call (.inodeClose ni)
    let (ok', s) := closeInodes nis s
    (ok && ok', s)

/-- `ntfs_3g_cleanup_blob_extract(ctx)`: `false` for its -1. -/
def ntfs3gCleanupBlobExtract (s : ApplyState) : Bool × ApplyState :=
  let (ok, s) := closeAttrs s.ctx.openAttrs s
  let s := { s with ctx := { s.ctx with openAttrs := [] } }
  let (ok', s) := closeInodes s.ctx.openInodes s
  (ok && ok', { s with ctx := { s.ctx with
    openInodes := [], offset := 0, reparsePtr := none, reparseInodes := [] } })

/-- The loop at `out:` of `ntfs_3g_begin_extract_blob`: `i_visited = 0` for every target. -/
def clearVisited (targets : List BlobExtractionTarget) (visited : Nat → Bool) : Nat → Bool :=
  targets.foldl (fun v t => Function.update v t.inode false) visited

/-- `ntfs_3g_begin_extract_blob(blob, ctx)`. -/
def ntfs3gBeginExtractBlob (env : Ntfs3gApplyEnv) (blob : BlobDescriptor) (s : ApplyState) :
    Option (Option WimlibErr × ApplyState) :=
  match beginTargets env blob.size blob.targets s with
  | none => none
  | some (ret, s) =>
    let s := if ret.isSome then (ntfs3gCleanupBlobExtract s).2 else s
    some (ret, { s with visited := clearVisited blob.targets s.visited })

/-! ## `ntfs_3g_extract_chunk` and `ntfs_3g_end_extract_blob` -/

/-- `bytes` copied over `buf` at `pos`. -/
def writeBytes (buf : List UInt8) (pos : Nat) (bytes : List UInt8) : List UInt8 :=
  buf.take pos ++ bytes ++ buf.drop (pos + bytes.length)

/-- The loop of `ntfs_3g_extract_chunk`: `ntfs_attr_pwrite` of the chunk at `pos` to each open
attribute, up to the first that does not write it all. -/
def pwriteAttrs (pos : Nat) (chunk : List UInt8) : List NtfsDataAttr → ApplyState → Bool × ApplyState
  | [], s => (true, s)
  | a :: as, s =>
    let (ok, s) := s.call (.attrPwrite a pos chunk)
    if ok then pwriteAttrs pos chunk as s else (false, s)

/-- `ntfs_3g_extract_chunk(chunk, size, ctx)`. -/
def ntfs3gExtractChunk (chunk : List UInt8) (s : ApplyState) :
    Option (Option WimlibErr × ApplyState) :=
  let (ok, s) := pwriteAttrs s.ctx.offset chunk s.ctx.openAttrs s
  if !ok then some (some .ntfs3g, s)
  else match s.ctx.reparsePtr with
    | none => some (none, { s with ctx := { s.ctx with offset := s.ctx.offset + chunk.length } })
    | some p =>
      if s.ctx.rpbuf.rpdata.length < p + chunk.length then none
      else some (none, { s with
        ctx := { s.ctx with
          rpbuf := { s.ctx.rpbuf with rpdata := writeBytes s.ctx.rpbuf.rpdata p chunk },
          reparsePtr := some (p + chunk.length), offset := s.ctx.offset + chunk.length }
        rpdataWrites := s.rpdataWrites ++ [(p, chunk.length)] })

/-- `ctx->rpbuf.rptag = cpu_to_le32(tag)`. -/
def ApplyState.setRptag (s : ApplyState) (tag : Nat) : ApplyState :=
  { s with ctx := { s.ctx with rpbuf := { s.ctx.rpbuf with rptag := tag } } }

/-- The loop of `ntfs_3g_end_extract_blob` over the reparse inodes: `rptag` set to the inode's
`i_reparse_tag`, then `ntfs_set_ntfs_reparse_data` with `size + REPARSE_DATA_OFFSET` bytes of
`rpbuf`. -/
def setReparseInodes (env : Ntfs3gApplyEnv) (size : Nat) :
    List (Nat × Nat) → ApplyState → Option (Option WimlibErr × ApplyState)
  | [], s => some (none, s)
  | (ni, inode) :: rest, s =>
    let s := s.setRptag (env.reparseTag inode)
    if s.ctx.rpbuf.bytes.length < size + reparseDataOffset then none
    else
      let (ok, s) := s.call (.setNtfsReparseData ni (s.ctx.rpbuf.bytes.take (size + reparseDataOffset)))
      if ok then setReparseInodes env size rest s else some (some .setReparseData, s)

/-- `ntfs_3g_end_extract_blob(blob, status, ctx)`, `status` `none` for 0. -/
def ntfs3gEndExtractBlob (env : Ntfs3gApplyEnv) (blob : BlobDescriptor)
    (status : Option WimlibErr) (s : ApplyState) : Option (Option WimlibErr × ApplyState) :=
  match (match status with
      | some e => some (some e, s)
      | none => setReparseInodes env blob.size s.ctx.reparseInodes s) with
  | none => none
  | some (ret, s) =>
    let (ok, s) := ntfs3gCleanupBlobExtract s
    some (if !ok && ret.isNone then some .ntfs3g else ret, s)

/-! ## One blob, and a run of blobs -/

/-- How `extract_blob_list` drives one blob: `begin`; when it succeeds, the chunks in order up
to the first that fails, then `end` with that chunk's error or else with `status` (what reading
the blob gave); when `begin` fails, `end(status)` only if `endAfterFailedBegin`. -/
structure BlobSession where
  blob : BlobDescriptor
  chunks : List (List UInt8)
  status : Option WimlibErr
  endAfterFailedBegin : Bool

/-- The chunks in order, up to the first that fails: its error, or `none`. -/
def extractChunks : List (List UInt8) → ApplyState → Option (Option WimlibErr × ApplyState)
  | [], s => some (none, s)
  | c :: cs, s =>
    match ntfs3gExtractChunk c s with
    | none => none
    | some (some e, s) => some (some e, s)
    | some (none, s) => extractChunks cs s

/-- One blob: what the last callback returned, and the state after it. -/
def runBlobSession (env : Ntfs3gApplyEnv) (sess : BlobSession) (s : ApplyState) :
    Option (Option WimlibErr × ApplyState) :=
  match ntfs3gBeginExtractBlob env sess.blob s with
  | none => none
  | some (some e, s) =>
    if sess.endAfterFailedBegin then ntfs3gEndExtractBlob env sess.blob sess.status s
    else some (some e, s)
  | some (none, s) =>
    match extractChunks sess.chunks s with
    | none => none
    | some (some e, s) => ntfs3gEndExtractBlob env sess.blob (some e) s
    | some (none, s) => ntfs3gEndExtractBlob env sess.blob sess.status s

/-- Blobs one after another: for each, what it returned and the calls it made. -/
def runBlobSessions (env : Ntfs3gApplyEnv) :
    List BlobSession → ApplyState → Option (List (Option WimlibErr × List NtfsCall) × ApplyState)
  | [], s => some ([], s)
  | sess :: rest, s =>
    match runBlobSession env sess s with
    | none => none
    | some (ret, s') =>
      (runBlobSessions env rest s').map fun (rs, s'') => ((ret, s'.calls.drop s.calls.length) :: rs, s'')

/-! ## What a call opens and closes -/

/-- The call opens the NTFS inode `m`. -/
def NtfsCall.opensInode (m : Nat) : NtfsCall → Bool
  | .inodeOpen m' true => m' == m
  | _ => false

/-- The call closes an open NTFS inode `m`. -/
def NtfsCall.closesInode (m : Nat) : NtfsCall → Bool
  | .inodeClose (some m') _ => m' == m
  | _ => false

/-- The call opens the attribute `a`. -/
def NtfsCall.opensAttr (a : NtfsDataAttr) : NtfsCall → Bool
  | .attrOpen a' true => a' == a
  | _ => false

/-- The call closes the attribute `a`. -/
def NtfsCall.closesAttr (a : NtfsDataAttr) : NtfsCall → Bool
  | .attrClose a' => a' == a
  | _ => false

/-- The context between blobs: every counter 0, `offset` 0 and `reparse_ptr` `NULL`. -/
structure Ntfs3gApplyCtx.Idle (ctx : Ntfs3gApplyCtx) : Prop where
  openAttrs : ctx.openAttrs = []
  openInodes : ctx.openInodes = []
  reparseInodes : ctx.reparseInodes = []
  offset : ctx.offset = 0
  reparsePtr : ctx.reparsePtr = none

/-- The call is an `ntfs_attr_pwrite`. -/
def NtfsCall.isPwrite : NtfsCall → Bool
  | .attrPwrite .. => true
  | _ => false

/-- The call is an `ntfs_set_ntfs_reparse_data`. -/
def NtfsCall.isSetNtfsReparseData : NtfsCall → Bool
  | .setNtfsReparseData .. => true
  | _ => false

/-- Calls that write no data: neither a truncation, nor a write, nor reparse data. -/
def NtfsCall.WritesNothing (c : NtfsCall) : Prop :=
  c.isPwrite = false ∧ c.isSetNtfsReparseData = false ∧ ∀ a n ok, c ≠ .attrTruncateSolid a n ok

/-- Calls that neither open nor close an inode or an attribute. -/
def NtfsCall.Quiet (c : NtfsCall) : Prop :=
  (∀ m, c.opensInode m = false ∧ c.closesInode m = false) ∧
  ∀ a, c.opensAttr a = false ∧ c.closesAttr a = false

/-- **Every inode and attribute the calls open, they close exactly once.** -/
def ClosesWhatItOpens (cs : List NtfsCall) : Prop :=
  (∀ m, cs.countP (·.opensInode m) = cs.countP (·.closesInode m)) ∧
  ∀ a, cs.countP (·.opensAttr a) = cs.countP (·.closesAttr a)

/-- The calls `cs` of a blob so far have left open exactly the handles of the context, and
closed none. -/
structure Tracked (cs : List NtfsCall) (ctx : Ntfs3gApplyCtx) : Prop where
  opensInode : ∀ m, cs.countP (·.opensInode m) = ctx.openInodes.count (some m)
  closesInode : ∀ m, cs.countP (·.closesInode m) = 0
  opensAttr : ∀ a, cs.countP (·.opensAttr a) = ctx.openAttrs.count a
  closesAttr : ∀ a, cs.countP (·.closesAttr a) = 0

theorem countP_quiet_opensInode {xs : List NtfsCall} (h : ∀ c ∈ xs, c.Quiet) (m : Nat) :
    xs.countP (·.opensInode m) = 0 :=
  List.countP_eq_zero.mpr fun c hc => by simp [((h c hc).1 m).1]

theorem countP_quiet_closesInode {xs : List NtfsCall} (h : ∀ c ∈ xs, c.Quiet) (m : Nat) :
    xs.countP (·.closesInode m) = 0 :=
  List.countP_eq_zero.mpr fun c hc => by simp [((h c hc).1 m).2]

theorem countP_quiet_opensAttr {xs : List NtfsCall} (h : ∀ c ∈ xs, c.Quiet) (a : NtfsDataAttr) :
    xs.countP (·.opensAttr a) = 0 :=
  List.countP_eq_zero.mpr fun c hc => by simp [((h c hc).2 a).1]

theorem countP_quiet_closesAttr {xs : List NtfsCall} (h : ∀ c ∈ xs, c.Quiet) (a : NtfsDataAttr) :
    xs.countP (·.closesAttr a) = 0 :=
  List.countP_eq_zero.mpr fun c hc => by simp [((h c hc).2 a).2]

/-- Quiet calls keep what is tracked. -/
theorem Tracked.append_quiet {cs xs : List NtfsCall} {ctx : Ntfs3gApplyCtx} (h : Tracked cs ctx)
    (hq : ∀ c ∈ xs, c.Quiet) : Tracked (cs ++ xs) ctx where
  opensInode m := by rw [List.countP_append, countP_quiet_opensInode hq, h.opensInode, Nat.add_zero]
  closesInode m := by rw [List.countP_append, countP_quiet_closesInode hq, h.closesInode]
  opensAttr a := by rw [List.countP_append, countP_quiet_opensAttr hq, h.opensAttr, Nat.add_zero]
  closesAttr a := by rw [List.countP_append, countP_quiet_closesAttr hq, h.closesAttr]

@[simp] theorem ApplyState.call_fst (s : ApplyState) (c : Bool → NtfsCall) :
    (s.call c).1 = s.outcome := rfl

@[simp] theorem ApplyState.call_ctx (s : ApplyState) (c : Bool → NtfsCall) :
    (s.call c).2.ctx = s.ctx := rfl

@[simp] theorem ApplyState.call_visited (s : ApplyState) (c : Bool → NtfsCall) :
    (s.call c).2.visited = s.visited := rfl

@[simp] theorem ApplyState.call_rpdataWrites (s : ApplyState) (c : Bool → NtfsCall) :
    (s.call c).2.rpdataWrites = s.rpdataWrites := rfl

@[simp] theorem ApplyState.call_calls (s : ApplyState) (c : Bool → NtfsCall) :
    (s.call c).2.calls = s.calls ++ [c (s.outcome)] := rfl

@[simp] theorem ApplyState.log_ctx (s : ApplyState) (c : NtfsCall) : (s.log c).ctx = s.ctx := rfl

@[simp] theorem ApplyState.log_visited (s : ApplyState) (c : NtfsCall) :
    (s.log c).visited = s.visited := rfl

@[simp] theorem ApplyState.log_rpdataWrites (s : ApplyState) (c : NtfsCall) :
    (s.log c).rpdataWrites = s.rpdataWrites := rfl

@[simp] theorem ApplyState.log_calls (s : ApplyState) (c : NtfsCall) :
    (s.log c).calls = s.calls ++ [c] := rfl

@[simp] theorem ApplyState.log_results (s : ApplyState) (c : NtfsCall) :
    (s.log c).results = s.results := rfl

@[simp] theorem ApplyState.setRptag_outcome (s : ApplyState) (tag : Nat) :
    (s.setRptag tag).outcome = s.outcome := rfl

@[simp] theorem ApplyState.setRptag_ctx (s : ApplyState) (tag : Nat) :
    (s.setRptag tag).ctx = { s.ctx with rpbuf := { s.ctx.rpbuf with rptag := tag } } := rfl

@[simp] theorem ApplyState.setRptag_visited (s : ApplyState) (tag : Nat) :
    (s.setRptag tag).visited = s.visited := rfl

@[simp] theorem ApplyState.setRptag_rpdataWrites (s : ApplyState) (tag : Nat) :
    (s.setRptag tag).rpdataWrites = s.rpdataWrites := rfl

@[simp] theorem ApplyState.setRptag_calls (s : ApplyState) (tag : Nat) :
    (s.setRptag tag).calls = s.calls := rfl

/-! ## `ntfs_3g_cleanup_blob_extract` closes what is open -/

/-- The calls of `closeAttrs` close each attribute of the list once and open nothing. -/
theorem closeAttrs_spec : ∀ (as : List NtfsDataAttr) (s : ApplyState),
    (closeAttrs as s).2.ctx = s.ctx ∧ (closeAttrs as s).2.visited = s.visited ∧
    (closeAttrs as s).2.rpdataWrites = s.rpdataWrites ∧
    ∃ ys, (closeAttrs as s).2.calls = s.calls ++ ys ∧
      (∀ m, ys.countP (·.opensInode m) = 0 ∧ ys.countP (·.closesInode m) = 0) ∧
      (∀ a, ys.countP (·.opensAttr a) = 0 ∧ ys.countP (·.closesAttr a) = as.count a) ∧
      ∀ c ∈ ys, c.WritesNothing
  | [], s => ⟨rfl, rfl, rfl, [], by simp [closeAttrs]⟩
  | a :: as, s => by
    obtain ⟨hctx, hvis, hw, ys, hcalls, hin, hat, hwn⟩ :=
      closeAttrs_spec as ((s.call (.attrPclose a)).2.log (.attrClose a))
    rw [show (closeAttrs (a :: as) s).2 =
      (closeAttrs as ((s.call (.attrPclose a)).2.log (.attrClose a))).2 from rfl]
    refine ⟨by simp [hctx], by simp [hvis], by simp [hw],
      .attrPclose a (s.outcome) :: .attrClose a :: ys, by simp [hcalls],
      fun m => ?_, fun a' => ?_, ?_⟩
    · simp only [List.countP_cons, (hin m).1, (hin m).2]
      simp [NtfsCall.opensInode, NtfsCall.closesInode]
    · simp only [List.countP_cons, (hat a').1, (hat a').2, List.count_cons]
      by_cases h : a = a' <;> simp [NtfsCall.opensAttr, NtfsCall.closesAttr, h]
    · exact List.forall_mem_cons.mpr ⟨⟨rfl, rfl, fun _ _ _ => NtfsCall.noConfusion⟩,
        List.forall_mem_cons.mpr ⟨⟨rfl, rfl, fun _ _ _ => NtfsCall.noConfusion⟩, hwn⟩⟩

/-- The calls of `closeInodes` close each non-`NULL` inode of the list once and open nothing. -/
theorem closeInodes_spec : ∀ (nis : List (Option Nat)) (s : ApplyState),
    (closeInodes nis s).2.ctx = s.ctx ∧ (closeInodes nis s).2.visited = s.visited ∧
    (closeInodes nis s).2.rpdataWrites = s.rpdataWrites ∧
    ∃ ys, (closeInodes nis s).2.calls = s.calls ++ ys ∧
      (∀ m, ys.countP (·.opensInode m) = 0 ∧ ys.countP (·.closesInode m) = nis.count (some m)) ∧
      (∀ a, ys.countP (·.opensAttr a) = 0 ∧ ys.countP (·.closesAttr a) = 0) ∧
      ∀ c ∈ ys, c.WritesNothing
  | [], s => ⟨rfl, rfl, rfl, [], by simp [closeInodes]⟩
  | ni :: nis, s => by
    obtain ⟨hctx, hvis, hw, ys, hcalls, hin, hat, hwn⟩ := closeInodes_spec nis (s.call (.inodeClose ni)).2
    rw [show (closeInodes (ni :: nis) s).2 = (closeInodes nis (s.call (.inodeClose ni)).2).2 from rfl]
    refine ⟨by simp [hctx], by simp [hvis], by simp [hw],
      .inodeClose ni (s.outcome) :: ys, by simp [hcalls], fun m => ?_,
      fun a => ?_, ?_⟩
    · simp only [List.countP_cons, (hin m).1, (hin m).2, List.count_cons]
      rcases ni with _ | m'
      · simp [NtfsCall.opensInode, NtfsCall.closesInode]
      · by_cases h : m' = m <;> simp [NtfsCall.opensInode, NtfsCall.closesInode, h]
    · simp only [List.countP_cons, (hat a).1, (hat a).2]
      simp [NtfsCall.opensAttr, NtfsCall.closesAttr]
    · exact List.forall_mem_cons.mpr ⟨⟨rfl, rfl, fun _ _ _ => NtfsCall.noConfusion⟩, hwn⟩

/-- **`ntfs_3g_cleanup_blob_extract` closes what is open.** After calls that have left open
exactly the context's handles, it closes each of them once, so that every inode and attribute
those calls opened is closed exactly once, and it leaves the context idle with `rpbuf` as it
was. -/
theorem ntfs3gCleanupBlobExtract_spec {cs : List NtfsCall} {s : ApplyState} (h : Tracked cs s.ctx) :
    (ntfs3gCleanupBlobExtract s).2.ctx.Idle ∧
    (ntfs3gCleanupBlobExtract s).2.ctx.rpbuf = s.ctx.rpbuf ∧
    (ntfs3gCleanupBlobExtract s).2.visited = s.visited ∧
    (ntfs3gCleanupBlobExtract s).2.rpdataWrites = s.rpdataWrites ∧
    ∃ ys, (ntfs3gCleanupBlobExtract s).2.calls = s.calls ++ ys ∧ ClosesWhatItOpens (cs ++ ys) ∧
      (∀ m, ys.countP (·.opensInode m) = 0) ∧ ∀ c ∈ ys, c.WritesNothing := by
  obtain ⟨hctx1, hvis1, hw1, ys1, hcalls1, hin1, hat1, hwn1⟩ := closeAttrs_spec s.ctx.openAttrs s
  set s1 := (closeAttrs s.ctx.openAttrs s).2
  set s2 : ApplyState := { s1 with ctx := { s1.ctx with openAttrs := [] } }
  obtain ⟨hctx2, hvis2, hw2, ys2, hcalls2, hin2, hat2, hwn2⟩ := closeInodes_spec s2.ctx.openInodes s2
  have hnis : s2.ctx.openInodes = s.ctx.openInodes := by simp [s2, hctx1]
  have heq : (ntfs3gCleanupBlobExtract s).2 = { (closeInodes s2.ctx.openInodes s2).2 with
      ctx := { (closeInodes s2.ctx.openInodes s2).2.ctx with
        openInodes := [], offset := 0, reparsePtr := none, reparseInodes := [] } } := rfl
  rw [heq]
  simp only [hctx2, hvis2, hw2, hcalls2]
  refine ⟨⟨rfl, rfl, rfl, rfl, rfl⟩, by simp [s2, hctx1], by simp [s2, hvis1], by simp [s2, hw1],
    ys1 ++ ys2, by simp [s2, hcalls1], ⟨fun m => ?_, fun a => ?_⟩, fun m => ?_,
    fun c hc => (List.mem_append.mp hc).elim (hwn1 c) (hwn2 c)⟩
  · simp only [List.countP_append, h.opensInode, h.closesInode, (hin1 m).1, (hin1 m).2,
      (hin2 m).1, (hin2 m).2, hnis, hctx1]
    omega
  · simp only [List.countP_append, h.opensAttr, h.closesAttr, (hat1 a).1, (hat1 a).2,
      (hat2 a).1, (hat2 a).2, hctx1]
    omega
  · simp only [List.countP_append, (hin1 m).1, (hin2 m).1]

/-! ## The loop of `ntfs_3g_begin_extract_blob` -/

theorem Tracked.of_handles {cs : List NtfsCall} {ctx ctx' : Ntfs3gApplyCtx} (h : Tracked cs ctx)
    (hi : ctx'.openInodes = ctx.openInodes) (ha : ctx'.openAttrs = ctx.openAttrs) :
    Tracked cs ctx' :=
  ⟨by rw [hi]; exact h.opensInode, h.closesInode, by rw [ha]; exact h.opensAttr, h.closesAttr⟩

theorem Tracked.quiet {cs : List NtfsCall} {ctx : Ntfs3gApplyCtx} {c : NtfsCall}
    (h : Tracked cs ctx) (hc : c.Quiet) : Tracked (cs ++ [c]) ctx :=
  h.append_quiet fun c' hc' => by rw [List.mem_singleton.mp hc']; exact hc

/-- A successful `ntfs_inode_open` tracks the inode it stores. -/
theorem Tracked.inodeOpen {cs : List NtfsCall} {ctx : Ntfs3gApplyCtx} (h : Tracked cs ctx)
    (m : Nat) : Tracked (cs ++ [.inodeOpen m true]) { ctx with openInodes := ctx.openInodes ++ [some m] } where
  opensInode m' := by
    rw [List.countP_append, h.opensInode, List.count_append]
    by_cases hm : m = m' <;> simp [NtfsCall.opensInode, hm, List.count_cons]
  closesInode m' := by rw [List.countP_append, h.closesInode]; simp [NtfsCall.closesInode]
  opensAttr a := by rw [List.countP_append, h.opensAttr]; simp [NtfsCall.opensAttr]
  closesAttr a := by rw [List.countP_append, h.closesAttr]; simp [NtfsCall.closesAttr]

/-- A failed `ntfs_inode_open` stores `NULL`, which is not tracked. -/
theorem Tracked.inodeOpenFailed {cs : List NtfsCall} {ctx : Ntfs3gApplyCtx} (h : Tracked cs ctx)
    (m : Nat) : Tracked (cs ++ [.inodeOpen m false]) { ctx with openInodes := ctx.openInodes ++ [none] } where
  opensInode m' := by
    rw [List.countP_append, h.opensInode, List.count_append]; simp [NtfsCall.opensInode]
  closesInode m' := by rw [List.countP_append, h.closesInode]; simp [NtfsCall.closesInode]
  opensAttr a := by rw [List.countP_append, h.opensAttr]; simp [NtfsCall.opensAttr]
  closesAttr a := by rw [List.countP_append, h.closesAttr]; simp [NtfsCall.closesAttr]

/-- A successful `ntfs_attr_open` tracks the attribute it stores. -/
theorem Tracked.attrOpen {cs : List NtfsCall} {ctx : Ntfs3gApplyCtx} (h : Tracked cs ctx)
    (a : NtfsDataAttr) : Tracked (cs ++ [.attrOpen a true]) { ctx with openAttrs := ctx.openAttrs ++ [a] } where
  opensInode m := by rw [List.countP_append, h.opensInode]; simp [NtfsCall.opensInode]
  closesInode m := by rw [List.countP_append, h.closesInode]; simp [NtfsCall.closesInode]
  opensAttr a' := by
    rw [List.countP_append, h.opensAttr, List.count_append]
    by_cases ha : a = a' <;> simp [NtfsCall.opensAttr, ha, List.count_cons]
  closesAttr a' := by rw [List.countP_append, h.closesAttr]; simp [NtfsCall.closesAttr]

theorem NtfsCall.quiet_inodeOpen_false (m : Nat) : (NtfsCall.inodeOpen m false).Quiet := by
  simp [NtfsCall.Quiet, NtfsCall.opensInode, NtfsCall.closesInode, NtfsCall.opensAttr,
    NtfsCall.closesAttr]

theorem NtfsCall.quiet_attrOpen_false (a : NtfsDataAttr) : (NtfsCall.attrOpen a false).Quiet := by
  simp [NtfsCall.Quiet, NtfsCall.opensInode, NtfsCall.closesInode, NtfsCall.opensAttr,
    NtfsCall.closesAttr]

theorem NtfsCall.quiet_attrAdd (m : Nat) (name : List UInt16) (ok : Bool) :
    (NtfsCall.attrAdd m name ok).Quiet := by
  simp [NtfsCall.Quiet, NtfsCall.opensInode, NtfsCall.closesInode, NtfsCall.opensAttr,
    NtfsCall.closesAttr]

theorem NtfsCall.quiet_attrTruncateSolid (a : NtfsDataAttr) (n : Nat) (ok : Bool) :
    (NtfsCall.attrTruncateSolid a n ok).Quiet := by
  simp [NtfsCall.Quiet, NtfsCall.opensInode, NtfsCall.closesInode, NtfsCall.opensAttr,
    NtfsCall.closesAttr]

theorem NtfsCall.quiet_attrPwrite (a : NtfsDataAttr) (pos : Nat) (bytes : List UInt8) (ok : Bool) :
    (NtfsCall.attrPwrite a pos bytes ok).Quiet := by
  simp [NtfsCall.Quiet, NtfsCall.opensInode, NtfsCall.closesInode, NtfsCall.opensAttr,
    NtfsCall.closesAttr]

theorem NtfsCall.quiet_setNtfsReparseData (ni : Nat) (buf : List UInt8) (ok : Bool) :
    (NtfsCall.setNtfsReparseData ni buf ok).Quiet := by
  simp [NtfsCall.Quiet, NtfsCall.opensInode, NtfsCall.closesInode, NtfsCall.opensAttr,
    NtfsCall.closesAttr]

theorem findOpenInode_of_mem {m : Nat} : ∀ {l : List (Option Nat)},
    (∀ ni ∈ l, ni.isSome) → some m ∈ l → findOpenInode m l = some (some m)
  | [], _, h => absurd h (List.not_mem_nil _)
  | none :: _, hs, _ => absurd (hs none (List.mem_cons_self _ _)) (by simp)
  | some m' :: l, hs, h => by
    simp only [findOpenInode]
    split_ifs with he
    · rw [he]
    · exact findOpenInode_of_mem (fun ni hni => hs ni (List.mem_cons_of_mem _ hni))
        (by simpa [Ne.symm he] using h)

/-- An inode already visited, whose NTFS inode is open, is found among the open ones. -/
theorem ntfs3gOpenInode_visited {env : Ntfs3gApplyEnv} {inode : Nat} {s : ApplyState}
    (hv : s.visited inode = true) (hsome : ∀ ni ∈ s.ctx.openInodes, ni.isSome)
    (hmem : some (env.mftNo inode) ∈ s.ctx.openInodes) :
    ntfs3gOpenInode env inode s = some (some (env.mftNo inode), s) := by
  simp [ntfs3gOpenInode, hv, findOpenInode_of_mem hsome hmem]

/-- An inode not visited is opened, and the handle `ntfs_inode_open` returns is stored. -/
theorem ntfs3gOpenInode_fresh {env : Ntfs3gApplyEnv} {inode : Nat} {s : ApplyState}
    (hv : s.visited inode = false) (hlen : s.ctx.openInodes.length < env.maxOpenFiles) :
    ntfs3gOpenInode env inode s =
      some (if s.outcome then some (env.mftNo inode) else none,
        (s.call (.inodeOpen (env.mftNo inode))).2.pushInode inode
          (if s.outcome then some (env.mftNo inode) else none)) := by
  simp [ntfs3gOpenInode, hv, Nat.not_le.mpr hlen]

section BeginLoop

variable {env : Ntfs3gApplyEnv} {size : Nat} {T : List BlobExtractionTarget}
  {s₀ s : ApplyState} {cs : List NtfsCall}

/-- What the loop of `ntfs_3g_begin_extract_blob` keeps, for a blob of `size` bytes whose
targets are `T`, from the state `s₀` at the start of the blob over the calls `cs` made since:
the handles are tracked, no NTFS inode is open twice, only targets are visited, and what the
chunks use is as it was, but for a reparse slot taken for a blob that fits `rpdata`. -/
structure BeginInv (env : Ntfs3gApplyEnv) (size : Nat) (T : List BlobExtractionTarget)
    (s₀ : ApplyState) (cs : List NtfsCall) (s : ApplyState) : Prop where
  calls : s.calls = s₀.calls ++ cs
  tracked : Tracked cs s.ctx
  once : ∀ m, s.ctx.openInodes.count (some m) ≤ 1
  visitedTarget : ∀ j, s.visited j = true → ∃ t ∈ T, t.inode = j
  offset : s.ctx.offset = s₀.ctx.offset
  rpdata : s.ctx.rpbuf.rpdata = s₀.ctx.rpbuf.rpdata
  rpdataWrites : s.rpdataWrites = s₀.rpdataWrites
  reparsePtr : s.ctx.reparsePtr = s₀.ctx.reparsePtr ∨
    s.ctx.reparsePtr = some 0 ∧ size ≤ env.reparseDataMaxSize
  reparseInodes : s.ctx.reparseInodes = s₀.ctx.reparseInodes ∨ size ≤ env.reparseDataMaxSize

/-- Between two targets, besides: the open inodes are those of the visited WIM inodes. -/
structure OpenInodesInv (env : Ntfs3gApplyEnv) (s : ApplyState) : Prop where
  visitedOpen : ∀ j, s.visited j = true → some (env.mftNo j) ∈ s.ctx.openInodes
  openVisited : ∀ ni ∈ s.ctx.openInodes, ∃ j, s.visited j = true ∧ ni = some (env.mftNo j)

/-- Distinct WIM inodes among the targets have distinct NTFS inodes. -/
def MftInjective (env : Ntfs3gApplyEnv) (T : List BlobExtractionTarget) : Prop :=
  ∀ t ∈ T, ∀ t' ∈ T, env.mftNo t.inode = env.mftNo t'.inode → t.inode = t'.inode

/-- A step that makes calls but keeps the open inodes, the visited flags and what the chunks
use keeps the invariant, once its calls are tracked. -/
theorem BeginInv.frame {s' : ApplyState} {xs : List NtfsCall} (h : BeginInv env size T s₀ cs s)
    (hcalls : s'.calls = s.calls ++ xs) (htr : Tracked (cs ++ xs) s'.ctx)
    (hnis : s'.ctx.openInodes = s.ctx.openInodes) (hvis : s'.visited = s.visited)
    (hoff : s'.ctx.offset = s.ctx.offset) (hrp : s'.ctx.rpbuf.rpdata = s.ctx.rpbuf.rpdata)
    (hw : s'.rpdataWrites = s.rpdataWrites) (hptr : s'.ctx.reparsePtr = s.ctx.reparsePtr)
    (hri : s'.ctx.reparseInodes = s.ctx.reparseInodes) : BeginInv env size T s₀ (cs ++ xs) s' where
  calls := by rw [hcalls, h.calls, List.append_assoc]
  tracked := htr
  once := hnis ▸ h.once
  visitedTarget := hvis ▸ h.visitedTarget
  offset := hoff.trans h.offset
  rpdata := hrp.trans h.rpdata
  rpdataWrites := hw.trans h.rpdataWrites
  reparsePtr := hptr ▸ h.reparsePtr
  reparseInodes := hri ▸ h.reparseInodes

/-- **`ntfs_3g_open_inode` keeps the invariant.** Between two targets, it returns the handle of
the target's NTFS inode, opening it only when the WIM inode is not visited, or a failed open. -/
theorem ntfs3gOpenInode_step {t : BlobExtractionTarget} (h : BeginInv env size T s₀ cs s)
    (hopen : OpenInodesInv env s) (hinj : MftInjective env T) (ht : t ∈ T)
    (hlen : s.ctx.openInodes.length < env.maxOpenFiles) :
    ∃ ni s' xs, ntfs3gOpenInode env t.inode s = some (ni, s') ∧ BeginInv env size T s₀ (cs ++ xs) s' ∧
      s'.ctx = { s.ctx with openInodes := s'.ctx.openInodes } ∧
      s'.ctx.openInodes.length ≤ s.ctx.openInodes.length + 1 ∧
      (ni = none ∨ ni = some (env.mftNo t.inode) ∧ OpenInodesInv env s') := by
  cases hv : s.visited t.inode
  · have hfresh : some (env.mftNo t.inode) ∉ s.ctx.openInodes := fun hmem => by
      obtain ⟨j, hj, hjm⟩ := hopen.openVisited _ hmem
      obtain ⟨t', ht', rfl⟩ := h.visitedTarget j hj
      rw [← hinj t ht t' ht' (Option.some.inj hjm)] at hj
      exact absurd hj (by simp [hv])
    have hvt : ∀ j, Function.update s.visited t.inode true j = true → ∃ t' ∈ T, t'.inode = j := by
      intro j hj
      by_cases hjt : j = t.inode
      · exact ⟨t, ht, hjt.symm⟩
      · exact h.visitedTarget j (by simpa [Function.update_noteq hjt] using hj)
    rw [ntfs3gOpenInode_fresh hv hlen]
    cases hok : s.outcome
    · refine ⟨_, _, [.inodeOpen (env.mftNo t.inode) false], rfl, ⟨?_, ?_, ?_, hvt, h.offset, h.rpdata,
        h.rpdataWrites, h.reparsePtr, h.reparseInodes⟩, rfl, by simp [ApplyState.pushInode], .inl rfl⟩
      · simp [ApplyState.pushInode, h.calls, hok]
      · exact h.tracked.inodeOpenFailed _
      · intro m; simpa [ApplyState.pushInode, List.count_cons] using h.once m
    · refine ⟨_, _, [.inodeOpen (env.mftNo t.inode) true], rfl, ⟨?_, ?_, ?_, hvt, h.offset, h.rpdata,
        h.rpdataWrites, h.reparsePtr, h.reparseInodes⟩, rfl, by simp [ApplyState.pushInode],
        .inr ⟨rfl, ?_, ?_⟩⟩
      · simp [ApplyState.pushInode, h.calls, hok]
      · exact h.tracked.inodeOpen _
      · intro m
        by_cases hm : env.mftNo t.inode = m
        · subst hm; simp [ApplyState.pushInode, List.count_eq_zero_of_not_mem hfresh]
        · simpa [ApplyState.pushInode, List.count_cons, hm] using h.once m
      · intro j hj
        by_cases hjt : j = t.inode
        · subst hjt; simp [ApplyState.pushInode]
        · have := hopen.visitedOpen j (by simpa [ApplyState.pushInode, Function.update_noteq hjt] using hj)
          simp [ApplyState.pushInode, this]
      · intro ni hni
        simp only [ApplyState.pushInode, ApplyState.call_ctx, List.mem_append, List.mem_singleton] at hni
        rcases hni with hni | rfl
        · obtain ⟨j, hj, rfl⟩ := hopen.openVisited ni hni
          by_cases hjt : j = t.inode
          · exact ⟨j, by simp [ApplyState.pushInode, hjt], rfl⟩
          · exact ⟨j, by simp [ApplyState.pushInode, Function.update_noteq hjt, hj], rfl⟩
        · exact ⟨t.inode, by simp [ApplyState.pushInode], rfl⟩
  · have hsome : ∀ ni ∈ s.ctx.openInodes, ni.isSome := fun ni hni => by
      obtain ⟨j, -, rfl⟩ := hopen.openVisited ni hni; rfl
    refine ⟨_, s, [], ntfs3gOpenInode_visited hv hsome (hopen.visitedOpen _ hv), by simpa using h,
      rfl, by omega, .inr ⟨rfl, hopen⟩⟩

/-- `openDataAttr` keeps the invariant and opens at most one attribute. -/
theorem openDataAttr_step {attr : NtfsDataAttr} (h : BeginInv env size T s₀ cs s)
    (hlen : s.ctx.openAttrs.length < env.maxOpenFiles) :
    ∃ ret s' xs, openDataAttr env size attr s = some (ret, s') ∧
      BeginInv env size T s₀ (cs ++ xs) s' ∧ s'.visited = s.visited ∧
      s'.ctx.openInodes = s.ctx.openInodes ∧ s'.ctx.openAttrs.length ≤ s.ctx.openAttrs.length + 1 ∧
      s'.ctx.reparseInodes = s.ctx.reparseInodes := by
  simp only [openDataAttr, hlen, not_true_eq_false, ↓reduceIte, ApplyState.call_fst]
  cases hok : s.outcome
  · exact ⟨_, _, [.attrOpen attr false], rfl,
      h.frame (by simp [hok]) (h.tracked.quiet (NtfsCall.quiet_attrOpen_false attr)) rfl rfl rfl rfl
        rfl rfl rfl, rfl, rfl, by simp, rfl⟩
  · refine ⟨_, _, [.attrOpen attr true,
      .attrTruncateSolid attr size (s.call (.attrOpen attr)).2.outcome], rfl,
      h.frame (by simp [hok]; rfl) ?_ rfl rfl rfl rfl rfl rfl rfl, rfl, rfl, by simp, rfl⟩
    simpa using (h.tracked.attrOpen attr).quiet (NtfsCall.quiet_attrTruncateSolid attr size _)

/-- **`ntfs_3g_begin_extract_blob_instance` keeps the invariant**, and fills at most one slot of
`open_attrs` and the reparse arrays together. -/
theorem ntfs3gBeginExtractBlobInstance_step {ni inode : Nat} {strm : StreamType}
    (h : BeginInv env size T s₀ cs s) (hattrs : s.ctx.openAttrs.length < env.maxOpenFiles)
    (hrep : s.ctx.reparseInodes.length < env.maxOpenFiles) :
    ∃ ret s' xs, ntfs3gBeginExtractBlobInstance env size ni inode strm s = some (ret, s') ∧
      BeginInv env size T s₀ (cs ++ xs) s' ∧ s'.visited = s.visited ∧
      s'.ctx.openInodes = s.ctx.openInodes ∧
      s'.ctx.openAttrs.length + s'.ctx.reparseInodes.length ≤
        s.ctx.openAttrs.length + s.ctx.reparseInodes.length + 1 := by
  cases strm with
  | reparsePoint =>
    by_cases hbig : size > env.reparseDataMaxSize
    · exact ⟨some .invalidReparseData, s, [], by simp [ntfs3gBeginExtractBlobInstance, hbig],
        by simpa using h, rfl, rfl, by omega⟩
    · have hfit : size ≤ env.reparseDataMaxSize := Nat.not_lt.mp hbig
      refine ⟨none, { s with ctx := { s.ctx with
          reparsePtr := some 0, rpbuf := { s.ctx.rpbuf with rpdatalen := size, rpreserved := 0 },
          reparseInodes := s.ctx.reparseInodes ++ [(ni, inode)] } }, [],
        by simp [ntfs3gBeginExtractBlobInstance, hbig, Nat.not_le.mpr hrep],
        ⟨by simpa using h.calls, by rw [List.append_nil]; exact h.tracked.of_handles rfl rfl, h.once, h.visitedTarget,
          h.offset, h.rpdata, h.rpdataWrites, .inr ⟨rfl, hfit⟩, .inr hfit⟩, rfl, rfl,
        by simp only [List.length_append, List.length_singleton]; omega⟩
  | data streamName =>
    by_cases hn : streamName.length = 0
    · obtain ⟨ret, s', xs, h1, h2, h3, h4, h5, h6⟩ :=
        @openDataAttr_step env size T s₀ s cs ⟨ni, streamName⟩ h hattrs
      exact ⟨ret, s', xs, by simpa [ntfs3gBeginExtractBlobInstance, hn] using h1, h2, h3, h4,
        by rw [h6]; omega⟩
    · simp only [ntfs3gBeginExtractBlobInstance, ne_eq, hn, not_false_eq_true, ↓reduceIte,
        ApplyState.call_fst]
      have hadd : BeginInv env size T s₀ (cs ++ [.attrAdd ni streamName s.outcome])
          (s.call (.attrAdd ni streamName)).2 :=
        h.frame (by simp) (h.tracked.quiet (NtfsCall.quiet_attrAdd ni streamName s.outcome))
          rfl rfl rfl rfl rfl rfl rfl
      rcases Bool.eq_false_or_eq_true s.outcome with hok | hok
      · simp only [hok, Bool.not_true, Bool.false_eq_true, ↓reduceIte]
        obtain ⟨ret, s', xs, h1, h2, h3, h4, h5, h6⟩ :=
          @openDataAttr_step env size T s₀ _ _ ⟨ni, streamName⟩ hadd (by simpa using hattrs)
        refine ⟨ret, s', [.attrAdd ni streamName true] ++ xs, h1, by simpa [hok] using h2,
          by simpa using h3, by simpa using h4, ?_⟩
        simp only [ApplyState.call_ctx] at h5 h6
        rw [h6]; omega
      · simp only [hok, Bool.not_false, ↓reduceIte]
        exact ⟨_, _, _, rfl, hadd, rfl, rfl, by simp⟩

/-- **The loop keeps the invariant.** From a state between two targets, with room in the arrays
for the targets left, the loop never writes past an array, and returns a state that keeps the
invariant with at most one more entry per target in `open_inodes`, and in `open_attrs` and the
reparse arrays together. -/
theorem beginTargets_spec (hinj : MftInjective env T) :
    ∀ (ts : List BlobExtractionTarget) (cs : List NtfsCall) (s : ApplyState),
      (∀ t ∈ ts, t ∈ T) → BeginInv env size T s₀ cs s → OpenInodesInv env s →
      s.ctx.openInodes.length + ts.length ≤ env.maxOpenFiles →
      s.ctx.openAttrs.length + s.ctx.reparseInodes.length + ts.length ≤ env.maxOpenFiles →
      ∃ ret s' xs, beginTargets env size ts s = some (ret, s') ∧
        BeginInv env size T s₀ (cs ++ xs) s' ∧
        s'.ctx.openInodes.length ≤ s.ctx.openInodes.length + ts.length ∧
        s'.ctx.openAttrs.length + s'.ctx.reparseInodes.length ≤
          s.ctx.openAttrs.length + s.ctx.reparseInodes.length + ts.length ∧
        (ret = none → OpenInodesInv env s')
  | [], cs, s, _, h, hopen, _, _ =>
    ⟨none, s, [], rfl, by simpa using h, by simp, by simp, fun _ => hopen⟩
  | t :: ts, cs, s, hts, h, hopen, hlen, hlen' => by
    simp only [List.length_cons] at hlen hlen' ⊢
    obtain ⟨ni, s1, xs1, hstep1, h1, hctx1, hlen1, hni⟩ :=
      ntfs3gOpenInode_step h hopen hinj (hts t (List.mem_cons_self _ _)) (by omega)
    have hattrs1 : s1.ctx.openAttrs = s.ctx.openAttrs := by rw [hctx1]
    have hrep1 : s1.ctx.reparseInodes = s.ctx.reparseInodes := by rw [hctx1]
    rcases hni with rfl | ⟨rfl, hopen1⟩
    · exact ⟨some .ntfs3g, s1, xs1, by simp [beginTargets, hstep1], h1, by omega,
        by rw [hattrs1, hrep1]; omega, by simp⟩
    obtain ⟨ret2, s2, xs2, hstep2, h2, hvis2, hnis2, hlen2⟩ :=
      @ntfs3gBeginExtractBlobInstance_step env size T s₀ s1 (cs ++ xs1) (env.mftNo t.inode) t.inode
        t.stream h1 (by rw [hattrs1]; omega) (by rw [hrep1]; omega)
    rw [hattrs1, hrep1] at hlen2
    have hnislen : s2.ctx.openInodes.length = s1.ctx.openInodes.length := by rw [hnis2]
    rcases ret2 with _ | e
    · have hopen2 : OpenInodesInv env s2 :=
        ⟨by rw [hvis2, hnis2]; exact hopen1.visitedOpen, by rw [hvis2, hnis2]; exact hopen1.openVisited⟩
      obtain ⟨ret, s', xs, hrun, h', hl1, hl2, hinv'⟩ := beginTargets_spec hinj ts _ s2
        (fun t ht => hts t (List.mem_cons_of_mem _ ht)) h2 hopen2 (by omega) (by omega)
      exact ⟨ret, s', xs1 ++ xs2 ++ xs, by simp [beginTargets, hstep1, hstep2, hrun],
        by simpa using h', by omega, by omega, hinv'⟩
    · exact ⟨some e, s2, xs1 ++ xs2, by simp [beginTargets, hstep1, hstep2], by simpa using h2,
        by omega, by omega, by simp⟩

end BeginLoop

/-! ## One blob -/

/-- `clearVisited` clears exactly the flags of the targets' inodes. -/
theorem clearVisited_apply : ∀ (T : List BlobExtractionTarget) (v : Nat → Bool) (j : Nat),
    clearVisited T v j = if ∃ t ∈ T, t.inode = j then false else v j
  | [], v, j => by simp [clearVisited]
  | t :: T, v, j => by
    rw [clearVisited, List.foldl_cons, ← clearVisited, clearVisited_apply T]
    by_cases hj : t.inode = j
    · subst hj; simp
    · simp [Function.update_noteq (Ne.symm hj), hj]

/-- Flags set only on targets are all clear after `clearVisited`. -/
theorem clearVisited_eq_false {T : List BlobExtractionTarget} {v : Nat → Bool}
    (h : ∀ j, v j = true → ∃ t ∈ T, t.inode = j) (j : Nat) : clearVisited T v j = false := by
  rw [clearVisited_apply]
  split_ifs with hj
  · rfl
  · cases hv : v j
    · rfl
    · exact absurd (h j hv) hj

/-- The state between two blobs: the context idle, no inode visited, `rpdata` of its size. -/
structure BetweenBlobs (env : Ntfs3gApplyEnv) (s : ApplyState) : Prop where
  idle : s.ctx.Idle
  visited : ∀ j, s.visited j = false
  rpdata : s.ctx.rpbuf.rpdata.length = env.reparseDataMaxSize

/-- The state while the chunks of `blob` are written, from the state `s₀` before its `begin`
over the calls `cs` since: the handles are tracked, no NTFS inode is open twice, no inode is
visited, the counters are at most the number of targets, `reparse_ptr` follows `offset` for a
blob that fits `rpdata`, and every `mempcpy` into `rpdata` stayed within the blob's size. -/
structure ChunkInv (env : Ntfs3gApplyEnv) (blob : BlobDescriptor) (s₀ : ApplyState)
    (cs : List NtfsCall) (s : ApplyState) : Prop where
  calls : s.calls = s₀.calls ++ cs
  tracked : Tracked cs s.ctx
  once : ∀ m, s.ctx.openInodes.count (some m) ≤ 1
  visited : ∀ j, s.visited j = false
  openInodes : s.ctx.openInodes.length ≤ blob.targets.length
  openAttrs : s.ctx.openAttrs.length + s.ctx.reparseInodes.length ≤ blob.targets.length
  rpdata : s.ctx.rpbuf.rpdata.length = env.reparseDataMaxSize
  reparsePtr : s.ctx.reparsePtr = none ∨
    s.ctx.reparsePtr = some s.ctx.offset ∧ blob.size ≤ env.reparseDataMaxSize
  reparseInodes : s.ctx.reparseInodes = [] ∨ blob.size ≤ env.reparseDataMaxSize
  rpdataWrites : ∃ ws, s.rpdataWrites = s₀.rpdataWrites ++ ws ∧ ∀ w ∈ ws, w.1 + w.2 ≤ blob.size

theorem Tracked.idle {ctx : Ntfs3gApplyCtx} (h : ctx.Idle) : Tracked [] ctx :=
  ⟨fun _ => by simp [h.openInodes], fun _ => rfl, fun _ => by simp [h.openAttrs], fun _ => rfl⟩

theorem ClosesWhatItOpens.append {xs ys : List NtfsCall} (hx : ClosesWhatItOpens xs)
    (hy : ClosesWhatItOpens ys) : ClosesWhatItOpens (xs ++ ys) :=
  ⟨fun m => by simp only [List.countP_append, hx.1 m, hy.1 m],
    fun a => by simp only [List.countP_append, hx.2 a, hy.2 a]⟩

/-- **`ntfs_3g_begin_extract_blob` from between two blobs.** With at most `MAX_OPEN_FILES`
targets whose WIM inodes have distinct NTFS inodes, it never writes past an array; it clears
every `i_visited` flag it set; on success the chunks can be written, and on failure it has
closed what it opened and left the context idle. -/
theorem ntfs3gBeginExtractBlob_spec {env : Ntfs3gApplyEnv} {blob : BlobDescriptor} {s : ApplyState}
    (hs : BetweenBlobs env s) (hinj : MftInjective env blob.targets)
    (hlen : blob.targets.length ≤ env.maxOpenFiles) :
    ∃ ret s' xs, ntfs3gBeginExtractBlob env blob s = some (ret, s') ∧
      (ret = none → ChunkInv env blob s xs s' ∧ s'.ctx.offset = 0) ∧
      (ret ≠ none → BetweenBlobs env s' ∧ s'.calls = s.calls ++ xs ∧ ClosesWhatItOpens xs ∧
        ∀ m, xs.countP (·.opensInode m) ≤ 1) := by
  have h0 : BeginInv env blob.size blob.targets s [] s :=
    ⟨by simp, Tracked.idle hs.idle, fun m => by simp [hs.idle.openInodes],
      fun j hj => absurd hj (by simp [hs.visited j]), rfl, rfl, rfl, .inl rfl, .inl rfl⟩
  have hopen0 : OpenInodesInv env s :=
    ⟨fun j hj => absurd hj (by simp [hs.visited j]), fun ni hni => by simp [hs.idle.openInodes] at hni⟩
  obtain ⟨ret, s1, xs, hrun, h1, hl1, hl2, -⟩ := beginTargets_spec hinj blob.targets [] s
    (fun _ ht => ht) h0 hopen0 (by simp [hs.idle.openInodes, hlen])
    (by simp [hs.idle.openAttrs, hs.idle.reparseInodes, hlen])
  simp only [hs.idle.openInodes, hs.idle.openAttrs, hs.idle.reparseInodes, List.length_nil,
    Nat.zero_add, List.nil_append] at hl1 hl2 h1
  have hclear := clearVisited_eq_false h1.visitedTarget
  rcases ret with _ | e
  · refine ⟨none, { s1 with visited := clearVisited blob.targets s1.visited }, xs,
      by simp [ntfs3gBeginExtractBlob, hrun], fun _ => ⟨?_, h1.offset.trans hs.idle.offset⟩,
      fun h => absurd rfl h⟩
    refine ⟨h1.calls, h1.tracked, h1.once, hclear, hl1, hl2, by simpa [h1.rpdata] using hs.rpdata, ?_, ?_,
      ⟨[], by simpa using h1.rpdataWrites, by simp⟩⟩
    · rcases h1.reparsePtr with hp | hp
      · exact .inl (hp.trans hs.idle.reparsePtr)
      · exact .inr ⟨by rw [hp.1, h1.offset, hs.idle.offset], hp.2⟩
    · exact h1.reparseInodes.imp_left (·.trans hs.idle.reparseInodes)
  · obtain ⟨hidle, hrpbuf, hvis, -, ys, hcalls, hclose, hopen, -⟩ :=
      ntfs3gCleanupBlobExtract_spec h1.tracked
    refine ⟨some e, { (ntfs3gCleanupBlobExtract s1).2 with
        visited := clearVisited blob.targets (ntfs3gCleanupBlobExtract s1).2.visited }, xs ++ ys,
      by simp [ntfs3gBeginExtractBlob, hrun], fun h => absurd h (by simp),
      fun _ => ⟨⟨hidle, fun j => ?_, ?_⟩, by simp [hcalls, h1.calls], hclose, fun m => ?_⟩⟩
    · simpa [hvis] using hclear j
    · simpa [hrpbuf, h1.rpdata] using hs.rpdata
    · rw [List.countP_append, h1.tracked.opensInode m, hopen m]
      exact h1.once m

/-! ## The chunks and `end` -/

theorem length_writeBytes {buf bytes : List UInt8} {pos : Nat} (h : pos + bytes.length ≤ buf.length) :
    (writeBytes buf pos bytes).length = buf.length := by
  simp only [writeBytes, List.length_append, List.length_take, List.length_drop]
  omega

/-- The calls of `pwriteAttrs` are `ntfs_attr_pwrite`s of the chunk at `pos`, one per attribute up
to the first that fails, and one per attribute when it returns `true`. -/
theorem pwriteAttrs_spec (pos : Nat) (chunk : List UInt8) : ∀ (as : List NtfsDataAttr) (s : ApplyState),
    (pwriteAttrs pos chunk as s).2.ctx = s.ctx ∧ (pwriteAttrs pos chunk as s).2.visited = s.visited ∧
    (pwriteAttrs pos chunk as s).2.rpdataWrites = s.rpdataWrites ∧
    ∃ xs, (pwriteAttrs pos chunk as s).2.calls = s.calls ++ xs ∧ (∀ c ∈ xs, c.Quiet) ∧
      ((pwriteAttrs pos chunk as s).1 = true → xs = as.map fun a => .attrPwrite a pos chunk true)
  | [], s => ⟨rfl, rfl, rfl, [], by simp [pwriteAttrs]⟩
  | a :: as, s => by
    rw [show pwriteAttrs pos chunk (a :: as) s =
      if s.outcome then pwriteAttrs pos chunk as (s.call (.attrPwrite a pos chunk)).2
      else (false, (s.call (.attrPwrite a pos chunk)).2) from rfl]
    rcases Bool.eq_false_or_eq_true s.outcome with hok | hok
    · obtain ⟨hctx, hvis, hw, xs, hcalls, hq, hall⟩ :=
        pwriteAttrs_spec pos chunk as (s.call (.attrPwrite a pos chunk)).2
      simp only [hok, ↓reduceIte]
      refine ⟨by simpa using hctx, by simpa using hvis, by simpa using hw, .attrPwrite a pos chunk true :: xs,
        by simp [hcalls, hok], ?_, fun h => by simp [hall h]⟩
      intro c hc
      rcases List.mem_cons.mp hc with rfl | hc
      · exact NtfsCall.quiet_attrPwrite a pos chunk true
      · exact hq c hc
    · simp only [hok, Bool.false_eq_true, ↓reduceIte]
      exact ⟨rfl, rfl, rfl, [.attrPwrite a pos chunk false], by simp [hok],
        by simpa using NtfsCall.quiet_attrPwrite a pos chunk false, by simp⟩

section Chunks

variable {env : Ntfs3gApplyEnv} {blob : BlobDescriptor} {s₀ s : ApplyState} {cs : List NtfsCall}

/-- **`ntfs_3g_extract_chunk` keeps the invariant** for a chunk that ends within the blob: it
copies it into `rpdata` within the blob's size, and advances `offset` when it succeeds. -/
theorem ntfs3gExtractChunk_step {chunk : List UInt8} (h : ChunkInv env blob s₀ cs s)
    (hfit : s.ctx.offset + chunk.length ≤ blob.size) :
    ∃ ret s' xs, ntfs3gExtractChunk chunk s = some (ret, s') ∧ ChunkInv env blob s₀ (cs ++ xs) s' ∧
      (ret = none → s'.ctx.offset = s.ctx.offset + chunk.length) := by
  obtain ⟨hctx, hvis, hw, xs, hcalls, hq, -⟩ :=
    pwriteAttrs_spec s.ctx.offset chunk s.ctx.openAttrs s
  rcases hp : pwriteAttrs s.ctx.offset chunk s.ctx.openAttrs s with ⟨ok, s1⟩
  rw [hp] at hctx hvis hw hcalls
  simp only at hctx hvis hw hcalls
  have h1 : ChunkInv env blob s₀ (cs ++ xs) s1 :=
    ⟨by rw [hcalls, h.calls, List.append_assoc], by rw [hctx]; exact h.tracked.append_quiet hq,
      hctx ▸ h.once, hvis ▸ h.visited, hctx ▸ h.openInodes, hctx ▸ h.openAttrs, hctx ▸ h.rpdata,
      hctx ▸ h.reparsePtr, hctx ▸ h.reparseInodes, hw ▸ h.rpdataWrites⟩
  simp only [ntfs3gExtractChunk, hp]
  cases ok
  · exact ⟨_, s1, xs, rfl, h1, by simp⟩
  simp only [Bool.not_true, Bool.false_eq_true, ↓reduceIte]
  rcases h1.reparsePtr with hptr | ⟨hptr, hsize⟩
  · refine ⟨none, { s1 with ctx := { s1.ctx with offset := s1.ctx.offset + chunk.length } }, xs,
      by simp [hptr], ⟨h1.calls, h1.tracked.of_handles rfl rfl, h1.once, h1.visited, h1.openInodes,
      h1.openAttrs, h1.rpdata, .inl hptr, h1.reparseInodes, h1.rpdataWrites⟩, fun _ => by simp [hctx]⟩
  · have hroom : s1.ctx.offset + chunk.length ≤ s1.ctx.rpbuf.rpdata.length := by
      rw [h1.rpdata, hctx]; omega
    obtain ⟨ws, hws, hwin⟩ := h1.rpdataWrites
    refine ⟨none, { s1 with
        ctx := { s1.ctx with
          rpbuf := { s1.ctx.rpbuf with rpdata := writeBytes s1.ctx.rpbuf.rpdata s1.ctx.offset chunk },
          reparsePtr := some (s1.ctx.offset + chunk.length), offset := s1.ctx.offset + chunk.length }
        rpdataWrites := s1.rpdataWrites ++ [(s1.ctx.offset, chunk.length)] }, xs,
      by simp [hptr, Nat.not_lt.mpr hroom], ⟨h1.calls, h1.tracked.of_handles rfl rfl, h1.once,
      h1.visited, h1.openInodes, h1.openAttrs, by simp [length_writeBytes hroom, h1.rpdata],
      .inr ⟨rfl, hsize⟩, h1.reparseInodes, ⟨ws ++ [(s1.ctx.offset, chunk.length)], by simp [hws], ?_⟩⟩,
      fun _ => by simp [hctx]⟩
    intro w hw'
    rcases List.mem_append.mp hw' with hw' | hw'
    · exact hwin w hw'
    · rw [List.mem_singleton.mp hw', hctx]; exact hfit

/-- The chunks of a blob, in order: they never copy past `rpdata` and keep the invariant. -/
theorem extractChunks_spec : ∀ (chunks : List (List UInt8)) (cs : List NtfsCall) (s : ApplyState),
    ChunkInv env blob s₀ cs s → s.ctx.offset + (chunks.map List.length).sum ≤ blob.size →
    ∃ ret s' xs, extractChunks chunks s = some (ret, s') ∧ ChunkInv env blob s₀ (cs ++ xs) s'
  | [], cs, s, h, _ => ⟨none, s, [], rfl, by simpa using h⟩
  | c :: chunks, cs, s, h, hfit => by
    simp only [List.map_cons, List.sum_cons] at hfit
    obtain ⟨ret, s1, xs, hstep, h1, hoff⟩ := @ntfs3gExtractChunk_step env blob s₀ s cs c h (by omega)
    rcases ret with _ | e
    · obtain ⟨ret', s', xs', hrun, h'⟩ := extractChunks_spec chunks _ s1 h1 (by rw [hoff rfl]; omega)
      exact ⟨ret', s', xs ++ xs', by simp [extractChunks, hstep, hrun], by simpa using h'⟩
    · exact ⟨some e, s1, xs, by simp [extractChunks, hstep], h1⟩

end Chunks

/-- The loop of `ntfs_3g_end_extract_blob`: for a blob that fits `rpdata` it never reads past
`rpbuf`, and it changes only `rptag`. Its calls are `ntfs_set_ntfs_reparse_data`s up to the
first that fails, and when none fails, one per reparse inode, with `rpbuf` carrying that
inode's tag. -/
theorem setReparseInodes_spec (env : Ntfs3gApplyEnv) (size : Nat) :
    ∀ (l : List (Nat × Nat)) (s : ApplyState), (l ≠ [] → size ≤ s.ctx.rpbuf.rpdata.length) →
    ∃ ret s' xs, setReparseInodes env size l s = some (ret, s') ∧
      s'.ctx = { s.ctx with rpbuf := { s.ctx.rpbuf with rptag := s'.ctx.rpbuf.rptag } } ∧
      s'.visited = s.visited ∧ s'.rpdataWrites = s.rpdataWrites ∧
      s'.calls = s.calls ++ xs ∧ (∀ c ∈ xs, c.Quiet) ∧
      (ret = none → xs = l.map fun p => .setNtfsReparseData p.1
        ({ s.ctx.rpbuf with rptag := env.reparseTag p.2 }.bytes.take (size + reparseDataOffset)) true)
  | [], s, _ => ⟨none, s, [], rfl, rfl, rfl, rfl, by simp, by simp, by simp⟩
  | (ni, inode) :: rest, s, hfit => by
    have hroom : size ≤ s.ctx.rpbuf.rpdata.length := hfit (List.cons_ne_nil _ _)
    have hlen : ¬({ s.ctx.rpbuf with rptag := env.reparseTag inode }.bytes.length <
        size + reparseDataOffset) := by
      simp only [ReparseBufferDisk.bytes, List.length_append, length_leBytes, reparseDataOffset]
      omega
    simp only [setReparseInodes, ApplyState.setRptag_ctx, ApplyState.setRptag_outcome, hlen,
      ↓reduceIte, ApplyState.call_fst]
    set buf := { s.ctx.rpbuf with rptag := env.reparseTag inode }.bytes.take (size + reparseDataOffset)
    rcases Bool.eq_false_or_eq_true s.outcome with hok | hok
    · simp only [hok, ↓reduceIte]
      obtain ⟨ret, s', xs, hrun, hctx, hvis, hw, hcalls, hq, hall⟩ := setReparseInodes_spec env size rest
        ((s.setRptag (env.reparseTag inode)).call (.setNtfsReparseData ni buf)).2
        (fun _ => by simpa using hroom)
      refine ⟨ret, s', .setNtfsReparseData ni buf true :: xs, hrun, by rw [hctx]; simp,
        by simpa using hvis, by simpa using hw, by simp [hcalls, hok], ?_, fun h => by simp [hall h, buf]⟩
      intro c hc
      rcases List.mem_cons.mp hc with rfl | hc
      · exact NtfsCall.quiet_setNtfsReparseData _ _ _
      · exact hq c hc
    · simp only [hok, Bool.false_eq_true, ↓reduceIte]
      exact ⟨_, _, [.setNtfsReparseData ni buf false], rfl, rfl, rfl, rfl, by simp [hok],
        by simpa using NtfsCall.quiet_setNtfsReparseData ni buf false, by simp⟩

/-- The cleanup at `out:` of `ntfs_3g_end_extract_blob`, from a state that differs from the
chunks' state only in `rptag` and in quiet calls. -/
theorem cleanup_after_chunks {env : Ntfs3gApplyEnv} {blob : BlobDescriptor} {s₀ s s1 : ApplyState}
    {cs xs1 : List NtfsCall} (h : ChunkInv env blob s₀ cs s)
    (hctx1 : s1.ctx = { s.ctx with rpbuf := { s.ctx.rpbuf with rptag := s1.ctx.rpbuf.rptag } })
    (hvis1 : s1.visited = s.visited) (hw1 : s1.rpdataWrites = s.rpdataWrites)
    (hcalls1 : s1.calls = s.calls ++ xs1) (hq1 : ∀ c ∈ xs1, c.Quiet) :
    BetweenBlobs env (ntfs3gCleanupBlobExtract s1).2 ∧
    ∃ ys, (ntfs3gCleanupBlobExtract s1).2.calls = s.calls ++ ys ∧ ClosesWhatItOpens (cs ++ ys) ∧
      (∀ m, ys.countP (·.opensInode m) = 0) ∧
      (ntfs3gCleanupBlobExtract s1).2.rpdataWrites = s.rpdataWrites := by
  have htr : Tracked (cs ++ xs1) s1.ctx :=
    (h.tracked.append_quiet hq1).of_handles (by rw [hctx1]) (by rw [hctx1])
  obtain ⟨hidle, hrpbuf, hvis2, hw2, ys2, hcalls2, hclose, hopen, -⟩ := ntfs3gCleanupBlobExtract_spec htr
  refine ⟨⟨hidle, fun j => by rw [hvis2, hvis1]; exact h.visited j, ?_⟩, xs1 ++ ys2,
    by rw [hcalls2, hcalls1, List.append_assoc], by simpa using hclose, fun m => ?_, by rw [hw2, hw1]⟩
  · rw [hrpbuf, hctx1]; exact h.rpdata
  · rw [List.countP_append, countP_quiet_opensInode hq1, hopen m]

/-- **`ntfs_3g_end_extract_blob` ends the blob.** Whatever its status, from the chunks'
invariant it never reads past `rpbuf`, closes what the blob's calls left open, leaves the
context idle with no inode visited, and the blob has then opened no NTFS inode twice and closed
everything it opened exactly once; `end` itself opens nothing. -/
theorem ntfs3gEndExtractBlob_spec {env : Ntfs3gApplyEnv} {blob : BlobDescriptor} {s₀ s : ApplyState}
    {cs : List NtfsCall} (h : ChunkInv env blob s₀ cs s) (status : Option WimlibErr) :
    ∃ ret s' ys, ntfs3gEndExtractBlob env blob status s = some (ret, s') ∧ BetweenBlobs env s' ∧
      s'.calls = s.calls ++ ys ∧ ClosesWhatItOpens (cs ++ ys) ∧
      (∀ m, ys.countP (·.opensInode m) = 0) ∧ s'.rpdataWrites = s.rpdataWrites := by
  cases status with
  | some e =>
    obtain ⟨hb, ys, h'⟩ := @cleanup_after_chunks env blob s₀ s s cs [] h rfl rfl rfl (by simp) (by simp)
    exact ⟨_, _, ys, rfl, hb, h'⟩
  | none =>
    obtain ⟨ret, s1, xs1, hrun, hctx1, hvis1, hw1, hcalls1, hq1, -⟩ :=
      setReparseInodes_spec env blob.size s.ctx.reparseInodes s fun hne => by
        rw [h.rpdata]; exact h.reparseInodes.resolve_left hne
    obtain ⟨hb, ys, h'⟩ := cleanup_after_chunks h hctx1 hvis1 hw1 hcalls1 hq1
    exact ⟨if !(ntfs3gCleanupBlobExtract s1).1 && ret.isNone then some .ntfs3g else ret, _, ys,
      by simp [ntfs3gEndExtractBlob, hrun], hb, h'⟩

/-- The calls of a blob so far open no NTFS inode twice. -/
theorem ChunkInv.opens_le_one {env : Ntfs3gApplyEnv} {blob : BlobDescriptor} {s₀ s : ApplyState}
    {cs : List NtfsCall} (h : ChunkInv env blob s₀ cs s) (m : Nat) :
    cs.countP (·.opensInode m) ≤ 1 := by
  rw [h.tracked.opensInode]; exact h.once m

/-- From between two blobs, `end` may come with no blob open. -/
theorem ChunkInv.of_between {env : Ntfs3gApplyEnv} {blob : BlobDescriptor} {s : ApplyState}
    (hs : BetweenBlobs env s) : ChunkInv env blob s [] s :=
  ⟨by simp, Tracked.idle hs.idle, fun m => by simp [hs.idle.openInodes], hs.visited,
    by simp [hs.idle.openInodes], by simp [hs.idle.openAttrs, hs.idle.reparseInodes], hs.rpdata,
    .inl hs.idle.reparsePtr, .inl hs.idle.reparseInodes, ⟨[], by simp, by simp⟩⟩

/-- A blob as `extract_blob_list` drives it: at most `MAX_OPEN_FILES` targets, whose WIM inodes
have distinct NTFS inodes, and chunks of at most the blob's size in all. -/
structure BlobSession.WellFormed (env : Ntfs3gApplyEnv) (sess : BlobSession) : Prop where
  targets : sess.blob.targets.length ≤ env.maxOpenFiles
  mftInjective : MftInjective env sess.blob.targets
  chunks : (sess.chunks.map List.length).sum ≤ sess.blob.size

/-- **One blob, from between two blobs back to between two blobs.** Whatever the libntfs-3g
calls return, no array is written past and nothing is read past `rpbuf`; the blob's calls open
no NTFS inode twice and close every inode and attribute they open exactly once; the context is
idle again with no inode visited. -/
theorem runBlobSession_spec {env : Ntfs3gApplyEnv} {sess : BlobSession} {s : ApplyState}
    (hs : BetweenBlobs env s) (hwf : sess.WellFormed env) :
    ∃ ret s' cs, runBlobSession env sess s = some (ret, s') ∧ BetweenBlobs env s' ∧
      s'.calls = s.calls ++ cs ∧ ClosesWhatItOpens cs ∧ ∀ m, cs.countP (·.opensInode m) ≤ 1 := by
  obtain ⟨ret, s1, xs, hbegin, hok, hfail⟩ := ntfs3gBeginExtractBlob_spec hs hwf.mftInjective hwf.targets
  rcases ret with _ | e
  · obtain ⟨h1, hoff⟩ := hok rfl
    obtain ⟨ret2, s2, xs2, hchunks, h2⟩ :=
      extractChunks_spec sess.chunks xs s1 h1 (by rw [hoff, Nat.zero_add]; exact hwf.chunks)
    obtain ⟨ret3, s3, ys, hend, hb, hcalls, hclose, hopen, -⟩ :=
      ntfs3gEndExtractBlob_spec h2 (ret2.elim sess.status some)
    refine ⟨ret3, s3, xs ++ xs2 ++ ys, ?_, hb, by rw [hcalls, h2.calls, List.append_assoc], hclose,
      fun m => by rw [List.countP_append, hopen m]; exact h2.opens_le_one m⟩
    rcases ret2 with _ | e2 <;> simpa [runBlobSession, hbegin, hchunks] using hend
  · obtain ⟨hb1, hcalls1, hclose1, hopen1⟩ := hfail (by simp)
    cases hend : sess.endAfterFailedBegin
    · exact ⟨some e, s1, xs, by simp [runBlobSession, hbegin, hend], hb1, hcalls1, hclose1, hopen1⟩
    · obtain ⟨ret3, s3, ys, hrun, hb, hcalls, hclose, hopen, -⟩ :=
        ntfs3gEndExtractBlob_spec (@ChunkInv.of_between env sess.blob s1 hb1) sess.status
      refine ⟨ret3, s3, xs ++ ys, by simpa [runBlobSession, hbegin, hend] using hrun, hb,
        by rw [hcalls, hcalls1, List.append_assoc], hclose1.append (by simpa using hclose),
        fun m => by rw [List.countP_append, hopen m]; exact hopen1 m⟩

/-- Blobs one after another, from between two blobs. -/
theorem runBlobSessions_spec {env : Ntfs3gApplyEnv} :
    ∀ (sessions : List BlobSession) (s : ApplyState), BetweenBlobs env s →
      (∀ sess ∈ sessions, sess.WellFormed env) →
      ∃ rs s', runBlobSessions env sessions s = some (rs, s') ∧ BetweenBlobs env s' ∧
        rs.length = sessions.length ∧
        ∀ r ∈ rs, ClosesWhatItOpens r.2 ∧ ∀ m, r.2.countP (·.opensInode m) ≤ 1
  | [], s, hs, _ => ⟨[], s, rfl, hs, rfl, by simp⟩
  | sess :: rest, s, hs, hwf => by
    obtain ⟨ret, s1, cs, hrun, hb1, hcalls, hclose, hopen⟩ :=
      runBlobSession_spec hs (hwf sess (List.mem_cons_self _ _))
    obtain ⟨rs, s', hrest, hb, hlen, hall⟩ :=
      runBlobSessions_spec rest s1 hb1 fun x hx => hwf x (List.mem_cons_of_mem _ hx)
    refine ⟨(ret, cs) :: rs, s', by simp [runBlobSessions, hrun, hrest, hcalls], hb, by simp [hlen], ?_⟩
    intro r hr
    rcases List.mem_cons.mp hr with rfl | hr
    · exact ⟨hclose, hopen⟩
    · exact hall r hr

/-- **The blob callbacks keep `struct ntfs_3g_apply_ctx` sound.** For blobs of at most
`MAX_OPEN_FILES` targets whose WIM inodes have distinct NTFS inodes, whatever the libntfs-3g
calls return:
* `begin`, from between two blobs, never writes past an array; when it succeeds, the chunks'
  invariant holds (`ChunkInv`: each counter at most the number of targets, no NTFS inode open
  twice, no inode visited); when it fails, the context is idle with no inode visited again and
  its calls closed what they opened;
* each chunk that ends within the blob keeps the chunks' invariant;
* `end`, whatever its status, leaves the context idle with no inode visited, the blob's calls
  having opened no NTFS inode twice and closed every inode and attribute they opened exactly
  once;
* and so does every blob of a run, each ended or not after a failed `begin`. -/
theorem blobCallbacks_keepApplyCtx (env : Ntfs3gApplyEnv) :
    (∀ (blob : BlobDescriptor) (s : ApplyState), BetweenBlobs env s → MftInjective env blob.targets →
      blob.targets.length ≤ env.maxOpenFiles →
      ∃ ret s' xs, ntfs3gBeginExtractBlob env blob s = some (ret, s') ∧
        (ret = none → ChunkInv env blob s xs s' ∧ s'.ctx.offset = 0) ∧
        (ret ≠ none → BetweenBlobs env s' ∧ s'.calls = s.calls ++ xs ∧ ClosesWhatItOpens xs ∧
          ∀ m, xs.countP (·.opensInode m) ≤ 1)) ∧
    (∀ (blob : BlobDescriptor) (s₀ s : ApplyState) (cs : List NtfsCall) (chunk : List UInt8),
      ChunkInv env blob s₀ cs s → s.ctx.offset + chunk.length ≤ blob.size →
      ∃ ret s' xs, ntfs3gExtractChunk chunk s = some (ret, s') ∧ ChunkInv env blob s₀ (cs ++ xs) s') ∧
    (∀ (blob : BlobDescriptor) (s₀ s : ApplyState) (cs : List NtfsCall) (status : Option WimlibErr),
      ChunkInv env blob s₀ cs s →
      ∃ ret s' ys, ntfs3gEndExtractBlob env blob status s = some (ret, s') ∧ BetweenBlobs env s' ∧
        s'.calls = s.calls ++ ys ∧ ClosesWhatItOpens (cs ++ ys) ∧
        ∀ m, (cs ++ ys).countP (·.opensInode m) ≤ 1) ∧
    (∀ (sessions : List BlobSession) (s : ApplyState), BetweenBlobs env s →
      (∀ sess ∈ sessions, sess.WellFormed env) →
      ∃ rs s', runBlobSessions env sessions s = some (rs, s') ∧ BetweenBlobs env s' ∧
        rs.length = sessions.length ∧
        ∀ r ∈ rs, ClosesWhatItOpens r.2 ∧ ∀ m, r.2.countP (·.opensInode m) ≤ 1) := by
  refine ⟨fun _ _ hs hinj hlen => ntfs3gBeginExtractBlob_spec hs hinj hlen,
    fun _ _ _ _ _ h hfit => ?_, fun _ _ _ cs status h => ?_, runBlobSessions_spec⟩
  · obtain ⟨ret, s', xs, hrun, h', -⟩ := ntfs3gExtractChunk_step h hfit
    exact ⟨ret, s', xs, hrun, h'⟩
  · obtain ⟨ret, s', ys, hrun, hb, hcalls, hclose, hopen, -⟩ := ntfs3gEndExtractBlob_spec h status
    exact ⟨ret, s', ys, hrun, hb, hcalls, hclose, fun m => by
      rw [List.countP_append, hopen m]; exact h.opens_le_one m⟩

theorem blobCallbacks_keepApplyCtx_threeTargets :
    (∃ ret s', ntfs3gBeginExtractBlob ⟨4, 8, (· + 100), fun _ => 7⟩
      ⟨3, [⟨0, .data []⟩, ⟨0, .data [115]⟩, ⟨1, .reparsePoint⟩]⟩
      ⟨⟨[], [], ⟨0, 0, 0, List.replicate 8 0⟩, none, 0, []⟩, fun _ => false, [], [], []⟩ =
        some (ret, s')) ∧
    (∃ ret s', ntfs3gExtractChunk [1, 2]
      ⟨⟨[], [], ⟨0, 0, 0, List.replicate 8 0⟩, none, 0, []⟩, fun _ => false, [], [], []⟩ =
        some (ret, s')) ∧
    (∃ ret s', ntfs3gEndExtractBlob ⟨4, 8, (· + 100), fun _ => 7⟩
      ⟨3, [⟨0, .data []⟩, ⟨0, .data [115]⟩, ⟨1, .reparsePoint⟩]⟩ none
      ⟨⟨[], [], ⟨0, 0, 0, List.replicate 8 0⟩, none, 0, []⟩, fun _ => false, [], [], []⟩ =
        some (ret, s')) ∧
    ∃ rs s', runBlobSessions ⟨4, 8, (· + 100), fun _ => 7⟩
      [⟨⟨3, [⟨0, .data []⟩, ⟨0, .data [115]⟩, ⟨1, .reparsePoint⟩]⟩, [[1, 2], [3]], none, true⟩]
      ⟨⟨[], [], ⟨0, 0, 0, List.replicate 8 0⟩, none, 0, []⟩, fun _ => false, [], [], []⟩ =
        some (rs, s') ∧ ∀ r ∈ rs, ClosesWhatItOpens r.2 := by
  have hs : BetweenBlobs ⟨4, 8, (· + 100), fun _ => 7⟩
      ⟨⟨[], [], ⟨0, 0, 0, List.replicate 8 0⟩, none, 0, []⟩, fun _ => false, [], [], []⟩ :=
    ⟨⟨rfl, rfl, rfl, rfl, rfl⟩, fun _ => rfl, rfl⟩
  have hinj : MftInjective ⟨4, 8, (· + 100), fun _ => 7⟩
      [⟨0, .data []⟩, ⟨0, .data [115]⟩, ⟨1, .reparsePoint⟩] := by
    unfold MftInjective; decide
  obtain ⟨hbegin, hchunk, hend, hrun⟩ := blobCallbacks_keepApplyCtx ⟨4, 8, (· + 100), fun _ => 7⟩
  obtain ⟨ret1, s1, -, h1, -⟩ :=
    hbegin ⟨3, [⟨0, .data []⟩, ⟨0, .data [115]⟩, ⟨1, .reparsePoint⟩]⟩ _ hs hinj (by decide)
  obtain ⟨ret2, s2, -, h2, -⟩ :=
    hchunk ⟨3, [⟨0, .data []⟩, ⟨0, .data [115]⟩, ⟨1, .reparsePoint⟩]⟩ _ _ _ [1, 2] (ChunkInv.of_between hs)
      (by decide)
  obtain ⟨ret3, s3, -, h3, -⟩ :=
    hend ⟨3, [⟨0, .data []⟩, ⟨0, .data [115]⟩, ⟨1, .reparsePoint⟩]⟩ _ _ _ none (ChunkInv.of_between hs)
  obtain ⟨rs, s4, h4, -, -, hall⟩ :=
    hrun [⟨⟨3, [⟨0, .data []⟩, ⟨0, .data [115]⟩, ⟨1, .reparsePoint⟩]⟩, [[1, 2], [3]], none, true⟩] _ hs
      fun _ h => by
    rw [List.mem_singleton.mp h]; exact ⟨by decide, hinj, by decide⟩
  exact ⟨⟨ret1, s1, h1⟩, ⟨ret2, s2, h2⟩, ⟨ret3, s3, h3⟩, rs, s4, h4, fun r hr => (hall r hr).1⟩

end WimLean
