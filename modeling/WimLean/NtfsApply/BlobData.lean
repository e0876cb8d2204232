import WimLean.NtfsApply.BlobExtract

/-!
# WimLean — what a blob extracted to NTFS writes

`ntfs_3g_begin_extract_blob`, `ntfs_3g_extract_chunk` and `ntfs_3g_end_extract_blob` fan one
blob out to all its extraction targets: each data stream is truncated to the blob's size and
then given every chunk at the running offset, and each reparse point is given `rpbuf`, whose
`rpdata` received the same chunks. This module says what that writes when every callback
returns 0.

The bytes of an NTFS attribute are replayed from the calls (`attrData`): each
`ntfs_attr_truncate_solid` that succeeded (`begin` does not read its return value, so one that
fails leaves the attribute as it was) and each `ntfs_attr_pwrite` that wrote its whole chunk. Each callback that succeeded is inverted
once (`ntfs3gOpenInode_ok`, `ntfs3gBeginExtractBlobInstance_ok`, `ntfs3gExtractChunk_ok`,
`setReparseInodes_ok`), its loop is composed from it (`BeginOk`, `ChunksOk`), and the blob's
calls are read off the composition.
-/

namespace WimLean

/-! ## The bytes of an attribute -/

/-- `ntfs_attr_truncate_solid(attr, size)` on an attribute's bytes. -/
def truncateSolid (d : List UInt8) (size : Nat) : List UInt8 :=
  d.take size ++ List.replicate (size - d.length) 0

/-- The bytes of the attribute `a` after the calls `cs`, from `d`: its truncations and its
writes that succeeded (libntfs-3g's `ntfs_attr_pwrite`, within the attribute). -/
def attrData (a : NtfsDataAttr) : List UInt8 → List NtfsCall → List UInt8
  | d, [] => d
  | d, .attrTruncateSolid a' n true :: cs => attrData a (if a' = a then truncateSolid d n else d) cs
  | d, .attrPwrite a' pos bytes true :: cs => attrData a (if a' = a then writeBytes d pos bytes else d) cs
  | d, _ :: cs => attrData a d cs

/-- The attributes `begin` opens for the data-stream targets, in order. -/
def dataAttrs (env : Ntfs3gApplyEnv) (ts : List BlobExtractionTarget) : List NtfsDataAttr :=
  ts.filterMap fun t => match t.stream with
    | .data name => some ⟨env.mftNo t.inode, name⟩
    | .reparsePoint => none

/-- The reparse slots `begin` takes for the reparse-point targets, in order. -/
def reparseSlots (env : Ntfs3gApplyEnv) (ts : List BlobExtractionTarget) : List (Nat × Nat) :=
  ts.filterMap fun t => match t.stream with
    | .data _ => none
    | .reparsePoint => some (env.mftNo t.inode, t.inode)

/-- The `ntfs_attr_pwrite`s of consecutive chunks from `pos`, each to every attribute. -/
def chunkPwrites (attrs : List NtfsDataAttr) (pos : Nat) : List (List UInt8) → List NtfsCall
  | [] => []
  | c :: cs => attrs.map (fun a => .attrPwrite a pos c true) ++ chunkPwrites attrs (pos + c.length) cs

/-- The offsets and lengths of consecutive chunks from `pos`. -/
def spansFrom (pos : Nat) : List (List UInt8) → List (Nat × Nat)
  | [] => []
  | c :: cs => (pos, c.length) :: spansFrom (pos + c.length) cs

theorem attrData_append (a : NtfsDataAttr) : ∀ (d : List UInt8) (xs ys : List NtfsCall),
    attrData a d (xs ++ ys) = attrData a (attrData a d xs) ys
  | d, [], ys => rfl
  | d, c :: xs, ys => by
    cases c with
    | attrTruncateSolid a' n ok => cases ok <;> exact attrData_append a _ xs ys
    | attrPwrite a' pos bytes ok => cases ok <;> exact attrData_append a _ xs ys
    | _ => exact attrData_append a _ xs ys

/-- Calls that neither truncate nor write leave every attribute's bytes as they are. -/
theorem attrData_of_noWrite (a : NtfsDataAttr) : ∀ (d : List UInt8) (xs : List NtfsCall),
    (∀ c ∈ xs, c.isPwrite = false ∧ ∀ a n ok, c ≠ .attrTruncateSolid a n ok) → attrData a d xs = d
  | d, [], _ => rfl
  | d, c :: xs, h => by
    have ih := attrData_of_noWrite a d xs fun c' hc' => h c' (List.mem_cons_of_mem _ hc')
    obtain ⟨hw, ht⟩ := h c (List.mem_cons_self _ _)
    cases c with
    | attrTruncateSolid a' n ok => exact absurd rfl (ht a' n ok)
    | attrPwrite => simp [NtfsCall.isPwrite] at hw
    | _ => exact ih

theorem attrData_writesNothing (a : NtfsDataAttr) (d : List UInt8) {xs : List NtfsCall}
    (h : ∀ c ∈ xs, c.WritesNothing) : attrData a d xs = d :=
  attrData_of_noWrite a d xs fun c hc => ⟨(h c hc).1, (h c hc).2.2⟩

theorem length_truncateSolid (d : List UInt8) (n : Nat) : (truncateSolid d n).length = n := by
  simp only [truncateSolid, List.length_append, List.length_take, List.length_replicate]
  omega

theorem truncateSolid_truncateSolid (d : List UInt8) (n : Nat) :
    truncateSolid (truncateSolid d n) n = truncateSolid d n := by
  rw [truncateSolid, length_truncateSolid, Nat.sub_self, List.replicate_zero, List.append_nil,
    List.take_of_length_le (length_truncateSolid d n).le]

/-! ## Writing bytes -/

theorem exists_append_length {d : List UInt8} {pos : Nat} (h : pos ≤ d.length) :
    ∃ p r, d = p ++ r ∧ p.length = pos :=
  ⟨d.take pos, d.drop pos, (List.take_append_drop pos d).symm, by simp [h]⟩

/-- Writing at the end of a prefix replaces what follows it. -/
theorem writeBytes_append_left (p r c : List UInt8) :
    writeBytes (p ++ r) p.length c = p ++ c ++ r.drop c.length := by
  rw [writeBytes, List.take_left' rfl, List.drop_append]

@[simp] theorem writeBytes_nil (d : List UInt8) (pos : Nat) : writeBytes d pos [] = d := by
  simp [writeBytes]

theorem le_length_writeBytes {d c : List UInt8} {pos : Nat} (h : pos ≤ d.length) :
    pos + c.length ≤ (writeBytes d pos c).length := by
  obtain ⟨p, r, rfl, rfl⟩ := exists_append_length h
  simp [writeBytes_append_left]

/-- Writing bytes where the same bytes already stand changes nothing. -/
theorem writeBytes_writeBytes {d bytes : List UInt8} {pos : Nat} (h : pos ≤ d.length) :
    writeBytes (writeBytes d pos bytes) pos bytes = writeBytes d pos bytes := by
  obtain ⟨p, r, rfl, rfl⟩ := exists_append_length h
  rw [writeBytes_append_left, List.append_assoc, writeBytes_append_left, List.drop_left,
    List.append_assoc]

/-- Consecutive writes are one write of the bytes together. -/
theorem writeBytes_writeBytes_append {d c cs : List UInt8} {pos : Nat} (h : pos ≤ d.length) :
    writeBytes (writeBytes d pos c) (pos + c.length) cs = writeBytes d pos (c ++ cs) := by
  obtain ⟨p, r, rfl, rfl⟩ := exists_append_length h
  rw [writeBytes_append_left, writeBytes_append_left, show p.length + c.length = (p ++ c).length by simp,
    List.append_assoc p c, ← List.append_assoc p, writeBytes_append_left, List.drop_drop]
  simp [Nat.add_comm]

/-- Bytes written at 0 replace as many bytes at the start. -/
theorem writeBytes_zero (d c : List UInt8) : writeBytes d 0 c = c ++ d.drop c.length := by
  simp [writeBytes]

/-- Bytes written at 0 over no more bytes are all there is. -/
theorem writeBytes_zero_of_length_le {d c : List UInt8} (h : d.length ≤ c.length) :
    writeBytes d 0 c = c := by
  rw [writeBytes_zero, List.drop_eq_nil_of_le h, List.append_nil]

theorem take_writeBytes_zero (d c : List UInt8) : (writeBytes d 0 c).take c.length = c := by
  simp [writeBytes]

/-- The first `n` bytes of `rpdata`, behind the header of `struct reparse_buffer_disk`. -/
theorem ReparseBufferDisk.take_bytes (rpbuf : ReparseBufferDisk) (n : Nat) :
    rpbuf.bytes.take (n + reparseDataOffset) = leBytes 4 rpbuf.rptag ++ leBytes 2 rpbuf.rpdatalen ++
      leBytes 2 rpbuf.rpreserved ++ rpbuf.rpdata.take n := by
  rw [ReparseBufferDisk.bytes, show n + reparseDataOffset =
    (leBytes 4 rpbuf.rptag ++ leBytes 2 rpbuf.rpdatalen ++ leBytes 2 rpbuf.rpreserved).length + n by
      simp [reparseDataOffset, Nat.add_comm], List.take_append]

/-! ## The writes of the chunks -/

/-- One chunk written to every attribute of `attrs`: `a`'s bytes are written once if it is
among them. -/
theorem attrData_pwrites (a : NtfsDataAttr) (pos : Nat) (c : List UInt8) :
    ∀ (attrs : List NtfsDataAttr) (d : List UInt8), pos ≤ d.length →
      attrData a d (attrs.map fun a' => .attrPwrite a' pos c true) =
        if a ∈ attrs then writeBytes d pos c else d
  | [], d, _ => rfl
  | a' :: attrs, d, h => by
    by_cases ha : a' = a
    · subst ha
      simp only [List.map_cons, attrData, if_pos rfl, List.mem_cons_self, ↓reduceIte,
        attrData_pwrites _ pos c attrs _ ((Nat.le_add_right _ _).trans (le_length_writeBytes h))]
      split_ifs <;> simp [writeBytes_writeBytes h]
    · simp only [List.map_cons, attrData, if_neg ha, attrData_pwrites a pos c attrs d h, List.mem_cons,
        Ne.symm ha, false_or]

/-- **The chunks land at consecutive offsets.** Consecutive chunks from `pos`, each written to
every attribute of `attrs`, leave in `a` their bytes together, from `pos`. -/
theorem attrData_chunkPwrites {a : NtfsDataAttr} {attrs : List NtfsDataAttr} (ha : a ∈ attrs) :
    ∀ (chunks : List (List UInt8)) (pos : Nat) (d : List UInt8), pos ≤ d.length →
      attrData a d (chunkPwrites attrs pos chunks) = writeBytes d pos chunks.flatten
  | [], pos, d, _ => by simp [chunkPwrites, attrData]
  | c :: chunks, pos, d, h => by
    rw [chunkPwrites, attrData_append, attrData_pwrites a pos c attrs d h, if_pos ha,
      attrData_chunkPwrites ha chunks _ _ (le_length_writeBytes h), writeBytes_writeBytes_append h,
      List.flatten_cons]

theorem filter_isPwrite_chunkPwrites (attrs : List NtfsDataAttr) : ∀ (pos : Nat) (chunks : List (List UInt8)),
    (chunkPwrites attrs pos chunks).filter (·.isPwrite) = chunkPwrites attrs pos chunks
  | _, [] => rfl
  | pos, c :: chunks => by
    rw [chunkPwrites, List.filter_append, filter_isPwrite_chunkPwrites attrs _ chunks,
      List.filter_eq_self.mpr (by simp [NtfsCall.isPwrite])]

theorem filter_isSetNtfsReparseData_chunkPwrites (attrs : List NtfsDataAttr) :
    ∀ (pos : Nat) (chunks : List (List UInt8)),
      (chunkPwrites attrs pos chunks).filter (·.isSetNtfsReparseData) = []
  | _, [] => rfl
  | pos, c :: chunks => by
    rw [chunkPwrites, List.filter_append, filter_isSetNtfsReparseData_chunkPwrites attrs _ chunks,
      List.append_nil, List.filter_eq_nil_iff.mpr (by simp [NtfsCall.isSetNtfsReparseData])]

/-- Every span of consecutive chunks ends within their total. -/
theorem spansFrom_le : ∀ (chunks : List (List UInt8)) (pos : Nat), ∀ w ∈ spansFrom pos chunks,
    w.1 + w.2 ≤ pos + chunks.flatten.length
  | [], _, w, hw => absurd hw (List.not_mem_nil _)
  | c :: chunks, pos, w, hw => by
    rcases List.mem_cons.mp hw with rfl | hw
    · simp
    · have := spansFrom_le chunks _ w hw
      simp only [List.flatten_cons, List.length_append] at this ⊢
      omega

/-! ## `begin`, when it succeeds -/

theorem dataAttrs_append (env : Ntfs3gApplyEnv) (ts ts' : List BlobExtractionTarget) :
    dataAttrs env (ts ++ ts') = dataAttrs env ts ++ dataAttrs env ts' :=
  List.filterMap_append _ _ _

theorem reparseSlots_append (env : Ntfs3gApplyEnv) (ts ts' : List BlobExtractionTarget) :
    reparseSlots env (ts ++ ts') = reparseSlots env ts ++ reparseSlots env ts' :=
  List.filterMap_append _ _ _

/-- A reparse-point target takes a reparse slot. -/
theorem reparseSlots_ne_nil {env : Ntfs3gApplyEnv} {ts : List BlobExtractionTarget}
    (h : ∃ t ∈ ts, t.stream = .reparsePoint) : reparseSlots env ts ≠ [] := by
  obtain ⟨t, ht, hs⟩ := h
  rw [reparseSlots, Ne, List.filterMap_eq_nil_iff]
  exact fun hall => by simpa [hs] using hall t ht

section BeginOk

variable {env : Ntfs3gApplyEnv} {size : Nat}

/-- What a run of the loop of `ntfs_3g_begin_extract_blob` that succeeded over the targets `ts`
did from `s` to `s'`: it opened the data attributes of `ts` after those already open and took
the reparse slots of `ts`, which it could only for a blob that fits `rpdata`; it pointed
`reparse_ptr` at `rpdata` and set the header of `rpbuf` when `ts` has a reparse target; and its
calls changed the bytes of an attribute only by a truncation to `size` that succeeded. -/
structure BeginOk (env : Ntfs3gApplyEnv) (size : Nat) (ts : List BlobExtractionTarget)
    (s s' : ApplyState) : Prop where
  openAttrs : s'.ctx.openAttrs = s.ctx.openAttrs ++ dataAttrs env ts
  reparseInodes : s'.ctx.reparseInodes = s.ctx.reparseInodes ++ reparseSlots env ts
  fits : reparseSlots env ts ≠ [] → size ≤ env.reparseDataMaxSize
  offset : s'.ctx.offset = s.ctx.offset
  rpdata : s'.ctx.rpbuf.rpdata = s.ctx.rpbuf.rpdata
  header : (s'.ctx.reparsePtr, s'.ctx.rpbuf.rpdatalen, s'.ctx.rpbuf.rpreserved) =
    if reparseSlots env ts = [] then (s.ctx.reparsePtr, s.ctx.rpbuf.rpdatalen, s.ctx.rpbuf.rpreserved)
    else (some 0, size, 0)
  rpdataWrites : s'.rpdataWrites = s.rpdataWrites
  calls : ∃ xs, s'.calls = s.calls ++ xs ∧ xs.filter (·.isPwrite) = [] ∧
    xs.filter (·.isSetNtfsReparseData) = [] ∧
    ∀ a d, attrData a d xs =
      if .attrTruncateSolid a size true ∈ xs then truncateSolid d size else d

theorem BeginOk.trans {ts ts' : List BlobExtractionTarget} {s s' s'' : ApplyState}
    (h : BeginOk env size ts s s') (h' : BeginOk env size ts' s' s'') :
    BeginOk env size (ts ++ ts') s s'' where
  openAttrs := by rw [h'.openAttrs, h.openAttrs, dataAttrs_append, List.append_assoc]
  reparseInodes := by rw [h'.reparseInodes, h.reparseInodes, reparseSlots_append, List.append_assoc]
  fits hne := by
    rw [reparseSlots_append] at hne
    by_cases h1 : reparseSlots env ts = []
    · exact h'.fits (by simpa [h1] using hne)
    · exact h.fits h1
  offset := h'.offset.trans h.offset
  rpdata := h'.rpdata.trans h.rpdata
  header := by
    rw [h'.header, h.header, reparseSlots_append]
    by_cases h1 : reparseSlots env ts = [] <;> by_cases h2 : reparseSlots env ts' = [] <;> simp [h1, h2]
  rpdataWrites := h'.rpdataWrites.trans h.rpdataWrites
  calls := by
    obtain ⟨xs, hc, hp, hr, ha⟩ := h.calls
    obtain ⟨xs', hc', hp', hr', ha'⟩ := h'.calls
    refine ⟨xs ++ xs', by rw [hc', hc, List.append_assoc], by simp [hp, hp'], by simp [hr, hr'],
      fun a d => ?_⟩
    rw [attrData_append, ha, ha']
    by_cases h1 : NtfsCall.attrTruncateSolid a size true ∈ xs <;>
      by_cases h2 : NtfsCall.attrTruncateSolid a size true ∈ xs' <;>
      simp [h1, h2, truncateSolid_truncateSolid]

/-- A step that writes nothing and changes only the open inodes succeeded over no target. -/
theorem BeginOk.of_writesNothing {s s' : ApplyState} {xs : List NtfsCall}
    (hctx : s'.ctx = { s.ctx with openInodes := s'.ctx.openInodes })
    (hw : s'.rpdataWrites = s.rpdataWrites) (hcalls : s'.calls = s.calls ++ xs)
    (hxs : ∀ c ∈ xs, c.WritesNothing) : BeginOk env size [] s s' where
  openAttrs := by rw [hctx]; simp [dataAttrs]
  reparseInodes := by rw [hctx]; simp [reparseSlots]
  fits h := absurd rfl h
  offset := by rw [hctx]
  rpdata := by rw [hctx]
  header := by rw [hctx]; simp [reparseSlots]
  rpdataWrites := hw
  calls := ⟨xs, hcalls, List.filter_eq_nil_iff.mpr fun c hc => by simp [(hxs c hc).1],
    List.filter_eq_nil_iff.mpr fun c hc => by simp [(hxs c hc).2.1],
    fun a d => by
      rw [attrData_writesNothing a d hxs, if_neg fun h => (hxs _ h).2.2 a size true rfl]⟩

theorem BeginOk.refl (s : ApplyState) : BeginOk env size [] s s :=
  @BeginOk.of_writesNothing env size s s [] rfl rfl (by simp) (by simp)

/-- The data attribute of a target opened after calls `pre` that write nothing. -/
theorem BeginOk.dataAttr {inode : Nat} {name : List UInt16} {s s' : ApplyState} {pre : List NtfsCall}
    {ok : Bool}
    (hctx : s'.ctx = { s.ctx with openAttrs := s.ctx.openAttrs ++ [⟨env.mftNo inode, name⟩] })
    (hw : s'.rpdataWrites = s.rpdataWrites)
    (hcalls : s'.calls = s.calls ++ (pre ++ [.attrOpen ⟨env.mftNo inode, name⟩ true,
      .attrTruncateSolid ⟨env.mftNo inode, name⟩ size ok]))
    (hpre : ∀ c ∈ pre, c.WritesNothing) : BeginOk env size [⟨inode, .data name⟩] s s' where
  openAttrs := by rw [hctx]; simp [dataAttrs]
  reparseInodes := by rw [hctx]; simp [reparseSlots]
  fits h := by simp [reparseSlots] at h
  offset := by rw [hctx]
  rpdata := by rw [hctx]
  header := by rw [hctx]; simp [reparseSlots]
  rpdataWrites := hw
  calls := by
    refine ⟨_, hcalls, ?_, ?_, fun a d => ?_⟩
    · rw [List.filter_append, List.filter_eq_nil_iff.mpr fun c hc => by simp [(hpre c hc).1]]
      rfl
    · rw [List.filter_append, List.filter_eq_nil_iff.mpr fun c hc => by simp [(hpre c hc).2.1]]
      rfl
    · have hpre' : NtfsCall.attrTruncateSolid a size true ∉ pre :=
        fun h => (hpre _ h).2.2 a size true rfl
      rw [attrData_append, attrData_writesNothing a d hpre]
      rcases eq_or_ne (⟨env.mftNo inode, name⟩ : NtfsDataAttr) a with rfl | ha
      · cases ok <;> simp [attrData, hpre']
      · cases ok <;> simp [attrData, hpre', ha, ha.symm]

theorem findOpenInode_some {m ni : Nat} : ∀ {l : List (Option Nat)},
    findOpenInode m l = some (some ni) → ni = m
  | [], h => by simp [findOpenInode] at h
  | none :: _, h => by simp [findOpenInode] at h
  | some m' :: l, h => by
    simp only [findOpenInode] at h
    split_ifs at h with he
    · exact (Option.some.inj (Option.some.inj h)).symm.trans he
    · exact findOpenInode_some h

theorem NtfsCall.writesNothing_inodeOpen (m : Nat) (ok : Bool) : (NtfsCall.inodeOpen m ok).WritesNothing :=
  ⟨rfl, rfl, fun _ _ _ => NtfsCall.noConfusion⟩

/-- **A successful `ntfs_3g_open_inode`** returns the handle of the inode's NTFS inode, and
changes nothing but `open_inodes`. -/
theorem ntfs3gOpenInode_ok {inode ni : Nat} {s s' : ApplyState}
    (h : ntfs3gOpenInode env inode s = some (some ni, s')) :
    ni = env.mftNo inode ∧ BeginOk env size [] s s' := by
  unfold ntfs3gOpenInode at h
  split at h
  · cases h
  · rename_i hfind
    simp only [Option.some.injEq, Prod.mk.injEq] at h
    obtain ⟨rfl, rfl⟩ := h
    split_ifs at hfind
    · exact ⟨findOpenInode_some hfind, @BeginOk.of_writesNothing env size s s [] rfl rfl (by simp) (by simp)⟩
    · cases hfind
  · split_ifs at h
    obtain ⟨hni, rfl⟩ := Prod.mk.inj (Option.some.inj h)
    refine ⟨?_, @BeginOk.of_writesNothing env size s _ [.inodeOpen (env.mftNo inode) s.outcome] rfl rfl
      rfl fun c hc => ?_⟩
    · split_ifs at hni
      · exact (Option.some.inj hni).symm
    · rw [List.mem_singleton.mp hc]; exact NtfsCall.writesNothing_inodeOpen _ _

theorem NtfsCall.writesNothing_attrAdd (m : Nat) (name : List UInt16) (ok : Bool) :
    (NtfsCall.attrAdd m name ok).WritesNothing :=
  ⟨rfl, rfl, fun _ _ _ => NtfsCall.noConfusion⟩

theorem openDataAttr_ok {attr : NtfsDataAttr} {s s' : ApplyState}
    (h : openDataAttr env size attr s = some (none, s')) :
    s'.ctx = { s.ctx with openAttrs := s.ctx.openAttrs ++ [attr] } ∧ s'.rpdataWrites = s.rpdataWrites ∧
      ∃ ok, s'.calls = s.calls ++ [.attrOpen attr true, .attrTruncateSolid attr size ok] := by
  by_cases hlen : s.ctx.openAttrs.length < env.maxOpenFiles
  · rcases Bool.eq_false_or_eq_true s.outcome with hok | hok
    · simp only [openDataAttr, hlen, not_true_eq_false, ↓reduceIte, ApplyState.call_fst, hok,
        Bool.not_true, Bool.false_eq_true, Option.some.injEq, Prod.mk.injEq, true_and] at h
      subst h
      exact ⟨rfl, rfl, (s.call (.attrOpen attr)).2.outcome, by simp [hok]; rfl⟩
    · simp [openDataAttr, hlen, hok] at h
  · simp [openDataAttr, hlen] at h

/-- **A successful `ntfs_3g_begin_extract_blob_instance`** opened the target's data attribute,
or took a reparse slot for a blob that fits `rpdata`. -/
theorem ntfs3gBeginExtractBlobInstance_ok {inode : Nat} {strm : StreamType} {s s' : ApplyState}
    (h : ntfs3gBeginExtractBlobInstance env size (env.mftNo inode) inode strm s = some (none, s')) :
    BeginOk env size [⟨inode, strm⟩] s s' := by
  cases strm with
  | reparsePoint =>
    simp only [ntfs3gBeginExtractBlobInstance] at h
    split_ifs at h with hbig
    · simp at h
    simp only [Option.some.injEq, Prod.mk.injEq, true_and] at h
    subst h
    exact ⟨by simp [dataAttrs], by simp [reparseSlots], fun _ => Nat.not_lt.mp hbig, rfl, rfl,
      by simp [reparseSlots], rfl, ⟨[], by simp, rfl, rfl, fun a d => by simp [attrData, dataAttrs]⟩⟩
  | data name =>
    simp only [ntfs3gBeginExtractBlobInstance] at h
    split_ifs at h with hn hadd
    · simp at h
    · obtain ⟨hctx, hw, ok, hcalls⟩ := openDataAttr_ok h
      have hok : s.outcome = true := by simpa using hadd
      exact @BeginOk.dataAttr env size inode name s s' [.attrAdd (env.mftNo inode) name true] ok hctx
        hw (by simp [hcalls, hok]) (by simpa using NtfsCall.writesNothing_attrAdd _ name true)
    · obtain ⟨hctx, hw, ok, hcalls⟩ := openDataAttr_ok h
      exact @BeginOk.dataAttr env size inode name s s' [] ok hctx hw (by simp [hcalls]) (by simp)

/-- **The loop of `ntfs_3g_begin_extract_blob`, when it succeeds**, did for the targets what each
of them asks, in order. -/
theorem beginTargets_ok : ∀ (ts : List BlobExtractionTarget) (s s' : ApplyState),
    beginTargets env size ts s = some (none, s') → BeginOk env size ts s s'
  | [], s, s', h => by cases h; exact BeginOk.refl s
  | t :: ts, s, s', h => by
    rcases ho : ntfs3gOpenInode env t.inode s with _ | ⟨_ | ni, s1⟩
    · simp [beginTargets, ho] at h
    · simp [beginTargets, ho] at h
    obtain ⟨rfl, h1⟩ := @ntfs3gOpenInode_ok env size t.inode ni s s1 ho
    rcases hi : ntfs3gBeginExtractBlobInstance env size (env.mftNo t.inode) t.inode t.stream s1
      with _ | ⟨_ | e, s2⟩
    · simp [beginTargets, ho, hi] at h
    · simp only [beginTargets, ho, hi] at h
      exact (h1.trans (ntfs3gBeginExtractBlobInstance_ok hi)).trans (beginTargets_ok ts s2 s' h)
    · simp [beginTargets, ho, hi] at h

end BeginOk

/-- **A successful `ntfs_3g_begin_extract_blob`** did what each target asks. -/
theorem ntfs3gBeginExtractBlob_ok {env : Ntfs3gApplyEnv} {blob : BlobDescriptor} {s s' : ApplyState}
    (h : ntfs3gBeginExtractBlob env blob s = some (none, s')) : BeginOk env blob.size blob.targets s s' := by
  rcases hb : beginTargets env blob.size blob.targets s with _ | ⟨_ | e, s1⟩
  · simp [ntfs3gBeginExtractBlob, hb] at h
  · simp only [ntfs3gBeginExtractBlob, hb, Option.isSome_none, Bool.false_eq_true, ↓reduceIte,
      Option.some.injEq, Prod.mk.injEq, true_and] at h
    subst h
    have h1 := beginTargets_ok _ _ _ hb
    exact ⟨h1.openAttrs, h1.reparseInodes, h1.fits, h1.offset, h1.rpdata, h1.header, h1.rpdataWrites,
      h1.calls⟩
  · simp [ntfs3gBeginExtractBlob, hb] at h


/-! ## The chunks and `end`, when they succeed -/

/-- What a run of chunks that all succeeded did from `s` to `s'`: each chunk was written at the
running offset to every open attribute, and copied after `reparse_ptr` when it is set; the
attributes, the reparse slots and the header of `rpbuf` are as they were. -/
structure ChunksOk (chunks : List (List UInt8)) (s s' : ApplyState) : Prop where
  openAttrs : s'.ctx.openAttrs = s.ctx.openAttrs
  reparseInodes : s'.ctx.reparseInodes = s.ctx.reparseInodes
  rpdatalen : s'.ctx.rpbuf.rpdatalen = s.ctx.rpbuf.rpdatalen
  rpreserved : s'.ctx.rpbuf.rpreserved = s.ctx.rpbuf.rpreserved
  offset : s'.ctx.offset = s.ctx.offset + chunks.flatten.length
  calls : s'.calls = s.calls ++ chunkPwrites s.ctx.openAttrs s.ctx.offset chunks
  noReparse : s.ctx.reparsePtr = none → s'.ctx.reparsePtr = none ∧
    s'.ctx.rpbuf.rpdata = s.ctx.rpbuf.rpdata ∧ s'.rpdataWrites = s.rpdataWrites
  reparse : ∀ p, s.ctx.reparsePtr = some p → s'.ctx.reparsePtr = some (p + chunks.flatten.length) ∧
    s'.ctx.rpbuf.rpdata = writeBytes s.ctx.rpbuf.rpdata p chunks.flatten ∧
    s'.rpdataWrites = s.rpdataWrites ++ spansFrom p chunks

theorem ChunksOk.nil (s : ApplyState) : ChunksOk [] s s :=
  ⟨rfl, rfl, rfl, rfl, rfl, by simp [chunkPwrites], fun h => ⟨h, rfl, rfl⟩,
    fun _ h => ⟨h, by simp, by simp [spansFrom]⟩⟩

/-- One chunk, then the others: a chunk copied at `p` within `rpdata` starts the copy of them
all. -/
theorem ChunksOk.cons {c : List UInt8} {cs : List (List UInt8)} {s s1 s' : ApplyState}
    (h1 : ChunksOk [c] s s1) (hroom : ∀ p, s.ctx.reparsePtr = some p → p ≤ s.ctx.rpbuf.rpdata.length)
    (h : ChunksOk cs s1 s') : ChunksOk (c :: cs) s s' where
  openAttrs := h.openAttrs.trans h1.openAttrs
  reparseInodes := h.reparseInodes.trans h1.reparseInodes
  rpdatalen := h.rpdatalen.trans h1.rpdatalen
  rpreserved := h.rpreserved.trans h1.rpreserved
  offset := by rw [h.offset, h1.offset]; simp [Nat.add_assoc]
  calls := by rw [h.calls, h1.calls, h1.offset, h1.openAttrs]; simp [chunkPwrites]
  noReparse hp := by
    obtain ⟨hp1, hr1, hw1⟩ := h1.noReparse hp
    obtain ⟨hp2, hr2, hw2⟩ := h.noReparse hp1
    exact ⟨hp2, hr2.trans hr1, hw2.trans hw1⟩
  reparse p hp := by
    obtain ⟨hp1, hr1, hw1⟩ := h1.reparse p hp
    obtain ⟨hp2, hr2, hw2⟩ := h.reparse _ hp1
    simp only [List.flatten_cons, List.flatten_nil, List.append_nil, List.length_append] at hr1 hp2 hr2 hw2 ⊢
    refine ⟨by rw [hp2, Nat.add_assoc], by rw [hr2, hr1, writeBytes_writeBytes_append (hroom p hp)],
      by rw [hw2, hw1]; simp [spansFrom]⟩

/-- **A successful `ntfs_3g_extract_chunk`** wrote the chunk at `offset` to every open attribute,
and copied it at `reparse_ptr`, which was within `rpdata`. -/
theorem ntfs3gExtractChunk_ok {c : List UInt8} {s s' : ApplyState}
    (h : ntfs3gExtractChunk c s = some (none, s')) :
    ChunksOk [c] s s' ∧ ∀ p, s.ctx.reparsePtr = some p → p ≤ s.ctx.rpbuf.rpdata.length := by
  obtain ⟨hctx, -, hw, xs, hcalls, -, hall⟩ := pwriteAttrs_spec s.ctx.offset c s.ctx.openAttrs s
  rcases hp : pwriteAttrs s.ctx.offset c s.ctx.openAttrs s with ⟨ok, s1⟩
  rw [hp] at hctx hw hcalls hall
  simp only at hctx hw hcalls hall
  cases ok
  · simp [ntfs3gExtractChunk, hp] at h
  have hc : s1.calls = s.calls ++ chunkPwrites s.ctx.openAttrs s.ctx.offset [c] := by
    simp [hcalls, hall rfl, chunkPwrites]
  simp only [ntfs3gExtractChunk, hp, Bool.not_true, Bool.false_eq_true, ↓reduceIte, hctx] at h
  rcases hptr : s.ctx.reparsePtr with _ | p
  · simp only [hptr, Option.some.injEq, Prod.mk.injEq, true_and] at h
    subst h
    exact ⟨⟨rfl, rfl, rfl, rfl, by simp, hc, fun _ => ⟨rfl, rfl, hw⟩, fun _ hp => by simp [hptr] at hp⟩,
      fun _ hp => by simp [hptr] at hp⟩
  · simp only [hptr] at h
    split_ifs at h with hlt
    simp only [Option.some.injEq, Prod.mk.injEq, true_and] at h
    subst h
    refine ⟨⟨rfl, rfl, rfl, rfl, by simp, hc, fun hp => by simp [hptr] at hp, fun p' hp => ?_⟩,
      fun p' hp => ?_⟩
    · obtain rfl := Option.some.inj (hptr.symm.trans hp)
      exact ⟨by simp, by simp, by simp [hw, spansFrom]⟩
    · obtain rfl := Option.some.inj hp
      omega

/-- **The chunks, when they all succeed**, were written in order at consecutive offsets. -/
theorem extractChunks_ok : ∀ (chunks : List (List UInt8)) (s s' : ApplyState),
    extractChunks chunks s = some (none, s') → ChunksOk chunks s s'
  | [], s, s', h => by cases h; exact ChunksOk.nil s
  | c :: cs, s, s', h => by
    rcases hc : ntfs3gExtractChunk c s with _ | ⟨_ | e, s1⟩
    · simp [extractChunks, hc] at h
    · obtain ⟨h1, hroom⟩ := ntfs3gExtractChunk_ok hc
      simp only [extractChunks, hc] at h
      exact h1.cons hroom (extractChunks_ok cs s1 s' h)
    · simp [extractChunks, hc] at h

/-- **The loop of `ntfs_3g_end_extract_blob`, when it succeeds**, gave each reparse inode
`rpbuf` with its own tag. -/
theorem setReparseInodes_ok (env : Ntfs3gApplyEnv) (size : Nat) {l : List (Nat × Nat)} {s s' : ApplyState}
    (h : setReparseInodes env size l s = some (none, s')) :
    s'.calls = s.calls ++ l.map (fun p => .setNtfsReparseData p.1
      ({ s.ctx.rpbuf with rptag := env.reparseTag p.2 }.bytes.take (size + reparseDataOffset)) true) ∧
    s'.rpdataWrites = s.rpdataWrites := by
  have hfit : l ≠ [] → size ≤ s.ctx.rpbuf.rpdata.length := by
    intro hne
    obtain ⟨⟨ni, inode⟩, rest, rfl⟩ := List.exists_cons_of_ne_nil hne
    by_contra hlt
    have hshort : { s.ctx.rpbuf with rptag := env.reparseTag inode }.bytes.length <
        size + reparseDataOffset := by
      simp only [ReparseBufferDisk.bytes, List.length_append, length_leBytes, reparseDataOffset]
      omega
    simp [setReparseInodes, hshort] at h
  obtain ⟨ret, s'', xs, hrun, -, -, hw, hcalls, -, hall⟩ := setReparseInodes_spec env size l s hfit
  rw [h] at hrun
  obtain ⟨rfl, rfl⟩ := Prod.mk.inj (Option.some.inj hrun)
  exact ⟨by rw [hcalls, hall rfl], hw⟩

/-- The calls of `ntfs_3g_cleanup_blob_extract` write nothing. -/
theorem ntfs3gCleanupBlobExtract_writesNothing (s : ApplyState) :
    ∃ ys, (ntfs3gCleanupBlobExtract s).2.calls = s.calls ++ ys ∧ (∀ c ∈ ys, c.WritesNothing) ∧
      (ntfs3gCleanupBlobExtract s).2.rpdataWrites = s.rpdataWrites := by
  obtain ⟨-, -, hw1, ys1, hcalls1, -, -, hwn1⟩ := closeAttrs_spec s.ctx.openAttrs s
  set s1 := (closeAttrs s.ctx.openAttrs s).2
  set s2 : ApplyState := { s1 with ctx := { s1.ctx with openAttrs := [] } }
  obtain ⟨-, -, hw2, ys2, hcalls2, -, -, hwn2⟩ := closeInodes_spec s2.ctx.openInodes s2
  exact ⟨ys1 ++ ys2, hcalls2.trans (by simp [s2, hcalls1]),
    fun c hc => (List.mem_append.mp hc).elim (hwn1 c) (hwn2 c), hw2.trans hw1⟩

/-- **A successful `ntfs_3g_end_extract_blob(blob, 0)`** set each reparse inode's data, then made
calls that write nothing. -/
theorem ntfs3gEndExtractBlob_ok {env : Ntfs3gApplyEnv} {blob : BlobDescriptor} {s s' : ApplyState}
    (h : ntfs3gEndExtractBlob env blob none s = some (none, s')) :
    ∃ ys, s'.calls = s.calls ++ s.ctx.reparseInodes.map (fun p => .setNtfsReparseData p.1
        ({ s.ctx.rpbuf with rptag := env.reparseTag p.2 }.bytes.take (blob.size + reparseDataOffset)) true) ++ ys ∧
      (∀ c ∈ ys, c.WritesNothing) ∧ s'.rpdataWrites = s.rpdataWrites := by
  rcases hr : setReparseInodes env blob.size s.ctx.reparseInodes s with _ | ⟨_ | e, s1⟩
  · simp [ntfs3gEndExtractBlob, hr] at h
  · obtain ⟨hc, hw⟩ := setReparseInodes_ok env blob.size hr
    obtain ⟨ys, hcy, hwn, hwy⟩ := ntfs3gCleanupBlobExtract_writesNothing s1
    simp only [ntfs3gEndExtractBlob, hr, Option.some.injEq, Prod.mk.injEq] at h
    rw [← h.2]
    exact ⟨ys, by rw [hcy, hc], hwn, hwy.trans hw⟩
  · simp [ntfs3gEndExtractBlob, hr] at h

/-! ## `begin` on a blob larger than `rpdata` -/

/-- Every libntfs-3g call still to come succeeds. -/
def ApplyState.AllOk (s : ApplyState) : Prop := ∀ b ∈ s.results, b = true

theorem ApplyState.AllOk.outcome {s : ApplyState} (h : s.AllOk) : s.outcome = true := by
  unfold ApplyState.outcome
  cases hr : s.results with
  | nil => rfl
  | cons b bs => exact h b (by simp [hr])

theorem ApplyState.AllOk.call {s : ApplyState} (h : s.AllOk) (c : Bool → NtfsCall) :
    (s.call c).2.AllOk :=
  fun b hb => h b (List.mem_of_mem_tail hb)

theorem findOpenInode_ne_none {m : Nat} : ∀ {l : List (Option Nat)},
    (∀ ni ∈ l, ni.isSome) → findOpenInode m l ≠ none
  | [], _ => by simp [findOpenInode]
  | none :: _, hs => absurd (hs none (List.mem_cons_self _ _)) (by simp)
  | some m' :: l, hs => by
    simp only [findOpenInode]
    split_ifs
    · simp
    · exact findOpenInode_ne_none fun ni hni => hs ni (List.mem_cons_of_mem _ hni)

section AllOk

variable {env : Ntfs3gApplyEnv} {size : Nat}

theorem openDataAttr_allOk {attr : NtfsDataAttr} {s : ApplyState} (hok : s.AllOk)
    (hlen : s.ctx.openAttrs.length < env.maxOpenFiles) :
    ∃ s', openDataAttr env size attr s = some (none, s') ∧ s'.AllOk ∧
      s'.ctx.openInodes = s.ctx.openInodes ∧ s'.ctx.openAttrs.length = s.ctx.openAttrs.length + 1 := by
  simp [openDataAttr, hlen, hok.outcome]
  exact ApplyState.AllOk.call (hok.call (.attrOpen attr)) (.attrTruncateSolid attr size)

/-- When the calls succeed, `ntfs_3g_open_inode` returns the inode's NTFS inode. -/
theorem ntfs3gOpenInode_allOk {inode : Nat} {s : ApplyState} (hok : s.AllOk)
    (hsome : ∀ ni ∈ s.ctx.openInodes, ni.isSome) (hlen : s.ctx.openInodes.length < env.maxOpenFiles) :
    ∃ s', ntfs3gOpenInode env inode s = some (some (env.mftNo inode), s') ∧ s'.AllOk ∧
      (∀ ni ∈ s'.ctx.openInodes, ni.isSome) ∧ s'.ctx.openInodes.length ≤ s.ctx.openInodes.length + 1 ∧
      s'.ctx.openAttrs = s.ctx.openAttrs := by
  have hfind : (if s.visited inode then findOpenInode (env.mftNo inode) s.ctx.openInodes else some none) =
      some (some (env.mftNo inode)) ∨
      (if s.visited inode then findOpenInode (env.mftNo inode) s.ctx.openInodes else some none) =
        some none := by
    split_ifs
    · rcases hf : findOpenInode (env.mftNo inode) s.ctx.openInodes with _ | _ | ni
      · exact absurd hf (findOpenInode_ne_none hsome)
      · exact .inr rfl
      · exact .inl (by rw [findOpenInode_some hf])
    · exact .inr rfl
  unfold ntfs3gOpenInode
  rcases hfind with hf | hf <;> rw [hf]
  · exact ⟨s, rfl, hok, hsome, by omega, rfl⟩
  · simp [Nat.not_le.mpr hlen, hok.outcome, ApplyState.pushInode]
    exact ⟨hok.call (.inodeOpen (env.mftNo inode)), fun ni hni => hni.elim (hsome ni) fun h => by simp [h]⟩

theorem ntfs3gBeginExtractBlobInstance_data_allOk {ni inode : Nat} {name : List UInt16} {s : ApplyState}
    (hok : s.AllOk) (hlen : s.ctx.openAttrs.length < env.maxOpenFiles) :
    ∃ s', ntfs3gBeginExtractBlobInstance env size ni inode (.data name) s = some (none, s') ∧ s'.AllOk ∧
      s'.ctx.openInodes = s.ctx.openInodes ∧ s'.ctx.openAttrs.length = s.ctx.openAttrs.length + 1 := by
  by_cases hn : name.length = 0
  · simpa [ntfs3gBeginExtractBlobInstance, hn] using @openDataAttr_allOk env size ⟨ni, name⟩ s hok hlen
  · simpa [ntfs3gBeginExtractBlobInstance, hn, hok.outcome] using
      @openDataAttr_allOk env size ⟨ni, name⟩ _ (hok.call (.attrAdd ni name)) hlen

/-- **When the calls succeed, the loop stops at the first reparse target** of a blob larger
than `REPARSE_DATA_MAX_SIZE`, with `WIMLIB_ERR_INVALID_REPARSE_DATA`. -/
theorem beginTargets_invalidReparseData (hbig : env.reparseDataMaxSize < size) :
    ∀ (ts : List BlobExtractionTarget) (s : ApplyState), s.AllOk → (∀ ni ∈ s.ctx.openInodes, ni.isSome) →
      s.ctx.openInodes.length + ts.length ≤ env.maxOpenFiles →
      s.ctx.openAttrs.length + ts.length ≤ env.maxOpenFiles → (∃ t ∈ ts, t.stream = .reparsePoint) →
      ∃ s', beginTargets env size ts s = some (some .invalidReparseData, s')
  | [], _, _, _, _, _, ⟨_, ht, _⟩ => absurd ht (List.not_mem_nil _)
  | t :: ts, s, hok, hsome, hl1, hl2, hrep => by
    simp only [List.length_cons] at hl1 hl2
    obtain ⟨s1, ho, hok1, hsome1, hlen1, hattrs1⟩ :=
      @ntfs3gOpenInode_allOk env t.inode s hok hsome (by omega)
    cases hs : t.stream with
    | reparsePoint =>
      exact ⟨s1, by simp [beginTargets, ho, hs, ntfs3gBeginExtractBlobInstance, hbig]⟩
    | data name =>
      obtain ⟨s2, hi, hok2, hnis2, hattrs2⟩ := @ntfs3gBeginExtractBlobInstance_data_allOk env size
        (env.mftNo t.inode) t.inode name s1 hok1 (by rw [hattrs1]; omega)
      have hrep' : ∃ t ∈ ts, t.stream = .reparsePoint := by
        obtain ⟨t', ht', hs'⟩ := hrep
        rcases List.mem_cons.mp ht' with rfl | ht'
        · rw [hs] at hs'; cases hs'
        · exact ⟨t', ht', hs'⟩
      obtain ⟨s', hrun⟩ := beginTargets_invalidReparseData hbig ts s2 hok2 (hnis2 ▸ hsome1)
        (by rw [hnis2]; omega) (by rw [hattrs2, hattrs1]; omega) hrep'
      exact ⟨s', by simp [beginTargets, ho, hs, hi, hrun]⟩

end AllOk

/-- **A blob larger than `REPARSE_DATA_MAX_SIZE` with a reparse target**: from between two blobs,
when the libntfs-3g calls succeed, `begin` returns `WIMLIB_ERR_INVALID_REPARSE_DATA`. -/
theorem ntfs3gBeginExtractBlob_invalidReparseData {env : Ntfs3gApplyEnv} {blob : BlobDescriptor}
    {s : ApplyState} (hs : BetweenBlobs env s) (hok : s.AllOk)
    (hlen : blob.targets.length ≤ env.maxOpenFiles) (hbig : env.reparseDataMaxSize < blob.size)
    (hrep : ∃ t ∈ blob.targets, t.stream = .reparsePoint) :
    ∃ s', ntfs3gBeginExtractBlob env blob s = some (some .invalidReparseData, s') := by
  obtain ⟨s1, hrun⟩ := beginTargets_invalidReparseData hbig blob.targets s hok
    (by simp [hs.idle.openInodes]) (by simp [hs.idle.openInodes, hlen])
    (by simp [hs.idle.openAttrs, hlen]) hrep
  simp [ntfs3gBeginExtractBlob, hrun]

/-! ## The blob on every target -/

/-- After a successful `begin`, `reparse_ptr` is as it was, or at the start of `rpdata`. -/
theorem BeginOk.reparsePtr {env : Ntfs3gApplyEnv} {size : Nat} {ts : List BlobExtractionTarget}
    {s s' : ApplyState} (h : BeginOk env size ts s s') :
    s'.ctx.reparsePtr = s.ctx.reparsePtr ∨ s'.ctx.reparsePtr = some 0 := by
  have hh := h.header
  split_ifs at hh <;> simp only [Prod.mk.injEq] at hh
  exacts [.inl hh.1, .inr hh.1]

/-- **One blob fanned out to all its targets.** From between two blobs, when `begin`, the chunks
of the blob (its bytes split anyhow) and `end(0)` all succeed:
* the only writes to data attributes are the chunks at offsets 0, c1, c1+c2, ..., each to every
  data-stream target, and each such attribute then holds the blob's bytes, followed by what it
  held past them only when its `ntfs_attr_truncate_solid` failed: exactly the blob's bytes when
  it was empty, and whatever it held when the truncation succeeded;
* each reparse target is given, once, its own tag, the size as le16, 0 and the blob's bytes;
* every copy into `rpdata` stays within the blob's size.

And a blob larger than `REPARSE_DATA_MAX_SIZE` with a reparse target never gets past `begin`:
when the calls succeed, `begin` returns `WIMLIB_ERR_INVALID_REPARSE_DATA`. -/
theorem blobCallbacks_writeBlobToEveryTarget (env : Ntfs3gApplyEnv) (blob : BlobDescriptor) :
    (∀ (chunks : List (List UInt8)) (s s₁ s₂ s₃ : ApplyState), BetweenBlobs env s →
      chunks.flatten.length = blob.size →
      ntfs3gBeginExtractBlob env blob s = some (none, s₁) →
      extractChunks chunks s₁ = some (none, s₂) →
      ntfs3gEndExtractBlob env blob none s₂ = some (none, s₃) →
      ∃ cs, s₃.calls = s.calls ++ cs ∧
        cs.filter (·.isPwrite) = chunkPwrites (dataAttrs env blob.targets) 0 chunks ∧
        (∀ a ∈ dataAttrs env blob.targets, ∀ d, attrData a d cs = chunks.flatten ++
          if .attrTruncateSolid a blob.size true ∈ cs then [] else d.drop blob.size) ∧
        cs.filter (·.isSetNtfsReparseData) = (reparseSlots env blob.targets).map (fun p =>
          .setNtfsReparseData p.1 (leBytes 4 (env.reparseTag p.2) ++ leBytes 2 blob.size ++
            leBytes 2 0 ++ chunks.flatten) true) ∧
        ∃ ws, s₃.rpdataWrites = s.rpdataWrites ++ ws ∧ ∀ w ∈ ws, w.1 + w.2 ≤ blob.size) ∧
    (env.reparseDataMaxSize < blob.size → (∃ t ∈ blob.targets, t.stream = .reparsePoint) →
      (∀ s s', ntfs3gBeginExtractBlob env blob s ≠ some (none, s')) ∧
      ∀ s, BetweenBlobs env s → s.AllOk → blob.targets.length ≤ env.maxOpenFiles →
        ∃ s', ntfs3gBeginExtractBlob env blob s = some (some .invalidReparseData, s')) := by
  refine ⟨fun chunks s s₁ s₂ s₃ hs hsize hbegin hchunks hend => ?_, fun hbig hrep =>
    ⟨fun s s' h => absurd ((ntfs3gBeginExtractBlob_ok h).fits (reparseSlots_ne_nil hrep))
      (Nat.not_le.mpr hbig), fun s hs hok hlen =>
      ntfs3gBeginExtractBlob_invalidReparseData hs hok hlen hbig hrep⟩⟩
  have hB := ntfs3gBeginExtractBlob_ok hbegin
  have hC := extractChunks_ok chunks s₁ s₂ hchunks
  obtain ⟨ys, hcalls, hwn, hw3⟩ := ntfs3gEndExtractBlob_ok hend
  obtain ⟨xs, hcB, hpB, hrB, haB⟩ := hB.calls
  set sets := (reparseSlots env blob.targets).map (fun p => NtfsCall.setNtfsReparseData p.1
    (leBytes 4 (env.reparseTag p.2) ++ leBytes 2 blob.size ++ leBytes 2 0 ++ chunks.flatten) true)
  -- `rpbuf` when `end` reads it: the header `begin` set, and the chunks in `rpdata`
  have hsets : s₂.ctx.reparseInodes.map (fun p => NtfsCall.setNtfsReparseData p.1
      ({ s₂.ctx.rpbuf with rptag := env.reparseTag p.2 }.bytes.take
        (blob.size + reparseDataOffset)) true) = sets := by
    rw [hC.reparseInodes, hB.reparseInodes, hs.idle.reparseInodes, List.nil_append]
    by_cases hne : reparseSlots env blob.targets = []
    · simp [sets, hne]
    have hhd := hB.header
    rw [if_neg hne] at hhd
    simp only [Prod.mk.injEq] at hhd
    obtain ⟨-, hrd, -⟩ := hC.reparse 0 hhd.1
    refine List.map_congr_left fun p _ => ?_
    rw [ReparseBufferDisk.take_bytes]
    simp only [hC.rpdatalen, hC.rpreserved, hhd.2.1, hhd.2.2, hrd, ← hsize, take_writeBytes_zero]
  have hsetsW : ∀ c ∈ sets, c.isPwrite = false ∧ ∀ a n ok, c ≠ .attrTruncateSolid a n ok := by
    intro c hc
    obtain ⟨p, -, rfl⟩ := List.mem_map.mp hc
    exact ⟨rfl, fun _ _ _ => NtfsCall.noConfusion⟩
  refine ⟨xs ++ chunkPwrites (dataAttrs env blob.targets) 0 chunks ++ sets ++ ys, ?_, ?_, fun a ha d => ?_,
    ?_, ?_⟩
  · rw [hcalls, hsets, hC.calls, hB.openAttrs, hB.offset, hs.idle.openAttrs, hs.idle.offset, hcB]
    simp
  · rw [List.filter_append, List.filter_append, List.filter_append, hpB, filter_isPwrite_chunkPwrites,
      List.filter_eq_nil_iff.mpr fun c hc => by simp [(hsetsW c hc).1],
      List.filter_eq_nil_iff.mpr fun c hc => by simp [(hwn c hc).1]]
    simp
  · -- only `begin` truncates
    have htrunc : NtfsCall.attrTruncateSolid a blob.size true ∈
        xs ++ chunkPwrites (dataAttrs env blob.targets) 0 chunks ++ sets ++ ys ↔
        NtfsCall.attrTruncateSolid a blob.size true ∈ xs := by
      simp only [List.mem_append, or_assoc]
      refine ⟨fun h => h.elim id fun h => ?_, .inl⟩
      rcases h with h | h | h
      · simpa [NtfsCall.isPwrite] using
          List.filter_eq_self.mp (filter_isPwrite_chunkPwrites _ 0 chunks) _ h
      · exact absurd rfl ((hsetsW _ h).2 a blob.size true)
      · exact absurd rfl ((hwn _ h).2.2 a blob.size true)
    rw [attrData_append, attrData_append, attrData_append, haB,
      attrData_chunkPwrites ha chunks 0 _ (Nat.zero_le _), attrData_of_noWrite a _ _ hsetsW,
      attrData_writesNothing a _ hwn]
    by_cases ht : NtfsCall.attrTruncateSolid a blob.size true ∈ xs
    · rw [if_pos ht, if_pos (htrunc.mpr ht), List.append_nil,
        writeBytes_zero_of_length_le (by rw [length_truncateSolid, hsize])]
    · rw [if_neg ht, if_neg (mt htrunc.mp ht), writeBytes_zero, hsize]
  · rw [List.filter_append, List.filter_append, List.filter_append, hrB,
      filter_isSetNtfsReparseData_chunkPwrites, List.filter_eq_self.mpr fun c hc => ?_,
      List.filter_eq_nil_iff.mpr fun c hc => by simp [(hwn c hc).2.1]]
    · simp
    · obtain ⟨p, -, rfl⟩ := List.mem_map.mp hc
      rfl
  · rcases hB.reparsePtr with hp | hp
    · obtain ⟨-, -, hw⟩ := hC.noReparse (hp.trans hs.idle.reparsePtr)
      exact ⟨[], by rw [hw3, hw, hB.rpdataWrites, List.append_nil], by simp⟩
    · obtain ⟨-, -, hw⟩ := hC.reparse 0 hp
      refine ⟨spansFrom 0 chunks, by rw [hw3, hw, hB.rpdataWrites], fun w hw' => ?_⟩
      simpa [hsize] using spansFrom_le chunks 0 w hw'

/-- A three-byte blob in two chunks to the unnamed and a named stream of one inode and to a
reparse point, with the named stream's `ntfs_attr_truncate_solid` failing: the unnamed stream holds
the blob whatever it held, the named one holds it when it was empty and keeps its bytes past the
blob's otherwise. A nine-byte blob with a reparse target fails in `begin`. -/
theorem blobCallbacks_writeBlobToEveryTarget_threeTargets :
    (∃ s₁ s₂ s₃ : ApplyState, ntfs3gBeginExtractBlob ⟨4, 8, (· + 100), fun _ => 7⟩
        ⟨3, [⟨0, .data []⟩, ⟨0, .data [115]⟩, ⟨1, .reparsePoint⟩]⟩
        ⟨⟨[], [], ⟨0, 0, 0, List.replicate 8 0⟩, none, 0, []⟩, fun _ => false, [],
          [true, true, true, true, true, false], []⟩ =
          some (none, s₁) ∧ extractChunks [[1, 2], [3]] s₁ = some (none, s₂) ∧
        ntfs3gEndExtractBlob ⟨4, 8, (· + 100), fun _ => 7⟩
          ⟨3, [⟨0, .data []⟩, ⟨0, .data [115]⟩, ⟨1, .reparsePoint⟩]⟩ none s₂ = some (none, s₃) ∧
      attrData ⟨100, []⟩ [9, 9, 9, 9, 9] s₃.calls = [1, 2, 3] ∧
      attrData ⟨100, [115]⟩ [] s₃.calls = [1, 2, 3] ∧
      attrData ⟨100, [115]⟩ [9, 9, 9, 9, 9] s₃.calls = [1, 2, 3, 9, 9]) ∧
    ∃ s', ntfs3gBeginExtractBlob ⟨4, 8, (· + 100), fun _ => 7⟩ ⟨9, [⟨0, .data []⟩, ⟨1, .reparsePoint⟩]⟩
      ⟨⟨[], [], ⟨0, 0, 0, List.replicate 8 0⟩, none, 0, []⟩, fun _ => false, [], [], []⟩ =
        some (some .invalidReparseData, s') := by
  have hs : BetweenBlobs ⟨4, 8, (· + 100), fun _ => 7⟩
      ⟨⟨[], [], ⟨0, 0, 0, List.replicate 8 0⟩, none, 0, []⟩, fun _ => false, [],
        [true, true, true, true, true, false], []⟩ :=
    ⟨⟨rfl, rfl, rfl, rfl, rfl⟩, fun _ => rfl, rfl⟩
  have hs' : BetweenBlobs ⟨4, 8, (· + 100), fun _ => 7⟩
      ⟨⟨[], [], ⟨0, 0, 0, List.replicate 8 0⟩, none, 0, []⟩, fun _ => false, [], [], []⟩ :=
    ⟨⟨rfl, rfl, rfl, rfl, rfl⟩, fun _ => rfl, rfl⟩
  -- the run, and which truncations succeeded in it
  obtain ⟨s₁, s₂, s₃, hbegin, hchunks, hend, hin, hout⟩ : ∃ s₁ s₂ s₃ : ApplyState,
      ntfs3gBeginExtractBlob ⟨4, 8, (· + 100), fun _ => 7⟩
        ⟨3, [⟨0, .data []⟩, ⟨0, .data [115]⟩, ⟨1, .reparsePoint⟩]⟩
        ⟨⟨[], [], ⟨0, 0, 0, List.replicate 8 0⟩, none, 0, []⟩, fun _ => false, [],
          [true, true, true, true, true, false], []⟩ = some (none, s₁) ∧
      extractChunks [[1, 2], [3]] s₁ = some (none, s₂) ∧
      ntfs3gEndExtractBlob ⟨4, 8, (· + 100), fun _ => 7⟩
        ⟨3, [⟨0, .data []⟩, ⟨0, .data [115]⟩, ⟨1, .reparsePoint⟩]⟩ none s₂ = some (none, s₃) ∧
      NtfsCall.attrTruncateSolid ⟨100, []⟩ 3 true ∈ s₃.calls ∧
      NtfsCall.attrTruncateSolid ⟨100, [115]⟩ 3 true ∉ s₃.calls :=
    ⟨_, _, _, rfl, rfl, rfl, by decide, by decide⟩
  obtain ⟨cs, hcs, -, hdata, -⟩ := (blobCallbacks_writeBlobToEveryTarget ⟨4, 8, (· + 100), fun _ => 7⟩
    ⟨3, [⟨0, .data []⟩, ⟨0, .data [115]⟩, ⟨1, .reparsePoint⟩]⟩).1 [[1, 2], [3]] _ s₁ s₂ s₃ hs rfl
      hbegin hchunks hend
  rw [List.nil_append] at hcs
  subst hcs
  refine ⟨⟨s₁, s₂, s₃, hbegin, hchunks, hend, ?_, ?_, ?_⟩, ((blobCallbacks_writeBlobToEveryTarget
    ⟨4, 8, (· + 100), fun _ => 7⟩ ⟨9, [⟨0, .data []⟩, ⟨1, .reparsePoint⟩]⟩).2 (by decide)
      ⟨⟨1, .reparsePoint⟩, by simp, rfl⟩).2 _ hs' (fun _ h => absurd h (List.not_mem_nil _)) (by decide)⟩
  · rw [hdata ⟨100, []⟩ (by decide), if_pos hin]; rfl
  · rw [hdata ⟨100, [115]⟩ (by decide), if_neg hout]; rfl
  · rw [hdata ⟨100, [115]⟩ (by decide), if_neg hout]; rfl

end WimLean
