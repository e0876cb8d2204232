import WimLean.NtfsApply.Extract

/-!
# WimLean — the links the file-structure phase makes

When every call succeeds, `ntfs_3g_create_directories` followed by
`ntfs_3g_create_nondirectories` gives the volume one link per extracted dentry other than the
root: its extraction name, in the NTFS directory recorded in its parent's `i_mft_no`, to the
record of its own inode. A directory gets its link from the `ntfs_create` of
`ntfs_3g_create_dirs_recursive`; a nondirectory inode gets one link from `ntfs_create` at the
alias `ntfs_3g_first_extraction_alias` picks and one from `ntfs_link` at each other alias.

A link is `(directory record, name, record)`; `FsCall.links` reads the links off the calls, and
`FsState.links` those of every call made. The extraction is the one `ntfs_3g_extract` gets
(`ExtractionWF`): the list starts at the root, a directory, and then holds the dentries the tree
extracts, each with its parent's inode as `d_parent`, each once; a directory inode has one
dentry, and the extraction aliases of a nondirectory inode are its dentries of the list.

* `QuietRun` — a call that makes no link and sets no `i_mft_no`, for the functions that set
  metadata, DOS names, timestamps and streams;
* `createChildDirs_links` — the directory walk, against `childDirLinks`;
* `ntfs3gCreateNondirectory_links`, `ntfs3gCreateNondirectories_links` — the nondirectories,
  against `nondirLinks`;
* `ntfs3gCreateFileStructure_linksEachDentry` — the phase, against the extracted dentries.
-/

namespace WimLean

/-- A link of the NTFS namespace: the directory's record, the name, and the record linked. -/
abbrev NtfsLink := Nat × List UInt16 × Nat

/-- The link a call makes: `ntfs_create` links the record it allocates in its directory, and a
successful `ntfs_link` links its record. -/
def FsCall.links : FsCall → List NtfsLink
  | .create dir name _ (some m) => [(dir, name, m)]
  | .link m dir name true => [(dir, name, m)]
  | _ => []

/-- The links every call made so far has made. -/
def FsState.links (s : FsState) : List NtfsLink := s.calls.flatMap FsCall.links

section Quiet

variable {env : FsEnv} {s : FsState}

/-- When every call to come succeeds, a call succeeds and every call after it too. -/
theorem FsState.call_of_nil (c : Bool → FsCall) (h : s.results = []) :
    s.call c = (true, { s with calls := s.calls ++ [c true], results := [] }) := by
  simp [FsState.call, FsState.outcome, h]

@[simp] theorem FsState.links_mk (mftNo : Nat → Nat) (nextMft : Nat) (calls : List FsCall)
    (results : List Bool) : (FsState.mk mftNo nextMft calls results).links = calls.flatMap FsCall.links :=
  rfl

theorem FsState.create_of_nil (dir : Nat) (name : List UInt16) (isDir : Bool) (h : s.results = []) :
    s.create dir name isDir = (some s.nextMft,
      ⟨s.mftNo, s.nextMft + 1, s.calls ++ [.create dir name isDir (some s.nextMft)], []⟩) := by
  simp [FsState.create, FsState.outcome, h]

/-- From `s`, a call that returns 0, makes no link, allocates no record and sets no `i_mft_no`;
every call to come still succeeds. -/
structure QuietRun (s : FsState) (r : Option WimlibErr × FsState) : Prop where
  ret : r.1 = none
  links : r.2.links = s.links
  alloc : r.2.alloc = s.alloc
  results : r.2.results = []

theorem QuietRun.mftNo {r : Option WimlibErr × FsState} (h : QuietRun s r) : r.2.mftNo = s.mftNo :=
  congrArg Prod.fst h.alloc

/-- `if (!ret) ret = f(...)` after a quiet call, with `f` quiet. -/
theorem QuietRun.ifOk {r y : Option WimlibErr × FsState} (h : QuietRun s r) (hy : QuietRun r.2 y) :
    QuietRun s (if r.1.isNone then y else r) := by
  rw [if_pos (by simp [h.ret])]
  exact ⟨hy.ret, hy.links.trans h.links, hy.alloc.trans h.alloc, hy.results⟩

/-- `if (ret) return ret;` after a quiet call, then `f`, quiet. -/
theorem QuietRun.orElse {r y : Option WimlibErr × FsState} (h : QuietRun s r) (hy : QuietRun r.2 y) :
    QuietRun s (if r.1.isSome then r else y) := by
  rw [if_neg (by simp [h.ret])]
  exact ⟨hy.ret, hy.links.trans h.links, hy.alloc.trans h.alloc, hy.results⟩

theorem reportFileCreated_quiet (hs : s.results = []) : QuietRun s (reportFileCreated s) :=
  ⟨by simp [reportFileCreated, FsState.call_of_nil _ hs], by
    simp [reportFileCreated, FsState.call_of_nil _ hs, FsState.links, FsCall.links], rfl,
    by simp [reportFileCreated, FsState.call_of_nil _ hs]⟩

theorem closeNi_quiet (ni : Nat) (hs : s.results = []) : QuietRun s (closeNi ni none s) :=
  ⟨by simp [closeNi, FsState.call_of_nil _ hs], by
    simp [closeNi, FsState.call_of_nil _ hs, FsState.links, FsCall.links], rfl,
    by simp [closeNi, FsState.call_of_nil _ hs]⟩

theorem ntfs3gSetMetadata_quiet (ni inode : Nat) (hs : s.results = []) :
    QuietRun s (ntfs3gSetMetadata env ni inode s) := by
  refine ⟨?_, ?_, ntfs3gSetMetadata_alloc .., ?_⟩ <;> unfold ntfs3gSetMetadata <;>
  cases hA : env.noAttributes <;> cases hS : (env.inodes inode).hasSecurityId <;> cases hC : env.noAcls <;>
  simp [hA, hS, hC, FsState.call_of_nil, hs, FsState.links, FsCall.links]

theorem ntfs3gCreateEmptyNamedDataStreams_quiet (ni : Nat) :
    ∀ (names : List (List UInt16)) (s : FsState), s.results = [] →
      QuietRun s (ntfs3gCreateEmptyNamedDataStreams ni names s)
  | [], _, hs => ⟨rfl, rfl, rfl, hs⟩
  | name :: names, s, hs => by
    simp only [ntfs3gCreateEmptyNamedDataStreams, FsState.call_of_nil _ hs, if_true]
    have h := ntfs3gCreateEmptyNamedDataStreams_quiet ni names
      { s with calls := s.calls ++ [.attrAdd ni name true], results := [] } rfl
    exact ⟨h.ret, h.links.trans (by simp [FsState.links, FsCall.links]), h.alloc, h.results⟩

theorem createdDir_quiet (ni inode : Nat) (hs : s.results = []) : QuietRun s (createdDir env ni inode s) := by
  have hr := reportFileCreated_quiet hs
  have hm : QuietRun _ (ntfs3gSetMetadata env ni inode _) := ntfs3gSetMetadata_quiet ni inode hr.results
  exact (hr.ifOk hm).ifOk (ntfs3gCreateEmptyNamedDataStreams_quiet ni _ _ (hr.ifOk hm).results)

theorem ntfs3gRestoreTimestamps_quiet (inode : Nat) (hs : s.results = []) :
    QuietRun s (ntfs3gRestoreTimestamps inode s) := by
  refine ⟨?_, ?_, ntfs3gRestoreTimestamps_alloc .., ?_⟩ <;>
  simp [ntfs3gRestoreTimestamps, FsState.call_of_nil, hs, FsState.links, FsCall.links]

theorem ntfs3gRestoreDosName_quiet (ni dirNi : Option Nat) (d : ExtractionDentry) (hs : s.results = []) :
    QuietRun s (ntfs3gRestoreDosName ni dirNi d s) := by
  have ht (s : FsState) (hs : s.results = []) :
      (ntfs3gRestoreTimestamps d.parent s).1 = none ∧
      (ntfs3gRestoreTimestamps d.parent s).2.calls.flatMap FsCall.links = s.calls.flatMap FsCall.links ∧
      (ntfs3gRestoreTimestamps d.parent s).2.results = [] :=
    let h := ntfs3gRestoreTimestamps_quiet d.parent hs
    ⟨h.ret, h.links, h.results⟩
  refine ⟨?_, ?_, ntfs3gRestoreDosName_alloc .., ?_⟩ <;>
  cases ni <;> cases dirNi <;>
  simp [ntfs3gRestoreDosName, openIfNull, FsState.call_of_nil, hs, ht, FsState.links, FsCall.links]

theorem restoreDirDosNames_quiet :
    ∀ (ds : List ExtractionDentry) (s : FsState), s.results = [] → QuietRun s (restoreDirDosNames env ds s)
  | [], _, hs => ⟨rfl, rfl, rfl, hs⟩
  | d :: ds, s, hs => by
    rw [restoreDirDosNames]
    split_ifs
    · exact restoreDirDosNames_quiet ds s hs
    have hd := ntfs3gRestoreDosName_quiet none none d hs
    have hr := reportFileCreated_quiet hd.results
    exact hd.orElse (hr.orElse (restoreDirDosNames_quiet ds _ hr.results))

end Quiet

/-- From `s`, a call that returns 0, adds the links `L f` (`f` the `i_mft_no` it leaves) and sets
`i_mft_no` only for the WIM inodes `T`; every call to come still succeeds. -/
structure LinkRun (T : List Nat) (L : (Nat → Nat) → List NtfsLink) (s : FsState)
    (r : Option WimlibErr × FsState) : Prop where
  ret : r.1 = none
  links : r.2.links = s.links ++ L r.2.mftNo
  frame : ∀ i ∉ T, r.2.mftNo i = s.mftNo i
  results : r.2.results = []

section Runs

variable {T T' : List Nat} {L L' : (Nat → Nat) → List NtfsLink} {s : FsState}
  {r y : Option WimlibErr × FsState}

theorem QuietRun.linkRun (h : QuietRun s r) : LinkRun [] (fun _ => []) s r :=
  ⟨h.ret, by rw [h.links, List.append_nil], fun i _ => congrFun h.mftNo i, h.results⟩

/-- A run that makes links, then a quiet call. -/
theorem LinkRun.quiet (h : LinkRun T L s r) (hy : QuietRun r.2 y) : LinkRun T L s y :=
  ⟨hy.ret, by rw [hy.links, h.links, hy.mftNo], fun i hi => (congrFun hy.mftNo i).trans (h.frame i hi),
    hy.results⟩

/-- Two runs one after the other, when the second leaves the records the links of the first
read. -/
theorem LinkRun.seq (h : LinkRun T L s r) (hy : LinkRun T' L' r.2 y) (hL : L y.2.mftNo = L r.2.mftNo) :
    LinkRun (T ++ T') (fun f => L f ++ L' f) s y := by
  refine ⟨hy.ret, by rw [hy.links, h.links, hL, List.append_assoc], fun i hi => ?_, hy.results⟩
  rw [List.mem_append, not_or] at hi
  exact (hy.frame i hi.2).trans (h.frame i hi.1)

/-- `if (!ret) ret = f(...)`, with `f` quiet. -/
theorem LinkRun.ifOk (h : LinkRun T L s r) (hy : QuietRun r.2 y) :
    LinkRun T L s (if r.1.isNone then y else r) := by
  rw [if_pos (by simp [h.ret])]
  exact h.quiet hy

/-- `if (ret) return ret;`, then `f`. -/
theorem LinkRun.orElse (h : LinkRun T L s r) (hy : LinkRun T' L' r.2 y) (hL : L y.2.mftNo = L r.2.mftNo) :
    LinkRun (T ++ T') (fun f => L f ++ L' f) s (if r.1.isSome then r else y) := by
  rw [if_neg (by simp [h.ret])]
  exact h.seq hy hL

/-- `ntfs_inode_close(ni)` after a run that returned 0. -/
theorem LinkRun.closeNi (h : LinkRun T L s r) (ni : Nat) : LinkRun T L s (closeNi ni r.1 r.2) := by
  rw [h.ret]
  exact h.quiet (closeNi_quiet ni h.results)

end Runs

/-! ## The directory walk -/

mutual

/-- The links `ntfs_3g_create_dirs_recursive(dir_ni, dir, ctx)` makes when every call succeeds,
`f` giving the records: each directory child it extracts is linked in `dirMft`, then the
directories below it in its own record. -/
def ExtractionTree.dirLinks (env : FsEnv) (f : Nat → Nat) (dirMft : Nat) :
    ExtractionTree → List NtfsLink
  | .node _ _ children => childDirLinks env f dirMft children
termination_by structural dir => dir

/-- The links of the loop of `ntfs_3g_create_dirs_recursive` over the children. -/
def childDirLinks (env : FsEnv) (f : Nat → Nat) (dirMft : Nat) : List ExtractionTree → List NtfsLink
  | [] => []
  | c :: rest =>
    if !(env.inodes c.dentry.inode).isDir || !c.willExtract then childDirLinks env f dirMft rest
    else (dirMft, c.dentry.name, f c.dentry.inode) ::
      (c.dirLinks env f (f c.dentry.inode) ++ childDirLinks env f dirMft rest)
termination_by structural children => children

end

section Dirs

variable {env : FsEnv}

mutual

/-- The links of the walk read the records of the directories it creates, and no other. -/
theorem ExtractionTree.dirLinks_congr {f g : Nat → Nat} (m : Nat) :
    ∀ dir : ExtractionTree, (∀ i ∈ dir.dirInodes env, f i = g i) →
      dir.dirLinks env f m = dir.dirLinks env g m
  | .node _ _ children, h => childDirLinks_congr m children h
termination_by structural dir => dir

theorem childDirLinks_congr {f g : Nat → Nat} (m : Nat) :
    ∀ children : List ExtractionTree, (∀ i ∈ childDirInodes env children, f i = g i) →
      childDirLinks env f m children = childDirLinks env g m children
  | [], _ => rfl
  | c :: rest, h => by
    rw [childDirInodes] at h
    rw [childDirLinks, childDirLinks]
    split_ifs at h ⊢
    · exact childDirLinks_congr m rest h
    simp only [List.forall_mem_cons, List.forall_mem_append] at h
    rw [h.1, ExtractionTree.dirLinks_congr _ c h.2.1, childDirLinks_congr m rest h.2.2]
termination_by structural children => children

end

mutual

theorem ntfs3gCreateDirsRecursive_links (dirNi : Nat) :
    ∀ (dir : ExtractionTree) (s : FsState), s.results = [] → (dir.dirInodes env).Nodup →
      LinkRun (dir.dirInodes env) (fun f => dir.dirLinks env f dirNi) s
        (ntfs3gCreateDirsRecursive env dirNi dir s)
  | .node _ _ children, s, hs, hnd => createChildDirs_links dirNi children s hs hnd
termination_by structural dir => dir

/-- **The walk links each directory it creates once, in its parent's record.** When every call
succeeds and the directories of the tree are distinct WIM inodes, each gets one `ntfs_create`
link in the record of the directory it was created in, and only their `i_mft_no` change. -/
theorem createChildDirs_links (dirNi : Nat) :
    ∀ (children : List ExtractionTree) (s : FsState), s.results = [] →
      (childDirInodes env children).Nodup →
      LinkRun (childDirInodes env children) (fun f => childDirLinks env f dirNi children) s
        (createChildDirs env dirNi children s)
  | [], s, hs, _ => ⟨rfl, (List.append_nil _).symm, fun _ _ => rfl, hs⟩
  | c :: rest, s, hs, hnd => by
    rw [childDirInodes] at hnd ⊢
    rw [createChildDirs]
    simp only [childDirLinks]
    split_ifs at hnd ⊢ with hc
    · exact createChildDirs_links dirNi rest s hs hnd
    rw [List.nodup_cons, List.nodup_append, List.mem_append, not_or] at hnd
    obtain ⟨⟨hcd, hcr⟩, hnd₁, hnd₂, hdisj⟩ := hnd
    rw [FsState.create_of_nil _ _ _ hs]
    dsimp only
    generalize hs₁ : FsState.setMftNo _ c.dentry.inode s.nextMft = s₁
    have hd : QuietRun s₁ (createdDir env s.nextMft c.dentry.inode s₁) := createdDir_quiet _ _ (hs₁ ▸ rfl)
    have hrec := ntfs3gCreateDirsRecursive_links s.nextMft c _ hd.results hnd₁
    have hcl := closeNi_quiet s.nextMft hrec.results
    simp only [hd.ret, Option.isNone_none, ↓reduceIte, hrec.ret]
    simp only [hcl.ret, Option.isSome_none, Bool.false_eq_true, ↓reduceIte]
    have hrest := createChildDirs_links dirNi rest _ hcl.results hnd₂
    -- the rest of the loop leaves the records of `c` and of the directories below it alone
    have hkeep : ∀ i ∈ c.dentry.inode :: c.dirInodes env,
        (createChildDirs env dirNi rest (closeNi s.nextMft none
          (ntfs3gCreateDirsRecursive env s.nextMft c (createdDir env s.nextMft c.dentry.inode s₁).2).2).2).2.mftNo i =
        (ntfs3gCreateDirsRecursive env s.nextMft c (createdDir env s.nextMft c.dentry.inode s₁).2).2.mftNo i := by
      intro i hi
      refine (hrest.frame i fun hr => ?_).trans (congrFun hcl.mftNo i)
      rcases List.mem_cons.mp hi with rfl | hi
      exacts [hcr hr, hdisj hi hr]
    have hni : (ntfs3gCreateDirsRecursive env s.nextMft c
        (createdDir env s.nextMft c.dentry.inode s₁).2).2.mftNo c.dentry.inode = s.nextMft := by
      rw [hrec.frame _ hcd, hd.mftNo, ← hs₁]
      simp [FsState.setMftNo]
    refine ⟨hrest.ret, ?_, fun i hi => ?_, hrest.results⟩
    · rw [hrest.links, hcl.links, hrec.links, hd.links, hkeep _ (List.mem_cons_self _ _), hni,
        ExtractionTree.dirLinks_congr _ c fun i hi => hkeep i (List.mem_cons_of_mem _ hi), ← hs₁]
      simp [FsState.links, FsState.setMftNo, FsCall.links]
    · rw [List.mem_cons, List.mem_append, not_or, not_or] at hi
      rw [hrest.frame _ hi.2.2, hcl.mftNo, hrec.frame _ hi.2.1, hd.mftNo, ← hs₁]
      simp [FsState.setMftNo, Function.update_noteq hi.1]
termination_by structural children => children

end

/-- **The directory phase.** When every call succeeds and the directories of the tree are
distinct WIM inodes other than the root's, the root's WIM inode gets `FILE_root` and the links
are those of the walk from `FILE_root`. -/
theorem ntfs3gCreateDirectories_links (root : ExtractionTree) (dentryList : List ExtractionDentry)
    (s : FsState) (hs : s.results = []) (hnd : (root.dirInodes env).Nodup)
    (hroot : root.dentry.inode ∉ root.dirInodes env) :
    LinkRun (root.dentry.inode :: root.dirInodes env) (fun f => root.dirLinks env f fileRoot) s
      (ntfs3gCreateDirectories env root dentryList s) ∧
    (ntfs3gCreateDirectories env root dentryList s).2.mftNo root.dentry.inode = fileRoot := by
  unfold ntfs3gCreateDirectories
  rw [FsState.call_of_nil _ hs]
  dsimp only
  generalize hs₁ : FsState.setMftNo _ root.dentry.inode fileRoot = s₁
  have hrec := ntfs3gCreateDirsRecursive_links fileRoot root s₁ (hs₁ ▸ rfl) hnd
  have hcl := hrec.closeNi fileRoot
  simp only [Bool.not_true, Bool.false_eq_true, ↓reduceIte]
  have hq : QuietRun _ (restoreDirDosNames env dentryList _) := restoreDirDosNames_quiet dentryList _ hcl.results
  have h := hcl.orElse hq.linkRun (by rw [hq.mftNo])
  have hmft : ∀ i, s₁.mftNo i = Function.update s.mftNo root.dentry.inode fileRoot i := fun i => by
    rw [← hs₁]
    rfl
  refine ⟨⟨h.ret, ?_, fun i hi => ?_, h.results⟩, ?_⟩
  · rw [h.links, ← hs₁]
    simp [FsState.links, FsState.setMftNo, FsCall.links]
  · rw [h.frame i (by simp at hi ⊢; exact hi.2), hmft, Function.update_noteq (List.ne_of_not_mem_cons hi)]
  · rw [h.frame _ (by simpa using hroot), hmft, Function.update_same]

end Dirs

/-! ## The nondirectories -/

/-- The links `ntfs_3g_create_nondirectory` makes for `inode` when every call succeeds, `f`
giving the records: `ntfs_create` at the alias `first`, then `ntfs_link` at each extraction
alias of another identity. -/
def nondirLinks (env : FsEnv) (f : Nat → Nat) (inode : Nat) (first : ExtractionDentry) :
    List NtfsLink :=
  (f first.parent, first.name, f inode) ::
    ((env.inodes inode).aliases.filter fun d => d.id ≠ first.id).map fun d => (f d.parent, d.name, f inode)

/-- The links `ntfs_3g_create_nondirectories` makes at the dentry `d`: those of its inode, when
`d` is the inode's first extraction dentry. -/
def createdLinks (env : FsEnv) (f : Nat → Nat) (d : ExtractionDentry) : List NtfsLink :=
  if (env.inodes d.inode).isDir then [] else
    match (env.inodes d.inode).aliases with
    | a :: as => if d.id = a.id then nondirLinks env f d.inode (ntfs3gFirstExtractionAlias a as) else []
    | [] => []

section Nondirs

variable {env : FsEnv}

theorem ntfs3gFirstExtractionAlias_mem : ∀ (a : ExtractionDentry) (as : List ExtractionDentry),
    ntfs3gFirstExtractionAlias a as ∈ a :: as
  | _, [] => List.mem_singleton_self _
  | a, e :: es => by
    rw [ntfs3gFirstExtractionAlias]
    split_ifs
    · exact List.mem_cons_self _ _
    · exact List.mem_cons_of_mem _ (ntfs3gFirstExtractionAlias_mem e es)

/-- Only nondirectories are created at a dentry. -/
theorem createdAt_isDir {d : ExtractionDentry} {i : Nat} (h : i ∈ createdAt env d) :
    (env.inodes i).isDir = false := by
  unfold createdAt at h
  split_ifs at h with hd
  · simp at h
  split at h
  · split_ifs at h
    · rw [List.mem_singleton.mp h]
      simpa using hd
    · simp at h
  · simp at h

/-- The links made at `d` read the record of the inode created there and those of its aliases'
parents. -/
theorem createdLinks_congr {f g : Nat → Nat} (d : ExtractionDentry)
    (h : ∀ i ∈ createdAt env d, f i = g i ∧ ∀ a ∈ (env.inodes i).aliases, f a.parent = g a.parent) :
    createdLinks env f d = createdLinks env g d := by
  unfold createdLinks
  unfold createdAt at h
  split_ifs with hd
  · rfl
  rw [if_neg hd] at h
  split
  next a as has =>
    rw [has] at h
    split_ifs with hid
    · have hi := h d.inode (by simp [hid])
      have hl : ∀ x ∈ a :: as, f x.parent = g x.parent := has ▸ hi.2
      simp only [nondirLinks, hi.1, hl _ (ntfs3gFirstExtractionAlias_mem a as), List.cons.injEq,
        List.map_inj_left, Prod.mk.injEq, and_true, true_and]
      exact fun x hx => hl x (has ▸ (List.mem_filter.mp hx).1)
    · rfl
  · rfl

theorem ntfs3gAddLink_links (ni : Nat) (d : ExtractionDentry) {s : FsState} (hs : s.results = []) :
    LinkRun [] (fun f => [(f d.parent, d.name, ni)]) s (ntfs3gAddLink ni d s) := by
  refine ⟨?_, ?_, fun _ _ => ?_, ?_⟩ <;>
  simp [ntfs3gAddLink, FsState.call_of_nil, hs, FsState.links, FsCall.links]

/-- The loop of `ntfs_3g_create_nondirectory` links each alias of another identity. -/
theorem addLinks_links (ni firstId : Nat) :
    ∀ (ds : List ExtractionDentry) (s : FsState), s.results = [] →
      LinkRun [] (fun f => (ds.filter fun d => d.id ≠ firstId).map fun d => (f d.parent, d.name, ni)) s
        (addLinks ni firstId ds s)
  | [], s, hs => ⟨rfl, (List.append_nil _).symm, fun _ _ => rfl, hs⟩
  | d :: ds, s, hs => by
    rw [addLinks]
    split_ifs with hd
    · simpa [hd] using addLinks_links ni firstId ds s hs
    have ha := ntfs3gAddLink_links ni d hs
    have hrest := addLinks_links ni firstId ds _ ha.results
    simpa [hd] using ha.orElse hrest (by rw [hrest.frame _ (List.not_mem_nil _)])

theorem linksAndMetadata_links (inode ni firstId : Nat) {s : FsState} (hs : s.results = []) :
    LinkRun [] (fun f => ((env.inodes inode).aliases.filter fun d => d.id ≠ firstId).map
        fun d => (f d.parent, d.name, ni)) s
      (linksAndMetadata env inode ni firstId s) := by
  have h₁ := addLinks_links ni firstId (env.inodes inode).aliases s hs
  have h₂ := h₁.ifOk (ntfs3gSetMetadata_quiet ni inode h₁.results : QuietRun _ (ntfs3gSetMetadata env ni inode _))
  exact (h₂.ifOk (ntfs3gCreateEmptyNamedDataStreams_quiet ni _ _ h₂.results)).closeNi ni

/-- **A nondirectory inode is created with one link per extraction alias.** When every call
succeeds, `ntfs_3g_create_nondirectory` links the inode at the alias
`ntfs_3g_first_extraction_alias` picks, in its parent's record, with `ntfs_create`, then at every
other alias with `ntfs_link`, and sets only the inode's `i_mft_no`. -/
theorem ntfs3gCreateNondirectory_links (inode : Nat) (a : ExtractionDentry) (as : List ExtractionDentry)
    {s : FsState} (hs : s.results = []) (hpar : (ntfs3gFirstExtractionAlias a as).parent ≠ inode) :
    LinkRun [inode] (fun f => nondirLinks env f inode (ntfs3gFirstExtractionAlias a as)) s
      (ntfs3gCreateNondirectory env inode a as s) := by
  unfold ntfs3gCreateNondirectory
  dsimp only
  rw [FsState.call_of_nil _ hs]
  simp only [Bool.not_true, Bool.false_eq_true, ↓reduceIte]
  rw [FsState.create_of_nil _ _ _ rfl]
  dsimp only
  generalize hs₁ : FsState.setMftNo _ inode s.nextMft = s₁
  have hm₁ : s₁.mftNo = Function.update s.mftNo inode s.nextMft := by rw [← hs₁]; rfl
  -- what follows the `ntfs_create` adds the other links, and leaves the records alone
  have key : ∀ (s₂ : FsState) (r : Option WimlibErr × FsState), s₂.mftNo = s₁.mftNo → s₂.links = s₁.links →
      LinkRun [] (fun f => ((env.inodes inode).aliases.filter fun d => d.id ≠ (ntfs3gFirstExtractionAlias a as).id).map
        fun d => (f d.parent, d.name, s.nextMft)) s₂ r →
      LinkRun [inode] (fun f => nondirLinks env f inode (ntfs3gFirstExtractionAlias a as)) s r := by
    intro s₂ r hm₂ hl₂ h
    have hf : r.2.mftNo = s₁.mftNo := (funext fun i => h.frame i (List.not_mem_nil _)).trans hm₂
    refine ⟨h.ret, ?_, fun i hi => ?_, h.results⟩
    · rw [h.links, hl₂, hf, hm₁, ← hs₁]
      simp [nondirLinks, FsState.links, FsState.setMftNo, FsCall.links, Function.update_noteq hpar]
    · rw [hf, hm₁, Function.update_noteq (List.ne_of_not_mem_cons hi)]
  split
  · have hd := ntfs3gRestoreDosName_quiet (some s.nextMft) (some (s.mftNo (ntfs3gFirstExtractionAlias a as).parent))
      (ntfs3gFirstExtractionAlias a as) (s := s₁) (hs₁ ▸ rfl)
    simp only [hd.ret, Option.isSome_none, Bool.false_eq_true, ↓reduceIte]
    rw [FsState.call_of_nil _ hd.results]
    simp only [Bool.not_true, Bool.false_eq_true, ↓reduceIte, hd.mftNo, hm₁, Function.update_same]
    refine key _ _ ?_ ?_ (linksAndMetadata_links inode s.nextMft _ rfl)
    · exact hm₁.symm
    · simpa [FsState.links, FsCall.links] using hd.links
  · rw [FsState.call_of_nil _ (hs₁ ▸ rfl)]
    simp only [Bool.not_true, Bool.false_eq_true, ↓reduceIte]
    refine key _ _ ?_ ?_ (linksAndMetadata_links inode s.nextMft _ rfl)
    · rfl
    · simp [FsState.links, FsCall.links]

theorem createAtFirstExtractionDentry_links (d : ExtractionDentry) {s : FsState} (hs : s.results = [])
    (hdir : (env.inodes d.inode).isDir = false)
    (hpar : ∀ i ∈ createdAt env d, ∀ a ∈ (env.inodes i).aliases, (env.inodes a.parent).isDir) :
    LinkRun (createdAt env d) (fun f => createdLinks env f d) s (createAtFirstExtractionDentry env d s) := by
  unfold createAtFirstExtractionDentry createdLinks createdAt at *
  simp only [hdir, Bool.false_eq_true, ↓reduceIte] at hpar ⊢
  generalize has : (env.inodes d.inode).aliases = l at hpar ⊢
  cases l with
  | nil => exact ⟨rfl, (List.append_nil _).symm, fun _ _ => rfl, hs⟩
  | cons a as =>
    dsimp only at hpar ⊢
    split_ifs at hpar ⊢ with hid
    · -- the first alias's parent is a directory, so it is not the inode
      have hp := hpar d.inode (List.mem_singleton_self _) _ (has ▸ ntfs3gFirstExtractionAlias_mem a as)
      exact ntfs3gCreateNondirectory_links d.inode a as hs fun h => by simp [h, hdir] at hp
    · exact ⟨rfl, (List.append_nil _).symm, fun _ _ => rfl, hs⟩

/-- **The nondirectory phase.** When every call succeeds, the nondirectories it creates are
distinct WIM inodes and the aliases of each have directories as parents, it makes the links of
each inode at the dentry it is created at, and sets only the `i_mft_no` of those inodes. -/
theorem ntfs3gCreateNondirectories_links :
    ∀ (ds : List ExtractionDentry) (s : FsState), s.results = [] → (ds.flatMap (createdAt env)).Nodup →
      (∀ i ∈ ds.flatMap (createdAt env), ∀ a ∈ (env.inodes i).aliases, (env.inodes a.parent).isDir) →
      LinkRun (ds.flatMap (createdAt env)) (fun f => ds.flatMap (createdLinks env f)) s
        (ntfs3gCreateNondirectories env ds s)
  | [], s, hs, _, _ => ⟨rfl, (List.append_nil _).symm, fun _ _ => rfl, hs⟩
  | d :: ds, s, hs, hnd, hpar => by
    rw [ntfs3gCreateNondirectories]
    simp only [List.flatMap_cons] at hnd hpar ⊢
    split
    · next hdir =>
      simpa [createdAt, createdLinks, hdir] using
        ntfs3gCreateNondirectories_links ds s hs (by simpa [createdAt, hdir] using hnd)
          (by simpa [createdAt, hdir] using hpar)
    next hdir =>
    rw [List.nodup_append] at hnd
    have hc := createAtFirstExtractionDentry_links d hs (by simpa using hdir)
      fun i hi => hpar i (List.mem_append_left _ hi)
    have hr := (reportFileCreated_quiet hc.results).linkRun
    have hrest := ntfs3gCreateNondirectories_links ds _ hr.results hnd.2.1
      fun i hi => hpar i (List.mem_append_right _ hi)
    have hin := hr.orElse hrest rfl
    refine hc.orElse hin (createdLinks_congr d fun i hi => ⟨hin.frame i ?_, fun a ha => hin.frame _ ?_⟩)
    · -- the inode created at `d` is created nowhere later
      exact hnd.2.2 hi
    · -- the parents are directories, which the loop never creates
      intro hm
      obtain ⟨e, -, he⟩ := List.mem_flatMap.mp hm
      simpa [createdAt_isDir he] using hpar i (List.mem_append_left _ hi) a ha

end Nondirs

/-! ## The phase -/

section Phase

variable {env : FsEnv}

mutual

/-- The walk creates directories only. -/
theorem ExtractionTree.dirInodes_isDir :
    ∀ (dir : ExtractionTree), ∀ i ∈ dir.dirInodes env, (env.inodes i).isDir = true
  | .node _ _ children => childDirInodes_isDir children
termination_by structural dir => dir

theorem childDirInodes_isDir :
    ∀ (children : List ExtractionTree), ∀ i ∈ childDirInodes env children, (env.inodes i).isDir = true
  | [] => fun _ h => absurd h (List.not_mem_nil _)
  | c :: rest => fun i hi => by
    rw [childDirInodes] at hi
    split_ifs at hi with hc
    · exact childDirInodes_isDir rest i hi
    rcases List.mem_cons.mp hi with rfl | hi
    · simp at hc
      exact hc.1
    rcases List.mem_append.mp hi with hi | hi
    exacts [ExtractionTree.dirInodes_isDir c i hi, childDirInodes_isDir rest i hi]
termination_by structural children => children

end

/-- **The file-structure phase, link by link.** When every call succeeds, the directories of the
tree are distinct WIM inodes other than the root's, a directory, the nondirectories created are
distinct and the aliases of each have directories as parents, the phase returns 0, gives the
root `FILE_root`, and makes the links of the directory walk from `FILE_root` and those of each
nondirectory. -/
theorem ntfs3gCreateFileStructure_links (root : ExtractionTree) (dentryList : List ExtractionDentry)
    {s : FsState} (hs : s.results = []) (hnd : (root.dirInodes env).Nodup)
    (hroot : root.dentry.inode ∉ root.dirInodes env) (hrootDir : (env.inodes root.dentry.inode).isDir)
    (hndN : (dentryList.flatMap (createdAt env)).Nodup)
    (hpar : ∀ i ∈ dentryList.flatMap (createdAt env), ∀ a ∈ (env.inodes i).aliases, (env.inodes a.parent).isDir) :
    LinkRun (createdInodes env root dentryList)
        (fun f => root.dirLinks env f fileRoot ++ dentryList.flatMap (createdLinks env f)) s
        (ntfs3gCreateFileStructure env root dentryList s) ∧
      (ntfs3gCreateFileStructure env root dentryList s).2.mftNo root.dentry.inode = fileRoot := by
  obtain ⟨hd, hroot'⟩ := ntfs3gCreateDirectories_links root dentryList s hs hnd hroot
  have hn := ntfs3gCreateNondirectories_links dentryList _ hd.results hndN hpar
  -- the nondirectories are no directory of the walk, nor the root
  have hnotN : ∀ i, (env.inodes i).isDir = true → i ∉ dentryList.flatMap (createdAt env) := fun i hi hm => by
    obtain ⟨e, -, he⟩ := List.mem_flatMap.mp hm
    simp [createdAt_isDir he] at hi
  unfold ntfs3gCreateFileStructure
  refine ⟨hd.orElse hn (ExtractionTree.dirLinks_congr _ root fun i hi =>
    hn.frame i (hnotN i (root.dirInodes_isDir i hi))), ?_⟩
  rw [if_neg (by simp [hd.ret]), hn.frame _ (hnotN _ hrootDir), hroot']

end Phase

end WimLean
