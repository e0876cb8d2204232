import WimLean.NtfsApply.FileStructure
import WimLean.NtfsApply.BlobExtract

/-!
# WimLean — the whole NTFS-3G extraction (`ntfs_3g_extract`)

`ntfs_3g_extract` mounts the volume, announces the file-structure phase with the number of
files it will report (`ntfs_3g_count_dentries`), creates the directories and the nondirectories
(`WimLean.NtfsApply.FileStructure`), ends the phase, hands the blob callbacks to
`extract_blob_list` (`WimLean.NtfsApply.BlobExtract`), and unmounts the volume on every path
after a successful mount.

The two phases meet in `i_mft_no`. The file-structure phase stores in it the MFT record of each
NTFS inode it creates, and the blob callbacks open the record of each target's WIM inode: their
invariant needs distinct WIM inodes among a blob's targets to have distinct records
(`MftInjective`). `ntfs3gCreateFileStructure_distinctRecords` says that the file-structure phase
gives it: when the phase returns 0, the WIM inodes it created NTFS inodes for, and the root's,
have pairwise distinct records, whatever libntfs-3g returned on the way. `ntfs_create` allocates
records upwards from `nextMft`, above `FILE_root` (`MftAlloc`).

`ntfs3gExtract_unmountsClosed` puts the phases together: for blobs whose targets are inodes the
extraction created, whatever the calls return, no array is written past, and either the mount
failed and nothing else was called, or the volume is unmounted once, last, with every NTFS inode
and attribute opened since the mount closed exactly once.

`start_file_structure_phase`, `end_file_structure_phase` and `extract_blob_list` are in
`extract.c`, which is not among the sources: the first two are one call of the progress function
each, whose failure is `WIMLIB_ERR_ABORTED_BY_PROGRESS` as for `report_file_created`; the blobs
`extract_blob_list` drives are an input, one `BlobSession` each, and it returns the first error a
blob returned.
-/

namespace WimLean

/-! ## Counting the files -/

/-- `ntfs_3g_count_dentries(dentry_list)`: one for each dentry, one more for each directory with
a short name. -/
def ntfs3gCountDentries (env : FsEnv) : List ExtractionDentry → Nat
  | [] => 0
  | d :: ds =>
    1 + (if (env.inodes d.inode).isDir && d.hasShortName then 1 else 0) + ntfs3gCountDentries env ds

/-! ## The WIM inodes the file-structure phase creates -/

mutual

/-- The WIM inodes `ntfs_3g_create_dirs_recursive(dir_ni, dir, ctx)` creates a directory for, in
the order it creates them. -/
def ExtractionTree.dirInodes (env : FsEnv) : ExtractionTree → List Nat
  | .node _ _ children => childDirInodes env children
termination_by structural dir => dir

/-- The WIM inodes the loop over the children creates a directory for: each child that is a
directory to extract, then those below it. -/
def childDirInodes (env : FsEnv) : List ExtractionTree → List Nat
  | [] => []
  | c :: rest =>
    if !(env.inodes c.dentry.inode).isDir || !c.willExtract then childDirInodes env rest
    else c.dentry.inode :: (c.dirInodes env ++ childDirInodes env rest)
termination_by structural children => children

end

/-- The WIM inode `ntfs_3g_create_nondirectories` creates at the dentry `d`: a nondirectory's,
when `d` is its first extraction dentry. -/
def createdAt (env : FsEnv) (d : ExtractionDentry) : List Nat :=
  if (env.inodes d.inode).isDir then [] else
    match (env.inodes d.inode).aliases with
    | a :: _ => if d.id = a.id then [d.inode] else []
    | [] => []

/-- The WIM inodes that have an NTFS inode once the file-structure phase returns 0: the root's,
opened at `FILE_root`, the directories, and the nondirectories. -/
def createdInodes (env : FsEnv) (root : ExtractionTree) (dentryList : List ExtractionDentry) :
    List Nat :=
  root.dentry.inode :: (root.dirInodes env ++ dentryList.flatMap (createdAt env))

/-! ## What the calls leave of the MFT allocation -/

/-- The part of the state the MFT records live in: `i_mft_no` of the WIM inodes, and the record
the next `ntfs_create` allocates. -/
def FsState.alloc (s : FsState) : (Nat → Nat) × Nat := (s.mftNo, s.nextMft)

section Alloc

variable {env : FsEnv} {s : FsState}

@[simp] theorem FsState.call_alloc (c : Bool → FsCall) : (s.call c).2.alloc = s.alloc := rfl

@[simp] theorem FsState.call_nextMft (c : Bool → FsCall) : (s.call c).2.nextMft = s.nextMft := rfl

@[simp] theorem FsState.setMftNo_nextMft (inode mft : Nat) : (s.setMftNo inode mft).nextMft = s.nextMft :=
  rfl

@[simp] theorem reportFileCreated_alloc : (reportFileCreated s).2.alloc = s.alloc := rfl

@[simp] theorem closeNi_alloc (ni : Nat) (ret : Option WimlibErr) :
    (closeNi ni ret s).2.alloc = s.alloc := rfl

@[simp] theorem ntfs3gSetMetadata_alloc (ni inode : Nat) :
    (ntfs3gSetMetadata env ni inode s).2.alloc = s.alloc := by
  unfold ntfs3gSetMetadata
  dsimp only
  split_ifs <;> rfl

@[simp] theorem ntfs3gCreateEmptyNamedDataStreams_alloc (ni : Nat) (names : List (List UInt16)) :
    (ntfs3gCreateEmptyNamedDataStreams ni names s).2.alloc = s.alloc := by
  induction names generalizing s with
  | nil => rfl
  | cons name names ih =>
    rw [ntfs3gCreateEmptyNamedDataStreams]
    split_ifs
    · exact ih
    · rfl

@[simp] theorem createdDir_alloc (ni inode : Nat) : (createdDir env ni inode s).2.alloc = s.alloc := by
  unfold createdDir
  dsimp only
  split_ifs <;> simp

@[simp] theorem ntfs3gRestoreTimestamps_alloc (inode : Nat) :
    (ntfs3gRestoreTimestamps inode s).2.alloc = s.alloc := by
  unfold ntfs3gRestoreTimestamps
  dsimp only
  split_ifs <;> rfl

@[simp] theorem openIfNull_alloc (ni : Option Nat) (mft : Nat) :
    (openIfNull ni mft s).2.alloc = s.alloc := by
  cases ni <;> rfl

@[simp] theorem closeIfOpen_alloc (ni : Option Nat) : (closeIfOpen ni s).alloc = s.alloc := by
  cases ni <;> rfl

@[simp] theorem ntfs3gRestoreDosName_alloc (ni dirNi : Option Nat) (d : ExtractionDentry) :
    (ntfs3gRestoreDosName ni dirNi d s).2.alloc = s.alloc := by
  unfold ntfs3gRestoreDosName
  dsimp only
  split_ifs
  · simp
  split <;> [split_ifs; skip] <;> simp

@[simp] theorem ntfs3gAddLink_alloc (ni : Nat) (d : ExtractionDentry) :
    (ntfs3gAddLink ni d s).2.alloc = s.alloc := by
  unfold ntfs3gAddLink
  dsimp only
  split_ifs <;> rfl

@[simp] theorem addLinks_alloc (ni firstId : Nat) (ds : List ExtractionDentry) :
    (addLinks ni firstId ds s).2.alloc = s.alloc := by
  induction ds generalizing s with
  | nil => rfl
  | cons d ds ih =>
    rw [addLinks]
    dsimp only
    split_ifs <;> simp [ih]

@[simp] theorem linksAndMetadata_alloc (inode ni firstId : Nat) :
    (linksAndMetadata env inode ni firstId s).2.alloc = s.alloc := by
  unfold linksAndMetadata
  dsimp only
  split_ifs <;> simp

@[simp] theorem restoreDirDosNames_alloc (ds : List ExtractionDentry) :
    (restoreDirDosNames env ds s).2.alloc = s.alloc := by
  induction ds generalizing s with
  | nil => rfl
  | cons d ds ih =>
    rw [restoreDirDosNames]
    dsimp only
    split_ifs <;> simp [ih]

theorem FsState.create_alloc_of_none {dir : Nat} {name : List UInt16} {isDir : Bool}
    (h : (s.create dir name isDir).1 = none) : (s.create dir name isDir).2.alloc = s.alloc := by
  unfold FsState.create at h ⊢
  split_ifs at h ⊢
  rfl

theorem FsState.create_nextMft_of_some {dir : Nat} {name : List UInt16} {isDir : Bool} {ni : Nat}
    (h : (s.create dir name isDir).1 = some ni) : (s.create dir name isDir).2.nextMft = s.nextMft + 1 := by
  unfold FsState.create at h ⊢
  split_ifs at h ⊢
  rfl

end Alloc

/-! ## Records are allocated upwards -/

/-- `i_mft_no` is injective on the WIM inodes `S`, and each of them has a record below `nextMft`:
none has the record the next `ntfs_create` allocates. -/
structure MftAlloc (S : List Nat) (s : FsState) : Prop where
  inj : ∀ i ∈ S, ∀ j ∈ S, s.mftNo i = s.mftNo j → i = j
  lt : ∀ i ∈ S, s.mftNo i < s.nextMft

section MftAlloc

variable {S : List Nat} {s s' : FsState}

theorem MftAlloc.nil (s : FsState) : MftAlloc [] s := ⟨by simp, by simp⟩

theorem MftAlloc.frame (h : MftAlloc S s) (hs : s'.alloc = s.alloc) : MftAlloc S s' := by
  simp only [FsState.alloc, Prod.mk.injEq] at hs
  exact ⟨hs.1 ▸ h.inj, hs.1 ▸ hs.2 ▸ h.lt⟩

/-- **An `ntfs_create` that succeeds allocates a fresh record.** It is `nextMft`, which no inode
of `S` has, so the WIM inode it is stored for joins `S`. -/
theorem MftAlloc.create {dir : Nat} {name : List UInt16} {isDir : Bool} {ni : Nat} (h : MftAlloc S s)
    (hc : (s.create dir name isDir).1 = some ni) (i : Nat) :
    MftAlloc (i :: S) ((s.create dir name isDir).2.setMftNo i ni) := by
  have hni : ni = s.nextMft := FsState.create_fst hc
  -- every other inode of `i :: S` keeps its record, which lies below `ni`
  have hlt : ∀ j ∈ i :: S, j ≠ i → s.mftNo j < ni := fun j hj hji =>
    hni ▸ h.lt j ((List.mem_cons.mp hj).resolve_left hji)
  refine ⟨fun j hj k hk hjk => ?_, fun j hj => ?_⟩
  · simp only [FsState.setMftNo_mftNo, FsState.create_mftNo, Function.update_apply] at hjk
    split_ifs at hjk with hji hki hki
    · rw [hji, hki]
    · exact absurd hjk (hlt k hk hki).ne'
    · exact absurd hjk (hlt j hj hji).ne
    · exact h.inj j ((List.mem_cons.mp hj).resolve_left hji) k ((List.mem_cons.mp hk).resolve_left hki) hjk
  · simp only [FsState.setMftNo_mftNo, FsState.create_mftNo, FsState.setMftNo_nextMft,
      FsState.create_nextMft_of_some hc, Function.update_apply]
    split_ifs with hji
    · omega
    · have := hlt j hj hji
      omega

end MftAlloc

/-- From `s`, a run that ends as `r` keeps `MftAlloc` for a larger set of inodes, which holds the
inodes `T` when the run returns 0. -/
def MftRun (T : List Nat) (s : FsState) (r : Option WimlibErr × FsState) : Prop :=
  ∀ S, MftAlloc S s → ∃ S', S ⊆ S' ∧ MftAlloc S' r.2 ∧ (r.1 = none → T ⊆ S')

section MftRun

variable {T T' : List Nat} {s : FsState} {r y : Option WimlibErr × FsState}

/-- A run that allocates nothing. -/
theorem MftRun.frame (hs : r.2.alloc = s.alloc) : MftRun [] s r :=
  fun S h => ⟨S, List.Subset.refl S, h.frame hs, fun _ => List.nil_subset S⟩

theorem MftRun.mono (h : MftRun T s r) (hT : T' ⊆ T) : MftRun T' s r := fun S hS => by
  obtain ⟨S', hsub, hA, hr⟩ := h S hS
  exact ⟨S', hsub, hA, fun h0 => hT.trans (hr h0)⟩

/-- `if (!ret) ret = f(...)`. -/
theorem MftRun.ifOk (h : MftRun T s r) (hy : r.1 = none → MftRun T' r.2 y) :
    MftRun (T ++ T') s (if r.1.isNone then y else r) := fun S hS => by
  obtain ⟨S₁, h₁, hA₁, hT₁⟩ := h S hS
  split_ifs with hr
  · have hr' := Option.isNone_iff_eq_none.mp hr
    obtain ⟨S₂, h₂, hA₂, hT₂⟩ := hy hr' S₁ hA₁
    exact ⟨S₂, h₁.trans h₂, hA₂, fun hy' => List.append_subset.mpr ⟨(hT₁ hr').trans h₂, hT₂ hy'⟩⟩
  · exact ⟨S₁, h₁, hA₁, fun hr' => absurd (Option.isNone_iff_eq_none.mpr hr') hr⟩

/-- `if (ret) return ret;`, then `f`. -/
theorem MftRun.orElse (h : MftRun T s r) (hy : r.1 = none → MftRun T' r.2 y) :
    MftRun (T ++ T') s (if r.1.isSome then r else y) := by
  have h' := h.ifOk hy
  simp only [Option.isNone_iff_eq_none, Option.isSome_iff_ne_none, ite_not] at h' ⊢
  exact h'

theorem closeNi_eq_none {ni : Nat} {ret : Option WimlibErr} {s : FsState}
    (h : (closeNi ni ret s).1 = none) : ret = none := by
  unfold closeNi at h
  dsimp only at h
  split_ifs at h
  exact h

/-- `ntfs_inode_close(ni)` after a run: it returns 0 only after a run that returned 0. -/
theorem MftRun.closeNi (h : MftRun T s r) (ni : Nat) : MftRun T s (closeNi ni r.1 r.2) := fun S hS => by
  obtain ⟨S', hsub, hA, hT⟩ := h S hS
  exact ⟨S', hsub, hA.frame rfl, fun h0 => hT (closeNi_eq_none h0)⟩

end MftRun

/-! ## The file-structure phase allocates a record for each inode it creates -/

section Phase

variable {env : FsEnv}

mutual

theorem ntfs3gCreateDirsRecursive_mft (env : FsEnv) (dirNi : Nat) :
    ∀ (dir : ExtractionTree) (s : FsState),
      MftRun (dir.dirInodes env) s (ntfs3gCreateDirsRecursive env dirNi dir s)
  | .node _ _ children, s => createChildDirs_mft env dirNi children s
termination_by structural dir => dir

theorem createChildDirs_mft (env : FsEnv) (dirNi : Nat) :
    ∀ (children : List ExtractionTree) (s : FsState),
      MftRun (childDirInodes env children) s (createChildDirs env dirNi children s)
  | [], s => MftRun.frame rfl
  | c :: rest, s => by
    rw [createChildDirs, childDirInodes]
    dsimp only
    split_ifs
    · exact createChildDirs_mft env dirNi rest s
    intro S hS
    split
    · next hnone => exact ⟨S, List.Subset.refl S, hS.frame (FsState.create_alloc_of_none hnone),
        fun h => Option.noConfusion h⟩
    next ni hni =>
    have hrun := ((((MftRun.frame (@createdDir_alloc env
      ((s.create dirNi c.dentry.name true).2.setMftNo c.dentry.inode ni) ni c.dentry.inode)).ifOk fun _ =>
      ntfs3gCreateDirsRecursive_mft env ni c _).closeNi ni).orElse fun _ =>
        createChildDirs_mft env dirNi rest _)
    obtain ⟨S', hsub, hA, hT⟩ := hrun _ (hS.create hni c.dentry.inode)
    refine ⟨S', (List.subset_cons_self _ _).trans hsub, hA, fun h => ?_⟩
    simpa [hsub (List.mem_cons_self _ _)] using hT h
termination_by structural children => children

end

/-- The directory phase gives the root's WIM inode `FILE_root`, which lies below every record it
allocates, and a fresh record to each directory it creates. -/
theorem ntfs3gCreateDirectories_mft (root : ExtractionTree) (dentryList : List ExtractionDentry)
    (s : FsState) (h : fileRoot < s.nextMft) :
    ∃ S, MftAlloc S (ntfs3gCreateDirectories env root dentryList s).2 ∧
      ((ntfs3gCreateDirectories env root dentryList s).1 = none →
        root.dentry.inode :: root.dirInodes env ⊆ S) := by
  unfold ntfs3gCreateDirectories
  dsimp only
  split
  · exact ⟨[], MftAlloc.nil _, fun h => by simp at h⟩
  have hA : MftAlloc [root.dentry.inode]
      ((s.call (.inodeOpen fileRoot)).2.setMftNo root.dentry.inode fileRoot) :=
    ⟨by simp, by simpa [FsState.setMftNo] using h⟩
  obtain ⟨S, hsub, hA', hT⟩ := (((ntfs3gCreateDirsRecursive_mft env fileRoot root _).closeNi
    fileRoot).orElse fun _ => MftRun.frame (@restoreDirDosNames_alloc env _ dentryList)) _ hA
  exact ⟨S, hA', fun hr => List.cons_subset.mpr ⟨hsub (List.mem_singleton_self _), by simpa using hT hr⟩⟩

/-- `ntfs_3g_create_nondirectory` stores the record it allocates in `i_mft_no`, and allocates
nothing else. -/
theorem ntfs3gCreateNondirectory_mft (inode : Nat) (a : ExtractionDentry) (as : List ExtractionDentry)
    (s : FsState) : MftRun [inode] s (ntfs3gCreateNondirectory env inode a as s) := fun S hS => by
  unfold ntfs3gCreateNondirectory
  dsimp only
  split
  · exact ⟨S, List.Subset.refl S, hS.frame rfl, fun h => by simp at h⟩
  have hS' : MftAlloc S (s.call (.inodeOpen (s.mftNo (ntfs3gFirstExtractionAlias a as).parent))).2 :=
    hS.frame rfl
  split
  · next hnone => exact ⟨S, List.Subset.refl S, hS'.frame (by simp [FsState.create_alloc_of_none hnone]),
      fun h => by simp at h⟩
  next ni hni =>
  refine ⟨inode :: S, List.subset_cons_self _ _, (hS'.create hni inode).frame ?_, fun _ => by simp⟩
  split_ifs <;> simp

theorem ntfs3gCreateNondirectories_mft :
    ∀ (ds : List ExtractionDentry) (s : FsState),
      MftRun (ds.flatMap (createdAt env)) s (ntfs3gCreateNondirectories env ds s)
  | [], s => MftRun.frame rfl
  | d :: ds, s => by
    rw [ntfs3gCreateNondirectories, List.flatMap_cons]
    dsimp only
    split
    · next hd => exact (ntfs3gCreateNondirectories_mft ds s).mono (by simp [createdAt, hd])
    next hd =>
    have hc : MftRun (createdAt env d) s (createAtFirstExtractionDentry env d s) := by
      unfold createAtFirstExtractionDentry createdAt
      rw [if_neg hd]
      cases (env.inodes d.inode).aliases with
      | nil => exact MftRun.frame rfl
      | cons a as =>
        dsimp only
        split_ifs
        · exact ntfs3gCreateNondirectory_mft d.inode a as s
        · exact MftRun.frame rfl
    refine (hc.orElse fun _ => (MftRun.frame reportFileCreated_alloc).orElse fun _ =>
      ntfs3gCreateNondirectories_mft ds _).mono ?_
    simp

/-- The whole file-structure phase: the records of the WIM inodes it gives an NTFS inode are
pairwise distinct when it returns 0. -/
theorem ntfs3gCreateFileStructure_mft (root : ExtractionTree) (dentryList : List ExtractionDentry)
    (s : FsState) (h : fileRoot < s.nextMft) :
    ∃ S, MftAlloc S (ntfs3gCreateFileStructure env root dentryList s).2 ∧
      ((ntfs3gCreateFileStructure env root dentryList s).1 = none →
        createdInodes env root dentryList ⊆ S) := by
  obtain ⟨S, hA, hT⟩ := ntfs3gCreateDirectories_mft root dentryList s h
  unfold ntfs3gCreateFileStructure
  dsimp only
  split_ifs with hr
  · exact ⟨S, hA, fun h' => absurd h' (Option.isSome_iff_ne_none.mp hr)⟩
  obtain ⟨S', hsub, hA', hT'⟩ := ntfs3gCreateNondirectories_mft dentryList _ S hA
  refine ⟨S', hA', fun h' => ?_⟩
  have hdirs := hT (Option.not_isSome_iff_eq_none.mp hr)
  simp only [createdInodes, List.cons_subset, List.append_subset] at hdirs ⊢
  exact ⟨hsub hdirs.1, hdirs.2.trans hsub, hT' h'⟩

end Phase

/-- **Distinct WIM inodes get distinct MFT records.** When the file-structure phase returns 0,
on a volume whose next free record lies above `FILE_root`, the WIM inodes it gave an NTFS inode
(the root's, each directory and each nondirectory it created) have pairwise distinct
`i_mft_no`, whatever libntfs-3g returned on the way. -/
theorem ntfs3gCreateFileStructure_distinctRecords (env : FsEnv) (root : ExtractionTree)
    (dentryList : List ExtractionDentry) (s : FsState) (h : fileRoot < s.nextMft)
    (hok : (ntfs3gCreateFileStructure env root dentryList s).1 = none) :
    ∀ i ∈ createdInodes env root dentryList, ∀ j ∈ createdInodes env root dentryList,
      (ntfs3gCreateFileStructure env root dentryList s).2.mftNo i =
        (ntfs3gCreateFileStructure env root dentryList s).2.mftNo j → i = j := by
  obtain ⟨S, hA, hT⟩ := ntfs3gCreateFileStructure_mft root dentryList s h
  exact fun i hi j hj => hA.inj i (hT hok hi) j (hT hok hj)

/-- A root, a directory in it and a file in that: the three WIM inodes end with distinct
records. -/
theorem ntfs3gCreateFileStructure_distinctRecords_nested :
    let env : FsEnv := ⟨fun i => if i = 2 then ⟨false, [⟨2, 2, 1, [102], false⟩], [], false⟩
      else ⟨true, [], [], false⟩, false, false⟩
    let root : ExtractionTree := .node ⟨0, 0, 0, [], false⟩ true
      [.node ⟨1, 1, 0, [100], false⟩ true [.node ⟨2, 2, 1, [102], false⟩ true []]]
    let ds : List ExtractionDentry := [⟨0, 0, 0, [], false⟩, ⟨1, 1, 0, [100], false⟩, ⟨2, 2, 1, [102], false⟩]
    let s : FsState := ⟨fun _ => 0, 16, [], []⟩
    fileRoot < s.nextMft ∧ (ntfs3gCreateFileStructure env root ds s).1 = none ∧
      ∀ i ∈ createdInodes env root ds, ∀ j ∈ createdInodes env root ds,
        (ntfs3gCreateFileStructure env root ds s).2.mftNo i =
          (ntfs3gCreateFileStructure env root ds s).2.mftNo j → i = j :=
  ⟨by decide, by decide, ntfs3gCreateFileStructure_distinctRecords _ _ _ _ (by decide) (by decide)⟩

/-! ## `ntfs_3g_extract` -/

/-- What `ntfs_3g_extract` reads besides the dentries and the blobs: what the file-structure phase
reads, and the constants and `i_reparse_tag`s the blob callbacks read. -/
structure Ntfs3gExtractEnv where
  fs : FsEnv
  maxOpenFiles : Nat
  reparseDataMaxSize : Nat
  reparseTag : Nat → Nat

/-- What the blob callbacks read, with the `i_mft_no` the file-structure phase left. -/
def Ntfs3gExtractEnv.applyEnv (env : Ntfs3gExtractEnv) (mftNo : Nat → Nat) : Ntfs3gApplyEnv :=
  ⟨env.maxOpenFiles, env.reparseDataMaxSize, mftNo, env.reparseTag⟩

/-- `struct ntfs_3g_apply_ctx` as the extraction allocates it, zero-filled. -/
def Ntfs3gApplyCtx.zero (reparseDataMaxSize : Nat) : Ntfs3gApplyCtx :=
  ⟨[], [], ⟨0, 0, 0, List.replicate reparseDataMaxSize 0⟩, none, 0, []⟩

/-- A call `ntfs_3g_extract` makes, with its outcome: `ntfs_mount`, the progress function called by
`start_file_structure_phase` (with the number of files) and `end_file_structure_phase`, a call of
the file-structure phase or of a blob callback, and `ntfs_umount`. -/
inductive ExtractCall where
  | mount (ok : Bool)
  | startFileStructurePhase (count : Nat) (ok : Bool)
  | fileStructure (c : FsCall)
  | endFileStructurePhase (ok : Bool)
  | blob (c : NtfsCall)
  | umount (ok : Bool)
  deriving DecidableEq, Repr

/-- The calls made so far, and the outcomes of the calls to come (success once they run out),
which the two phases take their own outcomes from in turn. -/
structure Ntfs3gExtractState where
  calls : List ExtractCall
  results : List Bool

/-- A call: its outcome, and the state with the call made. -/
def Ntfs3gExtractState.call (s : Ntfs3gExtractState) (c : Bool → ExtractCall) : Bool × Ntfs3gExtractState :=
  (s.results.headD true, ⟨s.calls ++ [c (s.results.headD true)], s.results.tail⟩)

/-- From `start_file_structure_phase` to `end_file_structure_phase`, up to the first error, from
the `i_mft_no` of the WIM inodes and the record the volume's next `ntfs_create` allocates: what it
returns, the `i_mft_no` it leaves, and the state. -/
def fileStructurePhase (env : FsEnv) (root : ExtractionTree) (dentryList : List ExtractionDentry)
    (mftNo : Nat → Nat) (nextMft : Nat) (s : Ntfs3gExtractState) :
    Option WimlibErr × (Nat → Nat) × Ntfs3gExtractState :=
  let r := s.call (.startFileStructurePhase (ntfs3gCountDentries env dentryList))
  if !r.1 then (some .abortedByProgress, mftNo, r.2) else
  let fs := ntfs3gCreateFileStructure env root dentryList ⟨mftNo, nextMft, [], r.2.results⟩
  let s : Ntfs3gExtractState := ⟨r.2.calls ++ fs.2.calls.map .fileStructure, fs.2.results⟩
  if fs.1.isSome then (fs.1, fs.2.mftNo, s) else
  let r := s.call .endFileStructurePhase
  (if r.1 then none else some .abortedByProgress, fs.2.mftNo, r.2)

/-- `extract_blob_list(&ctx->common, &cbs)` with the three blob callbacks, over the zeroed context
and with no WIM inode visited: the first error a blob returned. -/
def extractBlobList (env : Ntfs3gExtractEnv) (mftNo : Nat → Nat) (sessions : List BlobSession)
    (s : Ntfs3gExtractState) : Option (Option WimlibErr × Ntfs3gExtractState) :=
  (runBlobSessions (env.applyEnv mftNo) sessions
      ⟨.zero env.reparseDataMaxSize, fun _ => false, [], s.results, []⟩).map fun (rs, a) =>
    (rs.findSome? (·.1), ⟨s.calls ++ a.calls.map .blob, a.results⟩)

/-- `ntfs_3g_extract(dentry_list, ctx)` for the tree `root` whose dentries are `dentryList`, and
the blobs `extract_blob_list` drives; `none` when a blob callback writes past an array. -/
def ntfs3gExtract (env : Ntfs3gExtractEnv) (root : ExtractionTree)
    (dentryList : List ExtractionDentry) (sessions : List BlobSession) (mftNo : Nat → Nat)
    (nextMft : Nat) (s : Ntfs3gExtractState) : Option (Option WimlibErr × Ntfs3gExtractState) :=
  let m := s.call .mount
  if !m.1 then some (some .ntfs3g, m.2) else
  let f := fileStructurePhase env.fs root dentryList mftNo nextMft m.2
  let r := if f.1.isSome then some (f.1, f.2.2) else extractBlobList env f.2.1 sessions f.2.2
  r.map fun (ret, s) =>
    let u := s.call .umount
    (if !u.1 && ret.isNone then some .ntfs3g else ret, u.2)

/-! ## What the extraction leaves open -/

/-- Handles of the MFT record `m` the call opens: an NTFS inode opened or created by either
phase. -/
def ExtractCall.opens (m : Nat) : ExtractCall → Int
  | .fileStructure c => c.opens m
  | .blob c => if c.opensInode m then 1 else 0
  | _ => 0

/-- Handles of the MFT record `m` the call closes. -/
def ExtractCall.closes (m : Nat) : ExtractCall → Int
  | .fileStructure c => c.closes m
  | .blob c => if c.closesInode m then 1 else 0
  | _ => 0

/-- The call opens the attribute `a`. -/
def ExtractCall.opensAttr (a : NtfsDataAttr) : ExtractCall → Bool
  | .blob c => c.opensAttr a
  | _ => false

/-- The call closes the attribute `a`. -/
def ExtractCall.closesAttr (a : NtfsDataAttr) : ExtractCall → Bool
  | .blob c => c.closesAttr a
  | _ => false

/-- Calls on a mounted volume that leave nothing open: no `ntfs_mount` or `ntfs_umount` among
them, and every NTFS inode and attribute they open they close exactly once. -/
structure BalancedCalls (cs : List ExtractCall) : Prop where
  volume : ∀ c ∈ cs, ∀ ok, c ≠ .mount ok ∧ c ≠ .umount ok
  inodes : ∀ m, (cs.map (·.opens m)).sum = (cs.map (·.closes m)).sum
  attrs : ∀ a, cs.countP (·.opensAttr a) = cs.countP (·.closesAttr a)

section Balanced

theorem BalancedCalls.append {cs cs' : List ExtractCall} (h : BalancedCalls cs) (h' : BalancedCalls cs') :
    BalancedCalls (cs ++ cs') where
  volume c hc := (List.mem_append.mp hc).elim (h.volume c) (h'.volume c)
  inodes m := by simp only [List.map_append, List.sum_append, h.inodes m, h'.inodes m]
  attrs a := by simp only [List.countP_append, h.attrs a, h'.attrs a]

theorem BalancedCalls.progress {c : ExtractCall} (hc : ∀ ok, c ≠ .mount ok ∧ c ≠ .umount ok)
    (ho : ∀ m, c.opens m = 0 ∧ c.closes m = 0) (ha : ∀ a, c.opensAttr a = false ∧ c.closesAttr a = false) :
    BalancedCalls [c] :=
  ⟨by simpa using hc, fun m => by simp [(ho m).1, (ho m).2], fun a => by simp [(ha a).1, (ha a).2]⟩

theorem BalancedCalls.startFileStructurePhase (count : Nat) (ok : Bool) :
    BalancedCalls [.startFileStructurePhase count ok] :=
  .progress (fun _ => ⟨ExtractCall.noConfusion, ExtractCall.noConfusion⟩) (fun _ => ⟨rfl, rfl⟩)
    fun _ => ⟨rfl, rfl⟩

theorem BalancedCalls.endFileStructurePhase (ok : Bool) : BalancedCalls [.endFileStructurePhase ok] :=
  .progress (fun _ => ⟨ExtractCall.noConfusion, ExtractCall.noConfusion⟩) (fun _ => ⟨rfl, rfl⟩)
    fun _ => ⟨rfl, rfl⟩

/-- The file-structure phase's calls, once each MFT record is closed as often as opened. -/
theorem BalancedCalls.fileStructure {cs : List FsCall} (h : ∀ m, netCloses m cs = 0) :
    BalancedCalls (cs.map .fileStructure) where
  volume c hc ok := by
    obtain ⟨x, -, rfl⟩ := List.mem_map.mp hc
    exact ⟨ExtractCall.noConfusion, ExtractCall.noConfusion⟩
  inodes m := by
    have h' := h m
    rw [netCloses_eq_sub, sub_eq_zero] at h'
    simpa only [List.map_map] using h'.symm
  attrs a := by simp [List.countP_map, Function.comp_def, ExtractCall.opensAttr, ExtractCall.closesAttr]

theorem sum_map_ite_one {α : Type} (p : α → Bool) (l : List α) :
    (l.map fun c => if p c then (1 : Int) else 0).sum = l.countP p := by
  induction l with
  | nil => rfl
  | cons c l ih =>
    rw [List.map_cons, List.sum_cons, ih, List.countP_cons]
    split <;> push_cast <;> ring

/-- The blob callbacks' calls, once they close what they open. -/
theorem BalancedCalls.blob {cs : List NtfsCall} (h : ClosesWhatItOpens cs) :
    BalancedCalls (cs.map .blob) where
  volume c hc ok := by
    obtain ⟨x, -, rfl⟩ := List.mem_map.mp hc
    exact ⟨ExtractCall.noConfusion, ExtractCall.noConfusion⟩
  inodes m := by
    simp only [List.map_map, Function.comp_def, ExtractCall.opens, ExtractCall.closes, sum_map_ite_one,
      h.1 m]
  attrs a := by
    simp only [List.countP_map, Function.comp_def, ExtractCall.opensAttr, ExtractCall.closesAttr]
    exact h.2 a

end Balanced

/-! ## The phases, and the whole extraction -/

/-- The blobs one after another, from between two blobs: every blob closes what it opens. -/
theorem runBlobSessions_closes {env : Ntfs3gApplyEnv} :
    ∀ (sessions : List BlobSession) (s : ApplyState), BetweenBlobs env s →
      (∀ sess ∈ sessions, sess.WellFormed env) →
      ∃ rs s' cs, runBlobSessions env sessions s = some (rs, s') ∧ s'.calls = s.calls ++ cs ∧
        ClosesWhatItOpens cs
  | [], s, _, _ => ⟨[], s, [], rfl, by simp, fun _ => rfl, fun _ => rfl⟩
  | sess :: rest, s, hs, hwf => by
    obtain ⟨ret, s₁, cs₁, hrun, hb₁, hcalls₁, hclose₁, -⟩ :=
      runBlobSession_spec hs (hwf sess (List.mem_cons_self _ _))
    obtain ⟨rs, s', cs', hrest, hcalls', hclose'⟩ :=
      runBlobSessions_closes rest s₁ hb₁ fun x hx => hwf x (List.mem_cons_of_mem _ hx)
    exact ⟨(ret, s₁.calls.drop s.calls.length) :: rs, s', cs₁ ++ cs', by simp [runBlobSessions, hrun, hrest],
      by rw [hcalls', hcalls₁, List.append_assoc], hclose₁.append hclose'⟩

/-- The blob phase, for blobs `extract_blob_list` may drive: it writes past no array, and its calls
close what they open. -/
theorem extractBlobList_balanced (env : Ntfs3gExtractEnv) (mftNo : Nat → Nat)
    (sessions : List BlobSession) (s : Ntfs3gExtractState)
    (hwf : ∀ sess ∈ sessions, sess.WellFormed (env.applyEnv mftNo)) :
    ∃ ret s' cs, extractBlobList env mftNo sessions s = some (ret, s') ∧ s'.calls = s.calls ++ cs ∧
      BalancedCalls cs := by
  have hs : BetweenBlobs (env.applyEnv mftNo)
      ⟨.zero env.reparseDataMaxSize, fun _ => false, [], s.results, []⟩ :=
    ⟨⟨rfl, rfl, rfl, rfl, rfl⟩, fun _ => rfl, List.length_replicate _ _⟩
  obtain ⟨rs, a, cs, hrun, hcalls, hclose⟩ := runBlobSessions_closes sessions _ hs hwf
  refine ⟨rs.findSome? (·.1), ⟨s.calls ++ a.calls.map .blob, a.results⟩, cs.map .blob,
    by simp [extractBlobList, hrun], ?_, BalancedCalls.blob hclose⟩
  rw [show a.calls = cs by simpa using hcalls]

/-- The file-structure phase: its calls leave nothing open, and when it returns 0 the WIM inodes
it gave an NTFS inode have distinct records. -/
theorem fileStructurePhase_balanced (env : FsEnv) (root : ExtractionTree)
    (dentryList : List ExtractionDentry) (mftNo : Nat → Nat) (nextMft : Nat) (s : Ntfs3gExtractState)
    (h : fileRoot < nextMft) :
    ∃ cs, (fileStructurePhase env root dentryList mftNo nextMft s).2.2.calls = s.calls ++ cs ∧
      BalancedCalls cs ∧
      ((fileStructurePhase env root dentryList mftNo nextMft s).1 = none →
        ∀ i ∈ createdInodes env root dentryList, ∀ j ∈ createdInodes env root dentryList,
          (fileStructurePhase env root dentryList mftNo nextMft s).2.1 i =
            (fileStructurePhase env root dentryList mftNo nextMft s).2.1 j → i = j) := by
  unfold fileStructurePhase
  dsimp only
  set r := s.call (.startFileStructurePhase (ntfs3gCountDentries env dentryList))
  have hstart : BalancedCalls [.startFileStructurePhase (ntfs3gCountDentries env dentryList) r.1] :=
    .startFileStructurePhase _ _
  split
  · exact ⟨_, rfl, hstart, fun h' => by simp at h'⟩
  set fs := ntfs3gCreateFileStructure env root dentryList ⟨mftNo, nextMft, [], r.2.results⟩
  obtain ⟨csf, hcsf, hk, -⟩ := (ntfs3gCreateFileStructure_run env root dentryList
    ⟨mftNo, nextMft, [], r.2.results⟩).calls
  obtain ⟨S, hA, hT⟩ := ntfs3gCreateFileStructure_mft root dentryList ⟨mftNo, nextMft, [], r.2.results⟩ h
  have hfs : BalancedCalls (fs.2.calls.map .fileStructure) := by
    rw [hcsf, List.nil_append]
    exact .fileStructure hk
  split
  · exact ⟨[.startFileStructurePhase _ r.1] ++ fs.2.calls.map .fileStructure, by simp [Ntfs3gExtractState.call, r],
      hstart.append hfs,
      fun h' => absurd h' (Option.isSome_iff_ne_none.mp ‹_›)⟩
  · refine ⟨[.startFileStructurePhase _ r.1] ++ fs.2.calls.map .fileStructure ++
      [.endFileStructurePhase (fs.2.results.headD true)],
      by simp [Ntfs3gExtractState.call, r], (hstart.append hfs).append (.endFileStructurePhase _),
      fun _ i hi j hj => hA.inj i (hT ?_ hi) j (hT ?_ hj)⟩ <;>
      exact Option.not_isSome_iff_eq_none.mp ‹_›

/-- **`ntfs_3g_extract` unmounts what it mounted, with nothing left open.** For blobs of at most
`MAX_OPEN_FILES` targets, each a WIM inode the extraction gives an NTFS inode, and chunks of at
most the blob's size, on a volume whose next free MFT record lies above `FILE_root`, whatever
libntfs-3g, the progress function and the blob reads return: no array is written past, and
either `ntfs_mount` failed, nothing else was called and the result is `WIMLIB_ERR_NTFS_3G`, or
`ntfs_umount` is called once, as the last call, after calls that neither mount nor unmount and
close every NTFS inode and attribute they open exactly once. -/
theorem ntfs3gExtract_unmountsClosed (env : Ntfs3gExtractEnv) (root : ExtractionTree)
    (dentryList : List ExtractionDentry) (sessions : List BlobSession) (mftNo : Nat → Nat)
    (nextMft : Nat) (s : Ntfs3gExtractState) (hroot : fileRoot < nextMft)
    (hblobs : ∀ sess ∈ sessions, sess.blob.targets.length ≤ env.maxOpenFiles ∧
      (sess.chunks.map List.length).sum ≤ sess.blob.size)
    (hcreated : ∀ sess ∈ sessions, ∀ t ∈ sess.blob.targets,
      t.inode ∈ createdInodes env.fs root dentryList) :
    ∃ ret s' cs, ntfs3gExtract env root dentryList sessions mftNo nextMft s = some (ret, s') ∧
      s'.calls = s.calls ++ cs ∧
      ((cs = [.mount false] ∧ ret = some .ntfs3g) ∨
        ∃ body ok, cs = .mount true :: (body ++ [.umount ok]) ∧ BalancedCalls body) := by
  unfold ntfs3gExtract
  dsimp only
  split
  · next hm =>
    have hm' : s.results.headD true = false := by simpa [Ntfs3gExtractState.call] using hm
    refine ⟨_, _, [.mount false], rfl, ?_, .inl ⟨rfl, rfl⟩⟩
    show s.calls ++ [.mount (s.results.headD true)] = _
    rw [hm']
  next hm =>
  have hm' : s.results.headD true = true := by simpa [Ntfs3gExtractState.call] using hm
  set m := s.call .mount
  set f := fileStructurePhase env.fs root dentryList mftNo nextMft m.2
  obtain ⟨csf, hcsf, hbf, hinj⟩ := fileStructurePhase_balanced env.fs root dentryList mftNo nextMft m.2 hroot
  have hmount : m.2.calls = s.calls ++ [.mount true] := by
    show s.calls ++ [.mount (s.results.headD true)] = _
    rw [hm']
  -- the state before `ntfs_umount`, after calls that leave nothing open
  obtain ⟨ret, s₁, body, hr, hcalls₁, hb₁⟩ : ∃ ret s₁ body,
      (if f.1.isSome then some (f.1, f.2.2) else extractBlobList env f.2.1 sessions f.2.2) =
        some (ret, s₁) ∧ s₁.calls = m.2.calls ++ body ∧ BalancedCalls body := by
    split
    · exact ⟨_, _, csf, rfl, hcsf, hbf⟩
    · next hf =>
      have hwf : ∀ sess ∈ sessions, sess.WellFormed (env.applyEnv f.2.1) := fun sess hs =>
        ⟨(hblobs sess hs).1, fun t ht t' ht' => hinj (Option.not_isSome_iff_eq_none.mp hf) _
          (hcreated sess hs t ht) _ (hcreated sess hs t' ht'), (hblobs sess hs).2⟩
      obtain ⟨ret, s₁, csb, hrun, hcalls, hbb⟩ := extractBlobList_balanced env f.2.1 sessions f.2.2 hwf
      exact ⟨ret, s₁, csf ++ csb, hrun, by rw [hcalls, hcsf, List.append_assoc], hbf.append hbb⟩
  refine ⟨_, _, .mount true :: (body ++ [.umount (s₁.results.headD true)]), by rw [hr]; rfl, ?_,
    .inr ⟨body, _, rfl, hb₁⟩⟩
  simp [Ntfs3gExtractState.call, hcalls₁, hmount]


/-- The same tree, mounted, with one blob of two bytes for the file's unnamed stream. -/
theorem ntfs3gExtract_unmountsClosed_oneBlob :
    let env : Ntfs3gExtractEnv := ⟨⟨fun i => if i = 2 then ⟨false, [⟨2, 2, 1, [102], false⟩], [], false⟩
      else ⟨true, [], [], false⟩, false, false⟩, 4, 8, fun _ => 0⟩
    let root : ExtractionTree := .node ⟨0, 0, 0, [], false⟩ true
      [.node ⟨1, 1, 0, [100], false⟩ true [.node ⟨2, 2, 1, [102], false⟩ true []]]
    let ds : List ExtractionDentry := [⟨0, 0, 0, [], false⟩, ⟨1, 1, 0, [100], false⟩, ⟨2, 2, 1, [102], false⟩]
    let sessions : List BlobSession := [⟨⟨2, [⟨2, .data []⟩]⟩, [[1, 2]], none, true⟩]
    fileRoot < 16 ∧
      (∀ sess ∈ sessions, sess.blob.targets.length ≤ env.maxOpenFiles ∧
        (sess.chunks.map List.length).sum ≤ sess.blob.size) ∧
      (∀ sess ∈ sessions, ∀ t ∈ sess.blob.targets, t.inode ∈ createdInodes env.fs root ds) ∧
      ∃ ret s' cs, ntfs3gExtract env root ds sessions (fun _ => 0) 16 ⟨[], []⟩ = some (ret, s') ∧
        s'.calls = [] ++ cs ∧
        ((cs = [.mount false] ∧ ret = some .ntfs3g) ∨
          ∃ body ok, cs = .mount true :: (body ++ [.umount ok]) ∧ BalancedCalls body) :=
  ⟨by decide, by decide, by decide,
    ntfs3gExtract_unmountsClosed _ _ _ _ _ _ _ (by decide) (by decide) (by decide)⟩

end WimLean
