import WimLean.Basic

/-!
# WimLean — creating the files on an NTFS volume (`ntfs_3g_create_directories`,
`ntfs_3g_create_nondirectories`)

Before any blob is extracted, `ntfs_3g_extract` creates the file structure. `ntfs_3g_create_directories`
opens the volume's root, creates the directories of the tree by a preorder walk from it
(`ntfs_3g_create_dirs_recursive`), then sets the DOS name of each directory that has one.
`ntfs_3g_create_nondirectories` then creates each nondirectory inode at its first extraction
dentry (`ntfs_3g_create_nondirectory`): the first link through `ntfs_create` at the alias
`ntfs_3g_first_extraction_alias` picks, a link through `ntfs_link` for each other alias. Each
inode created gets its attributes, security descriptor and timestamps (`ntfs_3g_set_metadata`)
and its named data streams that have no blob, empty (`ntfs_3g_create_empty_named_data_streams`).

The model runs over `FsState`: the `i_mft_no` of the WIM inodes, the MFT record the next
`ntfs_create` allocates, the calls made with their outcomes, and the outcomes of the calls to
come, an input, so that any pattern of failures is one run. `report_file_created` calls the
progress function, whose failure is one more outcome. The headers and `extract.c` are not among
the sources: a dentry is what these functions read of it (`ExtractionDentry`, whose `id` stands
for its address in the pointer comparisons), the walk of `for_dentry_child` reads an
`ExtractionTree`, and an inode is an `ExtractionInode`.

`ntfs3gCreateFileStructure_closesWhatItOpens` says that, whatever the calls return, every NTFS
inode these functions open they close exactly once; `ntfs3gCreateFileStructure_rootStreams`
that the root directory, which they never create, never gets its named data streams.
-/

namespace WimLean

/-! ## Dentries, inodes and calls -/

/-- A `struct wim_dentry` as these functions read it: its identity, `d_inode`, the inode of
`d_parent`, `d_extraction_name`, and `dentry_has_short_name`. -/
structure ExtractionDentry where
  id : Nat
  inode : Nat
  parent : Nat
  name : List UInt16
  hasShortName : Bool
  deriving DecidableEq, Repr

/-- The dentry tree `for_dentry_child` walks, with `will_extract_dentry` of each dentry. -/
inductive ExtractionTree where
  | node (dentry : ExtractionDentry) (willExtract : Bool) (children : List ExtractionTree)
  deriving Repr

/-- The dentry at the root of a tree. -/
def ExtractionTree.dentry : ExtractionTree → ExtractionDentry
  | .node d _ _ => d

/-- `will_extract_dentry` of the dentry at the root of a tree. -/
def ExtractionTree.willExtract : ExtractionTree → Bool
  | .node _ we _ => we

/-- A `struct wim_inode` as these functions read it: `FILE_ATTRIBUTE_DIRECTORY` of
`i_attributes`, `i_extraction_aliases` in order, the names of the named data streams that have
no blob, and whether `i_security_id >= 0`. -/
structure ExtractionInode where
  isDir : Bool
  aliases : List ExtractionDentry
  emptyStreams : List (List UInt16)
  hasSecurityId : Bool
  deriving DecidableEq, Repr

/-- What the functions read and never change: the WIM inodes, and whether the extraction flags
have `WIMLIB_EXTRACT_FLAG_NO_ATTRIBUTES` and `WIMLIB_EXTRACT_FLAG_NO_ACLS`. -/
structure FsEnv where
  inodes : Nat → ExtractionInode
  noAttributes : Bool
  noAcls : Bool

/-- A call to libntfs-3g (an `ntfs_inode *` is the MFT record it was opened or created as), to
`utf16le_get_tstr`, or to the progress function, with its outcome. -/
inductive FsCall where
  | inodeOpen (mft : Nat) (ok : Bool)
  | inodeClose (mft : Nat) (ok : Bool)
  | create (dir : Nat) (name : List UInt16) (isDir : Bool) (mft : Option Nat)
  | link (mft dir : Nat) (name : List UInt16) (ok : Bool)
  | getTstr (ok : Bool)
  | setDosName (mft dir : Nat) (ok : Bool)
  | setAttrib (mft : Nat) (ok : Bool)
  | setAcl (mft : Nat) (ok : Bool)
  | setTimes (mft : Nat) (ok : Bool)
  | attrAdd (mft : Nat) (name : List UInt16) (ok : Bool)
  | reportFileCreated (ok : Bool)
  deriving DecidableEq, Repr

/-- The state the functions run in: `i_mft_no` of each WIM inode, the MFT record the next
`ntfs_create` allocates, the calls made so far, and the outcomes of the calls to come (success
once they run out). -/
structure FsState where
  mftNo : Nat → Nat
  nextMft : Nat
  calls : List FsCall
  results : List Bool

/-- The outcome of the next call. -/
def FsState.outcome (s : FsState) : Bool := s.results.headD true

/-- A call: its outcome, and the state with the call made. -/
def FsState.call (s : FsState) (c : Bool → FsCall) : Bool × FsState :=
  (s.outcome, { s with calls := s.calls ++ [c s.outcome], results := s.results.tail })

/-- `ntfs_create(dir_ni, 0, name, len, mode)`: a new MFT record, or `NULL`. -/
def FsState.create (s : FsState) (dir : Nat) (name : List UInt16) (isDir : Bool) :
    Option Nat × FsState :=
  if s.outcome then
    (some s.nextMft, { s with
      nextMft := s.nextMft + 1
      calls := s.calls ++ [.create dir name isDir (some s.nextMft)]
      results := s.results.tail })
  else (none, { s with calls := s.calls ++ [.create dir name isDir none], results := s.results.tail })

/-- `inode->i_mft_no = mft`. -/
def FsState.setMftNo (s : FsState) (inode mft : Nat) : FsState :=
  { s with mftNo := Function.update s.mftNo inode mft }

/-! ## Metadata and empty streams -/

/-- `report_file_created(&ctx->common)`. -/
def reportFileCreated (s : FsState) : Option WimlibErr × FsState :=
  let r := s.call .reportFileCreated
  (if r.1 then none else some .abortedByProgress, r.2)

/-- `ntfs_3g_set_metadata(ni, inode, ctx)`: the attributes unless
`WIMLIB_EXTRACT_FLAG_NO_ATTRIBUTES`, the security descriptor when there is one unless
`WIMLIB_EXTRACT_FLAG_NO_ACLS`, then the timestamps. -/
def ntfs3gSetMetadata (env : FsEnv) (ni inode : Nat) (s : FsState) : Option WimlibErr × FsState :=
  let r := if env.noAttributes then (true, s) else s.call (.setAttrib ni)
  if !r.1 then (some .setAttributes, r.2) else
  let r := if (env.inodes inode).hasSecurityId && !env.noAcls then r.2.call (.setAcl ni) else (true, r.2)
  if !r.1 then (some .setSecurity, r.2) else
  let r := r.2.call (.setTimes ni)
  if !r.1 then (some .setTimestamps, r.2) else (none, r.2)

/-- `ntfs_3g_create_empty_named_data_streams(ni, inode, ctx)`: `ntfs_attr_add` of an empty
`AT_DATA` attribute for each named data stream without a blob. -/
def ntfs3gCreateEmptyNamedDataStreams (ni : Nat) :
    List (List UInt16) → FsState → Option WimlibErr × FsState
  | [], s => (none, s)
  | name :: names, s =>
    let r := s.call (.attrAdd ni name)
    if r.1 then ntfs3gCreateEmptyNamedDataStreams ni names r.2 else (some .ntfs3g, r.2)

/-! ## `ntfs_3g_create_directories` -/

/-- From an `ntfs_inode_close(ni)` on: its failure turns a 0 into `WIMLIB_ERR_NTFS_3G`. -/
def closeNi (ni : Nat) (ret : Option WimlibErr) (s : FsState) : Option WimlibErr × FsState :=
  let r := s.call (.inodeClose ni)
  (if !r.1 && ret.isNone then some .ntfs3g else ret, r.2)

/-- What `ntfs_3g_create_dirs_recursive` does for a directory it created as `ni` before its
subdirectories: report it, set its metadata and create its empty named data streams, each only
if all before returned 0. -/
def createdDir (env : FsEnv) (ni inode : Nat) (s : FsState) : Option WimlibErr × FsState :=
  let r := reportFileCreated s
  let r := if r.1.isNone then ntfs3gSetMetadata env ni inode r.2 else r
  if r.1.isNone then ntfs3gCreateEmptyNamedDataStreams ni (env.inodes inode).emptyStreams r.2 else r

mutual

/-- `ntfs_3g_create_dirs_recursive(dir_ni, dir, ctx)`: each child that is a directory to
extract is created in `dir_ni`, up to the first error. -/
def ntfs3gCreateDirsRecursive (env : FsEnv) (dirNi : Nat) :
    ExtractionTree → FsState → Option WimlibErr × FsState
  | .node _ _ children, s => createChildDirs env dirNi children s
termination_by structural dir => dir

/-- The loop of `ntfs_3g_create_dirs_recursive` over the children: a directory created as `ni`
gets what `createdDir` does and its own subdirectories, then `ntfs_inode_close_in_dir`. -/
def createChildDirs (env : FsEnv) (dirNi : Nat) :
    List ExtractionTree → FsState → Option WimlibErr × FsState
  | [], s => (none, s)
  | c :: rest, s =>
    if !(env.inodes c.dentry.inode).isDir || !c.willExtract then createChildDirs env dirNi rest s
    else
      let r := s.create dirNi c.dentry.name true
      match r.1 with
      | none => (some .ntfs3g, r.2)
      | some ni =>
        let r := createdDir env ni c.dentry.inode (r.2.setMftNo c.dentry.inode ni)
        let r := if r.1.isNone then ntfs3gCreateDirsRecursive env ni c r.2 else r
        let r := closeNi ni r.1 r.2
        if r.1.isSome then r else createChildDirs env dirNi rest r.2
termination_by structural children => children

end

/-- `ntfs_3g_restore_timestamps(vol, inode)`. -/
def ntfs3gRestoreTimestamps (inode : Nat) (s : FsState) : Option WimlibErr × FsState :=
  let m := s.mftNo inode
  let r := s.call (.inodeOpen m)
  if !r.1 then (some .setTimestamps, r.2) else
  let res := r.2.call (.setTimes m)
  let r := res.2.call (.inodeClose m)
  if !r.1 || !res.1 then (some .setTimestamps, r.2) else (none, r.2)

/-- `ni` when it is not `NULL`, else `ntfs_inode_open(vol, mft)`. -/
def openIfNull (ni : Option Nat) (mft : Nat) (s : FsState) : Option Nat × FsState :=
  match ni with
  | some n => (some n, s)
  | none => let r := s.call (.inodeOpen mft); (if r.1 then some mft else none, r.2)

/-- `if (ni) ntfs_inode_close(ni);` -/
def closeIfOpen (ni : Option Nat) (s : FsState) : FsState :=
  match ni with
  | some n => (s.call (.inodeClose n)).2
  | none => s

/-- `ntfs_3g_restore_dos_name(ni, dir_ni, dentry, vol)`, which closes both `ni` and `dir_ni`
(`ntfs_set_ntfs_dos_name` closes both, even when it fails); each is opened when it is `NULL`.
A failed `utf16le_get_tstr` is `WIMLIB_ERR_NOMEM`. -/
def ntfs3gRestoreDosName (ni dirNi : Option Nat) (d : ExtractionDentry) (s : FsState) :
    Option WimlibErr × FsState :=
  let r := s.call .getTstr
  if !r.1 then (some .nomem, closeIfOpen dirNi (closeIfOpen ni r.2)) else
  let dir := openIfNull dirNi (r.2.mftNo d.parent) r.2
  let nr := openIfNull ni (dir.2.mftNo d.inode) dir.2
  match nr.1, dir.1 with
  | some n, some dn =>
    let r := nr.2.call (.setDosName n dn)
    if !r.1 then (some .setShortName, r.2) else ntfs3gRestoreTimestamps d.parent r.2
  | n, dn => (some .setShortName, closeIfOpen dn (closeIfOpen n nr.2))

/-- The loop of `ntfs_3g_create_directories` that sets the DOS name of each directory that has
one, then reports it. -/
def restoreDirDosNames (env : FsEnv) : List ExtractionDentry → FsState → Option WimlibErr × FsState
  | [], s => (none, s)
  | d :: ds, s =>
    if !(env.inodes d.inode).isDir || !d.hasShortName then restoreDirDosNames env ds s
    else
      let r := ntfs3gRestoreDosName none none d s
      if r.1.isSome then r else
      let r := reportFileCreated r.2
      if r.1.isSome then r else restoreDirDosNames env ds r.2

/-- `ntfs_3g_create_directories(root, dentry_list, ctx)`. -/
def ntfs3gCreateDirectories (env : FsEnv) (root : ExtractionTree)
    (dentryList : List ExtractionDentry) (s : FsState) : Option WimlibErr × FsState :=
  let r := s.call (.inodeOpen fileRoot)
  if !r.1 then (some .ntfs3g, r.2) else
  let r := ntfs3gCreateDirsRecursive env fileRoot root (r.2.setMftNo root.dentry.inode fileRoot)
  let r := closeNi fileRoot r.1 r.2
  if r.1.isSome then r else restoreDirDosNames env dentryList r.2

/-! ## `ntfs_3g_create_nondirectories` -/

/-- `ntfs_3g_first_extraction_alias(inode)` for the aliases `d :: ds`: the first that has a
short name, else the last. -/
def ntfs3gFirstExtractionAlias : ExtractionDentry → List ExtractionDentry → ExtractionDentry
  | d, [] => d
  | d, e :: es => if d.hasShortName then d else ntfs3gFirstExtractionAlias e es

/-- `ntfs_3g_add_link(ni, dentry)`: the parent directory is opened at its `i_mft_no`, the link
made, and the directory closed whatever `ntfs_link` returned. -/
def ntfs3gAddLink (ni : Nat) (d : ExtractionDentry) (s : FsState) : Option WimlibErr × FsState :=
  let dm := s.mftNo d.parent
  let r := s.call (.inodeOpen dm)
  if !r.1 then (some .ntfs3g, r.2) else
  let res := r.2.call (.link ni dm d.name)
  let r := res.2.call (.inodeClose dm)
  if !r.1 || !res.1 then (some .ntfs3g, r.2) else (none, r.2)

/-- The loop of `ntfs_3g_create_nondirectory` that adds a link at each alias but the first. -/
def addLinks (ni firstId : Nat) : List ExtractionDentry → FsState → Option WimlibErr × FsState
  | [], s => (none, s)
  | d :: ds, s =>
    if d.id = firstId then addLinks ni firstId ds s
    else
      let r := ntfs3gAddLink ni d s
      if r.1.isSome then r else addLinks ni firstId ds r.2

/-- The end of `ntfs_3g_create_nondirectory`, with `ni` open: the other links, the metadata and
the empty named data streams, each only if all before returned 0, then `out_close_ni:`. -/
def linksAndMetadata (env : FsEnv) (inode ni firstId : Nat) (s : FsState) :
    Option WimlibErr × FsState :=
  let r := addLinks ni firstId (env.inodes inode).aliases s
  let r := if r.1.isNone then ntfs3gSetMetadata env ni inode r.2 else r
  let r := if r.1.isNone then ntfs3gCreateEmptyNamedDataStreams ni (env.inodes inode).emptyStreams r.2 else r
  closeNi ni r.1 r.2

/-- `ntfs_3g_create_nondirectory(inode, ctx)` for an inode whose extraction aliases are
`a :: as`. With a short name, `ntfs_3g_restore_dos_name` closes `ni` and `dir_ni` and `ni` is
reopened at `i_mft_no`; without, `dir_ni` is closed. -/
def ntfs3gCreateNondirectory (env : FsEnv) (inode : Nat) (a : ExtractionDentry)
    (as : List ExtractionDentry) (s : FsState) : Option WimlibErr × FsState :=
  let first := ntfs3gFirstExtractionAlias a as
  let dm := s.mftNo first.parent
  let r := s.call (.inodeOpen dm)
  if !r.1 then (some .ntfs3g, r.2) else
  let c := r.2.create dm first.name false
  match c.1 with
  | none => (some .ntfs3g, (c.2.call (.inodeClose dm)).2)
  | some ni =>
    let s := c.2.setMftNo inode ni
    if first.hasShortName then
      let r := ntfs3gRestoreDosName (some ni) (some dm) first s
      if r.1.isSome then r else
      let o := r.2.call (.inodeOpen (r.2.mftNo inode))
      if !o.1 then (some .ntfs3g, o.2) else linksAndMetadata env inode (r.2.mftNo inode) first.id o.2
    else
      let r := s.call (.inodeClose dm)
      if !r.1 then closeNi ni (some .ntfs3g) r.2 else linksAndMetadata env inode ni first.id r.2

/-- `if (dentry == inode_first_extraction_dentry(inode)) ntfs_3g_create_nondirectory(inode, ctx)`:
the inode is created at its first extraction dentry, the head of its aliases. -/
def createAtFirstExtractionDentry (env : FsEnv) (d : ExtractionDentry) (s : FsState) :
    Option WimlibErr × FsState :=
  match (env.inodes d.inode).aliases with
  | a :: as => if d.id = a.id then ntfs3gCreateNondirectory env d.inode a as s else (none, s)
  | [] => (none, s)

/-- `ntfs_3g_create_nondirectories(dentry_list, ctx)`: each nondirectory inode is created once,
and every nondirectory dentry is reported. -/
def ntfs3gCreateNondirectories (env : FsEnv) :
    List ExtractionDentry → FsState → Option WimlibErr × FsState
  | [], s => (none, s)
  | d :: ds, s =>
    if (env.inodes d.inode).isDir then ntfs3gCreateNondirectories env ds s
    else
      let r := createAtFirstExtractionDentry env d s
      if r.1.isSome then r else
      let r := reportFileCreated r.2
      if r.1.isSome then r else ntfs3gCreateNondirectories env ds r.2

/-- The file-structure phase of `ntfs_3g_extract`: the directories, then the nondirectories,
for the tree whose root is the first dentry of `dentry_list`. -/
def ntfs3gCreateFileStructure (env : FsEnv) (root : ExtractionTree)
    (dentryList : List ExtractionDentry) (s : FsState) : Option WimlibErr × FsState :=
  let r := ntfs3gCreateDirectories env root dentryList s
  if r.1.isSome then r else ntfs3gCreateNondirectories env dentryList r.2

/-! ## What the calls open and close -/

/-- One for a handle of the MFT record `m`, none for another or for `NULL`. -/
def handle (h : Option Nat) : Nat → Int := fun m => if h = some m then 1 else 0

/-- Handles of `m` the call opens: a successful `ntfs_inode_open`, and `ntfs_create`. -/
def FsCall.opens (m : Nat) : FsCall → Int
  | .inodeOpen m' true => handle (some m') m
  | .create _ _ _ h => handle h m
  | _ => 0

/-- Handles of `m` the call closes: `ntfs_inode_close`, and `ntfs_set_ntfs_dos_name`, which
closes both its inodes. -/
def FsCall.closes (m : Nat) : FsCall → Int
  | .inodeClose m' _ => handle (some m') m
  | .setDosName n d _ => handle (some n) m + handle (some d) m
  | _ => 0

/-- Handles of `m` the calls close, less those they open. -/
def netCloses (m : Nat) (cs : List FsCall) : Int := (cs.map fun c => c.closes m - c.opens m).sum

@[simp] theorem handle_none : handle none = 0 := rfl

@[simp] theorem FsState.call_fst (s : FsState) (c : Bool → FsCall) : (s.call c).1 = s.outcome :=
  rfl

@[simp] theorem FsState.call_mftNo (s : FsState) (c : Bool → FsCall) : (s.call c).2.mftNo = s.mftNo :=
  rfl

@[simp] theorem FsState.setMftNo_mftNo (s : FsState) (inode mft : Nat) :
    (s.setMftNo inode mft).mftNo = Function.update s.mftNo inode mft := rfl

@[simp] theorem netCloses_append (m : Nat) (cs cs' : List FsCall) :
    netCloses m (cs ++ cs') = netCloses m cs + netCloses m cs' := by
  simp [netCloses]

theorem netCloses_eq_sub (m : Nat) (cs : List FsCall) :
    netCloses m cs = (cs.map (·.closes m)).sum - (cs.map (·.opens m)).sum := by
  induction cs with
  | nil => rfl
  | cons c cs ih =>
    simp only [netCloses, List.map_cons, List.sum_cons] at ih ⊢
    rw [ih]
    ring

/-- From `s` to `s'`: the calls close `k m` handles of each MFT record `m` more than they open
(so `k = 0` says they close exactly what they open), they add named data streams only to
inodes from the MFT record `lo` on, and MFT records are allocated upwards. -/
structure FsRun (k : Nat → Int) (lo : Nat) (s s' : FsState) : Prop where
  calls : ∃ cs, s'.calls = s.calls ++ cs ∧ (∀ m, netCloses m cs = k m) ∧
    ∀ m name ok, FsCall.attrAdd m name ok ∈ cs → lo ≤ m
  nextMft : s.nextMft ≤ s'.nextMft

section Runs

variable {k k' : Nat → Int} {lo : Nat} {s s₁ s₂ : FsState}

theorem FsRun.refl (lo : Nat) (s : FsState) : FsRun 0 lo s s :=
  ⟨⟨[], by simp, fun _ => rfl, by simp⟩, le_rfl⟩

theorem FsRun.trans (h : FsRun k lo s s₁) (h' : FsRun k' lo s₁ s₂) : FsRun (k + k') lo s s₂ := by
  obtain ⟨cs, hc, hk, ha⟩ := h.calls
  obtain ⟨cs', hc', hk', ha'⟩ := h'.calls
  exact ⟨⟨cs ++ cs', by rw [hc', hc, List.append_assoc], fun m => by simp [hk, hk'],
    fun m name ok hm => (List.mem_append.mp hm).elim (ha m name ok) (ha' m name ok)⟩,
    h.nextMft.trans h'.nextMft⟩

theorem FsRun.congr (h : FsRun k lo s s₁) (hk : k = k') : FsRun k' lo s s₁ := hk ▸ h

/-- A call: what it opens and closes, and a stream it adds above `lo`. -/
theorem FsRun.call (s : FsState) (c : Bool → FsCall)
    (hadd : ∀ m name ok, c s.outcome = .attrAdd m name ok → lo ≤ m) :
    FsRun (fun m => (c s.outcome).closes m - (c s.outcome).opens m) lo s (s.call c).2 :=
  ⟨⟨[c s.outcome], rfl, fun m => by simp [netCloses],
    fun m name ok h => hadd m name ok (List.mem_singleton.mp h).symm⟩, le_rfl⟩

/-- A call that opens, closes and adds nothing. -/
theorem FsRun.quiet (s : FsState) (c : Bool → FsCall) (hq : ∀ m, (c s.outcome).closes m = 0)
    (hq' : ∀ m, (c s.outcome).opens m = 0) (hadd : ∀ m name ok, c s.outcome ≠ .attrAdd m name ok) :
    FsRun 0 lo s (s.call c).2 :=
  (FsRun.call s c fun m name ok h => absurd h (hadd m name ok)).congr (funext fun m => by simp [hq, hq'])

/-- A run, then one more call that opens, closes and adds nothing. -/
theorem FsRun.snoc (h : FsRun k lo s s₁) (c : Bool → FsCall)
    (hq : ∀ m, (c s₁.outcome).closes m = 0 ∧ (c s₁.outcome).opens m = 0 ∧
      ∀ name ok, c s₁.outcome ≠ .attrAdd m name ok) : FsRun k lo s (s₁.call c).2 :=
  (h.trans (FsRun.quiet s₁ c (fun m => (hq m).1) (fun m => (hq m).2.1) fun m => (hq m).2.2)).congr
    (add_zero k)

theorem FsRun.trans0 (h : FsRun 0 lo s s₁) (h' : FsRun k lo s₁ s₂) : FsRun k lo s s₂ :=
  (h.trans h').congr (zero_add k)

theorem FsRun.inodeOpen (s : FsState) (m : Nat) :
    FsRun (-handle (if s.outcome then some m else none)) lo s (s.call (.inodeOpen m)).2 :=
  (FsRun.call s _ fun _ _ _ h => FsCall.noConfusion h).congr <| funext fun m' => by
    cases s.outcome <;> simp [FsCall.opens, FsCall.closes, handle]

theorem FsRun.inodeClose (s : FsState) (m : Nat) : FsRun (handle (some m)) lo s (s.call (.inodeClose m)).2 :=
  (FsRun.call s _ fun _ _ _ h => FsCall.noConfusion h).congr <| funext fun m' => by
    simp [FsCall.opens, FsCall.closes]

theorem FsRun.setDosName (s : FsState) (n d : Nat) :
    FsRun (handle (some n) + handle (some d)) lo s (s.call (.setDosName n d)).2 :=
  (FsRun.call s _ fun _ _ _ h => FsCall.noConfusion h).congr <| funext fun m' => by
    simp [FsCall.opens, FsCall.closes]

theorem FsRun.setMftNo (s : FsState) (inode mft : Nat) : FsRun 0 lo s (s.setMftNo inode mft) :=
  ⟨⟨[], by simp [FsState.setMftNo], fun _ => rfl, by simp⟩, le_rfl⟩

/-- `ntfs_create` opens the record it allocates, the next one. -/
theorem FsRun.create (s : FsState) (dir : Nat) (name : List UInt16) (isDir : Bool) :
    FsRun (-handle (s.create dir name isDir).1) lo s (s.create dir name isDir).2 := by
  unfold FsState.create
  split_ifs
  · exact ⟨⟨[.create dir name isDir (some s.nextMft)], rfl, fun m => by
      simp [netCloses, FsCall.opens, FsCall.closes], by simp⟩, Nat.le_succ _⟩
  · exact ⟨⟨[.create dir name isDir none], rfl, fun m => by
      simp [netCloses, FsCall.opens, FsCall.closes, handle], by simp⟩, le_rfl⟩

theorem FsState.create_fst {s : FsState} {dir : Nat} {name : List UInt16} {isDir : Bool} {ni : Nat}
    (h : (s.create dir name isDir).1 = some ni) : ni = s.nextMft := by
  unfold FsState.create at h
  split_ifs at h
  exact (Option.some.inj h).symm

@[simp] theorem FsState.create_mftNo (s : FsState) (dir : Nat) (name : List UInt16) (isDir : Bool) :
    (s.create dir name isDir).2.mftNo = s.mftNo := by
  unfold FsState.create
  split_ifs <;> rfl

theorem FsRun.ite {p : Prop} [Decidable p] {α : Type} {x y : α × FsState} (hx : p → FsRun k lo s x.2)
    (hy : ¬p → FsRun k lo s y.2) : FsRun k lo s (if p then x else y).2 := by
  split_ifs with h
  exacts [hx h, hy h]

/-- `if (!ret) ret = f(...)`: a run to `r`, then `f` when `r` returned 0. -/
theorem FsRun.ifOk {r y : Option WimlibErr × FsState} (h : FsRun k lo s r.2)
    (hy : r.1 = none → FsRun 0 lo r.2 y.2) : FsRun k lo s (if r.1.isNone then y else r).2 := by
  split_ifs with hr
  exacts [(h.trans (hy (Option.isNone_iff_eq_none.mp hr))).congr (add_zero k), h]

/-- `if (ret) return ret;` after a run to `r`, then `f`. -/
theorem FsRun.orElse {r y : Option WimlibErr × FsState} (h : FsRun k lo s r.2)
    (hy : r.1 = none → FsRun 0 lo r.2 y.2) : FsRun k lo s (if r.1.isSome then r else y).2 := by
  split_ifs with hr
  exacts [h, (h.trans (hy (Option.not_isSome_iff_eq_none.mp hr))).congr (add_zero k)]

end Runs

/-! ## Each function closes what it opens -/

section Functions

variable {lo : Nat}

theorem reportFileCreated_run (s : FsState) : FsRun 0 lo s (reportFileCreated s).2 :=
  (FsRun.refl lo s).snoc _ fun _ => ⟨rfl, rfl, fun _ _ => FsCall.noConfusion⟩

theorem ntfs3gSetMetadata_run (env : FsEnv) (ni inode : Nat) (s : FsState) :
    FsRun 0 lo s (ntfs3gSetMetadata env ni inode s).2 := by
  unfold ntfs3gSetMetadata
  dsimp only
  split_ifs <;> repeat' apply FsRun.snoc
  all_goals first
    | exact FsRun.refl lo s
    | exact fun _ => ⟨rfl, rfl, fun _ _ => FsCall.noConfusion⟩

theorem ntfs3gCreateEmptyNamedDataStreams_run {ni : Nat} (hlo : lo ≤ ni) :
    ∀ (names : List (List UInt16)) (s : FsState),
      FsRun 0 lo s (ntfs3gCreateEmptyNamedDataStreams ni names s).2
  | [], s => FsRun.refl lo s
  | name :: names, s => by
    have h : FsRun 0 lo s (s.call (.attrAdd ni name)).2 :=
      (FsRun.call s _ fun _ _ _ h => by cases h; exact hlo).congr
        (funext fun _ => by simp [FsCall.closes, FsCall.opens])
    exact FsRun.ite (fun _ => h.trans0 (ntfs3gCreateEmptyNamedDataStreams_run hlo names _)) fun _ => h

theorem createdDir_run (env : FsEnv) {ni : Nat} (hlo : lo ≤ ni) (inode : Nat) (s : FsState) :
    FsRun 0 lo s (createdDir env ni inode s).2 := by
  unfold createdDir
  dsimp only
  exact ((reportFileCreated_run s).ifOk fun _ => ntfs3gSetMetadata_run env ni inode _).ifOk
    fun _ => ntfs3gCreateEmptyNamedDataStreams_run hlo _ _

mutual

theorem ntfs3gCreateDirsRecursive_run (env : FsEnv) (dirNi : Nat) :
    ∀ (dir : ExtractionTree) (s : FsState), lo ≤ s.nextMft →
      FsRun 0 lo s (ntfs3gCreateDirsRecursive env dirNi dir s).2
  | .node _ _ children, s, h => createChildDirs_run env dirNi children s h
termination_by structural dir => dir

theorem createChildDirs_run (env : FsEnv) (dirNi : Nat) :
    ∀ (children : List ExtractionTree) (s : FsState), lo ≤ s.nextMft →
      FsRun 0 lo s (createChildDirs env dirNi children s).2
  | [], s, _ => FsRun.refl lo s
  | c :: rest, s, h => by
    rw [createChildDirs]
    dsimp only
    split_ifs
    · exact createChildDirs_run env dirNi rest s h
    have hc : FsRun _ lo _ _ := FsRun.create s dirNi c.dentry.name true
    split
    · next hnone => exact hc.congr (by rw [hnone]; simp)
    next ni hni =>
    have h1 := (hc.trans (FsRun.setMftNo _ c.dentry.inode ni)).congr (add_zero _)
    have h2 := h1.trans (createdDir_run env (h.trans_eq (FsState.create_fst hni).symm) c.dentry.inode _)
    have h3 := h2.ifOk fun _ => ntfs3gCreateDirsRecursive_run env ni c _ (h.trans h2.nextMft)
    have h4 : FsRun 0 lo s _ := (h3.trans (FsRun.inodeClose _ ni)).congr (by simp [hni])
    exact h4.orElse fun _ => createChildDirs_run env dirNi rest _ (h.trans h4.nextMft)
termination_by structural children => children

end

/-- Open, set, close: the inode `ntfs_3g_restore_timestamps` opens it closes, whatever the
calls return. -/
theorem ntfs3gRestoreTimestamps_run (inode : Nat) (s : FsState) :
    FsRun 0 lo s (ntfs3gRestoreTimestamps inode s).2 := by
  unfold ntfs3gRestoreTimestamps
  dsimp only
  have ho : FsRun _ lo _ _ := FsRun.inodeOpen s (s.mftNo inode)
  split_ifs with hs <;> simp only [FsState.call_fst, Bool.not_eq_true', Bool.not_eq_false',
    Bool.not_eq_true] at hs
  · exact ho.congr (by simp [hs])
  all_goals exact ((ho.snoc (.setTimes (s.mftNo inode)) fun _ => ⟨rfl, rfl, fun _ _ => FsCall.noConfusion⟩).trans
    (FsRun.inodeClose _ _)).congr (by simp [hs])

theorem openIfNull_run (ni : Option Nat) (mft : Nat) (s : FsState) :
    FsRun (handle ni - handle (openIfNull ni mft s).1) lo s (openIfNull ni mft s).2 := by
  cases ni with
  | some n => exact (FsRun.refl lo s).congr (by simp [openIfNull])
  | none => exact (FsRun.inodeOpen s mft).congr (by simp [openIfNull])

theorem closeIfOpen_run (ni : Option Nat) (s : FsState) :
    FsRun (handle ni) lo s (closeIfOpen ni s) := by
  cases ni with
  | some n => exact FsRun.inodeClose s n
  | none => exact FsRun.refl lo s

@[simp] theorem openIfNull_mftNo (ni : Option Nat) (mft : Nat) (s : FsState) :
    (openIfNull ni mft s).2.mftNo = s.mftNo := by
  cases ni <;> rfl

@[simp] theorem closeIfOpen_mftNo (ni : Option Nat) (s : FsState) :
    (closeIfOpen ni s).mftNo = s.mftNo := by
  cases ni <;> rfl

/-- `ntfs_3g_restore_dos_name` closes `ni` and `dir_ni` whether they were passed open or it
opened them, on every path. -/
theorem ntfs3gRestoreDosName_run (ni dirNi : Option Nat) (d : ExtractionDentry) (s : FsState) :
    FsRun (handle ni + handle dirNi) lo s (ntfs3gRestoreDosName ni dirNi d s).2 := by
  unfold ntfs3gRestoreDosName
  dsimp only
  have hq := (FsRun.refl lo s).snoc .getTstr fun _ => ⟨rfl, rfl, fun _ _ => FsCall.noConfusion⟩
  split_ifs
  · exact hq.trans0 ((closeIfOpen_run ni _).trans (closeIfOpen_run dirNi _))
  set r := s.call .getTstr
  set dir := openIfNull dirNi (r.2.mftNo d.parent) r.2
  have hnr := (hq.trans0 (openIfNull_run dirNi (r.2.mftNo d.parent) r.2)).trans
    (openIfNull_run ni (dir.2.mftNo d.inode) dir.2)
  split
  · next n dn hn hdn =>
    have hset := hnr.trans (FsRun.setDosName _ n dn)
    refine FsRun.ite (fun _ => hset.congr ?_)
      fun _ => (hset.trans (ntfs3gRestoreTimestamps_run _ _)).congr ?_ <;>
      (rw [hn, hdn]; abel)
  · exact (hnr.trans ((closeIfOpen_run _ _).trans (closeIfOpen_run _ _))).congr (by abel)

@[simp] theorem ntfs3gRestoreTimestamps_mftNo (inode : Nat) (s : FsState) :
    (ntfs3gRestoreTimestamps inode s).2.mftNo = s.mftNo := by
  unfold ntfs3gRestoreTimestamps
  dsimp only
  split_ifs <;> rfl

@[simp] theorem ntfs3gRestoreDosName_mftNo (ni dirNi : Option Nat) (d : ExtractionDentry)
    (s : FsState) : (ntfs3gRestoreDosName ni dirNi d s).2.mftNo = s.mftNo := by
  unfold ntfs3gRestoreDosName
  dsimp only
  split_ifs
  · simp
  split <;> [split_ifs; skip] <;> simp

theorem restoreDirDosNames_run (env : FsEnv) :
    ∀ (ds : List ExtractionDentry) (s : FsState), FsRun 0 lo s (restoreDirDosNames env ds s).2
  | [], s => FsRun.refl lo s
  | d :: ds, s => by
    rw [restoreDirDosNames]
    dsimp only
    refine FsRun.ite (fun _ => restoreDirDosNames_run env ds s) fun _ => ?_
    have hdos : FsRun 0 lo s _ := (ntfs3gRestoreDosName_run none none d s).congr (by simp)
    exact hdos.orElse fun _ => (reportFileCreated_run _).orElse fun _ => restoreDirDosNames_run env ds _

/-- The directory phase opens `FILE_root` and closes it, and whatever else it opens. -/
theorem ntfs3gCreateDirectories_run (env : FsEnv) (root : ExtractionTree)
    (dentryList : List ExtractionDentry) (s : FsState) (h : lo ≤ s.nextMft) :
    FsRun 0 lo s (ntfs3gCreateDirectories env root dentryList s).2 := by
  unfold ntfs3gCreateDirectories
  dsimp only
  have ho : FsRun _ lo _ _ := FsRun.inodeOpen s fileRoot
  refine FsRun.ite (fun hs => ho.congr (by simp_all)) fun hs => ?_
  simp only [FsState.call_fst, Bool.not_eq_true', Bool.not_eq_false', Bool.not_eq_true] at hs
  have hdirs := (ho.trans (FsRun.setMftNo _ root.dentry.inode fileRoot)).trans
    (ntfs3gCreateDirsRecursive_run env fileRoot root _ (h.trans ho.nextMft))
  have hclose : FsRun 0 lo s _ := (hdirs.trans (FsRun.inodeClose _ fileRoot)).congr (by simp [hs])
  exact hclose.orElse fun _ => restoreDirDosNames_run env dentryList _

theorem ntfs3gAddLink_run (ni : Nat) (d : ExtractionDentry) (s : FsState) :
    FsRun 0 lo s (ntfs3gAddLink ni d s).2 := by
  unfold ntfs3gAddLink
  dsimp only
  have ho : FsRun _ lo _ _ := FsRun.inodeOpen s (s.mftNo d.parent)
  refine FsRun.ite (fun hs => ho.congr (by simp_all)) fun hs => ?_
  simp only [FsState.call_fst, Bool.not_eq_true', Bool.not_eq_false', Bool.not_eq_true] at hs
  refine FsRun.ite (fun _ => ?_) fun _ => ?_ <;>
    exact ((ho.snoc (.link ni (s.mftNo d.parent) d.name) fun _ =>
      ⟨rfl, rfl, fun _ _ => FsCall.noConfusion⟩).trans (FsRun.inodeClose _ _)).congr (by simp [hs])

theorem addLinks_run (ni firstId : Nat) :
    ∀ (ds : List ExtractionDentry) (s : FsState), FsRun 0 lo s (addLinks ni firstId ds s).2
  | [], s => FsRun.refl lo s
  | d :: ds, s => by
    rw [addLinks]
    exact FsRun.ite (fun _ => addLinks_run ni firstId ds s)
      fun _ => (ntfs3gAddLink_run ni d s).orElse fun _ => addLinks_run ni firstId ds _

/-- The end of `ntfs_3g_create_nondirectory` closes `ni`, and only `ni`. -/
theorem linksAndMetadata_run (env : FsEnv) (inode : Nat) {ni : Nat} (hlo : lo ≤ ni) (firstId : Nat)
    (s : FsState) : FsRun (handle (some ni)) lo s (linksAndMetadata env inode ni firstId s).2 := by
  unfold linksAndMetadata
  dsimp only
  exact (((addLinks_run ni firstId _ s).ifOk fun _ => ntfs3gSetMetadata_run env ni inode _).ifOk
    fun _ => ntfs3gCreateEmptyNamedDataStreams_run hlo _ _).trans0 (FsRun.inodeClose _ ni)

/-- `ntfs_3g_create_nondirectory` closes the parent directory and the new inode on every path,
and reopens the inode only after `ntfs_3g_restore_dos_name` closed it. -/
theorem ntfs3gCreateNondirectory_run (env : FsEnv) (inode : Nat) (a : ExtractionDentry)
    (as : List ExtractionDentry) (s : FsState) (h : lo ≤ s.nextMft) :
    FsRun 0 lo s (ntfs3gCreateNondirectory env inode a as s).2 := by
  unfold ntfs3gCreateNondirectory
  dsimp only
  set first := ntfs3gFirstExtractionAlias a as
  have ho : FsRun _ lo _ _ := FsRun.inodeOpen s (s.mftNo first.parent)
  refine FsRun.ite (fun hs => ho.congr (by simp_all)) fun hs => ?_
  simp only [FsState.call_fst, Bool.not_eq_true', Bool.not_eq_false', Bool.not_eq_true] at hs
  have hc := ho.trans (FsRun.create _ (s.mftNo first.parent) first.name false)
  split
  · next hnone => exact (hc.trans (FsRun.inodeClose _ _)).congr (by simp [hs, hnone])
  next ni hni =>
  have hni' : ni = (s.call (.inodeOpen (s.mftNo first.parent))).2.nextMft := FsState.create_fst hni
  have h1 := (hc.trans (FsRun.setMftNo _ inode ni)).congr (add_zero _)
  refine FsRun.ite (fun _ => ?_) fun _ => ?_
  · have hr : FsRun 0 lo s _ := (h1.trans (ntfs3gRestoreDosName_run (some ni) _ first _)).congr
      (by simp only [hs, hni, ↓reduceIte]; abel)
    refine hr.orElse fun _ => ?_
    refine FsRun.ite (fun hs2 => (FsRun.inodeOpen _ _).congr ?_)
      fun hs2 => ((FsRun.inodeOpen _ _).trans (linksAndMetadata_run env inode ?_ first.id _)).congr ?_
    · simp_all
    · simpa using h.trans_eq hni'.symm
    · simp only [FsState.call_fst, Bool.not_eq_true', Bool.not_eq_false', Bool.not_eq_true] at hs2
      simp [hs2]
  · have hcl := h1.trans (FsRun.inodeClose _ (s.mftNo first.parent))
    refine FsRun.ite (fun _ => (hcl.trans (FsRun.inodeClose _ ni)).congr ?_)
      fun _ => (hcl.trans (linksAndMetadata_run env inode (h.trans_eq hni'.symm) first.id _)).congr ?_ <;>
      (simp only [hs, hni, ↓reduceIte]; abel)

theorem createAtFirstExtractionDentry_run (env : FsEnv) (d : ExtractionDentry) (s : FsState)
    (h : lo ≤ s.nextMft) : FsRun 0 lo s (createAtFirstExtractionDentry env d s).2 := by
  unfold createAtFirstExtractionDentry
  split
  · exact FsRun.ite (fun _ => ntfs3gCreateNondirectory_run env d.inode _ _ s h) fun _ => FsRun.refl lo s
  · exact FsRun.refl lo s

theorem ntfs3gCreateNondirectories_run (env : FsEnv) :
    ∀ (ds : List ExtractionDentry) (s : FsState), lo ≤ s.nextMft →
      FsRun 0 lo s (ntfs3gCreateNondirectories env ds s).2
  | [], s, _ => FsRun.refl lo s
  | d :: ds, s, h => by
    rw [ntfs3gCreateNondirectories]
    dsimp only
    refine FsRun.ite (fun _ => ntfs3gCreateNondirectories_run env ds s h) fun _ => ?_
    have hc := createAtFirstExtractionDentry_run env d s h
    exact hc.orElse fun _ => (reportFileCreated_run _).orElse fun _ =>
      ntfs3gCreateNondirectories_run env ds _ (h.trans (hc.trans (reportFileCreated_run _)).nextMft)

/-- The whole file-structure phase closes every handle it opens, and adds named data streams
only to inodes it created. -/
theorem ntfs3gCreateFileStructure_run (env : FsEnv) (root : ExtractionTree)
    (dentryList : List ExtractionDentry) (s : FsState) :
    FsRun 0 s.nextMft s (ntfs3gCreateFileStructure env root dentryList s).2 := by
  have hd := ntfs3gCreateDirectories_run env root dentryList s le_rfl
  exact hd.orElse fun _ => ntfs3gCreateNondirectories_run env dentryList _ hd.nextMft

end Functions

/-! ## The file-structure phase -/

/-- Every NTFS inode the file-structure phase opens, by `ntfs_inode_open` or `ntfs_create`, it
closes exactly once: for each MFT record, as many closes as opens, on every path, whatever
libntfs-3g returns. -/
theorem ntfs3gCreateFileStructure_closesWhatItOpens (env : FsEnv) (root : ExtractionTree)
    (dentryList : List ExtractionDentry) (s : FsState) :
    ∃ cs, (ntfs3gCreateFileStructure env root dentryList s).2.calls = s.calls ++ cs ∧
      ∀ m, (cs.map (·.closes m)).sum = (cs.map (·.opens m)).sum := by
  obtain ⟨cs, hcs, hk, -⟩ := (ntfs3gCreateFileStructure_run env root dentryList s).calls
  refine ⟨cs, hcs, fun m => ?_⟩
  exact sub_eq_zero.mp ((netCloses_eq_sub m cs).symm.trans (hk m))

/-- The file-structure phase never adds a named data stream to the root directory: it opens
`FILE_root` but never calls `ntfs_3g_create_empty_named_data_streams` (nor
`ntfs_3g_set_metadata`) on it, and every other inode it adds streams to it created. -/
theorem ntfs3gCreateFileStructure_rootStreams (env : FsEnv) (root : ExtractionTree)
    (dentryList : List ExtractionDentry) (s : FsState) (h : fileRoot < s.nextMft) :
    ∃ cs, (ntfs3gCreateFileStructure env root dentryList s).2.calls = s.calls ++ cs ∧
      ∀ name ok, FsCall.attrAdd fileRoot name ok ∉ cs := by
  obtain ⟨cs, hcs, -, hadd⟩ := (ntfs3gCreateFileStructure_run env root dentryList s).calls
  exact ⟨cs, hcs, fun name ok hm => absurd (hadd _ name ok hm) (Nat.not_le.mpr h)⟩

/-- A root directory with the blob-less named data stream `s`: the phase returns 0, and the
stream is never created. -/
theorem ntfs3gCreateFileStructure_rootStreams_namedRoot :
    (ntfs3gCreateFileStructure ⟨fun _ => ⟨true, [⟨0, 0, 0, [], false⟩], [[115]], false⟩, false, false⟩
      (.node ⟨0, 0, 0, [], false⟩ true []) [⟨0, 0, 0, [], false⟩] ⟨fun _ => 0, 16, [], []⟩).1 = none ∧
    ∃ cs, (ntfs3gCreateFileStructure ⟨fun _ => ⟨true, [⟨0, 0, 0, [], false⟩], [[115]], false⟩, false, false⟩
      (.node ⟨0, 0, 0, [], false⟩ true []) [⟨0, 0, 0, [], false⟩] ⟨fun _ => 0, 16, [], []⟩).2.calls =
        [] ++ cs ∧ ∀ name ok, FsCall.attrAdd fileRoot name ok ∉ cs :=
  ⟨by decide, ntfs3gCreateFileStructure_rootStreams _ _ _ ⟨fun _ => 0, 16, [], []⟩ (by decide)⟩

end WimLean
