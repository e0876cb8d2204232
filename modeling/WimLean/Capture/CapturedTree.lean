import WimLean.Capture.NtfsDirectory

/-!
# WimLean — the tree a successful NTFS capture returns

`build_dentry_tree_ntfs` turns the directory tree of an NTFS volume into a tree of WIM dentries.
This module says which tree, for every volume. When the capture returns 0 (with `ntfs_readdir`
passing on a nonzero return of its callback), the dentries are the entries of the volume in
`ntfs_readdir` order, each named by the last component of its path, less

* the paths the capture configuration excludes,
* the DOS-only names, which only record a short name,
* `.` and `..`,
* and the inodes `ntfs_inode_open` cannot open;

and every dentry with a Win32 name has as `short_name` the DOS name that its directory lists for
its inode.

`CapturedTree` is a dentry without its security ID; `NtfsInode.capturedTree` is the tree just
described, written from what the capture is for rather than from its code. The proof follows the
three functions of the capture, one lemma each: the callback (`wimNtfsCaptureFilldir_tree`), the
directory loop (`ntfsReaddir_tree`), and the capture of one inode
(`buildDentryTreeNtfsRecursive_tree`). The loop also builds the directory's `dos_name_map`, and
its lemma says which DOS names the map holds after it (`dosNameOf`).
-/

namespace WimLean

/-! ## Trees of dentries -/

/-- A captured dentry without its security ID: its name, whether it is a Win32 name, `i_ino`,
its `short_name`, and its children. -/
inductive CapturedTree where
  | node (name : List UInt8) (isWin32Name : Bool) (ino : Nat) (shortName : Option (List UInt16))
      (children : List CapturedTree)
  deriving Repr

mutual

/-- A dentry's tree, its security IDs left out. -/
def WimDentry.tree : WimDentry → CapturedTree
  | .mk name isWin32Name ino shortName _ children =>
    .node name isWin32Name ino shortName (WimDentry.trees children)

/-- `WimDentry.tree` of each dentry of a list. -/
def WimDentry.trees : List WimDentry → List CapturedTree
  | [] => []
  | d :: ds => d.tree :: WimDentry.trees ds

end

theorem WimDentry.trees_eq_map : ∀ ds : List WimDentry, WimDentry.trees ds = ds.map WimDentry.tree
  | [] => rfl
  | d :: ds => by rw [WimDentry.trees, trees_eq_map ds, List.map_cons]

/-! ## Short names -/

/-- The DOS name that a directory lists for the inode `ino`: the name of its first entry with
`FILE_NAME_DOS` for that inode. -/
def dosNameIn : List NtfsDirEntry → Nat → Option (List UInt16)
  | [], _ => none
  | .mk name nameType ino' _ _ :: es, ino =>
    if nameType &&& fileNameDos ≠ 0 ∧ ino' = ino then some name else dosNameIn es ino

/-- The DOS name `lookup_dos_name` finds in a map for the inode `ino`. -/
def dosNameOf (map : DosNameMap) (ino : Nat) : Option (List UInt16) :=
  (lookupDosName map ino).map (·.dosName)

/-- The `short_name` of a dentry with the name type `nameType` and the inode `ino`, from the DOS
names `dos` of its directory: its inode's, when the name is a Win32 name. -/
def shortNameFrom (dos : Nat → Option (List UInt16)) (nameType ino : Nat) : Option (List UInt16) :=
  if nameType &&& fileNameWin32 ≠ 0 then dos ino else none

theorem dosNameIn_cons (e : NtfsDirEntry) (es : List NtfsDirEntry) (ino : Nat) :
    dosNameIn (e :: es) ino = (dosNameIn [e] ino).or (dosNameIn es ino) := by
  obtain ⟨name, nameType, ino', _, _⟩ := e
  simp only [dosNameIn]
  split_ifs <;> simp

/-- `set_dentry_dos_name` with a map gives a dentry with a Win32 name the DOS name the map holds
for its inode, and leaves every other dentry as it is. -/
theorem setDentryDosName_tree (map : DosNameMap) (name : List UInt8) (isWin32Name : Bool)
    (ino : Nat) (shortName : Option (List UInt16)) (securityId : Int) (children : List WimDentry) :
    (setDentryDosName map (.mk name isWin32Name ino shortName securityId children)).tree =
      .node name isWin32Name ino (if isWin32Name then (dosNameOf map ino).or shortName else shortName)
        (children.map WimDentry.tree) := by
  unfold setDentryDosName dosNameOf
  cases isWin32Name <;> cases h : lookupDosName map ino <;> simp [h, WimDentry.tree, WimDentry.trees_eq_map]

theorem setDentryDosName_leaf (d : WimDentry) : setDentryDosName .leaf d = d := by
  obtain ⟨name, isWin32Name, ino, shortName, securityId, children⟩ := d
  cases isWin32Name <;> rfl

/-- A successful `insert_dos_name` keeps the map a search tree and adds the name of the inode,
which had none. -/
theorem insertDosName_ok {allocOk : Bool} {map map' : DosNameMap} {name : List UInt16} {ino : Nat}
    (h : insertDosName allocOk map name ino = .ok map') (hmap : map.Ordered) :
    map'.Ordered ∧ ∀ k, dosNameOf map' k = (dosNameOf map k).or (if ino = k then some name else none) := by
  simp only [insertDosName] at h
  split_ifs at h
  split at h
  · next map'' hins =>
    cases h
    refine ⟨hmap.insert hins, fun k => ?_⟩
    have hnew : map.lookup ino = none :=
      Option.not_isSome_iff_eq_none.mp fun hs => by simp [(SearchTree.insert_eq_none_iff hmap).mpr hs] at hins
    simp only [dosNameOf, lookupDosName, SearchTree.lookup_insert hmap hins k]
    by_cases hk : k = ino
    · subst hk
      simp [hnew]
    · simp [hk, Ne.symm hk]
  · cases h

/-- The dentry the capture of an inode returns, with the short name `set_dentry_dos_name` gives
it. -/
theorem capturedDentry_tree (map : DosNameMap) (path : List UInt8) (nameType ino : Nat) (securityId : Int)
    (children : List WimDentry) :
    (setDentryDosName map
        (.mk (pathBasename path) (nameType &&& fileNameWin32 ≠ 0) ino none securityId children)).tree =
      .node (pathBasename path) (nameType &&& fileNameWin32 ≠ 0) ino
        (shortNameFrom (dosNameOf map) nameType ino) (children.map WimDentry.tree) := by
  rw [setDentryDosName_tree, shortNameFrom]
  split_ifs <;> simp_all

/-! ## The tree a successful capture returns -/

mutual

/-- The tree the capture of the inode `ino` at `path` returns when it returns 0: none for an
excluded path or an inode that cannot be opened, and otherwise a dentry named by
`path_basename`, with the short name `shortName` and, for a directory, the children its entries
give, with the short names its DOS entries list. -/
def NtfsInode.capturedTree (env : NtfsCaptureEnv) (path : List UInt8) (nameType ino : Nat)
    (shortName : Option (List UInt16)) : NtfsInode → Option CapturedTree
  | .unopenable => none
  | .file _ _ _ =>
    if env.excludePath path then none
    else some (.node (pathBasename path) (nameType &&& fileNameWin32 ≠ 0) ino shortName [])
  | .dir _ entries _ =>
    if env.excludePath path then none
    else some (.node (pathBasename path) (nameType &&& fileNameWin32 ≠ 0) ino shortName
      (capturedEntries env path (dosNameIn entries) entries))

/-- The children the entries of the directory at `path` give, in order, with the DOS names
`dos`. -/
def capturedEntries (env : NtfsCaptureEnv) (path : List UInt8) (dos : Nat → Option (List UInt16)) :
    List NtfsDirEntry → List CapturedTree
  | [] => []
  | e :: es => (capturedEntry env path dos e).toList ++ capturedEntries env path dos es

/-- The child an entry gives: none for a DOS-only name, for a name `utf16_to_utf8` cannot
convert and for `.` and `..`; otherwise the tree of its inode at `path/name`. -/
def capturedEntry (env : NtfsCaptureEnv) (path : List UInt8) (dos : Nat → Option (List UInt16)) :
    NtfsDirEntry → Option CapturedTree
  | .mk name nameType ino _ inode =>
    if nameType = fileNameDos then none
    else match env.utf16ToUtf8 name with
      | none => none
      | some u =>
        if u = [dot] ∨ u = [dot, dot] then none
        else inode.capturedTree env (appendPath path u).1 nameType ino (shortNameFrom dos nameType ino)

end

/-! ## The capture returns that tree -/

mutual

/-- **One inode.** When the capture of an inode returns 0, the dentry it returns, once
`set_dentry_dos_name` has run with any map, is the inode's captured tree with the short name from
that map. -/
theorem buildDentryTreeNtfsRecursive_tree (env : NtfsCaptureEnv) (hstop : env.readdirFailsOnStop = true) :
    ∀ (inode : NtfsInode) (path : List UInt8) (nameType ino : Nat) (st st' : NtfsCaptureState)
      (D : Option WimDentry),
      buildDentryTreeNtfsRecursive env path nameType ino inode st = some (none, D, st') →
      ∀ map, D.map (fun d => (setDentryDosName map d).tree) =
        inode.capturedTree env path nameType ino (shortNameFrom (dosNameOf map) nameType ino)
  | .unopenable, path, nameType, ino, st, st', D, h, map => by
    cases h
  | .file attrsOk streamsRet sd, path, nameType, ino, st, st', D, h, map => by
    rw [buildDentryTreeNtfsRecursive] at h
    rw [NtfsInode.capturedTree]
    by_cases hex : env.excludePath path
    · rw [if_pos hex] at h ⊢
      cases h
      rfl
    rw [if_neg hex] at h ⊢
    cases attrsOk
    · cases h
    cases streamsRet
    · obtain ⟨⟨ret, securityId, sdSet⟩, -, heq⟩ := Option.map_eq_some'.mp h
      cases heq
      simp only [Option.map_some', capturedDentry_tree, List.map_nil]
    · cases h
  | .dir attrsOk entries sd, path, nameType, ino, st, st', D, h, map => by
    rw [buildDentryTreeNtfsRecursive] at h
    rw [NtfsInode.capturedTree]
    by_cases hex : env.excludePath path
    · rw [if_pos hex] at h ⊢
      cases h
      rfl
    rw [if_neg hex] at h ⊢
    cases attrsOk
    · cases h
    simp only [Bool.not_true, Bool.false_eq_true, ↓reduceIte] at h
    split at h
    · cases h
    next stop map₁ children st₁ hread =>
    split_ifs at h with hstop'
    · cases h
    have hzero : stop = .zero := by simpa [hstop] using hstop'
    subst hzero
    obtain ⟨⟨ret, securityId, sdSet⟩, -, heq⟩ := Option.map_eq_some'.mp h
    cases heq
    obtain ⟨-, hdos, cs, rfl, htree⟩ :=
      ntfsReaddir_tree env hstop path entries .leaf map₁ [] children st st₁ hread trivial
    have hmap : dosNameOf map₁ = dosNameIn entries := funext fun k => by
      rw [hdos k]
      rfl
    simp only [Option.map_some', capturedDentry_tree, List.nil_append, List.map_map]
    rw [← hmap, ← htree map₁]
    rfl
termination_by structural inode => inode

/-- **A directory's loop.** When `ntfs_readdir` reads the entries to the end, its map is still a
search tree and holds, besides what it held, the DOS names the entries list; the children it
adds give, with the short names of any map, the trees of the entries. -/
theorem ntfsReaddir_tree (env : NtfsCaptureEnv) (hstop : env.readdirFailsOnStop = true)
    (path : List UInt8) :
    ∀ (es : List NtfsDirEntry) (map map' : DosNameMap) (children children' : List WimDentry)
      (st st' : NtfsCaptureState),
      ntfsReaddir env path es map children st = some (.zero, map', children', st') → map.Ordered →
      map'.Ordered ∧ (∀ k, dosNameOf map' k = (dosNameOf map k).or (dosNameIn es k)) ∧
        ∃ cs, children' = children ++ cs ∧
          ∀ m, cs.map (fun d => (setDentryDosName m d).tree) = capturedEntries env path (dosNameOf m) es
  | [], map, map', children, children', st, st', h, hmap => by
    cases h
    exact ⟨hmap, fun k => by simp [dosNameIn], [], by simp, fun m => rfl⟩
  | e :: es, map, map', children, children', st, st', h, hmap => by
    rw [ntfsReaddir] at h
    split at h
    · cases h
    next ret map₁ child st₁ hfill =>
    dsimp only at h
    split_ifs at h with hret
    · subst hret
      obtain ⟨hord₁, hdos₁, htree₁⟩ :=
        wimNtfsCaptureFilldir_tree env hstop path e map map₁ child st st₁ hfill hmap
      obtain ⟨hord, hdos, cs, hcs, htree⟩ :=
        ntfsReaddir_tree env hstop path es map₁ map' _ children' st₁ st' h hord₁
      refine ⟨hord, fun k => by rw [hdos, hdos₁, dosNameIn_cons e es, Option.or_assoc],
        child.toList ++ cs, by rw [hcs, List.append_assoc], fun m => ?_⟩
      rw [List.map_append, htree m, capturedEntries, ← htree₁ m]
      cases child <;> rfl
    · simp only [Option.some.injEq, Prod.mk.injEq] at h
      exact absurd h.1 hret
termination_by structural es => es

/-- **One entry.** When the callback returns 0, the map is still a search tree and holds, besides
what it held, the entry's DOS name; the child it adds gives, with the short names of any map,
the entry's tree. -/
theorem wimNtfsCaptureFilldir_tree (env : NtfsCaptureEnv) (hstop : env.readdirFailsOnStop = true)
    (path : List UInt8) :
    ∀ (e : NtfsDirEntry) (map map' : DosNameMap) (child : Option WimDentry) (st st' : NtfsCaptureState),
      wimNtfsCaptureFilldir env path e map st = some (.zero, map', child, st') → map.Ordered →
      map'.Ordered ∧ (∀ k, dosNameOf map' k = (dosNameOf map k).or (dosNameIn [e] k)) ∧
        ∀ m, child.map (fun d => (setDentryDosName m d).tree) = capturedEntry env path (dosNameOf m) e
  | .mk name nameType ino allocOk inode, map, map', child, st, st', h, hmap => by
    rw [wimNtfsCaptureFilldir] at h
    dsimp only at h
    have hdosIn : ∀ k, dosNameIn [.mk name nameType ino allocOk inode] k =
        if nameType &&& fileNameDos ≠ 0 ∧ ino = k then some name else none := fun k => rfl
    split at h
    · cases h
    · -- a DOS-only name: recorded, and nothing else
      next ret map₁ hdos =>
      cases h
      split at hdos
      · next hbit =>
        split at hdos
        · cases hdos
        · cases hdos
        · next map₂ hins =>
          split at hdos
          · next hdosOnly =>
            cases hdos
            obtain ⟨hord, hlook⟩ := insertDosName_ok hins hmap
            refine ⟨hord, fun k => by rw [hlook, hdosIn]; simp [hbit], fun m => ?_⟩
            simp [capturedEntry, hdosOnly]
          · cases hdos
      · cases hdos
    -- any other name: its DOS name, if any, is recorded first
    next map₁ hdos =>
    have hmap₁ : map₁.Ordered ∧
        (∀ k, dosNameOf map₁ k = (dosNameOf map k).or (dosNameIn [.mk name nameType ino allocOk inode] k)) ∧
        nameType ≠ fileNameDos := by
      split at hdos
      · next hbit =>
        split at hdos
        · cases hdos
        · cases hdos
        · next map₂ hins =>
          split at hdos
          · cases hdos
          · next hnd =>
            cases hdos
            obtain ⟨hord, hlook⟩ := insertDosName_ok hins hmap
            exact ⟨hord, fun k => by rw [hlook, hdosIn]; simp [hbit], hnd⟩
      · next hbit =>
        cases hdos
        refine ⟨hmap, fun k => by rw [hdosIn]; simp [hbit], ?_⟩
        rintro rfl
        exact hbit (by decide)
    obtain ⟨hord, hlook, hnd⟩ := hmap₁
    split at h
    · cases h
    next u hu =>
    split_ifs at h with hdot
    · cases h
      exact ⟨hord, hlook, fun m => by simp [capturedEntry, hnd, hu, hdot]⟩
    split at h
    · cases h
      exact ⟨hord, hlook, fun m => by simp [capturedEntry, hnd, hu, hdot, NtfsInode.capturedTree]⟩
    split at h
    · cases h
    next ret child' st₁ hrec =>
    cases ret
    · cases h
      refine ⟨hord, hlook, fun m => ?_⟩
      rw [buildDentryTreeNtfsRecursive_tree env hstop inode _ nameType ino _ _ _ hrec m]
      simp [capturedEntry, hnd, hu, hdot]
    · cases h
termination_by structural e => e

end

end WimLean
