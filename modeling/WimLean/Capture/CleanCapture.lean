import WimLean.Capture.CapturedTree
import WimLean.Capture.CaptureSecurity

/-!
# WimLean — the capture of a volume on which nothing fails

`buildDentryTreeNtfs_capturedTree` says what the capture returns when it returns 0. This module
says when it does: on every volume on which no call fails, `build_dentry_tree_ntfs` returns 0.
No call fails when every attribute read returns its 4 bytes, `capture_ntfs_streams` returns 0,
every security descriptor is read and its allocations succeed, every name converts, and every
DOS name has at most 12 units, its allocation succeeds and is its inode's only DOS name in the
directory (`NtfsInode.capturesCleanly`). The path buffer is a bound of its own: on a volume
whose paths fit it (`NtfsInode.pathsFit`) every write stays inside it; on a deeper one the
capture writes past it (`buildDentryTreeNtfs_pathOverflow`).

* `DosMapFresh` — the DOS names still to come can all go into the directory's map;
* `captureSecurityId_ok`, `insertDosName_fresh` — the two steps that could otherwise fail;
* `wimNtfsCaptureFilldir_clean`, `ntfsReaddir_clean`, `buildDentryTreeNtfsRecursive_clean` —
  the three functions of the capture;
* `buildDentryTreeNtfs_cleanVolume` — the capture returns 0, with the captured tree.
-/

namespace WimLean

/-! ## Volumes on which nothing fails -/

/-- The security descriptor can be stored: there is none, or it is read and the allocations of
`sd_set_add_sd` succeed. -/
def SdXattr.storable : SdXattr → Bool
  | .none => true
  | .error => false
  | .descriptor _ allocs => (allocs.take 4).all id

/-- The inodes of the entries with a DOS name, in order. -/
def dosInosIn : List NtfsDirEntry → List Nat
  | [] => []
  | .mk _ nameType ino _ _ :: es => (if nameType &&& fileNameDos ≠ 0 then [ino] else []) ++ dosInosIn es

mutual

/-- No call of the capture of the inode fails, nor below it. -/
def NtfsInode.capturesCleanly (env : NtfsCaptureEnv) : NtfsInode → Bool
  | .unopenable => true
  | .file attrsOk streamsRet sd => attrsOk && streamsRet.isNone && sd.storable
  | .dir attrsOk entries sd =>
    attrsOk && sd.storable && (dosInosIn entries).Nodup && entriesCaptureCleanly env entries

/-- No callback on the entries fails. -/
def entriesCaptureCleanly (env : NtfsCaptureEnv) : List NtfsDirEntry → Bool
  | [] => true
  | e :: es => e.capturesCleanly env && entriesCaptureCleanly env es

/-- The callback on the entry does not fail: a DOS name has at most 12 units and its allocation
succeeds, and any other name converts and names an inode whose capture does not fail. -/
def NtfsDirEntry.capturesCleanly (env : NtfsCaptureEnv) : NtfsDirEntry → Bool
  | .mk name nameType _ allocOk inode =>
    (nameType &&& fileNameDos == 0 || allocOk && name.length ≤ 12) &&
      (nameType == fileNameDos || (env.utf16ToUtf8 name).isSome && inode.capturesCleanly env)

end

theorem dosInosIn_cons (e : NtfsDirEntry) (es : List NtfsDirEntry) :
    dosInosIn (e :: es) = dosInosIn [e] ++ dosInosIn es := by
  obtain ⟨name, nameType, ino, allocOk, inode⟩ := e
  simp [dosInosIn]

/-- The DOS names of the entries `es` can all go into `map`: it is a search tree, the entries
give each inode at most one DOS name, and the map has none for their inodes. -/
structure DosMapFresh (map : DosNameMap) (es : List NtfsDirEntry) : Prop where
  ordered : map.Ordered
  nodup : (dosInosIn es).Nodup
  fresh : ∀ k ∈ dosInosIn es, dosNameOf map k = none

/-- After the first entry, the map it leaves can take the DOS names of the others. -/
theorem DosMapFresh.tail {map map₁ : DosNameMap} {e : NtfsDirEntry} {es : List NtfsDirEntry}
    (h : DosMapFresh map (e :: es)) (hord : map₁.Ordered)
    (hkeep : ∀ k ∉ dosInosIn [e], dosNameOf map₁ k = dosNameOf map k) : DosMapFresh map₁ es := by
  obtain ⟨-, hnodup, hfresh⟩ := h
  rw [dosInosIn_cons] at hnodup hfresh
  refine ⟨hord, hnodup.of_append_right, fun k hk => ?_⟩
  rw [hkeep k fun hk' => List.disjoint_of_nodup_append hnodup hk' hk]
  exact hfresh k (List.mem_append_right _ hk)

/-! ## The two steps that could fail -/

/-- A descriptor that can be stored gets a security ID, with the invariant kept. -/
theorem captureSecurityId_ok (env : NtfsCaptureEnv) {sd : SdXattr} {set : SdSet} {totalLength : Nat}
    (inv : SdInv env.sha1 totalLength set) (hsd : sd.storable) :
    ∃ securityId set', captureSecurityId env sd set = some (none, securityId, set') ∧
      SdInv env.sha1 totalLength set' := by
  cases sd with
  | none => exact ⟨_, _, rfl, inv⟩
  | error => cases hsd
  | descriptor bytes allocs =>
    obtain ⟨r, set', hstep, inv', hcase⟩ := inv.step allocs bytes
    have hr : r ≠ -1 := by
      rcases hcase with ⟨i, -, rfl, -⟩ | ⟨-, ha, -, -⟩ | ⟨-, -, rfl, -⟩
      · omega
      · simp only [SdXattr.storable] at hsd
        simp [hsd] at ha
      · omega
    exact ⟨r, set', by simp [captureSecurityId, hstep, hr], inv'⟩

/-- `insert_dos_name` of a name of at most 12 units, for an inode the map has no name for, whose
allocation succeeds, returns 0. -/
theorem insertDosName_fresh {map : DosNameMap} {name : List UInt16} {ino : Nat} (hmap : map.Ordered)
    (hlen : name.length ≤ 12) (hfresh : dosNameOf map ino = none) :
    ∃ map', insertDosName true map name ino = .ok map' := by
  have hnone : (map.lookup ino).isSome = false := by
    simpa [dosNameOf, lookupDosName] using hfresh
  cases hins : map.insert ino ⟨name, name.length * 2⟩ with
  | none => simp [(SearchTree.insert_eq_none_iff hmap).mp hins] at hnone
  | some map' => exact ⟨map', by simp [insertDosName, hins]; omega⟩

/-! ## Each function of the capture returns 0 -/

mutual

/-- **One inode.** The capture of an inode that opens and on which nothing fails returns 0 and
keeps the security set's invariant. -/
theorem buildDentryTreeNtfsRecursive_clean (env : NtfsCaptureEnv) (totalLength : Nat) :
    ∀ (inode : NtfsInode) (path : List UInt8) (nameType ino : Nat) (st : NtfsCaptureState),
      inode ≠ .unopenable → inode.capturesCleanly env → SdInv env.sha1 totalLength st.sdSet →
      ∃ D st', buildDentryTreeNtfsRecursive env path nameType ino inode st = some (none, D, st') ∧
        SdInv env.sha1 totalLength st'.sdSet
  | .unopenable, _, _, _, _, hne, _, _ => absurd rfl hne
  | .file attrsOk streamsRet sd, path, nameType, ino, st, _, hclean, inv => by
    simp only [NtfsInode.capturesCleanly, Bool.and_eq_true, Option.isNone_iff_eq_none] at hclean
    obtain ⟨⟨rfl, rfl⟩, hsd⟩ := hclean
    obtain ⟨securityId, set', hsec, inv'⟩ := captureSecurityId_ok env inv hsd
    rw [buildDentryTreeNtfsRecursive]
    cases env.excludePath path
    · simp only [Bool.false_eq_true, ↓reduceIte, Bool.not_true, hsec, Option.map_some']
      exact ⟨_, _, rfl, inv'⟩
    · exact ⟨_, _, rfl, inv⟩
  | .dir attrsOk entries sd, path, nameType, ino, st, _, hclean, inv => by
    simp only [NtfsInode.capturesCleanly, Bool.and_eq_true, decide_eq_true_eq] at hclean
    obtain ⟨⟨⟨rfl, hsd⟩, hnodup⟩, hentries⟩ := hclean
    obtain ⟨map, children, st₁, hread, inv₁⟩ :=
      ntfsReaddir_clean env totalLength path entries .leaf [] st hentries ⟨trivial, hnodup, fun _ _ => rfl⟩ inv
    obtain ⟨securityId, set', hsec, inv'⟩ := captureSecurityId_ok env inv₁ hsd
    rw [buildDentryTreeNtfsRecursive]
    cases env.excludePath path
    · simp only [Bool.false_eq_true, ↓reduceIte, Bool.not_true, hread, ne_eq, not_true_eq_false,
        false_and, hsec, Option.map_some']
      exact ⟨_, _, rfl, inv'⟩
    · exact ⟨_, _, rfl, inv⟩
termination_by structural inode => inode

/-- **A directory's loop.** `ntfs_readdir` over entries on which nothing fails, with a map that
can take their DOS names, reads them all and keeps the security set's invariant. -/
theorem ntfsReaddir_clean (env : NtfsCaptureEnv) (totalLength : Nat) (path : List UInt8) :
    ∀ (es : List NtfsDirEntry) (map : DosNameMap) (children : List WimDentry) (st : NtfsCaptureState),
      entriesCaptureCleanly env es → DosMapFresh map es → SdInv env.sha1 totalLength st.sdSet →
      ∃ map' children' st', ntfsReaddir env path es map children st = some (.zero, map', children', st') ∧
        SdInv env.sha1 totalLength st'.sdSet
  | [], _, _, _, _, _, inv => ⟨_, _, _, rfl, inv⟩
  | e :: es, map, children, st, hclean, hfresh, inv => by
    simp only [entriesCaptureCleanly, Bool.and_eq_true] at hclean
    have hfresh₀ : ∀ k ∈ dosInosIn [e], dosNameOf map k = none := fun k hk =>
      hfresh.fresh k (by rw [dosInosIn_cons]; exact List.mem_append_left _ hk)
    obtain ⟨map₁, child, st₁, hfill, inv₁, hord₁, hkeep⟩ :=
      wimNtfsCaptureFilldir_clean env totalLength path e map st hclean.1 hfresh.ordered hfresh₀ inv
    obtain ⟨map', children', st', hread, inv'⟩ := ntfsReaddir_clean env totalLength path es map₁ _ st₁
      hclean.2 (hfresh.tail hord₁ hkeep) inv₁
    refine ⟨map', children', st', ?_, inv'⟩
    rw [ntfsReaddir, hfill]
    exact hread
termination_by structural es => es

/-- **One entry.** The callback on an entry on which nothing fails, with a map that is a search
tree without a DOS name for the entry's inode, returns 0, keeps the security set's invariant,
and leaves the map a search tree that holds the same DOS names for every other inode. -/
theorem wimNtfsCaptureFilldir_clean (env : NtfsCaptureEnv) (totalLength : Nat) (path : List UInt8) :
    ∀ (e : NtfsDirEntry) (map : DosNameMap) (st : NtfsCaptureState),
      e.capturesCleanly env → map.Ordered → (∀ k ∈ dosInosIn [e], dosNameOf map k = none) →
      SdInv env.sha1 totalLength st.sdSet →
      ∃ map' child st', wimNtfsCaptureFilldir env path e map st = some (.zero, map', child, st') ∧
        SdInv env.sha1 totalLength st'.sdSet ∧ map'.Ordered ∧
        ∀ k ∉ dosInosIn [e], dosNameOf map' k = dosNameOf map k
  | .mk name nameType ino allocOk inode, map, st, hclean, hord, hfresh, inv => by
    simp only [NtfsDirEntry.capturesCleanly, Bool.and_eq_true, Bool.or_eq_true, beq_iff_eq,
      decide_eq_true_eq] at hclean
    obtain ⟨hdos, hname⟩ := hclean
    have hinos : dosInosIn [.mk name nameType ino allocOk inode] =
        if nameType &&& fileNameDos ≠ 0 then [ino] else [] := by
      simp [dosInosIn]
    -- the DOS name, when there is one, goes into the map
    have hstep : nameType &&& fileNameDos ≠ 0 → ∃ map₁, insertDosName allocOk map name ino = .ok map₁ ∧
        map₁.Ordered ∧ ∀ k ∉ dosInosIn [.mk name nameType ino allocOk inode], dosNameOf map₁ k = dosNameOf map k := by
      intro hbit
      obtain ⟨rfl, hlen⟩ := hdos.resolve_left hbit
      obtain ⟨map₁, hins⟩ := insertDosName_fresh hord hlen (hfresh ino (by simp [hinos, hbit]))
      obtain ⟨hord₁, hlook⟩ := insertDosName_ok hins hord
      refine ⟨map₁, hins, hord₁, fun k hk => ?_⟩
      rw [hlook, if_neg fun h => hk (by rw [hinos, if_pos hbit, h]; exact List.mem_singleton_self k),
        Option.or_none]
    rw [wimNtfsCaptureFilldir]
    dsimp only
    split
    · next hnone =>
      split at hnone
      · next hbit =>
        obtain ⟨map₁, hins, -⟩ := hstep hbit
        rw [hins] at hnone
        cases hnone
      · cases hnone
    · next ret map₁ hdosStep =>
      split at hdosStep
      · next hbit =>
        obtain ⟨map₂, hins, hord₂, hkeep⟩ := hstep hbit
        rw [hins] at hdosStep
        dsimp only at hdosStep
        split at hdosStep
        · cases hdosStep
          exact ⟨_, _, _, rfl, inv, hord₂, hkeep⟩
        · cases hdosStep
      · cases hdosStep
    next map₁ hdosStep =>
    have hmap₁ : map₁.Ordered ∧
        (∀ k ∉ dosInosIn [.mk name nameType ino allocOk inode], dosNameOf map₁ k = dosNameOf map k) ∧
        nameType ≠ fileNameDos := by
      split at hdosStep
      · next hbit =>
        obtain ⟨map₂, hins, hord₂, hkeep⟩ := hstep hbit
        rw [hins] at hdosStep
        dsimp only at hdosStep
        split at hdosStep
        · cases hdosStep
        · next hnd =>
          cases hdosStep
          exact ⟨hord₂, hkeep, hnd⟩
      · next hbit =>
        cases hdosStep
        exact ⟨hord, fun _ _ => rfl, fun h => hbit (by subst h; decide)⟩
    obtain ⟨hord₁, hkeep, hnd⟩ := hmap₁
    obtain ⟨u, hu⟩ := Option.isSome_iff_exists.mp (hname.resolve_left hnd).1
    rw [hu]
    dsimp only
    split_ifs
    · exact ⟨_, _, _, rfl, inv, hord₁, hkeep⟩
    split
    · exact ⟨_, _, _, rfl, inv, hord₁, hkeep⟩
    next hopen =>
    obtain ⟨D, st', hrec, inv'⟩ := buildDentryTreeNtfsRecursive_clean env totalLength inode
      (appendPath path u).1 nameType ino { st with pathWrites := st.pathWrites ++ (appendPath path u).2 }
      hopen (hname.resolve_left hnd).2 inv
    rw [hrec]
    exact ⟨_, _, _, rfl, inv', hord₁, hkeep⟩
termination_by structural e => e

end

/-- **A capture on which nothing fails returns 0.** From a security set satisfying its invariant,
on every volume whose root opens, on which no call fails and whose paths fit the path buffer,
`build_dentry_tree_ntfs` returns 0, writes the path buffer only inside it, keeps the invariant,
and, with `ntfs_readdir` passing on a nonzero return of its callback, returns the volume's
captured tree. -/
theorem buildDentryTreeNtfs_cleanVolume (env : NtfsCaptureEnv) (root : NtfsInode) (sdSet : SdSet)
    (totalLength : Nat) (hinv : SdInv env.sha1 totalLength sdSet) (hroot : root ≠ .unopenable)
    (hclean : root.capturesCleanly env) (hpath : root.pathsFit env [slash]) :
    ∃ D st, buildDentryTreeNtfs env root sdSet = some (none, D, st) ∧
      (∀ w ∈ st.pathWrites, w < pathBufferSize) ∧ SdInv env.sha1 totalLength st.sdSet ∧
      (env.readdirFailsOnStop = true → D.map WimDentry.tree = root.capturedTree env [slash] 0 fileRoot none) := by
  obtain ⟨D, st, hrun, inv⟩ := buildDentryTreeNtfsRecursive_clean env totalLength root [slash] 0 fileRoot
    ⟨sdSet, [0, 1]⟩ hroot hclean hinv
  have h : buildDentryTreeNtfs env root sdSet = some (none, D, st) := by
    cases root
    case unopenable => exact absurd rfl hroot
    all_goals exact hrun
  refine ⟨D, st, h, buildDentryTreeNtfs_pathWrites env root sdSet hpath _ h, inv, fun hstop => ?_⟩
  simpa [setDentryDosName_leaf, shortNameFrom] using
    buildDentryTreeNtfsRecursive_tree env hstop root [slash] 0 fileRoot _ _ D hrun .leaf

/-- A directory with a descriptor and a file with a Win32 name and its DOS name: the capture
returns 0. -/
theorem buildDentryTreeNtfs_cleanVolume_dosPair :
    let env : NtfsCaptureEnv :=
      ⟨fun _ => 0, fun name => some (name.map UInt16.toUInt8), fun _ => false, true⟩
    let root : NtfsInode := .dir true
      [.mk [97] fileNameWin32 40 true (.file true none .none),
        .mk [65] fileNameDos 40 true (.file true none .none)] (.descriptor [1] [])
    SdInv env.sha1 8 (SdSet.empty 8) ∧ root ≠ .unopenable ∧ root.capturesCleanly env ∧
      root.pathsFit env [slash] ∧
      ∃ D st, buildDentryTreeNtfs env root (SdSet.empty 8) = some (none, D, st) ∧
        (∀ w ∈ st.pathWrites, w < pathBufferSize) ∧ SdInv env.sha1 8 st.sdSet ∧
        (env.readdirFailsOnStop = true →
          D.map WimDentry.tree = root.capturedTree env [slash] 0 fileRoot none) :=
  ⟨SdInv.empty, nofun, rfl, rfl, buildDentryTreeNtfs_cleanVolume _ _ _ _ SdInv.empty nofun rfl rfl⟩

end WimLean
