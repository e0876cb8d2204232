import WimLean.Capture.NtfsDirectory

/-!
# WimLean — the security IDs of an NTFS capture

`build_dentry_tree_ntfs_recursive` reads each inode's security descriptor and stores what
`sd_set_add_sd` returns for it as `i_security_id`: -1 (no descriptor), or the index of the
descriptor in the `wim_security_data` it builds. Readers of the WIM index the security data
with that ID, so an ID past the descriptors would be read out of bounds.

This module shows that the capture keeps the security set's invariant (`SdInv`), and that
every security ID in the tree it returns is -1 or the index of a stored descriptor, whatever
`utf16_to_utf8`, the allocations and the configuration do, and whether the capture returns 0 or
an error. It does so on every volume on which the capture is defined: its DOS names have at most
12 UTF-16 units (`insert_dos_name` asserts on a longer one), libntfs-3g reads every security
descriptor without error (an error takes `alloca((size_t)ret)` with a negative `ret`), and its
paths fit the path buffer (`NtfsInode.pathsFit`). `insert_sd_node`'s assertion is out of reach
once the set satisfies its invariant (`SdInv.step`).

* `SdGrows` — a set's invariant kept from one set to the next, the descriptors growing;
* `captureSecurityId_grows` — the security ID of one inode;
* `wimNtfsCaptureFilldir_ids`, `ntfsReaddir_ids`, `buildDentryTreeNtfsRecursive_ids` — the
  three functions of the capture, one lemma each;
* `buildDentryTreeNtfs_securityIdsValid` — the whole capture.
-/

namespace WimLean

/-! ## Security IDs of a tree, and DOS names that fit -/

mutual

/-- The security IDs of a dentry and of every dentry below it. -/
def WimDentry.securityIds : WimDentry → List Int
  | .mk _ _ _ _ securityId children => securityId :: WimDentry.securityIdsOf children

/-- The security IDs of a list of dentries and of every dentry below them. -/
def WimDentry.securityIdsOf : List WimDentry → List Int
  | [] => []
  | d :: ds => d.securityIds ++ WimDentry.securityIdsOf ds

end

/-- Security IDs that are -1 or the index of one of `n` stored descriptors. -/
def SecurityIdsBelow (n : Nat) (ids : List Int) : Prop :=
  ∀ id ∈ ids, id = -1 ∨ ∃ i : Nat, id = i ∧ i < n

mutual

/-- Every DOS name of the volume below the inode has at most 12 UTF-16 units. -/
def NtfsInode.dosNamesFit : NtfsInode → Bool
  | .unopenable => true
  | .file _ _ _ => true
  | .dir _ entries _ => dosNamesFitIn entries

/-- Every DOS name of the entries, and below them, has at most 12 UTF-16 units. -/
def dosNamesFitIn : List NtfsDirEntry → Bool
  | [] => true
  | e :: es => e.dosNamesFit && dosNamesFitIn es

/-- The entry's name, when it is a DOS name, and every DOS name below it have at most 12 UTF-16
units. -/
def NtfsDirEntry.dosNamesFit : NtfsDirEntry → Bool
  | .mk name nameType _ _ inode =>
    (nameType &&& fileNameDos == 0 || name.length ≤ 12) && inode.dosNamesFit

end

mutual

/-- libntfs-3g reads the security descriptor of every inode below the inode without error. -/
def NtfsInode.securityReadable : NtfsInode → Bool
  | .unopenable => true
  | .file _ _ sd => sd != .error
  | .dir _ entries sd => sd != .error && securityReadableIn entries

/-- libntfs-3g reads the security descriptor of every inode of the entries without error. -/
def securityReadableIn : List NtfsDirEntry → Bool
  | [] => true
  | e :: es => e.securityReadable && securityReadableIn es

/-- libntfs-3g reads the security descriptor of every inode of the entry without error. -/
def NtfsDirEntry.securityReadable : NtfsDirEntry → Bool
  | .mk _ _ _ _ inode => inode.securityReadable

end

theorem SecurityIdsBelow.mono {m n : Nat} {ids : List Int} (h : SecurityIdsBelow m ids)
    (hmn : m ≤ n) : SecurityIdsBelow n ids := fun id hid =>
  (h id hid).imp_right fun ⟨i, hi, hlt⟩ => ⟨i, hi, by omega⟩

@[simp] theorem securityIdsBelow_append {n : Nat} {xs ys : List Int} :
    SecurityIdsBelow n (xs ++ ys) ↔ SecurityIdsBelow n xs ∧ SecurityIdsBelow n ys := by
  simp only [SecurityIdsBelow, List.mem_append, or_imp, forall_and]

@[simp] theorem securityIdsBelow_cons {n : Nat} {id : Int} {ids : List Int} :
    SecurityIdsBelow n (id :: ids) ↔ (id = -1 ∨ ∃ i : Nat, id = i ∧ i < n) ∧ SecurityIdsBelow n ids := by
  simp only [SecurityIdsBelow, List.mem_cons, or_imp, forall_and, forall_eq]

@[simp] theorem securityIdsBelow_nil {n : Nat} : SecurityIdsBelow n [] := nofun

/-- The security IDs of one dentry: its own, then those below it. -/
theorem securityIdsBelow_dentry {n : Nat} {name : List UInt8} {isWin32Name : Bool} {ino : Nat}
    {shortName : Option (List UInt16)} {id : Int} {children : List WimDentry} :
    SecurityIdsBelow n (WimDentry.securityIdsOf [.mk name isWin32Name ino shortName id children]) ↔
      (id = -1 ∨ ∃ i : Nat, id = i ∧ i < n) ∧ SecurityIdsBelow n (WimDentry.securityIdsOf children) := by
  simp only [WimDentry.securityIdsOf, WimDentry.securityIds, List.append_nil, securityIdsBelow_cons]

theorem WimDentry.securityIdsOf_append : ∀ ds es : List WimDentry,
    WimDentry.securityIdsOf (ds ++ es) = WimDentry.securityIdsOf ds ++ WimDentry.securityIdsOf es
  | [], _ => rfl
  | d :: ds, es => by
    rw [List.cons_append, securityIdsOf, securityIdsOf, securityIdsOf_append ds es, List.append_assoc]

theorem WimDentry.securityIdsOf_toList (d : Option WimDentry) :
    WimDentry.securityIdsOf d.toList = (d.map WimDentry.securityIds).getD [] := by
  cases d <;> simp [securityIdsOf]

/-- `set_dentry_dos_name` changes no security ID. -/
theorem setDentryDosName_securityIds (map : DosNameMap) (d : WimDentry) :
    (setDentryDosName map d).securityIds = d.securityIds := by
  obtain ⟨name, isWin32Name, ino, shortName, securityId, children⟩ := d
  simp only [setDentryDosName]
  split_ifs
  · split <;> rfl
  · rfl

theorem securityIdsOf_map_setDentryDosName (map : DosNameMap) : ∀ ds : List WimDentry,
    WimDentry.securityIdsOf (ds.map (setDentryDosName map)) = WimDentry.securityIdsOf ds
  | [] => rfl
  | d :: ds => by
    rw [List.map_cons, WimDentry.securityIdsOf, WimDentry.securityIdsOf, setDentryDosName_securityIds,
      securityIdsOf_map_setDentryDosName map ds]

/-- A DOS name of at most 12 units never reaches `insert_dos_name`'s assertion. -/
theorem insertDosName_ne_assertFails {allocOk : Bool} {map : DosNameMap} {name : List UInt16}
    {ino : Nat} (h : name.length ≤ 12) : insertDosName allocOk map name ino ≠ .assertFails := by
  unfold insertDosName
  split_ifs
  · nofun
  · split <;> nofun
  · omega

/-! ## The security set along a capture -/

section Grows

variable {sha1 : List UInt8 → Sha1Hash} {totalLength : Nat}

/-- From `s` to `s'` the security set keeps its invariant and no stored descriptor goes. -/
structure SdGrows (sha1 : List UInt8 → Sha1Hash) (totalLength : Nat) (s s' : SdSet) : Prop where
  inv : SdInv sha1 totalLength s'
  le : s.sd.numEntries ≤ s'.sd.numEntries

theorem SdGrows.refl {s : SdSet} (h : SdInv sha1 totalLength s) : SdGrows sha1 totalLength s s :=
  ⟨h, le_rfl⟩

theorem SdGrows.trans {s₁ s₂ s₃ : SdSet} (h₁ : SdGrows sha1 totalLength s₁ s₂)
    (h₂ : SdGrows sha1 totalLength s₂ s₃) : SdGrows sha1 totalLength s₁ s₃ :=
  ⟨h₂.inv, h₁.le.trans h₂.le⟩

/-- **One inode's security ID.** From a set satisfying the invariant, the end of
`build_dentry_tree_ntfs_recursive` reaches no assertion, keeps the invariant, and gives the
inode -1 or the index of a stored descriptor. -/
theorem captureSecurityId_grows (env : NtfsCaptureEnv) {sd : SdXattr} {set : SdSet}
    (inv : SdInv env.sha1 totalLength set) (hsd : sd ≠ .error) :
    ∃ ret securityId set', captureSecurityId env sd set = some (ret, securityId, set') ∧
      SdGrows env.sha1 totalLength set set' ∧
      (securityId = -1 ∨ ∃ i : Nat, securityId = i ∧ i < set'.sd.numEntries) := by
  cases sd with
  | none => exact ⟨_, _, _, rfl, .refl inv, .inl rfl⟩
  | error => exact absurd rfl hsd
  | descriptor bytes allocs =>
    obtain ⟨r, set', hstep, inv', hcase⟩ := inv.step allocs bytes
    have hgrows : SdGrows env.sha1 totalLength set set' ∧ (r = -1 ∨ ∃ i : Nat, r = i ∧ i < set'.sd.numEntries) := by
      rcases hcase with ⟨i, hl, rfl, rfl⟩ | ⟨-, -, rfl, rfl⟩ | ⟨-, -, rfl, hds⟩
      · obtain ⟨d, hd, -⟩ := (inv.lookup_iff _ i).mp hl
        exact ⟨.refl inv, .inr ⟨i, rfl, inv.numEntries_eq ▸ (List.getElem?_eq_some_iff.mp hd).1⟩⟩
      · exact ⟨.refl inv, .inl rfl⟩
      · have hn : set'.sd.numEntries = set.sd.numEntries + 1 := by
          rw [inv'.numEntries_eq, hds, List.length_append, inv.numEntries_eq, List.length_singleton]
        exact ⟨⟨inv', by omega⟩, .inr ⟨_, rfl, by omega⟩⟩
    simp only [captureSecurityId, hstep]
    split_ifs with h
    · exact ⟨_, _, _, rfl, hgrows.1, .inl rfl⟩
    · exact ⟨_, _, _, rfl, hgrows.1, hgrows.2⟩

end Grows

/-! ## The capture keeps the security set and its IDs -/

mutual

/-- **One inode.** From a set satisfying the invariant, the capture of an inode whose DOS names
fit and whose descriptors are read returns, keeps the invariant, and returns a dentry whose
security IDs are -1 or indexes of stored descriptors. -/
theorem buildDentryTreeNtfsRecursive_ids (env : NtfsCaptureEnv) (totalLength : Nat) :
    ∀ (inode : NtfsInode) (path : List UInt8) (nameType ino : Nat) (st : NtfsCaptureState),
      inode.dosNamesFit → inode.securityReadable → SdInv env.sha1 totalLength st.sdSet →
      ∃ r, buildDentryTreeNtfsRecursive env path nameType ino inode st = some r ∧
        SdGrows env.sha1 totalLength st.sdSet r.2.2.sdSet ∧
        SecurityIdsBelow r.2.2.sdSet.sd.numEntries (WimDentry.securityIdsOf r.2.1.toList)
  | .unopenable, path, nameType, ino, st, _, _, inv => ⟨_, rfl, .refl inv, by simp [WimDentry.securityIdsOf]⟩
  | .file attrsOk streamsRet sd, path, nameType, ino, st, _, hsd, inv => by
    rw [buildDentryTreeNtfsRecursive]
    split_ifs
    · exact ⟨_, rfl, .refl inv, by simp [WimDentry.securityIdsOf]⟩
    · exact ⟨_, rfl, .refl inv, by simp [WimDentry.securityIdsOf]⟩
    cases streamsRet with
    | some e => exact ⟨_, rfl, .refl inv, securityIdsBelow_dentry.mpr ⟨.inl rfl, securityIdsBelow_nil⟩⟩
    | none =>
      obtain ⟨ret, securityId, set', hsec, hgrows, hid⟩ :=
        captureSecurityId_grows env inv (by simpa [NtfsInode.securityReadable] using hsd)
      refine ⟨_, by rw [hsec]; rfl, hgrows, ?_⟩
      exact securityIdsBelow_dentry.mpr ⟨hid, securityIdsBelow_nil⟩
  | .dir attrsOk entries sd, path, nameType, ino, st, hfit, hsd, inv => by
    simp only [NtfsInode.securityReadable, Bool.and_eq_true, bne_iff_ne, ne_eq] at hsd
    rw [buildDentryTreeNtfsRecursive]
    split_ifs
    · exact ⟨_, rfl, .refl inv, by simp [WimDentry.securityIdsOf]⟩
    · exact ⟨_, rfl, .refl inv, by simp [WimDentry.securityIdsOf]⟩
    obtain ⟨⟨stop, map, children, st₁⟩, hread, hgrows₁, hids₁⟩ :=
      ntfsReaddir_ids env totalLength path entries .leaf [] st hfit hsd.2 inv (by simp [WimDentry.securityIdsOf])
    simp only [hread]
    split_ifs
    · exact ⟨_, rfl, hgrows₁, securityIdsBelow_dentry.mpr ⟨.inl rfl, hids₁⟩⟩
    obtain ⟨ret, securityId, set', hsec, hgrows, hid⟩ := captureSecurityId_grows env hgrows₁.inv hsd.1
    refine ⟨_, by rw [hsec]; rfl, hgrows₁.trans hgrows, securityIdsBelow_dentry.mpr ⟨hid, ?_⟩⟩
    rw [securityIdsOf_map_setDentryDosName]
    exact hids₁.mono hgrows.le
termination_by structural inode => inode

/-- **A directory's loop.** From children whose security IDs index the set, `ntfs_readdir` over
entries whose DOS names fit and whose descriptors are read returns, keeps the invariant, and so
do the children after it. -/
theorem ntfsReaddir_ids (env : NtfsCaptureEnv) (totalLength : Nat) (path : List UInt8) :
    ∀ (es : List NtfsDirEntry) (map : DosNameMap) (children : List WimDentry) (st : NtfsCaptureState),
      dosNamesFitIn es → securityReadableIn es → SdInv env.sha1 totalLength st.sdSet →
      SecurityIdsBelow st.sdSet.sd.numEntries (WimDentry.securityIdsOf children) →
      ∃ r, ntfsReaddir env path es map children st = some r ∧
        SdGrows env.sha1 totalLength st.sdSet r.2.2.2.sdSet ∧
        SecurityIdsBelow r.2.2.2.sdSet.sd.numEntries (WimDentry.securityIdsOf r.2.2.1)
  | [], map, children, st, _, _, inv, hids => ⟨_, rfl, .refl inv, hids⟩
  | e :: es, map, children, st, hfit, hsd, inv, hids => by
    simp only [dosNamesFitIn, securityReadableIn, Bool.and_eq_true] at hfit hsd
    obtain ⟨⟨ret, map₁, child, st₁⟩, hfill, hgrows₁, hchild⟩ :=
      wimNtfsCaptureFilldir_ids env totalLength path e map st hfit.1 hsd.1 inv
    have hids₁ : SecurityIdsBelow st₁.sdSet.sd.numEntries
        (WimDentry.securityIdsOf (children ++ child.toList)) := by
      rw [WimDentry.securityIdsOf_append, securityIdsBelow_append]
      exact ⟨hids.mono hgrows₁.le, hchild⟩
    rw [ntfsReaddir, hfill]
    dsimp only
    split_ifs
    · obtain ⟨r, hr, hgrows, hids'⟩ :=
        ntfsReaddir_ids env totalLength path es map₁ _ st₁ hfit.2 hsd.2 hgrows₁.inv hids₁
      exact ⟨r, hr, hgrows₁.trans hgrows, hids'⟩
    · exact ⟨_, rfl, hgrows₁, hids₁⟩
termination_by structural es => es

/-- **One entry.** From a set satisfying the invariant, the callback on an entry whose DOS names
fit and whose descriptors are read returns, keeps the invariant, and adds a child whose security
IDs index the set. -/
theorem wimNtfsCaptureFilldir_ids (env : NtfsCaptureEnv) (totalLength : Nat) (path : List UInt8) :
    ∀ (e : NtfsDirEntry) (map : DosNameMap) (st : NtfsCaptureState),
      e.dosNamesFit → e.securityReadable → SdInv env.sha1 totalLength st.sdSet →
      ∃ r, wimNtfsCaptureFilldir env path e map st = some r ∧
        SdGrows env.sha1 totalLength st.sdSet r.2.2.2.sdSet ∧
        SecurityIdsBelow r.2.2.2.sdSet.sd.numEntries (WimDentry.securityIdsOf r.2.2.1.toList)
  | .mk name nameType ino allocOk inode, map, st, hfit, hsd, inv => by
    simp only [NtfsDirEntry.dosNamesFit, Bool.and_eq_true, Bool.or_eq_true, beq_iff_eq,
      decide_eq_true_eq] at hfit
    obtain ⟨hname, hinode⟩ := hfit
    have hskip : ∀ (ret : FilldirRet) (map' : DosNameMap), ∃ r, some (ret, map', (none : Option WimDentry), st) = some r ∧
        SdGrows env.sha1 totalLength st.sdSet r.2.2.2.sdSet ∧
        SecurityIdsBelow r.2.2.2.sdSet.sd.numEntries (WimDentry.securityIdsOf r.2.2.1.toList) :=
      fun _ _ => ⟨_, rfl, .refl inv, by simp [WimDentry.securityIdsOf]⟩
    rw [wimNtfsCaptureFilldir]
    dsimp only
    split
    · next hnone =>
      exfalso
      split at hnone
      · next hbit =>
        split at hnone
        · next hins => exact insertDosName_ne_assertFails (hname.resolve_left hbit) hins
        · cases hnone
        · cases hnone
      · cases hnone
    · exact hskip _ _
    split
    · exact hskip _ _
    next u _ =>
    split_ifs
    · exact hskip _ _
    split
    · exact hskip _ _
    obtain ⟨⟨ret, child, st₁⟩, hrec, hgrows, hids⟩ :=
      buildDentryTreeNtfsRecursive_ids env totalLength inode (appendPath path u).1 nameType ino
        { st with pathWrites := st.pathWrites ++ (appendPath path u).2 } hinode hsd inv
    rw [hrec]
    exact ⟨_, rfl, hgrows, hids⟩
termination_by structural e => e

end

end WimLean
