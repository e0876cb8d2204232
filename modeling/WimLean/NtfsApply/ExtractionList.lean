import WimLean.NtfsApply.FileStructureLinks

/-!
# WimLean — each extracted dentry gets its link

`ntfs_3g_extract` runs the file-structure phase on the dentry list of the extraction: the root,
then the dentries the tree extracts. On such a list, when every libntfs-3g call succeeds, the
links of `ntfs3gCreateFileStructure_links` are, up to order, one per dentry of the list but the
root: its extraction name, in the record of its parent, to its own record.

## The architecture

* **`ExtractionTree.extractedBelow`** — the dentries the tree extracts, each with the inode of
  the directory it is in, in the order of `ntfs_3g_create_dirs_recursive`.
* **`ExtractionWF`** — the extraction list: the root, a directory, then (in any order) the
  dentries the tree extracts, each in its parent's directory and each once; a directory inode
  has one dentry, and the extraction aliases of a nondirectory inode are its dentries of the
  list.
* **`ExtractionTree.dirLinks_eq_extracted`** — the walk links the directories the tree extracts.
* **`ExtractionWF.createdAliases_perm`** — the aliases of the nondirectories created, gathered at
  the dentry each is created at, are the nondirectory dentries of the list.
* **`ntfs3gCreateFileStructure_linksEachDentry`** — the headline.
-/

namespace WimLean

/-- The link an extracted dentry should get, `f` giving the records: its extraction name, in its
parent's record, to its inode's. -/
def ExtractionDentry.link (f : Nat → Nat) (d : ExtractionDentry) : NtfsLink :=
  (f d.parent, d.name, f d.inode)

/-! ## §1 — the dentries the tree extracts -/

mutual

/-- The dentries a tree extracts below its root, each with the inode of the directory it is in:
each child to extract then, for a directory, those below it. -/
def ExtractionTree.extractedBelow (env : FsEnv) : ExtractionTree → List (Nat × ExtractionDentry)
  | .node d _ children => extractedChildren env d.inode children
termination_by structural dir => dir

/-- The dentries the children of the directory `p` extract. -/
def extractedChildren (env : FsEnv) (p : Nat) : List ExtractionTree → List (Nat × ExtractionDentry)
  | [] => []
  | c :: rest =>
    if !c.willExtract then extractedChildren env p rest
    else (p, c.dentry) ::
      ((if (env.inodes c.dentry.inode).isDir then c.extractedBelow env else []) ++ extractedChildren env p rest)
termination_by structural children => children

end

/-- A directory of the extraction, read off a dentry's pair. -/
def isDirPair (env : FsEnv) (pd : Nat × ExtractionDentry) : Bool := (env.inodes pd.2.inode).isDir

section Tree

variable {env : FsEnv}

mutual

/-- Each extracted dentry is in the root or in an extracted directory. -/
theorem ExtractionTree.extractedBelow_fst :
    ∀ (dir : ExtractionTree), ∀ pd ∈ dir.extractedBelow env,
      pd.1 = dir.dentry.inode ∨ (env.inodes pd.1).isDir = true
  | .node d _ children => extractedChildren_fst d.inode children
termination_by structural dir => dir

theorem extractedChildren_fst (p : Nat) :
    ∀ (children : List ExtractionTree), ∀ pd ∈ extractedChildren env p children,
      pd.1 = p ∨ (env.inodes pd.1).isDir = true
  | [] => fun _ h => absurd h (List.not_mem_nil _)
  | c :: rest => fun pd hpd => by
    rw [extractedChildren] at hpd
    split_ifs at hpd with hw hd
    · exact extractedChildren_fst p rest pd hpd
    all_goals rcases List.mem_cons.mp hpd with rfl | hpd; · exact .inl rfl
    all_goals rcases List.mem_append.mp hpd with hpd | hpd
    · exact .inr ((ExtractionTree.extractedBelow_fst c pd hpd).elim (· ▸ hd) id)
    · exact extractedChildren_fst p rest pd hpd
    · exact absurd hpd (List.not_mem_nil _)
    · exact extractedChildren_fst p rest pd hpd
termination_by structural children => children

end

mutual

/-- The walk creates the directories the tree extracts. -/
theorem ExtractionTree.dirInodes_eq_extracted :
    ∀ (dir : ExtractionTree),
      dir.dirInodes env = ((dir.extractedBelow env).filter (isDirPair env)).map (·.2.inode)
  | .node d _ children => childDirInodes_eq_extracted d.inode children
termination_by structural dir => dir

theorem childDirInodes_eq_extracted (p : Nat) :
    ∀ (children : List ExtractionTree),
      childDirInodes env children = ((extractedChildren env p children).filter (isDirPair env)).map (·.2.inode)
  | [] => rfl
  | c :: rest => by
    rw [childDirInodes, extractedChildren]
    cases hw : c.willExtract <;> cases hd : (env.inodes c.dentry.inode).isDir <;>
    simp [hw, hd, isDirPair, List.filter_cons, ExtractionTree.dirInodes_eq_extracted c,
      childDirInodes_eq_extracted p rest]
termination_by structural children => children

end

mutual

/-- **The walk links the directories the tree extracts**, each in the record of the directory
it is in, when `f` gives the walk's root its record. -/
theorem ExtractionTree.dirLinks_eq_extracted (f : Nat → Nat) :
    ∀ (dir : ExtractionTree), dir.dirLinks env f (f dir.dentry.inode) =
      ((dir.extractedBelow env).filter (isDirPair env)).map fun pd => (f pd.1, pd.2.name, f pd.2.inode)
  | .node d _ children => childDirLinks_eq_extracted f d.inode children
termination_by structural dir => dir

theorem childDirLinks_eq_extracted (f : Nat → Nat) (p : Nat) :
    ∀ (children : List ExtractionTree), childDirLinks env f (f p) children =
      ((extractedChildren env p children).filter (isDirPair env)).map fun pd => (f pd.1, pd.2.name, f pd.2.inode)
  | [] => rfl
  | c :: rest => by
    rw [childDirLinks, extractedChildren]
    cases hw : c.willExtract <;> cases hd : (env.inodes c.dentry.inode).isDir <;>
    simp [hw, hd, isDirPair, List.filter_cons, ExtractionTree.dirLinks_eq_extracted f c,
      childDirLinks_eq_extracted f p rest]
termination_by structural children => children

end

end Tree

/-! ## §2 — the extraction list -/

/-- The extraction `ntfs_3g_extract` runs the file-structure phase on: the root, a directory,
then the dentries the tree extracts in any order, each in the directory whose inode is its
`d_parent`; dentries are distinct, a directory inode has a single dentry, and the extraction
aliases of a nondirectory inode are its dentries of the list. -/
structure ExtractionWF (env : FsEnv) (root : ExtractionTree) (rest : List ExtractionDentry) : Prop where
  rootDir : (env.inodes root.dentry.inode).isDir = true
  listed : rest.Perm ((root.extractedBelow env).map Prod.snd)
  parent : ∀ pd ∈ root.extractedBelow env, pd.2.parent = pd.1
  ids : ((root.dentry :: rest).map ExtractionDentry.id).Nodup
  dirAlone : ∀ d ∈ root.dentry :: rest, ∀ e ∈ root.dentry :: rest,
    (env.inodes d.inode).isDir = true → e.inode = d.inode → e = d
  aliases : ∀ d ∈ root.dentry :: rest, (env.inodes d.inode).isDir = false →
    (env.inodes d.inode).aliases.Perm ((root.dentry :: rest).filter (·.inode = d.inode))

section Nondirs

variable {env : FsEnv} {d : ExtractionDentry} {i : Nat}

/-- A nondirectory is created at the dentry heading its extraction aliases. -/
theorem mem_createdAt (h : i ∈ createdAt env d) :
    i = d.inode ∧ (env.inodes i).isDir = false ∧ ((env.inodes i).aliases.head?.map (·.id)) = some d.id := by
  unfold createdAt at h
  split_ifs at h with hd
  · simp at h
  split at h
  next a as has =>
    split_ifs at h with hid
    · rw [List.mem_singleton.mp h]
      simp [hd, has, hid]
    · simp at h
  · simp at h

theorem createdAt_of_head {a : ExtractionDentry} {as : List ExtractionDentry}
    (hd : (env.inodes a.inode).isDir = false) (has : (env.inodes a.inode).aliases = a :: as) :
    createdAt env a = [a.inode] := by
  simp [createdAt, hd, has]

/-- The first link goes to the first extraction alias, the others to the rest: together, one per
alias, when the aliases are distinct dentries of the inode. -/
theorem perm_first_filter {first : ExtractionDentry} {l : List ExtractionDentry} (hmem : first ∈ l)
    (hids : (l.map ExtractionDentry.id).Nodup) : (first :: l.filter fun x => x.id ≠ first.id).Perm l := by
  have hl : l.Nodup := hids.of_map _
  have hf : (l.filter fun x => x.id ≠ first.id) = l.erase first := by
    rw [hl.erase_eq_filter]
    refine List.filter_congr fun x hx => ?_
    have : x.id = first.id ↔ x = first := ⟨fun h => List.inj_on_of_nodup_map hids hx hmem h, congrArg _⟩
    by_cases hx' : x = first <;> simp [this, hx']
  rw [hf]
  exact (List.perm_cons_erase hmem).symm

/-- **The links made at a dentry are those of the aliases of the inode created there.** -/
theorem createdLinks_perm (f : Nat → Nat) (d : ExtractionDentry)
    (h : ∀ i ∈ createdAt env d, (∀ a ∈ (env.inodes i).aliases, a.inode = i) ∧
      ((env.inodes i).aliases.map ExtractionDentry.id).Nodup) :
    (createdLinks env f d).Perm
      (((createdAt env d).flatMap fun i => (env.inodes i).aliases).map (ExtractionDentry.link f)) := by
  unfold createdLinks
  unfold createdAt at h ⊢
  split_ifs with hd
  · simp
  rw [if_neg hd] at h
  generalize has : (env.inodes d.inode).aliases = l at h ⊢
  cases l with
  | nil => simp
  | cons a as =>
    dsimp only at h ⊢
    split_ifs with hid
    · have hl := h d.inode (by simp [hid])
      rw [has] at hl
      have hlink : ∀ x ∈ a :: as, (f x.parent, x.name, f d.inode) = x.link f := fun x hx => by
        rw [ExtractionDentry.link, hl.1 x hx]
      simp only [List.flatMap_cons, List.flatMap_nil, List.append_nil, has, nondirLinks]
      rw [hlink _ (ntfs3gFirstExtractionAlias_mem a as), List.map_congr_left fun x hx =>
        hlink x (List.mem_of_mem_filter hx), ← List.map_cons]
      exact ((perm_first_filter (ntfs3gFirstExtractionAlias_mem a as) hl.2).map _)
    · simp

end Nondirs

section WF

variable {env : FsEnv} {root : ExtractionTree} {rest : List ExtractionDentry}

theorem ExtractionWF.nodup (h : ExtractionWF env root rest) : (root.dentry :: rest).Nodup :=
  h.ids.of_map _

theorem ExtractionWF.mem_of_extracted (h : ExtractionWF env root rest) {d : ExtractionDentry}
    (hd : d ∈ (root.extractedBelow env).map Prod.snd) : d ∈ rest :=
  h.listed.symm.subset hd

/-- An alias of an extracted nondirectory is a dentry of the list with its inode; the aliases
are distinct. -/
theorem ExtractionWF.alias_mem (h : ExtractionWF env root rest) {d a : ExtractionDentry}
    (hd : d ∈ root.dentry :: rest) (hnd : (env.inodes d.inode).isDir = false)
    (ha : a ∈ (env.inodes d.inode).aliases) : a ∈ root.dentry :: rest ∧ a.inode = d.inode := by
  simpa using (h.aliases d hd hnd).subset ha

theorem ExtractionWF.alias_ids (h : ExtractionWF env root rest) {d : ExtractionDentry}
    (hd : d ∈ root.dentry :: rest) (hnd : (env.inodes d.inode).isDir = false) :
    ((env.inodes d.inode).aliases.map ExtractionDentry.id).Nodup :=
  ((h.aliases d hd hnd).map _).nodup_iff.mpr (h.ids.sublist ((List.filter_sublist _).map _))

/-- The directories of the walk are distinct inodes. -/
theorem ExtractionWF.dirInodes_nodup (h : ExtractionWF env root rest) : (root.dirInodes env).Nodup := by
  have hsub : List.Sublist (((root.extractedBelow env).filter (isDirPair env)).map Prod.snd)
      ((root.extractedBelow env).map Prod.snd) := (List.filter_sublist _).map _
  have hmem : ∀ x ∈ ((root.extractedBelow env).filter (isDirPair env)).map Prod.snd, x ∈ root.dentry :: rest :=
    fun x hx => List.mem_cons_of_mem _ (h.mem_of_extracted (hsub.subset hx))
  rw [root.dirInodes_eq_extracted, show (fun pd : Nat × ExtractionDentry => pd.2.inode) =
    ExtractionDentry.inode ∘ Prod.snd from rfl, ← List.map_map]
  refine List.Nodup.map_on (fun x hx y hy hxy => ?_) (hsub.nodup (h.listed.nodup_iff.mp h.nodup.of_cons))
  obtain ⟨pd, hpd, rfl⟩ := List.mem_map.mp hx
  exact (h.dirAlone _ (hmem _ hx) y (hmem y hy) (List.mem_filter.mp hpd).2 hxy.symm).symm

/-- The root's inode is none of the directories the walk creates. -/
theorem ExtractionWF.root_not_mem_dirInodes (h : ExtractionWF env root rest) :
    root.dentry.inode ∉ root.dirInodes env := by
  rw [root.dirInodes_eq_extracted]
  intro hm
  obtain ⟨pd, hpd, he⟩ := List.mem_map.mp hm
  have hx : pd.2 ∈ rest := h.mem_of_extracted (List.mem_map_of_mem _ (List.mem_of_mem_filter hpd))
  have := h.dirAlone _ (List.mem_cons_self _ _) _ (List.mem_cons_of_mem _ hx) h.rootDir he
  exact (List.nodup_cons.mp h.nodup).1 (this ▸ hx)

theorem createdAt_nodup (env : FsEnv) (d : ExtractionDentry) : (createdAt env d).Nodup := by
  unfold createdAt
  split_ifs
  · exact List.nodup_nil
  split
  · split_ifs
    exacts [List.nodup_singleton _, List.nodup_nil]
  · exact List.nodup_nil

/-- Each nondirectory inode is created at one dentry of the list. -/
theorem ExtractionWF.created_nodup (h : ExtractionWF env root rest) :
    ((root.dentry :: rest).flatMap (createdAt env)).Nodup := by
  refine List.nodup_flatMap.mpr ⟨fun d _ => createdAt_nodup env d,
    h.nodup.pairwise_of_forall_ne fun a ha b hb hab i hia hib => hab ?_⟩
  obtain ⟨rfl, -, ha'⟩ := mem_createdAt hia
  obtain ⟨-, -, hb'⟩ := mem_createdAt hib
  exact List.inj_on_of_nodup_map h.ids ha hb (Option.some.inj (ha'.symm.trans hb'))

/-- The aliases of each nondirectory created are in directories. -/
theorem ExtractionWF.created_parentDir (h : ExtractionWF env root rest) :
    ∀ i ∈ (root.dentry :: rest).flatMap (createdAt env), ∀ a ∈ (env.inodes i).aliases,
      (env.inodes a.parent).isDir = true := by
  intro i hi a ha
  obtain ⟨d, hd, hid⟩ := List.mem_flatMap.mp hi
  obtain ⟨rfl, hnd, -⟩ := mem_createdAt hid
  obtain ⟨haL, hai⟩ := h.alias_mem hd hnd ha
  -- `a` is a nondirectory's dentry, so not the root's
  have har : a ∈ rest := (List.mem_cons.mp haL).resolve_left fun e => by
    rw [← hai, e, h.rootDir] at hnd
    exact Bool.noConfusion hnd
  obtain ⟨pd, hpd, rfl⟩ := List.mem_map.mp (h.listed.subset har)
  rw [h.parent pd hpd]
  exact (root.extractedBelow_fst pd hpd).elim (fun e => e ▸ h.rootDir) id

/-- **The aliases of the nondirectories created are the nondirectory dentries of the list.** -/
theorem ExtractionWF.createdAliases_perm (h : ExtractionWF env root rest) :
    (((root.dentry :: rest).flatMap (createdAt env)).flatMap fun i => (env.inodes i).aliases).Perm
      ((root.dentry :: rest).filter fun d => !(env.inodes d.inode).isDir) := by
  refine (List.perm_ext_iff_of_nodup ?_ (h.nodup.filter _)).mpr fun x => ?_
  · -- the aliases of one inode are distinct, and those of two inodes disjoint
    refine List.nodup_flatMap.mpr ⟨fun i hi => ?_,
      h.created_nodup.pairwise_of_forall_ne fun i hi j hj hij x hxi hxj => hij ?_⟩
    · obtain ⟨d, hd, hid⟩ := List.mem_flatMap.mp hi
      obtain ⟨rfl, hnd, -⟩ := mem_createdAt hid
      exact (h.alias_ids hd hnd).of_map _
    · obtain ⟨d, hd, hid⟩ := List.mem_flatMap.mp hi
      obtain ⟨rfl, hnd, -⟩ := mem_createdAt hid
      obtain ⟨e, he, hje⟩ := List.mem_flatMap.mp hj
      obtain ⟨rfl, hne, -⟩ := mem_createdAt hje
      exact (h.alias_mem hd hnd hxi).2.symm.trans (h.alias_mem he hne hxj).2
  simp only [List.mem_flatMap, List.mem_filter, Bool.not_eq_true']
  constructor
  · rintro ⟨i, ⟨d, hd, hid⟩, hx⟩
    obtain ⟨rfl, hnd, -⟩ := mem_createdAt hid
    obtain ⟨hxL, hxi⟩ := h.alias_mem hd hnd hx
    exact ⟨hxL, hxi ▸ hnd⟩
  · rintro ⟨hx, hnd⟩
    -- `x`'s inode is created at the dentry heading its aliases
    have hxa : x ∈ (env.inodes x.inode).aliases :=
      (h.aliases x hx hnd).symm.subset (List.mem_filter.mpr ⟨hx, by simp⟩)
    obtain ⟨a, as, has⟩ := List.exists_cons_of_ne_nil (List.ne_nil_of_mem hxa)
    obtain ⟨haL, hai⟩ := h.alias_mem hx hnd (has ▸ List.mem_cons_self a as)
    refine ⟨a.inode, ⟨a, haL, ?_⟩, hai ▸ hxa⟩
    rw [createdAt_of_head (hai ▸ hnd) (hai ▸ has)]
    exact List.mem_singleton_self _

end WF

/-! ## §3 — the headline -/

/-- **Each extracted dentry gets its link.** On the extraction `ntfs_3g_extract` runs it on, when
every libntfs-3g call succeeds, the file-structure phase returns 0, gives the root `FILE_root`,
and the links its calls make are, up to order, one per dentry of the list but the root: its
extraction name, in the record of its parent, to the record of its inode. A directory gets its
link from `ntfs_create`; a nondirectory inode gets one from `ntfs_create` and one from
`ntfs_link` at each other alias. -/
theorem ntfs3gCreateFileStructure_linksEachDentry (env : FsEnv) (root : ExtractionTree)
    (rest : List ExtractionDentry) (s : FsState) (hwf : ExtractionWF env root rest) (hs : s.results = []) :
    ∃ r added, ntfs3gCreateFileStructure env root (root.dentry :: rest) s = (none, r) ∧
      r.mftNo root.dentry.inode = fileRoot ∧ r.links = s.links ++ added ∧
      added.Perm (rest.map (ExtractionDentry.link r.mftNo)) := by
  obtain ⟨hrun, hroot⟩ := ntfs3gCreateFileStructure_links root (root.dentry :: rest) hs hwf.dirInodes_nodup
    hwf.root_not_mem_dirInodes hwf.rootDir hwf.created_nodup hwf.created_parentDir
  generalize ntfs3gCreateFileStructure env root (root.dentry :: rest) s = r at hrun hroot ⊢
  refine ⟨r.2, _, Prod.ext hrun.ret rfl, hroot, hrun.links, ?_⟩
  -- the directories: the walk's links, in the record each is in
  have hD : (root.dirLinks env r.2.mftNo fileRoot).Perm
      ((rest.filter fun d => (env.inodes d.inode).isDir).map (ExtractionDentry.link r.2.mftNo)) := by
    rw [← hroot, root.dirLinks_eq_extracted, List.map_congr_left fun pd hpd =>
      show _ = (ExtractionDentry.link r.2.mftNo ∘ Prod.snd) pd by
        rw [Function.comp_apply, ExtractionDentry.link, hwf.parent pd (List.mem_of_mem_filter hpd)],
      ← List.map_map, show isDirPair env = (fun d : ExtractionDentry => (env.inodes d.inode).isDir) ∘ Prod.snd
        from rfl, ← List.filter_map]
    exact (hwf.listed.symm.filter _).map _
  -- the nondirectories: the links of each inode, at the dentry it is created at
  have hN : ((root.dentry :: rest).flatMap (createdLinks env r.2.mftNo)).Perm
      ((rest.filter fun d => !(env.inodes d.inode).isDir).map (ExtractionDentry.link r.2.mftNo)) := by
    calc ((root.dentry :: rest).flatMap (createdLinks env r.2.mftNo))
      List.Perm _ ((root.dentry :: rest).flatMap fun d =>
            ((createdAt env d).flatMap fun i => (env.inodes i).aliases).map (ExtractionDentry.link r.2.mftNo)) :=
          List.Perm.flatMap_left _ fun d hd => createdLinks_perm _ d fun i hi => by
            obtain ⟨rfl, hnd, -⟩ := mem_createdAt hi
            exact ⟨fun a ha => (hwf.alias_mem hd hnd ha).2, hwf.alias_ids hd hnd⟩
      _ = ((((root.dentry :: rest).flatMap (createdAt env)).flatMap fun i => (env.inodes i).aliases).map
            (ExtractionDentry.link r.2.mftNo)) := by simp only [List.map_flatMap, List.flatMap_assoc]
      List.Perm _ _ := hwf.createdAliases_perm.map _
      _ = _ := by rw [List.filter_cons_of_neg (by simp [hwf.rootDir])]
  exact (hD.append hN).trans (by rw [← List.map_append]; exact (List.filter_append_perm _ rest).map _)

/-- A file with two links, `x` in the root and `y` in the directory `a`, the second with a short
name: `ntfs_create` makes `y` and `ntfs_link` makes `x`. -/
theorem ntfs3gCreateFileStructure_linksEachDentry_hardLink :
    let dx : ExtractionDentry := ⟨2, 2, 0, [120], false⟩
    let dy : ExtractionDentry := ⟨3, 2, 1, [121], true⟩
    let da : ExtractionDentry := ⟨1, 1, 0, [97], false⟩
    let root : ExtractionTree := .node ⟨0, 0, 0, [], false⟩ true [.node da true [.node dy true []], .node dx true []]
    let env : FsEnv := ⟨fun i => if i < 2 then ⟨true, [], [], false⟩ else ⟨false, [dx, dy], [], false⟩, false, false⟩
    ExtractionWF env root [dx, da, dy] ∧
      ∃ r added, ntfs3gCreateFileStructure env root (root.dentry :: [dx, da, dy]) ⟨fun _ => 0, 16, [], []⟩ =
          (none, r) ∧ r.mftNo root.dentry.inode = fileRoot ∧ r.links = [] ++ added ∧
        added.Perm ([dx, da, dy].map (ExtractionDentry.link r.mftNo)) := by
  dsimp only
  refine ⟨?hwf, ntfs3gCreateFileStructure_linksEachDentry _ _ _ _ ?hwf rfl⟩
  exact ⟨by decide, by decide, by decide, by decide, by decide, by decide⟩

end WimLean
