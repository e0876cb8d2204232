import WimLean.Image.BootIndex

/-!
# WimLean — lookup-table references under export and failed calls

Every lookup-table entry of a stream should count the non-directory dentries, over all the
WIM's images, with its hash (`dentryRefs`), and every such dentry whose stream the source WIM
had should find an entry. `wimlib_export_image` gives the destination one reference per
dentry through `for_dentry_in_tree(root, add_lookup_table_entry_to_dest_wim, &wims)`, but it
does not read that call's return value: when an allocation of a new entry fails, the walk
stops there, and the export still appends the image and returns 0
(`wimlibExportImage_ignoresNomem`).

The refcount a table holds for a stream is `refcntOf`. `lte->refcnt++` adds one to it
(`refcntOf_incrementRefcnt`), so the walk raises each stream's refcount by the number of the
image's dentries that reference it (`addLookupTableEntriesToDestWim_of_present`). A failure
after the walk leaves those references in place (`wimlibExportImage_nomem_raisesRefcnts`).

A failed `wimlib_add_image` drops, through `free_dentry_tree`, only the references of the
dentries linked under the root. A subdirectory whose build fails is not linked, so what was
captured inside it stays. A failure of `xml_add_image` comes after the image was appended
(`wimlibAddImage_failure_changesWim`).
-/

namespace WimLean

/-- The non-directory dentries, over all images of `w`, whose hash is `hash`. -/
def dentryRefs (w : WimStruct) (hash : Sha1Hash) : Nat :=
  (w.imageMetadata.map fun imd =>
    imd.rootDentry.countP fun d => !d.isDirectory && d.hash == hash).sum

/-- The references the lookup table holds to the stream `hash`: the refcount of its entry, 0
when it has none. -/
def refcntOf (table : LookupTable) (hash : Sha1Hash) : Nat :=
  ((lookupResource table hash).map (·.refcnt)).getD 0

/-! ## The lookup table under `lte->refcnt++` -/

@[simp] theorem lookupResource_nil (hash : Sha1Hash) : lookupResource [] hash = none := rfl

@[simp] theorem lookupResource_cons (e : WimLookupTableEntry) (table : LookupTable)
    (hash : Sha1Hash) :
    lookupResource (e :: table) hash = if e.hash = hash then some e else lookupResource table hash := by
  by_cases h : e.hash = hash <;> simp [lookupResource, h]

theorem isSome_lookupResource_incrementRefcnt (hash h : Sha1Hash) (table : LookupTable) :
    (lookupResource (incrementRefcnt hash table) h).isSome = (lookupResource table h).isSome := by
  induction table with
  | nil => rfl
  | cons e table ih => by_cases he : e.hash = hash <;> by_cases hh : e.hash = h <;> simp_all [incrementRefcnt]

/-- `lte->refcnt++` adds one reference to the stream it finds, and none to any other. -/
theorem refcntOf_incrementRefcnt (hash h : Sha1Hash) (table : LookupTable) :
    refcntOf (incrementRefcnt hash table) h =
      refcntOf table h + if hash = h ∧ (lookupResource table hash).isSome then 1 else 0 := by
  induction table with
  | nil => simp [incrementRefcnt, refcntOf]
  | cons e table ih =>
    by_cases he : e.hash = hash
    · by_cases hh : hash = h <;> simp_all [incrementRefcnt, refcntOf]
    · by_cases hh : e.hash = h
      · have : hash ≠ h := fun hh' => he (hh.trans hh'.symm)
        simp_all [incrementRefcnt, refcntOf]
      · simp_all [incrementRefcnt, refcntOf]

/-! ## Export: the walk over the image's dentries -/

/-- The dentries of `ds` whose stream the source has, with hash `h`: the references the walk
of `wimlib_export_image` gives the destination's entry for `h`. -/
def exportRefs (src : WimStruct) (ds : List Dentry) (h : Sha1Hash) : Nat :=
  ds.countP fun d => !d.isDirectory && (lookupResource src.lookupTable d.hash).isSome && d.hash == h

/-- **The walk when the destination has every stream.** `add_lookup_table_entry_to_dest_wim`
then allocates nothing and returns 0 on every dentry, and the destination's refcount of each
stream rises by the number of the dentries that reference it and whose stream the source
has. -/
theorem addLookupTableEntriesToDestWim_of_present (src : WimStruct) (t : Tapes) :
    ∀ (ds : List Dentry) (dest : LookupTable),
      (∀ d ∈ ds, d.isDirectory = false → (lookupResource dest d.hash).isSome) →
      (addLookupTableEntriesToDestWim src ds dest t).1 = none ∧
      (addLookupTableEntriesToDestWim src ds dest t).2.2 = t ∧
      ∀ h, refcntOf (addLookupTableEntriesToDestWim src ds dest t).2.1 h =
        refcntOf dest h + exportRefs src ds h
  | [], dest, _ => by simp [addLookupTableEntriesToDestWim, exportRefs]
  | d :: ds, dest, hp => by
    have hd := hp d (List.mem_cons_self _ _)
    have hrest : ∀ dest', (∀ h, (lookupResource dest' h).isSome = (lookupResource dest h).isSome) →
        ∀ d' ∈ ds, d'.isDirectory = false → (lookupResource dest' d'.hash).isSome := by
      intro dest' hs d' hd' hdir
      rw [hs]; exact hp d' (List.mem_cons_of_mem _ hd') hdir
    cases hdir : d.isDirectory
    · cases hsrc : lookupResource src.lookupTable d.hash with
      | none =>
        obtain ⟨h1, h2, h3⟩ := addLookupTableEntriesToDestWim_of_present src t ds dest
          (hrest dest fun _ => rfl)
        simp only [addLookupTableEntriesToDestWim, addLookupTableEntryToDestWim, hdir, hsrc,
          Bool.false_eq_true, ↓reduceIte]
        refine ⟨h1, h2, fun h => ?_⟩
        simp [h3, exportRefs, List.countP_cons, hdir, hsrc]
      | some srcEntry =>
        obtain ⟨e, he⟩ := Option.isSome_iff_exists.mp (hd hdir)
        obtain ⟨h1, h2, h3⟩ := addLookupTableEntriesToDestWim_of_present src t ds
          (incrementRefcnt d.hash dest)
          (hrest _ fun h => isSome_lookupResource_incrementRefcnt d.hash h dest)
        simp only [addLookupTableEntriesToDestWim, addLookupTableEntryToDestWim, hdir, hsrc, he,
          Bool.false_eq_true, ↓reduceIte]
        refine ⟨h1, h2, fun h => ?_⟩
        rw [h3, refcntOf_incrementRefcnt, he]
        rcases eq_or_ne d.hash h with rfl | hh
        · simp [exportRefs, List.countP_cons, hdir, hsrc]; omega
        · simp [exportRefs, List.countP_cons, hh]
    · obtain ⟨h1, h2, h3⟩ := addLookupTableEntriesToDestWim_of_present src t ds dest
        (hrest dest fun _ => rfl)
      simp only [addLookupTableEntriesToDestWim, addLookupTableEntryToDestWim, hdir, ↓reduceIte]
      refine ⟨h1, h2, fun h => ?_⟩
      simp [h3, exportRefs, List.countP_cons, hdir]

/-- **An export that returns 0 leaves dentries without references.** The source has one
image with two files, of hashes 7 and 8, each with its entry; the destination already has an
image with one file of hash 8, whose entry has refcount 1. The export of source image 1 finds
no destination entry for hash 7, and the allocation of one fails: the walk stops with
`WIMLIB_ERR_NOMEM` before the dentry of hash 8. The export appends the image anyway and
returns 0. The destination then has a dentry of hash 7, whose stream the source had, with no
entry, and the entry of hash 8 counts one of its two dentries. -/
theorem wimlibExportImage_ignoresNomem :
    wimlibExportImage {}
        ⟨[⟨7, ⟨5, {}, 100, 5⟩, .inWim, 1⟩, ⟨8, ⟨6, {}, 200, 6⟩, .inWim, 1⟩, metadataEntry 9],
          [⟨[⟨true, 0⟩, ⟨false, 7⟩, ⟨false, 8⟩], 9⟩], 0⟩ (.one 1)
        ⟨[⟨8, ⟨6, {}, 300, 6⟩, .inWim, 1⟩, metadataEntry 10], [⟨[⟨true, 0⟩, ⟨false, 8⟩], 10⟩], 0⟩
        ⟨[false], [11]⟩ false false =
      .ok () (⟨[metadataEntry 11, ⟨8, ⟨6, {}, 300, 6⟩, .inWim, 1⟩, metadataEntry 10],
        [⟨[⟨true, 0⟩, ⟨false, 8⟩], 10⟩, ⟨[⟨true, 0⟩, ⟨false, 7⟩, ⟨false, 8⟩], 11⟩], 0⟩, {}) ∧
    (lookupResource [⟨7, ⟨5, {}, 100, 5⟩, .inWim, 1⟩, ⟨8, ⟨6, {}, 200, 6⟩, .inWim, 1⟩,
      metadataEntry 9] 7).isSome ∧
    lookupResource [metadataEntry 11, ⟨8, ⟨6, {}, 300, 6⟩, .inWim, 1⟩, metadataEntry 10] 7 = none ∧
    (lookupResource [metadataEntry 11, ⟨8, ⟨6, {}, 300, 6⟩, .inWim, 1⟩, metadataEntry 10] 8).map
      (·.refcnt) = some 1 ∧
    dentryRefs ⟨[metadataEntry 11, ⟨8, ⟨6, {}, 300, 6⟩, .inWim, 1⟩, metadataEntry 10],
      [⟨[⟨true, 0⟩, ⟨false, 8⟩], 10⟩, ⟨[⟨true, 0⟩, ⟨false, 7⟩, ⟨false, 8⟩], 11⟩], 0⟩ 8 = 2 :=
  ⟨rfl, by decide, by decide, by decide, by decide⟩

/-- **A failed export raises the destination's refcounts.** Take any source and destination
and any single-image export whose selection and name check pass, where the destination already
has an entry for every stream of the image, so that the walk allocates nothing. When the first
allocation of `add_new_dentry_tree` fails, `wimlib_export_image` returns
`WIMLIB_ERR_NOMEM`, and the destination keeps its images and boot index but every stream's
refcount is raised by the number of the image's dentries that reference it. -/
theorem wimlibExportImage_nomem_raisesRefcnts {ext : Externals} {src dest : WimStruct}
    {t : Tapes} {i : Nat} {named boot : Bool} {rest : List Bool}
    (hsel : wimlibSelectImage ext src i = none) (hname : ext.nameInUse = false)
    (hpresent : ∀ d ∈ wimRootDentry src i, d.isDirectory = false →
      (lookupResource dest.lookupTable d.hash).isSome)
    (halloc : t.allocs = false :: rest) :
    ∃ dest', wimlibExportImage ext src (.one i) dest t named boot =
        .error .nomem (dest', { t with allocs := rest }) ∧
      dest'.imageMetadata = dest.imageMetadata ∧ dest'.bootIdx = dest.bootIdx ∧
      ∀ h, refcntOf dest'.lookupTable h =
        refcntOf dest.lookupTable h + exportRefs src (wimRootDentry src i) h := by
  obtain ⟨-, ht, hrefs⟩ :=
    addLookupTableEntriesToDestWim_of_present src t (wimRootDentry src i) dest.lookupTable hpresent
  refine ⟨{ dest with
    lookupTable := (addLookupTableEntriesToDestWim src (wimRootDentry src i) dest.lookupTable t).2.1 },
    ?_, rfl, rfl, hrefs⟩
  simp only [wimlibExportImage, exportOneImage, hsel, hname, Bool.false_eq_true, ↓reduceIte,
    addNewDentryTree, Tapes.alloc, ht, halloc]

/-- An image with one file, of hash 7, exported into a WIM whose entry for hash 7 has
refcount 1, where the `CALLOC` of `add_new_dentry_tree` fails: the export returns
`WIMLIB_ERR_NOMEM` and leaves that refcount at 2. -/
theorem wimlibExportImage_nomem_raisesRefcnts_oneFile :
    (wimlibSelectImage {} ⟨[⟨7, ⟨5, {}, 100, 5⟩, .inWim, 1⟩], [⟨[⟨true, 0⟩, ⟨false, 7⟩], 9⟩], 0⟩ 1 =
        none ∧ ({} : Externals).nameInUse = false ∧
      (∀ d ∈ wimRootDentry ⟨[⟨7, ⟨5, {}, 100, 5⟩, .inWim, 1⟩], [⟨[⟨true, 0⟩, ⟨false, 7⟩], 9⟩], 0⟩ 1,
        d.isDirectory = false →
          (lookupResource [⟨7, ⟨6, {}, 300, 6⟩, .inWim, 1⟩, metadataEntry 10] d.hash).isSome) ∧
      ({ allocs := [false] } : Tapes).allocs = [false]) ∧
    ∃ dest', wimlibExportImage {}
        ⟨[⟨7, ⟨5, {}, 100, 5⟩, .inWim, 1⟩], [⟨[⟨true, 0⟩, ⟨false, 7⟩], 9⟩], 0⟩ (.one 1)
        ⟨[⟨7, ⟨6, {}, 300, 6⟩, .inWim, 1⟩, metadataEntry 10], [⟨[⟨true, 0⟩], 10⟩], 0⟩
        { allocs := [false] } false false = .error .nomem (dest', {}) ∧
      dest'.imageMetadata = [⟨[⟨true, 0⟩], 10⟩] ∧ dest'.bootIdx = 0 ∧
      ∀ h, refcntOf dest'.lookupTable h =
        refcntOf [⟨7, ⟨6, {}, 300, 6⟩, .inWim, 1⟩, metadataEntry 10] h +
          exportRefs ⟨[⟨7, ⟨5, {}, 100, 5⟩, .inWim, 1⟩], [⟨[⟨true, 0⟩, ⟨false, 7⟩], 9⟩], 0⟩
            [⟨true, 0⟩, ⟨false, 7⟩] h :=
  have hsel : wimlibSelectImage {} ⟨[⟨7, ⟨5, {}, 100, 5⟩, .inWim, 1⟩],
      [⟨[⟨true, 0⟩, ⟨false, 7⟩], 9⟩], 0⟩ 1 = none := rfl
  have hp : ∀ d ∈ wimRootDentry ⟨[⟨7, ⟨5, {}, 100, 5⟩, .inWim, 1⟩],
      [⟨[⟨true, 0⟩, ⟨false, 7⟩], 9⟩], 0⟩ 1, d.isDirectory = false →
        (lookupResource [⟨7, ⟨6, {}, 300, 6⟩, .inWim, 1⟩, metadataEntry 10] d.hash).isSome := by
    decide
  ⟨⟨hsel, rfl, hp, rfl⟩, wimlibExportImage_nomem_raisesRefcnts hsel rfl hp rfl⟩

/-! ## Add: what a failed `wimlib_add_image` leaves behind -/

theorem addNewDentryTree_xmlRet (ext : Externals) (x : Option WimlibErr) (w : WimStruct)
    (t : Tapes) (root : List Dentry) :
    addNewDentryTree { ext with xmlRet := x } w t root = addNewDentryTree ext w t root := rfl

/-- When `xml_add_image` fails, `wimlib_add_image` returns its error from the WIM it would have
returned on success, with only the tree's references dropped. -/
theorem wimlibAddImage_xmlFailure {ext : Externals} {w w' : WimStruct} {t t' : Tapes}
    {dir : Option DiskEntry} {name : String} {boot : Bool} (e : WimlibErr)
    (h : wimlibAddImage { ext with xmlRet := none } w t dir name boot = .ok () (w', t')) :
    ∃ w'', wimlibAddImage { ext with xmlRet := some e } w t dir name boot = .error e (w'', t') ∧
      w''.imageMetadata = w'.imageMetadata ∧ w''.bootIdx = w'.bootIdx := by
  simp only [wimlibAddImage, addNewDentryTree_xmlRet] at h ⊢
  repeat (split at h <;> try contradiction)
  all_goals
    cases h
    simp only [*, ↓reduceIte]
    exact ⟨_, rfl, rfl, rfl⟩

/-- A file captured inside a subdirectory of the root whose next entry cannot be `stat`ed: the
subdirectory is never linked under the root, so `free_dentry_tree` does not see the file, and
the entry `build_dentry_tree` made for it stays in the lookup table. -/
theorem wimlibAddImage_unlinkedSubtree (ext : Externals) (w : WimStruct) (t : Tapes)
    (name path : String) (size : Nat) (h : Sha1Hash) (more others : List DiskEntry) (boot : Bool)
    (hname : name ≠ "") (hin : ext.nameInUse = false) (ht : t.allocs = [])
    (hnew : lookupResource w.lookupTable h = none) :
    wimlibAddImage ext w t
        (some (.dir true (.dir true (.file path size (.ok h) :: .unstatable :: more) :: others)))
        name boot =
      .error .stat ({ w with
        lookupTable := lookupTableInsert w.lookupTable ⟨h, ⟨size, {}, 0, size⟩, .inFileOnDisk path, 1⟩ },
        t) := by
  simp [wimlibAddImage, hname, hin, Tapes.alloc, ht, buildDentryTree, buildChildren,
    captureNonDirectory, hnew, freeDentryTree]

/-- **A failed add can leave the WIM changed.** For every WIM, tree and name: when everything
but `xml_add_image` succeeds, its failure makes `wimlib_add_image` return the error with the
image appended (the image count one more, the boot index moved by the boot flag). And for
every WIM without a stream of hash `h`: when the root's first entry is a directory whose first
file, of hash `h`, is captured and whose next entry cannot be `stat`ed, `wimlib_add_image`
returns `WIMLIB_ERR_STAT` with a new entry for `h` in the lookup table. -/
theorem wimlibAddImage_failure_changesWim :
    (∀ (ext : Externals) (w w' : WimStruct) (t t' : Tapes) (dir : Option DiskEntry)
      (name : String) (boot : Bool) (e : WimlibErr),
      wimlibAddImage { ext with xmlRet := none } w t dir name boot = .ok () (w', t') →
      ∃ w'', wimlibAddImage { ext with xmlRet := some e } w t dir name boot = .error e (w'', t') ∧
        w''.imageMetadata = w'.imageMetadata ∧ w''.bootIdx = w'.bootIdx ∧
        w''.imageCount = w.imageCount + 1) ∧
    (∀ (ext : Externals) (w : WimStruct) (t : Tapes) (name path : String) (size : Nat)
      (h : Sha1Hash) (more others : List DiskEntry) (boot : Bool),
      name ≠ "" → ext.nameInUse = false → t.allocs = [] → lookupResource w.lookupTable h = none →
      wimlibAddImage ext w t
          (some (.dir true (.dir true (.file path size (.ok h) :: .unstatable :: more) :: others)))
          name boot =
        .error .stat ({ w with
          lookupTable := lookupTableInsert w.lookupTable ⟨h, ⟨size, {}, 0, size⟩, .inFileOnDisk path, 1⟩ },
          t)) := by
  refine ⟨fun ext w w' t t' dir name boot e h => ?_, wimlibAddImage_unlinkedSubtree⟩
  obtain ⟨w'', hfail, hmd, hboot⟩ := wimlibAddImage_xmlFailure e h
  obtain ⟨_, _, hmd', -⟩ := wimlibAddImage_ok h
  exact ⟨w'', hfail, hmd, hboot, by simp [WimStruct.imageCount, hmd, hmd']⟩

/-- An empty WIM: adding an empty directory whose XML update fails leaves one image; adding a
directory whose subdirectory holds a file of hash 7 and then an unstatable entry leaves an entry
for hash 7. -/
theorem wimlibAddImage_failure_changesWim_emptyWim :
    (wimlibAddImage {} ⟨[], [], 0⟩ {} (some (.dir true [])) "a" false =
        .ok () (⟨[metadataEntry 0], [⟨[⟨true, 0⟩], 0⟩], 0⟩, {}) ∧
      ∃ w'', wimlibAddImage { xmlRet := some .write } ⟨[], [], 0⟩ {} (some (.dir true [])) "a" false =
          .error .write (w'', {}) ∧
        w''.imageMetadata = [⟨[⟨true, 0⟩], 0⟩] ∧ w''.bootIdx = 0 ∧ w''.imageCount = 0 + 1) ∧
    (("a" ≠ "" ∧ ({} : Externals).nameInUse = false ∧ ({} : Tapes).allocs = [] ∧
        lookupResource [] 7 = none) ∧
      wimlibAddImage {} ⟨[], [], 0⟩ {}
          (some (.dir true [.dir true [.file "f" 3 (.ok 7), .unstatable]])) "a" false =
        .error .stat (⟨[⟨7, ⟨3, {}, 0, 3⟩, .inFileOnDisk "f", 1⟩], [], 0⟩, {})) :=
  have hadd : wimlibAddImage {} ⟨[], [], 0⟩ {} (some (.dir true [])) "a" false =
      .ok () (⟨[metadataEntry 0], [⟨[⟨true, 0⟩], 0⟩], 0⟩, {}) := rfl
  have hname : "a" ≠ "" := by decide
  ⟨⟨hadd, wimlibAddImage_failure_changesWim.1 {} _ _ {} {} _ "a" false .write hadd⟩,
    ⟨hname, rfl, rfl, rfl⟩,
    wimlibAddImage_failure_changesWim.2 {} ⟨[], [], 0⟩ {} "a" "f" 3 7 [] [] false hname rfl rfl rfl⟩

end WimLean
