import WimLean.LookupTable

/-!
# WimLean — image-level operations (`modify.c`)

The model of `wimlib_add_image` (capture through `build_dentry_tree`), `wimlib_export_image`
and `wimlib_delete_image`, over the parts of a `WIMStruct` they change: the lookup table, the
`image_metadata` array (whose length is `hdr.image_count`) and `hdr.boot_idx`.

An image's dentry tree is the list of its dentries in the order `build_dentry_tree` and
`for_dentry_in_tree` visit them, each directory before its children: every operation here
reads a tree only through that walk. What the calls outside the model answer is an input: the
outcomes of the allocations, in order, and the bytes `randomize_byte_array` writes (`Tapes`),
and whether `wimlib_select_image`, `wimlib_image_name_in_use` and the XML update succeed
(`Externals`).

Each operation returns the WIM and the tapes after it, also when it fails: a failed call
leaves behind what it changed before failing. The tree on disk that `wimlib_add_image`
captures is a tree (`DiskEntry`), since which dentries `build_dentry_tree` links, and so which
references `free_dentry_tree` drops after a failure, depends on where in it a failure happens.
-/

namespace WimLean

/-! ## Dentries, the lookup table and the WIM -/

/-- A dentry as the image operations see it: whether it is a directory, and `dentry->hash`. -/
structure Dentry where
  isDirectory : Bool
  hash : Sha1Hash
  deriving DecidableEq, Repr

/-- `struct lookup_table`: its entries, the most recently inserted first. -/
abbrev LookupTable := List WimLookupTableEntry

/-- `lookup_resource(table, hash)`. -/
def lookupResource (table : LookupTable) (hash : Sha1Hash) : Option WimLookupTableEntry :=
  table.find? (·.hash = hash)

/-- `lookup_table_insert(table, lte)`. -/
def lookupTableInsert (table : LookupTable) (lte : WimLookupTableEntry) : LookupTable :=
  lte :: table

/-- `lte->refcnt++` on the entry `lookup_resource(table, hash)` returns. -/
def incrementRefcnt (hash : Sha1Hash) : LookupTable → LookupTable
  | [] => []
  | e :: t => if e.hash = hash then { e with refcnt := e.refcnt + 1 } :: t
    else e :: incrementRefcnt hash t

/-- Modelled from the spec ("on delete-image, refcounts are decremented"; the lookup-table
code is not among the sources): the refcount of the entry for `hash` drops by one, and the
entry leaves the table when it reaches zero. -/
def decrementRefcnt (hash : Sha1Hash) : LookupTable → LookupTable
  | [] => []
  | e :: t => if e.hash = hash then (if e.refcnt ≤ 1 then t else { e with refcnt := e.refcnt - 1 } :: t)
    else e :: decrementRefcnt hash t

/-- `lookup_table_remove(table, lte)` for the entry with hash `hash`. -/
def lookupTableRemove (table : LookupTable) (hash : Sha1Hash) : LookupTable :=
  table.eraseP (·.hash = hash)

/-- `struct image_metadata`: the dentry tree, and the hash of `lookup_table_entry`, the entry
of the image's metadata resource. -/
structure ImageMetadata where
  rootDentry : List Dentry
  metadataHash : Sha1Hash
  deriving DecidableEq, Repr

/-- The fields of `WIMStruct` the image operations change. -/
structure WimStruct where
  lookupTable : LookupTable
  imageMetadata : List ImageMetadata
  bootIdx : Nat
  deriving DecidableEq, Repr

/-- `hdr.image_count`. -/
def WimStruct.imageCount (w : WimStruct) : Nat := w.imageMetadata.length

/-- `wim_get_current_image_metadata(w)` once image `image` is selected. -/
def wimGetCurrentImageMetadata (w : WimStruct) (image : Nat) : ImageMetadata :=
  w.imageMetadata.getD (image - 1) ⟨[], 0⟩

/-- `wim_root_dentry(w)` once image `image` is selected. -/
def wimRootDentry (w : WimStruct) (image : Nat) : List Dentry :=
  (wimGetCurrentImageMetadata w image).rootDentry

/-- The entry `add_new_dentry_tree` makes for an image's metadata resource: flags
`WIM_RESHDR_FLAG_METADATA` and a random hash. -/
def metadataEntry (hash : Sha1Hash) : WimLookupTableEntry :=
  ⟨hash, ⟨0, ⟨0x02⟩, 0, 0⟩, .inWim, 1⟩

/-- The image `hdr.boot_idx` designates, `none` for 0. -/
def WimStruct.bootImage (w : WimStruct) : Option ImageMetadata :=
  if w.bootIdx = 0 then none else w.imageMetadata[w.bootIdx - 1]?

/-- Modelled from the spec ("on delete-image, refcounts are decremented"):
`free_dentry_tree(root, lookup_table, true)` drops one reference to the entry of each
non-directory dentry. -/
def freeDentryTree (root : List Dentry) (table : LookupTable) : LookupTable :=
  root.foldl (fun t d => if d.isDirectory then t else decrementRefcnt d.hash t) table

/-! ## What the calls outside the model answer -/

/-- The outcomes of the allocations a call makes, in order (`MALLOC`, `CALLOC`, `STRDUP`,
`new_lookup_table_entry`), and the hashes `randomize_byte_array` writes. Past its end, an
allocation succeeds and a random hash is zero. -/
structure Tapes where
  allocs : List Bool := []
  rands : List Sha1Hash := []
  deriving DecidableEq, Repr

/-- The next allocation: whether it succeeds. -/
def Tapes.alloc (t : Tapes) : Bool × Tapes :=
  match t.allocs with
  | [] => (true, t)
  | b :: bs => (b, { t with allocs := bs })

/-- The next 20 bytes of `randomize_byte_array`. -/
def Tapes.random (t : Tapes) : Sha1Hash × Tapes :=
  match t.rands with
  | [] => (0, t)
  | r :: rs => (r, { t with rands := rs })

/-- Whether `wimlib_select_image` can load an image's metadata resource, whether
`wimlib_image_name_in_use` finds the name, and what the XML update returns. -/
structure Externals where
  selectRet : Option WimlibErr := none
  nameInUse : Bool := false
  xmlRet : Option WimlibErr := none
  deriving DecidableEq, Repr

/-- Modelled from the spec (`wimlib_select_image` is not among the sources; images are
numbered `1..N`): selecting an image outside `1..image_count` fails with
`WIMLIB_ERR_INVALID_IMAGE`, and loading its metadata may fail. -/
def wimlibSelectImage (ext : Externals) (w : WimStruct) (image : Nat) : Option WimlibErr :=
  if image = 0 ∨ w.imageCount < image then some .invalidImage else ext.selectRet

/-- Modelled from the spec (`wimlib_set_boot_idx` is not among the sources; the boot index is
0 or an image number): the boot index becomes `idx` when it is at most `image_count`. -/
def wimlibSetBootIdx (w : WimStruct) (idx : Nat) : WimStruct :=
  if idx ≤ w.imageCount then { w with bootIdx := idx } else w

/-- An operation's result: the return value, with the WIM and the tapes after the call. -/
abbrev ModifyResult := EStateM.Result WimlibErr (WimStruct × Tapes) Unit

/-- An image argument: `WIM_ALL_IMAGES`, or an image number. -/
inductive ImageSel where
  | all
  | one (image : Nat)
  deriving DecidableEq, Repr

/-! ## `wimlib_add_image` -/

/-- A file of the tree on disk, as `stat` finds it. -/
inductive DiskEntry where
  /-- A file `stat` fails on. -/
  | unstatable
  /-- A directory, which `opendir` opens when `openOk`, with the entries `readdir` gives
  other than `.` and `..`, in that order. -/
  | dir (openOk : Bool) (children : List DiskEntry)
  /-- A non-directory of `size` bytes at `path`, with what `sha1sum` returns for it. -/
  | file (path : String) (size : Nat) (sha1 : Except WimlibErr Sha1Hash)

/-- The `n` allocations of a walk that allocates once per dentry, up to the first failure:
whether all succeed. -/
def Tapes.allocN (t : Tapes) : Nat → Bool × Tapes
  | 0 => (true, t)
  | n + 1 =>
    match t.alloc with
    | (false, t) => (false, t)
    | (true, t) => t.allocN n

/-- The non-directory branch of `build_dentry_tree`: one more reference to the entry of the
file's hash, or a new entry for the file on disk with refcount 1. -/
def captureNonDirectory (table : LookupTable) (t : Tapes) (path : String) (size : Nat)
    (hash : Sha1Hash) : Except WimlibErr (LookupTable × Tapes) :=
  match lookupResource table hash with
  | some _ => .ok (incrementRefcnt hash table, t)
  | none =>
    -- `STRDUP(source_path)`, then `new_lookup_table_entry()`
    match t.alloc with
    | (false, _) => .error .nomem
    | (true, t) =>
      match t.alloc with
      | (false, _) => .error .nomem
      | (true, t) =>
        .ok (lookupTableInsert table ⟨hash, ⟨size, {}, 0, size⟩, .inFileOnDisk path, 1⟩, t)

/-- What a call of `build_dentry_tree` leaves: its return value (`none` for 0), the dentries
linked under the dentry it was given, that one first, in the order `for_dentry_in_tree`
visits them, the lookup table and the tapes. -/
abbrev BuildResult := Option WimlibErr × List Dentry × LookupTable × Tapes

mutual

/-- `build_dentry_tree(root, source_path, root_stat, lookup_table)` for a file `stat`
succeeded on. A directory that `opendir` cannot open fails with `WIMLIB_ERR_OPEN`; a
non-directory fails with what `sha1sum` or an allocation returns. -/
def buildDentryTree (table : LookupTable) (t : Tapes) : DiskEntry → BuildResult
  | .unstatable => (some .stat, [], table, t)
  | .dir false _ => (some .open, [⟨true, 0⟩], table, t)
  | .dir true children =>
    match buildChildren table t children with
    | (ret, ds, table, t) => (ret, ⟨true, 0⟩ :: ds, table, t)
  | .file path size sha1 =>
    match sha1 with
    | .error e => (some e, [], table, t)
    | .ok hash =>
      match captureNonDirectory table t path size hash with
      | .error e => (some e, [], table, t)
      | .ok (table, t) => (none, [⟨false, hash⟩], table, t)

/-- The `readdir` loop of `build_dentry_tree`: each entry is `stat`ed and built, and linked
under the directory (`link_dentry`) when its build returns 0. The loop stops at the first
failure, whose entry is not linked, with what that entry's build changed in the table. -/
def buildChildren (table : LookupTable) (t : Tapes) : List DiskEntry → BuildResult
  | [] => (none, [], table, t)
  | .unstatable :: _ => (some .stat, [], table, t)
  | c :: cs =>
    match buildDentryTree table t c with
    | (some e, _, table, t) => (some e, [], table, t)
    | (none, ds, table, t) =>
      match buildChildren table t cs with
      | (ret, dss, table, t) => (ret, ds ++ dss, table, t)

end

/-- `add_new_dentry_tree(w, root_dentry)`: a metadata entry with a random hash goes in the
lookup table, the image is appended, and the new image is selected. -/
def addNewDentryTree (ext : Externals) (w : WimStruct) (t : Tapes) (root : List Dentry) :
    ModifyResult :=
  match t.alloc with
  | (false, t) => .error .nomem (w, t)
  | (true, t) =>
    match t.alloc with
    | (false, t) => .error .nomem (w, t)
    | (true, t) =>
      let (hash, t) := t.random
      let w := { w with
        lookupTable := lookupTableInsert w.lookupTable (metadataEntry hash)
        imageMetadata := w.imageMetadata ++ [⟨root, hash⟩] }
      match wimlibSelectImage ext w w.imageCount with
      | some e => .error e (w, t)
      | none => .ok () (w, t)

/-- `wimlib_add_image(w, dir, name, description, flags_element, flags)`, for the tree at
`dir` (`none` for a `NULL` `dir`); `boot` is `WIMLIB_ADD_IMAGE_FLAG_BOOT`.
`calculate_dentry_full_path` (wimlib's, not among the sources) allocates a dentry's full path:
once for the root, then once for each dentry of the tree. On a failure once the tree is
being built (`err1`), `free_dentry_tree` drops the references of the dentries linked under the
root. -/
def wimlibAddImage (ext : Externals) (w : WimStruct) (t : Tapes) (dir : Option DiskEntry)
    (name : String) (boot : Bool) : ModifyResult :=
  if name = "" then .error .invalidParam (w, t)
  else match dir with
  | none => .error .invalidParam (w, t)
  | some root =>
    if ext.nameInUse then .error .imageNameCollision (w, t)
    else match t.alloc with
    | (false, t) => .error .nomem (w, t)
    | (true, t) =>
    match root with
    | .unstatable => .error .stat (w, t)
    | .file .. => .error .notdir (w, t)
    | .dir .. =>
      match buildDentryTree w.lookupTable t root with
      | (ret, dentries, table, t) =>
        let err1 (e : WimlibErr) (w : WimStruct) (t : Tapes) : ModifyResult :=
          .error e ({ w with lookupTable := freeDentryTree dentries w.lookupTable }, t)
        let w := { w with lookupTable := table }
        match ret with
        | some e => err1 e w t
        | none =>
          match t.allocN dentries.length with
          | (false, t) => err1 .nomem w t
          | (true, t) =>
            match addNewDentryTree ext w t dentries with
            | .error e (w, t) => err1 e w t
            | .ok () (w, t) =>
              let w := if boot then wimlibSetBootIdx w w.imageCount else w
              match ext.xmlRet with
              | some e => err1 e w t
              | none => .ok () (w, t)

/-! ## `wimlib_export_image` -/

/-- `add_lookup_table_entry_to_dest_wim(dentry, &wims)`: the dentry's stream, when the source
WIM has an entry for it, gets one more reference in the destination table, or a new entry
there that points at the source's resource. -/
def addLookupTableEntryToDestWim (src : WimStruct) (dest : LookupTable) (t : Tapes)
    (d : Dentry) : Option WimlibErr × LookupTable × Tapes :=
  if d.isDirectory then (none, dest, t)
  else match lookupResource src.lookupTable d.hash with
  | none => (none, dest, t)
  | some srcEntry =>
    match lookupResource dest d.hash with
    | some _ => (none, incrementRefcnt d.hash dest, t)
    | none =>
      match t.alloc with
      | (false, t) => (some .nomem, dest, t)
      | (true, t) => (none, lookupTableInsert dest ⟨d.hash, srcEntry.resourceEntry, .inWim, 1⟩, t)

/-- `for_dentry_in_tree(root, add_lookup_table_entry_to_dest_wim, &wims)`: the visitor on each
dentry in turn, stopping at the first nonzero return, which it returns. (`for_dentry_in_tree`
is not among the sources; it is wimlib's preorder walk.) -/
def addLookupTableEntriesToDestWim (src : WimStruct) :
    List Dentry → LookupTable → Tapes → Option WimlibErr × LookupTable × Tapes
  | [], dest, t => (none, dest, t)
  | d :: ds, dest, t =>
    match addLookupTableEntryToDestWim src dest t d with
    | (none, dest, t) => addLookupTableEntriesToDestWim src ds dest t
    | (some e, dest, t) => (some e, dest, t)

/-- `wimlib_export_image` for one source image: select it, check the name, give the
destination the references of its dentries, and append it. The return value of the
`for_dentry_in_tree` call is not read. -/
def exportOneImage (ext : Externals) (src : WimStruct) (srcImage : Nat) (dest : WimStruct)
    (t : Tapes) (boot : Bool) : ModifyResult :=
  match wimlibSelectImage ext src srcImage with
  | some e => .error e (dest, t)
  | none =>
    if ext.nameInUse then .error .imageNameCollision (dest, t)
    else
      let root := wimRootDentry src srcImage
      let (_, table, t) := addLookupTableEntriesToDestWim src root dest.lookupTable t
      match addNewDentryTree ext { dest with lookupTable := table } t root with
      | .error e s => .error e s
      | .ok () (dest, t) =>
        let dest := if boot then { dest with bootIdx := dest.imageCount } else dest
        match ext.xmlRet with
        | some e => .error e (dest, t)
        | none => .ok () (dest, t)

/-- The loop of a multi-image export: images `i, i + 1, ...`, `k` of them, each exported
with the boot flag only when it is the source's boot image. -/
def exportAllImages (ext : Externals) (src : WimStruct) (boot : Bool) :
    Nat → Nat → WimStruct → Tapes → ModifyResult
  | 0, _, dest, t => .ok () (dest, t)
  | k + 1, i, dest, t =>
    match exportOneImage ext src i dest t (boot && i == src.bootIdx) with
    | .ok () (dest, t) => exportAllImages ext src boot k (i + 1) dest t
    | .error e s => .error e s

/-- `wimlib_export_image(src_wim, src_image, dest_wim, dest_name, dest_description, flags)`
into a destination other than the source; `named` is `dest_name || dest_description`, and
`boot` is `WIMLIB_EXPORT_FLAG_BOOT`. -/
def wimlibExportImage (ext : Externals) (src : WimStruct) (srcImage : ImageSel)
    (dest : WimStruct) (t : Tapes) (named boot : Bool) : ModifyResult :=
  match srcImage with
  | .all =>
    if 1 < src.imageCount then
      if boot ∧ src.bootIdx = 0 then .error .invalidParam (dest, t)
      else if named then .error .invalidParam (dest, t)
      else exportAllImages ext src boot src.imageCount 1 dest t
    else exportOneImage ext src 1 dest t boot
  | .one image => exportOneImage ext src image dest t boot

/-! ## `wimlib_delete_image` -/

/-- The loop of `wimlib_delete_image` that closes the gap: `image_metadata[i] =
image_metadata[i + 1]` for `k` values of `i` from `i`. -/
def closeGap : List ImageMetadata → Nat → Nat → List ImageMetadata
  | md, _, 0 => md
  | md, i, k + 1 => closeGap (md.set i (md.getD (i + 1) ⟨[], 0⟩)) (i + 1) k

/-- `wimlib_delete_image(w, image)` for one image number. -/
def deleteOneImage (ext : Externals) (w : WimStruct) (t : Tapes) (image : Nat) : ModifyResult :=
  match wimlibSelectImage ext w image with
  | some e => .error e (w, t)
  | none =>
    let imd := wimGetCurrentImageMetadata w image
    let table := lookupTableRemove (freeDentryTree imd.rootDentry w.lookupTable) imd.metadataHash
    let md := (closeGap w.imageMetadata (image - 1) (w.imageCount - image)).take (w.imageCount - 1)
    let bootIdx := if w.bootIdx = image then 0
      else if w.bootIdx > image then w.bootIdx - 1 else w.bootIdx
    .ok () (⟨table, md, bootIdx⟩, t)

/-- `wimlib_delete_image` with `WIM_ALL_IMAGES`: image 1, `k` times. -/
def deleteFirstImages (ext : Externals) : Nat → WimStruct → Tapes → ModifyResult
  | 0, w, t => .ok () (w, t)
  | k + 1, w, t =>
    match deleteOneImage ext w t 1 with
    | .ok () (w, t) => deleteFirstImages ext k w t
    | .error e s => .error e s

/-- `wimlib_delete_image(w, image)`. -/
def wimlibDeleteImage (ext : Externals) (w : WimStruct) (t : Tapes) : ImageSel → ModifyResult
  | .all => deleteFirstImages ext w.imageCount w t
  | .one image => deleteOneImage ext w t image

/-! ## Sequences of calls -/

/-- A call of one of the three operations on a WIM, with what the calls outside the model
answer; an export reads a second WIM, the source. -/
inductive ImageOp where
  | addImage (ext : Externals) (dir : Option DiskEntry) (name : String) (boot : Bool)
  | exportImage (ext : Externals) (src : WimStruct) (srcImage : ImageSel) (named boot : Bool)
  | deleteImage (ext : Externals) (image : ImageSel)

/-- The call on `w`. -/
def ImageOp.apply (w : WimStruct) (t : Tapes) : ImageOp → ModifyResult
  | .addImage ext dir name boot => wimlibAddImage ext w t dir name boot
  | .exportImage ext src srcImage named boot => wimlibExportImage ext src srcImage w t named boot
  | .deleteImage ext image => wimlibDeleteImage ext w t image

/-- Calls in order, each returning 0: the WIM and the tapes after the last, or `none` when a
call fails. -/
def imageRun : WimStruct → Tapes → List ImageOp → Option (WimStruct × Tapes)
  | w, t, [] => some (w, t)
  | w, t, op :: ops =>
    match op.apply w t with
    | .ok () (w, t) => imageRun w t ops
    | .error _ _ => none

end WimLean
