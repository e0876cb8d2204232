import WimLean.Capture.SecurityIds

/-!
# WimLean — capturing an NTFS directory tree (`build_dentry_tree_ntfs`)

The model of `build_dentry_tree_ntfs_recursive` and of its `ntfs_readdir` callback
`wim_ntfs_capture_filldir`, over a volume given as a tree of inodes (`NtfsInode`): each
directory lists the entries `ntfs_readdir` reports, each entry names the inode
`ntfs_inode_open` opens for it, or `unopenable` when that fails.

The callback does three things. A DOS name goes into the directory's `dos_name_map`
(`insertDosName`), whose entries `set_dentry_dos_name` gives to the children with a Win32 name
once the directory is read. Every other name is appended to the path buffer that
`build_dentry_tree_ntfs` allocates with 32768 bytes, with no check of its length (`appendPath`):
the model records the offset of every byte written there. And the inode is opened and captured,
its dentry becoming a child.

The results: an entry whose inode does not open is dropped while the capture returns 0
(`buildDentryTreeNtfs_dropsUnopenable`); a DOS name of more than 12 units reaches
`wimlib_assert` (`insertDosName_longName_asserts`); a chain of directories deep enough writes
past the path buffer and the capture still returns 0 (`buildDentryTreeNtfs_pathOverflow`); on a
volume whose paths fit (`NtfsInode.pathsFit`), every write stays inside the buffer
(`buildDentryTreeNtfs_pathWrites`).

What the calls outside the model answer is an input (`NtfsCaptureEnv`): `utf16_to_utf8`, the
capture configuration, the digest function, and what `ntfs_readdir` returns when the callback
stops it (libntfs-3g is not among the sources). The allocations of dentries and of short names
succeed in the model.
-/

namespace WimLean

/-! ## The DOS-name map -/

/-- The `FILE_NAME_WIN32` and `FILE_NAME_DOS` bits of a `name_type`: `FILE_NAME_POSIX` is 0,
and `FILE_NAME_WIN32_AND_DOS` is 3 (libntfs-3g's `layout.h`). -/
def fileNameWin32 : Nat := 1
def fileNameDos : Nat := 2

/-- `struct dos_name_node`: the name `memcpy` copies into `dos_name` and `name_len_bytes`. -/
structure DosNameNode where
  dosName : List UInt16
  nameLenBytes : Nat
  deriving DecidableEq, Repr

/-- `struct dos_name_map`, keyed by NTFS inode number. -/
abbrev DosNameMap := SearchTree DosNameNode

/-- Where `insert_dos_name` goes: 0 with the map after it, -1, or its `wimlib_assert`. -/
inductive DosInsert where
  | ok (map : DosNameMap)
  | fail
  | assertFails
  deriving DecidableEq, Repr

/-- `insert_dos_name(map, dos_name, name_len, ntfs_ino)`; `allocOk` is whether `MALLOC`
succeeds. A name of more than 12 UTF-16 units fails `wimlib_assert(name_len * 2 <= 24)` (built
without assertions, the `memcpy` after it writes past `dos_name[24]`); a second DOS name for an
inode returns -1. -/
def insertDosName (allocOk : Bool) (map : DosNameMap) (dosName : List UInt16) (ntfsIno : Nat) :
    DosInsert :=
  if !allocOk then .fail
  else if ¬(dosName.length * 2 ≤ 24) then .assertFails
  else match map.insert ntfsIno ⟨dosName, dosName.length * 2⟩ with
    | some map => .ok map
    | none => .fail

/-- `lookup_dos_name(map, ntfs_ino)`. -/
def lookupDosName (map : DosNameMap) (ntfsIno : Nat) : Option DosNameNode := map.lookup ntfsIno

/-! ## The volume and the dentries -/

/-- What `ntfs_xattr_system_getxattr(..., XATTR_NTFS_ACL, ...)` gives for an inode: nothing
(0), an error (< 0), or a descriptor, with the outcomes of the allocations `sd_set_add_sd`
makes for it. -/
inductive SdXattr where
  | none
  | error
  | descriptor (bytes : List UInt8) (allocs : List Bool)
  deriving DecidableEq, Repr

mutual

/-- An NTFS inode as the capture reads it. -/
inductive NtfsInode where
  /-- An inode `ntfs_inode_open` cannot open. -/
  | unopenable
  /-- A file or a reparse point: whether reading its attributes returns 4 bytes, what
  `capture_ntfs_streams` returns (`none` for 0), and its security descriptor. -/
  | file (attrsOk : Bool) (streamsRet : Option WimlibErr) (sd : SdXattr)
  /-- A directory, with the entries `ntfs_readdir` reports for it in order. -/
  | dir (attrsOk : Bool) (entries : List NtfsDirEntry) (sd : SdXattr)

/-- An entry `ntfs_readdir` reports: its UTF-16 name, its `name_type`, the inode number
`mref & MFT_REF_MASK_CPU`, whether the `MALLOC` of `insert_dos_name` succeeds for it, and the
inode. -/
inductive NtfsDirEntry where
  | mk (name : List UInt16) (nameType : Nat) (ino : Nat) (allocOk : Bool) (inode : NtfsInode)

end

/-- A captured dentry: its name (`path_basename` of its path), whether it has a Win32 name,
`i_ino`, its `short_name`, `i_security_id`, and its children. -/
inductive WimDentry where
  | mk (name : List UInt8) (isWin32Name : Bool) (ino : Nat) (shortName : Option (List UInt16))
      (securityId : Int) (children : List WimDentry)
  deriving Repr

/-- The children of a dentry. -/
def WimDentry.children : WimDentry → List WimDentry
  | .mk _ _ _ _ _ children => children

/-- What the capture calls outside the model answers: `sha1_buffer`, `utf16_to_utf8` (`none`
when it fails), `exclude_path` on a path, and whether `ntfs_readdir` returns nonzero when its
callback returns nonzero. -/
structure NtfsCaptureEnv where
  sha1 : List UInt8 → Sha1Hash
  utf16ToUtf8 : List UInt16 → Option (List UInt8)
  excludePath : List UInt8 → Bool
  readdirFailsOnStop : Bool

/-- What the capture changes as it goes: the security descriptors, and the offsets of the path
buffer it has written, in order. -/
structure NtfsCaptureState where
  sdSet : SdSet
  pathWrites : List Nat

/-- What `wim_ntfs_capture_filldir` returns: 0, -1, or the return value of the recursive
capture. -/
inductive FilldirRet where
  | zero
  | minusOne
  | err (e : WimlibErr)
  deriving DecidableEq, Repr

/-- `'/'`, `'.'`. -/
def slash : UInt8 := 47
def dot : UInt8 := 46

/-- The path of an entry: `ctx->path[path_len++] = '/'` unless the directory is the root
(`path_len == 1`), then `memcpy` of the UTF-8 name and its NUL. The new path, and the offsets
of the path buffer written. -/
def appendPath (path name : List UInt8) : List UInt8 × List Nat :=
  let sep := if path.length ≠ 1 then [slash] else []
  let start := path.length + sep.length
  (path ++ sep ++ name, (if path.length ≠ 1 then [path.length] else []) ++
    List.range' start (name.length + 1))

/-- `path_basename(path)`: the bytes after the last `'/'`. -/
def pathBasename (path : List UInt8) : List UInt8 :=
  (path.reverse.takeWhile (· ≠ slash)).reverse

/-- `set_dentry_dos_name(dentry, map)`: a dentry with a Win32 name gets the DOS name recorded
for its inode as `short_name`. -/
def setDentryDosName (map : DosNameMap) : WimDentry → WimDentry
  | .mk name isWin32Name ino shortName securityId children =>
    if isWin32Name then
      match lookupDosName map ino with
      | some node => .mk name isWin32Name ino (some node.dosName) securityId children
      | none => .mk name isWin32Name ino shortName securityId children
    else .mk name isWin32Name ino shortName securityId children

/-- The security ID of a captured inode (the end of `build_dentry_tree_ntfs_recursive`): the
return value, `i_security_id`, and the security data after it; `none` when `sd_set_add_sd`
asserts, and when `ntfs_xattr_system_getxattr` fails: its negative `ret`, compared with
`sizeof(sd)` as a `size_t`, passes `ret > sizeof(sd)`, and `alloca((size_t)ret)` asks for more
than any stack holds. -/
def captureSecurityId (env : NtfsCaptureEnv) (sd : SdXattr) (sdSet : SdSet) :
    Option (Option WimlibErr × Int × SdSet) :=
  match sd with
  | .none => some (none, -1, sdSet)
  | .error => none
  | .descriptor bytes allocs =>
    match sdSetAddSd env.sha1 allocs sdSet bytes with
    | none => none
    | some (securityId, sdSet) =>
      if securityId = -1 then some (some .nomem, -1, sdSet) else some (none, securityId, sdSet)

mutual

/-- `build_dentry_tree_ntfs_recursive(root_p, dir_ni, ni, path, path_len, name_type, ...)`
for the inode `ino`: its return value (`none` for 0), the dentry it stores in `*root_p`, and
the state after it; `none` when an assertion fails. An excluded path gives no dentry; a
directory's entries are read through `ntfsReaddir`, and when `ntfs_readdir` returns 0 the
children get their DOS names. -/
def buildDentryTreeNtfsRecursive (env : NtfsCaptureEnv) (path : List UInt8) (nameType ino : Nat) :
    NtfsInode → NtfsCaptureState → Option (Option WimlibErr × Option WimDentry × NtfsCaptureState)
  | .unopenable, st => some (some .ntfs3g, none, st)
  | .file attrsOk streamsRet sd, st =>
    if env.excludePath path then some (none, none, st)
    else if !attrsOk then some (some .ntfs3g, none, st)
    else
      let isWin32Name := nameType &&& fileNameWin32 ≠ 0
      match streamsRet with
      | some e => some (some e, some (.mk (pathBasename path) isWin32Name ino none (-1) []), st)
      | none =>
        (captureSecurityId env sd st.sdSet).map fun (ret, securityId, sdSet) =>
          (ret, some (.mk (pathBasename path) isWin32Name ino none securityId []),
            { st with sdSet := sdSet })
  | .dir attrsOk entries sd, st =>
    if env.excludePath path then some (none, none, st)
    else if !attrsOk then some (some .ntfs3g, none, st)
    else
      let isWin32Name := nameType &&& fileNameWin32 ≠ 0
      match ntfsReaddir env path entries .leaf [] st with
      | none => none
      | some (stop, map, children, st) =>
        if stop ≠ .zero ∧ env.readdirFailsOnStop then
          some (some .ntfs3g, some (.mk (pathBasename path) isWin32Name ino none (-1) children), st)
        else
          let children := children.map (setDentryDosName map)
          (captureSecurityId env sd st.sdSet).map fun (ret, securityId, sdSet) =>
            (ret, some (.mk (pathBasename path) isWin32Name ino none securityId children),
              { st with sdSet := sdSet })

/-- `ntfs_readdir(dir_ni, &pos, &ctx, wim_ntfs_capture_filldir)` over the directory's entries:
the callback on each in turn, stopping at the first nonzero return, which it gives back with
the DOS-name map, the children added so far (`dentry_add_child`, also for a child whose capture
failed) and the state. -/
def ntfsReaddir (env : NtfsCaptureEnv) (path : List UInt8) :
    List NtfsDirEntry → DosNameMap → List WimDentry → NtfsCaptureState →
      Option (FilldirRet × DosNameMap × List WimDentry × NtfsCaptureState)
  | [], map, children, st => some (.zero, map, children, st)
  | e :: es, map, children, st =>
    match wimNtfsCaptureFilldir env path e map st with
    | none => none
    | some (ret, map, child, st) =>
      let children := children ++ child.toList
      if ret = .zero then ntfsReaddir env path es map children st
      else some (ret, map, children, st)

/-- `wim_ntfs_capture_filldir(ctx, name, name_len, name_type, pos, mref, dt_type)`: its return
value, the DOS-name map, the child dentry it adds, and the state. A DOS name is recorded, and a
DOS-only name stops there. A name `utf16_to_utf8` cannot convert returns -1; `.` and `..` are
skipped. When `ntfs_inode_open` fails, the entry is skipped with `ret` still 0. -/
def wimNtfsCaptureFilldir (env : NtfsCaptureEnv) (path : List UInt8) :
    NtfsDirEntry → DosNameMap → NtfsCaptureState →
      Option (FilldirRet × DosNameMap × Option WimDentry × NtfsCaptureState)
  | .mk name nameType ino allocOk inode, map, st =>
    let dos : Option (Option FilldirRet × DosNameMap) :=
      if nameType &&& fileNameDos ≠ 0 then
        match insertDosName allocOk map name ino with
        | .assertFails => none
        | .fail => some (some .minusOne, map)
        | .ok map => some (if nameType = fileNameDos then some .zero else none, map)
      else some (none, map)
    match dos with
    | none => none
    | some (some ret, map) => some (ret, map, none, st)
    | some (none, map) =>
      match env.utf16ToUtf8 name with
      | none => some (.minusOne, map, none, st)
      | some utf8Name =>
        if utf8Name = [dot] ∨ utf8Name = [dot, dot] then some (.zero, map, none, st)
        else match inode with
          | .unopenable => some (.zero, map, none, st)
          | inode =>
            let (childPath, writes) := appendPath path utf8Name
            match buildDentryTreeNtfsRecursive env childPath nameType ino inode
                { st with pathWrites := st.pathWrites ++ writes } with
            | none => none
            | some (ret, child, st) =>
              some ((match ret with | none => .zero | some e => .err e), map, child, st)

end

/-- `build_dentry_tree_ntfs` on a volume whose root inode is `root`: `path` is set to `"/"`
(bytes 0 and 1 of the buffer), and the root is captured with `FILE_NAME_POSIX`. -/
def buildDentryTreeNtfs (env : NtfsCaptureEnv) (root : NtfsInode) (sdSet : SdSet) :
    Option (Option WimlibErr × Option WimDentry × NtfsCaptureState) :=
  match root with
  | .unopenable => some (some .ntfs3g, none, ⟨sdSet, []⟩)
  | root => buildDentryTreeNtfsRecursive env [slash] 0 fileRoot root ⟨sdSet, [0, 1]⟩

/-! ## Entries that are never captured -/

/-- An entry with a Win32 or POSIX name whose inode `ntfs_inode_open` cannot open: the callback
returns 0 and adds no child. -/
theorem wimNtfsCaptureFilldir_unopenable {env : NtfsCaptureEnv} {path : List UInt8}
    {name : List UInt16} {nameType ino : Nat} {allocOk : Bool} {map : DosNameMap}
    {st : NtfsCaptureState} {utf8Name : List UInt8} (hdos : nameType &&& fileNameDos = 0)
    (hname : env.utf16ToUtf8 name = some utf8Name) :
    wimNtfsCaptureFilldir env path (.mk name nameType ino allocOk .unopenable) map st =
      some (.zero, map, none, st) := by
  simp only [wimNtfsCaptureFilldir, hdos, ne_eq, not_true_eq_false, ↓reduceIte, hname]
  split_ifs <;> rfl

/-- `ntfs_readdir` over entries that all have a Win32 or POSIX name, converted by
`utf16_to_utf8`, and an inode that cannot be opened: every callback returns 0 and no child is
added. -/
theorem ntfsReaddir_unopenable {env : NtfsCaptureEnv} {path : List UInt8}
    {map : DosNameMap} {children : List WimDentry} {st : NtfsCaptureState} :
    ∀ entries : List (List UInt16 × Nat × Nat × Bool),
      (∀ e ∈ entries, e.2.1 &&& fileNameDos = 0 ∧ (env.utf16ToUtf8 e.1).isSome) →
      ntfsReaddir env path (entries.map fun e => .mk e.1 e.2.1 e.2.2.1 e.2.2.2 .unopenable)
          map children st = some (.zero, map, children, st)
  | [], _ => rfl
  | e :: es, h => by
    obtain ⟨hdos, hsome⟩ := h e (List.mem_cons_self _ _)
    obtain ⟨u, hu⟩ := Option.isSome_iff_exists.mp hsome
    rw [List.map_cons, ntfsReaddir, wimNtfsCaptureFilldir_unopenable hdos hu]
    simpa using ntfsReaddir_unopenable es fun e' he' => h e' (List.mem_cons_of_mem _ he')

/-- **A capture returns 0 without the entries it cannot open.** For every root directory whose
entries all have a Win32 or POSIX name that `utf16_to_utf8` converts and an inode that
`ntfs_inode_open` cannot open, `build_dentry_tree_ntfs` returns 0 with a root dentry without
children: `wim_ntfs_capture_filldir` reports the failure and returns the 0 that `ret` still
holds. -/
theorem buildDentryTreeNtfs_dropsUnopenable (env : NtfsCaptureEnv) (sdSet : SdSet)
    (entries : List (List UInt16 × Nat × Nat × Bool)) (hroot : env.excludePath [slash] = false)
    (hent : ∀ e ∈ entries, e.2.1 &&& fileNameDos = 0 ∧ (env.utf16ToUtf8 e.1).isSome) :
    buildDentryTreeNtfs env
        (.dir true (entries.map fun e => .mk e.1 e.2.1 e.2.2.1 e.2.2.2 .unopenable) .none) sdSet =
      some (none, some (.mk [] false fileRoot none (-1) []), ⟨sdSet, [0, 1]⟩) := by
  simp only [buildDentryTreeNtfs, buildDentryTreeNtfsRecursive, hroot, ntfsReaddir_unopenable _ hent]
  rfl

/-- A root directory with one file `a` (a Win32 name) that `ntfs_inode_open` cannot open: the
capture returns 0 with a root that has no child. -/
theorem buildDentryTreeNtfs_dropsUnopenable_oneFile :
    buildDentryTreeNtfs ⟨fun _ => 0, fun name => some (name.map UInt16.toUInt8), fun _ => false, false⟩
        (.dir true [.mk [97] fileNameWin32 40 true .unopenable] .none) (SdSet.empty 0) =
      some (none, some (.mk [] false fileRoot none (-1) []), ⟨SdSet.empty 0, [0, 1]⟩) :=
  buildDentryTreeNtfs_dropsUnopenable _ _ [([97], fileNameWin32, 40, true)] rfl (by decide)

/-! ## DOS names longer than 12 units -/

/-- `insert_dos_name` reaches its assertion on every DOS name of more than 12 UTF-16 units
whose node it could allocate. -/
theorem insertDosName_long {map : DosNameMap} {name : List UInt16} {ino : Nat}
    (h : 12 < name.length) : insertDosName true map name ino = .assertFails := by
  simp only [insertDosName, Bool.not_true, Bool.false_eq_true, ↓reduceIte]
  rw [if_pos (by omega)]

/-- The callback on an entry with a DOS name of more than 12 units asserts. -/
theorem wimNtfsCaptureFilldir_longDosName {env : NtfsCaptureEnv} {path : List UInt8}
    {name : List UInt16} {nameType ino : Nat} {inode : NtfsInode} {map : DosNameMap}
    {st : NtfsCaptureState} (h : 12 < name.length) (hdos : nameType &&& fileNameDos ≠ 0) :
    wimNtfsCaptureFilldir env path (.mk name nameType ino true inode) map st = none := by
  rw [wimNtfsCaptureFilldir]
  simp only [if_pos hdos, insertDosName_long h]

/-- **A DOS name of more than 12 units reaches `wimlib_assert`.** `insert_dos_name` asserts on
it rather than returning an error, and so does the capture of every root directory whose first
entry carries one, whatever else the volume holds. -/
theorem insertDosName_longName_asserts :
    (∀ (map : DosNameMap) (name : List UInt16) (ino : Nat), 12 < name.length →
      insertDosName true map name ino = .assertFails) ∧
    (∀ (env : NtfsCaptureEnv) (sdSet : SdSet) (name : List UInt16) (nameType ino : Nat)
      (inode : NtfsInode) (rest : List NtfsDirEntry) (sd : SdXattr),
      12 < name.length → nameType &&& fileNameDos ≠ 0 → env.excludePath [slash] = false →
      buildDentryTreeNtfs env (.dir true (.mk name nameType ino true inode :: rest) sd) sdSet =
        none) := by
  refine ⟨fun _ _ _ h => insertDosName_long h, fun env sdSet name nameType ino inode rest sd h hdos hroot => ?_⟩
  simp only [buildDentryTreeNtfs, buildDentryTreeNtfsRecursive, hroot, Bool.false_eq_true,
    ↓reduceIte, Bool.not_true, ntfsReaddir, wimNtfsCaptureFilldir_longDosName h hdos]

/-- A DOS name of 13 units, the only name of a file of the root: `insert_dos_name` asserts. -/
theorem insertDosName_longName_asserts_thirteenUnits :
    insertDosName true .leaf (List.replicate 13 65) 40 = .assertFails ∧
    buildDentryTreeNtfs ⟨fun _ => 0, fun name => some (name.map UInt16.toUInt8), fun _ => false, false⟩
        (.dir true [.mk (List.replicate 13 65) fileNameDos 40 true (.file true none .none)] .none)
        (SdSet.empty 0) = none :=
  ⟨insertDosName_longName_asserts.1 _ _ _ (by decide),
    insertDosName_longName_asserts.2 _ _ _ _ _ _ _ _ (by decide) (by decide) rfl⟩

/-! ## The path buffer -/

/-- A chain of `n` directories, each the only entry, named `name`, of the one above. -/
def nestedDirs (name : List UInt16) : Nat → NtfsInode
  | 0 => .dir true [] .none
  | n + 1 => .dir true [.mk name 0 64 true (nestedDirs name n)] .none

/-- The path of the directory `n` levels below `path` in the chain. -/
def nestedPath (path name : List UInt8) : Nat → List UInt8
  | 0 => path
  | n + 1 => nestedPath (appendPath path name).1 name n

theorem length_appendPath (path name : List UInt8) :
    (appendPath path name).1.length = path.length + (if path.length ≠ 1 then 1 else 0) + name.length := by
  unfold appendPath; split_ifs <;> simp; omega

/-- Below the root, each level adds a separator and the name. -/
theorem length_nestedPath (name : List UInt8) (hname : name ≠ []) :
    ∀ (n : Nat) (path : List UInt8), path.length ≠ 1 →
      (nestedPath path name n).length = path.length + n * (name.length + 1)
  | 0, _, _ => by simp [nestedPath]
  | n + 1, path, h => by
    have hl := length_appendPath path name
    rw [if_pos h] at hl
    have hn : name.length ≠ 0 := by simpa using hname
    rw [nestedPath, length_nestedPath name hname n _ (by omega), hl]
    ring

/-- A directory without a security descriptor whose entries `ntfs_readdir` reads to the end:
its dentry has the children the callbacks added, with their DOS names. -/
theorem buildDentryTreeNtfsRecursive_dir {env : NtfsCaptureEnv} {path : List UInt8}
    {nameType ino : Nat} {entries : List NtfsDirEntry} {st st' : NtfsCaptureState}
    {map : DosNameMap} {children : List WimDentry} (hex : env.excludePath path = false)
    (hread : ntfsReaddir env path entries .leaf [] st = some (.zero, map, children, st')) :
    buildDentryTreeNtfsRecursive env path nameType ino (.dir true entries .none) st =
      some (none, some (.mk (pathBasename path) (nameType &&& fileNameWin32 ≠ 0) ino none (-1)
        (children.map (setDentryDosName map))), st') := by
  rw [buildDentryTreeNtfsRecursive]
  simp only [hex, Bool.false_eq_true, ↓reduceIte, Bool.not_true, hread, ne_eq, not_true_eq_false,
    false_and, captureSecurityId, Option.map_some']

/-- The callback on an entry with a Win32 or POSIX name, other than `.` and `..`, whose inode
opens: it captures the inode below `path/name` and returns 0 when that capture does. -/
theorem wimNtfsCaptureFilldir_captured {env : NtfsCaptureEnv} {path u : List UInt8}
    {name : List UInt16} {nameType ino : Nat} {allocOk : Bool} {inode : NtfsInode}
    {map : DosNameMap} {st st' : NtfsCaptureState} {child : Option WimDentry}
    (hdos : nameType &&& fileNameDos = 0) (hu : env.utf16ToUtf8 name = some u)
    (hdot : ¬(u = [dot] ∨ u = [dot, dot])) (hopen : inode ≠ .unopenable)
    (hrun : buildDentryTreeNtfsRecursive env (appendPath path u).1 nameType ino inode
      { st with pathWrites := st.pathWrites ++ (appendPath path u).2 } = some (none, child, st')) :
    wimNtfsCaptureFilldir env path (.mk name nameType ino allocOk inode) map st =
      some (.zero, map, child, st') := by
  rw [wimNtfsCaptureFilldir]
  simp only [hdos, ne_eq, not_true_eq_false, ↓reduceIte, hu, hdot, hrun]

/-- **The capture of a chain writes the NUL of its deepest path.** Below any path, the capture
of a chain of `n ≥ 1` directories returns 0 and writes the byte at the length of the deepest
directory's path. -/
theorem buildDentryTreeNtfsRecursive_nestedDirs {env : NtfsCaptureEnv} {name : List UInt16}
    {u : List UInt8} (hu : env.utf16ToUtf8 name = some u) (hdot : ¬(u = [dot] ∨ u = [dot, dot]))
    (hex : ∀ p, env.excludePath p = false) (n : Nat) :
    ∀ (path : List UInt8) (ino : Nat) (st : NtfsCaptureState),
      ∃ D ws, buildDentryTreeNtfsRecursive env path 0 ino (nestedDirs name n) st =
          some (none, some D, { st with pathWrites := st.pathWrites ++ ws }) ∧
        (n = 0 ∨ (nestedPath path u n).length ∈ ws) := by
  induction n with
  | zero =>
    intro path ino st
    refine ⟨.mk (pathBasename path) false ino none (-1) [], [], ?_, .inl rfl⟩
    rw [nestedDirs, @buildDentryTreeNtfsRecursive_dir env path 0 ino [] st st .leaf [] (hex path) rfl,
      List.append_nil]
    rfl
  | succ n ih =>
    intro path ino st
    obtain ⟨D, ws, hrun, hmem⟩ := ih (appendPath path u).1 64
      { st with pathWrites := st.pathWrites ++ (appendPath path u).2 }
    have hchild : nestedDirs name n ≠ .unopenable := by cases n <;> simp [nestedDirs]
    have hfill := @wimNtfsCaptureFilldir_captured env path u name 0 64 true _ .leaf st _ _ rfl hu
      hdot hchild hrun
    have hread : ntfsReaddir env path [.mk name 0 64 true (nestedDirs name n)] .leaf [] st =
        some (.zero, .leaf, [D], { st with pathWrites := st.pathWrites ++ ((appendPath path u).2 ++ ws) }) := by
      simp only [ntfsReaddir, hfill, List.nil_append, Option.toList_some, ↓reduceIte, List.append_assoc]
    refine ⟨.mk (pathBasename path) false ino none (-1) ([D].map (setDentryDosName .leaf)),
      (appendPath path u).2 ++ ws, ?_, .inr ?_⟩
    · rw [nestedDirs, buildDentryTreeNtfsRecursive_dir (hex path) hread]; rfl
    · rcases hmem with rfl | hmem
      · simp only [nestedPath, appendPath]
        split_ifs <;> simp
      · exact List.mem_append_right _ hmem

/-- **The path buffer overflows.** For every name that `utf16_to_utf8` converts to `L ≥ 1`
bytes other than `.` and `..`, and every depth `n`, the capture of a root whose chain of `n`
directories is named so returns 0 and writes the byte at offset `n * (L + 1)` of the 32768-byte
path buffer, with no check: past the buffer once `n * (L + 1) ≥ 32768`. -/
theorem buildDentryTreeNtfs_pathOverflow (env : NtfsCaptureEnv) (name : List UInt16)
    (u : List UInt8) (n totalLength : Nat) (hu : env.utf16ToUtf8 name = some u) (hne : u ≠ [])
    (hdot : ¬(u = [dot] ∨ u = [dot, dot])) (hex : ∀ p, env.excludePath p = false) :
    ∃ D st, buildDentryTreeNtfs env (nestedDirs name n) (SdSet.empty totalLength) =
        some (none, some D, st) ∧ n * (u.length + 1) ∈ st.pathWrites := by
  obtain ⟨D, ws, hrun, hmem⟩ :=
    buildDentryTreeNtfsRecursive_nestedDirs hu hdot hex n [slash] fileRoot ⟨SdSet.empty totalLength, [0, 1]⟩
  have hroot : buildDentryTreeNtfs env (nestedDirs name n) (SdSet.empty totalLength) =
      buildDentryTreeNtfsRecursive env [slash] 0 fileRoot (nestedDirs name n)
        ⟨SdSet.empty totalLength, [0, 1]⟩ := by
    cases n <;> rfl
  refine ⟨D, _, hroot.trans hrun, ?_⟩
  cases n with
  | zero => simp
  | succ m =>
    have hL : u.length ≠ 0 := by simpa using hne
    have hfirst : (appendPath [slash] u).1.length = 1 + u.length := by
      simp only [length_appendPath, List.length_singleton, ne_eq, eq_self_iff_true,
        not_true_eq_false, ↓reduceIte, Nat.add_zero]
    have hlen : (nestedPath [slash] u (m + 1)).length = (m + 1) * (u.length + 1) := by
      rw [nestedPath, length_nestedPath u hne m (appendPath [slash] u).1 (by omega), hfirst]; ring
    exact List.mem_append_right _ (hlen ▸ hmem.resolve_left m.succ_ne_zero)

/-- A chain of 32768 directories named `a`: the capture returns 0 after writing the byte at
offset 65536 of the 32768-byte buffer. -/
theorem buildDentryTreeNtfs_pathOverflow_depth32768 :
    32768 ≤ 65536 ∧ ∃ D st, buildDentryTreeNtfs
        ⟨fun _ => 0, fun name => some (name.map UInt16.toUInt8), fun _ => false, false⟩
        (nestedDirs [97] 32768) (SdSet.empty 0) = some (none, some D, st) ∧ 65536 ∈ st.pathWrites :=
  ⟨by decide, buildDentryTreeNtfs_pathOverflow _ [97] [97] 32768 0 rfl (by decide) (by decide)
    fun _ => rfl⟩


/-! ## Paths that fit the buffer -/

/-- The size `build_dentry_tree_ntfs` allocates for the path buffer. -/
def pathBufferSize : Nat := 32768

mutual

/-- Every path the capture builds below the inode at `path` fits the path buffer with its NUL:
the path of each entry whose name `utf16_to_utf8` converts (but `.` and `..`), and the paths
below it. -/
def NtfsInode.pathsFit (env : NtfsCaptureEnv) (path : List UInt8) : NtfsInode → Bool
  | .unopenable => true
  | .file _ _ _ => true
  | .dir _ entries _ => pathsFitIn env path entries

/-- Every path built for the entries, and below them, fits the path buffer. -/
def pathsFitIn (env : NtfsCaptureEnv) (path : List UInt8) : List NtfsDirEntry → Bool
  | [] => true
  | e :: es => e.pathsFit env path && pathsFitIn env path es

/-- The path of the entry, when its name converts, and every path below it fit the buffer. -/
def NtfsDirEntry.pathsFit (env : NtfsCaptureEnv) (path : List UInt8) : NtfsDirEntry → Bool
  | .mk name _ _ _ inode =>
    match env.utf16ToUtf8 name with
    | none => true
    | some u => u == [dot] || u == [dot, dot] ||
        ((appendPath path u).1.length < pathBufferSize && inode.pathsFit env (appendPath path u).1)

end

/-- From `st` to `st'` the capture writes the path buffer only inside its `pathBufferSize`
bytes. -/
def PathWritesInside (st st' : NtfsCaptureState) : Prop :=
  ∃ ws, st'.pathWrites = st.pathWrites ++ ws ∧ ∀ w ∈ ws, w < pathBufferSize

section PathWrites

variable {st st₁ st₂ : NtfsCaptureState}

theorem PathWritesInside.of_eq (h : st₁.pathWrites = st.pathWrites) : PathWritesInside st st₁ :=
  ⟨[], by rw [h, List.append_nil], by simp⟩

theorem PathWritesInside.trans (h₁ : PathWritesInside st st₁) (h₂ : PathWritesInside st₁ st₂) :
    PathWritesInside st st₂ := by
  obtain ⟨ws₁, e₁, h₁⟩ := h₁
  obtain ⟨ws₂, e₂, h₂⟩ := h₂
  exact ⟨ws₁ ++ ws₂, by rw [e₂, e₁, List.append_assoc], by simpa [or_imp, forall_and] using ⟨h₁, h₂⟩⟩

/-- `appendPath` writes up to the NUL, at the new path's length. -/
theorem appendPath_writes_le (path name : List UInt8) :
    ∀ w ∈ (appendPath path name).2, w ≤ (appendPath path name).1.length := by
  intro w hw
  rw [length_appendPath]
  simp only [appendPath, List.mem_append, List.mem_range'_1] at hw
  split_ifs at hw ⊢ <;> simp at hw <;> omega

/-- The security ID leaves the path buffer alone. -/
theorem captureSecurityId_pathWrites {env : NtfsCaptureEnv} {sd : SdXattr} {x : Option WimlibErr × Int × SdSet}
    (_ : captureSecurityId env sd st.sdSet = some x) : PathWritesInside st { st with sdSet := x.2.2 } :=
  .of_eq rfl

end PathWrites

mutual

/-- **One inode.** The capture of an inode whose paths fit writes the path buffer only inside
it. -/
theorem buildDentryTreeNtfsRecursive_pathWrites (env : NtfsCaptureEnv) :
    ∀ (inode : NtfsInode) (path : List UInt8) (nameType ino : Nat) (st : NtfsCaptureState)
      (r : Option WimlibErr × Option WimDentry × NtfsCaptureState),
      inode.pathsFit env path → buildDentryTreeNtfsRecursive env path nameType ino inode st = some r →
      PathWritesInside st r.2.2
  | .unopenable, _, _, _, st, r, _, hr => by
    cases Option.some.inj hr
    exact .of_eq rfl
  | .file _ streamsRet sd, path, nameType, ino, st, r, _, hr => by
    rw [buildDentryTreeNtfsRecursive] at hr
    split_ifs at hr
    · cases Option.some.inj hr; exact .of_eq rfl
    · cases Option.some.inj hr; exact .of_eq rfl
    cases streamsRet with
    | some e => cases Option.some.inj hr; exact .of_eq rfl
    | none =>
      obtain ⟨x, hx, rfl⟩ := Option.map_eq_some'.mp hr
      exact captureSecurityId_pathWrites hx
  | .dir _ entries sd, path, nameType, ino, st, r, hfit, hr => by
    rw [buildDentryTreeNtfsRecursive] at hr
    split_ifs at hr
    · cases Option.some.inj hr; exact .of_eq rfl
    · cases Option.some.inj hr; exact .of_eq rfl
    split at hr
    · cases hr
    next stop map children st₁ hread =>
    have h₁ := ntfsReaddir_pathWrites env path entries .leaf [] st _ hfit hread
    dsimp only at hr
    split_ifs at hr
    · cases Option.some.inj hr; exact h₁
    · obtain ⟨x, hx, rfl⟩ := Option.map_eq_some'.mp hr
      exact h₁.trans (captureSecurityId_pathWrites hx)
termination_by structural inode => inode

/-- **A directory's loop.** -/
theorem ntfsReaddir_pathWrites (env : NtfsCaptureEnv) (path : List UInt8) :
    ∀ (es : List NtfsDirEntry) (map : DosNameMap) (children : List WimDentry) (st : NtfsCaptureState)
      (r : FilldirRet × DosNameMap × List WimDentry × NtfsCaptureState),
      pathsFitIn env path es → ntfsReaddir env path es map children st = some r →
      PathWritesInside st r.2.2.2
  | [], _, _, st, r, _, hr => by
    cases Option.some.inj hr
    exact .of_eq rfl
  | e :: es, map, children, st, r, hfit, hr => by
    simp only [pathsFitIn, Bool.and_eq_true] at hfit
    rw [ntfsReaddir] at hr
    split at hr
    · cases hr
    next ret map₁ child st₁ hfill =>
    have h₁ := wimNtfsCaptureFilldir_pathWrites env path e map st _ hfit.1 hfill
    dsimp only at hr
    split_ifs at hr
    · exact h₁.trans (ntfsReaddir_pathWrites env path es _ _ st₁ r hfit.2 hr)
    · cases Option.some.inj hr; exact h₁
termination_by structural es => es

/-- **One entry.** The callback writes the path of its entry, which fits, then what the capture
below it writes. -/
theorem wimNtfsCaptureFilldir_pathWrites (env : NtfsCaptureEnv) (path : List UInt8) :
    ∀ (e : NtfsDirEntry) (map : DosNameMap) (st : NtfsCaptureState)
      (r : FilldirRet × DosNameMap × Option WimDentry × NtfsCaptureState),
      e.pathsFit env path → wimNtfsCaptureFilldir env path e map st = some r →
      PathWritesInside st r.2.2.2
  | .mk name nameType ino allocOk inode, map, st, r, hfit, hr => by
    rw [wimNtfsCaptureFilldir] at hr
    dsimp only at hr
    split at hr
    · cases hr
    · cases Option.some.inj hr; exact .of_eq rfl
    split at hr
    · cases Option.some.inj hr; exact .of_eq rfl
    next u hu =>
    split_ifs at hr with hdot
    · cases Option.some.inj hr; exact .of_eq rfl
    split at hr
    · cases Option.some.inj hr; exact .of_eq rfl
    split at hr
    · cases hr
    next ret child st₁ hrec =>
    cases Option.some.inj hr
    simp only [NtfsDirEntry.pathsFit, hu, Bool.or_eq_true, beq_iff_eq, hdot, false_or,
      Bool.and_eq_true, decide_eq_true_eq] at hfit
    have hw : PathWritesInside st { st with pathWrites := st.pathWrites ++ (appendPath path u).2 } :=
      ⟨_, rfl, fun w hw => (appendPath_writes_le path u w hw).trans_lt hfit.1⟩
    exact hw.trans (buildDentryTreeNtfsRecursive_pathWrites env inode _ nameType ino _ _ hfit.2 hrec)
termination_by structural e => e

end

/-- **On a volume whose paths fit, the capture writes only inside the path buffer.** Every byte
`build_dentry_tree_ntfs` writes to the 32768-byte buffer, `"/"` included, lies inside it, when
the capture returns at all. -/
theorem buildDentryTreeNtfs_pathWrites (env : NtfsCaptureEnv) (root : NtfsInode) (sdSet : SdSet)
    (hfit : root.pathsFit env [slash]) :
    ∀ r, buildDentryTreeNtfs env root sdSet = some r → ∀ w ∈ r.2.2.pathWrites, w < pathBufferSize := by
  intro r hr
  cases root
  case unopenable => cases Option.some.inj hr; simp
  all_goals
    obtain ⟨ws, hws, hin⟩ := buildDentryTreeNtfsRecursive_pathWrites env _ [slash] 0 fileRoot _ r hfit hr
    intro w hw
    rw [hws] at hw
    rcases List.mem_append.mp hw with hw | hw
    · simp only [List.mem_cons, List.mem_singleton, List.not_mem_nil, or_false] at hw
      rcases hw with rfl | rfl <;> decide
    · exact hin w hw

end WimLean
