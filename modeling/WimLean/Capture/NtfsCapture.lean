import WimLean.Resource.Read

/-!
# WimLean — capturing the streams of an NTFS inode (`ntfs-capture.c`)

The model of `ntfs_attr_sha1sum` and `capture_ntfs_streams`. The hash context is the bytes
fed to `sha1_update` since `sha1_init`, and `sha1_final` a function of them, as in
`extract_wim_resource`'s model.

`capture_ntfs_streams` works on a heap of lookup-table entries: a pointer is an index into
the entries made so far, each of which `free_lookup_table_entry` may have freed. The lookup
table holds pointers, and so do the inode's `i_lte` and its ADS entries. One iteration of the
loop over the attributes `ntfs_attr_lookup` enumerates goes on to the next attribute or leaves
the loop through one of its labels with the value `ret` has there (`CaptureStep`).

Two paths free an entry the table still holds: a second unnamed stream, and a named stream
whose ADS entry cannot be made; on the second, `ret` is still 0 when the function returns
(`captureNtfsStreams_freesTableEntry`).
-/

namespace WimLean

/-! ## `ntfs_attr_sha1sum` -/

/-- The loop of `ntfs_attr_sha1sum`: `ntfs_attr_pread` of `min(bytes_remaining, BUFFER_SIZE)`
bytes at `pos`, then `sha1_update` with them, for at most `fuel` iterations. -/
def sha1sumLoop (bufferSize : Nat) (attr : List UInt8) :
    Nat → Nat → Nat → List UInt8 → Option (List UInt8)
  | 0, _, _, ctx => some ctx
  | fuel + 1, pos, bytesRemaining, ctx =>
    if bytesRemaining = 0 then some ctx
    else
      let toRead := min bytesRemaining bufferSize
      let buf := ntfsAttrPread attr pos toRead
      if buf.length ≠ toRead then none
      else sha1sumLoop bufferSize attr fuel (pos + toRead) (bytesRemaining - toRead) (ctx ++ buf)

/-- What `ntfs_attr_sha1sum` gives: the digest, the reparse tag it read (for a reparse
point), and the bytes it hashed. -/
structure AttrDigest where
  md : Sha1Hash
  reparseTag : Option Nat
  hashed : List UInt8

/-- `ntfs_attr_sha1sum(ni, ar, md, is_reparse_point, &reparse_tag)` for the attribute whose
value `ntfs_attr_open` opens (`none` when it fails). A reparse point's first 8 bytes are its
tag and length, and are not hashed. The loop is given `bytes_remaining` iterations. -/
def ntfsAttrSha1sum (sha1 : List UInt8 → Sha1Hash) (bufferSize : Nat)
    (na : Option (List UInt8)) (isReparsePoint : Bool) : Except WimlibErr AttrDigest :=
  match na with
  | none => .error .ntfs3g
  | some attr =>
    let start : Option (Option Nat × Nat) :=
      if isReparsePoint then
        let buf := ntfsAttrPread attr 0 8
        if buf.length ≠ 8 then none else some (some (leValue (buf.take 4)), 8)
      else some (none, 0)
    match start with
    | none => .error .ntfs3g
    | some (tag, pos) =>
      let bytesRemaining := attr.length - pos
      match sha1sumLoop bufferSize attr bytesRemaining pos bytesRemaining [] with
      | none => .error .ntfs3g
      | some ctx => .ok ⟨sha1 ctx, tag, ctx⟩

/-! ## `capture_ntfs_streams` -/

/-- The attributes `capture_ntfs_streams` captures: `AT_DATA` or `AT_REPARSE_POINT`. -/
inductive AttrType where
  | data
  | reparsePoint
  deriving DecidableEq, Repr

/-- An attribute `ntfs_attr_lookup` enumerates: its name (`name_length` UTF-16 units), the
length `ntfs_get_attribute_value_length` gives (`none` for 0 with `errno` set), and the value
`ntfs_attr_open` opens (`none` when it fails). -/
structure NtfsAttr where
  name : List UInt16
  valueLength : Option Nat
  value : Option (List UInt8)

/-- What `capture_ntfs_streams` calls outside the model: `sha1_final`, `BUFFER_SIZE` and
`utf16_to_utf8`. -/
structure CaptureEnv where
  sha1 : List UInt8 → Sha1Hash
  bufferSize : Nat
  utf16ToUtf8 : List UInt16 → Except WimlibErr String

/-- The heap of lookup-table entries (a pointer is an index; the flag says whether
`free_lookup_table_entry` has freed it), the pointers in the lookup table, the dentry's inode,
and the outcomes of the allocations to come (past its end an allocation succeeds). -/
structure CaptureState where
  entries : List (WimLookupTableEntry × Bool)
  table : List Nat
  iLte : Option Nat
  iReparseTag : Nat
  adsEntries : List (String × Option Nat)
  allocs : List Bool
  deriving DecidableEq, Repr

/-- The entry a pointer points to. -/
def CaptureState.entry? (s : CaptureState) (p : Nat) : Option WimLookupTableEntry :=
  (s.entries[p]?).map (·.1)

/-- `__lookup_resource(lookup_table, hash)`. -/
def CaptureState.lookupResource (s : CaptureState) (hash : Sha1Hash) : Option Nat :=
  s.table.find? fun p => (s.entry? p).map (·.hash) == some hash

/-- `lte->refcnt++`. -/
def CaptureState.incrementRefcnt (s : CaptureState) (p : Nat) : CaptureState :=
  { s with entries := s.entries.modify (fun e => ({ e.1 with refcnt := e.1.refcnt + 1 }, e.2)) p }

/-- `free_lookup_table_entry(lte)`; a `NULL` entry is left alone. -/
def CaptureState.freeLookupTableEntry (s : CaptureState) : Option Nat → CaptureState
  | none => s
  | some p => { s with entries := s.entries.modify (fun e => (e.1, true)) p }

/-- `n` allocations in a row: whether all succeed (the outcomes are consumed up to the first
failure). -/
def CaptureState.allocN (s : CaptureState) : Nat → Bool × CaptureState
  | 0 => (true, s)
  | n + 1 =>
    match s.allocs with
    | [] => (true, s)
    | false :: rest => (false, { s with allocs := rest })
    | true :: rest => CaptureState.allocN { s with allocs := rest } n

/-- The entry `capture_ntfs_streams` makes for a new stream: a resource in the NTFS volume,
whose size leaves out a reparse point's 8-byte header. -/
def ntfsLookupTableEntry (md : Sha1Hash) (path : String) (type : AttrType) (name : List UInt16)
    (dataSize : Nat) : WimLookupTableEntry :=
  let size := if type = .reparsePoint then dataSize - 8 else dataSize
  ⟨md, ⟨size, {}, 0, size⟩, .inNtfsVolume ⟨path, name, type = .reparsePoint⟩, 1⟩

/-- The first part of an iteration: the stream's entry, `NULL` for an empty stream. A stream
whose hash is in the table gets one more reference; otherwise the `ntfs_location`, its path,
its stream name (when named) and the entry are allocated, and the entry inserted. -/
def streamLookupTableEntry (env : CaptureEnv) (path : String) (type : AttrType) (a : NtfsAttr)
    (dataSize : Nat) (s : CaptureState) : EStateM.Result WimlibErr CaptureState (Option Nat) :=
  if dataSize = 0 then .ok none s
  else if type = .reparsePoint ∧ dataSize < 8 then .error .ntfs3g s
  else
    match ntfsAttrSha1sum env.sha1 env.bufferSize a.value (type = .reparsePoint) with
    | .error e => .error e s
    | .ok d =>
      let s := match d.reparseTag with
        | some tag => { s with iReparseTag := tag }
        | none => s
      match s.lookupResource d.md with
      | some p => .ok (some p) (s.incrementRefcnt p)
      | none =>
        match s.allocN (if a.name.length = 0 then 3 else 4) with
        | (false, s) => .error .nomem s
        | (true, s) =>
          let p := s.entries.length
          .ok (some p) { s with
            entries := s.entries ++ [(ntfsLookupTableEntry d.md path type a.name dataSize, false)]
            table := p :: s.table }

/-- Where an iteration of the loop of `capture_ntfs_streams` goes: to the next attribute, or
out of the function through one of its labels, with the value `ret` has there (`none` for 0). -/
inductive CaptureStep where
  | next (s : CaptureState)
  | exit (ret : Option WimlibErr) (s : CaptureState)

/-- One iteration of the loop of `capture_ntfs_streams`, for attribute `a`. An unnamed
stream goes to `i_lte`, and a second one is freed (the `#else` branch); a named one gets an
ADS entry. When `inode_add_ads` fails, `ret` still holds the 0 of `utf16_to_utf8`. -/
def captureNtfsAttr (env : CaptureEnv) (path : String) (type : AttrType) (a : NtfsAttr)
    (s : CaptureState) : CaptureStep :=
  match a.valueLength with
  | none => .exit (some .ntfs3g) s
  | some dataSize =>
    match streamLookupTableEntry env path type a dataSize s with
    | .error e s => .exit (some e) s
    | .ok lte s =>
      if a.name.length = 0 then
        match s.iLte with
        | some _ => .next (s.freeLookupTableEntry lte)
        | none => .next { s with iLte := lte }
      else
        match env.utf16ToUtf8 a.name with
        | .error e => .exit (some e) (s.freeLookupTableEntry lte)
        | .ok streamName =>
          match s.allocN 1 with
          | (false, s) => .exit none (s.freeLookupTableEntry lte)
          | (true, s) => .next { s with adsEntries := s.adsEntries ++ [(streamName, lte)] }

/-- `capture_ntfs_streams(dentry, ni, path, path_len, lookup_table, ntfs_vol_p, type)` over the
attributes `ntfs_attr_lookup` enumerates: its return value and the state after it. -/
def captureNtfsStreams (env : CaptureEnv) (path : String) (type : AttrType) :
    List NtfsAttr → CaptureState → Option WimlibErr × CaptureState
  | [], s => (none, s)
  | a :: as, s =>
    match captureNtfsAttr env path type a s with
    | .next s => captureNtfsStreams env path type as s
    | .exit ret s => (ret, s)

/-- **`capture_ntfs_streams` frees entries the lookup table still holds.** An inode with two
unnamed data streams of one byte: the second finds the first's entry, takes a reference to it,
and, `i_lte` being set, frees it, while the table and `i_lte` still point to it; the call
returns 0. An inode with one named data stream whose ADS entry cannot be allocated: the entry
just inserted is freed, and the call returns 0 with the stream in no ADS entry. -/
theorem captureNtfsStreams_freesTableEntry :
    captureNtfsStreams ⟨fun _ => 5, 4, fun _ => .ok "s"⟩ "f" .data
        [⟨[], some 1, some [1]⟩, ⟨[], some 1, some [1]⟩] ⟨[], [], none, 0, [], []⟩ =
      (none, ⟨[(⟨5, ⟨1, {}, 0, 1⟩, .inNtfsVolume ⟨"f", [], false⟩, 2⟩, true)], [0], some 0, 0, [],
        []⟩) ∧
    captureNtfsStreams ⟨fun _ => 5, 4, fun _ => .ok "s"⟩ "f" .data
        [⟨[115], some 1, some [1]⟩] ⟨[], [], none, 0, [], [true, true, true, true, false]⟩ =
      (none, ⟨[(ntfsLookupTableEntry 5 "f" .data [115] 1, true)], [0], none, 0, [], []⟩) := by
  decide

end WimLean
