import WimLean.Basic

/-!
# WimLean — fixing up a security descriptor for libntfs-3g (`sd_fixup`)

`sd_fixup` moves the owner SID, or failing that the group SID, to the end of a relative
security descriptor whose last 8 bytes are an empty DACL (or, for a libntfs-3g older than
2013.1.13, an empty SACL), so that libntfs-3g's validator accepts it.

The descriptor is the `size` bytes at `desc`; each field is read through `readField`, which is
`none` when the read reaches past them, so that a run of `sdFixup` that is `some` read only
inside `[0, size)`. The layout is wimlib's `wimlib_SECURITY_DESCRIPTOR_RELATIVE` (20 bytes:
revision, sbz1, `control` at 2, then the owner, group, SACL and DACL offsets at 4, 8, 12 and
16), `wimlib_ACL` is 8 bytes, `sid_size` counts 8 bytes of header and 4 per sub-authority,
and libntfs-3g's `SID` is 12 bytes; the headers declaring them are not among the sources.

`sdFixup_spec` says what it returns on every descriptor, under both builds: `desc` itself
unless the descriptor ends with the empty ACL and one of the two SIDs is valid
(`SdFixupApplies`), and otherwise a copy with the chosen SID appended and its offset field
pointing at it.
-/

namespace WimLean

/-! ## Reading the descriptor -/

/-- The `n` bytes at offset `i` of the descriptor, `none` when they reach past its end. -/
def readBytes (desc : List UInt8) (i n : Nat) : Option (List UInt8) :=
  if i + n ≤ desc.length then some ((desc.drop i).take n) else none

/-- The `w`-byte little-endian field at offset `i` (`le16_to_cpu`, `le32_to_cpu`). -/
def readField (desc : List UInt8) (i w : Nat) : Option Nat :=
  (readBytes desc i w).map leValue

/-- `sid_size(sid)` for a SID with `sub_authority_count` sub-authorities. -/
def sidSize (subAuthorityCount : Nat) : Nat := 8 + 4 * subAuthorityCount

/-- `wimlib_SE_DACL_PRESENT` and `wimlib_SE_SACL_PRESENT`, bits of `control`. -/
def seDaclPresent : Nat := 0x0004
def seSaclPresent : Nat := 0x0010

/-- The validity check of the owner (or group) SID at `offset`, with the short-circuit order
of its `&&`s: `sid_size` reads `sub_authority_count` only once
`offset <= size - sizeof(SID)`. -/
def sidValid (desc : List UInt8) (offset : Nat) : Option Bool :=
  let size := desc.length
  if offset ≠ 0 ∧ offset % 4 = 0 ∧ offset ≤ size - 12 then
    (readField desc (offset + 1) 1).map fun count =>
      decide (offset + sidSize count ≤ size) && decide (20 ≤ offset)
  else some false

/-- What `sd_fixup` returns: `_desc` itself, `*size_p` unchanged, or a new buffer, whose
length `*size_p` becomes. -/
inductive SdFixupResult where
  | unchanged
  | fixed (buf : List UInt8)
  deriving DecidableEq, Repr

/-- The descriptor with the 4-byte field at `i` set to `v` (`desc_new->owner_offset =
cpu_to_le32(size)` after `memcpy(desc_new, desc, size)`). -/
def setField (desc : List UInt8) (i v : Nat) : List UInt8 :=
  desc.take i ++ leBytes 4 v ++ desc.drop (i + 4)

/-- The offset of an ACL, read at `offset` when `flag` is set in `control` and 0 otherwise
(`dacl_offset`, `sacl_offset`). -/
def aclOffset (desc : List UInt8) (control flag offset : Nat) : Option Nat :=
  if control &&& flag ≠ 0 then readField desc offset 4 else some 0

/-- `sd_fixup(_desc, size_p)`, built with `HAVE_NTFS_MNT_RDONLY` defined when `mntRdonly`;
`allocOk` is whether `MALLOC` succeeds. `none` when a read reaches past `size`. -/
def sdFixup (mntRdonly allocOk : Bool) (desc : List UInt8) : Option SdFixupResult :=
  let size := desc.length
  if size < 20 then some .unchanged
  else do
    let control ← readField desc 2 2
    let daclOffset ← aclOffset desc control seDaclPresent 16
    let saclOffset ← (if mntRdonly then some 0 else aclOffset desc control seSaclPresent 12)
    if ¬((!mntRdonly ∧ saclOffset ≠ 0 ∧ saclOffset = size - 8) ∨
        (daclOffset ≠ 0 ∧ daclOffset = size - 8)) then some .unchanged
    else do
      let ownerOffset ← readField desc 4 4
      let groupOffset ← readField desc 8 4
      let ownerValid ← sidValid desc ownerOffset
      let groupValid ← sidValid desc groupOffset
      if !ownerValid && !groupValid then some .unchanged
      else do
        let sidOffset := if ownerValid then ownerOffset else groupOffset
        let count ← readField desc (sidOffset + 1) 1
        if !allocOk then some .unchanged
        else do
          let sid ← readBytes desc sidOffset (sidSize count)
          let fieldOffset := if ownerValid then 4 else 8
          some (.fixed (setField desc fieldOffset size ++ sid))

/-! ## What the descriptor says

The same fields read without bounds, to state when `sd_fixup` rewrites a descriptor. -/

/-- The `w`-byte little-endian field at offset `i`. -/
def descField (desc : List UInt8) (i w : Nat) : Nat := leValue ((desc.drop i).take w)

/-- The DACL offset `sd_fixup` takes: 0 unless `SE_DACL_PRESENT` is set. -/
def daclOffsetOf (desc : List UInt8) : Nat :=
  if descField desc 2 2 &&& seDaclPresent ≠ 0 then descField desc 16 4 else 0

/-- The SACL offset `sd_fixup` takes: 0 unless `SE_SACL_PRESENT` is set. -/
def saclOffsetOf (desc : List UInt8) : Nat :=
  if descField desc 2 2 &&& seSaclPresent ≠ 0 then descField desc 12 4 else 0

/-- The SID at `offset` passes the checks of `sd_fixup`. -/
def SidOk (desc : List UInt8) (offset : Nat) : Prop :=
  offset ≠ 0 ∧ offset % 4 = 0 ∧ offset + 12 ≤ desc.length ∧
    offset + sidSize (desc.getD (offset + 1) 0).toNat ≤ desc.length ∧ 20 ≤ offset

instance (desc : List UInt8) (offset : Nat) : Decidable (SidOk desc offset) :=
  inferInstanceAs (Decidable (_ ∧ _))

/-- The three conditions under which `sd_fixup` rewrites the descriptor: it is at least 20
bytes, its DACL offset (or, without `HAVE_NTFS_MNT_RDONLY`, its SACL offset) is nonzero and
is `size - 8`, and its owner or its group SID is valid. -/
def SdFixupApplies (mntRdonly : Bool) (desc : List UInt8) : Prop :=
  20 ≤ desc.length ∧
    ((mntRdonly = false ∧ saclOffsetOf desc ≠ 0 ∧ saclOffsetOf desc = desc.length - 8) ∨
      (daclOffsetOf desc ≠ 0 ∧ daclOffsetOf desc = desc.length - 8)) ∧
    (SidOk desc (descField desc 4 4) ∨ SidOk desc (descField desc 8 4))

instance (mntRdonly : Bool) (desc : List UInt8) : Decidable (SdFixupApplies mntRdonly desc) :=
  inferInstanceAs (Decidable (_ ∧ _))

/-- The offset of the SID `sd_fixup` moves: the owner's if valid, else the group's. -/
def movedSidOffset (desc : List UInt8) : Nat :=
  if SidOk desc (descField desc 4 4) then descField desc 4 4 else descField desc 8 4

/-- The offset of the field that comes to hold `size`: `owner_offset` if the owner SID is
valid, else `group_offset`. -/
def rewrittenField (desc : List UInt8) : Nat :=
  if SidOk desc (descField desc 4 4) then 4 else 8

/-! ## Reads inside the descriptor -/

section Reads

variable {desc : List UInt8}

theorem readBytes_of_le {i n : Nat} (h : i + n ≤ desc.length) :
    readBytes desc i n = some ((desc.drop i).take n) := if_pos h

theorem readField_of_le {i w : Nat} (h : i + w ≤ desc.length) :
    readField desc i w = some (descField desc i w) := by
  simp [readField, readBytes_of_le h, descField]

theorem descField_one {i : Nat} (h : i < desc.length) :
    descField desc i 1 = (desc.getD i 0).toNat := by
  rw [descField, List.take_one, List.head?_drop, List.getElem?_eq_getElem h,
    List.getD_eq_getElem _ _ h]
  simp [leValue]

/-- On a descriptor of at least 20 bytes, the check of a SID makes no read past `size` and
decides `SidOk`. -/
theorem sidValid_eq {offset : Nat} (h20 : 20 ≤ desc.length) :
    sidValid desc offset = some (decide (SidOk desc offset)) := by
  unfold sidValid SidOk
  by_cases hpre : offset ≠ 0 ∧ offset % 4 = 0 ∧ offset ≤ desc.length - 12
  · rw [if_pos hpre, readField_of_le (by omega), Option.map_some', descField_one (by omega)]
    simp only [Option.some.injEq]
    by_cases h1 : offset + sidSize (desc.getD (offset + 1) 0).toNat ≤ desc.length <;>
      by_cases h2 : 20 ≤ offset <;> simp [h1, h2, hpre.1, hpre.2.1] <;> omega
  · rw [if_neg hpre]
    simp only [Option.some.injEq, false_eq_decide_iff]
    omega

/-- The ACL offsets, read from the first 20 bytes. -/
theorem aclOffset_eq {flag offset : Nat} (h : offset + 4 ≤ desc.length) :
    aclOffset desc (descField desc 2 2) flag offset =
      some (if descField desc 2 2 &&& flag ≠ 0 then descField desc offset 4 else 0) := by
  unfold aclOffset; split_ifs <;> simp [readField_of_le h]

theorem SidOk.movedSidOffset (h : SidOk desc (descField desc 4 4) ∨ SidOk desc (descField desc 8 4)) :
    SidOk desc (movedSidOffset desc) := by
  unfold WimLean.movedSidOffset; split_ifs with ho
  · exact ho
  · exact h.resolve_left ho

end Reads

/-! ## The result of `sd_fixup` -/

/-- The buffer `sd_fixup` builds: the descriptor with the moved SID's offset field set to
`size`, then the SID. -/
def sdFixedBuf (desc : List UInt8) : List UInt8 :=
  setField desc (rewrittenField desc) desc.length ++
    (desc.drop (movedSidOffset desc)).take (sidSize (desc.getD (movedSidOffset desc + 1) 0).toNat)

theorem aclAtEnd_iff (mntRdonly : Bool) (sacl dacl n : Nat) :
    (mntRdonly = false ∧ (if mntRdonly = true then 0 else sacl) ≠ 0 ∧
        (if mntRdonly = true then 0 else sacl) = n ∨ dacl ≠ 0 ∧ dacl = n) ↔
      (mntRdonly = false ∧ sacl ≠ 0 ∧ sacl = n) ∨ (dacl ≠ 0 ∧ dacl = n) := by
  cases mntRdonly <;> simp

/-- **What `sd_fixup` returns.** No read reaches past `size`, and the result is the fixed
buffer exactly when `SdFixupApplies` and the allocation succeeds. -/
theorem sdFixup_eq (mntRdonly allocOk : Bool) (desc : List UInt8) :
    sdFixup mntRdonly allocOk desc =
      some (if SdFixupApplies mntRdonly desc ∧ allocOk = true then .fixed (sdFixedBuf desc)
        else .unchanged) := by
  by_cases h20 : desc.length < 20
  · simp [sdFixup, h20, SdFixupApplies, Nat.not_le.mpr h20]
  have h20' : 20 ≤ desc.length := by omega
  have hsacl : (if mntRdonly = true then some 0
      else aclOffset desc (descField desc 2 2) seSaclPresent 12) =
        some (if mntRdonly = true then 0 else saclOffsetOf desc) := by
    cases mntRdonly <;> simp [aclOffset_eq (show 12 + 4 ≤ desc.length by omega), saclOffsetOf]
  simp only [sdFixup, if_neg h20, readField_of_le (show 2 + 2 ≤ desc.length by omega),
    readField_of_le (show 4 + 4 ≤ desc.length by omega),
    readField_of_le (show 8 + 4 ≤ desc.length by omega), Option.bind_eq_bind, Option.some_bind,
    sidValid_eq h20', aclOffset_eq (show 16 + 4 ≤ desc.length by omega), hsacl,
    Bool.and_eq_true, Bool.not_eq_true', decide_eq_false_iff_not, decide_eq_true_eq, aclAtEnd_iff]
  rw [show (if descField desc 2 2 &&& seDaclPresent ≠ 0 then descField desc 16 4 else 0) =
    daclOffsetOf desc from rfl, show (if SidOk desc (descField desc 4 4) then descField desc 4 4
    else descField desc 8 4) = movedSidOffset desc from rfl, show (if SidOk desc (descField desc 4 4)
    then 4 else 8) = rewrittenField desc from rfl]
  by_cases hacl : (mntRdonly = false ∧ saclOffsetOf desc ≠ 0 ∧ saclOffsetOf desc = desc.length - 8) ∨
      (daclOffsetOf desc ≠ 0 ∧ daclOffsetOf desc = desc.length - 8)
  · rw [if_neg (not_not.mpr hacl)]
    by_cases hsid : SidOk desc (descField desc 4 4) ∨ SidOk desc (descField desc 8 4)
    · obtain ⟨-, -, hpos, hfit, -⟩ := SidOk.movedSidOffset hsid
      rw [if_neg (fun h => hsid.elim h.1 h.2),
        readField_of_le (show movedSidOffset desc + 1 + 1 ≤ desc.length by omega),
        descField_one (by omega), Option.some_bind]
      cases allocOk
      · simp
      · rw [if_neg (by decide), readBytes_of_le hfit, Option.some_bind,
          if_pos ⟨⟨h20', hacl, hsid⟩, rfl⟩, sdFixedBuf]
    · rw [if_pos (not_or.mp hsid), if_neg (fun h => hsid h.1.2.2)]
  · rw [if_pos hacl, if_neg (fun h => hacl h.1.2.1)]

/-- **`sd_fixup` on every descriptor.** Under both builds, with the allocation succeeding or
not, it reads only inside the descriptor's `size` bytes. It returns `desc` itself unless the
descriptor ends with the empty ACL and has a valid owner or group SID, and the allocation
succeeds. Then it returns a buffer of `size + sid_size(S)` bytes, where `S` is the owner SID
if valid and the group SID otherwise: its first `size` bytes are `desc` with the offset
field of `S` (the owner's, else the group's) holding `size`, and its last `sid_size(S)` bytes
are `S`. -/
theorem sdFixup_spec (mntRdonly allocOk : Bool) (desc : List UInt8) :
    (¬(SdFixupApplies mntRdonly desc ∧ allocOk = true) →
      sdFixup mntRdonly allocOk desc = some .unchanged) ∧
    (SdFixupApplies mntRdonly desc → allocOk = true →
      ∃ buf, sdFixup mntRdonly allocOk desc = some (.fixed buf) ∧
        buf.length = desc.length + sidSize (desc.getD (movedSidOffset desc + 1) 0).toNat ∧
        buf.take desc.length =
          desc.take (rewrittenField desc) ++ leBytes 4 desc.length ++
            desc.drop (rewrittenField desc + 4) ∧
        buf.drop desc.length =
          (desc.drop (movedSidOffset desc)).take
            (sidSize (desc.getD (movedSidOffset desc + 1) 0).toNat)) := by
  refine ⟨fun h => by rw [sdFixup_eq, if_neg h], fun happ halloc => ?_⟩
  obtain ⟨h20, hacl, hsid⟩ := happ
  obtain ⟨-, -, -, hfit, -⟩ := SidOk.movedSidOffset hsid
  have hk : rewrittenField desc + 4 ≤ desc.length := by unfold rewrittenField; split_ifs <;> omega
  have hset : (setField desc (rewrittenField desc) desc.length).length = desc.length := by
    simp [setField, length_leBytes]; omega
  refine ⟨sdFixedBuf desc, by rw [sdFixup_eq, if_pos ⟨⟨h20, hacl, hsid⟩, halloc⟩], ?_, ?_, ?_⟩
  · simp only [sdFixedBuf, List.length_append, hset, List.length_take, List.length_drop]; omega
  · rw [sdFixedBuf, List.take_left' hset, setField]
  · rw [sdFixedBuf, List.drop_left' hset]

/-- A 40-byte descriptor with an owner SID of one sub-authority at 20 and an empty DACL at 32,
its last 8 bytes: `sd_fixup` appends the 12-byte SID and points `owner_offset` at 40. -/
theorem sdFixup_spec_emptyDacl :
    SdFixupApplies false [1, 0, 4, 0, 20, 0, 0, 0, 0, 0, 0, 0, 0, 0, 0, 0, 32, 0, 0, 0,
      1, 1, 0, 0, 0, 0, 0, 5, 18, 0, 0, 0, 2, 0, 8, 0, 0, 0, 0, 0] ∧
    ∃ buf, sdFixup false true [1, 0, 4, 0, 20, 0, 0, 0, 0, 0, 0, 0, 0, 0, 0, 0, 32, 0, 0, 0,
        1, 1, 0, 0, 0, 0, 0, 5, 18, 0, 0, 0, 2, 0, 8, 0, 0, 0, 0, 0] = some (.fixed buf) ∧
      buf.length = 52 ∧ buf.drop 40 = [1, 1, 0, 0, 0, 0, 0, 5, 18, 0, 0, 0] := by
  have happ : SdFixupApplies false [1, 0, 4, 0, 20, 0, 0, 0, 0, 0, 0, 0, 0, 0, 0, 0, 32, 0, 0, 0,
      1, 1, 0, 0, 0, 0, 0, 5, 18, 0, 0, 0, 2, 0, 8, 0, 0, 0, 0, 0] := by decide
  obtain ⟨buf, h, hlen, -, hsid⟩ := (sdFixup_spec false true _).2 happ rfl
  exact ⟨happ, buf, h, hlen.trans (by decide), hsid.trans (by decide)⟩

end WimLean
