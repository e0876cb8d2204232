import WimLean.LookupTable

/-!
# WimLean — the on-disk resource entry (`get_resource_entry`, `put_resource_entry`)

A resource entry is 24 bytes on disk: the 56-bit size, the flags byte, the offset and the
original size, all little-endian. `get_resource_entry` clears bits 62 and 63 of the offset
and of the original size when either is set (`truncate62`), so that neither overflows an
`off_t`; `put_resource_entry` writes the fields back as they are.

The two round trips: writing what was read gives back the 24 bytes with those four bits
cleared (bits 62 and 63 of a little-endian `u64` are the top two bits of its last byte,
`clearTopBits`), and reading what was written gives back any entry whose fields fit
(`resourceEntry_roundTrip`). The bit facts go through `Nat.testBit` and `omega`
(`truncate62_eq`).
-/

namespace WimLean

/-- The masking `get_resource_entry` applies to `offset` and to `original_size`:
`if (x & 0xc000000000000000ULL) x &= 0x3fffffffffffffffULL`. -/
def truncate62 (x : Nat) : Nat :=
  if x &&& 0xc000000000000000 ≠ 0 then x &&& 0x3fffffffffffffff else x

/-- `get_resource_entry(p, entry)`: the entry the bytes at `p` hold, and the bytes after the
24 it reads (`get_u56`, `get_u8`, then two `get_u64`). -/
def getResourceEntry (p : List UInt8) : ResourceEntry × List UInt8 :=
  let size := leValue (p.take 7)
  let flags := p.getD 7 0
  let offset := truncate62 (leValue ((p.drop 8).take 8))
  let originalSize := truncate62 (leValue ((p.drop 16).take 8))
  (⟨size, ⟨flags⟩, offset, originalSize⟩, p.drop 24)

/-- `put_resource_entry(p, entry)`: the 24 bytes it writes (`put_u56`, `put_u8`, then two
`put_u64`). -/
def putResourceEntry (e : ResourceEntry) : List UInt8 :=
  leBytes 7 e.size ++ [e.flags.byte] ++ leBytes 8 e.offset ++ leBytes 8 e.originalSize

/-- A little-endian `u64` field with bits 62 and 63 cleared: the top two bits of its last
byte. -/
def clearTopBits (field : List UInt8) : List UInt8 :=
  field.take 7 ++ [field.getD 7 0 &&& 0x3f]

/-! ## The masking -/

theorem lt_two_pow_62_of_and_eq_zero {x : Nat} (hx : x < 2 ^ 64)
    (h : x &&& 0xc000000000000000 = 0) : x < 2 ^ 62 := by
  have h62 := congrArg (Nat.testBit · 62) h
  have h63 := congrArg (Nat.testBit · 63) h
  simp only [Nat.testBit_and, Nat.zero_testBit, Bool.and_true,
    show Nat.testBit 0xc000000000000000 62 = true by decide,
    show Nat.testBit 0xc000000000000000 63 = true by decide] at h62 h63
  simp only [Nat.testBit_to_div_mod, decide_eq_false_iff_not, Nat.reducePow] at h62 h63
  omega

/-- **The masking keeps the low 62 bits.** -/
theorem truncate62_eq {x : Nat} (hx : x < 2 ^ 64) : truncate62 x = x % 2 ^ 62 := by
  unfold truncate62
  split_ifs with h
  · rw [show (0x3fffffffffffffff : Nat) = 2 ^ 62 - 1 by norm_num, Nat.and_pow_two_sub_one_eq_mod]
  · exact (Nat.mod_eq_of_lt (lt_two_pow_62_of_and_eq_zero hx (not_not.mp h))).symm

theorem length_clearTopBits {field : List UInt8} (h : field.length = 8) :
    (clearTopBits field).length = 8 := by
  simp [clearTopBits, h]

/-- Clearing the top two bits of an 8-byte little-endian field keeps its low 62 bits. -/
theorem leValue_clearTopBits {field : List UInt8} (h : field.length = 8) :
    leValue (clearTopBits field) = leValue field % 2 ^ 62 := by
  have hsplit : field = field.take 7 ++ [field.getD 7 0] := by
    conv_lhs => rw [← List.take_append_drop 7 field]
    congr 1
    rw [List.drop_eq_getElem_cons (by omega), List.drop_eq_nil_of_le (by omega),
      List.getD_eq_getElem?_getD, List.getElem?_eq_getElem (by omega), Option.getD_some]
  have h7 : (field.take 7).length = 7 := by simp [h]
  have hlow := leValue_lt (field.take 7)
  have hmask : (field.getD 7 0 &&& 0x3f).toNat = (field.getD 7 0).toNat % 64 := by
    rw [UInt8.and_toNat]; exact Nat.and_pow_two_sub_one_eq_mod _ 6
  conv_rhs => rw [hsplit]
  rw [clearTopBits, leValue_append, leValue_append, h7] at *
  simp only [leValue, hmask, mul_zero, add_zero, Nat.reducePow] at hlow ⊢
  omega

/-! ## The round trips -/

/-- **Writing what was read.** `put_resource_entry` of what `get_resource_entry` read gives
back the 24 bytes, with bits 62 and 63 of the offset and of the original size cleared. -/
theorem putResourceEntry_getResourceEntry {b : List UInt8} (hb : 24 ≤ b.length) :
    putResourceEntry (getResourceEntry b).1 =
      b.take 7 ++ [b.getD 7 0] ++ clearTopBits ((b.drop 8).take 8) ++
        clearTopBits ((b.drop 16).take 8) := by
  have hfield : ∀ k, k + 8 ≤ b.length →
      leBytes 8 (truncate62 (leValue ((b.drop k).take 8))) = clearTopBits ((b.drop k).take 8) := by
    intro k hk
    have h8 : ((b.drop k).take 8).length = 8 := by simp; omega
    have hinv := leBytes_leValue (clearTopBits ((b.drop k).take 8))
    rw [length_clearTopBits h8, leValue_clearTopBits h8] at hinv
    rwa [truncate62_eq (by simpa [h8] using leValue_lt ((b.drop k).take 8))]
  have hsize : leBytes 7 (leValue (b.take 7)) = b.take 7 := by
    simpa [show min 7 b.length = 7 by omega] using leBytes_leValue (b.take 7)
  simp only [putResourceEntry, getResourceEntry, hsize, hfield 8 (by omega), hfield 16 (by omega)]

/-- **Reading what was written.** `get_resource_entry` of the 24 bytes `put_resource_entry`
wrote gives back the entry when its fields fit, and goes on after them. -/
theorem getResourceEntry_putResourceEntry {e : ResourceEntry} (hsize : e.size < 2 ^ 56)
    (hoff : e.offset < 2 ^ 62) (horig : e.originalSize < 2 ^ 62) (rest : List UInt8) :
    getResourceEntry (putResourceEntry e ++ rest) = (e, rest) := by
  have h62 : ∀ x, x < 2 ^ 62 → truncate62 (leValue (leBytes 8 x)) = x := fun x hx => by
    rw [leValue_leBytes, truncate62_eq (by omega)]; omega
  have hA : (leBytes 7 e.size ++ [e.flags.byte]).length = 8 := by simp
  have hl : putResourceEntry e ++ rest = (leBytes 7 e.size ++ [e.flags.byte]) ++
      (leBytes 8 e.offset ++ (leBytes 8 e.originalSize ++ rest)) := by
    simp [putResourceEntry]
  have hdrop16 : (putResourceEntry e ++ rest).drop 16 = leBytes 8 e.originalSize ++ rest := by
    rw [show 16 = 8 + 8 from rfl, ← List.drop_drop, hl, List.drop_left' hA,
      List.drop_left' (length_leBytes 8 _)]
  have hflags : (putResourceEntry e ++ rest).getD 7 0 = e.flags.byte := by
    rw [hl, List.append_assoc, List.getD_eq_getElem?_getD, List.getElem?_append_right (by simp)]
    simp
  simp only [getResourceEntry, hflags, hdrop16, show 24 = 16 + 8 from rfl, ← List.drop_drop,
    List.drop_left' (length_leBytes 8 _), List.take_left' (length_leBytes 8 _), h62 _ horig]
  rw [hl, List.drop_left' hA, List.take_left' (length_leBytes 8 _), h62 _ hoff,
    List.append_assoc, List.take_left' (length_leBytes 7 _), leValue_leBytes,
    Nat.mod_eq_of_lt (lt_of_lt_of_eq hsize (by norm_num))]

/-- **The resource-entry codec.** For every buffer of at least 24 bytes, `put_resource_entry`
of what `get_resource_entry` read reproduces its first 24 bytes with bits 62 and 63 of the
offset and of the original size cleared, and `get_resource_entry` consumes exactly 24
bytes; for every entry whose size fits 56 bits and whose offset and original size fit 62 bits,
with any flags byte, `get_resource_entry` of what `put_resource_entry` wrote is the entry; and
`put_resource_entry` writes exactly 24 bytes. -/
theorem resourceEntry_roundTrip :
    (∀ b : List UInt8, 24 ≤ b.length →
      putResourceEntry (getResourceEntry b).1 =
        b.take 7 ++ [b.getD 7 0] ++ clearTopBits ((b.drop 8).take 8) ++
          clearTopBits ((b.drop 16).take 8) ∧
      (getResourceEntry b).2 = b.drop 24) ∧
    (∀ (e : ResourceEntry) (rest : List UInt8), e.size < 2 ^ 56 → e.offset < 2 ^ 62 →
      e.originalSize < 2 ^ 62 → getResourceEntry (putResourceEntry e ++ rest) = (e, rest)) ∧
    (∀ e : ResourceEntry, (putResourceEntry e).length = 24) :=
  ⟨fun _ hb => ⟨putResourceEntry_getResourceEntry hb, rfl⟩,
    fun _ rest hs ho hg => getResourceEntry_putResourceEntry hs ho hg rest,
    fun _ => by simp [putResourceEntry]⟩

/-- The round trips on 24 bytes of `0xff`, whose offset and original size have bits 62 and 63
set, and on a compressed entry followed by one more byte. -/
theorem resourceEntry_roundTrip_allOnes :
    (24 ≤ (List.replicate 24 (0xff : UInt8)).length ∧
      putResourceEntry (getResourceEntry (List.replicate 24 0xff)).1 =
        List.replicate 8 0xff ++ (List.replicate 7 0xff ++ [0x3f]) ++
          (List.replicate 7 0xff ++ [0x3f])) ∧
    getResourceEntry (putResourceEntry ⟨5, ⟨0x04⟩, 100, 5⟩ ++ [1]) = (⟨5, ⟨0x04⟩, 100, 5⟩, [1]) :=
  ⟨⟨by decide, by rw [(resourceEntry_roundTrip.1 _ (by decide)).1]; decide⟩,
    resourceEntry_roundTrip.2.1 _ _ (by decide) (by decide) (by decide)⟩

end WimLean
