import WimLean.Basic

/-!
# WimLean — unaligned little-endian loads and stores (`unaligned.h`)

`get_unaligned_le16/32` and `put_unaligned_le16/32` read and write little-endian integers at any
address. With `UNALIGNED_ACCESS_IS_FAST` they `memcpy` a native integer (the
`load_*_unaligned` / `store_*_unaligned` of `DEFINE_UNALIGNED_TYPE`) and convert it with
`le*_to_cpu` / `cpu_to_le*`; without, they assemble or split the integer a byte at a time.
`load_u24_unaligned` puts three bytes in the low 24 bits of a `u32`: from a four-byte load and
`loaded_u32_to_u24` with `UNALIGNED_ACCESS_IS_FAST`, byte by byte without.

A `BuildConfig` is the two compile-time settings the header reads. A buffer is the bytes from `p`
on; a load or a store past its end is undefined behaviour, `none`. A native integer lies in
memory least significant byte first on a little-endian CPU and most significant first on a
big-endian one (`BuildConfig.nativeBytes`, `BuildConfig.nativeValue`). `endianness.h` is not
among the sources: `le*_to_cpu` and `cpu_to_le*` are the identity on a little-endian CPU and
`bswap16` / `bswap32` on a big-endian one, and those are the header's portable bodies.

Every path computes one model: `put_unaligned_le*` stores `leBytes`, `get_unaligned_le*` returns
`leValue` (`putUnalignedLe16_eq`, `getUnalignedLe16_eq` and their 32-bit twins), and
`load_u24_unaligned` returns the first three bytes read as a native integer
(`loadU24Unaligned_eq`). `unalignedAccess_pathsAgree` collects them.
-/

namespace WimLean

/-! ## Configurations and buffers -/

/-- The compile-time settings `unaligned.h` reads: `UNALIGNED_ACCESS_IS_FAST`, and
`CPU_IS_LITTLE_ENDIAN` (`CPU_IS_BIG_ENDIAN` is its negation). -/
structure BuildConfig where
  unalignedAccessIsFast : Bool
  cpuIsLittleEndian : Bool
  deriving DecidableEq, Repr

/-- The bytes a native `w`-byte integer of value `v` occupies in memory. -/
def BuildConfig.nativeBytes (C : BuildConfig) (w v : Nat) : List UInt8 :=
  if C.cpuIsLittleEndian then leBytes w v else (leBytes w v).reverse

/-- The value of the native integer whose memory holds `bs`. -/
def BuildConfig.nativeValue (C : BuildConfig) (bs : List UInt8) : Nat :=
  if C.cpuIsLittleEndian then leValue bs else leValue bs.reverse

/-- `memcpy(&v, p, n)`: the `n` bytes from `p` on, when the buffer has them. -/
def loadBytes (n : Nat) (p : List UInt8) : Option (List UInt8) :=
  if n ≤ p.length then some (p.take n) else none

/-- `memcpy(p, &v, sizeof(v))` from the bytes `bs` of `v`. -/
def storeBytes (bs p : List UInt8) : Option (List UInt8) :=
  if bs.length ≤ p.length then some (bs ++ p.drop bs.length) else none

/-- `p[i] = b`. -/
def setByte (i : Nat) (b : UInt8) (p : List UInt8) : Option (List UInt8) :=
  if i < p.length then some (p.set i b) else none

/-! ## `endianness.h` -/

/-- Modelled from the spec: `bswap16(v)`, the two bytes of `v` swapped. -/
def bswap16 (v : UInt16) : UInt16 := (v <<< 8) ||| (v >>> 8)

/-- Modelled from the spec: `bswap32(v)`, the four bytes of `v` reversed. -/
def bswap32 (v : UInt32) : UInt32 :=
  ((v &&& 0x000000FF) <<< 24) ||| ((v &&& 0x0000FF00) <<< 8) |||
    ((v &&& 0x00FF0000) >>> 8) ||| ((v &&& 0xFF000000) >>> 24)

/-- Modelled from the spec: `le16_to_cpu(v)`, `v` on a little-endian CPU and `bswap16(v)`
otherwise. -/
def le16ToCpu (C : BuildConfig) (v : UInt16) : UInt16 :=
  if C.cpuIsLittleEndian then v else bswap16 v

/-- Modelled from the spec: `le32_to_cpu(v)`, `v` on a little-endian CPU and `bswap32(v)`
otherwise. -/
def le32ToCpu (C : BuildConfig) (v : UInt32) : UInt32 :=
  if C.cpuIsLittleEndian then v else bswap32 v

/-- Modelled from the spec: `cpu_to_le16(v)`, the same conversion as `le16_to_cpu`. -/
def cpuToLe16 (C : BuildConfig) (v : UInt16) : UInt16 := le16ToCpu C v

/-- Modelled from the spec: `cpu_to_le32(v)`, the same conversion as `le32_to_cpu`. -/
def cpuToLe32 (C : BuildConfig) (v : UInt32) : UInt32 := le32ToCpu C v

/-! ## `DEFINE_UNALIGNED_TYPE` -/

/-- `load_<type>_unaligned(p)` for a type of `size` bytes: a `memcpy` into a native integer. -/
def loadUnaligned (C : BuildConfig) (size : Nat) (p : List UInt8) : Option Nat :=
  (loadBytes size p).map C.nativeValue

/-- `store_<type>_unaligned(v, p)` for a type of `size` bytes: a `memcpy` from a native
integer. -/
def storeUnaligned (C : BuildConfig) (size v : Nat) (p : List UInt8) : Option (List UInt8) :=
  storeBytes (C.nativeBytes size v) p

/-- `load_le16_unaligned(p)`. -/
def loadLe16Unaligned (C : BuildConfig) (p : List UInt8) : Option UInt16 :=
  (loadUnaligned C 2 p).map UInt16.ofNat

/-- `load_le32_unaligned(p)`. -/
def loadLe32Unaligned (C : BuildConfig) (p : List UInt8) : Option UInt32 :=
  (loadUnaligned C 4 p).map UInt32.ofNat

/-- `load_u32_unaligned(p)`. -/
def loadU32Unaligned (C : BuildConfig) (p : List UInt8) : Option UInt32 :=
  (loadUnaligned C 4 p).map UInt32.ofNat

/-- `store_le16_unaligned(v, p)`. -/
def storeLe16Unaligned (C : BuildConfig) (v : UInt16) (p : List UInt8) : Option (List UInt8) :=
  storeUnaligned C 2 v.toNat p

/-- `store_le32_unaligned(v, p)`. -/
def storeLe32Unaligned (C : BuildConfig) (v : UInt32) (p : List UInt8) : Option (List UInt8) :=
  storeUnaligned C 4 v.toNat p

/-! ## `get_unaligned_le*`, `put_unaligned_le*`, `load_u24_unaligned` -/

/-- `get_unaligned_le16(p)`. -/
def getUnalignedLe16 (C : BuildConfig) (p : List UInt8) : Option UInt16 :=
  if C.unalignedAccessIsFast then (loadLe16Unaligned C p).map (le16ToCpu C)
  else do
    let p0 ← p[0]?
    let p1 ← p[1]?
    pure ((p1.toUInt16 <<< 8) ||| p0.toUInt16)

/-- `get_unaligned_le32(p)`. -/
def getUnalignedLe32 (C : BuildConfig) (p : List UInt8) : Option UInt32 :=
  if C.unalignedAccessIsFast then (loadLe32Unaligned C p).map (le32ToCpu C)
  else do
    let p0 ← p[0]?
    let p1 ← p[1]?
    let p2 ← p[2]?
    let p3 ← p[3]?
    pure ((p3.toUInt32 <<< 24) ||| (p2.toUInt32 <<< 16) ||| (p1.toUInt32 <<< 8) ||| p0.toUInt32)

/-- `put_unaligned_le16(v, p)`. -/
def putUnalignedLe16 (C : BuildConfig) (v : UInt16) (p : List UInt8) : Option (List UInt8) :=
  if C.unalignedAccessIsFast then storeLe16Unaligned C (cpuToLe16 C v) p
  else setByte 0 (v >>> 0).toUInt8 p >>= setByte 1 (v >>> 8).toUInt8

/-- `put_unaligned_le32(v, p)`. -/
def putUnalignedLe32 (C : BuildConfig) (v : UInt32) (p : List UInt8) : Option (List UInt8) :=
  if C.unalignedAccessIsFast then storeLe32Unaligned C (cpuToLe32 C v) p
  else
    setByte 0 (v >>> 0).toUInt8 p >>= setByte 1 (v >>> 8).toUInt8 >>=
      setByte 2 (v >>> 16).toUInt8 >>= setByte 3 (v >>> 24).toUInt8

/-- `loaded_u32_to_u24(v)`. -/
def loadedU32ToU24 (C : BuildConfig) (v : UInt32) : UInt32 :=
  if C.cpuIsLittleEndian then v &&& 0xFFFFFF else v >>> 8

/-- `LOAD_U24_REQUIRED_NBYTES`. -/
def loadU24RequiredNbytes (C : BuildConfig) : Nat :=
  if C.unalignedAccessIsFast then 4 else 3

/-- `load_u24_unaligned(p)`. -/
def loadU24Unaligned (C : BuildConfig) (p : List UInt8) : Option UInt32 :=
  if C.unalignedAccessIsFast then (loadU32Unaligned C p).map (loadedU32ToU24 C)
  else do
    let p0 ← p[0]?
    let p1 ← p[1]?
    let p2 ← p[2]?
    pure <| if C.cpuIsLittleEndian then
        (p0.toUInt32 <<< 0) ||| (p1.toUInt32 <<< 8) ||| (p2.toUInt32 <<< 16)
      else (p2.toUInt32 <<< 0) ||| (p1.toUInt32 <<< 8) ||| (p0.toUInt32 <<< 16)

/-! ## Machine integers as numbers -/

theorem UInt16.toNat_shl (a b : UInt16) :
    (a <<< b).toNat = a.toNat * 2 ^ (b.toNat % 16) % 2 ^ 16 := by
  show (a.toBitVec <<< (UInt16.mod b 16).toBitVec).toNat = _
  rw [BitVec.shiftLeft_eq', BitVec.toNat_shiftLeft, Nat.shiftLeft_eq]
  rfl

theorem UInt16.toNat_shr (a b : UInt16) : (a >>> b).toNat = a.toNat / 2 ^ (b.toNat % 16) := by
  show (a.toBitVec >>> (UInt16.mod b 16).toBitVec).toNat = _
  rw [BitVec.ushiftRight_eq', BitVec.toNat_ushiftRight, Nat.shiftRight_eq_div_pow]
  rfl

theorem UInt32.toNat_shl (a b : UInt32) :
    (a <<< b).toNat = a.toNat * 2 ^ (b.toNat % 32) % 2 ^ 32 := by
  show (a.toBitVec <<< (UInt32.mod b 32).toBitVec).toNat = _
  rw [BitVec.shiftLeft_eq', BitVec.toNat_shiftLeft, Nat.shiftLeft_eq]
  rfl

theorem UInt32.toNat_shr (a b : UInt32) : (a >>> b).toNat = a.toNat / 2 ^ (b.toNat % 32) := by
  show (a.toBitVec >>> (UInt32.mod b 32).toBitVec).toNat = _
  rw [BitVec.ushiftRight_eq', BitVec.toNat_ushiftRight, Nat.shiftRight_eq_div_pow]
  rfl

theorem UInt16.toNat_lor (a b : UInt16) : (a ||| b).toNat = a.toNat ||| b.toNat := rfl

theorem UInt32.toNat_lor (a b : UInt32) : (a ||| b).toNat = a.toNat ||| b.toNat := rfl

theorem UInt32.toNat_land (a b : UInt32) : (a &&& b).toNat = a.toNat &&& b.toNat := rfl

theorem UInt8.toNat_toUInt16 (a : UInt8) : a.toUInt16.toNat = a.toNat := rfl

theorem UInt8.toNat_toUInt32 (a : UInt8) : a.toUInt32.toNat = a.toNat := rfl

theorem UInt8.toNat_ofNat (n : Nat) : (UInt8.ofNat n).toNat = n % 2 ^ 8 := BitVec.toNat_ofNat _ _

theorem UInt16.toNat_ofNat (n : Nat) : (UInt16.ofNat n).toNat = n % 2 ^ 16 := BitVec.toNat_ofNat _ _

theorem UInt32.toNat_ofNat (n : Nat) : (UInt32.ofNat n).toNat = n % 2 ^ 32 := BitVec.toNat_ofNat _ _

theorem UInt16.toUInt8_eq (a : UInt16) : a.toUInt8 = UInt8.ofNat a.toNat := rfl

theorem UInt32.toUInt8_eq (a : UInt32) : a.toUInt8 = UInt8.ofNat a.toNat := rfl

/-- A multiple of `2 ^ k` and a number below `2 ^ k` have no bit in common: their or is their
sum. -/
theorem lor_eq_add {x y : Nat} (k : Nat) (hx : x % 2 ^ k = 0) (hy : y < 2 ^ k) :
    x ||| y = x + y := by
  rw [← Nat.div_add_mod x (2 ^ k), hx, Nat.add_zero, Nat.mul_add_lt_is_or hy]

theorem lor_eq_add' {x y : Nat} (k : Nat) (hx : x < 2 ^ k) (hy : y % 2 ^ k = 0) :
    x ||| y = x + y := by
  rw [Nat.or_comm, lor_eq_add k hy hx, Nat.add_comm]

/-- Masking with the byte `0xFF << k` keeps byte `k / 8` in place. -/
theorem land_byteMask (x k : Nat) : x &&& 255 * 2 ^ k = x / 2 ^ k % 2 ^ 8 * 2 ^ k := by
  apply Nat.eq_of_testBit_eq
  intro i
  rw [Nat.testBit_and, Nat.mul_comm 255, Nat.testBit_mul_pow_two, Nat.mul_comm _ (2 ^ k),
    Nat.testBit_mul_pow_two, Nat.testBit_mod_two_pow, ← Nat.shiftRight_eq_div_pow,
    Nat.testBit_shiftRight, show (255 : Nat) = 2 ^ 8 - 1 from rfl, Nat.testBit_two_pow_sub_one]
  by_cases h : k ≤ i
  · simp [h, Nat.add_sub_cancel' h, Bool.and_comm]
  · simp [h]

/-! ## Byte swaps and native integers -/

/-- `bswap16` reverses the two bytes of its argument. -/
theorem bswap16_toNat (v : UInt16) : (bswap16 v).toNat = leValue (leBytes 2 v.toNat).reverse := by
  have hv := v.toNat_lt_size
  simp only [UInt16.size] at hv
  simp only [bswap16, UInt16.toNat_lor, UInt16.toNat_shl, UInt16.toNat_shr, UInt16.reduceToNat,
    Nat.reduceMod]
  rw [lor_eq_add 8 (by omega) (by omega)]
  simp [leBytes, leValue, UInt8.toNat_ofNat]
  omega

/-- `bswap32` reverses the four bytes of its argument: each masked byte moves to the mirror
position, and the four no longer overlap. -/
theorem bswap32_toNat (v : UInt32) : (bswap32 v).toNat = leValue (leBytes 4 v.toNat).reverse := by
  have hv := v.toNat_lt_size
  simp only [UInt32.size] at hv
  simp only [bswap32, UInt32.toNat_lor, UInt32.toNat_shl, UInt32.toNat_shr, UInt32.toNat_land,
    UInt32.reduceToNat, Nat.reduceMod]
  rw [show (255 : Nat) = 255 * 2 ^ 0 from rfl, show (65280 : Nat) = 255 * 2 ^ 8 from rfl,
    show (16711680 : Nat) = 255 * 2 ^ 16 from rfl, show (4278190080 : Nat) = 255 * 2 ^ 24 from rfl,
    land_byteMask, land_byteMask, land_byteMask, land_byteMask]
  nth_rewrite 3 [lor_eq_add 24]
  nth_rewrite 2 [lor_eq_add 16]
  rw [lor_eq_add 8]
  · simp [leBytes, leValue, UInt8.toNat_ofNat, Nat.div_div_eq_div_mul]
    omega
  all_goals omega

theorem leBytes_leValue_of_length {bs : List UInt8} {w : Nat} (h : bs.length = w) :
    leBytes w (leValue bs) = bs :=
  h ▸ leBytes_leValue bs

/-- `le16_to_cpu` of the native integer that memory holding `bs` gives is `bs` read
little-endian. -/
theorem le16ToCpu_nativeValue (C : BuildConfig) {bs : List UInt8} (h : bs.length = 2) :
    le16ToCpu C (UInt16.ofNat (C.nativeValue bs)) = UInt16.ofNat (leValue bs) := by
  unfold le16ToCpu BuildConfig.nativeValue
  split_ifs
  · rfl
  have hlt : ∀ bs : List UInt8, bs.length = 2 → leValue bs < 2 ^ 16 := fun bs h =>
    (leValue_lt bs).trans_eq (by simp [h])
  apply UInt16.toNat.inj
  rw [bswap16_toNat, UInt16.toNat_ofNat, UInt16.toNat_ofNat,
    Nat.mod_eq_of_lt (hlt _ (by simpa using h)), Nat.mod_eq_of_lt (hlt _ h),
    leBytes_leValue_of_length (by simpa using h), List.reverse_reverse]

theorem le32ToCpu_nativeValue (C : BuildConfig) {bs : List UInt8} (h : bs.length = 4) :
    le32ToCpu C (UInt32.ofNat (C.nativeValue bs)) = UInt32.ofNat (leValue bs) := by
  unfold le32ToCpu BuildConfig.nativeValue
  split_ifs
  · rfl
  have hlt : ∀ bs : List UInt8, bs.length = 4 → leValue bs < 2 ^ 32 := fun bs h =>
    (leValue_lt bs).trans_eq (by simp [h])
  apply UInt32.toNat.inj
  rw [bswap32_toNat, UInt32.toNat_ofNat, UInt32.toNat_ofNat,
    Nat.mod_eq_of_lt (hlt _ (by simpa using h)), Nat.mod_eq_of_lt (hlt _ h),
    leBytes_leValue_of_length (by simpa using h), List.reverse_reverse]

/-- The native integer `cpu_to_le16(v)` lies in memory as the little-endian bytes of `v`. -/
theorem nativeBytes_cpuToLe16 (C : BuildConfig) (v : UInt16) :
    C.nativeBytes 2 (cpuToLe16 C v).toNat = leBytes 2 v.toNat := by
  unfold BuildConfig.nativeBytes cpuToLe16 le16ToCpu
  split_ifs
  · rfl
  rw [bswap16_toNat, leBytes_leValue_of_length (by simp), List.reverse_reverse]

theorem nativeBytes_cpuToLe32 (C : BuildConfig) (v : UInt32) :
    C.nativeBytes 4 (cpuToLe32 C v).toNat = leBytes 4 v.toNat := by
  unfold BuildConfig.nativeBytes cpuToLe32 le32ToCpu
  split_ifs
  · rfl
  rw [bswap32_toNat, leBytes_leValue_of_length (by simp), List.reverse_reverse]

/-- `le32_to_cpu` undoes `cpu_to_le32`. -/
theorem le32ToCpu_cpuToLe32 (C : BuildConfig) (v : UInt32) : le32ToCpu C (cpuToLe32 C v) = v := by
  unfold cpuToLe32 le32ToCpu
  split_ifs
  · rfl
  have hv := v.toNat_lt_size
  simp only [UInt32.size] at hv
  apply UInt32.toNat.inj
  rw [bswap32_toNat, bswap32_toNat, leBytes_leValue_of_length (by simp), List.reverse_reverse,
    leValue_leBytes, Nat.mod_eq_of_lt (by omega)]

/-! ## The byte-wise paths -/

/-- `((u16)p[1] << 8) | p[0]`. -/
theorem bytewise16_eq_leValue (a b : UInt8) :
    (b.toUInt16 <<< 8) ||| a.toUInt16 = UInt16.ofNat (leValue [a, b]) := by
  have := a.toNat_lt_size; have := b.toNat_lt_size
  simp only [UInt8.size] at *
  apply UInt16.toNat.inj
  simp only [UInt16.toNat_lor, UInt16.toNat_shl, UInt8.toNat_toUInt16, UInt16.reduceToNat,
    Nat.reduceMod]
  rw [lor_eq_add 8 (by omega) (by omega)]
  simp [leValue, UInt16.toNat_ofNat]
  omega

/-- `((u32)p[3] << 24) | ((u32)p[2] << 16) | ((u32)p[1] << 8) | p[0]`, or from the innermost
or out. -/
theorem bytewise32_eq_leValue (a b c d : UInt8) :
    (d.toUInt32 <<< 24) ||| (c.toUInt32 <<< 16) ||| (b.toUInt32 <<< 8) ||| a.toUInt32 =
      UInt32.ofNat (leValue [a, b, c, d]) := by
  have := a.toNat_lt_size; have := b.toNat_lt_size; have := c.toNat_lt_size
  have := d.toNat_lt_size
  simp only [UInt8.size] at *
  apply UInt32.toNat.inj
  simp only [UInt32.toNat_lor, UInt32.toNat_shl, UInt8.toNat_toUInt32, UInt32.reduceToNat,
    Nat.reduceMod]
  nth_rewrite 3 [lor_eq_add 24]
  nth_rewrite 2 [lor_eq_add 16]
  rw [lor_eq_add 8]
  · simp [leValue, UInt32.toNat_ofNat]
    omega
  all_goals omega

/-- `((u32)p[0] << 0) | ((u32)p[1] << 8) | ((u32)p[2] << 16)`, and the big-endian line with
`p[2]` and `p[0]` exchanged. -/
theorem bytewise24_eq_leValue (a b c : UInt8) :
    (a.toUInt32 <<< 0) ||| (b.toUInt32 <<< 8) ||| (c.toUInt32 <<< 16) =
      UInt32.ofNat (leValue [a, b, c]) := by
  have := a.toNat_lt_size; have := b.toNat_lt_size; have := c.toNat_lt_size
  simp only [UInt8.size] at *
  apply UInt32.toNat.inj
  simp only [UInt32.toNat_lor, UInt32.toNat_shl, UInt8.toNat_toUInt32, UInt32.reduceToNat,
    Nat.reduceMod]
  nth_rewrite 2 [lor_eq_add' 8]
  rw [lor_eq_add' 16]
  · simp [leValue, UInt32.toNat_ofNat]
    omega
  all_goals omega

/-! ## Both paths of each access -/

/-- On every configuration, `get_unaligned_le16` reads the first two bytes little-endian. -/
theorem getUnalignedLe16_eq (C : BuildConfig) (p : List UInt8) :
    getUnalignedLe16 C p = (loadBytes 2 p).map fun bs => UInt16.ofNat (leValue bs) := by
  rcases p with _ | ⟨a, _ | ⟨b, rest⟩⟩ <;>
    by_cases hf : C.unalignedAccessIsFast <;>
    simp [getUnalignedLe16, loadLe16Unaligned, loadUnaligned, loadBytes, hf]
  · exact le16ToCpu_nativeValue C rfl
  · exact bytewise16_eq_leValue a b

theorem getUnalignedLe32_eq (C : BuildConfig) (p : List UInt8) :
    getUnalignedLe32 C p = (loadBytes 4 p).map fun bs => UInt32.ofNat (leValue bs) := by
  rcases p with _ | ⟨a, _ | ⟨b, _ | ⟨c, _ | ⟨d, rest⟩⟩⟩⟩ <;>
    by_cases hf : C.unalignedAccessIsFast <;>
    simp [getUnalignedLe32, loadLe32Unaligned, loadUnaligned, loadBytes, hf]
  · exact le32ToCpu_nativeValue C rfl
  · exact bytewise32_eq_leValue a b c d

example : getUnalignedLe32 ⟨false, false⟩ [0x78, 0x56, 0x34, 0x12] = some 0x12345678 := by decide

/-- On every configuration, `put_unaligned_le16` stores the two little-endian bytes of `v`. -/
theorem putUnalignedLe16_eq (C : BuildConfig) (v : UInt16) (p : List UInt8) :
    putUnalignedLe16 C v p = storeBytes (leBytes 2 v.toNat) p := by
  by_cases hf : C.unalignedAccessIsFast
  · simp [putUnalignedLe16, storeLe16Unaligned, storeUnaligned, hf, nativeBytes_cpuToLe16]
  · rcases p with _ | ⟨a, _ | ⟨b, rest⟩⟩ <;> simp [putUnalignedLe16, hf, setByte, storeBytes, leBytes]
    simp [UInt16.toUInt8_eq, UInt16.toNat_shr, UInt16.size]

theorem putUnalignedLe32_eq (C : BuildConfig) (v : UInt32) (p : List UInt8) :
    putUnalignedLe32 C v p = storeBytes (leBytes 4 v.toNat) p := by
  by_cases hf : C.unalignedAccessIsFast
  · simp [putUnalignedLe32, storeLe32Unaligned, storeUnaligned, hf, nativeBytes_cpuToLe32]
  · rcases p with _ | ⟨a, _ | ⟨b, _ | ⟨c, _ | ⟨d, rest⟩⟩⟩⟩ <;>
      simp [putUnalignedLe32, hf, setByte, storeBytes, leBytes]
    simp [UInt32.toUInt8_eq, UInt32.toNat_shr, UInt32.size, Nat.div_div_eq_div_mul]

theorem loadBytes_append {bs q : List UInt8} {n : Nat} (h : bs.length = n) :
    loadBytes n (bs ++ q) = some bs := by
  subst h
  simp [loadBytes]

theorem storeBytes_of_le {bs p : List UInt8} (h : bs.length ≤ p.length) :
    storeBytes bs p = some (bs ++ p.drop bs.length) :=
  if_pos h

/-- What `put_unaligned_le16` stores, `get_unaligned_le16` reads back, whichever path each
takes. -/
theorem getUnalignedLe16_putUnalignedLe16 (C C' : BuildConfig) (v : UInt16) {p : List UInt8}
    (hp : 2 ≤ p.length) :
    ∃ p', putUnalignedLe16 C v p = some p' ∧ getUnalignedLe16 C' p' = some v := by
  refine ⟨_, (putUnalignedLe16_eq C v p).trans (storeBytes_of_le (by simpa using hp)), ?_⟩
  have hv := v.toNat_lt_size
  rw [getUnalignedLe16_eq, loadBytes_append (length_leBytes 2 _), Option.map_some', leValue_leBytes]
  exact congrArg some (UInt16.toNat.inj (by simp only [UInt16.toNat_ofNat, UInt16.size] at hv ⊢; omega))

theorem getUnalignedLe32_putUnalignedLe32 (C C' : BuildConfig) (v : UInt32) {p : List UInt8}
    (hp : 4 ≤ p.length) :
    ∃ p', putUnalignedLe32 C v p = some p' ∧ getUnalignedLe32 C' p' = some v := by
  refine ⟨_, (putUnalignedLe32_eq C v p).trans (storeBytes_of_le (by simpa using hp)), ?_⟩
  have hv := v.toNat_lt_size
  rw [getUnalignedLe32_eq, loadBytes_append (length_leBytes 4 _), Option.map_some', leValue_leBytes]
  exact congrArg some (UInt32.toNat.inj (by simp only [UInt32.toNat_ofNat, UInt32.size] at hv ⊢; omega))

/-- Three bytes read as a native integer fit in 24 bits. -/
theorem nativeValue_take_lt (C : BuildConfig) (p : List UInt8) :
    C.nativeValue (p.take 3) < 2 ^ 24 := by
  have h : ∀ bs : List UInt8, bs.length ≤ 3 → leValue bs < 2 ^ 24 := fun bs h =>
    (leValue_lt bs).trans_le ((Nat.pow_le_pow_right (by norm_num) h).trans_eq (by norm_num))
  unfold BuildConfig.nativeValue
  split_ifs
  exacts [h _ (by simp), h _ (by simp)]

/-- Given `LOAD_U24_REQUIRED_NBYTES` bytes, `load_u24_unaligned` returns the first three read
as a native integer: `loaded_u32_to_u24` masks the fourth byte away on a little-endian CPU and
shifts it out on a big-endian one. -/
theorem loadU24Unaligned_eq (C : BuildConfig) {p : List UInt8}
    (hp : loadU24RequiredNbytes C ≤ p.length) :
    loadU24Unaligned C p = some (UInt32.ofNat (C.nativeValue (p.take 3))) := by
  rcases C with ⟨_ | _, _ | _⟩ <;>
    rcases p with _ | ⟨a, _ | ⟨b, _ | ⟨c, _ | ⟨d, rest⟩⟩⟩⟩ <;>
    simp [loadU24RequiredNbytes] at hp <;>
    simp [loadU24Unaligned, loadU32Unaligned, loadUnaligned, loadBytes, BuildConfig.nativeValue,
      loadedU32ToU24, bytewise24_eq_leValue]
  all_goals
    have := a.toNat_lt_size; have := b.toNat_lt_size; have := c.toNat_lt_size
    have := d.toNat_lt_size
    simp only [UInt8.size] at *
    apply UInt32.toNat.inj
  · simp [UInt32.toNat_shr, UInt32.toNat_ofNat, UInt32.size, leValue]
    omega
  · rw [UInt32.toNat_land, show (16777215 : UInt32).toNat = 2 ^ 24 - 1 from rfl,
      Nat.and_pow_two_sub_one_eq_mod]
    simp [UInt32.toNat_ofNat, leValue]
    omega

example : loadU24Unaligned ⟨true, false⟩ [1, 2, 3, 4] = some 0x010203 := by decide

/-- Under both settings of `UNALIGNED_ACCESS_IS_FAST` and both endiannesses, for every value
and buffer: `put_unaligned_le16/32` store the little-endian bytes of `v`; `get_unaligned_le16/32`
read the first bytes little-endian, so that get after put returns `v`; and
`load_u24_unaligned`, given `LOAD_U24_REQUIRED_NBYTES` bytes, returns the first three bytes as
a native integer, below `2 ^ 24`. -/
theorem unalignedAccess_pathsAgree :
    (∀ (C : BuildConfig) (v : UInt16) (p : List UInt8),
      putUnalignedLe16 C v p = storeBytes (leBytes 2 v.toNat) p) ∧
    (∀ (C : BuildConfig) (v : UInt32) (p : List UInt8),
      putUnalignedLe32 C v p = storeBytes (leBytes 4 v.toNat) p) ∧
    (∀ (C : BuildConfig) (p : List UInt8),
      getUnalignedLe16 C p = (loadBytes 2 p).map fun bs => UInt16.ofNat (leValue bs)) ∧
    (∀ (C : BuildConfig) (p : List UInt8),
      getUnalignedLe32 C p = (loadBytes 4 p).map fun bs => UInt32.ofNat (leValue bs)) ∧
    (∀ (C C' : BuildConfig) (v : UInt16) (p : List UInt8), 2 ≤ p.length →
      ∃ p', putUnalignedLe16 C v p = some p' ∧ getUnalignedLe16 C' p' = some v) ∧
    (∀ (C C' : BuildConfig) (v : UInt32) (p : List UInt8), 4 ≤ p.length →
      ∃ p', putUnalignedLe32 C v p = some p' ∧ getUnalignedLe32 C' p' = some v) ∧
    (∀ (C : BuildConfig) (p : List UInt8), loadU24RequiredNbytes C ≤ p.length →
      loadU24Unaligned C p = some (UInt32.ofNat (C.nativeValue (p.take 3))) ∧
        C.nativeValue (p.take 3) < 2 ^ 24) :=
  ⟨putUnalignedLe16_eq, putUnalignedLe32_eq, getUnalignedLe16_eq, getUnalignedLe32_eq,
    fun C C' v _ hp => getUnalignedLe16_putUnalignedLe16 C C' v hp,
    fun C C' v _ hp => getUnalignedLe32_putUnalignedLe32 C C' v hp,
    fun C p hp => ⟨loadU24Unaligned_eq C hp, nativeValue_take_lt C p⟩⟩

/-- A 32-bit value stored byte by byte on a big-endian CPU and read back by the `memcpy` path of
a little-endian one, and a three-byte load through the four-byte `memcpy` on a big-endian CPU. -/
theorem unalignedAccess_pathsAgree_crossPaths :
    (∃ p', putUnalignedLe32 ⟨false, false⟩ 0x12345678 [0, 0, 0, 0] = some p' ∧
      getUnalignedLe32 ⟨true, true⟩ p' = some 0x12345678) ∧
    loadU24Unaligned ⟨true, false⟩ [1, 2, 3, 4] =
      some (UInt32.ofNat (BuildConfig.nativeValue ⟨true, false⟩ ([1, 2, 3, 4].take 3))) :=
  ⟨unalignedAccess_pathsAgree.2.2.2.2.2.1 _ _ _ _ (by decide),
    (unalignedAccess_pathsAgree.2.2.2.2.2.2 _ _ (by decide)).1⟩

end WimLean
