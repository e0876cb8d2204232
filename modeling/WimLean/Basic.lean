import Mathlib

/-!
# WimLean — shared vocabulary of the wimlib model

The constants, return codes and byte encodings that every part of the model uses: the
chunk size of a compressed resource, the `WIMLIB_ERR_*` codes, the compression types, SHA-1
digests, and little-endian integers as the on-disk format stores them (`le32_to_cpu`, `cpu_to_le16`, ...).

Machine integers are `Nat`; where the C code relies on `u64` wrap-around the model says so
with `subU64`.
-/

namespace WimLean

/-- `WIM_CHUNK_SIZE`: the uncompressed size of every chunk of a compressed resource but the
last. -/
def wimChunkSize : Nat := 32768

/-- The `WIMLIB_ERR_*` codes the modelled functions return. `wimlib.h`, which numbers them,
is not among the sources; the model only needs them distinct. -/
inductive WimlibErr where
  | read
  | «open»
  | decompression
  | invalidResourceHash
  | nomem
  | ntfs3g
  | invalidReparseData
  | setReparseData
  | write
  | stat
  | notdir
  | invalidParam
  | imageNameCollision
  | invalidImage
  | setShortName
  | setAttributes
  | setSecurity
  | setTimestamps
  | abortedByProgress
  deriving DecidableEq, Repr

/-- `FILE_root`, the inode number (MFT record) of the root directory of an NTFS volume. -/
def fileRoot : Nat := 5

/-- `WIMLIB_COMPRESSION_TYPE_*`. -/
inductive CompressionType where
  | none
  | lzx
  | xpress
  deriving DecidableEq, Repr

/-- A SHA-1 message digest (`u8[SHA1_HASH_SIZE]`). The digest function itself is a parameter
of the parts of the model that hash (`sha1_init`/`sha1_update`/`sha1_final` over the bytes fed
in between); only equality of digests (`hashes_equal`, `copy_hash`) is used. -/
abbrev Sha1Hash := BitVec 160

/-- `a - b` computed in `u64`, for `a, b < 2^64`. -/
def subU64 (a b : Nat) : Nat := (a + 2 ^ 64 - b) % 2 ^ 64

theorem subU64_of_le {a b : Nat} (hb : b ≤ a) (ha : a < 2 ^ 64) : subU64 a b = a - b := by
  unfold subU64
  rw [show a + 2 ^ 64 - b = (a - b) + 2 ^ 64 by omega, Nat.add_mod_right,
    Nat.mod_eq_of_lt (by omega)]

/-! ## Little-endian integers -/

/-- The `w` little-endian bytes of `x`: a `cpu_to_le*` conversion followed by a store. -/
def leBytes : Nat → Nat → List UInt8
  | 0, _ => []
  | w + 1, x => UInt8.ofNat x :: leBytes w (x / 256)

/-- The value of little-endian bytes: a load followed by `le*_to_cpu`. -/
def leValue : List UInt8 → Nat
  | [] => 0
  | b :: bs => b.toNat + 256 * leValue bs

@[simp] theorem length_leBytes (w x : Nat) : (leBytes w x).length = w := by
  induction w generalizing x with
  | zero => rfl
  | succ w ih => simp [leBytes, ih]

theorem leValue_leBytes (w x : Nat) : leValue (leBytes w x) = x % 256 ^ w := by
  induction w generalizing x with
  | zero => simp [leBytes, leValue, Nat.mod_one]
  | succ w ih =>
    rw [leBytes, leValue, ih, pow_succ', Nat.mod_mul]
    rfl

theorem leBytes_leValue : ∀ bs : List UInt8, leBytes bs.length (leValue bs) = bs
  | [] => rfl
  | b :: bs => by
    have hb := UInt8.toNat_lt_size b
    simp only [UInt8.size] at hb
    rw [List.length_cons, leBytes, leValue,
      show (b.toNat + 256 * leValue bs) / 256 = leValue bs by omega, leBytes_leValue bs]
    congr 1
    apply UInt8.toNat.inj
    simp only [UInt8.toNat, UInt8.ofNat, BitVec.toNat_ofNat] at hb ⊢
    omega

theorem leValue_append (xs ys : List UInt8) :
    leValue (xs ++ ys) = leValue xs + 256 ^ xs.length * leValue ys := by
  induction xs with
  | nil => simp [leValue]
  | cons x xs ih => rw [List.cons_append, leValue, leValue, ih, List.length_cons, pow_succ]; ring

theorem leValue_lt (bs : List UInt8) : leValue bs < 256 ^ bs.length := by
  induction bs with
  | nil => simp [leValue]
  | cons b bs ih =>
    have hb := UInt8.toNat_lt_size b
    simp only [leValue, List.length_cons, pow_succ']
    simp only [UInt8.size] at hb
    omega

end WimLean
