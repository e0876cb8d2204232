import WimLean.Unaligned

/-!
# WimLean — bytes into a compressed output (`bitstream_put_byte`, `bitstream_put_two_bytes`)

The compressors write their output through a `struct output_bitstream` (`comp.h`):
`bitstream_put_byte` and `bitstream_put_two_bytes` store a byte, or a 16-bit integer
little-endian, at `output` and move it on, or return 1 without writing when fewer bytes than that
remain (`num_bytes_remaining`). The two-byte store goes through a `u16 *`
(`*(u16*)ostream->output = cpu_to_le16(n)`), so it is defined only at an even address.

A stream is its buffer with the address of its first byte, `output` as an index into it, and
`num_bytes_remaining`; a store past the buffer's end, or a `u16` store at an odd address, is
`none`. The two puts share one body, `bitstreamPut`, with the store as a parameter.

`bitstreamPuts_eq_spec` says what any sequence of the two puts does, on either byte order, from a
stream whose remaining bytes lie in its buffer: it is defined exactly when every two-byte put that
fits lands at an even address (`putsAligned`), and then each put that fits in what remains returns
0 and any other 1, and the buffer holds from `output` on the bytes of the puts that fit, in order,
and is unchanged elsewhere (`putsSpec`).
-/

namespace WimLean

/-! ## The stream and its two puts -/

/-- `struct output_bitstream` as the two puts use it: the memory `output` points into (`buf`,
whose first byte lies at the address `base`), `output` as an index into it, and
`num_bytes_remaining`. -/
structure OutputBitstream where
  buf : List UInt8
  base : Nat
  output : Nat
  numBytesRemaining : Int
  deriving DecidableEq, Repr

/-- The body of both puts: 1 when fewer than `size` bytes remain; otherwise the buffer as `store`
leaves it, `output` moved on by `size` and `size` bytes fewer remaining. -/
def bitstreamPut (size : Nat) (store : OutputBitstream → Option (List UInt8)) (os : OutputBitstream) :
    Option (Int × OutputBitstream) :=
  if os.numBytesRemaining < size then some (1, os)
  else (store os).map fun buf =>
    (0, { os with buf := buf, output := os.output + size, numBytesRemaining := os.numBytesRemaining - size })

/-- `*(u16*)p = v` for `p` the `i`-th byte of `buf`, at the address `base + i`: the native bytes
of `v`, through a `u16 *`, which must be aligned. -/
def storeU16 (C : BuildConfig) (base i : Nat) (v : UInt16) (buf : List UInt8) : Option (List UInt8) :=
  if (base + i) % 2 ≠ 0 then none
  else (storeBytes (C.nativeBytes 2 v.toNat) (buf.drop i)).map (buf.take i ++ ·)

/-- `bitstream_put_byte(ostream, n)`: `*ostream->output = n`. -/
def bitstreamPutByte (os : OutputBitstream) (n : UInt8) : Option (Int × OutputBitstream) :=
  bitstreamPut 1 (fun os => setByte os.output n os.buf) os

/-- `bitstream_put_two_bytes(ostream, n)`: `*(u16*)ostream->output = cpu_to_le16(n)`. -/
def bitstreamPutTwoBytes (C : BuildConfig) (os : OutputBitstream) (n : UInt16) :
    Option (Int × OutputBitstream) :=
  bitstreamPut 2 (fun os => storeU16 C os.base os.output (cpuToLe16 C n) os.buf) os

/-! ## Runs of puts, and what they are for -/

/-- A call of one of the two puts, with its argument. -/
inductive BitstreamPut where
  | byte (n : UInt8)
  | twoBytes (n : UInt16)
  deriving DecidableEq, Repr

/-- The bytes the put needs. -/
def BitstreamPut.size : BitstreamPut → Nat
  | .byte _ => 1
  | .twoBytes _ => 2

/-- The bytes the put is to write: the byte, or the integer little-endian. -/
def BitstreamPut.bytes : BitstreamPut → List UInt8
  | .byte n => [n]
  | .twoBytes n => leBytes 2 n.toNat

/-- The put's store is aligned at the address `addr`: a byte's always, a `u16`'s at an even
address. -/
def BitstreamPut.alignedAt (addr : Nat) : BitstreamPut → Bool
  | .byte _ => true
  | .twoBytes _ => addr % 2 == 0

/-- The put on a stream, on the byte order and build `C`. -/
def BitstreamPut.run (C : BuildConfig) : BitstreamPut → OutputBitstream → Option (Int × OutputBitstream)
  | .byte n, os => bitstreamPutByte os n
  | .twoBytes n, os => bitstreamPutTwoBytes C os n

/-- Puts one after another: what each returned, and the stream after the last. -/
def bitstreamPuts (C : BuildConfig) :
    List BitstreamPut → OutputBitstream → Option (List Int × OutputBitstream)
  | [], os => some ([], os)
  | p :: ps, os =>
    match p.run C os with
    | none => none
    | some (r, os) => (bitstreamPuts C ps os).map fun (rs, os) => (r :: rs, os)

/-- What puts from `room` bytes are for: each that fits in what is left returns 0 and is written,
any other returns 1 and writes nothing. What they return, and the bytes written. -/
def putsSpec : Nat → List BitstreamPut → List Int × List UInt8
  | _, [] => ([], [])
  | room, p :: ps =>
    if p.size ≤ room then (0 :: (putsSpec (room - p.size) ps).1, p.bytes ++ (putsSpec (room - p.size) ps).2)
    else (1 :: (putsSpec room ps).1, (putsSpec room ps).2)

/-- From the address `addr` with `room` bytes left, every put that fits stores at an aligned
address. -/
def putsAligned : Nat → Nat → List BitstreamPut → Bool
  | _, _, [] => true
  | addr, room, p :: ps =>
    if p.size ≤ room then p.alignedAt addr && putsAligned (addr + p.size) (room - p.size) ps
    else putsAligned addr room ps

/-! ## One put -/

@[simp] theorem BitstreamPut.length_bytes (p : BitstreamPut) : p.bytes.length = p.size := by
  cases p <;> simp [bytes, size, length_leBytes]

/-- `bs` written over `buf` at `i`, inside it: the bytes before and after are unchanged. -/
theorem splice_take_drop {buf bs : List UInt8} {i : Nat} (h : i + bs.length ≤ buf.length) (k : Nat) :
    (buf.take i ++ bs ++ buf.drop (i + bs.length)).take (i + bs.length) = buf.take i ++ bs ∧
    (buf.take i ++ bs ++ buf.drop (i + bs.length)).drop (i + bs.length + k) =
      buf.drop (i + bs.length + k) ∧
    (buf.take i ++ bs ++ buf.drop (i + bs.length)).length = buf.length := by
  have ht : (buf.take i ++ bs).length = i + bs.length := by
    rw [List.length_append, List.length_take_of_le (by omega)]
  refine ⟨List.take_left' ht, ?_, by simp only [List.length_append, ht, List.length_drop]; omega⟩
  rw [← ht, List.drop_append, List.drop_drop, ht]

section Put

variable (C : BuildConfig) (p : BitstreamPut) {os : OutputBitstream} {room : Nat}

/-- **A put that does not fit** returns 1 and changes nothing. -/
theorem BitstreamPut.run_noFit (hroom : os.numBytesRemaining = room) (h : room < p.size) :
    p.run C os = some (1, os) := by
  cases p <;>
  · simp only [run, bitstreamPutByte, bitstreamPutTwoBytes, bitstreamPut, size] at h ⊢
    rw [if_pos (by omega)]

/-- **A put that fits** in what remains, inside the buffer, writes its bytes at `output` when its
store is aligned, and is undefined otherwise. -/
theorem BitstreamPut.run_fit (hroom : os.numBytesRemaining = room) (hbuf : os.output + room ≤ os.buf.length)
    (hfit : p.size ≤ room) :
    p.run C os = if p.alignedAt (os.base + os.output) then
      some (0, { os with
        buf := os.buf.take os.output ++ p.bytes ++ os.buf.drop (os.output + p.size)
        output := os.output + p.size
        numBytesRemaining := (room - p.size : Nat) })
    else none := by
  cases p with
  | byte n =>
    simp only [run, bitstreamPutByte, bitstreamPut, size, bytes, alignedAt, if_true] at hfit ⊢
    rw [if_neg (by omega), setByte, if_pos (by omega), List.set_eq_take_append_cons_drop,
      if_pos (by omega)]
    simp only [Option.map_some', List.append_assoc, List.singleton_append]
    congr 3
    omega
  | twoBytes n =>
    simp only [run, bitstreamPutTwoBytes, bitstreamPut, size, bytes, alignedAt, storeU16] at hfit ⊢
    rw [if_neg (by omega)]
    by_cases ha : (os.base + os.output) % 2 = 0
    · rw [if_neg (by omega), nativeBytes_cpuToLe16,
        storeBytes_of_le (by simp only [length_leBytes, List.length_drop]; omega)]
      simp only [ha, beq_self_eq_true, if_true, Option.map_some', length_leBytes, List.drop_drop,
        List.append_assoc]
      congr 3
      omega
    · simp [ha]

end Put

/-! ## Runs -/

/-- **What the puts of `comp.h` do.** On either byte order, from a stream with `room` bytes
remaining inside its buffer, any sequence of `bitstream_put_byte` and `bitstream_put_two_bytes`
is defined exactly when every two-byte put that fits lands at an even address; then each put
returns 0 when it fits in what remains and 1 otherwise, and the buffer holds from `output` on the
bytes of the puts that fit, two-byte values little-endian, and is unchanged elsewhere, with
`output` and `num_bytes_remaining` moved by as many bytes. -/
theorem bitstreamPuts_eq_spec (C : BuildConfig) (puts : List BitstreamPut) (os : OutputBitstream)
    (room : Nat) (hroom : os.numBytesRemaining = room) (hbuf : os.output + room ≤ os.buf.length) :
    bitstreamPuts C puts os =
      if putsAligned (os.base + os.output) room puts then
        some ((putsSpec room puts).1,
          { os with
            buf := os.buf.take os.output ++ (putsSpec room puts).2 ++
              os.buf.drop (os.output + (putsSpec room puts).2.length)
            output := os.output + (putsSpec room puts).2.length
            numBytesRemaining := (room - (putsSpec room puts).2.length : Nat) })
      else none := by
  induction puts generalizing os room with
  | nil =>
    cases os
    simp_all [bitstreamPuts, putsAligned, putsSpec]
  | cons p ps ih =>
    by_cases hfit : p.size ≤ room
    · obtain ⟨h1, h2, hlen⟩ := @splice_take_drop os.buf p.bytes os.output (by simp; omega)
        (putsSpec (room - p.size) ps).2.length
      simp only [BitstreamPut.length_bytes] at h1 h2 hlen
      rw [bitstreamPuts, p.run_fit C hroom hbuf hfit]
      simp only [putsSpec, putsAligned, if_pos hfit]
      cases p.alignedAt (os.base + os.output)
      · simp
      simp only [if_true, Bool.true_and]
      rw [ih _ (room - p.size) rfl (by simp only [hlen]; omega)]
      simp only [Nat.add_assoc]
      split_ifs
      · simp only [Option.map_some', Option.some.injEq, Prod.mk.injEq, true_and]
        rw [← Nat.add_assoc, h1, h2]
        simp only [List.append_assoc, List.length_append, BitstreamPut.length_bytes, Nat.add_assoc,
          Nat.sub_sub]
      · rfl
    · rw [bitstreamPuts, p.run_noFit C hroom (by omega)]
      simp only [putsSpec, putsAligned, if_neg hfit, ih os room hroom hbuf]
      split_ifs <;> rfl


/-- Two runs from an even address. On a big-endian CPU, with five of six bytes to fill: a 16-bit
integer, two bytes, a 16-bit integer that no longer fits (it returns 1 and writes nothing), and a
last byte; the run is defined, the integer is stored little-endian, and the sixth byte is left
alone. On a little-endian CPU with fast unaligned access, a byte and then a 16-bit integer: the
integer's `u16` store lands at an odd address, and the run is undefined. -/
theorem bitstreamPuts_eq_spec_alignedAndNot :
    ((⟨[0, 0, 0, 0, 0, 0], 0, 0, 5⟩ : OutputBitstream).numBytesRemaining = (5 : Nat) ∧
      (⟨[0, 0, 0, 0, 0, 0], 0, 0, 5⟩ : OutputBitstream).output + 5 ≤
        (⟨[0, 0, 0, 0, 0, 0], 0, 0, 5⟩ : OutputBitstream).buf.length ∧
      bitstreamPuts ⟨false, false⟩ [.twoBytes 0x1234, .byte 7, .byte 8, .twoBytes 0xabcd, .byte 9]
        ⟨[0, 0, 0, 0, 0, 0], 0, 0, 5⟩ = some ([0, 0, 0, 1, 0], ⟨[0x34, 0x12, 7, 8, 9, 0], 0, 5, 0⟩)) ∧
    ((⟨[0, 0, 0], 0, 0, 3⟩ : OutputBitstream).numBytesRemaining = (3 : Nat) ∧
      (⟨[0, 0, 0], 0, 0, 3⟩ : OutputBitstream).output + 3 ≤
        (⟨[0, 0, 0], 0, 0, 3⟩ : OutputBitstream).buf.length ∧
      bitstreamPuts ⟨true, true⟩ [.byte 7, .twoBytes 0x1234] ⟨[0, 0, 0], 0, 0, 3⟩ = none) :=
  ⟨⟨rfl, by decide, (bitstreamPuts_eq_spec ⟨false, false⟩ _ _ 5 rfl (by decide)).trans (by decide)⟩,
    ⟨rfl, by decide, (bitstreamPuts_eq_spec ⟨true, true⟩ _ _ 3 rfl (by decide)).trans (by decide)⟩⟩

end WimLean
