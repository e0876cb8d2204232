import WimLean.Resource.Read

/-!
# WimLean — the layout of a compressed resource

What a compressed resource is, in the words of the format: the uncompressed bytes are cut
into chunks of `wimChunkSize` bytes (`chunkOf`), each chunk is stored as a payload, verbatim
or encoded by the codec (`StoredChunk`), and the payloads follow a table of their offsets,
one little-endian entry for each payload but the first (`chunkTableBytes`). A
`CompressedResource` carries the proof that its payloads store its chunks.

The lemmas here are what a reader of such a resource can rely on: where each payload and
each table entry lies in the file (`StoredAt.drop_chunkStart`, `StoredAt.drop_tableEntry`),
that decoding the stored table gives back the payload offsets (`getD_chunkOffsets`), and the
arithmetic of `readPlan` on a read inside the resource: which chunks the read needs, that the
slice of the chunk table it loads lies inside the table (`ReadInside.table_slice`), and
which bytes of each chunk it keeps (`ReadInside.chunk_bounds`).
-/

namespace WimLean

/-! ## The format -/

/-- `ceil(U / WIM_CHUNK_SIZE)`: the number of chunks of `U` uncompressed bytes. -/
def numChunksOf (U : Nat) : Nat := (U + wimChunkSize - 1) / wimChunkSize

/-- Chunk-table entries are 8 bytes for resources of `2^32` bytes or more, else 4. -/
def chunkEntrySizeOf (U : Nat) : Nat := if 2 ^ 32 ≤ U then 8 else 4

/-- Chunk `i` of the uncompressed bytes. -/
def chunkOf (data : List UInt8) (i : Nat) : List UInt8 :=
  (data.drop (i * wimChunkSize)).take wimChunkSize

/-- The payload `p` stores the chunk `c`: verbatim, or in another length shorter than a
chunk from which the codec `dec` recovers it. -/
def StoredChunk (dec : List UInt8 → Nat → Option (List UInt8)) (c p : List UInt8) : Prop :=
  p = c ∨ (p.length ≠ c.length ∧ p.length < wimChunkSize ∧ dec p c.length = some c)

/-- Where payload `i` starts, counted from the end of the chunk table. -/
def payloadOffset (payloads : List (List UInt8)) (i : Nat) : Nat :=
  ((payloads.take i).map List.length).sum

/-- The entries of the chunk table: the offsets of every payload but the first. -/
def chunkTableEntries (payloads : List (List UInt8)) : List Nat :=
  (List.range (payloads.length - 1)).map fun k => payloadOffset payloads (k + 1)

/-- The chunk table as stored, `w` bytes an entry. -/
def chunkTableBytes (w : Nat) (payloads : List (List UInt8)) : List UInt8 :=
  (chunkTableEntries payloads).flatMap (leBytes w)

/-- A compressed resource: its uncompressed bytes, and one payload per chunk storing it. -/
structure CompressedResource (dec : List UInt8 → Nat → Option (List UInt8)) where
  data : List UInt8
  payloads : List (List UInt8)
  length_payloads : payloads.length = numChunksOf data.length
  stored : ∀ i (h : i < payloads.length), StoredChunk dec (chunkOf data i) payloads[i]

namespace CompressedResource

variable {dec : List UInt8 → Nat → Option (List UInt8)} (r : CompressedResource dec)

/-- The chunk table of the resource. -/
def table : List UInt8 := chunkTableBytes (chunkEntrySizeOf r.data.length) r.payloads

/-- The resource's bytes in the WIM file: the chunk table, then the payloads. -/
def image : List UInt8 := r.table ++ r.payloads.flatten

/-- The stored size of the resource. -/
def storedSize : Nat := r.image.length

end CompressedResource

/-- The resource `r` lies in the WIM file at `offset`, and the offset and sizes are within
the bounds `get_resource_entry` gives every resource entry (`offset` and `original_size`
below `2^62`, the 7-byte `size` below `2^56`). -/
structure StoredAt {dec : List UInt8 → Nat → Option (List UInt8)} (r : CompressedResource dec)
    (fp : WimFile) (offset : Nat) : Prop where
  image_prefix : r.image <+: fp.bytes.drop offset
  offset_lt : offset < 2 ^ 62
  storedSize_lt : r.storedSize < 2 ^ 56
  length_data_lt : r.data.length < 2 ^ 62

/-! ## Payload offsets and chunks -/

theorem flatten_drop_of_lt {α : Type} (ps : List (List α)) {i : Nat} (h : i < ps.length) :
    (ps.drop i).flatten = ps[i] ++ (ps.drop (i + 1)).flatten := by
  conv_lhs => rw [← List.getElem_cons_drop ps i h]
  rfl

theorem payloadOffset_succ (ps : List (List UInt8)) {i : Nat} (h : i < ps.length) :
    payloadOffset ps (i + 1) = payloadOffset ps i + ps[i].length := by
  unfold payloadOffset
  rw [List.take_succ, List.getElem?_eq_getElem h, Option.toList_some, List.map_append,
    Nat.sum_append, List.map_singleton, List.sum_singleton]

theorem drop_payloadOffset (ps : List (List UInt8)) (i : Nat) :
    ps.flatten.drop (payloadOffset ps i) = (ps.drop i).flatten := by
  conv_lhs => rw [← List.take_append_drop i ps, List.flatten_append]
  rw [List.drop_left']
  simp [payloadOffset, List.length_flatten]


theorem payloadOffset_le {ps : List (List UInt8)} (hps : ∀ p ∈ ps, p.length ≤ wimChunkSize)
    (j : Nat) : payloadOffset ps j ≤ j * wimChunkSize := by
  have h := List.sum_le_card_nsmul ((ps.take j).map List.length) wimChunkSize (by
    simp only [List.mem_map]
    rintro _ ⟨p, hp, rfl⟩
    exact hps p (List.mem_of_mem_take hp))
  simp only [List.length_map, List.length_take, smul_eq_mul] at h
  exact h.trans (Nat.mul_le_mul_right _ (Nat.min_le_left _ _))


theorem payloadOffset_le_length_flatten (ps : List (List UInt8)) (j : Nat) :
    payloadOffset ps j ≤ ps.flatten.length := by
  have h := congrArg List.length (congrArg List.flatten (List.take_append_drop j ps))
  rw [List.flatten_append, List.length_append] at h
  simp only [payloadOffset, ← List.length_flatten]
  omega


theorem payloadOffset_length (ps : List (List UInt8)) :
    payloadOffset ps ps.length = ps.flatten.length := by
  simp [payloadOffset, List.length_flatten]


theorem length_chunkOf (data : List UInt8) (i : Nat) :
    (chunkOf data i).length = min wimChunkSize (data.length - i * wimChunkSize) := by
  rw [chunkOf, List.length_take, List.length_drop]


theorem take_drop_chunkOf (data : List UInt8) (i : Nat) {so p : Nat}
    (h : so + p ≤ wimChunkSize) :
    ((chunkOf data i).drop so).take p = (data.drop (i * wimChunkSize + so)).take p := by
  rw [chunkOf, List.drop_take, List.drop_drop, List.take_take, Nat.min_eq_left (by omega)]

theorem numChunksOf_spec {U : Nat} (hU : 0 < U) :
    (numChunksOf U - 1) * wimChunkSize < U ∧ U ≤ numChunksOf U * wimChunkSize := by
  unfold numChunksOf wimChunkSize; omega


/-! ## The chunk table as bytes -/

theorem length_flatMap_leBytes (w : Nat) (xs : List Nat) :
    (xs.flatMap (leBytes w)).length = xs.length * w := by
  induction xs with
  | nil => simp
  | cons x xs ih => simp [ih, Nat.succ_mul, Nat.add_comm]

theorem drop_flatMap_leBytes (w : Nat) (xs : List Nat) (a : Nat) :
    (xs.flatMap (leBytes w)).drop (a * w) = (xs.drop a).flatMap (leBytes w) := by
  induction a generalizing xs with
  | zero => simp
  | succ a ih =>
    cases xs with
    | nil => simp
    | cons x xs =>
      rw [List.flatMap_cons, Nat.succ_mul, Nat.add_comm, ← List.drop_drop,
        List.drop_left' (length_leBytes w x), ih, List.drop_succ_cons]

theorem take_flatMap_leBytes (w : Nat) (xs : List Nat) (rest : List UInt8) {c : Nat}
    (hc : c ≤ xs.length) :
    (xs.flatMap (leBytes w) ++ rest).take (c * w) = (xs.take c).flatMap (leBytes w) := by
  conv_lhs => rw [← List.take_append_drop c xs, List.flatMap_append, List.append_assoc]
  rw [List.take_left']
  rw [length_flatMap_leBytes, List.length_take, Nat.min_eq_left hc]

theorem decodeChunkEntries_flatMap (w : Nat) (xs : List Nat) (rest : List UInt8) :
    decodeChunkEntries w xs.length (xs.flatMap (leBytes w) ++ rest) =
      xs.map (· % 256 ^ w) := by
  induction xs with
  | nil => rfl
  | cons x xs ih =>
    rw [List.flatMap_cons, List.append_assoc, List.length_cons, decodeChunkEntries,
      List.take_left' (length_leBytes w x), List.drop_left' (length_leBytes w x), ih,
      leValue_leBytes, List.map_cons]

theorem length_chunkTableBytes (w : Nat) (ps : List (List UInt8)) :
    (chunkTableBytes w ps).length = (ps.length - 1) * w := by
  rw [chunkTableBytes, length_flatMap_leBytes]
  simp [chunkTableEntries]

theorem getD_chunkTableEntries (ps : List (List UInt8)) {a c j : Nat} (hj : j < c)
    (hac : a + c ≤ ps.length - 1) :
    (((chunkTableEntries ps).drop a).take c).getD j 0 = payloadOffset ps (a + j + 1) := by
  rw [List.getD_eq_getElem _ _ (by simp [chunkTableEntries]; omega)]
  simp [chunkTableEntries]

/-- `chunk_offsets` as the reader fills it: the implicit `0` of the first chunk, then the
entries read from the table. Entry `j` is the offset of chunk `start + j`. -/
theorem getD_chunkOffsets (ps : List (List UInt8)) {start needed j : Nat}
    (hj : j < needed) (hin : start - 1 + (if start = 0 then needed - 1 else needed) ≤ ps.length - 1) :
    ((if start = 0 then [0] else []) ++
        ((chunkTableEntries ps).drop (start - 1)).take
          (if start = 0 then needed - 1 else needed)).getD j 0 =
      payloadOffset ps (start + j) := by
  by_cases hs : start = 0
  · subst hs
    simp only [if_true, Nat.zero_sub, List.singleton_append] at hin ⊢
    cases j with
    | zero => rfl
    | succ j =>
      rw [List.getD_cons_succ, getD_chunkTableEntries ps (by omega) hin]
      simp
  · simp only [hs, if_false, List.nil_append] at hin ⊢
    rw [getD_chunkTableEntries ps hj hin]
    congr 1; omega

/-! ## Well-formed resources -/

namespace CompressedResource

variable {dec : List UInt8 → Nat → Option (List UInt8)} (r : CompressedResource dec)

theorem length_payload_le (i : Nat) (h : i < r.payloads.length) :
    r.payloads[i].length ≤ wimChunkSize := by
  rcases r.stored i h with hp | ⟨_, hlt, _⟩
  · rw [hp, length_chunkOf]; exact Nat.min_le_left _ _
  · exact hlt.le

theorem length_table :
    r.table.length = (numChunksOf r.data.length - 1) * chunkEntrySizeOf r.data.length := by
  rw [table, length_chunkTableBytes, r.length_payloads]

theorem storedSize_eq : r.storedSize = r.table.length + r.payloads.flatten.length := by
  simp [storedSize, image]

/-- Every offset in the chunk table fits its entry: below `2^32` since a resource with
4-byte entries is smaller than that, below `2^64` since the stored size is below `2^56`. -/
theorem chunkTableEntries_lt (hs : r.storedSize < 2 ^ 56) :
    ∀ x ∈ chunkTableEntries r.payloads, x < 256 ^ chunkEntrySizeOf r.data.length := by
  simp only [chunkTableEntries, List.mem_map, List.mem_range]
  rintro _ ⟨k, hk, rfl⟩
  have hle := payloadOffset_le (fun p hp => by
    obtain ⟨i, hi, rfl⟩ := List.getElem_of_mem hp
    exact r.length_payload_le i hi) (k + 1)
  have htot := payloadOffset_le_length_flatten r.payloads (k + 1)
  have hst := r.storedSize_eq
  rw [r.length_payloads] at hk
  unfold chunkEntrySizeOf
  split_ifs with hU
  · omega
  · have hn := @numChunksOf_spec r.data.length (by unfold numChunksOf wimChunkSize at hk; omega)
    have : (k + 1) * wimChunkSize ≤ (numChunksOf r.data.length - 1) * wimChunkSize :=
      Nat.mul_le_mul_right _ (by omega)
    omega

end CompressedResource

variable {dec : List UInt8 → Nat → Option (List UInt8)} {r : CompressedResource dec}
  {fp0 : WimFile} {roff : Nat}

/-- Payload `i` is where the chunk table and the payloads before it end. -/
theorem StoredAt.drop_chunkStart (hr : StoredAt r fp0 roff) {i : Nat} (hi : i < r.payloads.length) :
    ∃ rest, fp0.bytes.drop (roff + r.table.length + payloadOffset r.payloads i) =
      r.payloads[i] ++ rest := by
  obtain ⟨post, hpost⟩ := hr.image_prefix
  refine ⟨(r.payloads.drop (i + 1)).flatten ++ post, ?_⟩
  rw [Nat.add_assoc, ← List.drop_drop, ← hpost, CompressedResource.image, List.append_assoc,
    ← List.drop_drop, List.drop_left,
    List.drop_append_of_le_length (payloadOffset_le_length_flatten _ _), drop_payloadOffset,
    flatten_drop_of_lt _ hi, List.append_assoc]

/-- The chunk table's slice from entry `a` is where it lies in the table. -/
theorem StoredAt.drop_tableEntry (hr : StoredAt r fp0 roff) {a : Nat}
    (ha : a ≤ r.payloads.length - 1) :
    ∃ rest, fp0.bytes.drop (roff + a * chunkEntrySizeOf r.data.length) =
      ((chunkTableEntries r.payloads).drop a).flatMap (leBytes (chunkEntrySizeOf r.data.length))
        ++ rest := by
  obtain ⟨post, hpost⟩ := hr.image_prefix
  have hle : a * chunkEntrySizeOf r.data.length ≤ r.table.length := by
    rw [r.length_table, ← r.length_payloads]; exact Nat.mul_le_mul_right _ ha
  refine ⟨r.payloads.flatten ++ post, ?_⟩
  rw [← List.drop_drop, ← hpost, CompressedResource.image, List.append_assoc,
    List.drop_append_of_le_length hle, CompressedResource.table, chunkTableBytes,
    drop_flatMap_leBytes]

/-! ## The plan of a read inside the resource -/

/-- A read of `len` bytes at `offset` inside a resource of `U` bytes, `U` within the bound
of a resource entry. -/
structure ReadInside (U len offset : Nat) : Prop where
  len_pos : 0 < len
  end_le : offset + len ≤ U
  size_lt : U < 2 ^ 62

/-- Where the part of a read of `len` bytes at `offset` that falls in chunk `i` begins: the
read's start in its first chunk, the chunk's start after that, the read's end past its last
chunk. -/
def readBound (len offset i : Nat) : Nat := min (offset + len) (max offset (i * wimChunkSize))

theorem readBound_mono (len offset : Nat) {i j : Nat} (h : i ≤ j) :
    readBound len offset i ≤ readBound len offset j := by
  unfold readBound
  have := Nat.mul_le_mul_right wimChunkSize h
  omega

section Plan

variable {U len offset : Nat} (h : ReadInside U len offset)
include h

theorem ReadInside.numChunks : (readPlan U len offset).numChunks = numChunksOf U := by
  have := h.size_lt
  simp only [readPlan, numChunksOf]
  rw [Nat.mod_eq_of_lt (by unfold wimChunkSize; omega)]

theorem ReadInside.numChunks_pos : 0 < numChunksOf U := by
  have := h.len_pos; have := h.end_le
  unfold numChunksOf wimChunkSize; omega

theorem ReadInside.lastChunk :
    subU64 (readPlan U len offset).numChunks 1 = numChunksOf U - 1 := by
  rw [h.numChunks, subU64_of_le h.numChunks_pos]
  have := h.size_lt
  unfold numChunksOf wimChunkSize; omega

theorem ReadInside.endChunk_lt : (readPlan U len offset).endChunk < numChunksOf U := by
  have := h.len_pos; have := h.end_le
  simp only [readPlan, numChunksOf, wimChunkSize]; omega

theorem ReadInside.startChunk_le : (readPlan U len offset).startChunk ≤ (readPlan U len offset).endChunk := by
  simp only [readPlan]
  exact Nat.div_le_div_right (by have := h.len_pos; omega)

/-- The slice of the chunk table a read loads lies inside the table's `numChunks - 1`
entries, and covers the entries of chunks `startChunk` to `endChunk + 1`. -/
theorem ReadInside.table_slice :
    (readPlan U len offset).startTableIdx = (readPlan U len offset).startChunk - 1 ∧
    (readPlan U len offset).startTableIdx + (readPlan U len offset).numNeededChunkEntries =
      min ((readPlan U len offset).endChunk + 1) (numChunksOf U - 1) := by
  have hl := h.lastChunk
  have he := h.endChunk_lt
  have hs := h.startChunk_le
  simp only [readPlan] at hl he hs ⊢
  rw [hl, Nat.min_def]
  simp only [wimChunkSize] at he hs ⊢
  split_ifs <;> omega


theorem ReadInside.partialChunkSize_eq (i : Nat) :
    (readPlan U len offset).partialChunkSize i =
      (readPlan U len offset).endOffset i + 1 - (readPlan U len offset).startOffset i := by
  have := h.len_pos
  unfold ReadPlan.partialChunkSize
  apply subU64_of_le
  · simp only [ReadPlan.startOffset, ReadPlan.endOffset, readPlan, wimChunkSize]
    split_ifs <;> omega
  · simp only [ReadPlan.endOffset, readPlan, wimChunkSize]
    split_ifs <;> omega

/-- Where chunk `i`'s part of the read begins in the resource: at `start_offset` into the
chunk. -/
theorem ReadInside.readBound_eq {i : Nat} (h1 : (readPlan U len offset).startChunk ≤ i)
    (h2 : i ≤ (readPlan U len offset).endChunk) :
    readBound len offset i = i * wimChunkSize + (readPlan U len offset).startOffset i := by
  have := h.len_pos
  simp only [ReadPlan.startOffset, readPlan, readBound, wimChunkSize] at h1 h2 ⊢
  split_ifs <;> omega

/-- Where chunk `i`'s part of the read ends in the resource: past `end_offset` into the
chunk. -/
theorem ReadInside.readBound_succ_eq {i : Nat} (h1 : (readPlan U len offset).startChunk ≤ i)
    (h2 : i ≤ (readPlan U len offset).endChunk) :
    readBound len offset (i + 1) = i * wimChunkSize + (readPlan U len offset).endOffset i + 1 := by
  have := h.len_pos
  simp only [ReadPlan.endOffset, readPlan, readBound, wimChunkSize] at h1 h2 ⊢
  split_ifs <;> omega

/-- Chunk `i`'s part of the read, in the chunk and in the resource. -/
theorem ReadInside.chunk_bounds {i : Nat} (h1 : (readPlan U len offset).startChunk ≤ i)
    (h2 : i ≤ (readPlan U len offset).endChunk) :
    i * wimChunkSize + (readPlan U len offset).startOffset i = readBound len offset i ∧
    (readPlan U len offset).partialChunkSize i =
      readBound len offset (i + 1) - readBound len offset i ∧
    (readPlan U len offset).startOffset i + (readPlan U len offset).partialChunkSize i ≤
      min wimChunkSize (U - i * wimChunkSize) ∧
    (i < (readPlan U len offset).endChunk →
      (readPlan U len offset).startOffset i + (readPlan U len offset).partialChunkSize i =
        wimChunkSize) ∧
    ((readPlan U len offset).partialChunkSize i = min wimChunkSize (U - i * wimChunkSize) →
      (readPlan U len offset).startOffset i = 0) := by
  have hs := h.readBound_eq h1 h2
  have he := h.readBound_succ_eq h1 h2
  have hend : (readPlan U len offset).endOffset i ≤ wimChunkSize - 1 ∧
      (i < (readPlan U len offset).endChunk →
        (readPlan U len offset).endOffset i = wimChunkSize - 1) := by
    simp only [ReadPlan.endOffset, readPlan, wimChunkSize]
    split_ifs <;> omega
  have hle := readBound_mono len offset (Nat.le_add_right i 1)
  have hU : readBound len offset (i + 1) ≤ U := by
    have := h.end_le; unfold readBound; omega
  rw [h.partialChunkSize_eq i]
  unfold wimChunkSize at *
  refine ⟨hs.symm, by omega, by omega, fun hi => by omega, fun hp => ?_⟩
  by_contra hso
  omega

theorem ReadInside.uncompressedChunkSize_eq {i : Nat} (hi : i ≤ (readPlan U len offset).endChunk) :
    uncompressedChunkSize U (readPlan U len offset) i = min wimChunkSize (U - i * wimChunkSize) := by
  have he := h.endChunk_lt
  have hn := numChunksOf_spec (lt_of_lt_of_le h.len_pos (le_trans (Nat.le_add_left _ _) h.end_le))
  unfold uncompressedChunkSize
  rw [h.lastChunk]
  simp only [numChunksOf, wimChunkSize, Nat.min_def] at he hn ⊢
  split_ifs <;> omega

theorem ReadInside.numNeededChunks :
    (readPlan U len offset).numNeededChunks =
      (readPlan U len offset).endChunk - (readPlan U len offset).startChunk + 1 +
        (if (readPlan U len offset).endChunk = numChunksOf U - 1 then 0 else 1) := by
  have hl := h.lastChunk
  simp only [readPlan] at hl ⊢
  rw [hl]
  split_ifs <;> omega

end Plan

theorem take_drop_append_take_drop {α : Type} (l : List α) {a b c : Nat} (hab : a ≤ b)
    (hbc : b ≤ c) : (l.drop a).take (b - a) ++ (l.drop b).take (c - b) = (l.drop a).take (c - a) := by
  have : l.drop b = (l.drop a).drop (b - a) := by rw [List.drop_drop, Nat.add_sub_cancel' hab]
  rw [this, ← List.take_add]
  congr 1; omega


end WimLean
