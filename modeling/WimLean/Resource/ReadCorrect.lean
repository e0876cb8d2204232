import WimLean.Resource.Layout

/-!
# WimLean — reading inside a well-formed compressed resource

`read_compressed_resource` on a read inside a `CompressedResource` stored in the WIM file
returns 0 with exactly the requested bytes, and touches only what it needs.

The proof follows the stages of the function:

* `readChunkTable_inside` — the table stage reads the slice `ReadInside.table_slice` names,
  and `chunk_offsets[j]` then holds the offset of chunk `start_chunk + j`;
* `compressedChunkSize_inside` — from those entries, or from the stored size for the last
  chunk, the loop derives each chunk's payload length;
* `readChunk_inside` — one iteration reads its payload from where it lies, raw or through
  the codec, and appends the chunk's part of the read to the output;
* `chunkLoop_inside` — by induction on the number of iterations, the loop appends the
  part of the read falling in its chunks (`readBound` splits the read at chunk boundaries);
* `readCompressedResource_inside` and `readWimResource_inside` — the whole function, and
  `read_wim_resource` on a compressed resource in a WIM.

What the accesses say is read through three views of the access log: the chunks whose
payload is read (`Access.chunkRead`), the chunks handed to the codec
(`Access.decompressed`), and the table slices loaded (`Access.tableRead`).
-/

namespace WimLean

/-! ## Views of the access log -/

/-- The chunk a payload read is for. -/
def Access.chunkRead : Access → Option Nat
  | .rawChunk i _ _ => some i
  | .compressedChunk i _ => some i
  | _ => none

/-- The chunk a codec run is for. -/
def Access.decompressed : Access → Option Nat
  | .decompress i => some i
  | _ => none

/-- The slice of the chunk table a table read loads. -/
def Access.tableRead : Access → Option (Nat × Nat)
  | .chunkTable first count => some (first, count)
  | _ => none

theorem compressedChunkSize_accesses (cs : Nat) (pl : ReadPlan) (offs : List Nat) (i : Nat) :
    ∀ a ∈ (compressedChunkSize cs pl offs i).2, ∃ j, a = .chunkOffset j := by
  unfold compressedChunkSize
  split_ifs <;> simp

theorem filterMap_chunkOffsets {idx : List Access} (h : ∀ a ∈ idx, ∃ j, a = .chunkOffset j)
    {β : Type} (f : Access → Option β) (hf : ∀ j, f (.chunkOffset j) = none) :
    idx.filterMap f = [] :=
  List.filterMap_eq_nil_iff.mpr fun a ha => by obtain ⟨j, rfl⟩ := h a ha; exact hf j


/-- The accesses of a read of `len` bytes at `offset` of a resource of `U` bytes touch only
what the read needs: one slice of the chunk table, from the entry of chunk `startChunk - 1`
up to that of chunk `endChunk + 1` or the table's end; the payload of each chunk
`startChunk ..= endChunk` once, in order; and the codec on some of those chunks, each at
most once. -/
structure ReadsOnlyNeeded (U len offset : Nat) (acc : List Access) : Prop where
  table_slice : acc.filterMap Access.tableRead =
    [(offset / wimChunkSize - 1, min ((offset + len - 1) / wimChunkSize + 1)
      (numChunksOf U - 1) - (offset / wimChunkSize - 1))]
  chunks_in_order : acc.filterMap Access.chunkRead =
    List.range' (offset / wimChunkSize)
      ((offset + len - 1) / wimChunkSize - offset / wimChunkSize + 1)
  decompressed_needed : List.Sublist (acc.filterMap Access.decompressed)
    (List.range' (offset / wimChunkSize)
      ((offset + len - 1) / wimChunkSize - offset / wimChunkSize + 1))

/-! ## The stream -/

theorem WimFile.seekSet_of_lt (fp : WimFile) {off : Nat} (h : off < 2 ^ 63) :
    fp.seekSet off = some { fp with pos := off } := by
  unfold WimFile.seekSet; rw [if_pos h]

theorem WimFile.seek_skip (fp : WimFile) {so : Nat} (h : fp.pos + so < 2 ^ 63) :
    (if so ≠ 0 then fp.seekCur so else some fp) = some { fp with pos := fp.pos + so } := by
  split_ifs with hso
  · exact WimFile.seekSet_of_lt fp h
  · simp only [ne_eq, not_not] at hso; subst hso; rfl

theorem WimFile.readBytes_of_drop {fp : WimFile} {pl rest : List UInt8}
    (h : fp.bytes.drop fp.pos = pl ++ rest) {n : Nat} (hn : n ≤ pl.length) :
    fp.readBytes n = pl.take n := by
  rw [WimFile.readBytes, h, List.take_append_of_le_length hn]

theorem WimFile.readBytes_skip_of_drop {fp : WimFile} {pl rest : List UInt8}
    (h : fp.bytes.drop fp.pos = pl ++ rest) {so n : Nat} (hn : so + n ≤ pl.length) :
    ({ fp with pos := fp.pos + so } : WimFile).readBytes n = (pl.drop so).take n := by
  rw [WimFile.readBytes, ← List.drop_drop, h, List.drop_append_of_le_length (by omega),
    List.take_append_of_le_length (by simp; omega)]


/-! ## The stages of a read -/

variable {dec : List UInt8 → Nat → Option (List UInt8)} {r : CompressedResource dec}
  {fp0 : WimFile} {roff : Nat}

/-- The chunk table stage of a read inside a well-formed resource: it reads the table slice
`table_slice` names and leaves `chunk_offsets[j]` holding the offset of chunk
`startChunk + j`. -/
theorem readChunkTable_inside (hr : StoredAt r fp0 roff) {len offset : Nat}
    (hrd : ReadInside r.data.length len offset) (s : ReadState) (hb : s.fp.bytes = fp0.bytes) :
    ∃ offs s', readChunkTable roff (readPlan r.data.length len offset) s = .ok offs s' ∧
      s'.fp.bytes = fp0.bytes ∧ s'.out = s.out ∧
      s'.accesses = s.accesses ++ [.chunkTable (readPlan r.data.length len offset).startTableIdx
        (readPlan r.data.length len offset).numNeededChunkEntries] ∧
      ∀ j < (readPlan r.data.length len offset).numNeededChunks,
        offs.getD j 0 = payloadOffset r.payloads ((readPlan r.data.length len offset).startChunk + j) := by
  set pl := readPlan r.data.length len offset with hpl
  set w := chunkEntrySizeOf r.data.length with hw
  have hwpl : pl.chunkEntrySize = w := rfl
  obtain ⟨hsti, hcnt⟩ := hrd.table_slice
  rw [← hpl] at hsti hcnt
  have hn := r.length_payloads
  have hle : pl.startTableIdx + pl.numNeededChunkEntries ≤ r.payloads.length - 1 := by
    rw [hcnt, hn]; exact Nat.min_le_right _ _
  have hsl : pl.startTableIdx ≤ r.payloads.length - 1 := by omega
  have hpos : roff + pl.startTableIdx * w < 2 ^ 63 := by
    have h1 : pl.startTableIdx * w ≤ r.table.length := by
      rw [r.length_table, ← hn]; exact Nat.mul_le_mul_right _ hsl
    have := hr.offset_lt; have := hr.storedSize_lt; have := r.storedSize_eq
    omega
  obtain ⟨rest, hrest⟩ := hr.drop_tableEntry hsl
  set X := ((chunkTableEntries r.payloads).drop pl.startTableIdx).take pl.numNeededChunkEntries
    with hX
  have hcntle : pl.numNeededChunkEntries ≤
      ((chunkTableEntries r.payloads).drop pl.startTableIdx).length := by
    simp only [List.length_drop, chunkTableEntries, List.length_map, List.length_range]
    omega
  have hXlen : X.length = pl.numNeededChunkEntries := by
    rw [hX, List.length_take, Nat.min_eq_left hcntle]
  have hbuf : ({ s.fp with pos := roff + pl.startTableIdx * w } : WimFile).readBytes
      (pl.numNeededChunkEntries * w) = X.flatMap (leBytes w) := by
    simp only [WimFile.readBytes, hb, hrest]
    exact take_flatMap_leBytes w _ rest hcntle
  have hdec : decodeChunkEntries w pl.numNeededChunkEntries (X.flatMap (leBytes w)) = X := by
    have := decodeChunkEntries_flatMap w X []
    rw [List.append_nil, hXlen] at this
    rw [this]
    conv_rhs => rw [← List.map_id X]
    exact List.map_congr_left fun x hx => Nat.mod_eq_of_lt
      (r.chunkTableEntries_lt hr.storedSize_lt x (List.mem_of_mem_drop (List.mem_of_mem_take hx)))
  rw [readChunkTable, hwpl, Nat.mod_eq_of_lt (by omega), WimFile.seekSet_of_lt _ hpos]
  simp only [hbuf, hdec, length_flatMap_leBytes, hXlen, ne_eq, not_true_eq_false, if_false]
  refine ⟨_, _, rfl, hb, rfl, rfl, fun j hj => ?_⟩
  have hentries : pl.numNeededChunkEntries =
      if pl.startChunk = 0 then pl.numNeededChunks - 1 else pl.numNeededChunks := rfl
  rw [hX, hsti, hentries] at *
  exact getD_chunkOffsets r.payloads hj hle

/-- Inside a well-formed resource the loop derives every chunk's compressed size right:
from adjacent `chunk_offsets` entries, or for the last chunk from the stored size. -/
theorem compressedChunkSize_inside (hr : StoredAt r fp0 roff) {len offset : Nat}
    (hrd : ReadInside r.data.length len offset) {offs : List Nat}
    (hoffs : ∀ j < (readPlan r.data.length len offset).numNeededChunks,
      offs.getD j 0 = payloadOffset r.payloads ((readPlan r.data.length len offset).startChunk + j))
    {i : Nat} (h1 : (readPlan r.data.length len offset).startChunk ≤ i)
    (h2 : i ≤ (readPlan r.data.length len offset).endChunk) (hi : i < r.payloads.length) :
    (compressedChunkSize r.storedSize (readPlan r.data.length len offset) offs i).1 =
      r.payloads[i].length := by
  have hsucc := payloadOffset_succ r.payloads hi
  have htot := payloadOffset_le_length_flatten r.payloads (i + 1)
  have hst := r.storedSize_eq
  have hlt := hr.storedSize_lt
  have hp := r.length_payload_le i hi
  have hneed := hrd.numNeededChunks
  have hn := r.length_payloads
  unfold compressedChunkSize
  rw [hrd.lastChunk]
  split_ifs with hlast
  · simp only
    have hidx : i + 1 - (readPlan r.data.length len offset).startChunk <
        (readPlan r.data.length len offset).numNeededChunks := by
      rw [hneed]; split_ifs <;> omega
    rw [hoffs _ hidx, hoffs _ (by omega), Nat.add_sub_cancel' (by omega),
      Nat.add_sub_cancel' h1, subU64_of_le (by omega) (by omega)]
    unfold wimChunkSize at hp
    omega
  · simp only
    have hnc : (readPlan r.data.length len offset).numChunkEntries = numChunksOf r.data.length - 1 :=
      hrd.lastChunk
    have hts : (readPlan r.data.length len offset).chunkTableSize = r.table.length := by
      have htl := r.length_table
      have hdef : (readPlan r.data.length len offset).chunkTableSize =
          chunkEntrySizeOf r.data.length * (readPlan r.data.length len offset).numChunkEntries
            % 2 ^ 64 := rfl
      rw [hdef, hnc, Nat.mul_comm, ← htl, Nat.mod_eq_of_lt (by omega)]
    have hlast' : i + 1 = r.payloads.length := by omega
    rw [hts, hoffs (i - (readPlan r.data.length len offset).startChunk) (by omega),
      Nat.add_sub_cancel' h1]
    rw [hlast', payloadOffset_length] at hsucc
    have e1 : subU64 r.storedSize r.table.length = r.payloads.flatten.length :=
      (subU64_of_le (by omega) (by omega)).trans (by omega)
    have e2 : subU64 r.payloads.flatten.length (payloadOffset r.payloads i) =
        r.payloads[i].length := (subU64_of_le (by omega) (by omega)).trans (by omega)
    rw [e1, e2]
    unfold wimChunkSize at hp
    omega

theorem chunkTableSize_inside (hr : StoredAt r fp0 roff) {len offset : Nat}
    (hrd : ReadInside r.data.length len offset) :
    (readPlan r.data.length len offset).chunkTableSize = r.table.length := by
  have hnc : (readPlan r.data.length len offset).numChunkEntries = numChunksOf r.data.length - 1 :=
    hrd.lastChunk
  have hdef : (readPlan r.data.length len offset).chunkTableSize =
      chunkEntrySizeOf r.data.length * (readPlan r.data.length len offset).numChunkEntries
        % 2 ^ 64 := rfl
  have := hr.storedSize_lt; have := r.storedSize_eq
  rw [hdef, hnc, Nat.mul_comm, ← r.length_table, Nat.mod_eq_of_lt (by omega)]

/-- A chunk stored raw whose needed bytes are in the file: `readChunk` seeks to them and reads
them straight into the output. -/
theorem readChunk_raw {cs U : Nat} {pl : ReadPlan} {offs : List Nat} {i ccs : Nat}
    {idx : List Access} {s : ReadState} (hc : compressedChunkSize cs pl offs i = (ccs, idx))
    (hraw : ccs = uncompressedChunkSize U pl i) (hpos : s.fp.pos + pl.startOffset i < 2 ^ 63)
    (hlen : (({ s.fp with pos := s.fp.pos + pl.startOffset i } : WimFile).readBytes
      (pl.partialChunkSize i)).length = pl.partialChunkSize i) :
    readChunk dec cs U pl offs i s = .ok () { s with
      fp := ({ s.fp with pos := s.fp.pos + pl.startOffset i } : WimFile).afterRead
        (pl.partialChunkSize i),
      out := s.out ++ ({ s.fp with pos := s.fp.pos + pl.startOffset i } : WimFile).readBytes
        (pl.partialChunkSize i),
      accesses := s.accesses ++ idx ++ [.rawChunk i (pl.startOffset i) (pl.partialChunkSize i)] } := by
  simp only [readChunk, hc]
  rw [if_pos hraw, WimFile.seek_skip _ hpos]
  simp only [hlen, ne_eq, not_true_eq_false, if_false]

/-- A compressed chunk that the file holds whole and the codec decodes: `readChunk` reads it,
decompresses it and appends the needed slice. -/
theorem readChunk_compressed {cs U : Nat} {pl : ReadPlan} {offs : List Nat} {i ccs : Nat}
    {idx : List Access} {s : ReadState} {ubuf : List UInt8}
    (hc : compressedChunkSize cs pl offs i = (ccs, idx)) (hne : ccs ≠ uncompressedChunkSize U pl i)
    (hlen : (s.fp.readBytes ccs).length = ccs)
    (hdec : dec (s.fp.readBytes ccs) (uncompressedChunkSize U pl i) = some ubuf) :
    readChunk dec cs U pl offs i s = .ok () { s with
      fp := s.fp.afterRead ccs,
      out := s.out ++ (if pl.partialChunkSize i ≠ uncompressedChunkSize U pl i then
        (ubuf.drop (pl.startOffset i)).take (pl.partialChunkSize i) else ubuf),
      accesses := s.accesses ++ idx ++ [.compressedChunk i ccs, .decompress i] } := by
  simp only [readChunk, hc]
  rw [if_neg hne]
  simp only [hlen, ne_eq, not_true_eq_false, if_false, hdec, List.append_assoc,
    List.singleton_append]
  split_ifs <;> rfl

theorem readChunk_inside (hr : StoredAt r fp0 roff) {len offset : Nat}
    (hrd : ReadInside r.data.length len offset) {offs : List Nat}
    (hoffs : ∀ j < (readPlan r.data.length len offset).numNeededChunks,
      offs.getD j 0 = payloadOffset r.payloads ((readPlan r.data.length len offset).startChunk + j))
    {i : Nat} (h1 : (readPlan r.data.length len offset).startChunk ≤ i)
    (h2 : i ≤ (readPlan r.data.length len offset).endChunk) {s : ReadState}
    (hb : s.fp.bytes = fp0.bytes)
    (hpos : s.fp.pos = roff + r.table.length + payloadOffset r.payloads i) :
    ∃ s' acc, readChunk dec r.storedSize r.data.length (readPlan r.data.length len offset) offs i s
        = .ok () s' ∧
      s'.fp.bytes = fp0.bytes ∧
      (i < (readPlan r.data.length len offset).endChunk →
        s'.fp.pos = roff + r.table.length + payloadOffset r.payloads (i + 1)) ∧
      s'.out = s.out ++ (r.data.drop (readBound len offset i)).take
        (readBound len offset (i + 1) - readBound len offset i) ∧
      s'.accesses = s.accesses ++ acc ∧ acc.filterMap Access.chunkRead = [i] ∧
      List.Sublist (acc.filterMap Access.decompressed) [i] ∧
      acc.filterMap Access.tableRead = [] := by
  have hi : i < r.payloads.length := by have := hrd.endChunk_lt; rw [r.length_payloads]; omega
  obtain ⟨rest, hrest⟩ := hr.drop_chunkStart hi
  have hccs := compressedChunkSize_inside hr hrd hoffs h1 h2 hi
  have hidx := compressedChunkSize_accesses r.storedSize (readPlan r.data.length len offset) offs i
  have hucs := hrd.uncompressedChunkSize_eq h2
  have hclen := length_chunkOf r.data i
  obtain ⟨hlo, hpart, hfit, hfull, hzero⟩ := hrd.chunk_bounds h1 h2
  have hnext := payloadOffset_succ r.payloads hi
  cases hc : compressedChunkSize r.storedSize (readPlan r.data.length len offset) offs i with
  | mk ccs idx =>
  rw [hc] at hccs hidx
  simp only at hccs hidx
  subst hccs
  have hfitC := le_trans hfit (Nat.min_le_left _ _)
  have hat : s.fp.bytes.drop s.fp.pos = r.payloads[i] ++ rest := by rw [hb, hpos, hrest]
  have hcr : idx.filterMap Access.chunkRead = [] := filterMap_chunkOffsets hidx _ fun _ => rfl
  have hdc : idx.filterMap Access.decompressed = [] := filterMap_chunkOffsets hidx _ fun _ => rfl
  have htr : idx.filterMap Access.tableRead = [] := filterMap_chunkOffsets hidx _ fun _ => rfl
  rcases r.stored i hi with hraw | ⟨hne, hlt, hdec⟩
  · have hposlt : s.fp.pos + (readPlan r.data.length len offset).startOffset i < 2 ^ 63 := by
      have := hr.offset_lt; have := hr.storedSize_lt; have := r.storedSize_eq
      have := payloadOffset_le_length_flatten r.payloads (i + 1)
      have := r.length_payload_le i hi
      unfold wimChunkSize at *
      omega
    have hread : ({ s.fp with pos := s.fp.pos + (readPlan r.data.length len offset).startOffset i } :
        WimFile).readBytes ((readPlan r.data.length len offset).partialChunkSize i) =
        (r.data.drop (readBound len offset i)).take
          ((readPlan r.data.length len offset).partialChunkSize i) := by
      rw [WimFile.readBytes_skip_of_drop hat (by rw [hraw, hclen]; omega), hraw,
        take_drop_chunkOf _ _ hfitC, hlo]
    have hlen : ((r.data.drop (readBound len offset i)).take
        ((readPlan r.data.length len offset).partialChunkSize i)).length =
        (readPlan r.data.length len offset).partialChunkSize i := by
      rw [List.length_take, List.length_drop, hpart]
      exact Nat.min_eq_left (Nat.sub_le_sub_right ((Nat.min_le_left _ _).trans hrd.end_le) _)
    rw [readChunk_raw hc (by rw [hraw, hucs, hclen]) hposlt (by rw [hread, hlen])]
    refine ⟨_, idx ++ [.rawChunk i ((readPlan r.data.length len offset).startOffset i)
      ((readPlan r.data.length len offset).partialChunkSize i)], rfl, hb, fun hlt => ?_,
      by rw [hread, hpart], List.append_assoc _ _ _, by simp [hcr, Access.chunkRead],
      by simp [hdc, Access.decompressed], by simp [htr, Access.tableRead]⟩
    have := hfull hlt
    rw [hraw, hclen] at hnext
    simp only [WimFile.afterRead, hread, hlen]
    simp only [hpos, hnext]
    omega
  · have hread : s.fp.readBytes r.payloads[i].length = r.payloads[i] := by
      rw [WimFile.readBytes_of_drop hat le_rfl, List.take_length]
    have hslice := take_drop_chunkOf r.data i hfitC
    rw [hlo] at hslice
    rw [readChunk_compressed hc (by rw [hucs, ← hclen]; exact hne) (by rw [hread])
      (by rw [hread, hucs, ← hclen]; exact hdec)]
    refine ⟨_, idx ++ [.compressedChunk i r.payloads[i].length, .decompress i], rfl, hb,
      fun _ => by simp only [WimFile.afterRead, hread, hpos, hnext]; omega, ?_,
      List.append_assoc _ _ _, by simp [hcr, Access.chunkRead],
      by simp [hdc, Access.decompressed], by simp [htr, Access.tableRead]⟩
    split_ifs with hp
    · rw [← hpart, hslice]
    · rw [hucs, ← hclen] at hp
      rw [not_not] at hp
      have hso := hzero (hp.trans hclen)
      rw [hso, List.drop_zero, hp, List.take_length] at hslice
      rw [hslice, ← hp, hpart]

/-- The chunk loop over `k` chunks from chunk `i`: it writes the part of the read that falls
in those chunks, reads each of them once, and decompresses none outside them. -/
theorem chunkLoop_inside (hr : StoredAt r fp0 roff) {len offset : Nat}
    (hrd : ReadInside r.data.length len offset) {offs : List Nat}
    (hoffs : ∀ j < (readPlan r.data.length len offset).numNeededChunks,
      offs.getD j 0 = payloadOffset r.payloads ((readPlan r.data.length len offset).startChunk + j))
    (k : Nat) : ∀ (i : Nat) (s : ReadState), (readPlan r.data.length len offset).startChunk ≤ i →
      i + k ≤ (readPlan r.data.length len offset).endChunk + 1 → s.fp.bytes = fp0.bytes →
      (i ≤ (readPlan r.data.length len offset).endChunk →
        s.fp.pos = roff + r.table.length + payloadOffset r.payloads i) →
      ∃ s' acc, chunkLoop dec r.storedSize r.data.length (readPlan r.data.length len offset) offs
          k i s = .ok () s' ∧
        s'.out = s.out ++ (r.data.drop (readBound len offset i)).take
          (readBound len offset (i + k) - readBound len offset i) ∧
        s'.accesses = s.accesses ++ acc ∧ acc.filterMap Access.chunkRead = List.range' i k ∧
        List.Sublist (acc.filterMap Access.decompressed) (List.range' i k) ∧
        acc.filterMap Access.tableRead = [] := by
  induction k with
  | zero =>
    intro i s _ _ _ _
    exact ⟨s, [], rfl, by simp, by simp, rfl, by simp, rfl⟩
  | succ k ih =>
    intro i s h1 hk hb hpos
    obtain ⟨s₁, acc₁, hrun, hb₁, hpos₁, hout₁, hacc₁, hcr₁, hdec₁, htr₁⟩ :=
      readChunk_inside hr hrd hoffs h1 (by omega) hb (hpos (by omega))
    obtain ⟨s₂, acc₂, hrun₂, hout₂, hacc₂, hcr₂, hdec₂, htr₂⟩ :=
      ih (i + 1) s₁ (by omega) (by omega) hb₁ fun h => hpos₁ (by omega)
    have hm₁ := readBound_mono len offset (Nat.le_succ i)
    have hm₂ := readBound_mono len offset (show i + 1 ≤ i + 1 + k by omega)
    refine ⟨s₂, acc₁ ++ acc₂, ?_, ?_, by rw [hacc₂, hacc₁, List.append_assoc], ?_, ?_, ?_⟩
    · rw [chunkLoop, hrun]; exact hrun₂
    · rw [hout₂, hout₁, List.append_assoc, take_drop_append_take_drop _ hm₁ hm₂,
        show i + 1 + k = i + (k + 1) by omega]
    · rw [List.filterMap_append, hcr₁, hcr₂, List.range'_succ]; rfl
    · rw [List.filterMap_append, List.range'_succ]
      exact hdec₁.append hdec₂ |>.trans (by simp)
    · rw [List.filterMap_append, htr₁, htr₂]; rfl

/-- **Reading inside a well-formed compressed resource.** `read_compressed_resource` returns
0 having written exactly bytes `[offset, offset + len)` of the uncompressed data, and reads
only what it needs (`ReadsOnlyNeeded`). -/
theorem readCompressedResource_inside (codecs : Codecs) (ctype : CompressionType)
    {r : CompressedResource (codecs.select ctype)} (hr : StoredAt r fp0 roff) {len offset : Nat}
    (hrd : ReadInside r.data.length len offset) :
    ∃ s, readCompressedResource codecs fp0 r.storedSize r.data.length roff ctype len offset
        = .ok () s ∧
      s.out = (r.data.drop offset).take len ∧ ReadsOnlyNeeded r.data.length len offset s.accesses := by
  have hstart : (readPlan r.data.length len offset).startChunk = offset / wimChunkSize := rfl
  have hend : (readPlan r.data.length len offset).endChunk = (offset + len - 1) / wimChunkSize :=
    rfl
  obtain ⟨offs, s₁, htab, hb₁, hout₁, hacc₁, hoffs⟩ :=
    readChunkTable_inside hr hrd { fp := fp0, out := [], accesses := [] } rfl
  obtain ⟨hsti, hcnt⟩ := hrd.table_slice
  have hle := hrd.startChunk_le
  have hneed := hrd.numNeededChunks
  have h0 := hoffs 0 (by rw [hneed]; omega)
  rw [Nat.add_zero] at h0
  have hpos : roff + r.table.length + payloadOffset r.payloads
      (readPlan r.data.length len offset).startChunk < 2 ^ 63 := by
    have := hr.offset_lt; have := hr.storedSize_lt; have := r.storedSize_eq
    have := payloadOffset_le_length_flatten r.payloads (readPlan r.data.length len offset).startChunk
    omega
  have hpos64 : roff + r.table.length + payloadOffset r.payloads
      (readPlan r.data.length len offset).startChunk < 2 ^ 64 := by omega
  obtain ⟨s₂, acc, hrun, hout, hacc, hcr, hdec, htr⟩ :=
    chunkLoop_inside hr hrd hoffs ((readPlan r.data.length len offset).endChunk -
        (readPlan r.data.length len offset).startChunk + 1)
      (readPlan r.data.length len offset).startChunk
      ⟨⟨s₁.fp.bytes, roff + r.table.length + payloadOffset r.payloads
        (readPlan r.data.length len offset).startChunk⟩, s₁.out, s₁.accesses ++ [.chunkOffset 0]⟩
      le_rfl (by omega) hb₁ fun _ => rfl
  refine ⟨s₂, ?_, ?_, ⟨?_, ?_, ?_⟩⟩
  · rw [readCompressedResource, if_neg (Nat.pos_iff_ne_zero.mp hrd.len_pos)]
    simp only [htab, h0, chunkTableSize_inside hr hrd, Nat.mod_eq_of_lt hpos64,
      WimFile.seekSet_of_lt _ hpos]
    exact hrun
  · have hlen := hrd.len_pos
    have hs : readBound len offset (readPlan r.data.length len offset).startChunk = offset := by
      simp only [readBound, hstart, wimChunkSize]; omega
    have he : readBound len offset ((readPlan r.data.length len offset).startChunk +
        ((readPlan r.data.length len offset).endChunk -
          (readPlan r.data.length len offset).startChunk + 1)) = offset + len := by
      simp only [readBound, hstart, hend, wimChunkSize]; omega
    rw [hout, hout₁, hs, he, List.nil_append, Nat.add_sub_cancel_left]
  · rw [hacc, hacc₁, List.filterMap_append, List.filterMap_append, htr]
    simp only [List.filterMap, Access.tableRead, List.append_nil, List.nil_append]
    rw [hstart] at hsti
    rw [hend] at hcnt
    rw [← hcnt, hsti, Nat.add_sub_cancel_left]
  · rw [hacc, hacc₁, List.filterMap_append, List.filterMap_append, hcr]
    simp [Access.chunkRead, hstart, hend]
  · rw [hacc, hacc₁, List.filterMap_append, List.filterMap_append]
    simpa [Access.decompressed, hstart, hend] using hdec

/-! ## `read_wim_resource` -/

/-- The entry `lte` describes the compressed resource `r`, stored in the WIM file `fp`. -/
structure InWimCompressed (lte : WimLookupTableEntry) {dec : List UInt8 → Nat → Option (List UInt8)}
    (r : CompressedResource dec) (fp : WimFile) : Prop where
  location : lte.location = .inWim
  compressed : lte.resourceEntry.flags.compressed = true
  size : lte.resourceEntry.size = r.storedSize
  originalSize : lte.resourceEntry.originalSize = r.data.length
  stored : StoredAt r fp lte.resourceEntry.offset

/-- A read inside the resource returns its bytes. -/
theorem InWimCompressed.readWimResource_inside_eq {env : ReadEnv} {fp : WimFile}
    {lte : WimLookupTableEntry} {r : CompressedResource (env.codecs.select env.wimCtype)}
    (he : InWimCompressed lte r fp) (hctype : env.wimCtype ≠ .none) {len offset : Nat}
    (hrd : ReadInside r.data.length len offset) :
    readWimResource env fp lte len offset false = .ok ((r.data.drop offset).take len) := by
  obtain ⟨s, hrun, hout, -⟩ := readCompressedResource_inside env.codecs env.wimCtype he.stored hrd
  have hct : wimResourceCompressionType env.wimCtype lte = env.wimCtype := by
    simp [wimResourceCompressionType, he.location, he.compressed]
  simp only [readWimResource, he.location, hct, Bool.false_or, hctype, decide_False,
    Bool.false_eq_true, if_false, he.size, he.originalSize, hrun, hout]

/-- **`read_wim_resource` inside a well-formed compressed resource.** For an entry of a
compressed resource in a WIM whose codec decodes its payloads, `read_wim_resource` of a read
inside the resource returns 0 with bytes `[offset, offset + len)` of the uncompressed data;
the `read_compressed_resource` run it makes reads one slice of the chunk table, the needed
chunks once each in order, and decompresses only needed chunks, each at most once. -/
theorem readWimResource_inside (env : ReadEnv) (fp : WimFile) (lte : WimLookupTableEntry)
    {r : CompressedResource (env.codecs.select env.wimCtype)} (he : InWimCompressed lte r fp)
    (hctype : env.wimCtype ≠ .none) {len offset : Nat}
    (hrd : ReadInside r.data.length len offset) :
    readWimResource env fp lte len offset false = .ok ((r.data.drop offset).take len) ∧
    ∃ s, readCompressedResource env.codecs fp lte.resourceEntry.size (wimResourceSize lte)
        lte.resourceEntry.offset env.wimCtype len offset = .ok () s ∧
      ReadsOnlyNeeded (wimResourceSize lte) len offset s.accesses := by
  obtain ⟨s, hrun, -, hneed⟩ := readCompressedResource_inside env.codecs env.wimCtype he.stored hrd
  rw [wimResourceSize, he.size, he.originalSize]
  exact ⟨he.readWimResource_inside_eq hctype hrd, s, hrun, hneed⟩

/-- A resource of two chunks, the first compressed, read across the chunk boundary. -/
theorem readWimResource_inside_acrossChunks :
    readWimResource ⟨⟨fun p n => if p = [9] then some (List.replicate n 0) else none,
        fun _ _ => none⟩, .lzx, fun _ => none, fun _ => []⟩
      ⟨[1, 0, 0, 0, 9, 1, 2], 0⟩ ⟨0, ⟨7, ⟨0x04⟩, 0, 32770⟩, .inWim, 1⟩ 3 32767 false =
        .ok [0, 1, 2] ∧
    ∃ s, readCompressedResource ⟨fun p n => if p = [9] then some (List.replicate n 0) else none,
        fun _ _ => none⟩ ⟨[1, 0, 0, 0, 9, 1, 2], 0⟩ 7 32770 0 .lzx 3 32767 = .ok () s ∧
      ReadsOnlyNeeded 32770 3 32767 s.accesses := by
  have hlen : (List.replicate 32768 (0 : UInt8) ++ [1, 2]).length = 32770 := by
    rw [List.length_append, List.length_replicate]; rfl
  have hres : ∃ r : CompressedResource
      (fun p n => if p = [9] then some (List.replicate n 0) else none),
      r.data = List.replicate 32768 0 ++ [1, 2] ∧ r.payloads = [[9], [1, 2]] := by
    refine ⟨⟨List.replicate 32768 0 ++ [1, 2], [[9], [1, 2]], by rw [hlen]; rfl,
      fun i h => ?_⟩, rfl, rfl⟩
    rw [chunkOf, wimChunkSize]
    match i, h with
    | 0, _ =>
      rw [Nat.zero_mul, List.drop_zero, List.take_left' (List.length_replicate _ _)]
      show StoredChunk _ _ [9]
      exact .inr ⟨by rw [List.length_replicate]; decide, by decide, by
        rw [List.length_replicate]; exact if_pos rfl⟩
    | 1, _ => rw [Nat.one_mul, List.drop_left' (List.length_replicate _ _)]; exact .inl rfl
  obtain ⟨r, hd, hp⟩ := hres
  have himage : r.image = [1, 0, 0, 0, 9, 1, 2] := by
    rw [CompressedResource.image, CompressedResource.table, hd, hlen, hp]; rfl
  have h := @readWimResource_inside
    ⟨⟨fun p n => if p = [9] then some (List.replicate n 0) else none, fun _ _ => none⟩,
      .lzx, fun _ => none, fun _ => []⟩
    ⟨[1, 0, 0, 0, 9, 1, 2], 0⟩ ⟨0, ⟨7, ⟨0x04⟩, 0, 32770⟩, .inWim, 1⟩ r
    ⟨rfl, rfl, by rw [CompressedResource.storedSize, himage]; rfl, by rw [hd, hlen],
      ⟨⟨[], by rw [himage]; rfl⟩, by decide, by rw [CompressedResource.storedSize, himage]; decide,
        by rw [hd, hlen]; decide⟩⟩
    (by decide) 3 32767 ⟨by decide, by rw [hd, hlen], by rw [hd, hlen]; decide⟩
  rwa [hd, List.drop_append_of_le_length (by rw [List.length_replicate]; decide),
    List.drop_replicate] at h

end WimLean
