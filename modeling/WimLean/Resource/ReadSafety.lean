import WimLean.Resource.ReadCorrect

/-!
# WimLean — buffer accesses of `read_compressed_resource` on any file

`read_compressed_resource` sizes three buffers from the resource entry and the requested
range alone: `chunk_offsets[num_needed_chunks]`, the slice of the on-disk chunk table it
loads (`num_needed_chunk_entries` entries from `start_table_idx`, inside the table's
`num_chunk_entries`), and `compressed_buf[WIM_CHUNK_SIZE - 1]`.

The first two hold whatever the file contains: the indices into `chunk_offsets` and the
table slice depend only on the sizes and the range (`readCompressedResource_indices_inBounds`,
proved for every run, failed ones included, by a step lemma for one chunk and a run lemma
for the loop).

The third does not. The size of a compressed chunk is the difference of two table entries,
truncated to `unsigned`, and is never compared with the buffer: a table whose entries are
more than `WIM_CHUNK_SIZE - 1` apart makes the loop `fread` that many bytes into
`compressed_buf` (`readCompressedResource_oversizedChunk`).
-/

namespace WimLean

/-- The state a run of a stage ends in, whether it returned or failed. -/
def ReadResult.state {α : Type} : EStateM.Result WimlibErr ReadState α → ReadState
  | .ok _ s => s
  | .error _ s => s

@[simp] theorem ReadResult.state_ok {α : Type} (a : α) (s : ReadState) :
    ReadResult.state (.ok a s) = s := rfl

@[simp] theorem ReadResult.state_error {α : Type} (e : WimlibErr) (s : ReadState) :
    ReadResult.state (α := α) (.error e s) = s := rfl

/-- An access stays inside the buffers whose size depends only on the plan: a read of the
on-disk chunk table inside its `num_chunk_entries` entries, and an index of `chunk_offsets`
below `num_needed_chunks`. -/
def Access.IndexInBounds (pl : ReadPlan) : Access → Prop
  | .chunkTable first count => first + count ≤ pl.numChunkEntries
  | .chunkOffset idx => idx < pl.numNeededChunks
  | _ => True

/-! ## Every run -/

/-- The indices of `chunk_offsets` a chunk inside the read reads are below
`num_needed_chunks`: the next entry exists whenever the chunk is not the resource's last,
since `num_needed_chunks` then counts it. -/
theorem compressedChunkSize_inBounds (U len offset cs : Nat) (offs : List Nat) {i : Nat}
    (h1 : (readPlan U len offset).startChunk ≤ i) (h2 : i ≤ (readPlan U len offset).endChunk) :
    ∀ a ∈ (compressedChunkSize cs (readPlan U len offset) offs i).2,
      a.IndexInBounds (readPlan U len offset) := by
  have hneed : (readPlan U len offset).numNeededChunks =
      (readPlan U len offset).endChunk - (readPlan U len offset).startChunk + 1 +
        (if (readPlan U len offset).endChunk ≠ subU64 (readPlan U len offset).numChunks 1
          then 1 else 0) := rfl
  unfold compressedChunkSize
  split_ifs with hlast <;> simp only [List.mem_cons, List.not_mem_nil, or_false] <;>
    rintro a (rfl | rfl) <;> simp only [Access.IndexInBounds] <;> split_ifs at hneed <;> omega

/-- **Step lemma.** One iteration of the chunk loop adds the `chunk_offsets` reads of
`compressedChunkSize` and payload accesses, whatever the file holds. -/
theorem readChunk_accesses (dec : List UInt8 → Nat → Option (List UInt8)) (cs U : Nat)
    (pl : ReadPlan) (offs : List Nat) (i : Nat) (s : ReadState) :
    ∃ rest, (readChunk dec cs U pl offs i s).state.accesses =
      s.accesses ++ (compressedChunkSize cs pl offs i).2 ++ rest ∧
      ∀ a ∈ rest, a.IndexInBounds pl := by
  cases hc : compressedChunkSize cs pl offs i with
  | mk ccs idx =>
  simp only [readChunk, hc]
  -- The branches of `readChunk`: a failed seek, a raw read, a short compressed read, a
  -- failed or successful decompression. Each adds a fixed list of payload accesses.
  split_ifs <;> (try split) <;> (try split_ifs) <;>
    simp only [ReadResult.state_ok, ReadResult.state_error, List.append_assoc] <;>
    first
    | exact ⟨_, rfl, by simp [Access.IndexInBounds]⟩
    | exact ⟨[], by simp, by simp⟩

/-- **Run lemma.** Every access the chunk loop adds over chunks inside the read stays in
bounds, whether the loop returns or fails. -/
theorem chunkLoop_inBounds (dec : List UInt8 → Nat → Option (List UInt8)) (cs U len offset : Nat)
    (offs : List Nat) (k : Nat) :
    ∀ (i : Nat) (s : ReadState), (readPlan U len offset).startChunk ≤ i →
      i + k ≤ (readPlan U len offset).endChunk + 1 →
      ∀ a ∈ (chunkLoop dec cs U (readPlan U len offset) offs k i s).state.accesses,
        a ∈ s.accesses ∨ a.IndexInBounds (readPlan U len offset) := by
  induction k with
  | zero => intro i s _ _ a ha; exact .inl ha
  | succ k ih =>
    intro i s h1 hk a ha
    obtain ⟨rest, hacc, hrest⟩ := readChunk_accesses dec cs U (readPlan U len offset) offs i s
    have hstep : ∀ b ∈ (readChunk dec cs U (readPlan U len offset) offs i s).state.accesses,
        b ∈ s.accesses ∨ b.IndexInBounds (readPlan U len offset) := by
      intro b hb
      rw [hacc, List.mem_append, List.mem_append] at hb
      rcases hb with (hb | hb) | hb
      · exact .inl hb
      · exact .inr (compressedChunkSize_inBounds U len offset cs offs h1 (by omega) b hb)
      · exact .inr (hrest b hb)
    rw [chunkLoop] at ha
    split at ha
    · next s₁ hrun =>
      rcases ih (i + 1) s₁ (by omega) (by omega) a ha with ha | ha
      · exact hstep a (by rw [hrun]; exact ha)
      · exact .inr ha
    · next e s₁ hrun =>
      exact hstep a (by rw [hrun]; exact ha)

section Indices

variable {U len offset : Nat} (hrd : ReadInside U len offset)
include hrd

/-- **`chunk_offsets` and the chunk-table slice stay in bounds on every file.** For a read
inside a resource entry's uncompressed size, every index of `chunk_offsets` that
`read_compressed_resource` reads is below `num_needed_chunks`, and the slice of the chunk
table it loads lies inside the table, whatever the file's bytes and however the run ends. -/
theorem readCompressedResource_indices_inBounds (codecs : Codecs) (fp : WimFile)
    (cs roff : Nat) (ctype : CompressionType) :
    ∀ a ∈ (readCompressedResource codecs fp cs U roff ctype len offset).state.accesses,
      a.IndexInBounds (readPlan U len offset) := by
  have hslice : (readPlan U len offset).startTableIdx +
      (readPlan U len offset).numNeededChunkEntries ≤ (readPlan U len offset).numChunkEntries := by
    rw [hrd.table_slice.2, show (readPlan U len offset).numChunkEntries = _ from hrd.lastChunk]
    exact Nat.min_le_right _ _
  have hneed := hrd.numNeededChunks
  have hle := hrd.startChunk_le
  have htab : ∀ (s : ReadState), s.accesses = [] → ∀ a ∈ (ReadResult.state (readChunkTable roff
      (readPlan U len offset) s)).accesses, a.IndexInBounds (readPlan U len offset) := by
    intro s hs a ha
    simp only [readChunkTable] at ha
    split at ha
    · simp [hs] at ha
    · split_ifs at ha <;>
        simpa [hs, Access.IndexInBounds] using (show a = _ by simpa [hs] using ha) ▸ hslice
  unfold readCompressedResource
  rw [if_neg (Nat.pos_iff_ne_zero.mp hrd.len_pos)]
  dsimp only
  split
  · next e s₁ hrun => exact htab _ rfl |> fun h => by rw [hrun] at h; exact h
  · next offs s₁ hrun =>
    have h₁ : ∀ a ∈ s₁.accesses ++ [.chunkOffset 0], a.IndexInBounds (readPlan U len offset) := by
      intro a ha
      rw [List.mem_append] at ha
      rcases ha with ha | ha
      · exact htab _ rfl a (by rw [hrun]; exact ha)
      · simp only [List.mem_singleton] at ha; subst ha
        simp only [Access.IndexInBounds]; omega
    split
    · simpa using h₁
    · intro a ha
      rcases chunkLoop_inBounds _ cs U len offset offs _ _ _ le_rfl (by omega) a ha with ha | ha
      · exact h₁ a ha
      · exact ha

end Indices

/-- Three bytes read across the chunk boundary of a 32770-byte resource of two chunks, on a
file holding its chunk table and a compressed first chunk. -/
theorem readCompressedResource_indices_inBounds_acrossChunks :
    ReadInside 32770 3 32767 ∧
      ∀ a ∈ (readCompressedResource
          ⟨fun p n => if p = [9] then some (List.replicate n 0) else none, fun _ _ => none⟩
          ⟨[1, 0, 0, 0, 9, 1, 2], 0⟩ 7 32770 0 .lzx 3 32767).state.accesses,
        a.IndexInBounds (readPlan 32770 3 32767) :=
  ⟨⟨by decide, by decide, by decide⟩,
    readCompressedResource_indices_inBounds ⟨by decide, by decide, by decide⟩ _ _ _ _ _⟩

/-! ## The oversized compressed chunk -/

/-- A resource of two chunks (65536 bytes) whose one chunk-table entry, `40000`, is followed
by 40000 bytes: reading its first byte takes the first chunk to be 40000 compressed bytes,
not the 32768 it expands to, so stored compressed, and `fread`s all 40000 of them into
`compressed_buf`, whichever codec then runs. -/
theorem readCompressedResource_oversized_of_length (codecs : Codecs) (R : List UInt8)
    (hR : R.length = 40000) :
    Access.compressedChunk 0 40000 ∈ (readCompressedResource codecs
      ⟨[0x40, 0x9C, 0, 0] ++ R, 0⟩ 40004 65536 0 .lzx 1 0).state.accesses ∧
    (readCompressedResource codecs ⟨[0x40, 0x9C, 0, 0] ++ R, 0⟩ 40004 65536 0 .lzx 1 0).state.fp.pos
      = 40004 := by
  have hpl : readPlan 65536 1 0 = ⟨2, 1, 0, 0, 0, 0, 2, 4, 4, 0, 1⟩ := rfl
  have htable : WimFile.readBytes ⟨[0x40, 0x9C, 0, 0] ++ R, 0⟩ 4 = [0x40, 0x9C, 0, 0] := by
    simp [WimFile.readBytes]
  have hchunk : WimFile.readBytes ⟨[0x40, 0x9C, 0, 0] ++ R, 4⟩ 40000 = R := by
    simp [WimFile.readBytes, ← hR]
  have hdec : decodeChunkEntries 4 1 [0x40, 0x9C, 0, 0] = [40000] := by decide
  -- Run the function symbolically: the table stage, the seek, and the one chunk.
  simp only [readCompressedResource, readChunkTable, hpl, WimFile.seekSet, WimFile.afterRead,
    Nat.reduceMul, Nat.reduceAdd, Nat.reduceMod, Nat.reducePow, Nat.reduceLT, one_ne_zero,
    if_false, if_true, htable, hdec, List.length_cons, List.length_nil, ne_eq, not_true_eq_false,
    List.singleton_append, List.nil_append, List.getD_cons_zero, List.getD_cons_succ, Nat.reduceSub,
    ↓reduceIte, chunkLoop, readChunk, compressedChunkSize, uncompressedChunkSize, subU64,
    ReadPlan.startOffset, ReadPlan.endOffset, ReadPlan.partialChunkSize, hchunk, hR, wimChunkSize,
    zero_ne_one, not_false_eq_true, ite_self, Nat.reduceEqDiff]
  cases codecs.select CompressionType.lzx R 32768 <;> simp [ReadResult.state]

/-- **`compressed_buf` overflows on a hostile chunk table.** On the resource of
`readCompressedResource_oversized_of_length` with zero payload bytes, the loop `fread`s
40000 bytes into the 32767-byte `compressed_buf`: the access is recorded and the stream has
advanced past all of them. -/
theorem readCompressedResource_oversizedChunk (codecs : Codecs) :
    Access.compressedChunk 0 40000 ∈ (readCompressedResource codecs
      ⟨[0x40, 0x9C, 0, 0] ++ List.replicate 40000 0, 0⟩ 40004 65536 0 .lzx 1 0).state.accesses ∧
    (readCompressedResource codecs
      ⟨[0x40, 0x9C, 0, 0] ++ List.replicate 40000 0, 0⟩ 40004 65536 0 .lzx 1 0).state.fp.pos
      = 40004 ∧
    wimChunkSize - 1 < 40000 :=
  have h := readCompressedResource_oversized_of_length codecs _ (List.length_replicate 40000 0)
  ⟨h.1, h.2, by decide⟩

end WimLean
