import WimLean.Resource.ReadCorrect

/-!
# WimLean — `extract_wim_resource`

`extract_wim_resource(lte, size, extract_chunk, arg)` reads the first `size` bytes of a
resource a buffer at a time, hands each buffer to the callback, and, when the whole
resource is read, checks its SHA-1 against the entry's hash.

The model is in two levels:

* the code's loop (`extractLoop`), over `bytes_remaining` and `offset`, run by
  `extractWimResource` with `size` iterations of fuel (each reads at least one byte);
* the same extraction said span by span (`extractWimResourceSpec`): one read of each
  32768-byte chunk of the prefix, in ascending order (`chunkSpans`), stopping at the first
  error, then the hash check.

`extractLoop_eq_extractSpans` shows by induction on the fuel that the loop makes exactly
those reads, so the code refines the span-by-span statement for every reader and every
callback (`extractWimResource_eq_spec`). On the span-by-span level, a reader that returns the
resource's bytes and a callback that returns 0 on the calls it is given (`runChunkCalls` of
`spanCalls`, each call on the argument the one before left) give back the prefix
(`extractSpans_ok`, `flatten_chunkSpans`); `extractWimResource_ok` puts the two together, and
`extractWimResource_inside` applies it to a compressed resource in a WIM through
`readWimResource_inside`.
-/

namespace WimLean

/-- One call of `extract_chunk`: the bytes passed, their length and their offset in the
resource. -/
structure ChunkCall where
  buf : List UInt8
  len : Nat
  offset : Nat
  deriving DecidableEq, Repr

/-- The state of `extract_wim_resource`: the callback's `extract_chunk_arg`, the bytes fed to
`sha1_update` since `sha1_init`, and the calls of `extract_chunk` made so far. -/
structure ExtractState (σ : Type) where
  arg : σ
  ctx : List UInt8
  calls : List ChunkCall

variable {σ : Type}

/-- One iteration of the loop of `extract_wim_resource`: `read_wim_resource` of `toRead`
bytes at `offset`, `sha1_update` when the hash is checked, then `extract_chunk`. -/
def extractStep (read : Nat → Nat → Except WimlibErr (List UInt8))
    (extractChunk : List UInt8 → Nat → Nat → σ → Except WimlibErr σ) (checkHash : Bool)
    (toRead offset : Nat) (s : ExtractState σ) : EStateM.Result WimlibErr (ExtractState σ) Unit :=
  match read toRead offset with
  | .error e => .error e s
  | .ok buf =>
    let s := { s with ctx := if checkHash then s.ctx ++ buf else s.ctx,
                      calls := s.calls ++ [⟨buf, toRead, offset⟩] }
    match extractChunk buf toRead offset s.arg with
    | .error e => .error e s
    | .ok arg => .ok () { s with arg }

/-- The loop `while (bytes_remaining)` of `extract_wim_resource`, with `bufSize` for
`sizeof(buf)`, for at most `fuel` iterations. -/
def extractLoop (read : Nat → Nat → Except WimlibErr (List UInt8))
    (extractChunk : List UInt8 → Nat → Nat → σ → Except WimlibErr σ) (checkHash : Bool)
    (bufSize : Nat) : Nat → Nat → Nat → ExtractState σ →
      EStateM.Result WimlibErr (ExtractState σ) Unit
  | 0, _, _, s => .ok () s
  | fuel + 1, bytesRemaining, offset, s =>
    if bytesRemaining = 0 then .ok () s
    else
      let toRead := min bytesRemaining bufSize
      match extractStep read extractChunk checkHash toRead offset s with
      | .error e s => .error e s
      | .ok () s =>
        extractLoop read extractChunk checkHash bufSize fuel (bytesRemaining - toRead)
          (offset + toRead) s

/-- The end of `extract_wim_resource`, after its loop: the loop's error, or, when the hash
is checked, `sha1_final` and `hashes_equal` against the entry's hash. -/
def extractFinish (sha1 : List UInt8 → Sha1Hash) (lte : WimLookupTableEntry) (checkHash : Bool)
    (r : EStateM.Result WimlibErr (ExtractState σ) Unit) :
    EStateM.Result WimlibErr (ExtractState σ) Unit :=
  match r with
  | .error e s => .error e s
  | .ok () s =>
    if checkHash && sha1 s.ctx ≠ lte.hash then .error .invalidResourceHash s else .ok () s

/-- `extract_wim_resource(lte, size, extract_chunk, extract_chunk_arg)`, `sha1` being the
digest `sha1_final` gives of the bytes fed since `sha1_init`. The buffer is
`min(WIM_CHUNK_SIZE, size)` bytes; the loop is given `size` iterations, one per byte at
most. -/
def extractWimResource (sha1 : List UInt8 → Sha1Hash) (env : ReadEnv) (fp : WimFile)
    (lte : WimLookupTableEntry) (size : Nat)
    (extractChunk : List UInt8 → Nat → Nat → σ → Except WimlibErr σ) (arg : σ) :
    EStateM.Result WimlibErr (ExtractState σ) Unit :=
  let checkHash := decide (size = wimResourceSize lte)
  extractFinish sha1 lte checkHash
    (extractLoop (fun len off => readWimResource env fp lte len off false) extractChunk
      checkHash (min wimChunkSize size) size size 0 ⟨arg, [], []⟩)

/-! ## Span by span -/

/-- The span of chunk `k` of a `size`-byte prefix: its offset and its length. -/
def chunkSpan (size k : Nat) : Nat × Nat :=
  (k * wimChunkSize, min wimChunkSize (size - k * wimChunkSize))

/-- The reads of a `size`-byte prefix one chunk at a time: `ceil(size / WIM_CHUNK_SIZE)` of
them, at offsets `0, WIM_CHUNK_SIZE, ...` in ascending order. -/
def chunkSpans (size : Nat) : List (Nat × Nat) :=
  (List.range (numChunksOf size)).map (chunkSpan size)

/-- Extraction over a list of spans: one step for each, stopping at the first error. -/
def extractSpans (read : Nat → Nat → Except WimlibErr (List UInt8))
    (extractChunk : List UInt8 → Nat → Nat → σ → Except WimlibErr σ) (checkHash : Bool) :
    List (Nat × Nat) → ExtractState σ → EStateM.Result WimlibErr (ExtractState σ) Unit
  | [], s => .ok () s
  | p :: spans, s =>
    match extractStep read extractChunk checkHash p.2 p.1 s with
    | .error e s => .error e s
    | .ok () s => extractSpans read extractChunk checkHash spans s

/-- Extraction of a `size`-byte prefix as the specification says it: read the chunks in
ascending order, return the first error, then check the hash of the whole resource. -/
def extractWimResourceSpec (sha1 : List UInt8 → Sha1Hash) (env : ReadEnv) (fp : WimFile)
    (lte : WimLookupTableEntry) (size : Nat)
    (extractChunk : List UInt8 → Nat → Nat → σ → Except WimlibErr σ) (arg : σ) :
    EStateM.Result WimlibErr (ExtractState σ) Unit :=
  extractFinish sha1 lte (decide (size = wimResourceSize lte))
    (extractSpans (fun len off => readWimResource env fp lte len off false) extractChunk
      (decide (size = wimResourceSize lte)) (chunkSpans size) ⟨arg, [], []⟩)

/-- The calls of `extract_chunk` for the spans of `content`: each span's bytes, its length and
its offset. -/
def spanCalls (content : List UInt8) (spans : List (Nat × Nat)) : List ChunkCall :=
  spans.map fun p => ⟨(content.drop p.1).take p.2, p.2, p.1⟩

/-- The callback on `calls`, each made on the argument the one before returned, up to the
first error: what `extract_chunk` returns on the calls of a run. -/
def runChunkCalls (extractChunk : List UInt8 → Nat → Nat → σ → Except WimlibErr σ) :
    List ChunkCall → σ → Except WimlibErr σ
  | [], a => .ok a
  | c :: cs, a =>
    match extractChunk c.buf c.len c.offset a with
    | .error e => .error e
    | .ok a => runChunkCalls extractChunk cs a

theorem length_chunkSpans (size : Nat) : (chunkSpans size).length = numChunksOf size := by
  simp [chunkSpans]

/-- Each span is a nonempty piece of the prefix. -/
theorem mem_chunkSpans {size : Nat} {p : Nat × Nat} (hp : p ∈ chunkSpans size) :
    0 < p.2 ∧ p.1 + p.2 ≤ size := by
  simp only [chunkSpans, List.mem_map, List.mem_range] at hp
  obtain ⟨k, hk, rfl⟩ := hp
  simp only [chunkSpan]
  unfold numChunksOf wimChunkSize at *
  omega

/-! ## The loop makes the span-by-span reads -/

theorem numChunksOf_le_of_le_mul {size k : Nat} (h : size ≤ k * wimChunkSize) :
    numChunksOf size ≤ k := by
  unfold numChunksOf wimChunkSize at *; omega

theorem lt_numChunksOf_of_mul_lt {size k : Nat} (h : k * wimChunkSize < size) :
    k < numChunksOf size := by
  unfold numChunksOf wimChunkSize at *; omega

/-- **Refinement, run lemma.** From chunk `k` on, with `offset` at the chunk's start (or the
prefix's end) and fuel for every remaining byte, the loop makes the reads of the remaining
chunks' spans. -/
theorem extractLoop_eq_extractSpans (read : Nat → Nat → Except WimlibErr (List UInt8))
    (extractChunk : List UInt8 → Nat → Nat → σ → Except WimlibErr σ) (checkHash : Bool)
    (size fuel : Nat) :
    ∀ (k offset bytesRemaining : Nat) (s : ExtractState σ),
      offset = min size (k * wimChunkSize) → bytesRemaining = size - offset →
      bytesRemaining ≤ fuel →
      extractLoop read extractChunk checkHash (min wimChunkSize size) fuel bytesRemaining offset s
        = extractSpans read extractChunk checkHash
            ((List.range' k (numChunksOf size - k)).map (chunkSpan size)) s := by
  induction fuel with
  | zero =>
    intro k offset rem s hoff hrem hfuel
    rw [Nat.sub_eq_zero_of_le (numChunksOf_le_of_le_mul (by omega))]
    rfl
  | succ fuel ih =>
    intro k offset rem s hoff hrem hfuel
    by_cases h0 : rem = 0
    · rw [extractLoop, if_pos h0, Nat.sub_eq_zero_of_le (numChunksOf_le_of_le_mul (by omega))]
      rfl
    · have hlt : k * wimChunkSize < size := by omega
      obtain rfl : offset = k * wimChunkSize := by omega
      subst hrem
      have hk := lt_numChunksOf_of_mul_lt hlt
      have hspan : chunkSpan size k =
          (k * wimChunkSize, min (size - k * wimChunkSize) (min wimChunkSize size)) := by
        simp only [chunkSpan, Prod.mk.injEq, true_and]; omega
      rw [extractLoop, if_neg h0, show numChunksOf size - k = (numChunksOf size - (k + 1)) + 1 by
        omega, List.range'_succ, List.map_cons, extractSpans, hspan]
      dsimp only
      split
      · rfl
      · have hC : 0 < wimChunkSize := by decide
        exact ih (k + 1) _ _ _ (by rw [Nat.succ_mul]; omega) (Nat.sub_sub _ _ _) (by omega)

/-- **The code refines the span-by-span extraction**, for every reader and callback: the
same reads, the same callbacks, the same result. -/
theorem extractWimResource_eq_spec (sha1 : List UInt8 → Sha1Hash) (env : ReadEnv)
    (fp : WimFile) (lte : WimLookupTableEntry) (size : Nat)
    (extractChunk : List UInt8 → Nat → Nat → σ → Except WimlibErr σ) (arg : σ) :
    extractWimResource sha1 env fp lte size extractChunk arg =
      extractWimResourceSpec sha1 env fp lte size extractChunk arg := by
  have hloop := extractLoop_eq_extractSpans (fun len off => readWimResource env fp lte len off false)
    extractChunk (decide (size = wimResourceSize lte)) size size 0 0 size ⟨arg, [], []⟩
    (by simp) (by simp) le_rfl
  rw [Nat.sub_zero, ← List.range_eq_range'] at hloop
  rw [extractWimResource, extractWimResourceSpec, chunkSpans, hloop]

/-! ## Reading the resource's bytes -/

/-- The calls made for a list of spans name those spans. -/
theorem map_span_spanCalls (content : List UInt8) (spans : List (Nat × Nat)) :
    (spanCalls content spans).map (fun c => (c.offset, c.len)) = spans := by
  simp only [spanCalls, List.map_map, Function.comp_def, Prod.mk.eta, List.map_id']

/-- The calls made for a list of spans pass those spans' bytes. -/
theorem map_buf_spanCalls (content : List UInt8) (spans : List (Nat × Nat)) :
    (spanCalls content spans).map ChunkCall.buf = spans.map fun p => (content.drop p.1).take p.2 := by
  simp only [spanCalls, List.map_map, Function.comp_def]

/-- **Span-by-span, all succeeding.** When every read returns the resource's bytes and the
callback returns 0 on each call it is given, the extraction returns having passed each span's
bytes once, in order, fed them to the hash when it is checked, and left the callback's argument
as the run of its calls does. -/
theorem extractSpans_ok (read : Nat → Nat → Except WimlibErr (List UInt8))
    (extractChunk : List UInt8 → Nat → Nat → σ → Except WimlibErr σ) (checkHash : Bool)
    (content : List UInt8) :
    ∀ (spans : List (Nat × Nat)) (s : ExtractState σ) (a' : σ),
      (∀ p ∈ spans, read p.2 p.1 = .ok ((content.drop p.1).take p.2)) →
      runChunkCalls extractChunk (spanCalls content spans) s.arg = .ok a' →
      ∃ s', extractSpans read extractChunk checkHash spans s = .ok () s' ∧ s'.arg = a' ∧
        s'.calls = s.calls ++ spanCalls content spans ∧
        s'.ctx = s.ctx ++
          (if checkHash then (spans.map fun p => (content.drop p.1).take p.2).flatten else []) := by
  intro spans
  induction spans with
  | nil =>
    intro s a' _ hcb
    exact ⟨s, rfl, by simpa [spanCalls, runChunkCalls] using hcb, by simp [spanCalls], by simp⟩
  | cons p spans ih =>
    intro s a' hread hcb
    simp only [spanCalls, List.map_cons, runChunkCalls] at hcb
    split at hcb
    · cases hcb
    next a₁ ha₁ =>
    obtain ⟨s', hrun, harg, hcalls, hctx⟩ := ih
      ⟨a₁, if checkHash then s.ctx ++ (content.drop p.1).take p.2 else s.ctx,
        s.calls ++ [⟨(content.drop p.1).take p.2, p.2, p.1⟩]⟩ a'
      (fun q hq => hread q (List.mem_cons_of_mem p hq)) hcb
    refine ⟨s', ?_, harg, by simp [hcalls, spanCalls], ?_⟩
    · simp only [extractSpans, extractStep, hread p (List.mem_cons_self p spans), ha₁]
      exact hrun
    · rw [hctx]; split_ifs <;> simp

/-- The spans of a prefix tile it: their bytes, in order, are the prefix. -/
theorem flatten_chunkSpans (content : List UInt8) (size : Nat) :
    ((chunkSpans size).map fun p => (content.drop p.1).take p.2).flatten = content.take size := by
  -- From chunk `k` on, the spans tile the rest of the prefix.
  have key : ∀ m k, k + m = numChunksOf size →
      (((List.range' k m).map (chunkSpan size)).map
          fun p => (content.drop p.1).take p.2).flatten =
        (content.drop (min size (k * wimChunkSize))).take (size - min size (k * wimChunkSize)) := by
    intro m
    induction m with
    | zero =>
      intro k hk
      have : size ≤ k * wimChunkSize := by unfold numChunksOf wimChunkSize at *; omega
      simp [Nat.min_eq_left this]
    | succ m ih =>
      intro k hk
      have hlt : k * wimChunkSize < size := by unfold numChunksOf wimChunkSize at *; omega
      have hab : k * wimChunkSize ≤ min size ((k + 1) * wimChunkSize) := by
        unfold wimChunkSize at *; omega
      have hlen : min wimChunkSize (size - k * wimChunkSize) =
          min size ((k + 1) * wimChunkSize) - k * wimChunkSize := by
        unfold wimChunkSize at *; omega
      rw [List.range'_succ, List.map_cons, List.map_cons, List.flatten_cons, ih (k + 1) (by omega),
        chunkSpan, Nat.min_eq_right hlt.le, hlen,
        take_drop_append_take_drop content hab (Nat.min_le_left _ _)]
  simpa [chunkSpans, List.range_eq_range'] using key (numChunksOf size) 0 (by omega)

/-- Extraction over spans `pre ++ post` is extraction over `pre`, then, if it returned, over
`post`. -/
theorem extractSpans_append (read : Nat → Nat → Except WimlibErr (List UInt8))
    (extractChunk : List UInt8 → Nat → Nat → σ → Except WimlibErr σ) (checkHash : Bool)
    (pre post : List (Nat × Nat)) (s : ExtractState σ) :
    extractSpans read extractChunk checkHash (pre ++ post) s =
      match extractSpans read extractChunk checkHash pre s with
      | .error e s => .error e s
      | .ok () s => extractSpans read extractChunk checkHash post s := by
  induction pre generalizing s with
  | nil => rfl
  | cons p pre ih =>
    simp only [List.cons_append, extractSpans]
    split
    · rfl
    · exact ih _

/-! ## `extract_wim_resource` -/

/-- With every read returning the resource's bytes and the callback returning 0 on the calls
it is given, `extract_wim_resource` hands the chunks of the prefix to the callback in order,
leaves its argument as that run of calls does, and fails only on a full read whose digest
differs from the entry's hash. -/
theorem extractWimResource_ok (sha1 : List UInt8 → Sha1Hash) (env : ReadEnv) (fp : WimFile)
    (lte : WimLookupTableEntry) (size : Nat)
    (extractChunk : List UInt8 → Nat → Nat → σ → Except WimlibErr σ) (arg a' : σ)
    (content : List UInt8)
    (hread : ∀ p ∈ chunkSpans size,
      readWimResource env fp lte p.2 p.1 false = .ok ((content.drop p.1).take p.2))
    (hcb : runChunkCalls extractChunk (spanCalls content (chunkSpans size)) arg = .ok a') :
    ∃ s, extractWimResource sha1 env fp lte size extractChunk arg =
        (if size = wimResourceSize lte ∧ sha1 (content.take size) ≠ lte.hash
          then .error .invalidResourceHash s else .ok () s) ∧
      s.arg = a' ∧ s.calls = spanCalls content (chunkSpans size) ∧
      s.calls.map (fun c => (c.offset, c.len)) = chunkSpans size ∧
      (s.calls.map ChunkCall.buf).flatten = content.take size ∧
      s.calls.length = numChunksOf size := by
  obtain ⟨s, hrun, harg, hcalls, hctx⟩ := extractSpans_ok
    (fun len off => readWimResource env fp lte len off false) extractChunk
    (decide (size = wimResourceSize lte)) content (chunkSpans size) ⟨arg, [], []⟩ a' hread hcb
  rw [List.nil_append] at hcalls
  refine ⟨s, ?_, harg, hcalls, by rw [hcalls, map_span_spanCalls],
    by rw [hcalls, map_buf_spanCalls, flatten_chunkSpans],
    by rw [hcalls, spanCalls, List.length_map, length_chunkSpans]⟩
  rw [extractWimResource_eq_spec, extractWimResourceSpec, hrun, extractFinish]
  by_cases hs : size = wimResourceSize lte
  · simp [hs, hctx, flatten_chunkSpans]
  · simp [hs]

/-- A read or a callback that fails ends `extract_wim_resource` at once with its error: the
spans after it are never read and no later callback is made. -/
theorem extractWimResource_error (sha1 : List UInt8 → Sha1Hash) (env : ReadEnv) (fp : WimFile)
    (lte : WimLookupTableEntry) (size : Nat)
    (extractChunk : List UInt8 → Nat → Nat → σ → Except WimlibErr σ) (arg : σ)
    {pre post : List (Nat × Nat)} {p : Nat × Nat} {s₁ s₂ : ExtractState σ} {e : WimlibErr}
    (hspans : chunkSpans size = pre ++ p :: post)
    (hpre : extractSpans (fun len off => readWimResource env fp lte len off false) extractChunk
      (decide (size = wimResourceSize lte)) pre ⟨arg, [], []⟩ = .ok () s₁)
    (hfail : extractStep (fun len off => readWimResource env fp lte len off false) extractChunk
      (decide (size = wimResourceSize lte)) p.2 p.1 s₁ = .error e s₂) :
    extractWimResource sha1 env fp lte size extractChunk arg = .error e s₂ := by
  rw [extractWimResource_eq_spec, extractWimResourceSpec, hspans, extractSpans_append, hpre]
  simp only [extractSpans, hfail, extractFinish]

/-- **`extract_wim_resource` reads the prefix chunk by chunk.** When every
`read_wim_resource` returns the resource's bytes and the callback returns 0 on each call the
run makes (each on the argument the call before left), the callback is called once per
32768-byte chunk of the `size`-byte prefix (`chunkSpans`: offsets `0, 32768, ...` in ascending
order, lengths `min(32768, size - offset)`), the bytes it is given concatenate to the prefix,
its argument ends as that run of calls leaves it, and the result is
`WIMLIB_ERR_INVALID_RESOURCE_HASH` exactly when the whole resource was read and its digest
differs from the entry's hash, 0 otherwise. When a read or a callback fails, its error is
returned at once, in the state right after it: no later span is read and no later callback
made. -/
theorem extractWimResource_chunks (sha1 : List UInt8 → Sha1Hash) (env : ReadEnv) (fp : WimFile)
    (lte : WimLookupTableEntry) (size : Nat)
    (extractChunk : List UInt8 → Nat → Nat → σ → Except WimlibErr σ) (arg : σ)
    (content : List UInt8) :
    ((∀ p ∈ chunkSpans size,
        readWimResource env fp lte p.2 p.1 false = .ok ((content.drop p.1).take p.2)) →
      ∀ a', runChunkCalls extractChunk (spanCalls content (chunkSpans size)) arg = .ok a' →
      ∃ s, extractWimResource sha1 env fp lte size extractChunk arg =
          (if size = wimResourceSize lte ∧ sha1 (content.take size) ≠ lte.hash
            then .error .invalidResourceHash s else .ok () s) ∧
        s.arg = a' ∧ s.calls = spanCalls content (chunkSpans size) ∧
        s.calls.map (fun c => (c.offset, c.len)) = chunkSpans size ∧
        (s.calls.map ChunkCall.buf).flatten = content.take size ∧
        s.calls.length = numChunksOf size) ∧
    (∀ (pre post : List (Nat × Nat)) (p : Nat × Nat) (s₁ s₂ : ExtractState σ) (e : WimlibErr),
      chunkSpans size = pre ++ p :: post →
      extractSpans (fun len off => readWimResource env fp lte len off false) extractChunk
        (decide (size = wimResourceSize lte)) pre ⟨arg, [], []⟩ = .ok () s₁ →
      extractStep (fun len off => readWimResource env fp lte len off false) extractChunk
        (decide (size = wimResourceSize lte)) p.2 p.1 s₁ = .error e s₂ →
      extractWimResource sha1 env fp lte size extractChunk arg = .error e s₂) :=
  ⟨fun hread a' hcb => extractWimResource_ok sha1 env fp lte size extractChunk arg a' content hread hcb,
    fun _ _ _ _ _ _ hspans hpre hfail =>
      extractWimResource_error sha1 env fp lte size extractChunk arg hspans hpre hfail⟩

/-- A two-byte resource in an attached buffer, extracted whole into an output of two bytes: the
callback appends each chunk and fails with `WIMLIB_ERR_WRITE` once the output would overflow,
so it returns 0 on this run's one call and not on every input. -/
theorem extractWimResource_chunks_attached :
    let output := fun (buf : List UInt8) (_ _ : Nat) (out : List UInt8) =>
      if out.length + buf.length ≤ 2 then Except.ok (out ++ buf) else .error .write
    output [1, 2, 3] 3 0 [] = .error .write ∧
    ∃ s, extractWimResource (fun _ => 0) ⟨⟨fun _ _ => none, fun _ _ => none⟩, .none,
          fun _ => none, fun _ => []⟩ ⟨[], 0⟩
          ⟨0, ⟨2, {}, 0, 2⟩, .inAttachedBuffer [5, 6], 1⟩ 2 output [] =
        (if 2 = 2 ∧ (0 : Sha1Hash) ≠ 0 then .error .invalidResourceHash s else .ok () s) ∧
      s.arg = [5, 6] ∧ s.calls = spanCalls [5, 6] (chunkSpans 2) ∧
      s.calls.map (fun c => (c.offset, c.len)) = chunkSpans 2 ∧
      (s.calls.map ChunkCall.buf).flatten = [5, 6] ∧ s.calls.length = numChunksOf 2 := by
  intro output
  exact ⟨rfl, (extractWimResource_chunks (fun _ => 0) ⟨⟨fun _ _ => none, fun _ _ => none⟩, .none,
      fun _ => none, fun _ => []⟩ ⟨[], 0⟩ ⟨0, ⟨2, {}, 0, 2⟩, .inAttachedBuffer [5, 6], 1⟩ 2
      output [] [5, 6]).1
    (fun p hp => by obtain rfl : p = (0, 2) := List.mem_singleton.mp hp; rfl) [5, 6] rfl⟩

/-! ## Extracting a compressed resource in a WIM -/

/-- Every span of a prefix of the resource is a read inside it. -/
theorem readInside_of_mem_chunkSpans {U size : Nat} (hsize : size ≤ U) (hU : U < 2 ^ 62)
    {p : Nat × Nat} (hp : p ∈ chunkSpans size) : ReadInside U p.2 p.1 :=
  ⟨(mem_chunkSpans hp).1, by have := (mem_chunkSpans hp).2; omega, hU⟩

/-- **Extracting a well-formed compressed resource.** For an entry of a compressed resource
in a WIM whose codec decodes its payloads, `extract_wim_resource` of any prefix, with a
callback that returns 0 on each call the run makes, hands the callback the prefix's chunks in
order, their bytes being the resource's, leaves its argument as that run of calls does, and
returns 0, unless the whole resource was extracted and its digest differs from the entry's
hash. -/
theorem extractWimResource_inside (sha1 : List UInt8 → Sha1Hash) (env : ReadEnv) (fp : WimFile)
    (lte : WimLookupTableEntry) {r : CompressedResource (env.codecs.select env.wimCtype)}
    (he : InWimCompressed lte r fp) (hctype : env.wimCtype ≠ .none) {size : Nat}
    (hsize : size ≤ r.data.length)
    (extractChunk : List UInt8 → Nat → Nat → σ → Except WimlibErr σ) (arg a' : σ)
    (hcb : runChunkCalls extractChunk (spanCalls r.data (chunkSpans size)) arg = .ok a') :
    ∃ s, extractWimResource sha1 env fp lte size extractChunk arg =
        (if size = r.data.length ∧ sha1 (r.data.take size) ≠ lte.hash
          then .error .invalidResourceHash s else .ok () s) ∧
      s.arg = a' ∧ s.calls.map (fun c => (c.offset, c.len)) = chunkSpans size ∧
      (s.calls.map ChunkCall.buf).flatten = r.data.take size := by
  obtain ⟨s, hrun, harg, -, hcalls, hbufs, -⟩ := extractWimResource_ok sha1 env fp lte size
    extractChunk arg a' r.data (fun p hp => he.readWimResource_inside_eq hctype
      (readInside_of_mem_chunkSpans hsize he.stored.length_data_lt hp)) hcb
  rw [wimResourceSize, he.originalSize] at hrun
  exact ⟨s, hrun, harg, hcalls, hbufs⟩

/-- A one-byte compressed-resource entry whose chunk is stored raw, extracted whole into an
output of one byte that a second byte would overflow. -/
theorem extractWimResource_inside_oneByte :
    ∃ s, extractWimResource (fun _ => 0)
          ⟨⟨fun _ _ => none, fun _ _ => none⟩, .lzx, fun _ => none, fun _ => []⟩ ⟨[7], 0⟩
          ⟨0, ⟨1, ⟨0x04⟩, 0, 1⟩, .inWim, 1⟩ 1
          (fun buf _ _ out => if out.length + buf.length ≤ 1 then .ok (out ++ buf) else .error .write)
          [] =
        (if 1 = 1 ∧ (0 : Sha1Hash) ≠ 0 then .error .invalidResourceHash s else .ok () s) ∧
      s.arg = [7] ∧ s.calls.map (fun c => (c.offset, c.len)) = chunkSpans 1 ∧
      (s.calls.map ChunkCall.buf).flatten = [7] :=
  @extractWimResource_inside (List UInt8) (fun _ => 0)
    ⟨⟨fun _ _ => none, fun _ _ => none⟩, .lzx, fun _ => none, fun _ => []⟩ ⟨[7], 0⟩
    ⟨0, ⟨1, ⟨0x04⟩, 0, 1⟩, .inWim, 1⟩
    ⟨[7], [[7]], rfl, fun i h => by
      cases i with
      | zero => exact .inl rfl
      | succ n => simp at h⟩
    ⟨rfl, rfl, rfl, rfl, ⟨⟨[], rfl⟩, by decide, by decide, by decide⟩⟩ (by decide) 1 (by decide)
    (fun buf _ _ out => if out.length + buf.length ≤ 1 then .ok (out ++ buf) else .error .write) [] [7] rfl

end WimLean
