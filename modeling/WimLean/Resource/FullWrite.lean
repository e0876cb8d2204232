import WimLean.Basic

/-!
# WimLean — writing a chunk to a descriptor (`full_write`, `extract_wim_chunk_to_fd`)

`full_write(fd, buf, n)` retries `write()` until `total` reaches `n`, on an interrupt and
after a short write, and `extract_wim_chunk_to_fd` reports `WIMLIB_ERR_WRITE` when it returns
less than `len`. The results `write()` gives are a list (`WriteResult`); the model records each
call it makes (`WriteCall`): where `p` points, the count asked for and the bytes accepted.

`p` advances by what each call accepted, so the descriptor gets the bytes from `buf` on in
order with no gap or repeat (`fullWrite_positions`). Every call asks for `n` bytes however many
are already written (`fullWrite_calls_ask_n`): after a short write of `k < n` bytes, the next
call reads up to `buf + k + n`. Once `total` passes `n` the loop no longer stops on success
(`fullWrite_past_n_loops`), and an error then returns more than `n`, which
`extract_wim_chunk_to_fd` takes for success (`fullWrite_shortWrite_overruns`).
-/

namespace WimLean

/-- What one `write(fd, p, count)` returns: `-1` with `errno == EINTR`, `-1` with another
`errno`, or the number of bytes the descriptor accepted. -/
inductive WriteResult where
  | interrupted
  | failed
  | wrote (count : Nat)
  deriving DecidableEq, Repr

/-- One call `write(fd, p, count)`: `p - buf`, the count asked for, and how many of the bytes
at `p` the descriptor accepted. -/
structure WriteCall where
  pos : Nat
  count : Nat
  accepted : Nat
  deriving DecidableEq, Repr

/-- The offsets from `buf` of the bytes the descriptor accepted in a call. -/
def WriteCall.positions (c : WriteCall) : List Nat := List.range' c.pos c.accepted

/-- `full_write(fd, buf, n)` once `total` bytes are written (`p == buf + total`), given the
results of the calls to `write()` to come: the calls it makes and the count it returns,
`none` when it is still looping as the results run out. -/
def fullWrite (n total : Nat) : List WriteResult → List WriteCall × Option Nat
  | [] => ([], if total = n then some total else none)
  | r :: rs =>
    if total = n then ([], some total)
    else match r with
      | .interrupted => Prod.map (List.cons ⟨total, n, 0⟩) id (fullWrite n total rs)
      | .failed => ([⟨total, n, 0⟩], some total)
      | .wrote k => Prod.map (List.cons ⟨total, n, k⟩) id (fullWrite n (total + k) rs)

/-- `extract_wim_chunk_to_fd(buf, len, offset, &fd)`: the calls `full_write` makes, and its
return value (`none` while `full_write` loops). -/
def extractWimChunkToFd (len : Nat) (results : List WriteResult) :
    List WriteCall × Option (Except WimlibErr Unit) :=
  Prod.map id (Option.map fun ret => if ret < len then .error .write else .ok ())
    (fullWrite len 0 results)

section Loop

variable {n total : Nat}

@[simp] theorem fullWrite_done (h : total = n) (rs : List WriteResult) :
    fullWrite n total rs = ([], some total) := by
  cases rs <;> simp [fullWrite, h]

@[simp] theorem fullWrite_interrupted (h : total ≠ n) (rs : List WriteResult) :
    fullWrite n total (.interrupted :: rs) =
      Prod.map (List.cons ⟨total, n, 0⟩) id (fullWrite n total rs) := by
  simp [fullWrite, h]

@[simp] theorem fullWrite_failed (h : total ≠ n) (rs : List WriteResult) :
    fullWrite n total (.failed :: rs) = ([⟨total, n, 0⟩], some total) := by
  simp [fullWrite, h]

@[simp] theorem fullWrite_wrote (h : total ≠ n) (k : Nat) (rs : List WriteResult) :
    fullWrite n total (.wrote k :: rs) =
      Prod.map (List.cons ⟨total, n, k⟩) id (fullWrite n (total + k) rs) := by
  simp [fullWrite, h]

/-- **Every call asks for `n` bytes**, whatever `total` is. -/
theorem fullWrite_calls_ask_n (rs : List WriteResult) :
    ∀ c ∈ (fullWrite n total rs).1, c.count = n := by
  induction rs generalizing total with
  | nil => simp [fullWrite]
  | cons r rs ih =>
    by_cases h : total = n
    · simp [h]
    · cases r with
      | interrupted => simpa [h] using ih
      | failed => simp [h]
      | wrote k => simpa [h] using ih

/-- **The descriptor gets the bytes from `buf + total` on, in order.** The bytes accepted are
those at offsets `total`, `total + 1`, ..., as many as the calls accepted in all, and a
returned count is `total` plus that number. -/
theorem fullWrite_positions (rs : List WriteResult) :
    (fullWrite n total rs).1.flatMap WriteCall.positions =
      List.range' total ((fullWrite n total rs).1.map WriteCall.accepted).sum ∧
    ∀ ret ∈ (fullWrite n total rs).2,
      ret = total + ((fullWrite n total rs).1.map WriteCall.accepted).sum := by
  induction rs generalizing total with
  | nil => by_cases h : total = n <;> simp [fullWrite, h]
  | cons r rs ih =>
    by_cases h : total = n
    · simp [h]
    · cases r with
      | interrupted => simpa [h, WriteCall.positions] using ih
      | failed => simp [h, WriteCall.positions]
      | wrote k =>
        obtain ⟨hpos, hret⟩ := @ih (total + k)
        simp only [fullWrite_wrote h, Prod.map, id, List.flatMap_cons, List.map_cons,
          List.sum_cons, hpos, WriteCall.positions, List.range'_append_1]
        refine ⟨by rw [Nat.add_comm], fun ret hr => ?_⟩
        rw [hret ret hr]; omega

/-- **Past `n`, `full_write` loops until `write()` fails.** Once `total` exceeds `n` the loop
never stops on success, however many results there are. -/
theorem fullWrite_past_n_loops (hn : n < total) (rs : List WriteResult)
    (hrs : ∀ r ∈ rs, r ≠ .failed) : (fullWrite n total rs).2 = none := by
  induction rs generalizing total with
  | nil => simp [fullWrite]; omega
  | cons r rs ih =>
    have hne : total ≠ n := by omega
    have hrest : ∀ r ∈ rs, r ≠ .failed := fun r' hr' => hrs r' (List.mem_cons_of_mem _ hr')
    cases r with
    | interrupted => simpa [hne] using ih hn hrest
    | failed => exact absurd rfl (hrs _ (List.mem_cons_self _ _))
    | wrote k => simpa [hne] using @ih (total + k) (by omega) hrest

end Loop

/-- **A short write makes `full_write` overrun `buf`.** After a first `write()` that accepts
`k` of the `n` bytes, `0 < k < n`, the second call asks for `n` bytes at `buf + k`. When it
accepts more than `n - k` of them, the descriptor gets the byte at `buf + n`, outside the
buffer, and `total` passes `n`: the loop then goes on for as long as `write()` succeeds, and an
error makes it return more than `n`, which `extract_wim_chunk_to_fd` reports as success. -/
theorem fullWrite_shortWrite_overruns {n k m : Nat} (hk : 0 < k) (hkn : k < n) (hm : n - k < m)
    (rs : List WriteResult) :
    (fullWrite n 0 (.wrote k :: .wrote m :: rs)).1.take 2 = [⟨0, n, k⟩, ⟨k, n, m⟩] ∧
    n ∈ (fullWrite n 0 (.wrote k :: .wrote m :: rs)).1.flatMap WriteCall.positions ∧
    ((∀ r ∈ rs, r ≠ .failed) → (fullWrite n 0 (.wrote k :: .wrote m :: rs)).2 = none) ∧
    ∀ ret ∈ (fullWrite n 0 (.wrote k :: .wrote m :: rs)).2,
      n < ret ∧ (extractWimChunkToFd n (.wrote k :: .wrote m :: rs)).2 = some (.ok ()) := by
  have hrun : fullWrite n 0 (.wrote k :: .wrote m :: rs) =
      Prod.map (fun calls => ⟨0, n, k⟩ :: ⟨k, n, m⟩ :: calls) id (fullWrite n (k + m) rs) := by
    rw [fullWrite_wrote (by omega), Nat.zero_add, fullWrite_wrote (by omega)]; rfl
  have hret := (@fullWrite_positions n (k + m) rs).2
  refine ⟨by rw [hrun]; rfl, ?_, fun hrs => ?_, fun ret hr => ?_⟩
  · rw [hrun]
    simp only [Prod.map, List.flatMap_cons, WriteCall.positions, List.mem_append, List.mem_range'_1]
    omega
  · rw [hrun]; exact fullWrite_past_n_loops (by omega) rs hrs
  · rw [hrun] at hr
    have hgt : n < ret := by have := hret ret hr; omega
    refine ⟨hgt, ?_⟩
    simp only [extractWimChunkToFd, Prod.map, id, hrun] at hr ⊢
    rw [Option.mem_def.mp hr]
    simp only [Option.map_some', if_neg (Nat.not_lt.mpr hgt.le)]

/-- Two bytes to write: `write()` accepts one, then both bytes at `buf + 1`, the second of
which lies past the buffer, then fails. `full_write` returns 3 and
`extract_wim_chunk_to_fd` returns 0. -/
theorem fullWrite_shortWrite_overruns_twoBytes :
    (0 < 1 ∧ 1 < 2 ∧ 2 - 1 < 2) ∧
    (fullWrite 2 0 [.wrote 1, .wrote 2, .failed]).1.take 2 = [⟨0, 2, 1⟩, ⟨1, 2, 2⟩] ∧
    2 ∈ (fullWrite 2 0 [.wrote 1, .wrote 2, .failed]).1.flatMap WriteCall.positions ∧
    (fullWrite 2 0 [.wrote 1, .wrote 2, .failed]).2 = some 3 ∧
    (extractWimChunkToFd 2 [.wrote 1, .wrote 2, .failed]).2 = some (.ok ()) :=
  have h := @fullWrite_shortWrite_overruns 2 1 2 (by decide) (by decide) (by decide) [.failed]
  ⟨by decide, h.1, h.2.1, rfl, (h.2.2.2 3 rfl).2⟩

end WimLean
