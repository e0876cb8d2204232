import WimLean.Basic

/-!
# WimLean — the table of spare `FILE*`s (`wim_get_fp`, `wim_release_fp`)

A WIM mounted through FUSE is read by several threads at once. A thread reading a resource
with `WIMLIB_RESOURCE_FLAG_MULTITHREADED` takes a `FILE*` from `w->fp_tab` (or opens a new
one when every slot is `NULL`), reads with it, and puts it back in the first `NULL` slot,
growing the table by four slots when there is none. Both functions run under
`fp_tab_mutex`, so each is one atomic step here.

The system is the table, the number of `FILE*`s opened so far (the `n`-th one opened is
handle `n`), and, for each reader, where it is in its call of `read_wim_resource`
(`ReaderPc`). `fpStep` is the transition of one event and `fpRun` a run of events.

Every handle ever opened should be in exactly one place: a slot of the table or the hands of
one reader (`places`). `fpStep_cases` says once what a step can do; `FpInv.move` says that a
step which only moves a handle between the table and a reader keeps the invariant `FpInv`;
`FpInv.step` and `FpInv.run` carry it over every run whose `REALLOC`s succeed, and with it the
bound of the handles opened by the peak of readers inside (`fpRun_handles_placed`). Whatever
fails, a handle is opened only when every slot is `NULL` and the table grows only when none
is (`fpStep_opens_when_empty_grows_when_full`). When `REALLOC` fails, `wim_release_fp`
returns `WIMLIB_ERR_NOMEM` and the handle it was given is in no place: neither stored, nor
closed, nor returned (`fpStep_reallocFailure_leaks`).
-/

namespace WimLean

/-! ## The table -/

/-- The first loop of `wim_get_fp`: take the `FILE*` of the first non-`NULL` slot and clear
the slot. -/
def takeFirstFp : List (Option Nat) → Option (Nat × List (Option Nat))
  | [] => none
  | some fp :: rest => some (fp, none :: rest)
  | none :: rest => (takeFirstFp rest).map fun r => (r.1, none :: r.2)

/-- The loop of `wim_release_fp`: store `fp` in the first `NULL` slot. -/
def putFirstNull (fp : Nat) : List (Option Nat) → Option (List (Option Nat))
  | [] => none
  | none :: rest => some (some fp :: rest)
  | x :: rest => (putFirstNull fp rest).map (x :: ·)

/-- `wim_get_fp(w)`: a `FILE*` from the table, or a new one when every slot is `NULL`
(`tfopen` succeeding when `openOk`). Returns the handle (`none` for `NULL`), the table and
the number of handles opened. -/
def wimGetFp (fpTab : List (Option Nat)) (numOpened : Nat) (openOk : Bool) :
    Option Nat × List (Option Nat) × Nat :=
  match takeFirstFp fpTab with
  | some (fp, tab) => (some fp, tab, numOpened)
  | none => if openOk then (some numOpened, fpTab, numOpened + 1) else (none, fpTab, numOpened)

/-- `wim_release_fp(w, fp)`: its return value and the table after it. When no slot is
`NULL` the table grows by four slots, the first holding `fp`, unless `REALLOC` fails
(`reallocOk = false`). -/
def wimReleaseFp (fpTab : List (Option Nat)) (fp : Nat) (reallocOk : Bool) :
    Option WimlibErr × List (Option Nat) :=
  match putFirstNull fp fpTab with
  | some tab => (none, tab)
  | none =>
    if reallocOk then (none, fpTab ++ [some fp, none, none, none])
    else (some .nomem, fpTab)

/-! ## Readers -/

/-- Where a reader is in its call of `read_wim_resource` with
`WIMLIB_RESOURCE_FLAG_MULTITHREADED` on a resource in the WIM. -/
inductive ReaderPc where
  /-- Not yet called `wim_get_fp`. -/
  | start
  /-- Reading with the `FILE*` `wim_get_fp` returned. -/
  | reading (fp : Nat)
  /-- The read returned `ret`; `wim_release_fp` comes next. -/
  | releasing (fp : Nat) (ret : Option WimlibErr)
  /-- Returned `ret` (`none` for 0). -/
  | finished (ret : Option WimlibErr)
  deriving DecidableEq, Repr

/-- The `FILE*` a reader holds. -/
def ReaderPc.holding : ReaderPc → Option Nat
  | .reading fp => some fp
  | .releasing fp _ => some fp
  | _ => none

/-- The reader is inside `read_wim_resource`, between its two table calls. -/
def ReaderPc.inside (pc : ReaderPc) : Bool := pc.holding.isSome

/-- The table, the number of `FILE*`s opened so far, and the readers. -/
structure FpState where
  fpTab : List (Option Nat)
  numOpened : Nat
  readers : List ReaderPc
  deriving DecidableEq, Repr

/-- An atomic step: one of the two table calls, or a read, of reader `i`. -/
inductive FpEvent where
  /-- `wim_get_fp`, with `tfopen` succeeding when `openOk`. -/
  | get (i : Nat) (openOk : Bool)
  /-- The read between the two calls, returning `ret`. -/
  | read (i : Nat) (ret : Option WimlibErr)
  /-- `wim_release_fp`, with `REALLOC` succeeding when `reallocOk`. -/
  | release (i : Nat) (reallocOk : Bool)
  deriving DecidableEq, Repr

/-- One event, when reader `i` can take it. `read_wim_resource` returns
`WIMLIB_ERR_OPEN` when `wim_get_fp` gives `NULL`, and after the release the read's error,
or else the release's. -/
def fpStep (s : FpState) : FpEvent → Option FpState
  | .get i openOk =>
    match s.readers[i]? with
    | some .start =>
      match wimGetFp s.fpTab s.numOpened openOk with
      | (some fp, tab, n) => some ⟨tab, n, s.readers.set i (.reading fp)⟩
      | (none, tab, n) => some ⟨tab, n, s.readers.set i (.finished (some .open))⟩
    | _ => none
  | .read i ret =>
    match s.readers[i]? with
    | some (.reading fp) => some { s with readers := s.readers.set i (.releasing fp ret) }
    | _ => none
  | .release i reallocOk =>
    match s.readers[i]? with
    | some (.releasing fp ret) =>
      match wimReleaseFp s.fpTab fp reallocOk with
      | (ret2, tab) =>
        some ⟨tab, s.numOpened, s.readers.set i (.finished (if ret.isSome then ret else ret2))⟩
    | _ => none

/-- Events in order, stopping at one that cannot be taken. -/
def fpRun : FpState → List FpEvent → Option FpState
  | s, [] => some s
  | s, e :: es => (fpStep s e).bind (fpRun · es)

/-- The places a handle is in: the slots holding it and the readers holding it. -/
def places (s : FpState) (h : Nat) : Nat :=
  s.fpTab.count (some h) + s.readers.countP (·.holding = some h)

/-- The readers inside `read_wim_resource`. -/
def insideCount (s : FpState) : Nat := s.readers.countP (·.inside)

/-- The largest number of readers inside `read_wim_resource` at once along a run. -/
def fpPeak : FpState → List FpEvent → Nat
  | s, [] => insideCount s
  | s, e :: es => max (insideCount s) ((fpStep s e).elim 0 (fpPeak · es))

/-- An event whose `REALLOC`, if it calls one, succeeds. -/
def FpEvent.reallocSucceeds : FpEvent → Bool
  | .release _ false => false
  | _ => true

/-- A table of `slots` `NULL` slots, no handle opened, `readers` readers yet to start. -/
def FpState.initial (slots readers : Nat) : FpState :=
  ⟨List.replicate slots none, 0, List.replicate readers .start⟩

/-! ## What one step can do -/

/-- **Inversion.** Every step is one of: a `wim_get_fp` that takes a handle from the table,
one that opens a handle (every slot being `NULL`), one whose `tfopen` fails; a read; a
`wim_release_fp` that stores the handle in a `NULL` slot, one that grows the table (no slot
being `NULL`), or one whose `REALLOC` fails. -/
theorem fpStep_cases {s s' : FpState} {e : FpEvent} (h : fpStep s e = some s') :
    (∃ i fp tab, s.readers[i]? = some .start ∧ takeFirstFp s.fpTab = some (fp, tab) ∧
      s' = ⟨tab, s.numOpened, s.readers.set i (.reading fp)⟩) ∨
    (∃ i, e = .get i true ∧ s.readers[i]? = some .start ∧ takeFirstFp s.fpTab = none ∧
      s' = ⟨s.fpTab, s.numOpened + 1, s.readers.set i (.reading s.numOpened)⟩) ∨
    (∃ i, s.readers[i]? = some .start ∧ takeFirstFp s.fpTab = none ∧
      s' = ⟨s.fpTab, s.numOpened, s.readers.set i (.finished (some .open))⟩) ∨
    (∃ i fp ret, s.readers[i]? = some (.reading fp) ∧
      s' = ⟨s.fpTab, s.numOpened, s.readers.set i (.releasing fp ret)⟩) ∨
    (∃ i fp ret ret' tab, s.readers[i]? = some (.releasing fp ret) ∧
      putFirstNull fp s.fpTab = some tab ∧
      s' = ⟨tab, s.numOpened, s.readers.set i (.finished ret')⟩) ∨
    (∃ i fp ret ret', e = .release i true ∧ s.readers[i]? = some (.releasing fp ret) ∧
      putFirstNull fp s.fpTab = none ∧
      s' = ⟨s.fpTab ++ [some fp, none, none, none], s.numOpened,
        s.readers.set i (.finished ret')⟩) ∨
    (∃ i fp ret ret', e = .release i false ∧ s.readers[i]? = some (.releasing fp ret) ∧
      putFirstNull fp s.fpTab = none ∧
      s' = ⟨s.fpTab, s.numOpened, s.readers.set i (.finished ret')⟩) := by
  cases e with
  | get i openOk =>
    simp only [fpStep] at h
    split at h <;> try contradiction
    next hpc =>
    cases ht : takeFirstFp s.fpTab with
    | some r =>
      simp only [wimGetFp, ht, Option.some.injEq] at h
      exact .inl ⟨i, r.1, r.2, hpc, rfl, h.symm⟩
    | none =>
      cases openOk <;> simp only [wimGetFp, ht, if_true, Bool.false_eq_true, if_false,
        Option.some.injEq] at h
      · exact .inr (.inr (.inl ⟨i, hpc, rfl, h.symm⟩))
      · exact .inr (.inl ⟨i, rfl, hpc, rfl, h.symm⟩)
  | read i ret =>
    simp only [fpStep] at h
    split at h <;> try contradiction
    next fp hpc =>
    exact .inr (.inr (.inr (.inl ⟨i, fp, ret, hpc, (Option.some.inj h).symm⟩)))
  | release i reallocOk =>
    simp only [fpStep] at h
    split at h <;> try contradiction
    next fp ret hpc =>
    cases hp : putFirstNull fp s.fpTab with
    | some tab =>
      simp only [wimReleaseFp, hp, Option.some.injEq] at h
      exact .inr (.inr (.inr (.inr (.inl ⟨i, fp, ret, _, tab, hpc, hp, h.symm⟩))))
    | none =>
      cases reallocOk <;> simp only [wimReleaseFp, hp, if_true, Bool.false_eq_true, if_false,
        Option.some.injEq] at h
      · exact .inr (.inr (.inr (.inr (.inr (.inr ⟨i, fp, ret, _, rfl, hpc, hp, h.symm⟩)))))
      · exact .inr (.inr (.inr (.inr (.inr (.inl ⟨i, fp, ret, _, rfl, hpc, hp, h.symm⟩)))))

/-! ## The two loops -/

theorem takeFirstFp_spec : ∀ {tab tab' : List (Option Nat)} {fp : Nat},
    takeFirstFp tab = some (fp, tab') →
      tab'.length = tab.length ∧
      ∀ x, tab'.count x + (if some fp = x then 1 else 0) = tab.count x + (if none = x then 1 else 0)
  | [], _, _, hq => by simp [takeFirstFp] at hq
  | some x :: rest, _, _, hq => by
    simp only [takeFirstFp, Option.some.injEq, Prod.mk.injEq] at hq
    obtain ⟨rfl, rfl⟩ := hq
    simp only [List.count_cons, List.length_cons, beq_iff_eq, true_and]
    omega
  | none :: rest, _, _, hq => by
    simp only [takeFirstFp, Option.map_eq_some', Prod.exists, Prod.mk.injEq] at hq
    obtain ⟨_, tab', hrest, rfl, rfl⟩ := hq
    obtain ⟨hlen, hcount⟩ := takeFirstFp_spec hrest
    refine ⟨by simp [hlen], fun x => ?_⟩
    have := hcount x
    simp only [List.count_cons, beq_iff_eq]
    omega

theorem takeFirstFp_eq_none : ∀ {tab : List (Option Nat)},
    takeFirstFp tab = none → ∀ x ∈ tab, x = none
  | [], _ => by simp
  | some _ :: _, hq => by simp [takeFirstFp] at hq
  | none :: rest, hq => by
    simp only [takeFirstFp, Option.map_eq_none'] at hq
    simpa using takeFirstFp_eq_none hq

theorem putFirstNull_spec (fp : Nat) : ∀ {tab tab' : List (Option Nat)},
    putFirstNull fp tab = some tab' →
      tab'.length = tab.length ∧
      ∀ x, tab'.count x + (if none = x then 1 else 0) = tab.count x + (if some fp = x then 1 else 0)
  | [], _, hq => by simp [putFirstNull] at hq
  | none :: rest, _, hq => by
    simp only [putFirstNull, Option.some.injEq] at hq
    subst hq
    simp only [List.count_cons, List.length_cons, beq_iff_eq, true_and]
    omega
  | some x :: rest, _, hq => by
    simp only [putFirstNull, Option.map_eq_some'] at hq
    obtain ⟨tab', hrest, rfl⟩ := hq
    obtain ⟨hlen, hcount⟩ := putFirstNull_spec fp hrest
    refine ⟨by simp [hlen], fun x => ?_⟩
    have := hcount x
    simp only [List.count_cons, beq_iff_eq]
    omega

theorem putFirstNull_eq_none (fp : Nat) : ∀ {tab : List (Option Nat)},
    putFirstNull fp tab = none → ∀ x ∈ tab, x ≠ none
  | [], _ => by simp
  | none :: _, hq => by simp [putFirstNull] at hq
  | some _ :: rest, hq => by
    simp only [putFirstNull, Option.map_eq_none'] at hq
    simpa using putFirstNull_eq_none fp hq

/-! ## One step -/

theorem countP_set_of_getElem_eq_some {α : Type} (p : α → Bool) {l : List α} {i : Nat} {a : α}
    (h : l[i]? = some a) (b : α) :
    (l.set i b).countP p + (if p a then 1 else 0) = l.countP p + (if p b then 1 else 0) := by
  obtain ⟨hi, rfl⟩ := List.getElem?_eq_some_iff.mp h
  have := List.boole_getElem_le_countP p l i hi
  rw [List.countP_set p l i b hi]
  omega

theorem countP_isSome_add_count_none : ∀ l : List (Option Nat),
    l.countP (·.isSome) + l.count none = l.length
  | [] => rfl
  | x :: l => by
    have := countP_isSome_add_count_none l
    cases x <;> simp [List.count_cons] <;> omega

/-- What every reachable state keeps when `REALLOC` does not fail: each handle opened is in
exactly one place, and the handles opened are those stored plus those held. -/
structure FpInv (s : FpState) : Prop where
  places_eq : ∀ h, places s h = if h < s.numOpened then 1 else 0
  stored_add_inside : s.fpTab.countP (·.isSome) + insideCount s = s.numOpened

theorem FpInv.initial (slots readers : Nat) : FpInv (FpState.initial slots readers) where
  places_eq h := by simp [places, FpState.initial, List.count_replicate, List.countP_replicate,
    ReaderPc.holding]
  stored_add_inside := by simp [insideCount, FpState.initial, List.countP_replicate,
    ReaderPc.inside, ReaderPc.holding]

theorem countP_holding_set {rs : List ReaderPc} {i : Nat} {pc : ReaderPc} (hpc : rs[i]? = some pc)
    (pc' : ReaderPc) (h : Nat) :
    (rs.set i pc').countP (·.holding = some h) + (if pc.holding = some h then 1 else 0) =
      rs.countP (·.holding = some h) + (if pc'.holding = some h then 1 else 0) := by
  simpa using countP_set_of_getElem_eq_some (fun r : ReaderPc => decide (r.holding = some h)) hpc pc'

/-- Reader `i` goes from `pc` to `pc'` and the table becomes `tab`, opening no handle: the
invariant is kept when every handle is in as many places as before, and the slots and
readers holding a handle are as many as before. -/
theorem FpInv.move {s : FpState} {i : Nat} {pc pc' : ReaderPc} {tab : List (Option Nat)}
    (hinv : FpInv s) (hpc : s.readers[i]? = some pc)
    (hcount : ∀ h, tab.count (some h) + (if pc'.holding = some h then 1 else 0) =
      s.fpTab.count (some h) + (if pc.holding = some h then 1 else 0))
    (hstored : tab.countP (·.isSome) + (if pc'.inside then 1 else 0) =
      s.fpTab.countP (·.isSome) + (if pc.inside then 1 else 0)) :
    FpInv ⟨tab, s.numOpened, s.readers.set i pc'⟩ where
  places_eq h := by
    have := hinv.places_eq h
    have := hcount h
    have := countP_holding_set hpc pc' h
    simp only [places] at *
    omega
  stored_add_inside := by
    have := hinv.stored_add_inside
    have := countP_set_of_getElem_eq_some (·.inside) hpc pc'
    simp only [insideCount] at *
    omega

theorem countP_isSome_of_takeFirstFp {tab tab' : List (Option Nat)} {fp : Nat}
    (ht : takeFirstFp tab = some (fp, tab')) :
    tab'.countP (·.isSome) + 1 = tab.countP (·.isSome) := by
  obtain ⟨hlen, hcnt⟩ := takeFirstFp_spec ht
  have := hcnt none
  have := countP_isSome_add_count_none tab
  have := countP_isSome_add_count_none tab'
  simp only [reduceCtorEq, if_false, if_true] at *
  omega

theorem countP_isSome_of_putFirstNull {tab tab' : List (Option Nat)} {fp : Nat}
    (ht : putFirstNull fp tab = some tab') :
    tab'.countP (·.isSome) = tab.countP (·.isSome) + 1 := by
  obtain ⟨hlen, hcnt⟩ := putFirstNull_spec fp ht
  have := hcnt none
  have := countP_isSome_add_count_none tab
  have := countP_isSome_add_count_none tab'
  simp only [reduceCtorEq, if_false, if_true] at *
  omega

/-- **The step lemma.** Every event but a failing `REALLOC` keeps `FpInv`. -/
theorem FpInv.step {s s' : FpState} {e : FpEvent} (hinv : FpInv s) (he : e.reallocSucceeds)
    (h : fpStep s e = some s') : FpInv s' := by
  rcases fpStep_cases h with
    ⟨i, fp, tab, hpc, ht, rfl⟩ | ⟨i, rfl, hpc, ht, rfl⟩ | ⟨i, hpc, ht, rfl⟩ | ⟨i, fp, ret, hpc, rfl⟩ |
    ⟨i, fp, ret, ret', tab, hpc, ht, rfl⟩ | ⟨i, fp, ret, ret', rfl, hpc, ht, rfl⟩ |
    ⟨i, fp, ret, ret', rfl, -⟩
  · -- `wim_get_fp` takes `fp` from the table
    refine hinv.move hpc (fun h => ?_) ?_
    · simpa [ReaderPc.holding, add_comm] using (takeFirstFp_spec ht).2 (some h)
    · simpa [ReaderPc.inside, ReaderPc.holding] using countP_isSome_of_takeFirstFp ht
  · -- `wim_get_fp` opens handle `numOpened`, every slot being `NULL`
    have hnone := takeFirstFp_eq_none ht
    have hzero (h : Nat) : s.fpTab.count (some h) = 0 :=
      List.count_eq_zero.mpr fun hx => by simpa using hnone _ hx
    have hstored : s.fpTab.countP (·.isSome) = 0 :=
      List.countP_eq_zero.mpr fun x hx => by simp [hnone x hx]
    constructor
    · intro h
      have h1 := hinv.places_eq h
      have h2 := countP_holding_set hpc (.reading s.numOpened) h
      simp only [places, hzero, ReaderPc.holding, reduceCtorEq, if_false, Option.some.injEq] at *
      split_ifs at * <;> omega
    · have h1 := hinv.stored_add_inside
      have h2 := countP_set_of_getElem_eq_some (·.inside) hpc (.reading s.numOpened)
      simp only [insideCount, hstored, ReaderPc.inside, ReaderPc.holding, Option.isSome] at *
      simp only [if_false, if_true, Bool.false_eq_true] at h2
      omega
  · -- `tfopen` fails
    exact hinv.move hpc (fun h => by simp [ReaderPc.holding]) (by simp [ReaderPc.inside, ReaderPc.holding])
  · -- the read
    exact hinv.move hpc (fun h => by simp [ReaderPc.holding]) (by simp [ReaderPc.inside, ReaderPc.holding])
  · -- `wim_release_fp` stores `fp` in a `NULL` slot
    refine hinv.move hpc (fun h => ?_) ?_
    · simpa [ReaderPc.holding] using (putFirstNull_spec fp ht).2 (some h)
    · simpa [ReaderPc.inside, ReaderPc.holding] using countP_isSome_of_putFirstNull ht
  · -- `wim_release_fp` grows the table by four slots
    exact hinv.move hpc (fun h => by simp [ReaderPc.holding, List.count_cons])
      (by simp [ReaderPc.inside, ReaderPc.holding])
  · -- a failing `REALLOC` is excluded
    simp [FpEvent.reallocSucceeds] at he

/-- A step opens a handle only when no slot holds one, so that the handles opened are then
those the readers inside hold. -/
theorem FpInv.numOpened_step {s s' : FpState} {e : FpEvent} (hinv : FpInv s)
    (h : fpStep s e = some s') : s'.numOpened ≤ max s.numOpened (insideCount s') := by
  rcases fpStep_cases h with
    ⟨_, _, _, _, _, rfl⟩ | ⟨i, rfl, hpc, ht, rfl⟩ | ⟨_, _, _, rfl⟩ | ⟨_, _, _, _, rfl⟩ |
    ⟨_, _, _, _, _, _, _, rfl⟩ | ⟨_, _, _, _, _, _, _, rfl⟩ | ⟨_, _, _, _, _, _, _, rfl⟩ <;>
    try exact le_max_left _ _
  have hnone := takeFirstFp_eq_none ht
  have hstored : s.fpTab.countP (·.isSome) = 0 :=
    List.countP_eq_zero.mpr fun x hx => by simp [hnone x hx]
  have h1 := hinv.stored_add_inside
  have h2 := countP_set_of_getElem_eq_some (·.inside) hpc (.reading s.numOpened)
  simp only [insideCount, hstored, ReaderPc.inside, ReaderPc.holding, Option.isSome] at *
  simp only [if_false, if_true, Bool.false_eq_true] at h2
  omega

theorem insideCount_le_fpPeak (s : FpState) : ∀ es, insideCount s ≤ fpPeak s es
  | [] => le_rfl
  | _ :: _ => le_max_left _ _

/-- **The run lemma.** Along a run without a failing `REALLOC`, `FpInv` holds and the handles
opened stay within the handles opened at the start and the peak of readers inside. -/
theorem FpInv.run {s s' : FpState} {es : List FpEvent} (hinv : FpInv s)
    (hes : ∀ e ∈ es, e.reallocSucceeds) (h : fpRun s es = some s') :
    FpInv s' ∧ s'.numOpened ≤ max s.numOpened (fpPeak s es) := by
  induction es generalizing s with
  | nil =>
    obtain rfl : s = s' := Option.some.inj h
    exact ⟨hinv, le_max_left _ _⟩
  | cons e es ih =>
    obtain ⟨s₁, h₁, hrun⟩ := Option.bind_eq_some.mp h
    obtain ⟨hinv', hle⟩ :=
      ih (hinv.step (hes e (List.mem_cons_self e es)) h₁)
        (fun e' he' => hes e' (List.mem_cons_of_mem e he')) hrun
    have := hinv.numOpened_step h₁
    have := insideCount_le_fpPeak s₁ es
    simp only [fpPeak, h₁, Option.elim]
    exact ⟨hinv', by omega⟩

/-- **Without a failing `REALLOC`, no handle is lost or shared.** On every run from a table of
`NULL` slots whose `REALLOC`s succeed, each handle opened is in exactly one place, in one slot
or held by one reader, and no more handles are opened than the largest number of readers
inside `read_wim_resource` at once. -/
theorem fpRun_handles_placed (slots readers : Nat) (es : List FpEvent) (s : FpState)
    (hes : ∀ e ∈ es, e.reallocSucceeds) (h : fpRun (FpState.initial slots readers) es = some s) :
    (∀ h, places s h = if h < s.numOpened then 1 else 0) ∧
      s.numOpened ≤ fpPeak (FpState.initial slots readers) es := by
  obtain ⟨hinv, hle⟩ := (FpInv.initial slots readers).run hes h
  exact ⟨hinv.places_eq, by simpa [FpState.initial] using hle⟩

/-- Two readers on one slot, the second growing the table. -/
theorem fpRun_handles_placed_twoReaders :
    (∀ e ∈ [FpEvent.get 0 true, .get 1 true, .read 0 none, .read 1 none, .release 0 true,
      .release 1 true], e.reallocSucceeds) ∧
    fpRun (FpState.initial 1 2) [.get 0 true, .get 1 true, .read 0 none, .read 1 none,
      .release 0 true, .release 1 true] =
      some ⟨[some 0, some 1, none, none, none], 2, [.finished none, .finished none]⟩ ∧
    ((∀ h, places ⟨[some 0, some 1, none, none, none], 2, [.finished none, .finished none]⟩ h =
      if h < 2 then 1 else 0) ∧
      2 ≤ fpPeak (FpState.initial 1 2) [.get 0 true, .get 1 true, .read 0 none, .read 1 none,
        .release 0 true, .release 1 true]) :=
  have hes : ∀ e ∈ [FpEvent.get 0 true, .get 1 true, .read 0 none, .read 1 none,
      .release 0 true, .release 1 true], e.reallocSucceeds := by decide
  have hrun : fpRun (FpState.initial 1 2) [.get 0 true, .get 1 true, .read 0 none, .read 1 none,
      .release 0 true, .release 1 true] =
      some ⟨[some 0, some 1, none, none, none], 2, [.finished none, .finished none]⟩ := by decide
  ⟨hes, hrun, fpRun_handles_placed 1 2 _ _ hes hrun⟩

/-! ## When the table grows and when a handle is opened -/

/-- Only a `wim_get_fp` that finds every slot `NULL` opens a handle, one at a time. -/
theorem fpStep_opens_only_when_empty {s s' : FpState} {e : FpEvent} (h : fpStep s e = some s')
    (hn : s'.numOpened ≠ s.numOpened) :
    (∀ x ∈ s.fpTab, x = none) ∧ s'.numOpened = s.numOpened + 1 := by
  rcases fpStep_cases h with
    ⟨_, _, _, _, _, rfl⟩ | ⟨_, _, _, ht, rfl⟩ | ⟨_, _, _, rfl⟩ | ⟨_, _, _, _, rfl⟩ |
    ⟨_, _, _, _, _, _, _, rfl⟩ | ⟨_, _, _, _, _, _, _, rfl⟩ | ⟨_, _, _, _, _, _, _, rfl⟩ <;>
    first | exact absurd rfl hn | exact ⟨takeFirstFp_eq_none ht, rfl⟩

/-- Only a `wim_release_fp` that finds no `NULL` slot grows the table, by four slots. -/
theorem fpStep_grows_only_when_full {s s' : FpState} {e : FpEvent} (h : fpStep s e = some s')
    (hn : s'.fpTab.length ≠ s.fpTab.length) :
    (∀ x ∈ s.fpTab, x ≠ none) ∧ s'.fpTab.length = s.fpTab.length + 4 := by
  rcases fpStep_cases h with
    ⟨_, _, _, _, ht, rfl⟩ | ⟨_, _, _, _, rfl⟩ | ⟨_, _, _, rfl⟩ | ⟨_, _, _, _, rfl⟩ |
    ⟨_, fp, _, _, _, _, ht, rfl⟩ | ⟨_, fp, _, _, _, _, ht, rfl⟩ | ⟨_, _, _, _, _, _, _, rfl⟩
  · exact absurd (takeFirstFp_spec ht).1 hn
  all_goals first
    | exact absurd rfl hn
    | exact absurd (putFirstNull_spec fp ht).1 hn
    | exact ⟨putFirstNull_eq_none fp ht, by simp⟩

/-- **Opening and growing.** For every event, from every state, whatever the failures: a
handle is opened only when every slot is `NULL`, and the table grows, by four slots, only
when no slot is `NULL`. -/
theorem fpStep_opens_when_empty_grows_when_full {s s' : FpState} {e : FpEvent}
    (h : fpStep s e = some s') :
    (s'.numOpened ≠ s.numOpened → (∀ x ∈ s.fpTab, x = none) ∧ s'.numOpened = s.numOpened + 1) ∧
    (s'.fpTab.length ≠ s.fpTab.length →
      (∀ x ∈ s.fpTab, x ≠ none) ∧ s'.fpTab.length = s.fpTab.length + 4) :=
  ⟨fpStep_opens_only_when_empty h, fpStep_grows_only_when_full h⟩

/-- A reader releasing into a full table of one slot. -/
theorem fpStep_grows_oneFullSlot :
    fpStep ⟨[some 0], 2, [.releasing 1 none]⟩ (.release 0 true) =
      some ⟨[some 0, some 1, none, none, none], 2, [.finished none]⟩ ∧
    (∀ x ∈ [some 0], x ≠ none) ∧ [some 0, some 1, none, none, none].length = [some 0].length + 4 :=
  have hs : fpStep ⟨[some 0], 2, [.releasing 1 none]⟩ (.release 0 true) =
      some ⟨[some 0, some 1, none, none, none], 2, [.finished none]⟩ := by decide
  ⟨hs, (fpStep_opens_when_empty_grows_when_full hs).2 (by decide)⟩

/-! ## A failed `REALLOC` loses a handle -/

/-- **A failed `REALLOC` in `wim_release_fp` loses a `FILE*`.** Two readers on a table of one
`NULL` slot both find every slot `NULL` and open a handle each (0 and 1); the first puts its
handle in the slot; the second finds no `NULL` slot and `REALLOC` fails, so it returns
`WIMLIB_ERR_NOMEM`, and handle 1, opened and never closed, is in no slot and held by no
reader. Two more readers then take handle 0 and open handle 2: three handles opened, with
never more than two readers inside at once. -/
theorem fpStep_reallocFailure_leaks :
    fpRun (FpState.initial 1 4)
        [.get 0 true, .get 1 true, .read 0 none, .read 1 none, .release 0 true, .release 1 false,
          .get 2 true, .get 3 true] =
      some ⟨[none], 3, [.finished none, .finished (some .nomem), .reading 0, .reading 2]⟩ ∧
    places ⟨[none], 3, [.finished none, .finished (some .nomem), .reading 0, .reading 2]⟩ 1 = 0 ∧
    fpPeak (FpState.initial 1 4)
        [.get 0 true, .get 1 true, .read 0 none, .read 1 none, .release 0 true, .release 1 false,
          .get 2 true, .get 3 true] = 2 := by
  decide

end WimLean
