import WimLean.Basic
import WimLean.Capture.SearchTree

/-!
# WimLean — interning security descriptors (`sd_set_add_sd`)

The NTFS capture gives each inode the security ID of its descriptor, and stores each distinct
descriptor once in the image's `struct wim_security_data`: `sd_set_add_sd` hashes the
descriptor, looks the digest up in the `sd_set` index, and on a miss appends a copy of the
descriptor and its size, then indexes the digest under the new ID.

The invariant `SdInv` links the index to the parallel arrays: the index maps exactly the
digests of the stored descriptors to their positions, the arrays have `num_entries` entries,
and `total_length` counts each descriptor with its 8-byte size. `SdInv.step` says what one call
returns and that it keeps the invariant; `sdRun_interns` carries that over every sequence of
calls from an empty set, with any allocation failures: the assertion of `insert_sd_node` is
never reached, and every returned ID indexes a descriptor with the caller's digest.
-/

namespace WimLean

/-- `struct wim_security_data`: `num_entries` descriptors with their sizes, and
`total_length`. -/
structure WimSecurityData where
  numEntries : Nat
  descriptors : List (List UInt8)
  sizes : List Nat
  totalLength : Nat
  deriving DecidableEq, Repr

/-- `struct sd_set`: the security data being built, and the index from digests to security
IDs. -/
structure SdSet where
  sd : WimSecurityData
  rbRoot : SearchTree Nat
  deriving DecidableEq, Repr

/-- An empty set over an empty `wim_security_data` whose `total_length` is `totalLength`. -/
def SdSet.empty (totalLength : Nat) : SdSet := ⟨⟨0, [], [], totalLength⟩, .leaf⟩

/-- The key of a digest in the index: `hashes_cmp` compares the 20 bytes in order, as the
big-endian number they spell. -/
def hashKey (hash : Sha1Hash) : Nat := hash.toNat

/-- `lookup_sd(set, hash)`: the security ID of the digest, `none` for -1. -/
def lookupSd (set : SdSet) (hash : Sha1Hash) : Option Nat :=
  set.rbRoot.lookup (hashKey hash)

/-- `insert_sd_node(set, new)`; `none` when the descent meets the digest, the
`wimlib_assert(0)` of a duplicate digest. -/
def insertSdNode (set : SdSet) (hash : Sha1Hash) (securityId : Nat) : Option SdSet :=
  (set.rbRoot.insert (hashKey hash) securityId).map fun t => { set with rbRoot := t }

/-- `sd_set_add_sd(sd_set, descriptor, size)`, with `sha1_buffer` the digest function and
`allocs` the outcomes of its four allocations (the node, the copy, and the `REALLOC`s of
`descriptors` and `sizes`; past its end an allocation succeeds): the security ID it returns
and the set after it, `none` when `insert_sd_node` asserts. Each failed allocation returns -1
and leaves the arrays' first `num_entries` entries as they were. -/
def sdSetAddSd (sha1 : List UInt8 → Sha1Hash) (allocs : List Bool) (set : SdSet)
    (descriptor : List UInt8) : Option (Int × SdSet) :=
  let hash := sha1 descriptor
  match lookupSd set hash with
  | some securityId => some (securityId, set)
  | none =>
    if (allocs.take 4).all id then
      let sd := set.sd
      let set := { set with sd := { sd with
        descriptors := sd.descriptors ++ [descriptor]
        sizes := sd.sizes ++ [descriptor.length]
        numEntries := sd.numEntries + 1
        totalLength := sd.totalLength + descriptor.length + 8 } }
      (insertSdNode set hash sd.numEntries).map fun set => (sd.numEntries, set)
    else some (-1, set)

/-- The calls of a capture in order, each a descriptor and its allocation outcomes: the IDs
returned and the set after the last, `none` when one asserts. -/
def sdRun (sha1 : List UInt8 → Sha1Hash) : SdSet → List (List UInt8 × List Bool) →
    Option (List Int × SdSet)
  | set, [] => some ([], set)
  | set, (descriptor, allocs) :: calls =>
    match sdSetAddSd sha1 allocs set descriptor with
    | none => none
    | some (id, set) => (sdRun sha1 set calls).map fun r => (id :: r.1, r.2)

/-! ## The invariant -/

/-- The index and the arrays agree: the arrays have `num_entries` entries, `sizes` holds the
descriptors' sizes, `total_length` counts each with its 8-byte size over the initial
`totalLength`, and the index, ordered, maps exactly the digests of the stored descriptors to
their positions. -/
structure SdInv (sha1 : List UInt8 → Sha1Hash) (totalLength : Nat) (set : SdSet) : Prop where
  numEntries_eq : set.sd.numEntries = set.sd.descriptors.length
  sizes_eq : set.sd.sizes = set.sd.descriptors.map List.length
  totalLength_eq :
    set.sd.totalLength = totalLength + (set.sd.descriptors.map fun d => d.length + 8).sum
  ordered : set.rbRoot.Ordered
  lookup_iff : ∀ x i, set.rbRoot.lookup x = some i ↔
    ∃ d, set.sd.descriptors[i]? = some d ∧ hashKey (sha1 d) = x

variable {sha1 : List UInt8 → Sha1Hash} {totalLength : Nat}

theorem SdInv.empty : SdInv sha1 totalLength (SdSet.empty totalLength) :=
  ⟨rfl, rfl, by simp [SdSet.empty], trivial, fun x i => by simp [SdSet.empty, SearchTree.lookup]⟩

/-- Two stored descriptors with one digest are one entry. -/
theorem SdInv.index_unique {set : SdSet} (inv : SdInv sha1 totalLength set) {i j : Nat}
    {d e : List UInt8} (hi : set.sd.descriptors[i]? = some d) (hj : set.sd.descriptors[j]? = some e)
    (he : sha1 d = sha1 e) : i = j := by
  have h1 := (inv.lookup_iff (hashKey (sha1 d)) i).mpr ⟨d, hi, rfl⟩
  have h2 := (inv.lookup_iff (hashKey (sha1 d)) j).mpr ⟨e, hj, by rw [he]⟩
  exact Option.some.inj (h1.symm.trans h2)

/-- **One call.** From a set satisfying the invariant, `sd_set_add_sd` never asserts and keeps
the invariant. It returns the ID of an indexed digest and changes nothing; or, on a miss, -1
with nothing changed when an allocation fails, and otherwise the old `num_entries`, with the
descriptor appended. -/
theorem SdInv.step {set : SdSet} (inv : SdInv sha1 totalLength set) (allocs : List Bool)
    (descriptor : List UInt8) :
    ∃ r set', sdSetAddSd sha1 allocs set descriptor = some (r, set') ∧
      SdInv sha1 totalLength set' ∧
      ((∃ i, lookupSd set (sha1 descriptor) = some i ∧ r = i ∧ set' = set) ∨
        (lookupSd set (sha1 descriptor) = none ∧ (allocs.take 4).all id = false ∧ r = -1 ∧
          set' = set) ∨
        (lookupSd set (sha1 descriptor) = none ∧ (allocs.take 4).all id = true ∧
          r = set.sd.numEntries ∧ set'.sd.descriptors = set.sd.descriptors ++ [descriptor])) := by
  cases hl : lookupSd set (sha1 descriptor) with
  | some i => exact ⟨i, set, by simp [sdSetAddSd, hl], inv, .inl ⟨i, rfl, rfl, rfl⟩⟩
  | none =>
    cases ha : (allocs.take 4).all id with
    | false =>
      exact ⟨-1, set, by simp [sdSetAddSd, hl, ha], inv, .inr (.inl ⟨rfl, rfl, rfl, rfl⟩)⟩
    | true =>
      have hins : set.rbRoot.insert (hashKey (sha1 descriptor)) set.sd.numEntries ≠ none :=
        fun h => by
          have := (SearchTree.insert_eq_none_iff inv.ordered).mp h
          rw [show set.rbRoot.lookup _ = none from hl] at this
          exact absurd this (by simp)
      obtain ⟨t, ht⟩ := Option.ne_none_iff_exists'.mp hins
      refine ⟨set.sd.numEntries, _, by simp [sdSetAddSd, hl, ha, insertSdNode, ht]; rfl,
        ⟨by simp [inv.numEntries_eq], by simp [inv.sizes_eq], ?_, inv.ordered.insert ht, ?_⟩,
        .inr (.inr ⟨rfl, rfl, rfl, rfl⟩)⟩
      · simp [inv.totalLength_eq, List.sum_append]; omega
      · intro x i
        rw [SearchTree.lookup_insert inv.ordered ht, inv.numEntries_eq]
        by_cases hx : x = hashKey (sha1 descriptor)
        · subst hx
          rw [if_pos rfl, Option.some.injEq]
          constructor
          · rintro rfl
            exact ⟨descriptor, by simp, rfl⟩
          · rintro ⟨d, hd, hkey⟩
            rcases Nat.lt_or_ge i set.sd.descriptors.length with hlt | hge
            · rw [List.getElem?_append_left hlt] at hd
              have := (inv.lookup_iff _ i).mpr ⟨d, hd, hkey⟩
              simp [lookupSd, this] at hl
            · rw [List.getElem?_append_right hge] at hd
              cases hk : i - set.sd.descriptors.length with
              | zero => omega
              | succ k => simp [hk] at hd
        · rw [if_neg hx, inv.lookup_iff]
          constructor
          · rintro ⟨d, hd, hkey⟩
            exact ⟨d, List.getElem?_append_left (List.getElem?_eq_some_iff.mp hd).1 ▸ hd, hkey⟩
          · rintro ⟨d, hd, hkey⟩
            rcases Nat.lt_or_ge i set.sd.descriptors.length with hlt | hge
            · exact ⟨d, by rwa [List.getElem?_append_left hlt] at hd, hkey⟩
            · rw [List.getElem?_append_right hge] at hd
              cases hk : i - set.sd.descriptors.length with
              | zero =>
                rw [hk, List.getElem?_cons_zero, Option.some.injEq] at hd
                subst hd
                exact absurd hkey.symm hx
              | succ k => simp [hk] at hd

theorem hashKey_inj {a b : Sha1Hash} (h : hashKey a = hashKey b) : a = b :=
  BitVec.toNat_eq.mpr h

theorem getElem?_of_append {ds rest : List (List UInt8)} {i : Nat} {d : List UInt8}
    (h : ds[i]? = some d) : (ds ++ rest)[i]? = some d := by
  rw [List.getElem?_append_left (List.getElem?_eq_some_iff.mp h).1, h]

/-- **A run.** From a set satisfying the invariant, every sequence of calls runs without an
assertion and keeps the invariant; the security data only grows at its end, and each call
returns -1 or the position, in the final security data, of a descriptor with its digest. -/
theorem SdInv.run : ∀ (calls : List (List UInt8 × List Bool)) {set : SdSet},
    SdInv sha1 totalLength set →
    ∃ ids set', sdRun sha1 set calls = some (ids, set') ∧ SdInv sha1 totalLength set' ∧
      (∃ rest, set'.sd.descriptors = set.sd.descriptors ++ rest) ∧
      List.Forall₂ (fun (call : List UInt8 × List Bool) (id : Int) => id = -1 ∨
        ∃ i : Nat, id = i ∧ ∃ d, set'.sd.descriptors[i]? = some d ∧ sha1 d = sha1 call.1)
        calls ids
  | [], set, inv => ⟨[], set, rfl, inv, ⟨[], by simp⟩, .nil⟩
  | (descriptor, allocs) :: calls, set, inv => by
    obtain ⟨r, s₁, hstep, inv₁, hcase⟩ := inv.step allocs descriptor
    obtain ⟨ids, s', hrun, inv', ⟨rest, hrest⟩, hall⟩ := SdInv.run calls inv₁
    have hgrow : ∃ rest', s₁.sd.descriptors = set.sd.descriptors ++ rest' := by
      rcases hcase with ⟨_, _, _, rfl⟩ | ⟨_, _, _, rfl⟩ | ⟨_, _, _, h⟩
      · exact ⟨[], by simp⟩
      · exact ⟨[], by simp⟩
      · exact ⟨[descriptor], h⟩
    obtain ⟨rest', hrest'⟩ := hgrow
    refine ⟨r :: ids, s', by simp [sdRun, hstep, hrun], inv', ⟨rest' ++ rest, by simp [hrest, hrest']⟩,
      .cons ?_ hall⟩
    rcases hcase with ⟨i, hl, rfl, rfl⟩ | ⟨-, -, rfl, -⟩ | ⟨-, -, rfl, h⟩
    · obtain ⟨d, hd, hkey⟩ := (inv.lookup_iff _ i).mp hl
      exact .inr ⟨i, rfl, d, by rw [hrest]; exact getElem?_of_append hd, hashKey_inj hkey⟩
    · exact .inl rfl
    · refine .inr ⟨set.sd.numEntries, rfl, descriptor, ?_, rfl⟩
      rw [hrest, h, List.append_assoc, inv.numEntries_eq, List.getElem?_append_right le_rfl]
      simp

/-- **Interning security descriptors.** From an empty set and an empty `wim_security_data`,
for every digest function and every sequence of descriptors with any allocation failures: the
run never reaches the assertion of `insert_sd_node`, and afterwards the index maps exactly the
digests of the stored descriptors to their positions, `sizes` and `num_entries` match the
descriptors, and `total_length` has grown by `size + 8` for each stored descriptor; each call
returned -1 or the position of a stored descriptor with its digest. And from every set a run
reaches, a call returns the ID of an indexed digest and changes nothing; or, on a miss, -1
with nothing changed exactly when one of its allocations fails, and otherwise the old
`num_entries`, with the descriptor appended. -/
theorem sdRun_interns (sha1 : List UInt8 → Sha1Hash) (totalLength : Nat) :
    (∀ calls : List (List UInt8 × List Bool), ∃ ids set,
      sdRun sha1 (SdSet.empty totalLength) calls = some (ids, set) ∧
      SdInv sha1 totalLength set ∧
      List.Forall₂ (fun (call : List UInt8 × List Bool) (id : Int) => id = -1 ∨
        ∃ i : Nat, id = i ∧ ∃ d, set.sd.descriptors[i]? = some d ∧ sha1 d = sha1 call.1)
        calls ids) ∧
    (∀ (calls : List (List UInt8 × List Bool)) (ids : List Int) (set : SdSet),
      sdRun sha1 (SdSet.empty totalLength) calls = some (ids, set) →
      ∀ (allocs : List Bool) (descriptor : List UInt8),
        ∃ r set', sdSetAddSd sha1 allocs set descriptor = some (r, set') ∧
          ((∃ i, lookupSd set (sha1 descriptor) = some i ∧ r = i ∧ set' = set) ∨
            (lookupSd set (sha1 descriptor) = none ∧ (allocs.take 4).all id = false ∧ r = -1 ∧
              set' = set) ∨
            (lookupSd set (sha1 descriptor) = none ∧ (allocs.take 4).all id = true ∧
              r = set.sd.numEntries ∧
              set'.sd.descriptors = set.sd.descriptors ++ [descriptor]))) := by
  refine ⟨fun calls => ?_, fun calls ids set hrun allocs descriptor => ?_⟩
  · obtain ⟨ids, set, hrun, inv, -, hall⟩ := SdInv.run calls (@SdInv.empty sha1 totalLength)
    exact ⟨ids, set, hrun, inv, hall⟩
  · obtain ⟨ids', set', hrun', inv, -, -⟩ := SdInv.run calls (@SdInv.empty sha1 totalLength)
    rw [hrun] at hrun'
    cases hrun'
    obtain ⟨r, set'', hstep, -, hcase⟩ := inv.step allocs descriptor
    exact ⟨r, set'', hstep, hcase⟩

/-- Descriptors `[1]`, `[2]`, `[1]` under a digest that is the first byte: IDs 0, 1, 0, two
descriptors stored; then a new descriptor `[3]` whose first allocation fails gets -1. -/
theorem sdRun_interns_repeat :
    sdRun (fun d => BitVec.ofNat 160 (d.headD 0).toNat) (SdSet.empty 8)
        [([1], []), ([2], []), ([1], [])] =
      some ([0, 1, 0], ⟨⟨2, [[1], [2]], [1, 1], 26⟩, .node .leaf 1 0 (.node .leaf 2 1 .leaf)⟩) ∧
    ∃ r set', sdSetAddSd (fun d => BitVec.ofNat 160 (d.headD 0).toNat) [false]
        ⟨⟨2, [[1], [2]], [1, 1], 26⟩, .node .leaf 1 0 (.node .leaf 2 1 .leaf)⟩ [3] =
        some (r, set') ∧
      ((∃ i, lookupSd ⟨⟨2, [[1], [2]], [1, 1], 26⟩, .node .leaf 1 0 (.node .leaf 2 1 .leaf)⟩
          (BitVec.ofNat 160 3) = some i ∧ r = i ∧
          set' = ⟨⟨2, [[1], [2]], [1, 1], 26⟩, .node .leaf 1 0 (.node .leaf 2 1 .leaf)⟩) ∨
        (lookupSd ⟨⟨2, [[1], [2]], [1, 1], 26⟩, .node .leaf 1 0 (.node .leaf 2 1 .leaf)⟩
            (BitVec.ofNat 160 3) = none ∧ ([false].take 4).all id = false ∧ r = -1 ∧
          set' = ⟨⟨2, [[1], [2]], [1, 1], 26⟩, .node .leaf 1 0 (.node .leaf 2 1 .leaf)⟩) ∨
        (lookupSd ⟨⟨2, [[1], [2]], [1, 1], 26⟩, .node .leaf 1 0 (.node .leaf 2 1 .leaf)⟩
            (BitVec.ofNat 160 3) = none ∧ ([false].take 4).all id = true ∧ r = 2 ∧
          set'.sd.descriptors = [[1], [2]] ++ [[3]])) :=
  have h : sdRun (fun d => BitVec.ofNat 160 (d.headD 0).toNat) (SdSet.empty 8)
      [([1], []), ([2], []), ([1], [])] =
      some ([0, 1, 0], ⟨⟨2, [[1], [2]], [1, 1], 26⟩, .node .leaf 1 0 (.node .leaf 2 1 .leaf)⟩) := by
    decide
  ⟨h, (sdRun_interns _ 8).2 _ _ _ h [false] [3]⟩

end WimLean
