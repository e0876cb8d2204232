import Mathlib.Tactic.Common

/-!
# WimLean — the red-black indexes of the NTFS capture

`ntfs-capture.c` keeps two `struct rb_root` indexes: `sd_set` maps SHA-1 digests to security
IDs (`insert_sd_node`, `lookup_sd`), and `dos_name_map` maps NTFS inode numbers to DOS names
(`insert_dos_name`, `lookup_dos_name`). Both insert by descending from the root with a
three-way comparison of keys until a `NULL` link, and both look up by the same descent. They
differ only in what they do when the descent meets the key: `insert_sd_node` asserts, and
`insert_dos_name` returns -1.

`SearchTree` is that descent over natural-number keys (an inode number, or a digest read as a
big-endian number, which is the order of `hashes_cmp`). The colouring and the rotations of
`rb_insert_color` are not modelled: they keep the in-order sequence of the keys, which is all
that `lookup` depends on.

The facts are the ones both indexes need: insertion keeps the tree ordered
(`Ordered.insert`), meets the key exactly when `lookup` finds it (`insert_eq_none_iff`), and
adds one binding (`lookup_insert`).
-/

namespace WimLean

/-- A binary search tree with keys `key` and values `val`. -/
inductive SearchTree (α : Type) where
  | leaf
  | node (left : SearchTree α) (key : Nat) (val : α) (right : SearchTree α)
  deriving DecidableEq, Repr

namespace SearchTree

variable {α : Type}

/-- Every key of the tree satisfies `p`. -/
def All (p : Nat → Prop) : SearchTree α → Prop
  | leaf => True
  | node l k _ r => All p l ∧ p k ∧ All p r

/-- The search-tree order: the keys on the left of a node are below its key, those on the
right above. -/
def Ordered : SearchTree α → Prop
  | leaf => True
  | node l k _ r => Ordered l ∧ Ordered r ∧ All (· < k) l ∧ All (k < ·) r

/-- The descent of `lookup_sd` and `lookup_dos_name`. -/
def lookup (x : Nat) : SearchTree α → Option α
  | leaf => none
  | node l k v r => if x < k then lookup x l else if k < x then lookup x r else some v

/-- The descent of `insert_sd_node` and `insert_dos_name`, then `rb_link_node` at the `NULL`
link it reaches; `none` when the descent meets a node with the same key. -/
def insert (x : Nat) (v : α) : SearchTree α → Option (SearchTree α)
  | leaf => some (node leaf x v leaf)
  | node l k w r =>
    if x < k then (insert x v l).map fun l => node l k w r
    else if k < x then (insert x v r).map fun r => node l k w r
    else none

@[simp] theorem all_leaf (p : Nat → Prop) : (leaf : SearchTree α).All p := trivial

theorem All.imp {p q : Nat → Prop} (hpq : ∀ x, p x → q x) :
    ∀ {t : SearchTree α}, t.All p → t.All q
  | leaf, _ => trivial
  | node _ _ _ _, ⟨hl, hk, hr⟩ => ⟨hl.imp hpq, hpq _ hk, hr.imp hpq⟩

/-- `lookup` finds only keys of the tree. -/
theorem lookup_eq_none_of_all_ne {x : Nat} : ∀ {t : SearchTree α}, t.All (· ≠ x) → t.lookup x = none
  | leaf, _ => rfl
  | node l k _ r, ⟨hl, hk, hr⟩ => by
    simp only [lookup]
    split_ifs with h1 h2
    · exact lookup_eq_none_of_all_ne hl
    · exact lookup_eq_none_of_all_ne hr
    · exact absurd (by omega) hk

/-- Insertion adds the key `x` and keeps every other key: a property of all of them and of
`x` holds of all keys after. -/
theorem All.insert {p : Nat → Prop} {x : Nat} {v : α} :
    ∀ {t t' : SearchTree α}, t.All p → p x → t.insert x v = some t' → t'.All p
  | leaf, _, _, hx, h => by cases h; exact ⟨trivial, hx, trivial⟩
  | node l k w r, t', ⟨hl, hk, hr⟩, hx, h => by
    simp only [SearchTree.insert] at h
    split_ifs at h
    · obtain ⟨l', hl', rfl⟩ := Option.map_eq_some'.mp h
      exact ⟨hl.insert hx hl', hk, hr⟩
    · obtain ⟨r', hr', rfl⟩ := Option.map_eq_some'.mp h
      exact ⟨hl, hk, hr.insert hx hr'⟩

/-- **Insertion keeps the order.** -/
theorem Ordered.insert {x : Nat} {v : α} :
    ∀ {t t' : SearchTree α}, t.Ordered → t.insert x v = some t' → t'.Ordered
  | leaf, _, _, h => by cases h; exact ⟨trivial, trivial, trivial, trivial⟩
  | node l k w r, t', ⟨hol, hor, hl, hr⟩, h => by
    simp only [SearchTree.insert] at h
    split_ifs at h with h1 h2
    · obtain ⟨l', hl', rfl⟩ := Option.map_eq_some'.mp h
      exact ⟨hol.insert hl', hor, hl.insert h1 hl', hr⟩
    · obtain ⟨r', hr', rfl⟩ := Option.map_eq_some'.mp h
      exact ⟨hol, hor.insert hr', hl, hr.insert h2 hr'⟩

/-- **The descent meets the key exactly when `lookup` finds it.** -/
theorem insert_eq_none_iff {x : Nat} {v : α} :
    ∀ {t : SearchTree α}, t.Ordered → (t.insert x v = none ↔ (t.lookup x).isSome)
  | leaf, _ => by simp [SearchTree.insert, lookup]
  | node l k w r, ⟨hol, hor, _, _⟩ => by
    simp only [SearchTree.insert, lookup]
    split_ifs
    · simpa using insert_eq_none_iff hol
    · simpa using insert_eq_none_iff hor
    · simp

/-- **Insertion adds one binding.** After inserting `x`, `lookup` finds `v` at `x` and what it
found before at every other key. -/
theorem lookup_insert {x : Nat} {v : α} :
    ∀ {t t' : SearchTree α}, t.Ordered → t.insert x v = some t' →
      ∀ y, t'.lookup y = if y = x then some v else t.lookup y
  | leaf, _, _, h, y => by
    cases h
    simp only [lookup]
    split_ifs <;> first | rfl | omega
  | node l k w r, t', ⟨hol, hor, _, _⟩, h, y => by
    simp only [SearchTree.insert] at h
    split_ifs at h with h1 h2
    · obtain ⟨l', hl', rfl⟩ := Option.map_eq_some'.mp h
      have ih := lookup_insert hol hl' y
      simp only [lookup, ih]
      split_ifs <;> first | rfl | omega
    · obtain ⟨r', hr', rfl⟩ := Option.map_eq_some'.mp h
      have ih := lookup_insert hor hr' y
      simp only [lookup, ih]
      split_ifs <;> first | rfl | omega

end SearchTree

end WimLean
