/-
The elements of a finite set in order.

`Finset.sort` does not compute in the kernel; `Ordered.list` is the insertion
sort of the elements and does.  `list_filterMap_congr` is what makes a listing
over part of the keys equal to a listing over all of them.
-/
import Mathlib.Data.Finset.Filter
import Mathlib.Data.List.Sort

namespace Ordered

variable {α β : Type} [LinearOrder α]

/-- The elements of a set in ascending order. -/
def list (s : Finset α) : List α :=
  Quot.liftOn s.val (List.insertionSort (· ≤ ·)) fun _ _ h =>
    (((List.perm_insertionSort _ _).trans h).trans (List.perm_insertionSort _ _).symm).eq_of_pairwise
      (fun _ _ _ _ => le_antisymm) (List.pairwise_insertionSort _ _) (List.pairwise_insertionSort _ _)

theorem exists_list (s : Finset α) :
    ∃ l : List α, (l : Multiset α) = s.val ∧ list s = l.insertionSort (· ≤ ·) := by
  obtain ⟨⟨l⟩, hl⟩ := s
  exact ⟨l, rfl, rfl⟩

@[simp] theorem mem_list {s : Finset α} {a : α} : a ∈ list s ↔ a ∈ s := by
  obtain ⟨l, hl, heq⟩ := exists_list s
  rw [heq, List.mem_insertionSort, ← Multiset.mem_coe, hl, Finset.mem_val]

theorem nodup_list (s : Finset α) : (list s).Nodup := by
  obtain ⟨l, hl, heq⟩ := exists_list s
  have hnodup : (l : Multiset α).Nodup := hl ▸ s.nodup
  rw [heq]
  exact (List.perm_insertionSort _ l).nodup_iff.mpr (Multiset.coe_nodup.mp hnodup)

theorem pairwise_list (s : Finset α) : (list s).Pairwise (· ≤ ·) := by
  obtain ⟨l, -, heq⟩ := exists_list s
  rw [heq]
  exact List.pairwise_insertionSort _ l

/-- A set is listed by its members alone. -/
theorem list_eq_of_mem_iff {s : Finset α} {l : List α} (hmem : ∀ a, a ∈ l ↔ a ∈ s)
    (hnodup : l.Nodup) (hsorted : l.Pairwise (· ≤ ·)) : l = list s :=
  ((List.perm_ext_iff_of_nodup hnodup (nodup_list s)).mpr fun a =>
    (hmem a).trans mem_list.symm).eq_of_pairwise (fun _ _ _ _ => le_antisymm) hsorted
      (pairwise_list s)

theorem pairwise_lt_list (s : Finset α) : (list s).Pairwise (· < ·) :=
  (pairwise_list s).imp₂ (fun _ _ hle hne => lt_of_le_of_ne hle hne) (nodup_list s)

/-- A set is listed by its members in strictly ascending order. -/
theorem list_eq_of_pairwise_lt {s : Finset α} {l : List α} (hmem : ∀ a, a ∈ l ↔ a ∈ s)
    (hsorted : l.Pairwise (· < ·)) : l = list s :=
  list_eq_of_mem_iff hmem (hsorted.imp ne_of_lt) (hsorted.imp le_of_lt)

theorem list_filter (s : Finset α) (p : α → Bool) :
    (list s).filter p = list (s.filter (p ·)) :=
  list_eq_of_mem_iff (by simp) ((nodup_list s).filter p) ((pairwise_list s).filter p)

theorem filterMap_eq_filter {γ : Type} (l : List γ) (f : γ → Option β) :
    l.filterMap f = (l.filter fun a => (f a).isSome).filterMap f := by
  rw [List.filterMap_filter]
  refine List.filterMap_congr fun a _ => ?_
  cases f a <;> rfl

/-- Listings of what `f` yields agree on sets with the same yielding elements. -/
theorem list_filterMap_congr {s t : Finset α} {f : α → Option β}
    (h : ∀ a, (f a).isSome → (a ∈ s ↔ a ∈ t)) : (list s).filterMap f = (list t).filterMap f := by
  have hsame : s.filter (fun a => (f a).isSome) = t.filter (fun a => (f a).isSome) := by
    ext a
    rw [Finset.mem_filter, Finset.mem_filter]
    constructor
    · rintro ⟨ha, hf⟩
      exact ⟨(h a hf).mp ha, hf⟩
    · rintro ⟨ha, hf⟩
      exact ⟨(h a hf).mpr ha, hf⟩
  rw [filterMap_eq_filter, filterMap_eq_filter (list t), list_filter, list_filter, hsame]

end Ordered
