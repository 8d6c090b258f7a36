/-
Rows, as queries see them.

* `groupBy` — the groups of the rows with one key;
* `leftJoin` — every row of the left side, with what the right side has for it;
* `page` — `limit` and `offset`; `pages_partition` says that the pages of one
  size, until one is empty, are the rows;
* `IsFirst` — the first rows in an order that leaves ties open;
  `isFirst_take_filter` says when a limit may stand before a filter.
-/
import Mathlib.Data.List.Dedup
import Mathlib.Data.Nat.Find
import Mathlib.Data.List.Basic
import Mathlib.Data.Multiset.Filter

namespace Relations

variable {α β κ : Type} [DecidableEq κ]

/-! ### Groups -/

/-- `group by key`: a group for each key that a row has. -/
def groupBy (key : α → κ) (rows : List α) : List (κ × List α) :=
  (rows.map key).dedup.map fun k => (k, rows.filter fun row => key row = k)

/-- `left join … on`: a row without a partner stands alone. -/
def leftJoin (left : List κ) (right : List (κ × β)) : List (κ × Option β) :=
  left.flatMap fun k =>
    match right.filter fun row => row.1 = k with
    | [] => [(k, none)]
    | rows => rows.map fun row => (k, some row.2)

theorem filter_eq_singleton {l : List κ} (hnodup : l.Nodup) (k : κ) :
    l.filter (fun x => x = k) = if k ∈ l then [k] else [] := by
  induction l with
  | nil => rfl
  | cons x l ih =>
    rw [List.nodup_cons] at hnodup
    rw [List.filter_cons, ih hnodup.2]
    by_cases hx : x = k
    · subst hx
      simp [hnodup.1]
    · simp [hx, Ne.symm hx]

/-- The group of a key, if a row has it. -/
theorem filter_groupBy (key : α → κ) (rows : List α) (k : κ) :
    (groupBy key rows).filter (fun g => g.1 = k) =
      if rows.filter (fun row => key row = k) = [] then []
      else [(k, rows.filter fun row => key row = k)] := by
  have hmem : k ∈ (rows.map key).dedup ↔ rows.filter (fun row => key row = k) ≠ [] := by
    rw [List.mem_dedup, List.mem_map, ne_eq, List.filter_eq_nil_iff]
    push Not
    simp
  rw [groupBy, List.filter_map]
  show ((rows.map key).dedup.filter fun x => x = k).map _ = _
  rw [filter_eq_singleton (List.nodup_dedup _) k]
  by_cases h : rows.filter (fun row => key row = k) = []
  · rw [if_neg (fun hk => hmem.mp hk h), if_pos h, List.map_nil]
  · rw [if_pos (hmem.mpr h), if_neg h, List.map_singleton]

/-- **A join with groups gives each row its group.** -/
theorem leftJoin_groupBy (left : List κ) (key : α → κ) (rows : List α) (agg : List α → β) :
    leftJoin left ((groupBy key rows).map fun g => (g.1, agg g.2)) =
      left.map fun k =>
        let group := rows.filter fun row => key row = k
        (k, if group = [] then none else some (agg group)) := by
  rw [leftJoin, List.map_eq_flatMap (l := left)]
  refine List.flatMap_congr fun k _ => ?_
  have hfilter : ((groupBy key rows).map fun g => (g.1, agg g.2)).filter (fun row => row.1 = k) =
      ((groupBy key rows).filter fun g => g.1 = k).map fun g => (g.1, agg g.2) := by
    rw [List.filter_map]
    rfl
  rw [hfilter, filter_groupBy]
  by_cases h : rows.filter (fun row => key row = k) = []
  · simp [h]
  · simp [h]

/-! ### Pages -/

/-- `offset … limit …`. -/
def page (lim off : ℕ) (rows : List α) : List α := (rows.drop off).take lim

theorem page_eq_nil_iff {lim off : ℕ} {rows : List α} (hlim : 1 ≤ lim) :
    page lim off rows = [] ↔ rows.length ≤ off := by
  rw [page, List.take_eq_nil_iff, List.drop_eq_nil_iff]
  omega

theorem length_page (lim off : ℕ) (rows : List α) :
    (page lim off rows).length = min lim (rows.length - off) := by
  rw [page, List.length_take, List.length_drop]

theorem head?_page {lim : ℕ} (hlim : 1 ≤ lim) (off : ℕ) (rows : List α) :
    (page lim off rows).head? = rows[off]? := by
  rw [page, List.head?_eq_getElem?, List.getElem?_take_of_lt hlim, List.getElem?_drop, Nat.add_zero]

/-- The last row of a full page. -/
theorem getLast?_page {lim off : ℕ} (hlim : 1 ≤ lim) {rows : List α} (h : off + lim ≤ rows.length) :
    (page lim off rows).getLast? = rows[off + lim - 1]? := by
  have hlength : (page lim off rows).length = lim := by
    rw [length_page]
    omega
  rw [List.getLast?_eq_getElem?, hlength, page, List.getElem?_take_of_lt (by omega),
    List.getElem?_drop, Nat.add_sub_assoc hlim]

/-- The first `n` pages are the first rows. -/
theorem flatMap_page (lim n : ℕ) (rows : List α) :
    (List.range n).flatMap (fun k => page lim (k * lim) rows) = rows.take (n * lim) := by
  induction n with
  | zero => simp
  | succ n ih =>
    rw [List.range_succ, List.flatMap_append, ih, List.flatMap_singleton, page, Nat.succ_mul,
      ← List.take_add]

/-- **Pages until an empty one are a partition of the rows.** -/
theorem pages_partition {lim : ℕ} (hlim : 1 ≤ lim) (rows : List α) :
    ∃ n, (∀ k < n, page lim (k * lim) rows ≠ []) ∧ page lim (n * lim) rows = [] ∧
      (List.range n).flatMap (fun k => page lim (k * lim) rows) = rows := by
  -- the last page starts before the end
  obtain ⟨n, hn, hmin⟩ : ∃ n, rows.length ≤ n * lim ∧ ∀ k < n, k * lim < rows.length := by
    have hex : ∃ n, rows.length ≤ n * lim := ⟨rows.length, Nat.le_mul_of_pos_right _ hlim⟩
    exact ⟨Nat.find hex, Nat.find_spec hex, fun k hk => not_le.mp (Nat.find_min hex hk)⟩
  refine ⟨n, fun k hk => ?_, (page_eq_nil_iff hlim).mpr hn, ?_⟩
  · intro hnil
    have hle := (page_eq_nil_iff hlim).mp hnil
    have hlt := hmin k hk
    omega
  · rw [flatMap_page, List.take_of_length_le hn]

/-! ### Limits -/

section First

variable (before : α → α → Prop)

/-- `order by … limit n`: the first `n` of the rows in some order that `before`
allows. -/
def IsFirst (rows : Multiset α) (n : ℕ) (out : List α) : Prop :=
  ∃ ordered : List α, (ordered : Multiset α) = rows ∧ ordered.Pairwise before ∧ out = ordered.take n

/-- The rows without their order decide how many come out. -/
theorem IsFirst.length {before : α → α → Prop} {rows : Multiset α} {n : ℕ} {out : List α}
    (h : IsFirst before rows n out) : out.length = min n rows.card := by
  obtain ⟨ordered, rfl, -, rfl⟩ := h
  rw [List.length_take, Multiset.coe_card]

/-- A limit before a filter loses no place exactly when the rows it cuts off are not
asked for, or enough of the others pass. -/
theorem length_take_filter_iff (rows : List α) (p : α → Bool) (m n : ℕ) :
    (((rows.take m).filter p).take n).length = min n (rows.filter p).length ↔
      ((∃ row ∈ rows.drop m, p row) → n ≤ (rows.take m).countP p) := by
  have hsplit : rows.filter p = (rows.take m).filter p ++ (rows.drop m).filter p := by
    rw [← List.filter_append, List.take_append_drop]
  have hcut : (∃ row ∈ rows.drop m, p row) ↔ 0 < ((rows.drop m).filter p).length := by
    simp [List.length_pos_iff_exists_mem]
  rw [List.countP_eq_length_filter, hcut, hsplit, List.length_append, List.length_take]
  omega

/-- **A limit before a filter** that loses no place changes nothing. -/
theorem isFirst_take_filter {rows : Multiset α} {ordered : List α} (hrows : ↑ordered = rows)
    (hordered : ordered.Pairwise before) {p : α → Bool} {m n : ℕ}
    (h : (∃ row ∈ ordered.drop m, p row) → n ≤ (ordered.take m).countP p) :
    IsFirst before (rows.filter (p ·)) n (((ordered.take m).filter p).take n) := by
  have hfilter : (↑(ordered.filter p) : Multiset α) = rows.filter (p ·) := by
    rw [← hrows, Multiset.filter_coe]
    simp
  refine ⟨ordered.filter p, hfilter, hordered.filter p, ?_⟩
  -- what is kept is a beginning of what passes
  have hprefix : ((ordered.take m).filter p).take n <+: ordered.filter p :=
    (List.take_prefix n _).trans ((List.take_prefix m ordered).filter p)
  rw [List.prefix_iff_eq_take.mp hprefix, (length_take_filter_iff ordered p m n).mpr h,
    List.take_eq_take_iff, min_assoc, min_self]

end First

end Relations
