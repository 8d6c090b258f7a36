/-
Grouping keyed values.

`grouped` lists the values of each key, the keys in the order of their first
values: what a dict of lists holds after `setdefault(key, []).append(value)`.

* `foldl_setdefault` — the loop over the pairs builds it;
* `perm_grouped` — the groups together are the values;
* `filter_grouped` — those of one key in their order.
-/
import Topogdb.Lib.KeyedMerge
import Topogdb.Lib.Python

namespace Grouping

open KeyedMerge Python

section Groups

variable {κ α : Type} [DecidableEq κ]

/-- The values of each key. -/
def grouped (xs : List (κ × α)) : List (κ × List α) := (firstKeys xs).map fun k => (k, ofKey k xs)

/-- The values of the other keys do not count. -/
theorem ofKey_filter_ne {k k' : κ} (h : k' ≠ k) (xs : List (κ × α)) :
    ofKey k' (xs.filter fun x => x.1 ≠ k) = ofKey k' xs := by
  rw [ofKey, ofKey, List.filter_filter]
  refine congrArg _ (List.filter_congr fun x _ => ?_)
  by_cases hx : x.1 = k'
  · simp [hx, h]
  · simp [hx]

/-- The values of all keys are the values. -/
theorem perm_flatMap_ofKey {keys : List κ} (hnodup : keys.Nodup) (xs : List (κ × α))
    (hkeys : ∀ x ∈ xs, x.1 ∈ keys) : (keys.flatMap fun k => ofKey k xs).Perm (xs.map Prod.snd) := by
  induction keys generalizing xs with
  | nil =>
    obtain rfl : xs = [] := List.eq_nil_iff_forall_not_mem.mpr fun x hx =>
      List.not_mem_nil (hkeys x hx)
    exact List.Perm.nil
  | cons k keys ih =>
    rw [List.nodup_cons] at hnodup
    have hrest : (keys.flatMap fun k' => ofKey k' xs).Perm
        ((xs.filter fun x => x.1 ≠ k).map Prod.snd) := by
      have hothers : ∀ x ∈ xs.filter (fun x => x.1 ≠ k), x.1 ∈ keys := by
        intro x hx
        obtain ⟨hx, hne⟩ := List.mem_filter.mp hx
        exact (List.mem_cons.mp (hkeys x hx)).resolve_left (of_decide_eq_true hne)
      have hsame : (keys.flatMap fun k' => ofKey k' xs) =
          keys.flatMap fun k' => ofKey k' (xs.filter fun x => x.1 ≠ k) := by
        refine List.flatMap_congr fun k' hk' => (ofKey_filter_ne ?_ xs).symm
        rintro rfl
        exact hnodup.1 hk'
      rw [hsame]
      exact ih hnodup.2 _ hothers
    rw [List.flatMap_cons]
    refine (hrest.append_left _).trans ?_
    rw [ofKey, ← List.map_append]
    simp only [ne_eq, decide_not]
    exact (List.filter_append_perm _ xs).map _

/-- **The groups together are the values.** -/
theorem perm_grouped (xs : List (κ × α)) :
    ((grouped xs).flatMap Prod.snd).Perm (xs.map Prod.snd) := by
  rw [grouped, List.flatMap_map]
  exact perm_flatMap_ofKey (nodup_firstKeys xs) xs fun x hx =>
    mem_firstKeys.mpr (List.mem_map_of_mem hx)

/-- Where a value tells its key, the values of one key stand in their order. -/
theorem filter_flatMap_ofKey {key : α → κ} {keys : List κ} (hnodup : keys.Nodup)
    {xs : List (κ × α)} (hkey : ∀ x ∈ xs, key x.2 = x.1) (k : κ) :
    (keys.flatMap fun k' => ofKey k' xs).filter (fun a => key a = k) =
      if k ∈ keys then ofKey k xs else [] := by
  have hvalue : ∀ k', ∀ a ∈ ofKey k' xs, key a = k' := fun k' a ha => hkey (k', a) (mem_ofKey.mp ha)
  have hself : ∀ k', (ofKey k' xs).filter (fun a => key a = k) =
      if k' = k then ofKey k xs else [] := by
    intro k'
    split
    · next hk =>
      subst hk
      exact List.filter_eq_self.mpr fun a ha => decide_eq_true (hvalue k' a ha)
    · next hk =>
      refine List.filter_eq_nil_iff.mpr fun a ha => ?_
      rw [hvalue k' a ha]
      simpa using hk
  rw [List.filter_flatMap]
  simp only [hself]
  induction keys with
  | nil => rfl
  | cons k' keys ih =>
    rw [List.nodup_cons] at hnodup
    rw [List.flatMap_cons, ih hnodup.2]
    by_cases hk : k' = k
    · subst hk
      simp [hnodup.1]
    · simp [hk, Ne.symm hk]

/-- **Those of one key stand in their order.** -/
theorem filter_grouped {key : α → κ} {xs : List (κ × α)} (hkey : ∀ x ∈ xs, key x.2 = x.1) (k : κ) :
    ((grouped xs).flatMap Prod.snd).filter (fun a => key a = k) = ofKey k xs := by
  rw [grouped, List.flatMap_map, filter_flatMap_ofKey (nodup_firstKeys xs) hkey]
  split
  · rfl
  · next hk => exact (ofKey_eq_nil (mt mem_firstKeys.mpr hk)).symm

end Groups

/-! ### The dict -/

section Dict

variable {α : Type} {xs : List (String × α)}

theorem lookup_grouped (k : String) :
    (grouped xs).lookup k = if k ∈ xs.map Prod.fst then some (ofKey k xs) else none := by
  have hkeys : (grouped xs).map Prod.fst = firstKeys xs := by
    rw [grouped, List.map_map]
    exact List.map_id _
  split
  · next hk =>
    refine lookup_of_mem (hkeys ▸ nodup_firstKeys xs) ?_
    exact List.mem_map.mpr ⟨k, mem_firstKeys.mpr hk, rfl⟩
  · next hk =>
    rw [← Option.not_isSome_iff_eq_none, lookup_isSome_iff, hkeys]
    exact mt mem_firstKeys.mp hk

/-- `groups.setdefault(key, []).append(value)`. -/
def setdefaultAppend (groups : List (String × List α)) (x : String × α) : List (String × List α) :=
  dictSet groups x.1 ((groups.lookup x.1).getD [] ++ [x.2])

theorem setdefaultAppend_grouped (x : String × α) :
    setdefaultAppend (grouped xs) x = grouped (xs ++ [x]) := by
  have hothers : ∀ k ∈ firstKeys xs, (if k = x.1 then (x.1, ofKey x.1 xs ++ [x.2]) else
      (k, ofKey k xs)) = (k, ofKey k (xs ++ [x])) := by
    intro k _
    rw [ofKey_append, ofKey_singleton]
    by_cases hk : x.1 = k
    · subst hk
      simp
    · simp [hk, Ne.symm hk]
  rw [setdefaultAppend, dictSet, lookup_grouped, grouped, grouped, firstKeys_concat]
  by_cases hx : x.1 ∈ xs.map Prod.fst
  · rw [if_pos hx, if_pos hx, Option.isSome_some, if_pos rfl, Option.getD_some, List.map_map]
    exact List.map_congr_left hothers
  · have hfirst : x.1 ∉ firstKeys xs := mt mem_firstKeys.mp hx
    rw [if_neg hx, if_neg hx, Option.isSome_none, if_neg Bool.false_ne_true, Option.getD_none,
      List.nil_append, List.map_append]
    refine congrArg₂ _ (List.map_congr_left fun k hk => ?_) ?_
    · rw [← hothers k hk, if_neg]
      rintro rfl
      exact hfirst hk
    · rw [List.map_singleton, ofKey_append, ofKey_eq_nil hx, ofKey_singleton, if_pos rfl]
      rfl

/-- **The loop over the pairs builds the groups.** -/
theorem foldl_setdefault (xs : List (String × α)) : xs.foldl setdefaultAppend [] = grouped xs := by
  induction xs using List.reverseRecOn with
  | nil => rfl
  | append_singleton xs x ih =>
    rw [List.foldl_append, ih]
    exact setdefaultAppend_grouped x

end Dict

end Grouping
