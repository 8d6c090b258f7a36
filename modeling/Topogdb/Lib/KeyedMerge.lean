/-
Collecting keyed values, where the values of one key are merged.

`collect merge` goes through a list of pairs and keeps one value a key; a later
value is merged into the one that is kept, and a merge that fails ends it.

* `collect_isSome_iff` — for a lawful `merge` it goes through exactly when any
  two values of one key can be merged;
* `collect_flatten` — lists without a common key can be collected one by one;
* `collect_flatten_iff` — and lists with one cannot, unless it fails;
* `keys_collect`, `flatMap_collect`, `first_collect`, `single_collect` — what is kept
  of a key, from all its values;
* `gather_insert_isSome_iff` — where refused values are left out, the first value of
  a key decides which others are.
-/
import Mathlib.Data.List.Nodup
import Mathlib.Data.List.Dedup
import Mathlib.Data.List.Perm.Subperm
import Mathlib.Data.Finset.Card
import Mathlib.Data.Finset.Dedup

namespace KeyedMerge

variable {κ α β : Type} [DecidableEq κ] (merge : α → α → Option α)

/-- Put one value among those that are kept. -/
def insert : List (κ × α) → κ × α → Option (List (κ × α))
  | [], x => some [x]
  | e :: kept, x =>
    if e.1 = x.1 then (merge e.2 x.2).map fun merged => (e.1, merged) :: kept
    else (insert kept x).map (e :: ·)

/-- Put the values of a list among those that are kept. -/
def collect (kept xs : List (κ × α)) : Option (List (κ × α)) := xs.foldlM (insert merge) kept

/-- Merging is decided by a partial equivalence of the good values, and what is
merged stands where its parts stood. -/
structure Lawful (Good : α → Prop) : Prop where
  symm : ∀ {a b}, Good a → Good b → (merge a b).isSome → (merge b a).isSome
  trans : ∀ {a b c}, Good a → Good b → Good c → (merge a b).isSome → (merge b c).isSome →
    (merge a c).isSome
  good : ∀ {a b c}, Good a → Good b → merge a b = some c → Good c
  like : ∀ {a b c}, Good a → Good b → merge a b = some c → (merge c a).isSome

variable {merge} {kept kept' xs ys : List (κ × α)} {x : κ × α}

/-! ### One value -/

theorem keys_insert (h : insert merge kept x = some kept') :
    kept'.map Prod.fst = if x.1 ∈ kept.map Prod.fst then kept.map Prod.fst
      else kept.map Prod.fst ++ [x.1] := by
  induction kept generalizing kept' with
  | nil =>
    cases h
    rfl
  | cons e kept ih =>
    rw [insert] at h
    split at h
    · next he =>
      obtain ⟨merged, -, rfl⟩ := Option.map_eq_some_iff.mp h
      simp [he]
    · next he =>
      obtain ⟨rest, hrest, rfl⟩ := Option.map_eq_some_iff.mp h
      have hne : x.1 ≠ e.1 := fun h => he h.symm
      have hmem : x.1 ∈ (e :: kept).map Prod.fst ↔ x.1 ∈ kept.map Prod.fst := by
        rw [List.map_cons, List.mem_cons]
        exact or_iff_right hne
      rw [List.map_cons, ih hrest, if_congr hmem rfl rfl]
      split <;> rfl

theorem mem_keys_insert (h : insert merge kept x = some kept') (k : κ) :
    k ∈ kept'.map Prod.fst ↔ k ∈ kept.map Prod.fst ∨ k = x.1 := by
  rw [keys_insert h]
  split
  · next hx =>
    constructor
    · exact Or.inl
    · rintro (hk | rfl)
      · exact hk
      · exact hx
  · rw [List.mem_append, List.mem_singleton]

theorem nodup_insert (hk : (kept.map Prod.fst).Nodup) (h : insert merge kept x = some kept') :
    (kept'.map Prod.fst).Nodup := by
  rw [keys_insert h]
  split
  · exact hk
  · next hx =>
    refine List.Nodup.append hk (List.nodup_singleton _) ?_
    rwa [List.disjoint_singleton]

/-- A value of a new key goes to the end. -/
theorem insert_append (base : List (κ × α)) (h : x.1 ∉ base.map Prod.fst) :
    insert merge (base ++ kept) x = (insert merge kept x).map (base ++ ·) := by
  induction base with
  | nil => simp
  | cons e base ih =>
    rw [List.map_cons, List.mem_cons, not_or] at h
    rw [List.cons_append, insert, if_neg (Ne.symm h.1), ih h.2, Option.map_map]
    rfl

/-- Only the value of its own key can refuse it. -/
theorem insert_isSome_iff (hk : (kept.map Prod.fst).Nodup) :
    (insert merge kept x).isSome ↔ ∀ v, (x.1, v) ∈ kept → (merge v x.2).isSome := by
  induction kept with
  | nil => simp [insert]
  | cons e kept ih =>
    rw [List.map_cons, List.nodup_cons] at hk
    rw [insert]
    split
    · next he =>
      rw [Option.isSome_map]
      constructor
      · intro h v hv
        rcases List.mem_cons.mp hv with rfl | hv
        · exact h
        · exact absurd (List.mem_map_of_mem hv) (he ▸ hk.1)
      · intro h
        exact h e.2 (he ▸ List.mem_cons_self)
    · next he =>
      rw [Option.isSome_map, ih hk.2]
      constructor
      · intro h v hv
        rcases List.mem_cons.mp hv with rfl | hv
        · exact absurd rfl he
        · exact h v hv
      · intro h v hv
        exact h v (List.mem_cons_of_mem e hv)

/-- What is kept afterwards: the value itself, a merge with it, or a value of
another key. -/
theorem mem_insert (hk : (kept.map Prod.fst).Nodup) (h : insert merge kept x = some kept')
    {e : κ × α} (he : e ∈ kept') :
    (e = x ∧ x.1 ∉ kept.map Prod.fst) ∨
      (∃ v, (x.1, v) ∈ kept ∧ e.1 = x.1 ∧ merge v x.2 = some e.2) ∨ (e ∈ kept ∧ e.1 ≠ x.1) := by
  induction kept generalizing kept' with
  | nil =>
    cases h
    exact Or.inl ⟨List.mem_singleton.mp he, List.not_mem_nil⟩
  | cons d kept ih =>
    rw [List.map_cons, List.nodup_cons] at hk
    rw [insert] at h
    split at h
    · next hd =>
      obtain ⟨merged, hmerged, rfl⟩ := Option.map_eq_some_iff.mp h
      rcases List.mem_cons.mp he with rfl | he
      · exact Or.inr (Or.inl ⟨d.2, hd ▸ List.mem_cons_self, hd, hmerged⟩)
      · have hne : e.1 ≠ x.1 := fun heq => hk.1 (hd ▸ heq ▸ List.mem_map_of_mem he)
        exact Or.inr (Or.inr ⟨List.mem_cons_of_mem d he, hne⟩)
    · next hd =>
      obtain ⟨rest, hrest, rfl⟩ := Option.map_eq_some_iff.mp h
      rcases List.mem_cons.mp he with rfl | he
      · exact Or.inr (Or.inr ⟨List.mem_cons_self, hd⟩)
      · rcases ih hk.2 hrest he with ⟨rfl, hnew⟩ | ⟨v, hv, hkey, hmerge⟩ | ⟨hmem, hne⟩
        · refine Or.inl ⟨rfl, ?_⟩
          rw [List.map_cons, List.mem_cons, not_or]
          exact ⟨fun h => hd h.symm, hnew⟩
        · exact Or.inr (Or.inl ⟨v, List.mem_cons_of_mem d hv, hkey, hmerge⟩)
        · exact Or.inr (Or.inr ⟨List.mem_cons_of_mem d hmem, hne⟩)

/-- The values of the other keys stay. -/
theorem mem_insert_of_ne (h : insert merge kept x = some kept') {e : κ × α} (he : e ∈ kept)
    (hne : e.1 ≠ x.1) : e ∈ kept' := by
  induction kept generalizing kept' with
  | nil => exact absurd he List.not_mem_nil
  | cons d kept ih =>
    rw [insert] at h
    split at h
    · next hd =>
      obtain ⟨merged, -, rfl⟩ := Option.map_eq_some_iff.mp h
      rcases List.mem_cons.mp he with rfl | he
      · exact absurd hd hne
      · exact List.mem_cons_of_mem _ he
    · obtain ⟨rest, hrest, rfl⟩ := Option.map_eq_some_iff.mp h
      rcases List.mem_cons.mp he with rfl | he
      · exact List.mem_cons_self
      · exact List.mem_cons_of_mem _ (ih hrest he)

/-! ### A list of values -/

theorem collect_cons : collect merge kept (x :: xs) = (insert merge kept x).bind (collect merge · xs) :=
  List.foldlM_cons

theorem collect_append :
    collect merge kept (xs ++ ys) = (collect merge kept xs).bind (collect merge · ys) :=
  List.foldlM_append

theorem mem_keys_collect (h : collect merge kept xs = some kept') (k : κ) :
    k ∈ kept'.map Prod.fst ↔ k ∈ kept.map Prod.fst ∨ k ∈ xs.map Prod.fst := by
  induction xs generalizing kept with
  | nil =>
    cases h
    simp
  | cons x xs ih =>
    rw [collect_cons] at h
    obtain ⟨kept₁, hx, h⟩ := Option.bind_eq_some_iff.mp h
    rw [ih h, mem_keys_insert hx, List.map_cons, List.mem_cons, or_assoc]

theorem nodup_collect (hk : (kept.map Prod.fst).Nodup) (h : collect merge kept xs = some kept') :
    (kept'.map Prod.fst).Nodup := by
  induction xs generalizing kept with
  | nil =>
    cases h
    exact hk
  | cons x xs ih =>
    rw [collect_cons] at h
    obtain ⟨kept₁, hx, h⟩ := Option.bind_eq_some_iff.mp h
    exact ih (nodup_insert hk hx) h

theorem nodup_collect_nil (h : collect merge [] xs = some kept) : (kept.map Prod.fst).Nodup := by
  have hnil : (([] : List (κ × α)).map Prod.fst).Nodup := List.nodup_nil
  exact nodup_collect hnil h

/-- Values whose keys are new are collected as if nothing were kept. -/
theorem collect_base (base : List (κ × α)) (h : ∀ x ∈ xs, x.1 ∉ base.map Prod.fst) :
    collect merge (base ++ kept) xs = (collect merge kept xs).map (base ++ ·) := by
  induction xs generalizing kept with
  | nil => rfl
  | cons x xs ih =>
    rw [collect_cons, collect_cons, insert_append base (h x List.mem_cons_self)]
    cases insert merge kept x with
    | none => rfl
    | some kept₁ =>
      show collect merge (base ++ kept₁) xs = (collect merge kept₁ xs).map (base ++ ·)
      exact ih fun y hy => h y (List.mem_cons_of_mem x hy)

/-! ### When it goes through -/

section Lawful

variable {Good : α → Prop}

/-- What can be merged with one of two values that can be merged can be merged
with the other. -/
theorem Lawful.congr (hm : Lawful merge Good) {a b y : α} (ha : Good a) (hb : Good b) (hy : Good y)
    (hab : (merge a b).isSome) : (merge a y).isSome ↔ (merge b y).isSome :=
  ⟨hm.trans hb ha hy (hm.symm ha hb hab), hm.trans ha hb hy hab⟩

variable (merge Good) in
/-- Every value that was collected went into a value that is kept: the two can be
merged with the same values. -/
structure Kept (xs kept : List (κ × α)) : Prop where
  nodup : (kept.map Prod.fst).Nodup
  keys : ∀ k, k ∈ kept.map Prod.fst ↔ k ∈ xs.map Prod.fst
  good : ∀ e ∈ kept, Good e.2
  like : ∀ x ∈ xs, ∃ v, (x.1, v) ∈ kept ∧
    ∀ y, Good y → ((merge v y).isSome ↔ (merge x.2 y).isSome)

omit [DecidableEq κ] in
theorem kept_nil : Kept merge Good ([] : List (κ × α)) [] where
  nodup := List.nodup_nil
  keys _ := Iff.rfl
  good _ h := absurd h List.not_mem_nil
  like _ h := absurd h List.not_mem_nil

omit [DecidableEq κ] in
/-- Two entries of one key are the same entry. -/
theorem eq_of_mem_of_nodup (hk : (kept.map Prod.fst).Nodup) {k : κ} {u v : α} (hu : (k, u) ∈ kept)
    (hv : (k, v) ∈ kept) : u = v :=
  congrArg Prod.snd (List.inj_on_of_nodup_map hk hu hv rfl)

theorem Kept.insert (hm : Lawful merge Good) (hinv : Kept merge Good xs kept) (hx : Good x.2)
    (h : KeyedMerge.insert merge kept x = some kept') : Kept merge Good (xs ++ [x]) kept' where
  nodup := nodup_insert hinv.nodup h
  keys k := by
    rw [mem_keys_insert h, hinv.keys, List.map_append, List.mem_append, List.map_singleton,
      List.mem_singleton]
  good e he := by
    rcases mem_insert hinv.nodup h he with ⟨rfl, -⟩ | ⟨v, hv, -, hmerge⟩ | ⟨hmem, -⟩
    · exact hx
    · exact hm.good (hinv.good _ hv) hx hmerge
    · exact hinv.good e hmem
  like z hz := by
    -- what is kept for the key of `x`: the value itself, or a merge with it
    have hkey : x.1 ∈ kept'.map Prod.fst := (mem_keys_insert h x.1).mpr (Or.inr rfl)
    obtain ⟨⟨k, w⟩, he, rfl⟩ := List.mem_map.mp hkey
    have hw : (w = x.2 ∧ x.1 ∉ kept.map Prod.fst) ∨
        ∃ v, (x.1, v) ∈ kept ∧ merge v x.2 = some w := by
      rcases mem_insert hinv.nodup h he with ⟨heq, hnew⟩ | ⟨v, hv, -, hmerge⟩ | ⟨-, hne⟩
      · exact Or.inl ⟨congrArg Prod.snd heq, hnew⟩
      · exact Or.inr ⟨v, hv, hmerge⟩
      · exact absurd rfl hne
    rcases List.mem_append.mp hz with hz | hz
    · obtain ⟨v, hv, hlike⟩ := hinv.like z hz
      by_cases hzx : z.1 = x.1
      · rw [hzx] at hv ⊢
        rcases hw with ⟨-, hnew⟩ | ⟨u, hu, hmerge⟩
        · exact absurd (List.mem_map.mpr ⟨(x.1, v), hv, rfl⟩) hnew
        · cases eq_of_mem_of_nodup hinv.nodup hu hv
          have hgood := hinv.good _ hu
          refine ⟨w, he, fun y hy => ?_⟩
          rw [hm.congr (hm.good hgood hx hmerge) hgood hy (hm.like hgood hx hmerge)]
          exact hlike y hy
      · exact ⟨v, mem_insert_of_ne h hv hzx, hlike⟩
    · rw [List.mem_singleton.mp hz]
      refine ⟨w, he, fun y hy => ?_⟩
      rcases hw with ⟨rfl, -⟩ | ⟨u, hu, hmerge⟩
      · exact Iff.rfl
      · have hgood := hinv.good _ hu
        rw [hm.congr (hm.good hgood hx hmerge) hgood hy (hm.like hgood hx hmerge)]
        exact hm.congr hgood hx hy (Option.isSome_of_mem hmerge)

theorem Kept.insert_isSome_iff (hinv : Kept merge Good xs kept) (hx : Good x.2) :
    (KeyedMerge.insert merge kept x).isSome ↔ ∀ z ∈ xs, z.1 = x.1 → (merge z.2 x.2).isSome := by
  rw [KeyedMerge.insert_isSome_iff hinv.nodup]
  constructor
  · intro h z hz hzx
    obtain ⟨v, hv, hlike⟩ := hinv.like z hz
    exact (hlike x.2 hx).mp (h v (hzx ▸ hv))
  · intro h v hv
    have hkey : x.1 ∈ kept.map Prod.fst := List.mem_map.mpr ⟨(x.1, v), hv, rfl⟩
    obtain ⟨z, hz, hzx⟩ := List.mem_map.mp ((hinv.keys x.1).mp hkey)
    obtain ⟨u, hu, hlike⟩ := hinv.like z hz
    cases eq_of_mem_of_nodup hinv.nodup (hzx ▸ hu) hv
    exact (hlike x.2 hx).mpr (h z hz hzx)

/-- Collecting goes through exactly when any two values of one key can be merged. -/
theorem collect_isSome_iff (hm : Lawful merge Good) (hgood : ∀ x ∈ xs, Good x.2) :
    (collect merge [] xs).isSome ↔ xs.Pairwise fun x y => x.1 = y.1 → (merge x.2 y.2).isSome := by
  suffices h : ((collect merge [] xs).isSome ↔
      xs.Pairwise fun x y => x.1 = y.1 → (merge x.2 y.2).isSome) ∧
      ∀ kept, collect merge [] xs = some kept → Kept merge Good xs kept from h.1
  induction xs using List.reverseRecOn with
  | nil =>
    refine ⟨by simp [collect], fun kept h => ?_⟩
    cases h
    exact kept_nil
  | append_singleton xs x ih =>
    obtain ⟨hiff, hkept⟩ := ih fun z hz => hgood z (List.mem_append_left _ hz)
    have hx : Good x.2 := hgood x (List.mem_append_right _ (List.mem_singleton_self x))
    have hone : ∀ kept, collect merge kept [x] = KeyedMerge.insert merge kept x := by
      intro kept
      rw [collect_cons]
      cases KeyedMerge.insert merge kept x <;> rfl
    rw [collect_append, List.pairwise_append]
    cases hc : collect merge [] xs with
    | none =>
      rw [hc] at hiff
      refine ⟨?_, by rintro kept ⟨⟩⟩
      constructor
      · intro h
        cases h
      · intro h
        exact absurd (hiff.mpr h.1) (by simp)
    | some kept =>
      have hinv := hkept kept hc
      rw [hc] at hiff
      rw [Option.bind_some, hone]
      refine ⟨?_, fun kept' h => hinv.insert hm hx h⟩
      rw [hinv.insert_isSome_iff hx]
      have hpairs := hiff.mp rfl
      simp only [List.pairwise_singleton, List.mem_singleton, forall_eq, true_and, hpairs]

/-- What goes through as a whole goes through in parts. -/
theorem collect_isSome_of_sublist (hm : Lawful merge Good) (hgood : ∀ x ∈ xs, Good x.2)
    (hsub : ys.Sublist xs) (h : (collect merge [] xs).isSome) : (collect merge [] ys).isSome := by
  rw [collect_isSome_iff hm fun y hy => hgood y (hsub.subset hy)]
  exact ((collect_isSome_iff hm hgood).mp h).sublist hsub

end Lawful

/-! ### Several lists -/

/-- The lists have no key in common. -/
def Disjoint (xs ys : List (κ × α)) : Prop := ∀ x ∈ xs, ∀ y ∈ ys, x.1 ≠ y.1

/-- Lists without a common key are collected one by one. -/
theorem collect_flatten {xss : List (List (κ × α))} (h : xss.Pairwise Disjoint) :
    collect merge [] xss.flatten = (xss.mapM (collect merge [])).map List.flatten := by
  induction xss with
  | nil => rfl
  | cons xs xss ih =>
    obtain ⟨hxs, hxss⟩ := List.pairwise_cons.mp h
    rw [List.flatten_cons, collect_append, List.mapM_cons]
    cases hc : collect merge [] xs with
    | none => rfl
    | some kept =>
      have hnew : ∀ y ∈ xss.flatten, y.1 ∉ kept.map Prod.fst := by
        intro y hy hmem
        obtain ⟨ys, hys, hy⟩ := List.mem_flatten.mp hy
        rcases (mem_keys_collect hc y.1).mp hmem with hnil | hmem
        · exact List.not_mem_nil hnil
        · obtain ⟨x, hx, hxy⟩ := List.mem_map.mp hmem
          exact hxs ys hys x hx y hy hxy
      rw [Option.bind_some, ← List.append_nil kept, collect_base kept hnew, ih hxss]
      cases xss.mapM (collect merge []) with
      | none => rfl
      | some keptss => simp

/-- What is kept of lists that are collected one by one has their keys, and a key
twice where two lists have it. -/
theorem keys_parts {xss keptss : List (List (κ × α))}
    (h : xss.mapM (collect merge []) = some keptss) :
    (∀ k, k ∈ keptss.flatten.map Prod.fst ↔ k ∈ xss.flatten.map Prod.fst) ∧
      ((keptss.flatten.map Prod.fst).Nodup → xss.Pairwise Disjoint) := by
  induction xss generalizing keptss with
  | nil =>
    cases h
    exact ⟨fun _ => Iff.rfl, fun _ => List.Pairwise.nil⟩
  | cons xs xss ih =>
    rw [List.mapM_cons] at h
    obtain ⟨kept, hkept, h⟩ := Option.bind_eq_some_iff.mp h
    obtain ⟨rest, hrest, h⟩ := Option.bind_eq_some_iff.mp h
    cases h
    obtain ⟨hkeys, hdisjoint⟩ := ih hrest
    have hkeys' : ∀ k, k ∈ kept.map Prod.fst ↔ k ∈ xs.map Prod.fst := by
      intro k
      rw [mem_keys_collect hkept]
      simp
    constructor
    · intro k
      rw [List.flatten_cons, List.flatten_cons, List.map_append, List.map_append, List.mem_append,
        List.mem_append, hkeys', hkeys]
    · intro hnodup
      rw [List.flatten_cons, List.map_append, List.nodup_append'] at hnodup
      obtain ⟨-, hnodup, hdisj⟩ := hnodup
      refine List.pairwise_cons.mpr ⟨fun ys hys x hx y hy hxy => ?_, hdisjoint hnodup⟩
      refine hdisj ((hkeys' x.1).mpr (List.mem_map_of_mem hx)) ((hkeys x.1).mpr ?_)
      rw [hxy]
      exact List.mem_map_of_mem (List.mem_flatten_of_mem hys hy)

/-- Collected together, lists with a common key keep fewer values than collected
one by one. -/
theorem disjoint_of_length {xss keptss : List (List (κ × α))}
    (hparts : xss.mapM (collect merge []) = some keptss)
    (hwhole : collect merge [] xss.flatten = some kept)
    (hlen : keptss.flatten.length = kept.length) : xss.Pairwise Disjoint := by
  obtain ⟨hkeys, hdisjoint⟩ := keys_parts hparts
  have hnodup : (kept.map Prod.fst).Nodup := nodup_collect_nil hwhole
  have hsub : kept.map Prod.fst ⊆ keptss.flatten.map Prod.fst := by
    intro k hk
    refine (hkeys k).mpr ?_
    exact ((mem_keys_collect hwhole k).mp hk).resolve_left List.not_mem_nil
  have hperm : (kept.map Prod.fst).Perm (keptss.flatten.map Prod.fst) := by
    refine (List.subperm_of_subset hnodup hsub).perm_of_length_le ?_
    rw [List.length_map, List.length_map, hlen]
  exact hdisjoint (hperm.nodup hnodup)

/-- Collecting several lists together keeps what collecting them one by one
keeps if and only if no two of them have a common key. -/
theorem collect_flatten_iff {xss keptss : List (List (κ × α))}
    (hparts : xss.mapM (collect merge []) = some keptss) :
    (∃ kept, collect merge [] xss.flatten = some kept ∧
      kept.map Prod.snd = keptss.flatten.map Prod.snd) ↔ xss.Pairwise Disjoint := by
  constructor
  · rintro ⟨kept, hwhole, hvalues⟩
    refine disjoint_of_length hparts hwhole ?_
    have hlen := congrArg List.length hvalues
    rw [List.length_map, List.length_map] at hlen
    exact hlen.symm
  · intro h
    rw [collect_flatten h, hparts]
    exact ⟨_, rfl, rfl⟩

/-! ### What is kept -/

/-- The keys in the order of their first values. -/
def firstKeys (xs : List (κ × α)) : List κ := (xs.map Prod.fst).eraseDups

/-- The values of a key. -/
def ofKey (k : κ) (xs : List (κ × α)) : List α := (xs.filter fun x => x.1 = k).map Prod.snd

theorem ofKey_append (k : κ) (xs ys : List (κ × α)) : ofKey k (xs ++ ys) = ofKey k xs ++ ofKey k ys := by
  rw [ofKey, List.filter_append, List.map_append]
  rfl

theorem ofKey_singleton (k : κ) (x : κ × α) : ofKey k [x] = if x.1 = k then [x.2] else [] := by
  by_cases hx : x.1 = k <;> simp [ofKey, hx]

theorem ofKey_eq_nil {k : κ} (h : k ∉ xs.map Prod.fst) : ofKey k xs = [] := by
  rw [ofKey, List.map_eq_nil_iff, List.filter_eq_nil_iff]
  intro x hx hkey
  exact h (List.mem_map.mpr ⟨x, hx, of_decide_eq_true hkey⟩)

theorem firstKeys_concat (xs : List (κ × α)) (x : κ × α) :
    firstKeys (xs ++ [x]) = if x.1 ∈ xs.map Prod.fst then firstKeys xs else firstKeys xs ++ [x.1] := by
  rw [firstKeys, List.map_append, List.map_singleton, List.eraseDups_append]
  by_cases hx : x.1 ∈ xs.map Prod.fst
  · rw [if_pos hx, firstKeys]
    simp [List.removeAll, hx]
  · rw [if_neg hx, firstKeys]
    simp [List.removeAll, hx, List.eraseDups_cons]

theorem mem_firstKeys {k : κ} : k ∈ firstKeys xs ↔ k ∈ xs.map Prod.fst := by
  rw [firstKeys, List.mem_eraseDups]

theorem nodup_firstKeys (xs : List (κ × α)) : (firstKeys xs).Nodup := by
  induction xs using List.reverseRecOn with
  | nil => exact List.nodup_nil
  | append_singleton xs x ih =>
    rw [firstKeys_concat]
    split
    · exact ih
    · next hx =>
      refine List.Nodup.append ih (List.nodup_singleton _) ?_
      rw [List.disjoint_singleton]
      exact mt mem_firstKeys.mp hx

/-- The keys that are kept are those of the values. -/
theorem mem_keys_collect_nil (h : collect merge [] xs = some kept) (k : κ) :
    k ∈ kept.map Prod.fst ↔ k ∈ xs.map Prod.fst := by
  rw [mem_keys_collect h]
  simp

/-- One value after the others. -/
theorem collect_concat : collect merge kept (xs ++ [x]) =
    (collect merge kept xs).bind fun kept => insert merge kept x := by
  rw [collect_append]
  refine congrArg _ (funext fun kept => ?_)
  rw [collect_cons]
  cases insert merge kept x <;> rfl

/-- One value is kept for each key, in the order of their first values. -/
theorem keys_collect (h : collect merge [] xs = some kept) : kept.map Prod.fst = firstKeys xs := by
  induction xs using List.reverseRecOn generalizing kept with
  | nil =>
    cases h
    rfl
  | append_singleton xs x ih =>
    rw [collect_concat] at h
    obtain ⟨kept₁, hkept₁, h⟩ := Option.bind_eq_some_iff.mp h
    rw [keys_insert h, firstKeys_concat, ih hkept₁]
    exact if_congr mem_firstKeys rfl rfl

/-- What merges put together is put together of all values of the key, in order. -/
theorem flatMap_collect {p : α → List β} (hp : ∀ a b c, merge a b = some c → p c = p a ++ p b)
    (h : collect merge [] xs = some kept) {e : κ × α} (he : e ∈ kept) :
    p e.2 = (ofKey e.1 xs).flatMap p := by
  induction xs using List.reverseRecOn generalizing kept e with
  | nil =>
    cases h
    exact absurd he List.not_mem_nil
  | append_singleton xs x ih =>
    rw [collect_concat] at h
    obtain ⟨kept₁, hkept₁, h⟩ := Option.bind_eq_some_iff.mp h
    rw [ofKey_append, ofKey_singleton, List.flatMap_append]
    rcases mem_insert (nodup_collect_nil hkept₁) h he with
      ⟨rfl, hnew⟩ | ⟨v, hv, hkey, hmerge⟩ | ⟨hmem, hne⟩
    · rw [ofKey_eq_nil (mt (mem_keys_collect_nil hkept₁ _).mpr hnew)]
      simp
    · rw [hp _ _ _ hmerge, ih hkept₁ hv, hkey]
      simp
    · rw [ih hkept₁ hmem, if_neg (Ne.symm hne)]
      simp

/-- What merges take from their first part is that of the first value of the key. -/
theorem first_collect {g : α → β} (hg : ∀ a b c, merge a b = some c → g c = g a)
    (h : collect merge [] xs = some kept) {e : κ × α} (he : e ∈ kept) :
    (ofKey e.1 xs).head?.map g = some (g e.2) := by
  induction xs using List.reverseRecOn generalizing kept e with
  | nil =>
    cases h
    exact absurd he List.not_mem_nil
  | append_singleton xs x ih =>
    rw [collect_concat] at h
    obtain ⟨kept₁, hkept₁, h⟩ := Option.bind_eq_some_iff.mp h
    rw [ofKey_append, List.head?_append]
    rcases mem_insert (nodup_collect_nil hkept₁) h he with
      ⟨rfl, hnew⟩ | ⟨v, hv, hkey, hmerge⟩ | ⟨hmem, hne⟩
    · rw [ofKey_eq_nil (mt (mem_keys_collect_nil hkept₁ _).mpr hnew), ofKey_singleton, if_pos rfl]
      rfl
    · have hfirst := ih hkept₁ hv
      obtain ⟨a, ha, hga⟩ := Option.map_eq_some_iff.mp hfirst
      rw [hkey, ha, hg _ _ _ hmerge]
      exact congrArg some hga
    · have hfirst := ih hkept₁ hmem
      obtain ⟨a, ha, hga⟩ := Option.map_eq_some_iff.mp hfirst
      rw [ha]
      exact congrArg some hga

/-- The only value of a key is kept as it is. -/
theorem single_collect (h : collect merge [] xs = some kept) {e : κ × α} (he : e ∈ kept) {v : α}
    (hone : ofKey e.1 xs = [v]) : e.2 = v := by
  induction xs using List.reverseRecOn generalizing kept e with
  | nil =>
    cases h
    exact absurd he List.not_mem_nil
  | append_singleton xs x ih =>
    rw [collect_concat] at h
    obtain ⟨kept₁, hkept₁, h⟩ := Option.bind_eq_some_iff.mp h
    rw [ofKey_append, ofKey_singleton] at hone
    rcases mem_insert (nodup_collect_nil hkept₁) h he with
      ⟨rfl, hnew⟩ | ⟨w, hw, hkey, -⟩ | ⟨hmem, hne⟩
    · rw [ofKey_eq_nil (mt (mem_keys_collect_nil hkept₁ _).mpr hnew), if_pos rfl] at hone
      exact List.singleton_inj.mp hone
    · -- it would be the second value
      have hfirst : ofKey x.1 xs ≠ [] := by
        intro hnil
        have hsome := first_collect (g := fun _ => ()) (fun _ _ _ _ => rfl) hkept₁ hw
        rw [hnil] at hsome
        cases hsome
      rw [hkey, if_pos rfl] at hone
      have hlen := congrArg List.length hone
      rw [List.length_append, List.length_singleton, List.length_singleton] at hlen
      exact absurd (List.length_eq_zero_iff.mp (by omega)) hfirst
    · rw [if_neg (Ne.symm hne), List.append_nil] at hone
      exact ih hkept₁ hmem hone

/-! ### Leaving out what cannot be merged -/

variable (merge) in
/-- Put the values of a list among those that are kept, but for those that are refused. -/
def gather (kept xs : List (κ × α)) : List (κ × α) :=
  xs.foldl (fun kept x => (insert merge kept x).getD kept) kept

theorem gather_concat : gather merge kept (xs ++ [x]) =
    (insert merge (gather merge kept xs) x).getD (gather merge kept xs) := by
  rw [gather, List.foldl_append]
  rfl

section Lawful

variable {Good : α → Prop}

theorem mem_ofKey {k : κ} {v : α} : v ∈ ofKey k xs ↔ (k, v) ∈ xs := by
  simp [ofKey]

/-- The first value of a key decides for all of them. -/
theorem Kept.insert_isSome_iff_head (hinv : Kept merge Good xs kept) (hx : Good x.2) :
    (KeyedMerge.insert merge kept x).isSome ↔ ∀ v ∈ (ofKey x.1 xs).head?, (merge v x.2).isSome := by
  rw [hinv.insert_isSome_iff hx]
  constructor
  · intro h v hv
    exact h (x.1, v) (mem_ofKey.mp (List.mem_of_mem_head? hv)) rfl
  · intro h z hz hzx
    have hz' : z.2 ∈ ofKey x.1 xs := mem_ofKey.mpr (hzx ▸ hz)
    obtain ⟨v, hv⟩ : ∃ v, (ofKey x.1 xs).head? = some v :=
      Option.isSome_iff_exists.mp (List.isSome_head?.mpr (List.ne_nil_of_mem hz'))
    -- the two went into one kept value
    obtain ⟨w, hw, hlike⟩ := hinv.like z hz
    obtain ⟨u, hu, hlike'⟩ := hinv.like (x.1, v) (mem_ofKey.mp (List.mem_of_mem_head? hv))
    cases eq_of_mem_of_nodup hinv.nodup (hzx ▸ hw) hu
    exact (hlike x.2 hx).mp ((hlike' x.2 hx).mpr (h v hv))

/-- What is kept stands for values among which are the first ones of all keys. -/
theorem gather_kept (hm : Lawful merge Good) (hgood : ∀ x ∈ xs, Good x.2) :
    ∃ ys, Kept merge Good ys (gather merge [] xs) ∧
      ∀ k, (ofKey k ys).head? = (ofKey k xs).head? := by
  induction xs using List.reverseRecOn with
  | nil => exact ⟨[], kept_nil, fun _ => rfl⟩
  | append_singleton xs x ih =>
    obtain ⟨ys, hkept, hheads⟩ := ih fun z hz => hgood z (List.mem_append_left _ hz)
    have hx : Good x.2 := hgood x (List.mem_append_right _ (List.mem_singleton_self x))
    rw [gather_concat]
    cases hinsert : insert merge (gather merge [] xs) x with
    | some kept =>
      refine ⟨ys ++ [x], hkept.insert hm hx hinsert, fun k => ?_⟩
      rw [ofKey_append, ofKey_append, List.head?_append, List.head?_append, hheads]
    | none =>
      refine ⟨ys, hkept, fun k => ?_⟩
      rw [ofKey_append, ofKey_singleton, List.head?_append, hheads]
      split
      · next hk =>
        -- only a value of its key refuses it
        subst hk
        have hrefused := mt (hkept.insert_isSome_iff_head hx).mpr (by simp [hinsert])
        push Not at hrefused
        obtain ⟨v, hv, -⟩ := hrefused
        rw [← hheads, Option.mem_def.mp hv]
        rfl
      · rw [List.head?_nil, Option.or_none]

theorem gather_insert_isSome_iff (hm : Lawful merge Good) (hgood : ∀ x ∈ xs, Good x.2)
    (hx : Good x.2) : (insert merge (gather merge [] xs) x).isSome ↔
      ∀ v ∈ (ofKey x.1 xs).head?, (merge v x.2).isSome := by
  obtain ⟨ys, hkept, hheads⟩ := gather_kept hm hgood
  rw [hkept.insert_isSome_iff_head hx, hheads]

end Lawful

/-! ### What a merge does not change -/

/-- A property of the keyed values that both parts of a merge have in common with
the result is that of the values collected. -/
theorem exists_collect_iff {f : κ × α → β}
    (hf : ∀ k a b c, merge a b = some c → f (k, c) = f (k, a) ∧ f (k, c) = f (k, b))
    (h : collect merge kept xs = some kept') (r : β) :
    (∃ e ∈ kept', f e = r) ↔ (∃ e ∈ kept, f e = r) ∨ ∃ x ∈ xs, f x = r := by
  have hinsert : ∀ {kept kept' : List (κ × α)} {x : κ × α}, insert merge kept x = some kept' →
      ((∃ e ∈ kept', f e = r) ↔ (∃ e ∈ kept, f e = r) ∨ f x = r) := by
    intro kept
    induction kept with
    | nil =>
      rintro kept' x ⟨⟩
      simp
    | cons e kept ih =>
      intro kept' x h
      rw [insert] at h
      split at h
      · next he =>
        obtain ⟨merged, hmerged, rfl⟩ := Option.map_eq_some_iff.mp h
        obtain ⟨hleft, hright⟩ := hf e.1 _ _ _ hmerged
        have hx : f (e.1, merged) = f x := by
          rw [hright, he]
        simp only [List.exists_mem_cons_iff]
        rw [← hx, hleft]
        by_cases hr : f e = r <;> simp [hr]
      · obtain ⟨rest, hrest, rfl⟩ := Option.map_eq_some_iff.mp h
        simp only [List.exists_mem_cons_iff]
        rw [ih hrest, or_assoc]
  induction xs generalizing kept with
  | nil =>
    cases h
    simp
  | cons x xs ih =>
    rw [collect_cons] at h
    obtain ⟨kept₁, hx, h⟩ := Option.bind_eq_some_iff.mp h
    refine (ih h).trans ?_
    rw [hinsert hx, List.exists_mem_cons_iff, or_assoc]

/-- A property that merges keep is one of a single kept value exactly when it tells
the key of every collected value. -/
theorem nodup_collect_iff {f : α → β} (hf : ∀ a b c, merge a b = some c → f c = f a ∧ f c = f b)
    (h : collect merge [] xs = some kept) :
    (kept.map fun e => f e.2).Nodup ↔ ∀ x ∈ xs, ∀ y ∈ xs, f x.2 = f y.2 → x.1 = y.1 := by
  have hkept : ∀ k r, (∃ e ∈ kept, (e.1, f e.2) = (k, r)) ↔ ∃ x ∈ xs, (x.1, f x.2) = (k, r) := by
    intro k r
    have hiff := exists_collect_iff (f := fun e : κ × α => (e.1, f e.2))
      (fun k a b c hmerge => ⟨congrArg (Prod.mk k) (hf a b c hmerge).1,
        congrArg (Prod.mk k) (hf a b c hmerge).2⟩) h (k, r)
    simpa using hiff
  have hnodup := nodup_collect_nil h
  constructor
  · intro hone x hx y hy hxy
    obtain ⟨e, he, hex⟩ := (hkept x.1 (f x.2)).mpr ⟨x, hx, rfl⟩
    obtain ⟨e', he', hey⟩ := (hkept y.1 (f y.2)).mpr ⟨y, hy, rfl⟩
    obtain ⟨hkey, hvalue⟩ := Prod.mk.inj hex
    obtain ⟨hkey', hvalue'⟩ := Prod.mk.inj hey
    have hsame : e = e' := List.inj_on_of_nodup_map hone he he' (by
      rw [hvalue, hvalue', hxy])
    rw [← hkey, ← hkey', hsame]
  · intro hkeys
    refine hnodup.of_map.map_on fun e he e' he' hvalue => ?_
    obtain ⟨x, hx, hxe⟩ := (hkept e.1 (f e.2)).mp ⟨e, he, rfl⟩
    obtain ⟨y, hy, hye⟩ := (hkept e'.1 (f e'.2)).mp ⟨e', he', rfl⟩
    obtain ⟨hkey, hvalue₁⟩ := Prod.mk.inj hxe
    obtain ⟨hkey', hvalue₂⟩ := Prod.mk.inj hye
    have hsame := hkeys x hx y hy (by rw [hvalue₁, hvalue₂, hvalue])
    exact List.inj_on_of_nodup_map hnodup he he' (by rw [← hkey, ← hkey', hsame])

end KeyedMerge
