/-
Lists that are related element by element (`List.Forall₂`).

A loop that maps each element relates what it reads to what it gives.  The rules
say which elements then belong together, and how two loops, nested loops and
relations between any two elements carry over.
-/
import Mathlib.Data.List.Forall2

universe u v w

variable {α : Type u} {β : Type v} {γ : Type w} {R : α → β → Prop} {S : β → γ → Prop}

namespace List

/-- What holds at every place of a list, counted from `k`. -/
theorem forall_getElem?_cons {P : ℕ → α → Prop} {a : α} {as : List α} {k : ℕ}
    (h : ∀ j x, (a :: as)[j]? = some x → P (k + j) x) :
    P k a ∧ ∀ j x, as[j]? = some x → P (k + 1 + j) x := by
  refine ⟨h 0 a rfl, fun j x hx => ?_⟩
  rw [show k + 1 + j = k + (j + 1) by omega]
  exact h (j + 1) x (by simpa using hx)

theorem forall₂_eq {xs ys : List α} : Forall₂ (fun x y => y = x) xs ys ↔ ys = xs := by
  constructor
  · intro h
    induction h with
    | nil => rfl
    | cons hxy _ ih => rw [hxy, ih]
  · rintro rfl
    exact forall₂_same.mpr fun _ _ => rfl

/-- The results of a list, one by one, if there are all of them. -/
theorem mapM_eq_some_iff {α β : Type u} {f : α → Option β} {as : List α} {bs : List β} :
    as.mapM f = some bs ↔ Forall₂ (fun a b => f a = some b) as bs := by
  induction as generalizing bs with
  | nil =>
    rw [mapM_nil, forall₂_nil_left_iff]
    constructor
    · rintro ⟨⟩
      rfl
    · rintro rfl
      rfl
  | cons a as ih =>
    rw [mapM_cons]
    constructor
    · intro h
      obtain ⟨b, hb, h⟩ := Option.bind_eq_some_iff.mp h
      obtain ⟨bs', hbs', h⟩ := Option.bind_eq_some_iff.mp h
      cases h
      exact .cons hb (ih.mp hbs')
    · intro h
      cases h with
      | cons hb hbs =>
        rw [hb, ih.mpr hbs]
        rfl

/-- A loop depends on what its body does with the elements. -/
theorem mapM_congr_left {m : Type u → Type v} [Monad m] [LawfulMonad m] {α : Type w} {β : Type u}
    {f g : α → m β} {as : List α} (h : ∀ a ∈ as, f a = g a) : as.mapM f = as.mapM g := by
  induction as with
  | nil => rfl
  | cons a as ih =>
    rw [mapM_cons, mapM_cons, h a mem_cons_self, ih fun a' ha' => h a' (mem_cons_of_mem a ha')]

theorem forall₂_and_right {p : β → Prop} {as : List α} {bs : List β} :
    Forall₂ (fun a b => R a b ∧ p b) as bs ↔ Forall₂ R as bs ∧ ∀ b ∈ bs, p b := by
  constructor
  · intro h
    induction h with
    | nil => exact ⟨.nil, fun b hb => absurd hb not_mem_nil⟩
    | cons hab _ ih => exact ⟨.cons hab.1 ih.1, forall_mem_cons.mpr ⟨hab.2, ih.2⟩⟩
  · rintro ⟨h, hp⟩
    induction h with
    | nil => exact .nil
    | cons hab _ ih =>
      rw [forall_mem_cons] at hp
      exact .cons ⟨hab, hp.1⟩ (ih hp.2)

theorem forall₂_exists {as : List α} {cs : List γ} :
    Forall₂ (fun a c => ∃ b, R a b ∧ S b c) as cs ↔ ∃ bs, Forall₂ R as bs ∧ Forall₂ S bs cs := by
  constructor
  · intro h
    induction h with
    | nil => exact ⟨[], Forall₂.nil, Forall₂.nil⟩
    | cons h _ ih =>
      obtain ⟨b, hab, hbc⟩ := h
      obtain ⟨bs, habs, hbcs⟩ := ih
      exact ⟨b :: bs, Forall₂.cons hab habs, Forall₂.cons hbc hbcs⟩
  · rintro ⟨bs, habs, hbcs⟩
    induction habs generalizing cs with
    | nil =>
      cases hbcs
      exact Forall₂.nil
    | cons hab _ ih =>
      cases hbcs with
      | cons hbc hbcs => exact Forall₂.cons ⟨_, hab, hbc⟩ (ih hbcs)

theorem forall₂_flatten {ass : List (List α)} {bs : List β} :
    Forall₂ R ass.flatten bs ↔ ∃ bss, Forall₂ (Forall₂ R) ass bss ∧ bs = bss.flatten := by
  constructor
  · intro h
    induction ass generalizing bs with
    | nil =>
      cases h
      exact ⟨[], Forall₂.nil, rfl⟩
    | cons as ass ih =>
      rw [flatten_cons] at h
      have hhead := forall₂_take as.length h
      have htail := forall₂_drop as.length h
      rw [take_left] at hhead
      rw [drop_left] at htail
      obtain ⟨bss, hbss, hrest⟩ := ih htail
      refine ⟨bs.take as.length :: bss, Forall₂.cons hhead hbss, ?_⟩
      rw [flatten_cons, ← hrest, take_append_drop]
  · rintro ⟨bss, h, rfl⟩
    exact rel_flatten h

namespace Forall₂

/-- Two loops, the second over the results of the first. -/
theorem comp {T : α → γ → Prop} {as : List α} {bs : List β} {cs : List γ} (hR : Forall₂ R as bs)
    (hS : Forall₂ S bs cs) (hT : ∀ a b c, R a b → S b c → T a c) : Forall₂ T as cs :=
  (forall₂_exists.mpr ⟨bs, hR, hS⟩).imp fun a c ⟨b, hab, hbc⟩ => hT a b c hab hbc

/-- The values of a list are those of a function that is defined on it. -/
theorem mem_iff (hR : Relator.RightUnique R) {as : List α} {bs : List β} (h : Forall₂ R as bs)
    (b : β) : (∃ a ∈ as, R a b) ↔ b ∈ bs := by
  induction h with
  | nil => simp
  | cons hab _ ih =>
    rw [exists_mem_cons_iff, ih, mem_cons]
    refine or_congr_left ?_
    constructor
    · intro hab'
      exact hR hab' hab
    · rintro rfl
      exact hab

theorem exists_of_mem_left {as : List α} {bs : List β} (h : Forall₂ R as bs) {a : α}
    (ha : a ∈ as) : ∃ b ∈ bs, R a b := by
  induction h with
  | nil => exact absurd ha not_mem_nil
  | cons hab _ ih =>
    rcases mem_cons.mp ha with rfl | ha
    · exact ⟨_, mem_cons_self, hab⟩
    · obtain ⟨b, hb, hab⟩ := ih ha
      exact ⟨b, mem_cons_of_mem _ hb, hab⟩

theorem exists_of_mem_right {as : List α} {bs : List β} (h : Forall₂ R as bs) {b : β}
    (hb : b ∈ bs) : ∃ a ∈ as, R a b :=
  exists_of_mem_left (R := fun b a => R a b) h.flip hb

/-- What holds of all elements on one side, when it says the same on the other. -/
theorem forall_iff {P : α → Prop} {Q : β → Prop} {as : List α} {bs : List β}
    (h : Forall₂ R as bs) (hPQ : ∀ a b, R a b → (P a ↔ Q b)) :
    (∀ a ∈ as, P a) ↔ ∀ b ∈ bs, Q b := by
  induction h with
  | nil => simp
  | cons hab _ ih => rw [forall_mem_cons, forall_mem_cons, ih, hPQ _ _ hab]

/-- On related lists, a relation that says something of the first element alone. -/
theorem iff_left {T : α → β → Prop} {P : α → Prop} {as : List α} {bs : List β}
    (hR : Forall₂ R as bs) (hT : ∀ a b, R a b → (T a b ↔ P a)) :
    Forall₂ T as bs ↔ ∀ a ∈ as, P a := by
  induction hR with
  | nil => exact iff_of_true .nil fun a ha => absurd ha not_mem_nil
  | cons hab _ ih => rw [forall₂_cons, forall_mem_cons, hT _ _ hab, ih]

/-- A relation between any two elements carries over to what they become. -/
theorem pairwise_iff {P : α → α → Prop} {Q : β → β → Prop}
    (hPQ : ∀ a b a' b', R a b → R a' b' → (P a a' ↔ Q b b')) {as : List α} {bs : List β}
    (h : Forall₂ R as bs) : as.Pairwise P ↔ bs.Pairwise Q := by
  induction h with
  | nil => exact ⟨fun _ => Pairwise.nil, fun _ => Pairwise.nil⟩
  | cons hab hrest ih =>
    rw [pairwise_cons, pairwise_cons, ih, hrest.forall_iff fun _ _ h => hPQ _ _ _ _ hab h]

/-- Lists made of equal parts are equal. -/
theorem map_eq {δ : Type*} {f : α → δ} {g : β → δ} {as : List α} {bs : List β}
    (h : Forall₂ R as bs) (hfg : ∀ a b, R a b → f a = g b) : as.map f = bs.map g := by
  induction h with
  | nil => rfl
  | cons hab _ ih => rw [map_cons, map_cons, ih, hfg _ _ hab]

theorem flatMap_eq {δ : Type*} {f : α → List δ} {g : β → List δ} {as : List α} {bs : List β}
    (h : Forall₂ R as bs) (hfg : ∀ a b, R a b → f a = g b) : as.flatMap f = bs.flatMap g := by
  rw [flatMap_def, flatMap_def, h.map_eq hfg]

end Forall₂

end List
