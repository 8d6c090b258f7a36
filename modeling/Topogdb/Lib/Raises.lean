/-
Which errors a computation can raise, and what it returns.

* `Raises P x` — every error of `x : Except ε α` satisfies `P`;
* `Meets P Q x` — every error satisfies `P` and every value `Q`.

The rules follow the ways such computations are put together: `pure`, `throw`,
`bind` and the loops `mapM` and `foldlM`.
-/
import Mathlib.Data.List.Forall2

universe u v

namespace Except

variable {ε : Type v} {α β σ : Type u}

/-- Every error of `x` satisfies `P`. -/
def Raises (P : ε → Prop) (x : Except ε α) : Prop := ∀ e, x = .error e → P e

variable {P Q : ε → Prop}

@[simp] theorem raises_ok (a : α) : (Except.ok a : Except ε α).Raises P := by
  intro e h
  cases h

@[simp] theorem raises_pure (a : α) : (pure a : Except ε α).Raises P := raises_ok a

@[simp] theorem raises_error (e : ε) : (Except.error e : Except ε α).Raises P ↔ P e :=
  ⟨fun h => h e rfl, fun h _ he => by cases he; exact h⟩

@[simp] theorem raises_throw (e : ε) : (throw e : Except ε α).Raises P ↔ P e := raises_error e

theorem Raises.mono {x : Except ε α} (h : x.Raises P) (hPQ : ∀ e, P e → Q e) : x.Raises Q :=
  fun e he => hPQ e (h e he)

/-- The continuation runs on the values that `x` can return. -/
theorem Raises.bind {x : Except ε α} {f : α → Except ε β} (hx : x.Raises P)
    (hf : ∀ a, x = .ok a → (f a).Raises P) : (x >>= f).Raises P := by
  cases x with
  | error e =>
    intro e' he'
    cases he'
    exact hx e rfl
  | ok a => exact hf a rfl

theorem Raises.map {x : Except ε α} {f : α → β} (hx : x.Raises P) : (f <$> x).Raises P := by
  cases x with
  | error e =>
    intro e' he'
    cases he'
    exact hx e rfl
  | ok a => exact raises_ok _

theorem Raises.ite {c : Prop} [Decidable c] {x y : Except ε α} (hx : c → x.Raises P)
    (hy : ¬ c → y.Raises P) : (if c then x else y).Raises P := by
  split
  · next h => exact hx h
  · next h => exact hy h

theorem raises_mapM {f : α → Except ε β} {l : List α} (h : ∀ a ∈ l, (f a).Raises P) :
    (l.mapM f).Raises P := by
  induction l with
  | nil => exact raises_pure _
  | cons a l ih =>
    rw [List.mapM_cons]
    refine Raises.bind (h a List.mem_cons_self) fun b _ => ?_
    refine Raises.bind (ih fun a' ha' => h a' (List.mem_cons_of_mem a ha')) fun bs _ => ?_
    exact raises_pure _

/-- A loop, with an invariant of its state. -/
theorem raises_foldlM {Inv : σ → Prop} {f : σ → α → Except ε σ} {l : List α} {s : σ} (hs : Inv s)
    (hstep : ∀ s a, Inv s → a ∈ l → (f s a).Raises P ∧ ∀ s', f s a = .ok s' → Inv s') :
    (l.foldlM f s).Raises P := by
  induction l generalizing s with
  | nil => exact raises_pure _
  | cons a l ih =>
    rw [List.foldlM_cons]
    obtain ⟨hr, hinv⟩ := hstep s a hs List.mem_cons_self
    refine Raises.bind hr fun s' hs' => ih (hinv s' hs') ?_
    exact fun t b ht hb => hstep t b ht (List.mem_cons_of_mem a hb)

theorem raises_foldlM_of_step {f : σ → α → Except ε σ} (h : ∀ s a, (f s a).Raises P)
    (l : List α) (s : σ) : (l.foldlM f s).Raises P := by
  induction l generalizing s with
  | nil => exact raises_pure _
  | cons a l ih =>
    rw [List.foldlM_cons]
    exact Raises.bind (h s a) fun s' _ => ih s'

/-! ### Errors and values -/

/-- An error of `x` satisfies `P`, a value `Q`. -/
def Meets (P : ε → Prop) (Q : α → Prop) : Except ε α → Prop
  | .ok a => Q a
  | .error e => P e

@[simp] theorem meets_ok {Q : α → Prop} (a : α) : (Except.ok a : Except ε α).Meets P Q ↔ Q a :=
  Iff.rfl

@[simp] theorem meets_error {Q : α → Prop} (e : ε) :
    (Except.error e : Except ε α).Meets P Q ↔ P e := Iff.rfl

@[simp] theorem ok_bind (a : α) (f : α → Except ε β) : (Except.ok a >>= f) = f a := rfl

@[simp] theorem error_bind (e : ε) (f : α → Except ε β) :
    ((Except.error e : Except ε α) >>= f) = .error e := rfl

theorem toOption_eq_some {x : Except ε α} {a : α} : x.toOption = some a ↔ x = .ok a := by
  cases x <;> simp [Except.toOption]

theorem bind_eq_ok {x : Except ε α} {f : α → Except ε β} {b : β} :
    (x >>= f) = .ok b ↔ ∃ a, x = .ok a ∧ f a = .ok b := by
  cases x with
  | ok a => simp
  | error e => simp

/-- A check before the rest. -/
theorem seq_eq_ok {x : Except ε PUnit} {y : Except ε β} {b : β} :
    (x >>= fun _ => y) = .ok b ↔ x = .ok ⟨⟩ ∧ y = .ok b := by
  cases x with
  | ok a => simp
  | error e => simp

/-- A check that is made under a condition. -/
theorem ite_seq_eq_ok {c : Prop} [Decidable c] {x : Except ε PUnit} {y : Except ε β} {b : β} :
    (if c then x >>= fun _ => y else y) = .ok b ↔ (c → x = .ok ⟨⟩) ∧ y = .ok b := by
  split
  · next h => rw [seq_eq_ok, forall_prop_of_true h]
  · next h => exact ⟨fun hy => ⟨fun hc => absurd hc h, hy⟩, fun hy => hy.2⟩

theorem meets_iff {Q : α → Prop} {x : Except ε α} :
    x.Meets P Q ↔ x.Raises P ∧ ∀ a, x = .ok a → Q a := by
  cases x with
  | ok a => simp [Meets]
  | error e => simp [Meets]

theorem Meets.bind {R : α → Prop} {Q : β → Prop} {x : Except ε α} {f : α → Except ε β}
    (hx : x.Meets P R) (hf : ∀ a, R a → (f a).Meets P Q) : (x >>= f).Meets P Q := by
  cases x with
  | ok a => exact hf a hx
  | error e => exact hx

theorem Raises.meets {x : Except ε α} (h : x.Raises P) : x.Meets P fun _ => True :=
  meets_iff.mpr ⟨h, fun _ _ => trivial⟩

theorem meets_true (x : Except ε α) : x.Meets (fun _ => True) fun _ => True := by
  cases x <;> trivial

theorem meets_mapM_length {f : α → Except ε β} {l : List α} (h : ∀ a ∈ l, (f a).Raises P) :
    (l.mapM f).Meets P fun bs => bs.length = l.length := by
  induction l with
  | nil => rfl
  | cons a l ih =>
    rw [List.mapM_cons]
    refine (h a List.mem_cons_self).meets.bind fun b _ => ?_
    refine (ih fun a' ha' => h a' (List.mem_cons_of_mem a ha')).bind fun bs hbs => ?_
    show (b :: bs).length = (a :: l).length
    rw [List.length_cons, List.length_cons, hbs]

theorem map_eq_ok {x : Except ε α} {f : α → β} {b : β} :
    x.map f = .ok b ↔ ∃ a, x = .ok a ∧ f a = b := by
  cases x with
  | ok a => simp [Except.map]
  | error e => simp [Except.map]

theorem map_eq_error {x : Except ε α} {f : α → β} {e : ε} :
    x.map f = .error e ↔ x = .error e := by
  cases x with
  | ok a => simp [Except.map]
  | error e => simp [Except.map]

/-- What a computation returns can be tested. -/
instance decidableExistsOk {x : Except ε α} {Q : α → Prop} [DecidablePred Q] :
    Decidable (∃ a, x = .ok a ∧ Q a) :=
  match x with
  | .ok a => decidable_of_iff (Q a) ⟨fun h => ⟨a, rfl, h⟩, fun ⟨_, h, hQ⟩ => Except.ok.inj h ▸ hQ⟩
  | .error _ => isFalse fun ⟨_, h, _⟩ => nomatch h

/-- A loop that collects what a function gives, when each step can only give
that. -/
theorem mapM_eq_ok {f : α → Except ε β} {g : α → β} (hg : ∀ a b, f a = .ok b → b = g a)
    {l : List α} {bs : List β} (h : l.mapM f = .ok bs) :
    bs = l.map g ∧ ∀ a ∈ l, f a = .ok (g a) := by
  induction l generalizing bs with
  | nil =>
    cases h
    exact ⟨rfl, fun a ha => absurd ha List.not_mem_nil⟩
  | cons a l ih =>
    rw [List.mapM_cons] at h
    obtain ⟨b, hb, h⟩ := bind_eq_ok.mp h
    obtain ⟨bs', hbs', h⟩ := bind_eq_ok.mp h
    cases h
    obtain ⟨rfl, hall⟩ := ih hbs'
    cases hg a b hb
    refine ⟨rfl, fun a' ha' => ?_⟩
    rcases List.mem_cons.mp ha' with rfl | hmem
    · exact hb
    · exact hall a' hmem

/-- The results of a list, one by one. -/
theorem mapM_eq_ok_iff {f : α → Except ε β} {l : List α} {bs : List β} :
    l.mapM f = .ok bs ↔ List.Forall₂ (fun a b => f a = .ok b) l bs := by
  induction l generalizing bs with
  | nil =>
    rw [List.mapM_nil, List.forall₂_nil_left_iff]
    constructor
    · rintro ⟨⟩
      rfl
    · rintro rfl
      rfl
  | cons a l ih =>
    rw [List.mapM_cons, bind_eq_ok]
    constructor
    · rintro ⟨b, hb, h⟩
      obtain ⟨bs', hbs', h⟩ := bind_eq_ok.mp h
      cases h
      exact .cons hb (ih.mp hbs')
    · intro h
      cases h with
      | cons hb hbs =>
        refine ⟨_, hb, ?_⟩
        rw [ih.mpr hbs]
        rfl

theorem forall₂_of_mapM {f : α → Except ε β} {l : List α} {bs : List β}
    (h : l.mapM f = .ok bs) : List.Forall₂ (fun a b => f a = .ok b) l bs := mapM_eq_ok_iff.mp h

/-- A loop whose steps give what a function does. -/
theorem mapM_ok {f : α → Except ε β} {g : α → β} {l : List α} (h : ∀ a ∈ l, f a = .ok (g a)) :
    l.mapM f = .ok (l.map g) := by
  rw [mapM_eq_ok_iff]
  exact List.forall₂_map_right_iff.mpr (List.forall₂_same.mpr h)

/-- A loop ends when each of its steps does. -/
theorem exists_mapM_ok {f : α → Except ε β} {l : List α} :
    (∃ bs, l.mapM f = .ok bs) ↔ ∀ a ∈ l, ∃ b, f a = .ok b := by
  induction l with
  | nil => exact iff_of_true ⟨[], rfl⟩ (by simp)
  | cons a l ih =>
    rw [List.forall_mem_cons, ← ih, List.mapM_cons]
    constructor
    · rintro ⟨bs, h⟩
      obtain ⟨b, hb, h⟩ := bind_eq_ok.mp h
      obtain ⟨bs', hbs', -⟩ := bind_eq_ok.mp h
      exact ⟨⟨b, hb⟩, ⟨bs', hbs'⟩⟩
    · rintro ⟨⟨b, hb⟩, ⟨bs, hbs⟩⟩
      exact ⟨b :: bs, by rw [hb, hbs]; rfl⟩

theorem forM_ok {f : α → Except ε PUnit} {l : List α} :
    l.forM f = .ok ⟨⟩ ↔ ∀ a ∈ l, f a = .ok ⟨⟩ := by
  induction l with
  | nil => exact iff_of_true rfl (by simp)
  | cons a l ih =>
    rw [List.forall_mem_cons, ← ih]
    show (f a >>= fun _ => l.forM f) = .ok ⟨⟩ ↔ _
    rw [bind_eq_ok]
    exact ⟨fun ⟨_, h, h'⟩ => ⟨h, h'⟩, fun ⟨h, h'⟩ => ⟨⟨⟩, h, h'⟩⟩

end Except
