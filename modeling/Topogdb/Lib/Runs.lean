/-
Runs of a partial step function.

A system is a step function `step : σ → α → Option σ`; `none` means that the
action is not enabled.  The two things said about runs are

* `run_invariant` — what every step preserves holds wherever a run arrives;
* `along_congr` — two conditions on steps that agree under an invariant agree
  along whole runs, where the first condition may be what keeps the invariant;

and `along_iff_between`, which turns a reflexive and transitive relation along
the steps into the same relation between any two states the run passes.
-/
import Mathlib.Data.List.Basic
import Mathlib.Data.Option.Basic

namespace Runs

variable {σ α : Type*} (step : σ → α → Option σ)

/-- Take the actions in order; `none` as soon as one is not enabled. -/
def run : σ → List α → Option σ
  | s, [] => some s
  | s, a :: as => (step s a).bind fun s' => run s' as

/-- Every step that the run takes satisfies `P`. -/
def Along (P : σ → α → σ → Prop) : σ → List α → Prop
  | _, [] => True
  | s, a :: as => ∀ s', step s a = some s' → P s a s' ∧ Along P s' as

variable {step}

@[simp] theorem run_nil (s : σ) : run step s [] = some s := rfl

theorem run_cons (s : σ) (a : α) (as : List α) :
    run step s (a :: as) = (step s a).bind fun s' => run step s' as := rfl

theorem run_invariant {I : σ → Prop}
    (hstep : ∀ s a s', I s → step s a = some s' → I s') {s t : σ} {as : List α}
    (hs : I s) (hrun : run step s as = some t) : I t := by
  induction as generalizing s with
  | nil =>
    obtain rfl : s = t := by simpa using hrun
    exact hs
  | cons a as ih =>
    rw [run_cons] at hrun
    obtain ⟨s', hs', hrun'⟩ := Option.bind_eq_some_iff.mp hrun
    exact ih (hstep s a s' hs hs') hrun'

theorem along_cons {P : σ → α → σ → Prop} {s : σ} {a : α} {as : List α} :
    Along step P s (a :: as) ↔ ∀ s', step s a = some s' → P s a s' ∧ Along step P s' as :=
  Iff.rfl

theorem along_append {P : σ → α → σ → Prop} {s : σ} {as bs : List α} :
    Along step P s (as ++ bs) ↔
      Along step P s as ∧ ∀ t, run step s as = some t → Along step P t bs := by
  induction as generalizing s with
  | nil =>
    refine ⟨fun h => ⟨trivial, fun t ht => ?_⟩, fun h => h.2 s rfl⟩
    obtain rfl : s = t := by simpa using ht
    exact h
  | cons a as ih =>
    rw [List.cons_append, along_cons, along_cons]
    constructor
    · intro h
      refine ⟨fun s' hs' => ⟨(h s' hs').1, (ih.mp (h s' hs').2).1⟩, fun t ht => ?_⟩
      rw [run_cons] at ht
      obtain ⟨s', hs', ht⟩ := Option.bind_eq_some_iff.mp ht
      exact (ih.mp (h s' hs').2).2 t ht
    · rintro ⟨has, hbs⟩ s' hs'
      refine ⟨(has s' hs').1, ih.mpr ⟨(has s' hs').2, fun t ht => hbs t ?_⟩⟩
      rw [run_cons, hs']
      exact ht

/-- A condition that an invariant gives holds along runs. -/
theorem along_of_invariant {I : σ → Prop} {P : σ → α → σ → Prop} {as : List α}
    (h : ∀ s, ∀ a ∈ as, ∀ s', I s → step s a = some s' → P s a s' ∧ I s') {s : σ}
    (hs : I s) : Along step P s as := by
  induction as generalizing s with
  | nil => trivial
  | cons a as ih =>
    intro s' hs'
    obtain ⟨hP, hInv⟩ := h s a List.mem_cons_self s' hs hs'
    exact ⟨hP, ih (fun t b hb => h t b (List.mem_cons_of_mem a hb)) hInv⟩

/-- What every step that meets the condition preserves holds wherever a run of
such steps arrives. -/
theorem Along.invariant {I : σ → Prop} {P : σ → α → σ → Prop}
    (hstep : ∀ s a s', I s → P s a s' → step s a = some s' → I s') {s t : σ} {as : List α}
    (h : Along step P s as) (hs : I s) (hrun : run step s as = some t) : I t := by
  induction as generalizing s with
  | nil =>
    obtain rfl : s = t := by simpa using hrun
    exact hs
  | cons a as ih =>
    rw [run_cons] at hrun
    obtain ⟨s', hs', hrun'⟩ := Option.bind_eq_some_iff.mp hrun
    exact ih (h s' hs').2 (hstep s a s' hs (h s' hs').1 hs') hrun'

/-- A condition that gives another one under an invariant, and keeps the invariant,
gives it along runs. -/
theorem Along.imp {I : σ → Prop} {P Q : σ → α → σ → Prop} {as : List α}
    (hstep : ∀ s, ∀ a ∈ as, ∀ s', I s → P s a s' → step s a = some s' → Q s a s' ∧ I s') {s : σ}
    (h : Along step P s as) (hs : I s) : Along step Q s as := by
  induction as generalizing s with
  | nil => trivial
  | cons a as ih =>
    intro s' hs'
    obtain ⟨hP, hrest⟩ := h s' hs'
    obtain ⟨hQ, hInv⟩ := hstep s a List.mem_cons_self s' hs hP hs'
    exact ⟨hQ, ih (fun t b hb => hstep t b (List.mem_cons_of_mem a hb)) hrest hInv⟩

/-- Conditions that agree under an invariant agree along runs. -/
theorem along_congr {I : σ → Prop} {P Q : σ → α → σ → Prop}
    (hlocal : ∀ s a s', I s → step s a = some s' → (P s a s' ↔ Q s a s'))
    (hkeep : ∀ s a s', I s → step s a = some s' → P s a s' → I s')
    {s : σ} (hs : I s) (as : List α) : Along step P s as ↔ Along step Q s as := by
  induction as generalizing s with
  | nil => exact Iff.rfl
  | cons a as ih =>
    constructor
    · intro h s' hs'
      obtain ⟨hP, hrest⟩ := h s' hs'
      exact ⟨(hlocal s a s' hs hs').mp hP, (ih (hkeep s a s' hs hs' hP)).mp hrest⟩
    · intro h s' hs'
      obtain ⟨hQ, hrest⟩ := h s' hs'
      have hP := (hlocal s a s' hs hs').mpr hQ
      exact ⟨hP, (ih (hkeep s a s' hs hs' hP)).mpr hrest⟩

/-! ### Relations between the states that a run passes -/

/-- `R` holds from any state the run passes to any state it passes later. -/
def Between (step : σ → α → Option σ) (R : σ → σ → Prop) (s : σ) (as : List α) : Prop :=
  ∀ pre mid post, as = pre ++ mid ++ post →
    ∀ t t', run step s pre = some t → run step t mid = some t' → R t t'

theorem between_tail {R : σ → σ → Prop} {s s' : σ} {a : α} {as : List α}
    (h : Between step R s (a :: as)) (hs' : step s a = some s') : Between step R s' as := by
  rintro pre mid post rfl t t' hpre hmid
  refine h (a :: pre) mid post (by simp) t t' ?_ hmid
  rw [run_cons, hs']
  exact hpre

/-- Along the steps, `R` reaches from the first state to every later one. -/
theorem Along.reach {R : σ → σ → Prop} (hrefl : ∀ s, R s s)
    (htrans : ∀ s t u, R s t → R t u → R s u) {s t : σ} {as bs : List α}
    (h : Along step (fun s _ s' => R s s') s (as ++ bs)) (hrun : run step s as = some t) :
    R s t ∧ Along step (fun s _ s' => R s s') t bs := by
  induction as generalizing s with
  | nil =>
    obtain rfl : s = t := by simpa using hrun
    exact ⟨hrefl s, h⟩
  | cons a as ih =>
    rw [run_cons] at hrun
    obtain ⟨s', hs', hrun'⟩ := Option.bind_eq_some_iff.mp hrun
    obtain ⟨hR, hrest⟩ := h s' hs'
    obtain ⟨hR', hbs⟩ := ih hrest hrun'
    exact ⟨htrans s s' t hR hR', hbs⟩

/-- A reflexive and transitive relation holds along the steps of a run exactly
when it holds between any two states of the run, the earlier one first. -/
theorem along_iff_between {R : σ → σ → Prop} (hrefl : ∀ s, R s s)
    (htrans : ∀ s t u, R s t → R t u → R s u) (s : σ) (as : List α) :
    Along step (fun s _ s' => R s s') s as ↔ Between step R s as := by
  constructor
  · rintro h pre mid post rfl t t' hpre hmid
    rw [List.append_assoc] at h
    obtain ⟨-, hrest⟩ := h.reach hrefl htrans hpre
    exact (hrest.reach hrefl htrans hmid).1
  · intro h
    induction as generalizing s with
    | nil => trivial
    | cons a as ih =>
      intro s' hs'
      refine ⟨?_, ih s' (between_tail h hs')⟩
      have hone : run step s [a] = some s' := by
        rw [run_cons, hs']
        rfl
      exact h [] [a] as rfl s s' rfl hone

end Runs
