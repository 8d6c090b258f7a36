/-
A display that shows the latest request only.

Requests are numbered as they are made, and a request may be answered later, once or
several times, while others are made; what comes is shown if it answers the latest
one.  `History` is what was asked for and what was shown, and a system that only
takes `Step`s

* shows the answers in the order of their requests (`InOrder.ofSteps`);
* shows nothing of an earlier request once a later one was made (`Steps.later`).
-/
import Mathlib.Data.List.Pairwise
import Mathlib.Logic.Relation

namespace LatestWins

variable {ρ δ : Type*}

/-- The requests so far, the first with number 1, and what was shown for which. -/
structure History (ρ δ : Type*) where
  requests : List ρ
  shown : List (ℕ × δ)

variable {answers : ρ → δ → Prop}

/-- A request is made, or the latest one is answered. -/
inductive Step (answers : ρ → δ → Prop) (h : History ρ δ) : History ρ δ → Prop
  | request (r : ρ) : Step answers h { h with requests := h.requests ++ [r] }
  | answer {r : ρ} {d : δ} (latest : h.requests.getLast? = some r) (answered : answers r d) :
      Step answers h { h with shown := h.shown ++ [(h.requests.length, d)] }

abbrev Steps (answers : ρ → δ → Prop) : History ρ δ → History ρ δ → Prop :=
  Relation.ReflTransGen (Step answers)

/-- What is shown answers a request that was made, and in the order of the requests. -/
structure InOrder (answers : ρ → δ → Prop) (h : History ρ δ) : Prop where
  increasing : (h.shown.map Prod.fst).Pairwise (· ≤ ·)
  answered : ∀ e ∈ h.shown, ∃ i r, e.1 = i + 1 ∧ h.requests[i]? = some r ∧ answers r e.2

theorem InOrder.le {h : History ρ δ} (horder : InOrder answers h) {e : ℕ × δ} (he : e ∈ h.shown) :
    e.1 ≤ h.requests.length := by
  obtain ⟨i, r, hi, hr, -⟩ := horder.answered e he
  obtain ⟨hlt, -⟩ := List.getElem?_eq_some_iff.mp hr
  omega

theorem InOrder.step {h h' : History ρ δ} (horder : InOrder answers h)
    (hstep : Step answers h h') : InOrder answers h' := by
  cases hstep with
  | request r =>
    refine ⟨horder.increasing, fun e he => ?_⟩
    obtain ⟨i, r', hi, hr, hanswers⟩ := horder.answered e he
    obtain ⟨hlt, -⟩ := List.getElem?_eq_some_iff.mp hr
    exact ⟨i, r', hi, (List.getElem?_append_left hlt).trans hr, hanswers⟩
  | @answer r d hlatest hanswers =>
    constructor
    · rw [List.map_append, List.pairwise_append]
      refine ⟨horder.increasing, List.pairwise_singleton _ _, fun i hi j hj => ?_⟩
      obtain ⟨e, he, rfl⟩ := List.mem_map.mp hi
      rw [List.map_singleton, List.mem_singleton] at hj
      rw [hj]
      exact horder.le he
    · intro e he
      rcases List.mem_append.mp he with he | he
      · exact horder.answered e he
      · rw [List.mem_singleton] at he
        subst he
        have hpos : h.requests.length ≠ 0 := by
          intro hnil
          rw [List.length_eq_zero_iff.mp hnil] at hlatest
          cases hlatest
        refine ⟨h.requests.length - 1, r, ?_, ?_, hanswers⟩
        · show h.requests.length = h.requests.length - 1 + 1
          omega
        · rw [← List.getLast?_eq_getElem?]
          exact hlatest

/-- Answers are shown in the order of their requests. -/
theorem InOrder.ofSteps {h h' : History ρ δ} (horder : InOrder answers h)
    (hsteps : Steps answers h h') : InOrder answers h' := by
  induction hsteps with
  | refl => exact horder
  | tail _ hstep ih => exact ih.step hstep

/-- What is shown later is for the latest request or for one made later. -/
theorem Steps.later {h h' : History ρ δ} (hsteps : Steps answers h h') :
    h.requests <+: h'.requests ∧
      ∃ more, h'.shown = h.shown ++ more ∧ ∀ e ∈ more, h.requests.length ≤ e.1 := by
  induction hsteps with
  | refl =>
    refine ⟨List.prefix_refl _, [], (List.append_nil _).symm, fun e he => ?_⟩
    exact absurd he List.not_mem_nil
  | @tail h₁ h₂ _ hstep ih =>
    obtain ⟨hextends, more, hmore, hlater⟩ := ih
    cases hstep with
    | request r => exact ⟨hextends.trans (List.prefix_append _ _), more, hmore, hlater⟩
    | @answer r d _ _ =>
      refine ⟨hextends, more ++ [(h₁.requests.length, d)], ?_, fun e he => ?_⟩
      · show h₁.shown ++ _ = _
        rw [hmore, List.append_assoc]
      · rcases List.mem_append.mp he with he | he
        · exact hlater e he
        · rw [List.mem_singleton] at he
          rw [he]
          exact hextends.length_le

end LatestWins
