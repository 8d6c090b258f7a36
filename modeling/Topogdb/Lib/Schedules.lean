/-
Schedules of actions that each act on one key.

Over a step function `step : σ → α → Option σ`, as in `Runs`, two actions commute
when they can be taken in either order with the same result, and one absorbs an
earlier one when it does the same without it.

* `run_eq_of_filter_eq` — a run depends only on what each key sees, if actions on
  different keys commute;
* `compact` — a list of actions without those that a later action on the same key
  absorbs; `run_compact` — it leads to the same state.
-/
import Topogdb.Lib.Runs

namespace Runs

variable {σ α κ : Type*} {step : σ → α → Option σ}

/-- Either order of two actions is enabled when the other is, with the same result. -/
def Commute (step : σ → α → Option σ) (a b : α) : Prop :=
  ∀ s, (step s a).bind (fun s' => step s' b) = (step s b).bind fun s' => step s' a

/-- After an enabled `a`, the action `w` does what it would have done before. -/
def Absorbs (step : σ → α → Option σ) (w a : α) : Prop :=
  ∀ s s', step s a = some s' → step s' w = step s w

theorem Commute.symm {a b : α} (h : Commute step a b) : Commute step b a := fun s => (h s).symm

theorem run_append (s : σ) (as bs : List α) :
    run step s (as ++ bs) = (run step s as).bind fun s' => run step s' bs := by
  induction as generalizing s with
  | nil => rfl
  | cons a as ih =>
    rw [List.cons_append, run_cons, run_cons, Option.bind_assoc]
    simp only [ih]

/-- Two actions that commute can change places at the head of a run. -/
theorem Commute.run_swap {a b : α} (h : Commute step a b) (s : σ) (as : List α) :
    run step s (a :: b :: as) = run step s (b :: a :: as) := by
  have hswap : ∀ c d, run step s (c :: d :: as) =
      ((step s c).bind fun s' => step s' d).bind fun s' => run step s' as := by
    intro c d
    rw [run_cons, Option.bind_assoc]
    rfl
  rw [hswap, hswap, h s]

/-- An action moves past those that it commutes with. -/
theorem run_cons_append {a : α} {pre : List α} (h : ∀ b ∈ pre, Commute step a b) (s : σ)
    (post : List α) : run step s (a :: (pre ++ post)) = run step s (pre ++ a :: post) := by
  induction pre generalizing s with
  | nil => rfl
  | cons b pre ih =>
    rw [List.cons_append, (h b List.mem_cons_self).run_swap, List.cons_append, run_cons, run_cons]
    simp only [ih fun c hc => h c (List.mem_cons_of_mem b hc)]

/-! ### The actions on each key -/

section Keys

variable [DecidableEq κ] (key : α → κ)

/-- The first action on a key, split off. -/
theorem exists_first {k : κ} {a : α} {as bs : List α}
    (h : bs.filter (fun b => key b = k) = a :: as) :
    ∃ pre post, bs = pre ++ a :: post ∧ (∀ b ∈ pre, key b ≠ k) ∧ key a = k := by
  obtain ⟨pre, post, rfl, hpre, ha, -⟩ := List.filter_eq_cons_iff.mp h
  refine ⟨pre, post, rfl, fun b hb hk => ?_, of_decide_eq_true ha⟩
  exact hpre b hb (decide_eq_true hk)

/-- **A run depends only on the actions that each key sees**, if actions on different
keys commute. -/
theorem run_eq_of_filter_eq {as bs : List α}
    (hcommute : ∀ a ∈ as, ∀ b ∈ as, key a ≠ key b → Commute step a b)
    (hsame : ∀ k, as.filter (fun a => key a = k) = bs.filter (fun b => key b = k)) (s : σ) :
    run step s as = run step s bs := by
  induction as generalizing bs s with
  | nil =>
    cases bs with
    | nil => rfl
    | cons b bs =>
      have hb : b ∈ ([] : List α).filter fun c => key c = key b := by
        rw [hsame]
        exact List.mem_filter.mpr ⟨List.mem_cons_self, decide_eq_true rfl⟩
      cases hb
  | cons a as ih =>
    have hfirst : a :: as.filter (fun b => key b = key a) = bs.filter fun b => key b = key a := by
      rw [← hsame, List.filter_cons, if_pos (decide_eq_true rfl)]
    obtain ⟨pre, post, rfl, hpre, -⟩ := exists_first key hfirst.symm
    have hrest : ∀ k, as.filter (fun a => key a = k) =
        (pre ++ post).filter (fun b => key b = k) := by
      intro k
      have hk := hsame k
      rw [List.filter_append, List.filter_cons, List.filter_cons] at hk
      rw [List.filter_append]
      by_cases hkey : key a = k
      · have hnil : pre.filter (fun b => key b = k) = [] :=
          List.filter_eq_nil_iff.mpr fun b hb h => hpre b hb ((of_decide_eq_true h).trans hkey.symm)
        rw [if_pos (decide_eq_true hkey), if_pos (decide_eq_true hkey), hnil] at hk
        rw [hnil]
        exact (List.cons.inj hk).2
      · rw [if_neg (by simpa using hkey), if_neg (by simpa using hkey)] at hk
        exact hk
    -- what stands before `a` on the right is on other keys, so `a` comes first there too
    have hmove : ∀ b ∈ pre, Commute step a b := by
      intro b hb
      have hmem : b ∈ as := by
        have hfilter : b ∈ as.filter fun c => key c = key b := by
          rw [hrest]
          exact List.mem_filter.mpr ⟨List.mem_append_left _ hb, decide_eq_true rfl⟩
        exact List.mem_of_mem_filter hfilter
      exact hcommute a List.mem_cons_self b (List.mem_cons_of_mem a hmem)
        (Ne.symm (hpre b hb))
    rw [← run_cons_append hmove, run_cons, run_cons]
    simp only [ih (fun c hc d hd => hcommute c (List.mem_cons_of_mem a hc) d
      (List.mem_cons_of_mem a hd)) hrest]

/-! ### Compaction -/

variable (absorbs : α → α → Bool)

/-- The actions without those that the next action on the same key absorbs. -/
def compact : List α → List α
  | [] => []
  | a :: as =>
    match (compact as).find? (fun b => key b = key a) with
    | some w => if absorbs w a then compact as else a :: compact as
    | none => a :: compact as

variable {key absorbs}

theorem mem_of_mem_compact {as : List α} {a : α} (h : a ∈ compact key absorbs as) : a ∈ as := by
  induction as with
  | nil => exact h
  | cons b as ih =>
    have hcons : a ∈ b :: compact key absorbs as → a ∈ b :: as := by
      intro hmem
      rcases List.mem_cons.mp hmem with rfl | hmem
      · exact List.mem_cons_self
      · exact List.mem_cons_of_mem b (ih hmem)
    rw [compact] at h
    split at h
    · split at h
      · exact List.mem_cons_of_mem b (ih h)
      · exact hcons h
    · exact hcons h

/-- Once compacted, nothing more is dropped. -/
theorem compact_compact (as : List α) :
    compact key absorbs (compact key absorbs as) = compact key absorbs as := by
  induction as with
  | nil => rfl
  | cons a as ih =>
    have hkept : compact key absorbs (a :: as) = a :: compact key absorbs as →
        compact key absorbs (compact key absorbs (a :: as)) = compact key absorbs (a :: as) := by
      intro h
      rw [h, compact, ih, ← compact]
      exact h
    rw [compact] at hkept ⊢
    split at hkept
    · next w hfind =>
      split at hkept
      · next hdrop =>
        rw [if_pos hdrop]
        exact ih
      · next hdrop =>
        rw [if_neg hdrop]
        exact hkept rfl
    · exact hkept rfl

/-- **Compaction does not change where a run leads**, if actions on different keys
commute and what is dropped is absorbed. -/
theorem run_compact {as : List α}
    (hcommute : ∀ a ∈ as, ∀ b ∈ as, key a ≠ key b → Commute step a b)
    (habsorbs : ∀ a ∈ as, ∀ w ∈ as, key w = key a → absorbs w a = true → Absorbs step w a)
    {s t : σ} (hrun : run step s as = some t) : run step s (compact key absorbs as) = some t := by
  induction as generalizing s with
  | nil => exact hrun
  | cons a as ih =>
    rw [run_cons] at hrun
    obtain ⟨s', hstep, hrun⟩ := Option.bind_eq_some_iff.mp hrun
    have hrest : run step s' (compact key absorbs as) = some t :=
      ih (fun c hc d hd => hcommute c (List.mem_cons_of_mem a hc) d (List.mem_cons_of_mem a hd))
        (fun c hc w hw => habsorbs c (List.mem_cons_of_mem a hc) w (List.mem_cons_of_mem a hw)) hrun
    have hkept : run step s (a :: compact key absorbs as) = some t := by
      rw [run_cons, hstep]
      exact hrest
    rw [compact]
    split
    · next w hfind =>
      split
      · next hdrop =>
        obtain ⟨hkey, pre, post, hsplit, hpre⟩ := List.find?_eq_some_iff_append.mp hfind
        have hmem : ∀ b ∈ pre ++ w :: post, b ∈ as := fun b hb =>
          mem_of_mem_compact (hsplit ▸ hb)
        have hw : w ∈ as := hmem w (List.mem_append_right pre List.mem_cons_self)
        have hmove : ∀ b ∈ pre, Commute step a b := by
          intro b hb
          have hother : key b ≠ key a := by simpa using hpre b hb
          exact hcommute a List.mem_cons_self b
            (List.mem_cons_of_mem a (hmem b (List.mem_append_left _ hb))) (Ne.symm hother)
        -- `a` moves up to the action that absorbs it
        rw [hsplit, run_cons_append hmove, run_append] at hkept
        obtain ⟨s₁, hs₁, hkept⟩ := Option.bind_eq_some_iff.mp hkept
        rw [run_cons] at hkept
        obtain ⟨s₂, ha, hkept⟩ := Option.bind_eq_some_iff.mp hkept
        rw [run_cons] at hkept
        rw [hsplit, run_append, hs₁, Option.bind_some, run_cons,
          ← habsorbs a List.mem_cons_self w (List.mem_cons_of_mem a hw) (of_decide_eq_true hkey)
            hdrop s₁ s₂ ha]
        exact hkept
      · exact hkept
    · exact hkept

end Keys

end Runs
