/-
Incremental checks.

A check finds something, or nothing, at each key of a state.  After a step it
need not be run at every key: `CleanOutside check dirty s` says that nothing is
found outside the set `dirty`, and then

* `findings_eq` — running the check over `dirty` finds all there is;
* `clean_of_findings_eq_nil` — if that finds nothing, the state is clean.
-/
import Topogdb.Lib.Ordered

namespace Incremental

variable {σ κ φ : Type} {check : σ → κ → Option φ} {s s' : σ}

/-- Nothing is found outside `dirty`. -/
def CleanOutside (check : σ → κ → Option φ) (dirty : κ → Prop) (s : σ) : Prop :=
  ∀ k, ¬ dirty k → check s k = none

/-- Nothing is found. -/
def Clean (check : σ → κ → Option φ) (s : σ) : Prop := ∀ k, check s k = none

/-- A step that changes what is found only at dirty keys leaves the others
clean. -/
theorem Clean.step {dirty : κ → Prop} (h : Clean check s)
    (hstep : ∀ k, ¬ dirty k → check s' k = check s k) : CleanOutside check dirty s' :=
  fun k hk => (hstep k hk).trans (h k)

variable [LinearOrder κ]

/-- The check, run over a set of keys. -/
def findings (check : σ → κ → Option φ) (s : σ) (keys : Finset κ) : List φ :=
  (Ordered.list keys).filterMap (check s)

/-- The dirty keys have all the findings. -/
theorem findings_eq {dirty all : Finset κ} (h : CleanOutside check (· ∈ dirty) s)
    (hall : ∀ k, (check s k).isSome → k ∈ all) :
    findings check s dirty = findings check s all := by
  refine Ordered.list_filterMap_congr fun k hk => ?_
  constructor
  · exact fun _ => hall k hk
  · intro _
    by_contra hdirty
    rw [h k hdirty] at hk
    exact Bool.false_ne_true hk

/-- What was found clean and what was not touched is all there is. -/
theorem clean_of_findings_eq_nil {dirty : Finset κ} (h : CleanOutside check (· ∈ dirty) s)
    (hnil : findings check s dirty = []) : Clean check s := by
  intro k
  by_cases hk : k ∈ dirty
  · exact List.filterMap_eq_nil_iff.mp hnil k (Ordered.mem_list.mpr hk)
  · exact h k hk

end Incremental
