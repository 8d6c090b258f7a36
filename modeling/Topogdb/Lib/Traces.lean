/-
Systems that answer.

A system takes actions one after another and answers each: `step : σ → α → β × σ`.
Its answered actions may stand for actions of another, partial system on the same
states, as in `Runs`.

* `run_serve` — if each answered action leads where the actions that it stands for
  lead, then so does every sequence of them.
-/
import Topogdb.Lib.Schedules

namespace Traces

variable {σ α β γ : Type*}

/-- Take the actions in order. -/
def serve (step : σ → α → β × σ) : σ → List α → List β × σ
  | s, [] => ([], s)
  | s, a :: as =>
    let answered := step s a
    let rest := serve step answered.2 as
    (answered.1 :: rest.1, rest.2)

/-- What the answered actions stand for. -/
def standFor (calls : α → β → List γ) (as : List α) (bs : List β) : List γ :=
  (as.zip bs).flatMap fun x => calls x.1 x.2

variable {step : σ → α → β × σ} {astep : σ → γ → Option σ} {calls : α → β → List γ}

theorem serve_cons (s : σ) (a : α) (as : List α) :
    serve step s (a :: as) =
      ((step s a).1 :: (serve step (step s a).2 as).1, (serve step (step s a).2 as).2) := rfl

theorem standFor_cons (a : α) (as : List α) (b : β) (bs : List β) :
    standFor calls (a :: as) (b :: bs) = calls a b ++ standFor calls as bs := by
  simp [standFor]

/-- **A system whose answered actions lead where others do, leads where they do one
after another.** -/
theorem run_serve {I : σ → Prop} {as : List α}
    (hstep : ∀ s, ∀ a ∈ as, I s →
      Runs.run astep s (calls a (step s a).1) = some (step s a).2 ∧ I (step s a).2) {s : σ}
    (hs : I s) :
    Runs.run astep s (standFor calls as (serve step s as).1) = some (serve step s as).2 := by
  induction as generalizing s with
  | nil => rfl
  | cons a as ih =>
    obtain ⟨hrun, hkeep⟩ := hstep s a List.mem_cons_self hs
    have hrest := ih (fun s' a' ha' => hstep s' a' (List.mem_cons_of_mem a ha')) hkeep
    rw [serve_cons, standFor_cons, Runs.run_append, hrun, Option.bind_some]
    exact hrest

end Traces
