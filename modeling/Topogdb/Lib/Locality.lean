/-
Programs that look at a part of the state only.

`Local A W p Q` says that `p` cannot tell a state from one that looks like it
(`A`), that its writes are of one kind (`W`), and that its results meet `Q`.  The
rules are those of `Ends`, one a construct.

* `Local.bind`, `local_query`, `local_foldlM`, … — the rules;
* `Local.ends` — what such writes keep, the whole program keeps.
-/
import Topogdb.Lib.Program

namespace Store

variable {σ ω : Type} [Store ω σ]

/-- Writes that keep two states alike keep them alike one after the other. -/
theorem applyAll_related {A : σ → σ → Prop} {ws : List ω}
    (h : ∀ w ∈ ws, ∀ s t, A s t → A (apply w s) (apply w t)) {s t : σ} (hst : A s t) :
    A (applyAll ws s) (applyAll ws t) := by
  induction ws generalizing s t with
  | nil => exact hst
  | cons w ws ih =>
    exact ih (fun w' hw' => h w' (List.mem_cons_of_mem w hw')) (h w List.mem_cons_self s t hst)

end Store

namespace Prog

variable {σ ω ε ε' α β : Type} {A : σ → σ → Prop} {W : ω → Prop}

/-- On states that look like a third one, a statement does what it does on that
one: an error, or writes of the kind and an answer with `Q`. -/
def LocalQuery (A : σ → σ → Prop) (W : ω → Prop) (query : σ → σ → Except ε (β × List ω))
    (Q : β → Prop) : Prop :=
  ∀ seen latest s, A seen s → A latest s →
    query seen latest = query s s ∧
      ∀ b ws, query s s = .ok (b, ws) → (∀ w ∈ ws, W w) ∧ Q b

/-- Every statement that the program reaches is local. -/
def Local (A : σ → σ → Prop) (W : ω → Prop) : Prog σ ω ε α → (α → Prop) → Prop
  | pure a, Q => Q a
  | raise _, _ => True
  | stmt query next, Q => LocalQuery A W query fun b => (next b).Local A W Q

theorem local_pure {a : α} {Q : α → Prop} (h : Q a) :
    Local A W (Pure.pure a : Prog σ ω ε α) Q := h

theorem local_raise {e : ε} {Q : α → Prop} : Local A W (raise e : Prog σ ω ε α) Q := trivial

theorem LocalQuery.mono {query : σ → σ → Except ε (β × List ω)} {Q Q' : β → Prop}
    (h : LocalQuery A W query Q) (hQ : ∀ b, Q b → Q' b) : LocalQuery A W query Q' := by
  intro seen latest s hseen hlatest
  obtain ⟨hsame, hok⟩ := h seen latest s hseen hlatest
  exact ⟨hsame, fun b ws hq => ⟨(hok b ws hq).1, hQ b (hok b ws hq).2⟩⟩

theorem Local.mono {p : Prog σ ω ε α} {Q Q' : α → Prop} (h : Local A W p Q)
    (hQ : ∀ a, Q a → Q' a) : Local A W p Q' := by
  induction p with
  | pure a => exact hQ a h
  | raise e => trivial
  | stmt query next ih => exact LocalQuery.mono h ih

theorem Local.bind {p : Prog σ ω ε α} {f : α → Prog σ ω ε β} {R : α → Prop} {Q : β → Prop}
    (h : Local A W p R) (h' : ∀ a, R a → Local A W (f a) Q) : Local A W (p >>= f) Q := by
  show Local A W (p.bind f) Q
  induction p with
  | pure a => exact h' a h
  | raise e => trivial
  | stmt query next ih => exact LocalQuery.mono h ih

theorem Local.mapError {p : Prog σ ω ε α} {Q : α → Prop} (f : ε → ε') (h : Local A W p Q) :
    Local A W (p.mapError f) Q := by
  induction p with
  | pure a => exact h
  | raise e => trivial
  | stmt query next ih =>
    intro seen latest s hseen hlatest
    obtain ⟨hsame, hok⟩ := h seen latest s hseen hlatest
    refine ⟨congrArg (Except.mapError f) hsame, fun b ws hq => ?_⟩
    simp only at hq
    cases hquery : query s s with
    | error e =>
      rw [hquery] at hq
      cases hq
    | ok x =>
      rw [hquery] at hq
      cases hq
      exact ⟨(hok b ws hquery).1, ih b (hok b ws hquery).2⟩

theorem local_ofExcept {x : Except ε α} {Q : α → Prop} (h : ∀ a, x = .ok a → Q a) :
    Local A W (ofExcept x : Prog σ ω ε α) Q := by
  cases x with
  | error e => trivial
  | ok a => exact h a rfl

theorem local_query {query : σ → σ → Except ε (β × List ω)} {Q : β → Prop}
    (h : LocalQuery A W query Q) : Local A W (Prog.query query) Q := h

theorem local_select {q : σ → Except ε β} {Q : β → Prop}
    (h : ∀ seen s, A seen s → q seen = q s ∧ ∀ b, q s = .ok b → Q b) :
    Local A W (select q : Prog σ ω ε β) Q := by
  refine local_query fun seen latest s hseen _ => ?_
  obtain ⟨hsame, hok⟩ := h seen s hseen
  refine ⟨congrArg _ hsame, fun b ws hq => ?_⟩
  cases hs : q s with
  | error e =>
    rw [hs] at hq
    cases hq
  | ok b' =>
    rw [hs] at hq
    cases hq
    exact ⟨fun w hw => absurd hw List.not_mem_nil, hok b hs⟩

/-- The two ways into the rest of a program. -/
theorem Local.ite_bind {c : Prop} [Decidable c] {p q : Prog σ ω ε α} {f : α → Prog σ ω ε β}
    {R : α → Prop} {Q : β → Prop} (hp : c → Local A W p R) (hq : ¬ c → Local A W q R)
    (h : ∀ a, R a → Local A W (f a) Q) : Local A W (if c then p >>= f else q >>= f) Q := by
  split
  · next hc => exact (hp hc).bind h
  · next hc => exact (hq hc).bind h

/-- A loop keeps its invariant. -/
theorem local_foldlM {f : β → α → Prog σ ω ε β} {I : β → Prop} {as : List α}
    (hstep : ∀ a ∈ as, ∀ b, I b → Local A W (f b a) I) {b : β} (h : I b) :
    Local A W (as.foldlM f b) I := by
  induction as generalizing b with
  | nil => exact local_pure h
  | cons a as ih =>
    rw [List.foldlM_cons]
    exact (hstep a List.mem_cons_self b h).bind fun b' h' =>
      ih (fun a' ha' => hstep a' (List.mem_cons_of_mem a ha')) h'

/-- A loop without an accumulator. -/
theorem local_forM {f : α → Prog σ ω ε PUnit} {as : List α}
    (hstep : ∀ a ∈ as, Local A W (f a) fun _ => True) :
    Local A W (as.forM f) fun _ => True := by
  induction as with
  | nil => exact local_pure trivial
  | cons a as ih =>
    show Local A W (f a >>= fun _ => as.forM f) _
    exact (hstep a List.mem_cons_self).bind fun _ _ =>
      ih fun a' ha' => hstep a' (List.mem_cons_of_mem a ha')

/-- A list of programs. -/
theorem local_mapM {f : α → Prog σ ω ε β} {P : β → Prop} {as : List α}
    (h : ∀ a ∈ as, Local A W (f a) P) : Local A W (as.mapM f) fun bs => ∀ b ∈ bs, P b := by
  induction as with
  | nil => exact local_pure fun b hb => absurd hb List.not_mem_nil
  | cons a as ih =>
    rw [List.mapM_cons]
    refine (h a List.mem_cons_self).bind fun b hb => ?_
    refine (ih fun a' ha' => h a' (List.mem_cons_of_mem a ha')).bind fun bs hbs => ?_
    exact local_pure (List.forall_mem_cons.mpr ⟨hb, hbs⟩)

/-- **What every write of the kind keeps, a local program keeps.** -/
theorem Local.ends [Store ω σ] {I : σ → Prop} {p : Prog σ ω ε α} {Q : α → Prop}
    (h : Local A W p Q) (hlooks : ∀ s, I s → A s s)
    (hkeeps : ∀ w s, W w → I s → I (Store.apply w s)) {s : σ} (hs : I s) :
    Ends p s fun a s' => Q a ∧ I s' := by
  induction p generalizing s with
  | pure a => exact ends_pure ⟨h, hs⟩
  | raise e => exact ends_raise
  | stmt query next ih =>
    intro a s' hrun
    obtain ⟨-, hok⟩ := h s s s (hlooks s hs) (hlooks s hs)
    rw [run] at hrun
    cases hquery : query s s with
    | error e =>
      rw [hquery] at hrun
      cases hrun
    | ok x =>
      rw [hquery] at hrun
      obtain ⟨hws, hnext⟩ := hok x.1 x.2 hquery
      refine ih x.1 hnext ?_ a s' hrun
      exact Store.applyAll_invariant (fun w hw t ht => hkeeps w t (hws w hw) ht) hs

end Prog
