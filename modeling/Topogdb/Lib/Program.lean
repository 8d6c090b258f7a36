/-
Programs of database statements.

A `Prog` is a sequence of statements with control flow between them.  A
statement is given the state as it was when the statement began and the state
as it is when it writes; it fails, or answers and writes.

* `run` — a program on its own, where the two states are one;
* `Ends` — the postcondition of a program that does not fail, with one rule a
  construct;
* `Fails` — the same for the errors of a program that does.

A failing program leaves no state: whoever catches the error goes back to the
state before it.
-/
import Mathlib.Data.List.Basic

/-- A kind of write, and what it does to a state. -/
class Store (ω σ : Type) where
  apply : ω → σ → σ

namespace Store

variable {ω σ : Type} [Store ω σ]

/-- Apply writes in order. -/
def applyAll (ws : List ω) (s : σ) : σ := ws.foldl (fun s w => apply w s) s

@[simp] theorem applyAll_nil (s : σ) : applyAll ([] : List ω) s = s := rfl

@[simp] theorem applyAll_cons (w : ω) (ws : List ω) (s : σ) :
    applyAll (w :: ws) s = applyAll ws (apply w s) := rfl

theorem applyAll_append (ws ws' : List ω) (s : σ) :
    applyAll (ws ++ ws') s = applyAll ws' (applyAll ws s) :=
  List.foldl_append

/-- What every write of a list keeps, the list keeps. -/
theorem applyAll_invariant {P : σ → Prop} {ws : List ω}
    (h : ∀ w ∈ ws, ∀ s, P s → P (apply w s)) {s : σ} (hs : P s) : P (applyAll ws s) := by
  induction ws generalizing s with
  | nil => exact hs
  | cons w ws ih =>
    exact ih (fun w' hw' => h w' (List.mem_cons_of_mem w hw')) (h w List.mem_cons_self s hs)

end Store

/-- A program over states `σ` with writes `ω` and errors `ε`. -/
inductive Prog (σ ω ε α : Type) : Type 1 where
  | pure (a : α)
  | raise (e : ε)
  | stmt {β : Type} (query : σ → σ → Except ε (β × List ω)) (next : β → Prog σ ω ε α)

namespace Prog

variable {σ ω ε ε' α β : Type}

def bind (p : Prog σ ω ε α) (f : α → Prog σ ω ε β) : Prog σ ω ε β :=
  match p with
  | pure a => f a
  | raise e => raise e
  | stmt query next => stmt query fun b => (next b).bind f

instance : Monad (Prog σ ω ε) where
  pure := Prog.pure
  bind := Prog.bind

theorem bind_pure' (p : Prog σ ω ε α) : p.bind pure = p := by
  induction p with
  | pure a => rfl
  | raise e => rfl
  | stmt query next ih => exact congrArg (stmt query) (funext ih)

theorem bind_assoc' {γ : Type} (p : Prog σ ω ε α) (f : α → Prog σ ω ε β) (g : β → Prog σ ω ε γ) :
    (p.bind f).bind g = p.bind fun a => (f a).bind g := by
  induction p with
  | pure a => rfl
  | raise e => rfl
  | stmt query next ih => exact congrArg (stmt query) (funext ih)

instance : LawfulMonad (Prog σ ω ε) :=
  LawfulMonad.mk' (Prog σ ω ε) bind_pure' (fun _ _ => rfl) bind_assoc'

/-- The same program with its errors renamed. -/
def mapError (f : ε → ε') : Prog σ ω ε α → Prog σ ω ε' α
  | pure a => pure a
  | raise e => raise (f e)
  | stmt query next => stmt (fun seen latest => (query seen latest).mapError f)
      fun b => (next b).mapError f

/-- A computation that touches no table. -/
def ofExcept : Except ε α → Prog σ ω ε α
  | .ok a => pure a
  | .error e => raise e

/-- A statement. -/
def query (q : σ → σ → Except ε (β × List ω)) : Prog σ ω ε β := stmt q pure

/-- A statement that only reads. -/
def select (q : σ → Except ε β) : Prog σ ω ε β :=
  query fun seen _ => (q seen).map fun b => (b, [])

/-! ### On its own -/

section Run

variable [Store ω σ]

/-- Run a program with nobody else around. -/
def run : Prog σ ω ε α → σ → Except ε (α × σ)
  | pure a, s => .ok (a, s)
  | raise e, _ => .error e
  | stmt query next, s =>
    match query s s with
    | .ok (b, ws) => (next b).run (Store.applyAll ws s)
    | .error e => .error e

@[simp] theorem run_pure (a : α) (s : σ) :
    run (Pure.pure a : Prog σ ω ε α) s = .ok (a, s) := rfl

@[simp] theorem run_raise (e : ε) (s : σ) : run (raise e : Prog σ ω ε α) s = .error e := rfl

theorem run_bind (p : Prog σ ω ε α) (f : α → Prog σ ω ε β) (s : σ) :
    run (p >>= f) s
      = match run p s with
        | .ok (a, s') => run (f a) s'
        | .error e => .error e := by
  show run (p.bind f) s = _
  induction p generalizing s with
  | pure a => rfl
  | raise e => rfl
  | stmt query next ih =>
    simp only [Prog.bind, run]
    cases query s s with
    | error e => rfl
    | ok x => exact ih x.1 (Store.applyAll x.2 s)

theorem run_bind_eq_ok {p : Prog σ ω ε α} {f : α → Prog σ ω ε β} {s s' : σ} {b : β} :
    run (p >>= f) s = .ok (b, s') ↔
      ∃ a s₁, run p s = .ok (a, s₁) ∧ run (f a) s₁ = .ok (b, s') := by
  rw [run_bind]
  cases run p s with
  | error e => exact iff_of_false (fun h => nomatch h) fun ⟨_, _, h, _⟩ => nomatch h
  | ok x => exact ⟨fun h => ⟨x.1, x.2, rfl, h⟩, fun ⟨_, _, hx, h⟩ => by cases hx; exact h⟩

/-- Two ways on from the same results. -/
theorem run_bind_congr {p : Prog σ ω ε α} {f g : α → Prog σ ω ε β} {s : σ}
    (h : ∀ a s', run p s = .ok (a, s') → run (f a) s' = run (g a) s') :
    run (p >>= f) s = run (p >>= g) s := by
  rw [run_bind, run_bind]
  cases hp : run p s with
  | error e => rfl
  | ok x => exact h x.1 x.2 hp

theorem run_mapError (f : ε → ε') (p : Prog σ ω ε α) (s : σ) :
    run (p.mapError f) s = (run p s).mapError f := by
  induction p generalizing s with
  | pure a => rfl
  | raise e => rfl
  | stmt query next ih =>
    simp only [mapError, run]
    cases query s s with
    | error e => rfl
    | ok x => exact ih x.1 (Store.applyAll x.2 s)

theorem run_ofExcept (x : Except ε α) (s : σ) :
    run (ofExcept x : Prog σ ω ε α) s = x.map fun a => (a, s) := by
  cases x <;> rfl

theorem run_ofExcept_eq_ok {x : Except ε α} {s s' : σ} {a : α} :
    run (ofExcept x : Prog σ ω ε α) s = .ok (a, s') ↔ x = .ok a ∧ s' = s := by
  cases x with
  | error e => simp [ofExcept]
  | ok b => simp [ofExcept, run, eq_comm]

theorem run_ofExcept_eq_error {x : Except ε α} {s : σ} {e : ε} :
    run (ofExcept x : Prog σ ω ε α) s = .error e ↔ x = .error e := by
  cases x with
  | error e => simp [ofExcept]
  | ok b => simp [ofExcept, run]

theorem run_mapError_eq_ok {f : ε → ε'} {p : Prog σ ω ε α} {s s' : σ} {a : α} :
    run (p.mapError f) s = .ok (a, s') ↔ run p s = .ok (a, s') := by
  rw [run_mapError]
  cases run p s with
  | error e => simp [Except.mapError]
  | ok x => simp [Except.mapError]

theorem run_query (q : σ → σ → Except ε (β × List ω)) (s : σ) :
    run (query q) s = (q s s).map fun x => (x.1, Store.applyAll x.2 s) := by
  simp only [query, run]
  cases q s s <;> rfl

theorem run_select (q : σ → Except ε β) (s : σ) :
    run (select q : Prog σ ω ε β) s = (q s).map fun b => (b, s) := by
  rw [select, run_query]
  cases q s <;> rfl

/-! ### Postconditions -/

/-- Unless `p` fails, it ends with `Q`. -/
def Ends (p : Prog σ ω ε α) (s : σ) (Q : α → σ → Prop) : Prop :=
  ∀ a s', run p s = .ok (a, s') → Q a s'

theorem Ends.mono {p : Prog σ ω ε α} {s : σ} {Q Q' : α → σ → Prop} (h : Ends p s Q)
    (hQ : ∀ a s', Q a s' → Q' a s') : Ends p s Q' :=
  fun a s' hrun => hQ a s' (h a s' hrun)

theorem Ends.and {p : Prog σ ω ε α} {s : σ} {Q Q' : α → σ → Prop} (h : Ends p s Q)
    (h' : Ends p s Q') : Ends p s fun a s' => Q a s' ∧ Q' a s' :=
  fun a s' hrun => ⟨h a s' hrun, h' a s' hrun⟩

theorem ends_pure {a : α} {s : σ} {Q : α → σ → Prop} (h : Q a s) :
    Ends (Pure.pure a : Prog σ ω ε α) s Q := by
  rintro a' s' hrun
  cases hrun
  exact h

theorem ends_raise {e : ε} {s : σ} {Q : α → σ → Prop} : Ends (raise e : Prog σ ω ε α) s Q := by
  rintro a s' hrun
  cases hrun

theorem Ends.bind {p : Prog σ ω ε α} {f : α → Prog σ ω ε β} {s : σ} {R : α → σ → Prop}
    {Q : β → σ → Prop} (h : Ends p s R) (h' : ∀ a s', R a s' → Ends (f a) s' Q) :
    Ends (p >>= f) s Q := by
  intro b t hrun
  rw [run_bind] at hrun
  cases hp : run p s with
  | error e =>
    rw [hp] at hrun
    cases hrun
  | ok x =>
    rw [hp] at hrun
    exact h' x.1 x.2 (h x.1 x.2 hp) b t hrun

/-- The two ways into the rest of a program. -/
theorem Ends.ite_bind {c : Prop} [Decidable c] {p q : Prog σ ω ε α} {f : α → Prog σ ω ε β} {s : σ}
    {R : α → σ → Prop} {Q : β → σ → Prop} (hp : c → Ends p s R) (hq : ¬ c → Ends q s R)
    (h : ∀ a s', R a s' → Ends (f a) s' Q) : Ends (if c then p >>= f else q >>= f) s Q := by
  split
  · next hc => exact (hp hc).bind h
  · next hc => exact (hq hc).bind h

/-- A program ends where it ends. -/
theorem ends_run (p : Prog σ ω ε α) (s : σ) : Ends p s fun a s' => run p s = .ok (a, s') :=
  fun _ _ hrun => hrun

theorem ends_ofExcept {x : Except ε α} {s : σ} {Q : α → σ → Prop} (h : ∀ a, x = .ok a → Q a s) :
    Ends (ofExcept x : Prog σ ω ε α) s Q := by
  cases x with
  | error e => exact ends_raise
  | ok a => exact ends_pure (h a rfl)

theorem ends_query {q : σ → σ → Except ε (β × List ω)} {s : σ} {Q : β → σ → Prop}
    (h : ∀ b ws, q s s = .ok (b, ws) → Q b (Store.applyAll ws s)) : Ends (query q) s Q := by
  rintro b t hrun
  rw [run_query] at hrun
  cases hq : q s s with
  | error e =>
    rw [hq] at hrun
    cases hrun
  | ok x =>
    obtain ⟨b', ws⟩ := x
    rw [hq] at hrun
    cases hrun
    exact h _ ws hq

theorem ends_select {q : σ → Except ε β} {s : σ} {Q : β → σ → Prop}
    (h : ∀ b, q s = .ok b → Q b s) : Ends (select q : Prog σ ω ε β) s Q := by
  rintro b t hrun
  rw [run_select] at hrun
  cases hq : q s with
  | error e =>
    rw [hq] at hrun
    cases hrun
  | ok b' =>
    rw [hq] at hrun
    cases hrun
    exact h _ hq

theorem Ends.mapError {p : Prog σ ω ε α} {s : σ} {Q : α → σ → Prop} (f : ε → ε')
    (h : Ends p s Q) : Ends (p.mapError f) s Q := by
  intro a t hrun
  rw [run_mapError] at hrun
  cases hp : run p s with
  | error e =>
    rw [hp] at hrun
    cases hrun
  | ok x =>
    obtain ⟨a', s'⟩ := x
    rw [hp] at hrun
    cases hrun
    exact h _ _ hp

/-- A loop keeps its invariant, which may speak of the elements still to come. -/
theorem ends_foldlM {f : β → α → Prog σ ω ε β} {I : List α → β → σ → Prop}
    (hstep : ∀ a as b s, I (a :: as) b s → Ends (f b a) s fun b' s' => I as b' s') (as : List α)
    {b : β} {s : σ} (h : I as b s) : Ends (as.foldlM f b) s fun b' s' => I [] b' s' := by
  induction as generalizing b s with
  | nil => exact ends_pure h
  | cons a as ih =>
    rw [List.foldlM_cons]
    exact (hstep a as b s h).bind fun b' s' h' => ih h'

/-- A loop without an accumulator. -/
theorem ends_forM {f : α → Prog σ ω ε PUnit} {I : σ → Prop} {as : List α}
    (hstep : ∀ a ∈ as, ∀ s, I s → Ends (f a) s fun _ s' => I s') {s : σ} (h : I s) :
    Ends (as.forM f) s fun _ s' => I s' := by
  induction as generalizing s with
  | nil => exact ends_pure h
  | cons a as ih =>
    show Ends (f a >>= fun _ => as.forM f) s _
    exact (hstep a List.mem_cons_self s h).bind fun _ s' h' =>
      ih (fun a' ha' => hstep a' (List.mem_cons_of_mem a ha')) h'

/-! ### Failures -/

/-- If `p` fails, it fails with an error that `E` describes. -/
def Fails (p : Prog σ ω ε α) (s : σ) (E : ε → Prop) : Prop := ∀ e, run p s = .error e → E e

theorem fails_pure {a : α} {s : σ} {E : ε → Prop} :
    Fails (Pure.pure a : Prog σ ω ε α) s E := by
  rintro e hrun
  cases hrun

theorem fails_raise {e : ε} {s : σ} {E : ε → Prop} (h : E e) :
    Fails (raise e : Prog σ ω ε α) s E := by
  rintro e' hrun
  cases hrun
  exact h

theorem Fails.bind {p : Prog σ ω ε α} {f : α → Prog σ ω ε β} {s : σ} {E : ε → Prop}
    (h : Fails p s E) (h' : ∀ a s', run p s = .ok (a, s') → Fails (f a) s' E) :
    Fails (p >>= f) s E := by
  intro e hrun
  rw [run_bind] at hrun
  cases hp : run p s with
  | error e' =>
    rw [hp] at hrun
    cases hrun
    exact h _ hp
  | ok x =>
    rw [hp] at hrun
    exact h' x.1 x.2 hp e hrun

/-- The two ways into the rest of a program. -/
theorem Fails.ite_bind {c : Prop} [Decidable c] {p q : Prog σ ω ε α} {f : α → Prog σ ω ε β}
    {s : σ} {E : ε → Prop} {R : α → σ → Prop} (hp : c → Fails p s E ∧ Ends p s R)
    (hq : ¬ c → Fails q s E ∧ Ends q s R) (h : ∀ a s', R a s' → Fails (f a) s' E) :
    Fails (if c then p >>= f else q >>= f) s E := by
  split
  · next hc => exact (hp hc).1.bind fun a s' hrun => h a s' ((hp hc).2 a s' hrun)
  · next hc => exact (hq hc).1.bind fun a s' hrun => h a s' ((hq hc).2 a s' hrun)

theorem Fails.mapError {p : Prog σ ω ε α} {s : σ} {E : ε' → Prop} (f : ε → ε')
    (h : ∀ e, run p s = .error e → E (f e)) : Fails (p.mapError f) s E := by
  intro e hrun
  rw [run_mapError] at hrun
  cases hp : run p s with
  | error e' =>
    rw [hp] at hrun
    cases hrun
    exact h _ hp
  | ok x =>
    rw [hp] at hrun
    cases hrun

/-- A loop fails at one of its elements, after the elements before it. -/
theorem run_foldlM_error {f : β → α → Prog σ ω ε β} {as : List α} {b : β} {s : σ} {e : ε}
    (h : run (as.foldlM f b) s = .error e) :
    ∃ before a after b' s', as = before ++ a :: after ∧ run (before.foldlM f b) s = .ok (b', s') ∧
      run (f b' a) s' = .error e := by
  induction as generalizing b s with
  | nil => cases h
  | cons a as ih =>
    rw [List.foldlM_cons, run_bind] at h
    cases hstep : run (f b a) s with
    | error e' =>
      rw [hstep] at h
      cases h
      exact ⟨[], a, as, b, s, rfl, rfl, hstep⟩
    | ok x =>
      rw [hstep] at h
      obtain ⟨before, a', after, b', s', rfl, hbefore, hfails⟩ := ih h
      refine ⟨a :: before, a', after, b', s', rfl, ?_, hfails⟩
      rw [List.foldlM_cons, run_bind, hstep]
      exact hbefore

/-- A list of queries. -/
theorem ends_mapM {f : α → Prog σ ω ε β} {P : β → Prop} {s : σ} {as : List α}
    (h : ∀ a ∈ as, Ends (f a) s fun b s' => s' = s ∧ P b) :
    Ends (as.mapM f) s fun bs s' => s' = s ∧ ∀ b ∈ bs, P b := by
  induction as with
  | nil => exact ends_pure ⟨rfl, fun b hb => absurd hb List.not_mem_nil⟩
  | cons a as ih =>
    rw [List.mapM_cons]
    refine (h a List.mem_cons_self).bind ?_
    rintro b s' ⟨rfl, hb⟩
    refine (ih fun a' ha' => h a' (List.mem_cons_of_mem a ha')).bind ?_
    rintro bs s' ⟨rfl, hbs⟩
    refine ends_pure ⟨rfl, fun b' hb' => ?_⟩
    rcases List.mem_cons.mp hb' with rfl | hmem
    · exact hb
    · exact hbs b' hmem

/-- A list of queries answers query by query. -/
theorem run_mapM_eq_ok {f : α → Prog σ ω ε β} {s : σ} {as : List α}
    (h : ∀ a ∈ as, Ends (f a) s fun _ s' => s' = s) {bs : List β} :
    run (as.mapM f) s = .ok (bs, s) ↔
      List.Forall₂ (fun a b => run (f a) s = .ok (b, s)) as bs := by
  induction as generalizing bs with
  | nil =>
    rw [List.mapM_nil, run_pure]
    constructor
    · intro h
      cases h
      exact .nil
    · intro h
      cases h
      rfl
  | cons a as ih =>
    have hrest : ∀ bs, run (as.mapM f) s = .ok (bs, s) ↔
        List.Forall₂ (fun a b => run (f a) s = .ok (b, s)) as bs :=
      fun bs => ih fun a' ha' => h a' (List.mem_cons_of_mem a ha')
    rw [List.mapM_cons, run_bind]
    cases ha : run (f a) s with
    | error e =>
      refine iff_of_false (fun h => nomatch h) fun hall => ?_
      cases hall with
      | cons hb _ =>
        rw [ha] at hb
        cases hb
    | ok x =>
      obtain ⟨b, s'⟩ := x
      obtain rfl : s' = s := h a List.mem_cons_self b s' ha
      simp only [run_bind]
      have hreads : Ends (as.mapM f) s' fun bs s'' => s'' = s' ∧ ∀ b ∈ bs, True :=
        ends_mapM fun a' ha' =>
          (h a' (List.mem_cons_of_mem a ha')).mono fun _ _ hs => ⟨hs, trivial⟩
      constructor
      · intro hrun
        cases has : run (as.mapM f) s' with
        | error e =>
          rw [has] at hrun
          cases hrun
        | ok y =>
          obtain ⟨bs', s''⟩ := y
          obtain ⟨rfl, -⟩ := hreads bs' s'' has
          rw [has] at hrun
          cases hrun
          exact .cons ha ((hrest bs').mp has)
      · intro hall
        cases hall with
        | cons hb hbs =>
          rw [(hrest _).mpr hbs]
          rw [ha] at hb
          cases hb
          rfl

end Run

end Prog
