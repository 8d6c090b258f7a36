/-
Computations on a database connection.

* `Session` — a computation whose state outlives an exception;
* `transaction` — a transaction, or inside one a savepoint: an exception takes
  its writes back;
* `catching` — an exception handler that goes on;
* `outcome` — what a session leaves when its exceptions are all that counts;
* `outcome_forM` — statements in savepoints, whose tolerated errors are passed over.
-/
import Mathlib.Data.List.Basic

/-- A computation on a connection. -/
def Session (σ ε α : Type) : Type := σ → Except ε α × σ

namespace Session

variable {σ ε α β γ : Type}

instance : Monad (Session σ ε) where
  pure a := fun s => (.ok a, s)
  bind x f := fun s =>
    match x s with
    | (.ok a, s') => f a s'
    | (.error e, s') => (.error e, s')

/-- A query that writes nothing. -/
def select (q : σ → Except ε α) : Session σ ε α := fun s => (q s, s)

/-- One command, which has no effect when it fails. -/
def execute (command : σ → Except ε σ) : Session σ ε Unit := fun s =>
  match command s with
  | .ok s' => (.ok (), s')
  | .error e => (.error e, s)

/-- `with conn.transaction():` -/
def transaction (body : Session σ ε α) : Session σ ε α := fun s =>
  match body s with
  | (.ok a, s') => (.ok a, s')
  | (.error e, _) => (.error e, s)

/-- `try: … except …: continue`. -/
def catching (tolerated : ε → Bool) (body : Session σ ε Unit) : Session σ ε Unit := fun s =>
  match body s with
  | (.ok _, s') => (.ok (), s')
  | (.error e, s') => if tolerated e then (.ok (), s') else (.error e, s')

/-! ### Outcomes -/

/-- The value and the state, or the exception. -/
def outcome (x : Session σ ε α) (s : σ) : Except ε (α × σ) :=
  match x s with
  | (.ok a, s') => .ok (a, s')
  | (.error e, _) => .error e

/-- **A transaction is all or nothing.** -/
theorem transaction_eq (body : Session σ ε α) (s : σ) :
    transaction body s =
      match outcome body s with
      | .ok (a, s') => (.ok a, s')
      | .error e => (.error e, s) := by
  rw [transaction, outcome]
  rcases body s with ⟨_ | a, s'⟩ <;> rfl

theorem outcome_bind (x : Session σ ε α) (f : α → Session σ ε β) (s : σ) :
    outcome (x >>= f) s = (outcome x s).bind fun r => outcome (f r.1) r.2 := by
  have hbind : (x >>= f) s = match x s with
      | (.ok a, s') => f a s'
      | (.error e, s') => (.error e, s') := rfl
  rw [outcome, outcome.eq_def x, hbind]
  rcases x s with ⟨_ | a, s'⟩ <;> rfl

@[simp] theorem outcome_pure (a : α) (s : σ) :
    outcome (pure a : Session σ ε α) s = .ok (a, s) := rfl

/-- A query, and what is done with its answer. -/
theorem outcome_select_bind (q : σ → Except ε α) (f : α → Session σ ε β) (s : σ) :
    outcome (select q >>= f) s = (q s).bind fun a => outcome (f a) s := by
  rw [outcome_bind, outcome.eq_def (select q), select]
  cases q s <;> rfl

/-- A command whose tolerated errors are passed over. -/
def tolerate (tolerated : ε → Bool) (command : σ → Except ε σ) (s : σ) : Except ε σ :=
  match command s with
  | .ok s' => .ok s'
  | .error e => if tolerated e then .ok s else .error e

theorem outcome_catching (tolerated : ε → Bool) (command : σ → Except ε σ) (s : σ) :
    outcome (catching tolerated (transaction (execute command))) s =
      (tolerate tolerated command s).map fun s' => ((), s') := by
  rw [outcome, catching, transaction, execute, tolerate]
  cases command s with
  | ok s' => rfl
  | error e =>
    dsimp only
    cases htolerated : tolerated e <;> rfl

/-- **Statement after statement**, each in a savepoint of its own. -/
theorem outcome_forM (tolerated : ε → Bool) (command : γ → σ → Except ε σ) (statements : List γ)
    (s : σ) :
    outcome (statements.forM fun c => catching tolerated (transaction (execute (command c)))) s =
      (statements.foldlM (fun s c => tolerate tolerated (command c) s) s).map
        fun s' => ((), s') := by
  induction statements generalizing s with
  | nil => rfl
  | cons c statements ih =>
    have hforM : ((c :: statements).forM fun c =>
        catching tolerated (transaction (execute (command c)))) =
          (catching tolerated (transaction (execute (command c))) >>= fun _ =>
            statements.forM fun c => catching tolerated (transaction (execute (command c)))) := rfl
    rw [hforM, outcome_bind, outcome_catching, List.foldlM_cons]
    cases htolerate : tolerate tolerated (command c) s with
    | error e => rfl
    | ok s' => exact ih s'

end Session
