/-
Programs that publish events and post requests.

A `Task` runs in a `World` that decides whether publishing an event raises and
how the n-th request is answered, and logs what it attempts.

`Yields answer m k r events requests` says that `m`, started after `k` requests
to a world with these answers, ends in `r`, having attempted `events` and posted
`requests`, whatever the publisher does.  The rules compose such facts along
`bind` and `tryCatch`; `Yields.eq_of_worlds` reads off that the publisher makes
no difference.
-/
import Mathlib.Data.Nat.Notation

universe u

namespace Effects

/-- The outside: what publishing raises, given what was attempted before, and
the answer to the n-th request. -/
structure World (ε ω ρ τ : Type u) where
  raises : List ω → ω → Option ε
  answer : ℕ → ρ → τ

/-- What a task has done so far. -/
structure Log (ω ρ : Type u) where
  attempted : List ω := []
  published : List ω := []
  requests : List ρ := []

/-- A task in a world, with exceptions that keep the log. -/
abbrev Task (ε ω ρ τ α : Type u) := ReaderT (World ε ω ρ τ) (ExceptT ε (StateM (Log ω ρ))) α

variable {ε ω ρ τ α β : Type u}

/-- Run a task. -/
def exec (m : Task ε ω ρ τ α) (w : World ε ω ρ τ) (log : Log ω ρ) : Except ε α × Log ω ρ :=
  (ExceptT.run (m w)).run log

/-- Hand an event to the publisher, which may raise. -/
def publish (event : ω) : Task ε ω ρ τ PUnit := fun w log =>
  match w.raises log.attempted event with
  | some e => (.error e, { log with attempted := log.attempted ++ [event] })
  | none =>
    (.ok ⟨⟩, { log with
      attempted := log.attempted ++ [event]
      published := log.published ++ [event] })

/-- Post a request. -/
def post (request : ρ) : Task ε ω ρ τ τ := fun w log =>
  (.ok (w.answer log.requests.length request), { log with requests := log.requests ++ [request] })

/-- A computation without effects. -/
def lift (x : Except ε α) : Task ε ω ρ τ α := fun _ log => (x, log)

/-- `try m except e: handler e`. -/
def handle (m : Task ε ω ρ τ α) (handler : ε → Task ε ω ρ τ α) : Task ε ω ρ τ α := fun w log =>
  match exec m w log with
  | (.ok a, log') => (.ok a, log')
  | (.error e, log') => handler e w log'

variable (answer : ℕ → ρ → τ)

/-- From `k` requests on, `m` ends in `r` with these events and requests. -/
def Yields (m : Task ε ω ρ τ α) (k : ℕ) (r : Except ε α) (events : List ω) (requests : List ρ) :
    Prop :=
  ∀ raises log, log.requests.length = k →
    (exec m ⟨raises, answer⟩ log).1 = r ∧
      (exec m ⟨raises, answer⟩ log).2.attempted = log.attempted ++ events ∧
      (exec m ⟨raises, answer⟩ log).2.requests = log.requests ++ requests

variable {answer} {k : ℕ} {events events' : List ω} {requests requests' : List ρ}

theorem exec_bind (m : Task ε ω ρ τ α) (f : α → Task ε ω ρ τ β) (w : World ε ω ρ τ)
    (log : Log ω ρ) :
    exec (m >>= f) w log
      = match (exec m w log).1 with
        | .ok a => exec (f a) w (exec m w log).2
        | .error e => (.error e, (exec m w log).2) := by
  show StateT.run (ExceptT.run (m w >>= fun a => f a w)) log = _
  rw [ExceptT.run_bind, StateT.run_bind]
  show StateT.run (match (exec m w log).1 with
    | .ok a => ExceptT.run (f a w)
    | .error e => pure (.error e)) (exec m w log).2 = _
  cases (exec m w log).1 <;> rfl

theorem exec_handle (m : Task ε ω ρ τ α) (handler : ε → Task ε ω ρ τ α) (w : World ε ω ρ τ)
    (log : Log ω ρ) :
    exec (handle m handler) w log
      = match (exec m w log).1 with
        | .ok a => (.ok a, (exec m w log).2)
        | .error e => exec (handler e) w (exec m w log).2 := by
  show handle m handler w log = _
  rw [handle]
  rcases exec m w log with ⟨x, log'⟩
  cases x <;> rfl

theorem yields_pure (a : α) : Yields answer (pure a : Task ε ω ρ τ α) k (.ok a) [] [] :=
  fun _ log _ => ⟨rfl, (List.append_nil log.attempted).symm, (List.append_nil log.requests).symm⟩

theorem yields_lift (x : Except ε α) : Yields answer (lift x : Task ε ω ρ τ α) k x [] [] :=
  fun _ log _ => ⟨rfl, (List.append_nil log.attempted).symm, (List.append_nil log.requests).symm⟩

theorem yields_post (request : ρ) :
    Yields answer (post request : Task ε ω ρ τ τ) k (.ok (answer k request)) [] [request] := by
  rintro raises log rfl
  exact ⟨rfl, (List.append_nil log.attempted).symm, rfl⟩

theorem Yields.bind {m : Task ε ω ρ τ α} {f : α → Task ε ω ρ τ β} {a : α} {r : Except ε β}
    (h : Yields answer m k (.ok a) events requests)
    (h' : Yields answer (f a) (k + requests.length) r events' requests') :
    Yields answer (m >>= f) k r (events ++ events') (requests ++ requests') := by
  rintro raises log hk
  obtain ⟨hr, he, hq⟩ := h raises log hk
  have hlen : (exec m ⟨raises, answer⟩ log).2.requests.length = k + requests.length := by
    rw [hq, List.length_append, hk]
  obtain ⟨hr', he', hq'⟩ := h' raises _ hlen
  simp only [exec_bind, hr]
  refine ⟨hr', ?_, ?_⟩
  · rw [he', he, List.append_assoc]
  · rw [hq', hq, List.append_assoc]

theorem Yields.bind_error {m : Task ε ω ρ τ α} {f : α → Task ε ω ρ τ β} {e : ε}
    (h : Yields answer m k (.error e) events requests) :
    Yields answer (m >>= f) k (.error e) events requests := by
  rintro raises log hk
  obtain ⟨hr, he, hq⟩ := h raises log hk
  simp only [exec_bind, hr]
  exact ⟨trivial, he, hq⟩

theorem Yields.handle {m : Task ε ω ρ τ α} {handler : ε → Task ε ω ρ τ α} {a : α}
    (h : Yields answer m k (.ok a) events requests) :
    Yields answer (Effects.handle m handler) k (.ok a) events requests := by
  rintro raises log hk
  obtain ⟨hr, he, hq⟩ := h raises log hk
  simp only [exec_handle, hr]
  exact ⟨trivial, he, hq⟩

theorem Yields.handle_error {m : Task ε ω ρ τ α} {handler : ε → Task ε ω ρ τ α} {e : ε}
    {r : Except ε α} (h : Yields answer m k (.error e) events requests)
    (h' : Yields answer (handler e) (k + requests.length) r events' requests') :
    Yields answer (Effects.handle m handler) k r (events ++ events') (requests ++ requests') := by
  rintro raises log hk
  obtain ⟨hr, he, hq⟩ := h raises log hk
  have hlen : (exec m ⟨raises, answer⟩ log).2.requests.length = k + requests.length := by
    rw [hq, List.length_append, hk]
  obtain ⟨hr', he', hq'⟩ := h' raises _ hlen
  simp only [exec_handle, hr]
  refine ⟨hr', ?_, ?_⟩
  · rw [he', he, List.append_assoc]
  · rw [hq', hq, List.append_assoc]

/-- Publishing with every exception swallowed attempts the event and goes on. -/
theorem yields_publish_swallowed (event : ω) :
    Yields answer (Effects.handle (publish event) (fun _ => pure ⟨⟩) : Task ε ω ρ τ PUnit) k
      (.ok ⟨⟩) [event] [] := by
  intro raises log _
  have hexec : exec (publish event : Task ε ω ρ τ PUnit) ⟨raises, answer⟩ log
      = match raises log.attempted event with
        | some e => (.error e, { log with attempted := log.attempted ++ [event] })
        | none => (.ok ⟨⟩, { log with
            attempted := log.attempted ++ [event]
            published := log.published ++ [event] }) := rfl
  simp only [exec_handle, hexec]
  cases raises log.attempted event with
  | some e => exact ⟨rfl, rfl, (List.append_nil log.requests).symm⟩
  | none => exact ⟨rfl, rfl, (List.append_nil log.requests).symm⟩

/-- The publisher makes no difference to a task that yields. -/
theorem Yields.eq_of_worlds {m : Task ε ω ρ τ α} {r : Except ε α}
    (h : Yields answer m 0 r events requests) (raises raises' : List ω → ω → Option ε) :
    (exec m ⟨raises, answer⟩ {}).1 = (exec m ⟨raises', answer⟩ {}).1 ∧
      (exec m ⟨raises, answer⟩ {}).2.attempted = (exec m ⟨raises', answer⟩ {}).2.attempted := by
  obtain ⟨hr, he, -⟩ := h raises {} rfl
  obtain ⟨hr', he', -⟩ := h raises' {} rfl
  exact ⟨hr.trans hr'.symm, he.trans he'.symm⟩

end Effects
