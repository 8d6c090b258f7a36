/-
Two transactions at the same time, at the isolation level READ COMMITTED.

A statement takes a snapshot of what is committed when it starts, sees it under
the writes of its own transaction, and finishes by writing to the latest
versions.  It waits while the other transaction holds a key that it writes.

* `step` — starting a statement, finishing it, and committing;
* `serial_of_unaffected` — if every statement of the transaction that commits
  last gives what it would give on the state that the other one alone leaves,
  the two have run one after the other;
* `serial_of_local` — which is the case when it looks only where the two states
  are alike.
-/
import Topogdb.Lib.Locality
import Topogdb.Lib.Runs

namespace Interleaving

variable {σ ω ε α κ : Type}

/-- The two sides. -/
inductive Side where
  | left
  | right
deriving DecidableEq

def Side.other : Side → Side
  | left => right
  | right => left

theorem Side.eq_or_eq {i j : Side} (hne : i ≠ j) (k : Side) : k = i ∨ k = j := by
  cases i <;> cases j <;> cases k <;> simp at hne ⊢

/-- One transaction: what is left of its program, its writes so far, and the
snapshot of the statement that it is running. -/
structure Session (σ ω ε α : Type) where
  prog : Prog σ ω ε α
  own : List ω := []
  seen : Option σ := none

/-- What is committed, the two transactions, and the sides that have committed,
in order. -/
structure State (σ ω ε α : Type) where
  base : σ
  session : Side → Session σ ω ε α
  committed : List Side

inductive Action where
  | start (i : Side)
  | finish (i : Side)
  | commit (i : Side)
deriving DecidableEq

def Action.side : Action → Side
  | start i => i
  | finish i => i
  | commit i => i

/-- The two transactions before anything has happened. -/
def init (p : Side → Prog σ ω ε α) (s : σ) : State σ ω ε α := ⟨s, fun i => { prog := p i }, []⟩

/-- A state with one transaction changed. -/
def State.set (s : State σ ω ε α) (i : Side) (session : Session σ ω ε α) : State σ ω ε α :=
  { s with session := fun k => if k = i then session else s.session k }

/-- A transaction with its statement finished.  An error takes its writes back. -/
def Session.finished (session : Session σ ω ε α) {β : Type} (next : β → Prog σ ω ε α) :
    Except ε (β × List ω) → Session σ ω ε α
  | .ok (b, ws) => { prog := next b, own := session.own ++ ws }
  | .error e => { prog := .raise e }

/-- Whether the other transaction holds a key that the result writes. -/
def waits [DecidableEq κ] (key : ω → κ) (other : Session σ ω ε α) {β : Type} :
    Except ε (β × List ω) → Bool
  | .ok (_, ws) => ws.any fun w => other.own.any fun w' => key w' = key w
  | .error _ => false

/-! ### Sessions -/

theorem session_set (s : State σ ω ε α) (i k : Side) (session : Session σ ω ε α) :
    (s.set i session).session k = if k = i then session else s.session k := rfl

theorem session_set_self (s : State σ ω ε α) (i : Side) (session : Session σ ω ε α) :
    (s.set i session).session i = session := if_pos rfl

theorem session_set_of_ne (s : State σ ω ε α) {i k : Side} (session : Session σ ω ε α)
    (h : k ≠ i) : (s.set i session).session k = s.session k := if_neg h

/-- A finished statement has no snapshot. -/
theorem Session.seen_finished (session : Session σ ω ε α) {β : Type} (next : β → Prog σ ω ε α)
    (result : Except ε (β × List ω)) : (session.finished next result).seen = none := by
  cases result <;> rfl

/-! ### Steps -/

section Step

variable [Store ω σ]

/-- What the statement of a transaction gives. -/
def Session.result (session : Session σ ω ε α) {β : Type}
    (query : σ → σ → Except ε (β × List ω)) (seen latest : σ) : Except ε (β × List ω) :=
  query (Store.applyAll session.own seen) (Store.applyAll session.own latest)

variable [DecidableEq κ]

/-- One step; none while the transaction is not there yet or has to wait. -/
def step (key : ω → κ) (s : State σ ω ε α) : Action → Option (State σ ω ε α)
  | .start i =>
    match (s.session i).prog, (s.session i).seen with
    | .stmt _ _, none => some (s.set i { s.session i with seen := some s.base })
    | _, _ => none
  | .finish i =>
    match (s.session i).prog, (s.session i).seen with
    | .stmt query next, some snapshot =>
      let result := (s.session i).result query snapshot s.base
      if waits key (s.session i.other) result then none
      else some (s.set i ((s.session i).finished next result))
    | _, _ => none
  | .commit i =>
    match (s.session i).prog with
    | .pure _ =>
      if i ∈ s.committed then none
      else
        some
          { s.set i { s.session i with own := [] } with
            base := Store.applyAll (s.session i).own s.base
            committed := s.committed ++ [i] }
    | _ => none

/-- **A step starts a statement, finishes one, or commits.** -/
theorem step_cases {key : ω → κ} {s s' : State σ ω ε α} {a : Action}
    (h : step key s a = some s') :
    (∃ i, ∃ β : Type, ∃ query : σ → σ → Except ε (β × List ω), ∃ next,
        a = .start i ∧ (s.session i).prog = .stmt query next ∧ (s.session i).seen = none ∧
        s' = s.set i { s.session i with seen := some s.base }) ∨
      (∃ i, ∃ β : Type, ∃ query : σ → σ → Except ε (β × List ω), ∃ next snapshot,
        a = .finish i ∧ (s.session i).prog = .stmt query next ∧
        (s.session i).seen = some snapshot ∧
        waits key (s.session i.other) ((s.session i).result query snapshot s.base) = false ∧
        s' = s.set i ((s.session i).finished next ((s.session i).result query snapshot s.base))) ∨
      ∃ i x, a = .commit i ∧ (s.session i).prog = .pure x ∧ i ∉ s.committed ∧
        s' = { s.set i { s.session i with own := [] } with
          base := Store.applyAll (s.session i).own s.base
          committed := s.committed ++ [i] } := by
  cases a with
  | start i =>
    refine Or.inl ⟨i, ?_⟩
    simp only [step] at h
    split at h
    · next query next hprog hseen =>
      exact ⟨_, query, next, rfl, hprog, hseen, (Option.some.inj h).symm⟩
    · cases h
  | finish i =>
    refine Or.inr (Or.inl ⟨i, ?_⟩)
    simp only [step] at h
    split at h
    · next query next snapshot hprog hseen =>
      split at h
      · cases h
      · next hwaits =>
        exact ⟨_, query, next, snapshot, rfl, hprog, hseen, eq_false_of_ne_true hwaits,
          (Option.some.inj h).symm⟩
    · cases h
  | commit i =>
    refine Or.inr (Or.inr ⟨i, ?_⟩)
    simp only [step] at h
    split at h
    · next x hprog =>
      split at h
      · cases h
      · next hnew => exact ⟨x, rfl, hprog, hnew, (Option.some.inj h).symm⟩
    · cases h

/-- A step changes the session of its own side only. -/
theorem session_step {key : ω → κ} {s s' : State σ ω ε α} {a : Action} {k : Side}
    (h : step key s a = some s') (hk : k ≠ a.side) : s'.session k = s.session k := by
  rcases step_cases h with ⟨i, _, -, -, rfl, -, -, rfl⟩ |
    ⟨i, _, query, next, snapshot, rfl, -, -, -, rfl⟩ | ⟨i, x, rfl, -, -, rfl⟩
  all_goals exact session_set_of_ne s _ hk

theorem mem_committed_step {key : ω → κ} {s s' : State σ ω ε α} {a : Action} {k : Side}
    (h : step key s a = some s') (hk : k ∈ s'.committed) : k ∈ s.committed ∨ k = a.side := by
  rcases step_cases h with ⟨i, _, -, -, rfl, -, -, rfl⟩ |
    ⟨i, _, query, next, snapshot, rfl, -, -, -, rfl⟩ | ⟨i, x, rfl, -, -, rfl⟩
  · exact Or.inl hk
  · exact Or.inl hk
  · exact (List.mem_append.mp hk).imp_right List.mem_singleton.mp

/-- No side commits twice. -/
theorem nodup_committed {key : ω → κ} {p : Side → Prog σ ω ε α} {s₀ : σ} {actions : List Action}
    {s : State σ ω ε α} (hrun : Runs.run (step key) (init p s₀) actions = some s) :
    s.committed.Nodup := by
  refine Runs.run_invariant (I := fun s : State σ ω ε α => s.committed.Nodup) ?_ List.nodup_nil
    hrun
  intro s a s' h hstep
  rcases step_cases hstep with ⟨i, _, -, -, rfl, -, -, rfl⟩ |
    ⟨i, _, query, next, snapshot, rfl, -, -, -, rfl⟩ | ⟨i, x, rfl, -, hnew, rfl⟩
  · exact h
  · exact h
  · exact List.nodup_append.mpr ⟨h, List.pairwise_singleton _ i, fun k hk m hm heq =>
      hnew (List.mem_singleton.mp hm ▸ heq ▸ hk)⟩

/-! ### One after the other -/

/-- What a program leaves when it runs alone. -/
def alone (p : Prog σ ω ε α) (s : σ) : σ :=
  match p.run s with
  | .ok (_, s') => s'
  | .error _ => s

/-- What a program ends with, it leaves, if it was there before. -/
theorem alone_of_ends {p : Prog σ ω ε α} {s : σ} {P : σ → Prop} (hs : P s)
    (h : p.Ends s fun _ s' => P s') : P (alone p s) := by
  rw [alone]
  split
  · next a s' hrun => exact h a s' hrun
  · exact hs

/-- A statement that `j` finishes gives what it gives on `after`. -/
def Unaffected (j : Side) (after : σ) (s : State σ ω ε α) : Action → Prop
  | .finish k =>
    k = j →
      match (s.session j).prog, (s.session j).seen with
      | .stmt query _, some snapshot =>
        (s.session j).result query snapshot s.base = (s.session j).result query after after
      | _, _ => True
  | _ => True

/-- The rest of a transaction gives what the whole of it gives. -/
def Session.Continues (session : Session σ ω ε α) (p : Prog σ ω ε α) (s : σ) : Prop :=
  session.prog.run (Store.applyAll session.own s) = p.run s

theorem Session.Continues.finished {session : Session σ ω ε α} {p : Prog σ ω ε α} {s : σ}
    (h : session.Continues p s) {β : Type} {query : σ → σ → Except ε (β × List ω)}
    {next : β → Prog σ ω ε α} (hprog : session.prog = .stmt query next) :
    (session.finished next (session.result query s s)).Continues p s := by
  rw [Session.Continues] at h ⊢
  rw [← h, hprog, Prog.run]
  rw [Session.result]
  cases query (Store.applyAll session.own s) (Store.applyAll session.own s) with
  | error e => rfl
  | ok x => simp only [Session.finished, Store.applyAll_append]

theorem Session.Continues.run_eq {session : Session σ ω ε α} {p : Prog σ ω ε α} {s : σ}
    (h : session.Continues p s) {a : α} (hprog : session.prog = .pure a) :
    p.run s = .ok (a, Store.applyAll session.own s) := by
  rw [← h, hprog, Prog.run]

/-- Where an interleaving stands in which `i` commits first, and no statement of
`j` is affected. -/
inductive Serial (p : Side → Prog σ ω ε α) (s₀ : σ) (i j : Side) (s : State σ ω ε α) : Prop where
  | neither (hcommitted : s.committed = []) (hbase : s.base = s₀)
      (hseen : ∀ snapshot, (s.session i).seen = some snapshot → snapshot = s₀)
      (hi : (s.session i).Continues (p i) s₀)
      (hj : (s.session j).Continues (p j) (alone (p i) s₀))
  | first {a : α} (hcommitted : s.committed = [i]) (hrun : (p i).run s₀ = .ok (a, s.base))
      (hj : (s.session j).Continues (p j) s.base)
  | both {a b : α} {s₁ : σ} (hcommitted : s.committed = [i, j])
      (hi : (p i).run s₀ = .ok (a, s₁)) (hj : (p j).run s₁ = .ok (b, s.base))
  | other (rest : List Side) (hcommitted : s.committed = j :: rest)

theorem serial_init (p : Side → Prog σ ω ε α) (s₀ : σ) (i j : Side) :
    Serial p s₀ i j (init p s₀) :=
  .neither rfl rfl (fun _ h => nomatch h) rfl rfl

theorem alone_eq {p : Prog σ ω ε α} {s s' : σ} {a : α} (h : p.run s = .ok (a, s')) :
    alone p s = s' := by
  rw [alone, h]

/-- What a session continues does not depend on its snapshot. -/
theorem continues_set_seen {s : State σ ω ε α} {k m : Side} {snapshot : Option σ}
    {p : Prog σ ω ε α} {s₀ : σ} (h : (s.session m).Continues p s₀) :
    ((s.set k { s.session k with seen := snapshot }).session m).Continues p s₀ := by
  rw [session_set]
  split
  · next heq => exact heq ▸ h
  · exact h

theorem Unaffected.result_eq {s : State σ ω ε α} {j : Side} {after snapshot : σ} {β : Type}
    {query : σ → σ → Except ε (β × List ω)} {next : β → Prog σ ω ε α}
    (h : Unaffected j after s (.finish j)) (hprog : (s.session j).prog = .stmt query next)
    (hseen : (s.session j).seen = some snapshot) :
    (s.session j).result query snapshot s.base = (s.session j).result query after after := by
  have h := h rfl
  rw [hprog, hseen] at h
  exact h

/-- **A step that leaves `j` unaffected keeps the interleaving serial.** -/
theorem Serial.step {key : ω → κ} {p : Side → Prog σ ω ε α} {s₀ : σ} {i j : Side} (hne : i ≠ j)
    {s s' : State σ ω ε α} {a : Action} (h : Serial p s₀ i j s)
    (hunaffected : Unaffected j (alone (p i) s₀) s a) (hstep : step key s a = some s') :
    Serial p s₀ i j s' := by
  rcases step_cases hstep with ⟨k, _, -, -, rfl, -, -, rfl⟩ |
    ⟨k, _, query, next, snapshot, rfl, hprog, hsnapshot, -, rfl⟩ | ⟨k, x, rfl, hprog, hnew, rfl⟩
  · -- a start takes a snapshot and changes nothing else
    cases h with
    | neither hcommitted hbase hseen hi hj =>
      refine .neither hcommitted hbase (fun t ht => ?_) (continues_set_seen hi)
        (continues_set_seen hj)
      rw [session_set] at ht
      split at ht
      · exact (Option.some.inj ht).symm.trans hbase
      · exact hseen t ht
    | first hcommitted hrun hj => exact .first hcommitted hrun (continues_set_seen hj)
    | both hcommitted hi hj => exact .both hcommitted hi hj
    | other rest hcommitted => exact .other rest hcommitted
  · cases h with
    | neither hcommitted hbase hseen hi hj =>
      rcases Side.eq_or_eq hne k with rfl | rfl
      · -- nothing is committed yet, so both states are the first one
        refine .neither hcommitted hbase ?_ ?_ ?_
        · rw [session_set_self]
          intro t ht
          rw [Session.seen_finished] at ht
          cases ht
        · rw [session_set_self, hseen snapshot hsnapshot, hbase]
          exact hi.finished hprog
        · rw [session_set_of_ne _ _ hne.symm]
          exact hj
      · refine .neither hcommitted hbase ?_ ?_ ?_
        · rw [session_set_of_ne _ _ hne]
          exact hseen
        · rw [session_set_of_ne _ _ hne]
          exact hi
        · rw [session_set_self, hunaffected.result_eq hprog hsnapshot]
          exact hj.finished hprog
    -- `i` is done, so the statement is one of `j`
    | first hcommitted hrun hj =>
      refine .first hcommitted hrun ?_
      rcases Side.eq_or_eq hne k with rfl | rfl
      · rw [session_set_of_ne _ _ hne.symm]
        exact hj
      · rw [session_set_self, hunaffected.result_eq hprog hsnapshot, alone_eq hrun]
        exact hj.finished hprog
    | both hcommitted hi hj => exact .both hcommitted hi hj
    | other rest hcommitted => exact .other rest hcommitted
  · -- a statement is finished, on the tables as they are now
    cases h with
    | neither hcommitted hbase hseen hi hj =>
      rcases Side.eq_or_eq hne k with rfl | rfl
      · have hrun : (p k).run s₀ = .ok (x, Store.applyAll (s.session k).own s.base) := by
          rw [hbase]
          exact hi.run_eq hprog
        refine .first (by rw [hcommitted]; rfl) hrun ?_
        rw [← alone_eq hrun, session_set_of_ne _ _ hne.symm]
        exact hj
      · exact .other [] (by rw [hcommitted]; rfl)
    | first hcommitted hrun hj =>
      rcases Side.eq_or_eq hne k with rfl | rfl
      · rw [hcommitted] at hnew
        exact absurd List.mem_cons_self hnew
      · exact .both (by rw [hcommitted]; rfl) hrun (hj.run_eq hprog)
    | both hcommitted hi hj =>
      rw [hcommitted] at hnew
      rcases Side.eq_or_eq hne k with rfl | rfl
      · exact absurd List.mem_cons_self hnew
      · exact absurd (List.mem_cons_of_mem _ List.mem_cons_self) hnew
    | other rest hcommitted =>
      exact .other (rest ++ [k]) (by rw [hcommitted]; rfl)

theorem ne_of_committed {key : ω → κ} {p : Side → Prog σ ω ε α} {s₀ : σ} {i j : Side}
    {actions : List Action} {s : State σ ω ε α}
    (hrun : Runs.run (step key) (init p s₀) actions = some s)
    (hcommitted : s.committed = [i, j]) : i ≠ j := by
  have hnodup := nodup_committed hrun
  rw [hcommitted] at hnodup
  rintro rfl
  simp at hnodup

/-- **If both commit, `j` last, and no statement of `j` is affected by `i`, the
two have run one after the other.** -/
theorem serial_of_unaffected {key : ω → κ} {p : Side → Prog σ ω ε α} {s₀ : σ} {i j : Side}
    {actions : List Action} {s : State σ ω ε α}
    (hrun : Runs.run (step key) (init p s₀) actions = some s) (hcommitted : s.committed = [i, j])
    (hunaffected : Runs.Along (step key) (fun s a _ => Unaffected j (alone (p i) s₀) s a)
      (init p s₀) actions) :
    ∃ a b s₁, (p i).run s₀ = .ok (a, s₁) ∧ (p j).run s₁ = .ok (b, s.base) := by
  have hne := ne_of_committed hrun hcommitted
  have h : Serial p s₀ i j s :=
    hunaffected.invariant (fun _ _ _ h hun hstep => h.step hne hun hstep) (serial_init p s₀ i j) hrun
  cases h with
  | neither hnone => cases hnone.symm.trans hcommitted
  | first hone => cases hone.symm.trans hcommitted
  | both _ hi hj => exact ⟨_, _, _, hi, hj⟩
  | other rest hother =>
    cases hother.symm.trans hcommitted
    exact absurd rfl hne

/-! ### Looking elsewhere -/

/-- The change from `s` to `t` is not seen, and writes of the kind keep it so. -/
structure Unseen (A : σ → σ → Prop) (W : ω → Prop) (s t : σ) : Prop where
  before : A s t
  after : A t t
  keeps : ∀ w s t, W w → A s t → A (Store.apply w s) (Store.apply w t)

/-- `j` has ended, or has not yet committed and cannot tell what it sees from
`after`: what is left of it is local, and so are its writes. -/
inductive LooksAway (A : σ → σ → Prop) (W : ω → Prop) (Q : α → Prop) (j : Side) (after : σ)
    (s : State σ ω ε α) : Prop where
  | ended {a : α} (hprog : (s.session j).prog = .pure a)
  | running (hopen : j ∉ s.committed) (hlocal : (s.session j).prog.Local A W Q)
      (hown : ∀ w ∈ (s.session j).own, W w)
      (hseen : ∀ snapshot, (s.session j).seen = some snapshot → A snapshot after)

section Local

variable {A : σ → σ → Prop} {W : ω → Prop} {Q : α → Prop} {key : ω → κ}
  {p : Side → Prog σ ω ε α} {s₀ : σ} {i j : Side} {s s' : State σ ω ε α} {a : Action}

omit [DecidableEq κ] in
/-- What is committed looks like what `i` leaves. -/
theorem Serial.base_looks (h : Serial p s₀ i j s) (hopen : j ∉ s.committed)
    (hunseen : Unseen A W s₀ (alone (p i) s₀)) : A s.base (alone (p i) s₀) := by
  cases h with
  | neither _ hbase => exact hbase ▸ hunseen.before
  | first _ hrun =>
    rw [← alone_eq hrun]
    exact hunseen.after
  | both hcommitted => exact absurd (by simp [hcommitted]) hopen
  | other rest hcommitted => exact absurd (by simp [hcommitted]) hopen

omit [DecidableEq κ] in
/-- The statement that a local session finishes gives what it gives on what `i`
leaves. -/
theorem result_of_looks (hunseen : Unseen A W s₀ (alone (p i) s₀))
    {session : Session σ ω ε α} (hown : ∀ w ∈ session.own, W w) {β : Type}
    {query : σ → σ → Except ε (β × List ω)} {P : β → Prop} (hlocal : Prog.LocalQuery A W query P)
    {seen latest : σ} (hseen : A seen (alone (p i) s₀)) (hlatest : A latest (alone (p i) s₀)) :
    session.result query seen latest = session.result query (alone (p i) s₀) (alone (p i) s₀) ∧
      ∀ b ws, session.result query (alone (p i) s₀) (alone (p i) s₀) = .ok (b, ws) →
        (∀ w ∈ ws, W w) ∧ P b := by
  have howned : ∀ s, A s (alone (p i) s₀) →
      A (Store.applyAll session.own s) (Store.applyAll session.own (alone (p i) s₀)) := fun s hs =>
    Store.applyAll_related (fun w hw s t => hunseen.keeps w s t (hown w hw)) hs
  exact hlocal _ _ _ (howned seen hseen) (howned latest hlatest)

omit [DecidableEq κ] in
theorem LooksAway.unaffected (h : LooksAway A W Q j (alone (p i) s₀) s)
    (hserial : Serial p s₀ i j s) (hunseen : Unseen A W s₀ (alone (p i) s₀)) (a : Action) :
    Unaffected j (alone (p i) s₀) s a := by
  cases a with
  | start k => trivial
  | commit k => trivial
  | finish k =>
    rintro rfl
    cases h with
    | ended hprog =>
      rw [hprog]
      trivial
    | running hopen hlocal hown hseen =>
      split
      · next query next snapshot hprog hsnapshot =>
        rw [hprog] at hlocal
        exact (result_of_looks hunseen hown hlocal (hseen snapshot hsnapshot)
          (hserial.base_looks hopen hunseen)).1
      · trivial

/-- A local session stays local while the other one goes on. -/
theorem LooksAway.step_other (hne : i ≠ j) (h : LooksAway A W Q j (alone (p i) s₀) s)
    (hside : a.side = i) (hstep : Interleaving.step key s a = some s') :
    LooksAway A W Q j (alone (p i) s₀) s' := by
  have hsame : s'.session j = s.session j := session_step hstep (hside ▸ hne.symm)
  cases h with
  | ended hprog => exact .ended (hsame ▸ hprog)
  | running hopen hlocal hown hseen =>
    refine .running (fun hmem => ?_) (hsame ▸ hlocal) (hsame ▸ hown) (hsame ▸ hseen)
    rcases mem_committed_step hstep hmem with hmem | heq
    · exact hopen hmem
    · exact hne (hside.symm.trans heq.symm)

/-- A local session stays local, whatever it or the other one does. -/
theorem LooksAway.step (hne : i ≠ j) (h : LooksAway A W Q j (alone (p i) s₀) s)
    (hserial : Serial p s₀ i j s) (hunseen : Unseen A W s₀ (alone (p i) s₀))
    (hstep : Interleaving.step key s a = some s') : LooksAway A W Q j (alone (p i) s₀) s' := by
  rcases Side.eq_or_eq hne a.side with hside | hside
  · exact h.step_other hne hside hstep
  rcases step_cases hstep with ⟨k, _, query, next, rfl, hprog, -, rfl⟩ |
    ⟨k, _, query, next, snapshot, rfl, hprog, hsnapshot, -, rfl⟩ | ⟨k, x, rfl, hprog, -, rfl⟩
  -- from here on `j` itself moves
  all_goals
    obtain rfl : k = j := hside
  · have hself := session_set_self s k { s.session k with seen := some s.base }
    cases h with
    | ended hpure => cases hpure.symm.trans hprog
    | running hopen hlocal hown hseen =>
      refine .running hopen (by rwa [hself]) (by rwa [hself]) fun t ht => ?_
      rw [hself] at ht
      cases ht
      exact hserial.base_looks hopen hunseen
  · cases h with
    | ended hpure => cases hpure.symm.trans hprog
    | running hopen hlocal hown hseen =>
      rw [hprog] at hlocal
      obtain ⟨hresult, hok⟩ := result_of_looks hunseen hown hlocal (hseen snapshot hsnapshot)
        (hserial.base_looks hopen hunseen)
      -- what was read may be old, what it gives is not
      rw [hresult]
      have hself := session_set_self s k ((s.session k).finished next
        ((s.session k).result query (alone (p i) s₀) (alone (p i) s₀)))
      cases hafter : (s.session k).result query (alone (p i) s₀) (alone (p i) s₀) with
      | error e =>
        rw [hafter] at hself
        refine .running hopen ?_ ?_ ?_
        · rw [hself]
          exact Prog.local_raise
        · rw [hself]
          exact fun w hw => absurd hw List.not_mem_nil
        · rw [hself]
          exact fun t ht => nomatch ht
      | ok y =>
        rw [hafter] at hself
        obtain ⟨hws, hnext⟩ := hok y.1 y.2 hafter
        refine .running hopen ?_ ?_ ?_
        · rw [hself]
          exact hnext
        · rw [hself]
          exact fun w hw => (List.mem_append.mp hw).elim (hown w) (hws w)
        · rw [hself]
          exact fun t ht => nomatch ht
  · have hself := session_set_self s k { s.session k with own := [] }
    exact .ended ((congrArg Session.prog hself).trans hprog)

/-- **If both commit, `j` last, and `j` cannot tell what `i` leaves from what was
there before, the two have run one after the other.** -/
theorem serial_of_local {actions : List Action}
    (hrun : Runs.run (step key) (init p s₀) actions = some s) (hcommitted : s.committed = [i, j])
    (hlocal : (p j).Local A W Q) (hunseen : Unseen A W s₀ (alone (p i) s₀)) :
    ∃ a b s₁, (p i).run s₀ = .ok (a, s₁) ∧ (p j).run s₁ = .ok (b, s.base) := by
  have hne := ne_of_committed hrun hcommitted
  refine serial_of_unaffected hrun hcommitted (Runs.along_of_invariant
    (I := fun s => Serial p s₀ i j s ∧ LooksAway A W Q j (alone (p i) s₀) s) ?_
    ⟨serial_init p s₀ i j, .running List.not_mem_nil hlocal
      (fun w hw => absurd hw List.not_mem_nil) fun t ht => nomatch ht⟩)
  rintro s a - s' ⟨hserial, hlooks⟩ hstep
  have hunaffected := hlooks.unaffected hserial hunseen a
  exact ⟨hunaffected, hserial.step hne hunaffected hstep,
    hlooks.step hne hserial hunseen hstep⟩

end Local

end Step

end Interleaving
