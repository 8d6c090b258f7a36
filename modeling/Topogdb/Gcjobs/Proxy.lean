/-
The proxy task and the stream consumer of one import.

gcjobs runs two writers for an import it accepted (`gcjobs/service.py`):

* the proxy task (`proxy_import`) forwards the upload to gcimport and, when the
  request fails, records a failure unless the run is terminal already;
* the consumer (`consume_import_events`) records gcimport's events in stream
  order, late and more than once if need be.

`step` interleaves them at the granularity of their database transactions, so
the read and the write of `record_terminal_event_if_running` are two steps.
The read guards nothing that happens after it, and the status is written
unconditionally, so a finished run can change its status again
(`staysFinished_violated`); `staysFinished_iff` says exactly when it does not.
-/
import Topogdb.Lib.Runs
import Topogdb.Protocol
import Topogdb.Gcjobs.Storage

namespace Gcjobs

/-- One import that gcjobs accepts: the run id it draws, the dataset it was
posted to, the tables before, and the messages gcimport gets into the stream.
The publisher may lose events, so their names are a sublist of a protocol word. -/
structure Import where
  runId : String
  datasetName : String
  db : Db
  messages : List (String × Event)
  newRun : db.importRun.lookup runId = none
  distinctIds : (messages.map Prod.fst).Nodup
  newIds : ∀ m ∈ messages, m.1 ∉ db.messageIds
  ownRun : ∀ m ∈ messages, m.2.importId = runId
  protocol : ∃ w ∈ Event.featureProtocol.matches', (messages.map (·.2.event)).Sublist w

/-- Where the proxy task is; `checked` is between its read and its write. -/
inductive ProxyPhase where
  | queued
  | forwarding
  | checked (err : String)
  | done
deriving DecidableEq

/-- The tables, the proxy task, whether it has recorded its failure, and how
many messages the consumer has seen. -/
structure World where
  db : Db
  proxy : ProxyPhase := .queued
  failureRecorded : Bool := false
  delivered : ℕ := 0

/-- The transactions of the two tasks, with the database clock of those that write. -/
inductive Action where
  | accept (now : ℕ)
  | forwarded
  | forwardingFails (err : String)
  | recordFailure (now : ℕ)
  | deliver (i : ℕ) (now : ℕ)

/-- The event that `proxy_import` records for a failed request. -/
def forwardingFailure (importId profileName err : String) : Event :=
  { importId := importId
    event := "import.completed.failed"
    phase := some "forwarding"
    profile := some profileName
    reason := some ("gcjobs could not reach gcimport: " ++ err) }

namespace Import

variable (imp : Import)

def start : World := { db := imp.db }

/-- One transaction; `none` when its task is not at that point. -/
def step (w : World) : Action → Option World
  | .accept now =>
    if w.proxy = .queued then
      some { w with
        db := recordAcceptedImport imp.runId imp.datasetName now w.db
        proxy := .forwarding }
    else none
  | .forwarded => if w.proxy = .forwarding then some { w with proxy := .done } else none
  | .forwardingFails err =>
    if w.proxy = .forwarding then
      some { w with
        proxy := if runIsTerminal (getImportRun w.db imp.runId) then .done else .checked err }
    else none
  | .recordFailure now =>
    match w.proxy with
    | .checked err =>
      let event := forwardingFailure imp.runId imp.datasetName err
      some { w with
        db := (recordImportEvent event none now w.db).1
        proxy := .done
        failureRecorded := true }
    | _ => none
  | .deliver i now =>
    if w.proxy ≠ .queued ∧ i ≤ w.delivered then
      imp.messages[i]?.map fun m =>
        { w with
          db := (recordImportEvent m.2 (some m.1) now w.db).1
          delivered := max w.delivered (i + 1) }
    else none

/-- The status column of the run, while it has a row. -/
def status (w : World) : Option RunStatus := (w.db.importRun.lookup imp.runId).map (·.status)

/-- A job is finished once its status is terminal. -/
def Finished (w : World) : Prop :=
  imp.status w = some .completed ∨ imp.status w = some .failed

/-- A finished job keeps its status, from any state the run passes on. -/
def StaysFinished (as : List Action) : Prop :=
  Runs.Between imp.step (fun w w' => imp.Finished w → imp.status w' = imp.status w) imp.start as

/-- The condition on one step, read off the state before it: the proxy does not
record its failure over a completed run, and after that record the stream
delivers no event for the first time but a failure. -/
def StepOk (w : World) : Action → Prop
  | .recordFailure _ => imp.status w ≠ some .completed
  | .deliver i _ =>
    w.failureRecorded = true → i = w.delivered → ∀ m, imp.messages[i]? = some m →
      m.2.event = Event.batchFailed ∨ m.2.event = Event.completedFailed
  | _ => True

end Import

/-! ### The statuses the stream writes -/

/-- The status an event writes. -/
def statusOf (event : Event) : RunStatus := (runUpdatesForEvent event).status

/-- The status written for an event name. -/
def statusOfName (name : String) : RunStatus :=
  if name = Event.batchFailed ∨ name = Event.completedFailed then .failed
  else if name = Event.completedSucceeded then .completed
  else .running

theorem statusOf_eq (event : Event) : statusOf event = statusOfName event.event := by
  unfold statusOf runUpdatesForEvent statusOfName Event.batchFailed Event.completedFailed
    Event.completedSucceeded
  simp only
  by_cases h1 : event.event = "import.batch.succeeded"
  · simp [h1]
  · by_cases h2 : event.event = "import.batch.failed"
    · simp [h2]
    · by_cases h3 : event.event = "import.completed.succeeded"
      · simp [h3]
      · by_cases h4 : event.event = "import.completed.failed" <;> simp [h1, h2, h3, h4]

theorem statusOf_eq_failed (event : Event) :
    statusOf event = .failed ↔
      event.event = Event.batchFailed ∨ event.event = Event.completedFailed := by
  rw [statusOf_eq, statusOfName]
  split_ifs with h1 h2 <;> simp [h1]

/-- `later` keeps what `earlier` made final. -/
def KeepsFinal (earlier later : RunStatus) : Prop := earlier ≠ .running → later = earlier

/-- In a protocol word, what a name makes final all later names keep. -/
theorem protocol_keepsFinal {w : List String} (h : w ∈ Event.featureProtocol.matches') :
    w.Pairwise (fun a b => KeepsFinal (statusOfName a) (statusOfName b)) := by
  have hstarted : statusOfName Event.started = .running := by decide
  have hparsed : statusOfName Event.parsed = .running := by decide
  have hbatch : statusOfName Event.batchSucceeded = .running := by decide
  have hfailed : statusOfName Event.batchFailed = .failed := by decide
  have hcompleted : statusOfName Event.completedFailed = .failed := by decide
  -- a running name in front keeps everything that follows
  have hrun : ∀ {a : String} {l : List String}, statusOfName a = .running →
      l.Pairwise (fun a b => KeepsFinal (statusOfName a) (statusOfName b)) →
      (a :: l).Pairwise (fun a b => KeepsFinal (statusOfName a) (statusOfName b)) := by
    intro a l ha hl
    exact List.pairwise_cons.mpr ⟨fun b _ hne => absurd ha hne, hl⟩
  have hbatches : ∀ (n : ℕ) {l : List String},
      l.Pairwise (fun a b => KeepsFinal (statusOfName a) (statusOfName b)) →
      (List.replicate n Event.batchSucceeded ++ l).Pairwise
        (fun a b => KeepsFinal (statusOfName a) (statusOfName b)) := by
    intro n l hl
    induction n with
    | zero => exact hl
    | succ n ih => exact hrun hbatch ih
  rcases (Event.mem_featureProtocol w).mp h with rfl | ⟨n, rfl | rfl⟩
  · exact hrun hstarted (List.pairwise_singleton _ _)
  · exact hrun hstarted (hrun hparsed (hbatches n (List.pairwise_singleton _ _)))
  · refine hrun hstarted (hrun hparsed (hbatches n ?_))
    simp [KeepsFinal, hfailed, hcompleted]

namespace Import

variable {imp : Import}

/-- Two messages of the stream, the earlier one first. -/
theorem messages_keepsFinal {i j : ℕ} (hij : i < j) {m m' : String × Event}
    (hi : imp.messages[i]? = some m) (hj : imp.messages[j]? = some m') :
    KeepsFinal (statusOf m.2) (statusOf m'.2) := by
  obtain ⟨w, hw, hsub⟩ := imp.protocol
  have hpair := List.pairwise_map.mp ((protocol_keepsFinal hw).sublist hsub)
  obtain ⟨hilt, rfl⟩ := List.getElem?_eq_some_iff.mp hi
  obtain ⟨hjlt, rfl⟩ := List.getElem?_eq_some_iff.mp hj
  rw [statusOf_eq, statusOf_eq]
  exact List.pairwise_iff_getElem.mp hpair i j hilt hjlt hij

/-! ### What one transaction does to the status -/

/-- The status the stream has written after its first `n` messages. -/
def streamStatus (imp : Import) : ℕ → RunStatus
  | 0 => .running
  | n + 1 => (imp.messages[n]?.map fun m => statusOf m.2).getD .running

theorem streamStatus_succ {n : ℕ} {m : String × Event} (h : imp.messages[n]? = some m) :
    imp.streamStatus (n + 1) = statusOf m.2 := by
  simp [streamStatus, h]

/-- The next message keeps what the stream made final. -/
theorem streamStatus_keepsFinal {n : ℕ} {m : String × Event} (h : imp.messages[n]? = some m) :
    KeepsFinal (imp.streamStatus n) (statusOf m.2) := by
  cases n with
  | zero => exact fun hne => absurd rfl hne
  | succ n =>
    have hlt : n < imp.messages.length := by
      have := (List.getElem?_eq_some_iff.mp h).1
      omega
    have hprev : imp.messages[n]? = some (imp.messages.get ⟨n, hlt⟩) :=
      List.getElem?_eq_getElem hlt
    rw [streamStatus_succ hprev]
    exact messages_keepsFinal (Nat.lt_succ_self n) hprev h

/-- A recorded event of the run sets its status. -/
theorem status_record (imp : Import) (event : Event) {messageId : Option String} (now : ℕ) {db : Db}
    (hown : event.importId = imp.runId) (hnew : ∀ m, messageId = some m → m ∉ db.messageIds) :
    ((recordImportEvent event messageId now db).1.importRun.lookup imp.runId).map (·.status)
      = some (statusOf event) := by
  rw [(recordImportEvent_fresh event now hnew).2, if_pos hown.symm]
  rfl

/-- A redelivered event leaves the row of the run as it is. -/
theorem lookup_redelivered (event : Event) {m : String} (now : ℕ) {db : Db} {run : ImportRun}
    (hown : event.importId = imp.runId) (hold : m ∈ db.messageIds)
    (hrun : db.importRun.lookup imp.runId = some run) :
    (recordImportEvent event (some m) now db).1.importRun.lookup imp.runId = some run := by
  rw [recordImportEvent_duplicate event now hold, insertRun_lookup, if_pos hown.symm, hown, hrun]
  rfl

/-! ### The invariant -/

/-- What holds in every state that is reached by allowed steps. -/
structure Inv (imp : Import) (w : World) : Prop where
  queued : w.proxy = .queued →
    w.delivered = 0 ∧ w.failureRecorded = false ∧ imp.status w = none
  status : w.proxy ≠ .queued →
    imp.status w = some (if w.failureRecorded then .failed else imp.streamStatus w.delivered)
  recorded : w.failureRecorded = true → w.proxy = .done
  stored : ∀ i m, imp.messages[i]? = some m → (m.1 ∈ w.db.messageIds ↔ i < w.delivered)

theorem inv_start : imp.Inv imp.start := by
  refine ⟨fun _ => ⟨rfl, rfl, ?_⟩, fun h => absurd rfl h, fun h => absurd h (by simp [start]), ?_⟩
  · simp [status, start, imp.newRun]
  · intro i m hm
    have hnew := imp.newIds m (List.mem_of_getElem? hm)
    simp [start, hnew]

/-- The message ids are distinct, so an id names its position. -/
theorem position_unique {i j : ℕ} {m m' : String × Event} (hi : imp.messages[i]? = some m)
    (hj : imp.messages[j]? = some m') (heq : m.1 = m'.1) : i = j := by
  obtain ⟨hilt, rfl⟩ := List.getElem?_eq_some_iff.mp hi
  obtain ⟨hjlt, rfl⟩ := List.getElem?_eq_some_iff.mp hj
  have hinj := List.nodup_iff_injective_get.mp imp.distinctIds
  have hget : (imp.messages.map Prod.fst).get ⟨i, by simpa using hilt⟩
      = (imp.messages.map Prod.fst).get ⟨j, by simpa using hjlt⟩ := by simpa using heq
  exact Fin.mk.inj_iff.mp (hinj hget)

/-- The two kinds of delivery: a message seen before changes nothing the
invariant reads, and the next one sets the status. -/
theorem deliver_cases {w w' : World} {i now : ℕ} (hw : imp.Inv w)
    (h : imp.step w (.deliver i now) = some w') :
    ∃ m, imp.messages[i]? = some m ∧ w.proxy ≠ .queued ∧ w'.proxy = w.proxy ∧
      w'.failureRecorded = w.failureRecorded ∧
      ((i < w.delivered ∧ w'.delivered = w.delivered ∧ imp.status w' = imp.status w ∧
          w'.db.messageIds = w.db.messageIds) ∨
        (i = w.delivered ∧ w'.delivered = i + 1 ∧ imp.status w' = some (statusOf m.2) ∧
          w'.db.messageIds = w.db.messageIds ++ [m.1])) := by
  rw [step] at h
  split_ifs at h with hen
  obtain ⟨hproxy, hle⟩ := hen
  obtain ⟨m, hm, rfl⟩ := Option.map_eq_some_iff.mp h
  have hown := imp.ownRun m (List.mem_of_getElem? hm)
  refine ⟨m, hm, hproxy, rfl, rfl, ?_⟩
  rcases Nat.lt_or_eq_of_le hle with hlt | rfl
  · left
    have hold : m.1 ∈ w.db.messageIds := (hw.stored i m hm).mpr hlt
    refine ⟨hlt, ?_, ?_, ?_⟩
    · show max w.delivered (i + 1) = w.delivered
      omega
    · -- the run has a row, so the redelivery does not even create one
      obtain ⟨run, hrun, -⟩ := Option.map_eq_some_iff.mp (hw.status hproxy)
      rw [status, status, lookup_redelivered m.2 now hown hold hrun, hrun]
    · show (recordImportEvent m.2 (some m.1) now w.db).1.messageIds = _
      rw [recordImportEvent_duplicate m.2 now hold, insertRun_messageIds]
  · right
    have hnew : ∀ k, some m.1 = some k → k ∉ w.db.messageIds := by
      rintro k ⟨⟩ hk
      exact absurd ((hw.stored _ m hm).mp hk) (lt_irrefl _)
    refine ⟨rfl, ?_, status_record imp m.2 now hown hnew, ?_⟩
    · show max w.delivered (w.delivered + 1) = w.delivered + 1
      omega
    · exact (recordImportEvent_fresh m.2 now hnew).1

/-- The two writes of the proxy task: the acceptance starts the run, the
failure report ends it as failed. -/
theorem status_accepted (imp : Import) (w : World) (now : ℕ) :
    ((recordAcceptedImport imp.runId imp.datasetName now w.db).importRun.lookup
      imp.runId).map (·.status) = some .running := by
  have hrunning : statusOf (acceptedEvent imp.runId imp.datasetName) = .running := by
    rw [statusOf_eq]
    exact (by decide : statusOfName "import.accepted" = .running)
  rw [recordAcceptedImport, status_record imp _ now rfl (by simp), hrunning]

theorem status_failure (imp : Import) (w : World) (err : String) (now : ℕ) :
    ((recordImportEvent (forwardingFailure imp.runId imp.datasetName err) none now
      w.db).1.importRun.lookup imp.runId).map (·.status) = some .failed := by
  rw [status_record imp _ now rfl (by simp), statusOf_eq]
  exact congrArg some (by decide : statusOfName "import.completed.failed" = .failed)

/-- An event without a message id stores none. -/
theorem messageIds_record_none (event : Event) (now : ℕ) (db : Db) :
    (recordImportEvent event none now db).1.messageIds = db.messageIds := by
  have hnone : ∀ m, (none : Option String) = some m → m ∉ db.messageIds := by simp
  simpa using (recordImportEvent_fresh event now hnone).1

theorem recordFailure_cases {w w' : World} {now : ℕ}
    (h : imp.step w (.recordFailure now) = some w') :
    ∃ err, w.proxy = .checked err ∧ w' =
      { w with
        db := (recordImportEvent (forwardingFailure imp.runId imp.datasetName err) none now w.db).1
        proxy := .done
        failureRecorded := true } := by
  rw [step] at h
  split at h
  · next err hproxy => exact ⟨err, hproxy, (Option.some.inj h).symm⟩
  · cases h

theorem accept_cases {w w' : World} {now : ℕ} (h : imp.step w (.accept now) = some w') :
    w.proxy = .queued ∧ w' =
      { w with
        db := recordAcceptedImport imp.runId imp.datasetName now w.db
        proxy := .forwarding } := by
  rw [step] at h
  split_ifs at h with hq
  exact ⟨hq, (Option.some.inj h).symm⟩

/-- The answer to the request changes the proxy task only. -/
theorem forward_cases {w w' : World} {a : Action}
    (ha : a = .forwarded ∨ ∃ err, a = .forwardingFails err) (h : imp.step w a = some w') :
    w.proxy = .forwarding ∧ w'.proxy ≠ .queued ∧ w' = { w with proxy := w'.proxy } := by
  rcases ha with rfl | ⟨err, rfl⟩
  · rw [step] at h
    split_ifs at h with hf
    obtain rfl := Option.some.inj h
    exact ⟨hf, by simp, rfl⟩
  · rw [step] at h
    split_ifs at h with hf hterminal
    · obtain rfl := Option.some.inj h
      exact ⟨hf, by simp, rfl⟩
    · obtain rfl := Option.some.inj h
      exact ⟨hf, by simp, rfl⟩

/-- With nothing in between, the two steps of a failed request are one call of
`record_terminal_event_if_running`. -/
theorem forwardingFails_uninterrupted {w : World} (hf : w.proxy = .forwarding) (err : String)
    (now : ℕ) :
    ∃ as w', (as = [.forwardingFails err] ∨ as = [.forwardingFails err, .recordFailure now]) ∧
      Runs.run imp.step w as = some w' ∧ w'.proxy = .done ∧
      w'.db = recordTerminalEventIfRunning imp.runId
        (forwardingFailure imp.runId imp.datasetName err) now w.db := by
  by_cases hterminal : runIsTerminal (getImportRun w.db imp.runId) = true
  · refine ⟨_, { w with proxy := .done }, Or.inl rfl, ?_, rfl, ?_⟩
    · simp [Runs.run, step, hf, hterminal]
    · rw [recordTerminalEventIfRunning, if_pos hterminal]
  · refine ⟨_, { w with
        db := (recordImportEvent (forwardingFailure imp.runId imp.datasetName err) none now w.db).1
        proxy := .done
        failureRecorded := true }, Or.inr rfl, ?_, rfl, ?_⟩
    · simp [Runs.run, step, hf, hterminal]
    · rw [recordTerminalEventIfRunning, if_neg hterminal]

/-! ### One step -/

/-- In a state of the invariant, the condition on a step says exactly that the
step keeps a finished status. -/
theorem stepOk_iff {w w' : World} {a : Action} (hw : imp.Inv w) (h : imp.step w a = some w') :
    imp.StepOk w a ↔ (imp.Finished w → imp.status w' = imp.status w) := by
  have hanswer : ∀ {b : Action}, (b = .forwarded ∨ ∃ err, b = .forwardingFails err) →
      imp.step w b = some w' → imp.status w' = imp.status w := by
    intro b hb hstep
    rw [(forward_cases hb hstep).2.2]
    rfl
  cases a with
  | accept now =>
    obtain ⟨hq, -⟩ := accept_cases h
    have hnone := (hw.queued hq).2.2
    refine iff_of_true trivial fun hfin => ?_
    rcases hfin with hfin | hfin <;> simp [hnone] at hfin
  | forwarded => exact iff_of_true trivial fun _ => hanswer (Or.inl rfl) h
  | forwardingFails err => exact iff_of_true trivial fun _ => hanswer (Or.inr ⟨err, rfl⟩) h
  | recordFailure now =>
    obtain ⟨err, -, rfl⟩ := recordFailure_cases h
    have hfailed := status_failure imp w err now
    constructor
    · intro hok hfin
      rcases hfin with hfin | hfin
      · exact absurd hfin hok
      · exact hfailed.trans hfin.symm
    · intro hkeep hcompleted
      have := hfailed.symm.trans ((hkeep (Or.inl hcompleted)).trans hcompleted)
      simp at this
  | deliver i now =>
    obtain ⟨m, hm, hproxy, -, -, hcase⟩ := deliver_cases hw h
    have hstatus := hw.status hproxy
    rcases hcase with ⟨hlt, -, hsame, -⟩ | ⟨rfl, -, hset, -⟩
    · exact iff_of_true (fun _ heq => absurd heq hlt.ne) fun _ => hsame
    · have hok : imp.StepOk w (.deliver w.delivered now) ↔
          (w.failureRecorded = true → statusOf m.2 = .failed) := by
        constructor
        · exact fun hok hrec => (statusOf_eq_failed m.2).mpr (hok hrec rfl m hm)
        · intro hok hrec _ m' hm'
          obtain rfl : m = m' := Option.some.inj (hm.symm.trans hm')
          exact (statusOf_eq_failed m.2).mp (hok hrec)
      rw [hok, hset]
      cases hrec : w.failureRecorded with
      | true =>
        have hfailed : imp.status w = some .failed := by simpa [hrec] using hstatus
        simp [Finished, hfailed]
      | false =>
        -- nothing but the stream has written, and it keeps what it made final
        have hstream : imp.status w = some (imp.streamStatus w.delivered) := by
          simpa [hrec] using hstatus
        refine iff_of_true (by simp) fun hfin => ?_
        have hne : imp.streamStatus w.delivered ≠ .running := by
          intro heq
          rw [Finished, hstream, heq] at hfin
          simp at hfin
        rw [hstream, streamStatus_keepsFinal hm hne]

/-- A step that meets the condition keeps the invariant. -/
theorem Inv.step {w w' : World} {a : Action} (hw : imp.Inv w) (h : imp.step w a = some w')
    (hok : imp.StepOk w a) : imp.Inv w' := by
  -- an answer ends the forwarding and writes nothing
  have hanswer : ∀ {b : Action}, (b = .forwarded ∨ ∃ err, b = .forwardingFails err) →
      imp.step w b = some w' → imp.Inv w' := by
    intro b hb hstep
    obtain ⟨hf, hq', heq⟩ := forward_cases hb hstep
    have hrec : w.failureRecorded = false := by
      by_contra hne
      have hdone := hw.recorded (by simpa using hne)
      simp [hf] at hdone
    rw [heq]
    refine ⟨fun hq => absurd hq hq', fun _ => hw.status (by simp [hf]), ?_, hw.stored⟩
    intro h'
    simp [hrec] at h'
  cases a with
  | accept now =>
    obtain ⟨hq, rfl⟩ := accept_cases h
    obtain ⟨hzero, hrec, -⟩ := hw.queued hq
    refine ⟨by simp, fun _ => ?_, by simp [hrec], ?_⟩
    · show imp.status _ = some (if w.failureRecorded then .failed else imp.streamStatus w.delivered)
      rw [hrec, hzero]
      exact status_accepted imp w now
    · intro i m hm
      rw [← hw.stored i m hm]
      exact (messageIds_record_none _ _ _).symm ▸ Iff.rfl
  | forwarded => exact hanswer (Or.inl rfl) h
  | forwardingFails err => exact hanswer (Or.inr ⟨err, rfl⟩) h
  | recordFailure now =>
    obtain ⟨err, -, rfl⟩ := recordFailure_cases h
    refine ⟨by simp, fun _ => status_failure imp w err now, fun _ => rfl, ?_⟩
    · intro i m hm
      rw [← hw.stored i m hm]
      exact (messageIds_record_none _ _ _).symm ▸ Iff.rfl
  | deliver i now =>
    obtain ⟨m, hm, hproxy, hproxy', hrec', hcase⟩ := deliver_cases hw h
    have hstatus := hw.status hproxy
    -- a message that is stored already changes nothing, a new one counts
    rcases hcase with ⟨-, hdel, hsame, hids⟩ | ⟨rfl, hdel, hset, hids⟩
    · refine ⟨fun hq => absurd (hproxy' ▸ hq) hproxy, fun _ => ?_, ?_, ?_⟩
      · rw [hsame, hrec', hdel, hstatus]
      · rw [hrec', hproxy']
        exact hw.recorded
      · intro j m' hm'
        rw [hids, hdel]
        exact hw.stored j m' hm'
    · refine ⟨fun hq => absurd (hproxy' ▸ hq) hproxy, fun _ => ?_, ?_, ?_⟩
      · rw [hset, hrec', hdel, streamStatus_succ hm]
        cases hrec : w.failureRecorded with
        | true =>
          -- a failure that was recorded stays, if the stream ends in one too
          have hfailed := (statusOf_eq_failed m.2).mpr (hok hrec rfl m hm)
          simp [hfailed]
        | false => simp
      · rw [hrec', hproxy']
        exact hw.recorded
      · intro j m' hm'
        rw [hids, hdel, List.mem_append, hw.stored j m' hm', List.mem_singleton]
        constructor
        · rintro (hlt | heq)
          · omega
          · rw [position_unique hm' hm heq]
            omega
        · intro hlt
          rcases Nat.lt_succ_iff_lt_or_eq.mp hlt with hlt | rfl
          · exact Or.inl hlt
          · rw [hm] at hm'
            exact Or.inr (by rw [Option.some.inj hm'])

/-! ### Runs -/

/-- A step keeps the status of a finished job. -/
def Keeps (imp : Import) (w w' : World) : Prop := imp.Finished w → imp.status w' = imp.status w

theorem along_stepOk (as : List Action) :
    Runs.Along imp.step (fun w a _ => imp.StepOk w a) imp.start as
      ↔ Runs.Along imp.step (fun w _ w' => imp.Keeps w w') imp.start as := by
  refine Runs.along_congr ?_ ?_ (inv_start : imp.Inv imp.start) as
  · exact fun _ _ _ hw h => stepOk_iff hw h
  · exact fun _ _ _ hw h hok => hw.step h hok

theorem staysFinished_along (as : List Action) :
    imp.StaysFinished as
      ↔ Runs.Along imp.step (fun w _ w' => imp.Keeps w w') imp.start as := by
  refine (Runs.along_iff_between (R := imp.Keeps) ?_ ?_ imp.start as).symm
  · exact fun _ _ => rfl
  · intro w w' w'' h h' hfin
    have hmid := h hfin
    have hfin' : imp.Finished w' := by
      rw [Finished, hmid]
      exact hfin
    exact (h' hfin').trans hmid

/-- A job whose forwarded request does not fail stays finished. -/
theorem staysFinished_of_no_failure (imp : Import) (as : List Action)
    (h : ∀ now, Action.recordFailure now ∉ as) : imp.StaysFinished as := by
  have hquiet : ∀ w : World, w.failureRecorded = false →
      Runs.Along imp.step (fun w a _ => imp.StepOk w a) w as := by
    induction as with
    | nil => exact fun _ _ => trivial
    | cons a as ih =>
      intro w hrec w' hstep
      have hrest := ih (fun now hmem => h now (List.mem_cons_of_mem a hmem)) w'
      cases a with
      | accept now =>
        obtain ⟨-, rfl⟩ := accept_cases hstep
        exact ⟨trivial, hrest hrec⟩
      | forwarded =>
        rw [(forward_cases (Or.inl rfl) hstep).2.2] at hrest ⊢
        exact ⟨trivial, hrest hrec⟩
      | forwardingFails err =>
        rw [(forward_cases (Or.inr ⟨err, rfl⟩) hstep).2.2] at hrest ⊢
        exact ⟨trivial, hrest hrec⟩
      | recordFailure now => exact absurd List.mem_cons_self (h now)
      | deliver i now =>
        rw [step] at hstep
        split_ifs at hstep
        obtain ⟨m, -, rfl⟩ := Option.map_eq_some_iff.mp hstep
        exact ⟨fun hrec' => absurd hrec' (by simp [hrec]), hrest hrec⟩
  exact (staysFinished_along as).mpr ((along_stepOk as).mp (hquiet imp.start rfl))

/-- **When a finished import stays finished.**  In a run of the two tasks a
finished job keeps its status exactly when every step meets the condition: the
proxy never records its failure over a completed run, and once it has recorded
it, the stream delivers nothing new but failures. -/
theorem staysFinished_iff (imp : Import) (as : List Action) :
    imp.StaysFinished as ↔ Runs.Along imp.step (fun w a _ => imp.StepOk w a) imp.start as :=
  (staysFinished_along as).trans (along_stepOk as).symm

end Import

/-- An import whose request is lost after gcimport has started on it: the
stream still holds the two events before its features were posted. -/
def lostRequest : Import where
  runId := "7f3a"
  datasetName := "bane"
  db := Db.empty
  messages :=
    [("1-0", { importId := "7f3a", event := Event.started }),
      ("2-0", { importId := "7f3a", event := Event.parsed, totalFeatures := some 1 })]
  newRun := by simp [Db.empty]
  distinctIds := by decide
  newIds := by simp [Db.empty, Db.messageIds]
  ownRun := by decide
  protocol := by
    refine ⟨_, (Event.mem_featureProtocol _).mpr (Or.inr ⟨0, Or.inl rfl⟩), ?_⟩
    decide

/-- The proxy records the failure after `import.started` was delivered; when
`import.parsed` arrives late, the failed job is running again. -/
theorem staysFinished_violated :
    ¬ ∀ (imp : Import) (as : List Action), imp.StaysFinished as := by
  intro h
  have hrun := h lostRequest
    [.accept 0, .deliver 0 1, .forwardingFails "read timeout", .recordFailure 2, .deliver 1 3]
    [.accept 0, .deliver 0 1, .forwardingFails "read timeout", .recordFailure 2] [.deliver 1 3] []
    rfl _ _ rfl rfl
  have hfinished := hrun (Or.inr (by decide))
  revert hfinished
  decide

end Gcjobs
