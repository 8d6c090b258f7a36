/-
gcjobs' import tables and the function that folds events into them
(`gcjobs/db.py`, tables from the `import_tracking` migration).

* `Db` — the `import_run` table, keyed by run id, and the `import_event` table
  in insertion order, whose `message_id` column carries a unique index;
* `recordImportEvent` — one call of `record_import_event`, which is one
  database transaction.

`recordImportEvent_duplicate` and `recordImportEvent_fresh` say all that one
call can do; later modules use these two and never unfold the function.
-/
import Mathlib.Data.Finmap
import Mathlib.Algebra.Group.Defs
import Mathlib.Tactic.Abel
import Topogdb.Event

namespace Gcjobs

/-! ### Counters -/

/-- The six counter columns of `import_run`. -/
@[ext] structure Counters where
  processedFeatures : ℤ := 0
  succeededFeatures : ℤ := 0
  failedFeatures : ℤ := 0
  processedBatches : ℤ := 0
  succeededBatches : ℤ := 0
  failedBatches : ℤ := 0
deriving DecidableEq

namespace Counters

instance : Zero Counters := ⟨{}⟩

instance : Add Counters :=
  ⟨fun a b =>
    { processedFeatures := a.processedFeatures + b.processedFeatures
      succeededFeatures := a.succeededFeatures + b.succeededFeatures
      failedFeatures := a.failedFeatures + b.failedFeatures
      processedBatches := a.processedBatches + b.processedBatches
      succeededBatches := a.succeededBatches + b.succeededBatches
      failedBatches := a.failedBatches + b.failedBatches }⟩

@[simp] theorem zero_def : (0 : Counters) = {} := rfl

theorem add_def (a b : Counters) :
    a + b =
      { processedFeatures := a.processedFeatures + b.processedFeatures
        succeededFeatures := a.succeededFeatures + b.succeededFeatures
        failedFeatures := a.failedFeatures + b.failedFeatures
        processedBatches := a.processedBatches + b.processedBatches
        succeededBatches := a.succeededBatches + b.succeededBatches
        failedBatches := a.failedBatches + b.failedBatches } := rfl

instance : AddCommMonoid Counters where
  add_assoc a b c := by simp [add_def, add_assoc]
  zero_add a := by simp [add_def]
  add_zero a := by simp [add_def]
  add_comm a b := by simp [add_def, add_comm]
  nsmul := nsmulRec

end Counters

/-! ### What one event asks for -/

/-- The values the `status` column of `import_run` takes. -/
inductive RunStatus where
  | running
  | completed
  | failed
deriving DecidableEq, Repr

/-- `_run_update_payload`: a status, the increments and the terminal flag. -/
structure RunUpdates where
  status : RunStatus
  counters : Counters := {}
  isTerminal : Bool := false
deriving DecidableEq

/-- `_run_updates_for_event`. -/
def runUpdatesForEvent (event : Event) : RunUpdates :=
  let batchSize := event.batchSize.getD 0
  if event.event = "import.batch.succeeded" then
    { status := .running
      counters :=
        { processedFeatures := batchSize
          succeededFeatures := batchSize
          processedBatches := 1
          succeededBatches := 1 } }
  else if event.event = "import.batch.failed" then
    { status := .failed
      counters :=
        { processedFeatures := batchSize
          failedFeatures := batchSize
          processedBatches := 1
          failedBatches := 1 }
      isTerminal := true }
  else
    { status :=
        if event.event = "import.completed.succeeded" then .completed
        else if event.event = "import.completed.failed" then .failed
        else .running
      isTerminal :=
        event.event = "import.completed.succeeded" ∨ event.event = "import.completed.failed" }

/-- The `last_error` object; members that are `None` are left out of it, and
the column default `{}` is the object without members. -/
structure LastError where
  reason : Option String := none
  errors : Option (List String) := none
  collection : Option String := none
  featureId : Option String := none
deriving DecidableEq

/-- The `last_error` an event carries: none unless `reason or errors` is truthy. -/
def lastErrorOf (event : Event) : Option LastError :=
  if event.reason.getD "" ≠ "" ∨ event.errors.getD [] ≠ [] then
    some
      { reason := event.reason
        errors := event.errors
        collection := event.collection
        featureId := event.featureId }
  else none

/-! ### The tables -/

/-- One row of `import_run`.  Times are the readings of the database clock. -/
structure ImportRun where
  id : String
  profile : Option String
  datasetApiPath : Option String
  filename : Option String
  status : RunStatus
  phase : Option String
  totalFeatures : Option ℤ
  counters : Counters
  lastError : LastError
  startedAt : ℕ
  completedAt : Option ℕ
  lastEventAt : ℕ
  updatedAt : ℕ

/-- One row of `import_event`. -/
structure ImportEventRow where
  importId : String
  eventType : String
  messageId : Option String
  payload : Event
  occurredAt : ℕ

/-- The two import tables. -/
structure Db where
  importRun : Finmap (fun _ : String => ImportRun)
  importEvent : List ImportEventRow

/-- The tables right after the migration. -/
def Db.empty : Db := ⟨∅, []⟩

/-- The non-null message ids stored, on which the unique index rests. -/
def Db.messageIds (db : Db) : List String := db.importEvent.filterMap (·.messageId)

/-- Whether a new row would hit the unique index: NULL never does. -/
def Db.messageIdConflict (db : Db) : Option String → Bool
  | some m => m ∈ db.messageIds
  | none => false

/-- `get_import_run`. -/
def getImportRun (db : Db) (importId : String) : Option ImportRun := db.importRun.lookup importId

/-- The row that the first statement inserts when the run is not there yet. -/
def freshRun (event : Event) (now : ℕ) : ImportRun :=
  { id := event.importId
    profile := event.profile
    datasetApiPath := event.datasetApiPath
    filename := event.filename
    status := (runUpdatesForEvent event).status
    phase := event.phase
    totalFeatures := event.totalFeatures
    counters := {}
    lastError := {}
    startedAt := now
    completedAt := none
    lastEventAt := now
    updatedAt := now }

/-- `insert into import_run … on conflict (id) do nothing`. -/
def insertRun (event : Event) (now : ℕ) (db : Db) : Db :=
  match db.importRun.lookup event.importId with
  | some _ => db
  | none => { db with importRun := db.importRun.insert event.importId (freshRun event now) }

/-- The `update import_run set …` of one event, on the row it finds. -/
def updateRun (event : Event) (now : ℕ) (run : ImportRun) : ImportRun :=
  let updates := runUpdatesForEvent event
  { run with
    profile := event.profile <|> run.profile
    datasetApiPath := event.datasetApiPath <|> run.datasetApiPath
    filename := event.filename <|> run.filename
    status := updates.status
    phase := event.phase <|> run.phase
    totalFeatures := event.totalFeatures <|> run.totalFeatures
    counters := run.counters + updates.counters
    lastError := (lastErrorOf event).getD run.lastError
    completedAt := if updates.isTerminal then some now else run.completedAt
    lastEventAt := now
    updatedAt := now }

/-- `record_import_event`: the tables afterwards and the row the call returns.
The event row is skipped when its message id is stored already, and then the
run is left as it is. -/
def recordImportEvent (event : Event) (messageId : Option String) (now : ℕ) (db : Db) :
    Db × Option ImportRun :=
  let db := insertRun event now db
  if db.messageIdConflict messageId then (db, db.importRun.lookup event.importId)
  else
    let row : ImportEventRow :=
      { importId := event.importId
        eventType := event.event
        messageId := messageId
        payload := event
        occurredAt := now }
    let db := { db with importEvent := db.importEvent ++ [row] }
    match db.importRun.lookup event.importId with
    | some run =>
      let run := updateRun event now run
      ({ db with importRun := db.importRun.insert event.importId run }, some run)
    | none => (db, none)

/-! ### What one call can do -/

theorem insertRun_lookup (event : Event) (now : ℕ) (db : Db) (runId : String) :
    (insertRun event now db).importRun.lookup runId
      = if runId = event.importId then
          some ((db.importRun.lookup event.importId).getD (freshRun event now))
        else db.importRun.lookup runId := by
  rw [insertRun]
  split
  · next run h =>
    by_cases hr : runId = event.importId
    · subst hr
      simp [h]
    · simp [hr]
  · next h =>
    by_cases hr : runId = event.importId
    · subst hr
      simp [h]
    · rw [if_neg hr]
      exact Finmap.lookup_insert_of_ne _ hr

theorem insertRun_importEvent (event : Event) (now : ℕ) (db : Db) :
    (insertRun event now db).importEvent = db.importEvent := by
  rw [insertRun]
  split <;> rfl

theorem insertRun_messageIds (event : Event) (now : ℕ) (db : Db) :
    (insertRun event now db).messageIds = db.messageIds := by
  rw [Db.messageIds, insertRun_importEvent, Db.messageIds]

/-- A message id stored before: at most the run row is created. -/
theorem recordImportEvent_duplicate (event : Event) {m : String} (now : ℕ) {db : Db}
    (h : m ∈ db.messageIds) :
    (recordImportEvent event (some m) now db).1 = insertRun event now db := by
  have h' : m ∈ (insertRun event now db).messageIds := by rwa [insertRun_messageIds]
  simp only [recordImportEvent]
  rw [if_pos (by simpa [Db.messageIdConflict] using h')]

/-- A delivery without a stored message id: the event row is appended and the
run, created if need be, takes the event's updates. -/
theorem recordImportEvent_fresh (event : Event) {messageId : Option String} (now : ℕ) {db : Db}
    (h : ∀ m, messageId = some m → m ∉ db.messageIds) :
    (recordImportEvent event messageId now db).1.messageIds
        = db.messageIds ++ messageId.toList ∧
      ∀ runId, (recordImportEvent event messageId now db).1.importRun.lookup runId
        = if runId = event.importId then
            some (updateRun event now
              ((db.importRun.lookup event.importId).getD (freshRun event now)))
          else db.importRun.lookup runId := by
  have hconf : ¬ (insertRun event now db).messageIdConflict messageId = true := by
    cases messageId with
    | none => simp [Db.messageIdConflict]
    | some m => simpa [Db.messageIdConflict, insertRun_messageIds] using h m rfl
  have hrun := insertRun_lookup event now db event.importId
  rw [if_pos rfl] at hrun
  simp only [recordImportEvent]
  rw [if_neg hconf]
  simp only [hrun]
  constructor
  · simp only [Db.messageIds, insertRun_importEvent, List.filterMap_append]
    cases messageId <;> simp
  · intro runId
    by_cases hr : runId = event.importId
    · subst hr
      simp
    · rw [if_neg hr, Finmap.lookup_insert_of_ne _ hr, insertRun_lookup, if_neg hr]

end Gcjobs
