/-
gcimport's events and gcjobs' job agree.

gcimport publishes what it does with a list of prepared features
(`Gcimport.importPrepared`), gcjobs folds the events into a run
(`Gcjobs.recordImportEvent`) and shows the run as a job (`Gcjobs.jobPayload`).
The two halves share nothing but the names of the event's members.

* `lookup_recordAll` — recording events in order is a fold over the run's row;
* `counters_foldRun` — its counters are the sum of the contributions;
* `recorded_succeeded`, `recorded_failed` — the row that the events of an import leave;
* `job_of_import` — the job is what the response, or the failed batch, was.
-/
import Topogdb.Gcimport.EventProtocol
import Topogdb.Gcjobs.Accounting
import Topogdb.Gcjobs.Storage

namespace Aggregation

open Gcjobs Gcimport Effects

/-! ### gcjobs: a fold over the row -/

/-- A stream entry with the clock at its recording. -/
structure Message where
  messageId : String
  now : ℕ
  event : Event

/-- Record the messages in order. -/
def recordAll (messages : List Message) (db : Db) : Db :=
  messages.foldl (fun db m => (recordImportEvent m.event (some m.messageId) m.now db).1) db

/-- Update the row for the messages in order. -/
def foldRun (messages : List Message) (run : ImportRun) : ImportRun :=
  messages.foldl (fun run m => updateRun m.event m.now run) run

theorem foldRun_concat (messages : List Message) (m : Message) (run : ImportRun) :
    foldRun (messages ++ [m]) run = updateRun m.event m.now (foldRun messages run) := by
  simp [foldRun]

/-- Recording new messages of a run that has a row folds over the row. -/
theorem lookup_recordAll {importId : String} {run : ImportRun} (messages : List Message) (db : Db)
    (hown : ∀ m ∈ messages, m.event.importId = importId)
    (hids : (messages.map (·.messageId)).Nodup)
    (hnew : ∀ m ∈ messages, m.messageId ∉ db.messageIds)
    (hrun : db.importRun.lookup importId = some run) :
    (recordAll messages db).importRun.lookup importId = some (foldRun messages run) := by
  induction messages generalizing db run with
  | nil => exact hrun
  | cons m messages ih =>
    have hfresh : ∀ k, some m.messageId = some k → k ∉ db.messageIds := by
      rintro k ⟨⟩
      exact hnew m List.mem_cons_self
    obtain ⟨hstored, hlookup⟩ := recordImportEvent_fresh m.event m.now hfresh
    have hm := hown m List.mem_cons_self
    rw [List.map_cons, List.nodup_cons] at hids
    refine ih _ (fun m' hm' => hown m' (List.mem_cons_of_mem m hm')) hids.2 ?_ ?_
    · intro m' hm' hmem
      rw [hstored, List.mem_append, Option.toList_some, List.mem_singleton] at hmem
      rcases hmem with hmem | hmem
      · exact hnew m' (List.mem_cons_of_mem m hm') hmem
      · exact hids.1 (List.mem_map.mpr ⟨m', hm', hmem⟩)
    · rw [hlookup importId, if_pos hm.symm, hm, hrun]
      rfl

/-- The same from the first message on, which creates the row if need be. -/
theorem lookup_recordAll_cons {importId : String} (m : Message) (messages : List Message) (db : Db)
    (hown : ∀ m' ∈ m :: messages, m'.event.importId = importId)
    (hids : ((m :: messages).map (·.messageId)).Nodup)
    (hnew : ∀ m' ∈ m :: messages, m'.messageId ∉ db.messageIds) :
    (recordAll (m :: messages) db).importRun.lookup importId
      = some (foldRun (m :: messages)
        ((db.importRun.lookup importId).getD (freshRun m.event m.now))) := by
  have hfresh : ∀ k, some m.messageId = some k → k ∉ db.messageIds := by
    rintro k ⟨⟩
    exact hnew m List.mem_cons_self
  obtain ⟨hstored, hlookup⟩ := recordImportEvent_fresh m.event m.now hfresh
  have hm := hown m List.mem_cons_self
  have hrow := hlookup importId
  rw [if_pos hm.symm, hm] at hrow
  rw [List.map_cons, List.nodup_cons] at hids
  refine lookup_recordAll messages _ (fun m' hm' => hown m' (List.mem_cons_of_mem m hm'))
    hids.2 ?_ hrow
  intro m' hm' hmem
  rw [hstored, List.mem_append, Option.toList_some, List.mem_singleton] at hmem
  rcases hmem with hmem | hmem
  · exact hnew m' (List.mem_cons_of_mem m hm') hmem
  · exact hids.1 (List.mem_map.mpr ⟨m', hm', hmem⟩)

/-- The counters of the row grow by the contributions of the events. -/
theorem counters_foldRun (messages : List Message) (run : ImportRun) :
    (foldRun messages run).counters
      = run.counters + (messages.map fun m => contribution m.event).sum := by
  induction messages generalizing run with
  | nil => exact (add_zero _).symm
  | cons m messages ih =>
    show (foldRun messages (updateRun m.event m.now run)).counters = _
    rw [ih, List.map_cons, List.sum_cons, ← add_assoc]
    rfl

/-! ### gcimport: the events of an import -/

variable (env : Env) (context : ImportRequestContext) (features : List PreparedFeature)

/-- A feature upload whose documents were prepared into these features. -/
def featureImport : ImportTask ImportResponse := do
  publishImportUpdate context.baseEvent Event.started "parsing" id
  importPrepared env context features

def startedEvent : Event := importEvent context.baseEvent Event.started "parsing" id

def parsedEvent : Event :=
  importEvent context.baseEvent Event.parsed "importing" fun event =>
    { event with totalFeatures := some features.length }

def completedEvent : Event :=
  importEvent context.baseEvent Event.completedSucceeded "completed" fun event =>
    { event with
      totalFeatures := some features.length
      importedFeatures := some features.length }

variable (answer : ℕ → Request → PostResult)

/-- What is left to do once the features are prepared, in the task and in the
request handler. -/
theorem featureImport_yields {r : Except PyError ImportResponse} {events : List Event}
    {requests : List Request}
    (h : Yields answer (importPrepared env context features) 0 r events requests) :
    Yields answer (featureImport env context features) 0 r (startedEvent context :: events)
      requests := by
  have hyields : Yields answer (featureImport env context features) 0 _ _ _ :=
    (yields_publishImportUpdate _ _ _ _ 0).bind h
  simpa [startedEvent] using hyields

theorem importUploads_yields_prepared {uploads : List UploadedImportFile}
    {r : Except PyError ImportResponse} {events : List Event} {requests : List Request}
    (hfeature : containsSosiUploads env uploads = false)
    (hprepare : Yields answer (prepareImportFeaturesFromUploads env uploads
      context.requestProfile context.baseEvent) 0 (.ok features) [] [])
    (h : Yields answer (importPrepared env context features) 0 r events requests) :
    Yields answer (importUploads env context uploads) 0 r (startedEvent context :: events)
      requests := by
  have hrest : Yields answer (if containsSosiUploads env uploads then importSosi env context uploads
      else do
        let features ← prepareImportFeaturesFromUploads env uploads context.requestProfile
          context.baseEvent
        importPrepared env context features) 0 r events requests := by
    rw [hfeature]
    exact hprepare.bind h
  have hyields : Yields answer (importUploads env context uploads) 0 _ _ _ :=
    (yields_publishImportUpdate _ _ _ _ 0).bind hrest
  simpa [startedEvent] using hyields

/-- All batches go through. -/
theorem importPrepared_ok
    (h : ∀ j chunk, (context.batches features)[j]? = some chunk →
      ∃ identifiers, chunkOutcome env answer context.apiUrl j chunk = .ok identifiers) :
    ∃ rows requests, rows.length = features.length ∧
      requests.length = (context.batches features).length ∧
      Yields answer (importPrepared env context features) 0
        (.ok (.imported { total := features.length, features := rows }))
        (parsedEvent context features ::
          (context.batches features).map (context.succeededEvent features.length)
            ++ [completedEvent context features]) requests := by
  have h0 : ∀ j chunk, (context.batches features)[j]? = some chunk →
      ∃ identifiers, chunkOutcome env answer context.apiUrl (0 + j) chunk = .ok identifiers := by
    simpa using h
  obtain ⟨rows, requests, hrows, hlen, hrun⟩ :=
    runImport_ok env answer context features features.length 0 h0
  refine ⟨rows, requests, hrows, hlen, ?_⟩
  have hyields : Yields answer (importPrepared env context features) 0 _ _ _ :=
    (yields_publishImportUpdate _ _ _ _ 0).bind
      (hrun.bind ((yields_publishImportUpdate _ _ _ _ _).bind (yields_pure _)))
  simpa [parsedEvent, completedEvent] using hyields

/-- The `n`-th batch is the first to fail. -/
theorem importPrepared_failed {n : ℕ} {chunk : Chunk} {collection featureId reason : String}
    (hchunk : (context.batches features)[n]? = some chunk)
    (h : ∀ j c, j < n → (context.batches features)[j]? = some c →
      ∃ identifiers, chunkOutcome env answer context.apiUrl j c = .ok identifiers)
    (hfail : chunkOutcome env answer context.apiUrl n chunk
      = .error (.upstreamImport collection featureId reason)) :
    ∃ requests, requests.length = n + 1 ∧
      Yields answer (importPrepared env context features) 0
        (.error (.http 502
          (upstreamDetail context.requestProfile.title collection featureId reason)))
        (parsedEvent context features ::
          ((context.batches features).take n).map (context.succeededEvent features.length)
            ++ [context.failedEvent features.length chunk collection featureId reason,
              upstreamFailure context.baseEvent features.length collection featureId reason])
        requests := by
  obtain ⟨requests, hlen, hrun⟩ := runImport_failed env answer context features features.length 0
    hchunk (by simpa using h) (by simpa using hfail)
  refine ⟨requests, hlen, ?_⟩
  have hyields : Yields answer (importPrepared env context features) 0 _ _ _ :=
    (yields_publishImportUpdate _ _ _ _ 0).bind hrun.bind_error
  simpa [parsedEvent] using hyields

/-! ### The sums -/

variable {context features}

theorem contribution_quiet {event : Event} (h : event.event ≠ "import.batch.succeeded")
    (h' : event.event ≠ "import.batch.failed") : contribution event = 0 := by
  rw [contribution, runUpdatesForEvent]
  simp only [h, h', if_false]
  rfl

theorem contribution_succeeded (total : ℕ) (chunk : Chunk) :
    contribution (context.succeededEvent total chunk)
      = { processedFeatures := chunk.length
          succeededFeatures := chunk.length
          processedBatches := 1
          succeededBatches := 1 } := by
  have hname : (context.succeededEvent total chunk).event = "import.batch.succeeded" :=
    (by decide : "import.batch." ++ "succeeded" = "import.batch.succeeded")
  rw [contribution, runUpdatesForEvent]
  simp only [hname, if_true]
  rfl

theorem contribution_failed (total : ℕ) (chunk : Chunk) (collection featureId reason : String) :
    contribution (context.failedEvent total chunk collection featureId reason)
      = { processedFeatures := chunk.length
          failedFeatures := chunk.length
          processedBatches := 1
          failedBatches := 1 } := by
  have hname : (context.failedEvent total chunk collection featureId reason).event
      = "import.batch.failed" :=
    (by decide : "import.batch." ++ "failed" = "import.batch.failed")
  have hne : ¬ "import.batch.failed" = "import.batch.succeeded" := by decide
  rw [contribution, runUpdatesForEvent]
  simp only [hname, hne, if_false, if_true]
  rfl

/-- The successes of a list of chunks. -/
theorem sum_succeeded (total : ℕ) (chunks : List Chunk) :
    ((chunks.map (context.succeededEvent total)).map contribution).sum
      = { processedFeatures := ((chunks.map List.length).sum : ℕ)
          succeededFeatures := ((chunks.map List.length).sum : ℕ)
          processedBatches := chunks.length
          succeededBatches := chunks.length } := by
  induction chunks with
  | nil => rfl
  | cons chunk chunks ih =>
    simp only [List.map_cons, List.sum_cons]
    rw [ih, contribution_succeeded, Counters.add_def]
    ext
    all_goals simp only [List.length_cons]
    all_goals push_cast
    all_goals omega

/-! ### Recording an import -/

/-- A run that gcjobs has not seen, or has only accepted. -/
def NewRun (importId : String) (db : Db) : Prop :=
  db.importRun.lookup importId = none ∨
    ∃ datasetName now db', db'.importRun.lookup importId = none ∧
      db = recordAcceptedImport importId datasetName now db'

theorem NewRun.counters {importId : String} {db : Db} (h : NewRun importId db) (event : Event)
    (now : ℕ) : ((db.importRun.lookup importId).getD (freshRun event now)).counters = 0 := by
  rcases h with h | ⟨datasetName, now', db', h, rfl⟩
  · rw [h]
    rfl
  · have hfresh : ∀ m, (none : Option String) = some m → m ∉ db'.messageIds := by simp
    obtain ⟨-, hlookup⟩ :=
      recordImportEvent_fresh (acceptedEvent importId datasetName) now' hfresh
    have hrow := hlookup importId
    have hown : (acceptedEvent importId datasetName).importId = importId := rfl
    rw [hown, if_pos rfl, h] at hrow
    rw [recordAcceptedImport, hrow]
    rfl

variable (messages : List Message) (db : Db)

/-- The row after an import: the last event's update of a row whose counters are
the sum over the earlier events. -/
theorem lookup_recorded {importId : String} {first last : Event} {events : List Event}
    (hevents : messages.map (·.event) = first :: events ++ [last])
    (hown : ∀ event ∈ first :: events ++ [last], event.importId = importId)
    (hnew : NewRun importId db) (hids : (messages.map (·.messageId)).Nodup)
    (hfresh : ∀ m ∈ messages, m.messageId ∉ db.messageIds) :
    ∃ run now, run.counters = ((first :: events).map contribution).sum ∧
      (recordAll messages db).importRun.lookup importId = some (updateRun last now run) := by
  have hown' : ∀ m ∈ messages, m.event.importId = importId :=
    fun m hm => hown _ (hevents ▸ List.mem_map_of_mem hm)
  obtain ⟨front, back, rfl, hfront, hback⟩ := List.map_eq_append_iff.mp hevents
  obtain ⟨m, rfl, rfl⟩ := List.map_eq_singleton_iff.mp hback
  obtain ⟨m', front, rfl, rfl, rfl⟩ := List.map_eq_cons_iff.mp hfront
  refine ⟨foldRun (m' :: front) ((db.importRun.lookup importId).getD (freshRun m'.event m'.now)),
    m.now, ?_, ?_⟩
  · rw [counters_foldRun, hnew.counters, zero_add, List.map_cons, List.map_cons, List.map_map]
    rfl
  · rw [List.cons_append, lookup_recordAll_cons m' (front ++ [m]) db hown' hids hfresh,
      ← List.cons_append, foldRun_concat]

/-- The job of an import whose batches all went through. -/
structure JobSucceeded (job : Job) (response : ImportSummary) (requests : ℕ) : Prop where
  status : job.status = .successful
  totalFeatures : job.totalFeatures = some (response.total : ℤ)
  counters : job.counters =
    { processedFeatures := response.total
      succeededFeatures := response.total
      failedFeatures := 0
      processedBatches := requests
      succeededBatches := requests
      failedBatches := 0 }
  progress : job.progress = if response.total = 0 then none else some 100

/-- The job of an import that failed on `chunk` after the chunks `before`. -/
structure JobFailed (job : Job) (before : List Chunk) (chunk : Chunk) (reason : String) :
    Prop where
  status : job.status = .failed
  counters : job.counters =
    { processedFeatures := (before.map List.length).sum + chunk.length
      succeededFeatures := (before.map List.length).sum
      failedFeatures := chunk.length
      processedBatches := before.length + 1
      succeededBatches := before.length
      failedBatches := 1 }
  lastError : job.lastError.reason = some reason

theorem jobSucceeded_of_row {run : ImportRun} {now requests : ℕ} {response : ImportSummary}
    (hcounters : run.counters =
      { processedFeatures := (features.length : ℤ)
        succeededFeatures := features.length
        processedBatches := requests
        succeededBatches := requests })
    (htotal : response.total = features.length) (filenames : Option (List String))
    (baseUrl : String) (settings : JobPayloadSettings) :
    JobSucceeded (jobPayload (updateRun (completedEvent context features) now run) filenames
      baseUrl settings) response requests := by
  -- completion counts nothing
  have hquiet : contribution (completedEvent context features) = 0 :=
    contribution_quiet (by decide +kernel : Event.completedSucceeded ≠ "import.batch.succeeded")
      (by decide +kernel : Event.completedSucceeded ≠ "import.batch.failed")
  have hrow : (updateRun (completedEvent context features) now run).counters = run.counters := by
    show run.counters + contribution (completedEvent context features) = _
    rw [hquiet, add_zero]
  have hprogress : progress (some (features.length : ℤ))
      (updateRun (completedEvent context features) now run).counters.processedFeatures
      = if response.total = 0 then none else some 100 := by
    rw [hrow, hcounters, htotal]
    by_cases hzero : features.length = 0
    · rw [if_pos hzero, hzero]
      rfl
    · rw [if_neg hzero]
      exact progress_self (by omega)
  refine ⟨?_, ?_, ?_, hprogress⟩
  · rfl
  · rw [htotal]
    rfl
  · show (updateRun (completedEvent context features) now run).counters = _
    rw [hrow, hcounters, htotal]

theorem jobFailed_of_row {run : ImportRun} {now total : ℕ} {before : List Chunk} {chunk : Chunk}
    {collection featureId reason : String} (hreason : reason ≠ "")
    (hcounters : run.counters =
      { processedFeatures := ((before.map List.length).sum : ℕ) + (chunk.length : ℤ)
        succeededFeatures := ((before.map List.length).sum : ℕ)
        failedFeatures := chunk.length
        processedBatches := before.length + 1
        succeededBatches := before.length
        failedBatches := 1 })
    (filenames : Option (List String)) (baseUrl : String) (settings : JobPayloadSettings) :
    JobFailed (jobPayload
      (updateRun (upstreamFailure context.baseEvent total collection featureId reason) now run)
      filenames baseUrl settings) before chunk reason := by
  have hquiet : contribution (upstreamFailure context.baseEvent total collection featureId reason)
      = 0 :=
    contribution_quiet (by decide +kernel : Event.completedFailed ≠ "import.batch.succeeded")
      (by decide +kernel : Event.completedFailed ≠ "import.batch.failed")
  refine ⟨rfl, ?_, ?_⟩
  · show run.counters + contribution _ = _
    rw [hquiet, add_zero, hcounters]
  · -- the reason is kept since it is not empty
    have herror : lastErrorOf (upstreamFailure context.baseEvent total collection featureId reason)
        = some
          { reason := some reason
            errors := context.baseEvent.errors
            collection := some collection
            featureId := some featureId } :=
      if_pos (Or.inl hreason)
    show ((lastErrorOf _).getD _).reason = _
    rw [herror]
    rfl

/-! ### The two halves -/

variable (context features)

/-- The events of one import carry its id. -/
theorem importId_events (ends : List Event) (before : List Chunk)
    (h : ∀ event ∈ ends, event.importId = context.baseEvent.importId) :
    ∀ event ∈ startedEvent context :: parsedEvent context features ::
        before.map (context.succeededEvent features.length) ++ ends,
      event.importId = context.baseEvent.importId := by
  intro event hmem
  rw [List.cons_append, List.cons_append, List.mem_cons, List.mem_cons, List.mem_append,
    List.mem_map] at hmem
  rcases hmem with rfl | rfl | ⟨chunk, -, rfl⟩ | hend
  · rfl
  · rfl
  · rfl
  · exact h event hend

/-- Starting and parsing count nothing. -/
theorem sum_before (before : List Event) :
    ((startedEvent context :: parsedEvent context features :: before).map contribution).sum
      = (before.map contribution).sum := by
  have hstarted : contribution (startedEvent context) = 0 :=
    contribution_quiet (by decide +kernel : Event.started ≠ "import.batch.succeeded")
      (by decide +kernel : Event.started ≠ "import.batch.failed")
  have hparsed : contribution (parsedEvent context features) = 0 :=
    contribution_quiet (by decide +kernel : Event.parsed ≠ "import.batch.succeeded")
      (by decide +kernel : Event.parsed ≠ "import.batch.failed")
  rw [List.map_cons, List.map_cons, List.sum_cons, List.sum_cons, hstarted, hparsed, zero_add,
    zero_add]

/-- The row of an import whose batches all go through. -/
theorem recorded_succeeded {raises : List Event → Event → Option PyError}
    (hall : ∀ (j : ℕ) (chunk : Chunk), (context.batches features)[j]? = some chunk →
      ∃ identifiers, chunkOutcome env answer context.apiUrl j chunk = .ok identifiers)
    (hevents : messages.map (·.event) =
      (exec (featureImport env context features) ⟨raises, answer⟩ {}).2.attempted)
    (hnew : NewRun context.baseEvent.importId db) (hids : (messages.map (·.messageId)).Nodup)
    (hfresh : ∀ m ∈ messages, m.messageId ∉ db.messageIds) :
    ∃ run now, getImportRun (recordAll messages db) context.baseEvent.importId =
        some (updateRun (completedEvent context features) now run) ∧
      run.counters =
        { processedFeatures := (features.length : ℤ)
          succeededFeatures := features.length
          processedBatches := (context.batches features).length
          succeededBatches := (context.batches features).length } := by
  obtain ⟨rows, requests, -, -, hyields⟩ := importPrepared_ok env context features answer hall
  obtain ⟨-, hattempted, -⟩ :=
    featureImport_yields env context features answer hyields raises {} rfl
  rw [hattempted, List.nil_append, ← List.cons_append] at hevents
  have hown := importId_events context features [completedEvent context features]
    (context.batches features) (by simp [completedEvent, importEvent])
  obtain ⟨run, now, hcounters, hrow⟩ := lookup_recorded messages db hevents hown hnew hids hfresh
  have hspec := batches_spec features context.settings.upsertBatchSize_pos
  refine ⟨run, now, hrow, ?_⟩
  rw [hcounters, sum_before, sum_succeeded, ImportRequestContext.batches, hspec.2]

/-- The row of an import whose `n`-th batch is the first to fail. -/
theorem recorded_failed {raises : List Event → Event → Option PyError} {n : ℕ} {chunk : Chunk}
    {collection featureId reason : String}
    (hchunk : (context.batches features)[n]? = some chunk)
    (hbefore : ∀ (j : ℕ) (c : Chunk), j < n → (context.batches features)[j]? = some c →
      ∃ identifiers, chunkOutcome env answer context.apiUrl j c = .ok identifiers)
    (hout : chunkOutcome env answer context.apiUrl n chunk =
      .error (.upstreamImport collection featureId reason))
    (hevents : messages.map (·.event) =
      (exec (featureImport env context features) ⟨raises, answer⟩ {}).2.attempted)
    (hnew : NewRun context.baseEvent.importId db) (hids : (messages.map (·.messageId)).Nodup)
    (hfresh : ∀ m ∈ messages, m.messageId ∉ db.messageIds) :
    ∃ run now, getImportRun (recordAll messages db) context.baseEvent.importId =
        some (updateRun (upstreamFailure context.baseEvent features.length collection featureId
          reason) now run) ∧
      run.counters =
        { processedFeatures :=
            ((((context.batches features).take n).map List.length).sum : ℕ) + (chunk.length : ℤ)
          succeededFeatures := ((((context.batches features).take n).map List.length).sum : ℕ)
          failedFeatures := chunk.length
          processedBatches := ((context.batches features).take n).length + 1
          succeededBatches := ((context.batches features).take n).length
          failedBatches := 1 } := by
  obtain ⟨requests, -, hyields⟩ :=
    importPrepared_failed env context features answer hchunk hbefore hout
  obtain ⟨-, hattempted, -⟩ :=
    featureImport_yields env context features answer hyields raises {} rfl
  have hown := importId_events context features
    [context.failedEvent features.length chunk collection featureId reason,
      upstreamFailure context.baseEvent features.length collection featureId reason]
    ((context.batches features).take n)
    (by simp [ImportRequestContext.failedEvent, upstreamFailure, batchEvent, importEvent])
  -- the last event on its own
  have hsplit : ∀ (xs : List Event) (a b : Event), xs ++ [a, b] = xs ++ [a] ++ [b] :=
    fun xs a b => (List.append_assoc xs [a] [b]).symm
  rw [hsplit] at hown
  rw [hattempted, List.nil_append, ← List.cons_append, hsplit] at hevents
  obtain ⟨run, now, hcounters, hrow⟩ := lookup_recorded messages db hevents hown hnew hids hfresh
  have hfold : run.counters = ((startedEvent context :: parsedEvent context features ::
      (((context.batches features).take n).map (context.succeededEvent features.length)
        ++ [context.failedEvent features.length chunk collection featureId reason])).map
          contribution).sum := hcounters
  refine ⟨run, now, hrow, ?_⟩
  rw [hfold, sum_before, List.map_append, List.sum_append, sum_succeeded, List.map_singleton,
    List.sum_singleton, contribution_failed, Counters.add_def]
  simp

/-- **The job says what became of the import.** -/
theorem job_of_import (raises : List Event → Event → Option PyError)
    (hevents : messages.map (·.event)
      = (exec (featureImport env context features) ⟨raises, answer⟩ {}).2.attempted)
    (hnew : NewRun context.baseEvent.importId db) (hids : (messages.map (·.messageId)).Nodup)
    (hfresh : ∀ m ∈ messages, m.messageId ∉ db.messageIds)
    (baseUrl : String) (settings : JobPayloadSettings) :
    let out := exec (featureImport env context features) ⟨raises, answer⟩ {}
    let Goes (j : ℕ) (chunk : Chunk) : Prop :=
      ∃ identifiers, chunkOutcome env answer context.apiUrl j chunk = .ok identifiers
    ∃ run, getImportRun (recordAll messages db) context.baseEvent.importId = some run ∧
      (∀ casefold profile datasetName, context.baseEvent.profile = some profile →
        casefold profile = casefold datasetName →
          getDatasetJob casefold (recordAll messages db) datasetName context.baseEvent.importId
              baseUrl settings =
            some (jobPayload run (runFilenames (recordAll messages db) run) baseUrl settings)) ∧
      ∀ filenames,
      let job := jobPayload run filenames baseUrl settings
      ((∀ j chunk, (context.batches features)[j]? = some chunk → Goes j chunk) ∧
          ∃ response, out.1 = .ok (.imported response) ∧ response.total = features.length ∧
            response.features.length = features.length ∧
            out.2.requests.length = (context.batches features).length ∧
            JobSucceeded job response out.2.requests.length) ∨
        ∃ n chunk collection featureId reason,
          (context.batches features)[n]? = some chunk ∧
          (∀ j c, j < n → (context.batches features)[j]? = some c → Goes j c) ∧
          chunkOutcome env answer context.apiUrl n chunk
            = .error (.upstreamImport collection featureId reason) ∧
          out.1 = .error (.http 502
            (upstreamDetail context.requestProfile.title collection featureId reason)) ∧
          out.2.requests.length = n + 1 ∧
          JobFailed job ((context.batches features).take n) chunk reason := by
  intro out Goes
  have hshown {last : Event} {now : ℕ} {run : ImportRun}
      (hrow : getImportRun (recordAll messages db) context.baseEvent.importId =
        some (updateRun last now run)) (hlast : last.profile = context.baseEvent.profile)
      (casefold : String → String) (profile datasetName : String)
      (hprofile : context.baseEvent.profile = some profile)
      (hsame : casefold profile = casefold datasetName) :
      getDatasetJob casefold (recordAll messages db) datasetName context.baseEvent.importId baseUrl
          settings =
        some (jobPayload (updateRun last now run)
          (runFilenames (recordAll messages db) (updateRun last now run)) baseUrl settings) := by
    refine getDatasetJob_of_run hrow ?_ hsame baseUrl settings
    show (last.profile <|> run.profile) = some profile
    rw [hlast, hprofile]
    rfl
  -- all batches go through, or there is a first that does not
  rcases first_failure (context.batches features) Goes with hall | hfirst
  · obtain ⟨rows, requests, hrows, hlen, hyields⟩ :=
      importPrepared_ok env context features answer hall
    obtain ⟨hresult, -, hrequests⟩ :=
      featureImport_yields env context features answer hyields raises {} rfl
    obtain ⟨run, now, hrow, hcounters⟩ := recorded_succeeded env context features answer messages db
      hall hevents hnew hids hfresh
    have hsent : out.2.requests.length = (context.batches features).length := by
      rw [hrequests, List.nil_append, hlen]
    rw [← hsent] at hcounters
    exact ⟨_, hrow, hshown hrow rfl, fun filenames => Or.inl ⟨hall, _, hresult, rfl, hrows, hsent,
      jobSucceeded_of_row hcounters rfl filenames baseUrl settings⟩⟩
  · obtain ⟨n, chunk, hchunk, hbad, hbefore⟩ := hfirst
    have hne : chunk ≠ [] :=
      (batches_spec features context.settings.upsertBatchSize_pos).1 chunk
        (List.mem_of_getElem? hchunk)
    rcases chunkOutcome_cases env answer context.apiUrl n hne with hgood | hfail
    · exact absurd hgood hbad
    · obtain ⟨collection, featureId, reason, hreason, hout⟩ := hfail
      obtain ⟨requests, hlen, hyields⟩ :=
        importPrepared_failed env context features answer hchunk hbefore hout
      obtain ⟨hresult, -, hrequests⟩ :=
        featureImport_yields env context features answer hyields raises {} rfl
      obtain ⟨run, now, hrow, hcounters⟩ := recorded_failed env context features answer messages db
        hchunk hbefore hout hevents hnew hids hfresh
      have hsent : out.2.requests.length = n + 1 := by
        rw [hrequests, List.nil_append, hlen]
      exact ⟨_, hrow, hshown hrow rfl, fun filenames => Or.inr ⟨n, chunk, collection, featureId,
        reason, hchunk, hbefore, hout, hresult, hsent,
        jobFailed_of_row hreason hcounters filenames baseUrl settings⟩⟩

/-! ### Two batches, the second one refused -/

def refusedFeatures : List PreparedFeature :=
  [⟨"bygning", tileId false, .null⟩, ⟨"bygning", tileId true, .null⟩]

def refusedMessages : List Message :=
  [⟨"1-0", 1, startedEvent twoLinesContext⟩,
    ⟨"2-0", 2, parsedEvent twoLinesContext refusedFeatures⟩,
    ⟨"3-0", 3, twoLinesContext.succeededEvent 2 [(0, ⟨"bygning", tileId false, .null⟩)]⟩,
    ⟨"4-0", 4, twoLinesContext.failedEvent 2 [(1, ⟨"bygning", tileId true, .null⟩)] "bygning"
      (tileId true) "batch request failed: refused"⟩,
    ⟨"5-0", 5, upstreamFailure twoLinesContext.baseEvent 2 "bygning" (tileId true)
      "batch request failed: refused"⟩]

/-- The job has counted the first batch, and says that the import failed. -/
theorem job_of_import_refused :
    ∃ job, getDatasetJob id (recordAll refusedMessages Db.empty) "bygning" "7f3a" "" ⟨"", "", ""⟩ =
        some job ∧
      job.status = .failed ∧ job.counters.succeededFeatures = 1 ∧
      job.counters.failedFeatures = 1 := by
  obtain ⟨run, -, hshown, hjob⟩ := job_of_import twoLinesEnv twoLinesContext refusedFeatures
    secondRefused refusedMessages Db.empty (fun _ _ => none) rfl (Or.inl rfl) (by decide)
    (by decide) "" ⟨"", "", ""⟩
  refine ⟨_, hshown id "bygning" "bygning" rfl rfl, ?_⟩
  rcases hjob (runFilenames (recordAll refusedMessages Db.empty) run) with
    ⟨hall, -⟩ | ⟨n, chunk, collection, featureId, reason, hchunk, -, hout, -, -, hfailed⟩
  · obtain ⟨identifiers, hok⟩ := hall 1 [(1, ⟨"bygning", tileId true, .null⟩)] rfl
    cases hok
  · obtain rfl : n = 1 := by
      rcases n with _ | _ | n
      · cases hchunk
        cases hout
      · rfl
      · cases hchunk
    cases hchunk
    exact ⟨hfailed.status, congrArg Counters.succeededFeatures hfailed.counters,
      congrArg Counters.failedFeatures hfailed.counters⟩

end Aggregation
