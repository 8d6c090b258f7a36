/-
What gcjobs does with its import tables (`gcjobs/storage.py`).

* the two events it records itself: `recordAcceptedImport` and
  `recordTerminalEventIfRunning`;
* the OGC job that it shows for a run: `mapStatus` and `jobPayload`.

Times stay readings of the database clock; their RFC 3339 rendering is not
modelled.
-/
import Topogdb.Lib.Python
import Topogdb.Gcjobs.Db

namespace Gcjobs

/-! ### Recording -/

/-- The event that `record_accepted_import` records. -/
def acceptedEvent (importId datasetName : String) : Event :=
  { importId := importId
    event := "import.accepted"
    phase := some "accepted"
    profile := some datasetName }

/-- `record_accepted_import`. -/
def recordAcceptedImport (importId datasetName : String) (now : ℕ) (db : Db) : Db :=
  (recordImportEvent (acceptedEvent importId datasetName) none now db).1

/-- `_run_is_terminal`. -/
def runIsTerminal : Option ImportRun → Bool
  | some run => run.status = .completed ∨ run.status = .failed
  | none => false

/-- `record_terminal_event_if_running`, with nothing between its read and its
write. -/
def recordTerminalEventIfRunning (importId : String) (event : Event) (now : ℕ) (db : Db) : Db :=
  if runIsTerminal (getImportRun db importId) then db
  else (recordImportEvent event none now db).1

/-! ### Jobs -/

/-- The OGC status of a job. -/
inductive JobStatus where
  | accepted
  | running
  | successful
  | failed
deriving DecidableEq, Repr

/-- `_map_status`. -/
def mapStatus (run : ImportRun) : JobStatus :=
  match run.status with
  | .completed => .successful
  | .failed => .failed
  | .running => if run.phase = none ∨ run.phase = some "accepted" then .accepted else .running

/-- `JobPayloadSettings`. -/
structure JobPayloadSettings where
  processJobType : String
  importProcessId : String
  resultsRel : String

/-- A link of a job: `_service_link`. -/
structure Link where
  href : String
  rel : String
  type : String
  title : String
deriving DecidableEq

/-- `_mounted_link`, through `_mounted_url`. -/
def mountedLink (baseUrl path rel title : String) : Link :=
  { href := Python.rstrip '/' baseUrl ++ path
    rel := rel
    type := "application/json"
    title := title }

/-- `_job_links`. -/
def jobLinks (run : ImportRun) (baseUrl resultsRel : String) : List Link :=
  [mountedLink baseUrl ("/jobs/" ++ run.id) "self" "This document",
    mountedLink baseUrl "/jobs" "up" "Job list"] ++
  if mapStatus run = .successful then
    [mountedLink baseUrl ("/jobs/" ++ run.id ++ "/results") resultsRel "Job results"]
  else []

/-- `_normalized_filenames` of a list. -/
def normalizedFilenames (filenames : List String) : Option (List String) :=
  let filenames := (filenames.map Python.strip).filter (· ≠ "")
  if filenames = [] then none else some filenames

/-- `_normalized_filenames` of a string or of nothing. -/
def normalizedFilename (filename : Option String) : Option (List String) :=
  normalizedFilenames filename.toList

/-- `_import_filenames`, over the first five events of the run. -/
def importFilenames (db : Db) (importId : String) : Option (List String) :=
  ((db.importEvent.filter (·.importId = importId)).take 5).findSome? fun row =>
    normalizedFilenames row.payload.filenames <|> normalizedFilename row.payload.filename

/-- `_run_with_filenames`: the `filenames` it puts on the run, which has no such
column. -/
def runFilenames (db : Db) (run : ImportRun) : Option (List String) :=
  importFilenames db run.id <|> normalizedFilename run.filename

/-- The progress member: absent unless there are features to count. -/
def progress (totalFeatures : Option ℤ) (processedFeatures : ℤ) : Option ℤ :=
  match totalFeatures with
  | some total =>
    if 0 < total then
      let percent := Python.round (Python.mulDouble (Python.trueDiv processedFeatures total) 100)
      some (max 0 (min 100 percent))
    else none
  | none => none

/-- `_job_message`. -/
def jobMessage (status : JobStatus) (lastError : LastError) : Option String :=
  lastError.reason <|>
    match status with
    | .accepted => some "Import accepted"
    | .running => some "Import running"
    | .successful => some "Import completed"
    | .failed => none

/-- The job as OGC API Processes shows it. -/
structure Job where
  type : String
  jobID : String
  status : JobStatus
  links : List Link
  updated : ℕ
  phase : Option String
  totalFeatures : Option ℤ
  counters : Counters
  processID : String
  progress : Option ℤ
  created : ℕ
  started : Option ℕ
  finished : Option ℕ
  lastError : LastError
  filenames : Option (List String)
  message : Option String

/-- `_job_payload`. -/
def jobPayload (run : ImportRun) (filenames : Option (List String)) (baseUrl : String)
    (settings : JobPayloadSettings) : Job :=
  { type := settings.processJobType
    jobID := run.id
    status := mapStatus run
    links := jobLinks run baseUrl settings.resultsRel
    updated := run.lastEventAt
    phase := run.phase
    totalFeatures := run.totalFeatures
    counters := run.counters
    processID := settings.importProcessId
    progress := progress run.totalFeatures run.counters.processedFeatures
    created := run.startedAt
    started :=
      if run.phase = none ∨ run.phase = some "accepted" then none else some run.startedAt
    finished := run.completedAt
    lastError := run.lastError
    filenames := filenames
    message := jobMessage (mapStatus run) run.lastError }

/-- `get_dataset_job`: none is the 404.  Profiles match up to `casefold`. -/
def getDatasetJob (casefold : String → String) (db : Db) (datasetName jobId baseUrl : String)
    (settings : JobPayloadSettings) : Option Job := do
  let run ← getImportRun db jobId
  let profile ← run.profile
  if casefold profile = casefold datasetName then
    some (jobPayload run (runFilenames db run) baseUrl settings)
  else none

/-- A run is shown to those who ask for the dataset of its profile. -/
theorem getDatasetJob_of_run {casefold : String → String} {db : Db} {jobId profile datasetName : String}
    {run : ImportRun} (hrun : getImportRun db jobId = some run) (hprofile : run.profile = some profile)
    (hsame : casefold profile = casefold datasetName) (baseUrl : String)
    (settings : JobPayloadSettings) :
    getDatasetJob casefold db datasetName jobId baseUrl settings =
      some (jobPayload run (runFilenames db run) baseUrl settings) := by
  simp only [getDatasetJob, hrun, hprofile, Option.bind_eq_bind, Option.bind_some]
  exact if_pos hsame

/-- What is counted in full has made its progress. -/
theorem progress_self {total : ℤ} (h : 0 < total) : progress (some total) total = some 100 := by
  have hpercent : Python.round (Python.mulDouble 1 100) = 100 := by
    have hlog : Nat.log 2 100 ≤ 52 :=
      Nat.lt_succ_iff.mp (Nat.log_lt_of_lt_pow (by norm_num) (by norm_num))
    have hdouble : Python.toDouble 100 = ((100 : ℤ) : ℚ) := by
      simpa using Python.toDouble_natCast hlog
    rw [Python.mulDouble, one_mul, hdouble, Python.round_intCast]
  simp only [progress]
  rw [if_pos h, Python.trueDiv_self h.ne', hpercent]
  rfl

end Gcjobs
