/-
The job list of a dataset (`list_dataset_jobs` in `gcjobs/storage.py`,
`list_import_runs` in `gcjobs/db.py`).

The query takes the 10000 runs of any dataset with the latest events; the dataset
and the filters are picked among these, and the requested limit is taken last.

`listDatasetJobs_exact_iff` says when the list is the first `limit` jobs of all
that the dataset and the filters allow.
-/
import Topogdb.Lib.Identifiers
import Topogdb.Lib.Relations
import Topogdb.Gcjobs.Storage

namespace Gcjobs

/-- A status as the job shows it. -/
def JobStatus.name : JobStatus → String
  | .accepted => "accepted"
  | .running => "running"
  | .successful => "successful"
  | .failed => "failed"

/-- `JobQuery`. -/
structure JobQuery where
  datasetName : String
  limit : ℕ
  typeValues : Finset String := ∅
  processIds : Finset String := ∅
  statuses : Finset String := ∅
  baseUrl : String
  publicUrl : String

/-- What `list_dataset_jobs` returns. -/
structure JobList where
  jobs : List Job
  links : List Link

/-! ### The query -/

/-- The rows of `import_run`. -/
def Db.runs (db : Db) : Multiset ImportRun := db.importRun.entries.map (·.2)

/-- `order by last_event_at desc`. -/
def Later (run run' : ImportRun) : Prop := run'.lastEventAt ≤ run.lastEventAt

/-- The order in which the database came upon the rows; it is free among runs with
one time. -/
structure Db.Orders (db : Db) (rows : List ImportRun) : Prop where
  runs : ↑rows = db.runs
  later : rows.Pairwise Later

/-- `list_import_runs`, of the rows in their order. -/
def listImportRuns (rows : List ImportRun) (activeOnly : Bool) (limit : ℕ) : List ImportRun :=
  (if activeOnly then rows.filter fun run => run.status ≠ .completed ∧ run.status ≠ .failed
    else rows).take limit

/-! ### The list -/

section List

variable (casefold : String → String)

/-- `_dataset_matches_run`. -/
def datasetMatchesRun (run : ImportRun) (datasetName : String) : Bool :=
  match run.profile with
  | some profile => casefold profile = casefold datasetName
  | none => false

/-- `_filter_jobs`: an empty set of values asks for nothing. -/
def filterJobs (jobs : List Job) (typeValues processIds statuses : Finset String) : List Job :=
  let filtered := if typeValues = ∅ then jobs else jobs.filter (·.type ∈ typeValues)
  let filtered := if processIds = ∅ then filtered else filtered.filter (·.processID ∈ processIds)
  if statuses = ∅ then filtered else filtered.filter (·.status.name ∈ statuses)

/-- The job of a run in a list, where the run has no `filenames`. -/
def listedJob (query : JobQuery) (settings : JobPayloadSettings) (run : ImportRun) : Job :=
  jobPayload run none query.baseUrl settings

/-- `list_dataset_jobs`. -/
def listDatasetJobs (rows : List ImportRun) (query : JobQuery) (settings : JobPayloadSettings) :
    JobList :=
  let filtered :=
    if query.processIds ≠ ∅ ∧ settings.importProcessId ∉ query.processIds then []
    else if query.typeValues ≠ ∅ ∧ settings.processJobType ∉ query.typeValues then []
    else
      let runs := (listImportRuns rows false 10000).filter
        (datasetMatchesRun casefold · query.datasetName)
      filterJobs (runs.map (listedJob query settings)) query.typeValues query.processIds
        query.statuses
  { jobs := filtered.take query.limit
    links := [
      { href := query.publicUrl
        rel := "self"
        type := "application/json"
        title := "This document" }] }

/-! ### What is asked for -/

/-- The job has one of the values of every filter. -/
def JobQuery.Allows (query : JobQuery) (job : Job) : Prop :=
  (query.typeValues = ∅ ∨ job.type ∈ query.typeValues) ∧
    (query.processIds = ∅ ∨ job.processID ∈ query.processIds) ∧
    (query.statuses = ∅ ∨ job.status.name ∈ query.statuses)

instance (query : JobQuery) (job : Job) : Decidable (query.Allows job) :=
  inferInstanceAs (Decidable (_ ∧ _))

/-- The run is of the dataset and its job passes the filters. -/
def asksFor (query : JobQuery) (settings : JobPayloadSettings) (run : ImportRun) : Bool :=
  datasetMatchesRun casefold run query.datasetName ∧ query.Allows (listedJob query settings run)

/-- The jobs are those of the first `limit` runs, among all that are asked for. -/
def ListsFirst (db : Db) (query : JobQuery) (settings : JobPayloadSettings)
    (jobs : List Job) : Prop :=
  ∃ runs, Relations.IsFirst Later (db.runs.filter (asksFor casefold query settings ·)) query.limit
    runs ∧ jobs = runs.map (listedJob query settings)

theorem filterJobs_eq (jobs : List Job) (query : JobQuery) :
    filterJobs jobs query.typeValues query.processIds query.statuses =
      jobs.filter (query.Allows ·) := by
  have hfilter (values : Finset String) (value : Job → String) (jobs : List Job) :
      (if values = ∅ then jobs else jobs.filter fun job => value job ∈ values) =
        jobs.filter fun job => values = ∅ ∨ value job ∈ values := by
    by_cases h : values = ∅ <;> simp [h]
  rw [filterJobs, hfilter query.typeValues Job.type, hfilter query.processIds Job.processID,
    hfilter query.statuses (·.status.name), List.filter_filter, List.filter_filter]
  refine List.filter_congr fun job _ => ?_
  rw [Bool.eq_iff_iff, decide_eq_true_iff, JobQuery.Allows]
  simp only [Bool.and_eq_true, decide_eq_true_eq]
  tauto

/-- A request for another process or another type asks for no run. -/
theorem asksFor_settings {query : JobQuery} {settings : JobPayloadSettings} {run : ImportRun}
    (h : asksFor casefold query settings run = true) :
    ¬ (query.processIds ≠ ∅ ∧ settings.importProcessId ∉ query.processIds) ∧
      ¬ (query.typeValues ≠ ∅ ∧ settings.processJobType ∉ query.typeValues) := by
  obtain ⟨-, htype, hprocess, -⟩ := of_decide_eq_true h
  have hjob : (listedJob query settings run).type = settings.processJobType ∧
      (listedJob query settings run).processID = settings.importProcessId := ⟨rfl, rfl⟩
  rw [hjob.1] at htype
  rw [hjob.2] at hprocess
  tauto

/-- The list, as one filter between two limits. -/
theorem listDatasetJobs_jobs (rows : List ImportRun) (query : JobQuery)
    (settings : JobPayloadSettings) :
    (listDatasetJobs casefold rows query settings).jobs =
      (((rows.take 10000).filter (asksFor casefold query settings)).take query.limit).map
        (listedJob query settings) := by
  have hnone (h : ∀ run, ¬ asksFor casefold query settings run = true) :
      (((rows.take 10000).filter (asksFor casefold query settings)).take query.limit).map
        (listedJob query settings) = [] := by
    rw [List.filter_eq_nil_iff.mpr fun run _ => h run, List.take_nil, List.map_nil]
  rw [listDatasetJobs]
  by_cases hprocess : query.processIds ≠ ∅ ∧ settings.importProcessId ∉ query.processIds
  · rw [if_pos hprocess, hnone fun run h => (asksFor_settings casefold h).1 hprocess]
    exact List.take_nil
  by_cases htype : query.typeValues ≠ ∅ ∧ settings.processJobType ∉ query.typeValues
  · rw [if_neg hprocess, if_pos htype, hnone fun run h => (asksFor_settings casefold h).2 htype]
    exact List.take_nil
  · rw [if_neg hprocess, if_neg htype]
    simp only
    rw [filterJobs_eq, List.map_take, List.filter_map, List.filter_filter]
    congr 3
    funext run
    rw [asksFor, Bool.decide_and, Bool.and_comm]
    simp

theorem ListsFirst.length {casefold : String → String} {db : Db} {rows : List ImportRun}
    (hrows : db.Orders rows) {query : JobQuery} {settings : JobPayloadSettings} {jobs : List Job}
    (h : ListsFirst casefold db query settings jobs) :
    jobs.length = min query.limit (rows.filter (asksFor casefold query settings)).length := by
  obtain ⟨runs, hfirst, rfl⟩ := h
  rw [List.length_map, hfirst.length, ← hrows.runs]
  simp

/-- **The job list is exact** exactly when no run asked for is cut off by the
query, or enough of the 10000 latest runs are asked for. -/
theorem listDatasetJobs_exact_iff {db : Db} {rows : List ImportRun} (hrows : db.Orders rows)
    (query : JobQuery) (settings : JobPayloadSettings) :
    ListsFirst casefold db query settings (listDatasetJobs casefold rows query settings).jobs ↔
      ((∃ run ∈ rows.drop 10000, asksFor casefold query settings run) →
        query.limit ≤ (rows.take 10000).countP (asksFor casefold query settings)) := by
  rw [listDatasetJobs_jobs]
  constructor
  · intro h
    have hlength := h.length hrows
    rw [List.length_map] at hlength
    exact (Relations.length_take_filter_iff rows _ 10000 query.limit).mp hlength
  · exact fun h => ⟨_, Relations.isFirst_take_filter Later hrows.runs hrows.later h, rfl⟩

end List

/-! ### A busy service -/

/-- A run of a dataset that has just been accepted. -/
def acceptedRun (importId datasetName : String) (now : ℕ) : ImportRun :=
  updateRun (acceptedEvent importId datasetName) now
    (freshRun (acceptedEvent importId datasetName) now)

/-- A table with these runs. -/
def Db.ofRuns (runs : List ImportRun) (h : (runs.map (·.id)).Nodup) : Db where
  importRun :=
    { entries := ↑(runs.map fun run => (⟨run.id, run⟩ : Sigma fun _ : String => ImportRun))
      nodupKeys := by simpa [List.NodupKeys, List.keys, Function.comp_def] using h }
  importEvent := []

theorem Db.orders_ofRuns {runs : List ImportRun} (h : (runs.map (·.id)).Nodup)
    (hlater : runs.Pairwise Later) : (Db.ofRuns runs h).Orders runs where
  runs := by simp [Db.runs, Db.ofRuns, Function.comp_def]
  later := hlater

/-- `JOB_PAYLOAD_SETTINGS`. -/
def jobPayloadSettings : JobPayloadSettings :=
  { processJobType := "process"
    importProcessId := "import"
    resultsRel := "http://www.opengis.net/def/rel/ogc/1.0/results" }

/-- The jobs of a dataset, with the default limit and no filter. -/
def allJobs (datasetName : String) : JobQuery :=
  { datasetName := datasetName
    limit := 10
    baseUrl := "https://gcapi/datasets/" ++ datasetName ++ "/ogc_api"
    publicUrl := "https://gcapi/datasets/" ++ datasetName ++ "/ogc_api/jobs" }

/-- Two runs of two datasets. -/
theorem listDatasetJobs_exact_iff_sample :
    ListsFirst id (Db.ofRuns [acceptedRun "a" "fkb_bane" 2, acceptedRun "b" "bygning" 1] (by decide))
      (allJobs "bygning") jobPayloadSettings
      (listDatasetJobs id [acceptedRun "a" "fkb_bane" 2, acceptedRun "b" "bygning" 1]
        (allJobs "bygning") jobPayloadSettings).jobs :=
  (listDatasetJobs_exact_iff id (Db.orders_ofRuns (by decide) (by simp [Later, acceptedRun, updateRun]))
    (allJobs "bygning") jobPayloadSettings).mpr (by rintro ⟨run, hrun, -⟩; cases hrun)

/-- The runs of a busy dataset, and before them one of another. -/
def busyRuns (n : ℕ) : List ImportRun :=
  (List.range n).map (fun i => acceptedRun (Nat.repr i) "fkb_bane" (n - i)) ++
    [acceptedRun (Nat.repr n) "bygning" 0]

theorem nodup_busyRuns (n : ℕ) : ((busyRuns n).map (·.id)).Nodup := by
  have hids : (busyRuns n).map (·.id) = (List.range (n + 1)).map Nat.repr := by
    rw [busyRuns, List.range_succ, List.map_append, List.map_append, List.map_map]
    rfl
  rw [hids]
  exact List.nodup_range.map fun _ _ => Sql.repr_injective

theorem later_busyRuns (n : ℕ) : (busyRuns n).Pairwise Later := by
  refine List.pairwise_append.mpr ⟨?_, List.pairwise_singleton _ _, ?_⟩
  · refine List.pairwise_map.mpr (List.pairwise_lt_range.imp fun hlt => ?_)
    exact Nat.sub_le_sub_left hlt.le n
  · rintro run - run' hrun'
    rw [List.mem_singleton.mp hrun']
    exact Nat.zero_le _

/-- The job of the other dataset is not listed. -/
theorem listDatasetJobs_cut_off :
    (Db.ofRuns (busyRuns 10000) (nodup_busyRuns 10000)).Orders (busyRuns 10000) ∧
      ¬ ListsFirst id (Db.ofRuns (busyRuns 10000) (nodup_busyRuns 10000)) (allJobs "bygning")
        jobPayloadSettings (listDatasetJobs id (busyRuns 10000) (allJobs "bygning")
          jobPayloadSettings).jobs := by
  have horders := Db.orders_ofRuns (nodup_busyRuns 10000) (later_busyRuns 10000)
  have hlength : ((List.range 10000).map fun i =>
      acceptedRun (Nat.repr i) "fkb_bane" (10000 - i)).length = 10000 := by
    rw [List.length_map, List.length_range]
  have htake : (busyRuns 10000).take 10000 = (List.range 10000).map fun i =>
      acceptedRun (Nat.repr i) "fkb_bane" (10000 - i) := List.take_left' hlength
  have hbane (i now : ℕ) : asksFor id (allJobs "bygning") jobPayloadSettings
      (acceptedRun (Nat.repr i) "fkb_bane" now) = false := by
    have hdataset : datasetMatchesRun id (acceptedRun (Nat.repr i) "fkb_bane" now) "bygning" = false :=
      rfl
    exact decide_eq_false fun h => Bool.false_ne_true (hdataset.symm.trans h.1)
  have hnone : ((List.range 10000).map fun i =>
      acceptedRun (Nat.repr i) "fkb_bane" (10000 - i)).filter
        (asksFor id (allJobs "bygning") jobPayloadSettings) = [] := by
    simp [List.filter_eq_nil_iff, hbane]
  refine ⟨horders, fun h => ?_⟩
  -- one run is asked for, and none of the latest
  have hone := h.length horders
  rw [listDatasetJobs_jobs, htake, hnone, busyRuns, List.filter_append, hnone] at hone
  exact absurd hone (by decide)

end Gcjobs
