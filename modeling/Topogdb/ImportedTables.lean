/-
What the job of an import says about the tables of geocomponents.

An import sends its batches to geocomponents, where anyone else may write between
two of them, and its events to gcjobs, through a stream that it shares with other
imports and whose entries may come again.  The job and the tables meet only in what
gcimport saw of the answers.

* `requests_featureImport` — the requests are those of `runBatches`;
* `storedUpTo_of_answers` — what the answers say about the tables;
* **`importedTables_reported`** — the features that the job counts as succeeded are
  stored, and of the others at most one batch.
-/
import Topogdb.Batching
import Topogdb.ImportStream

namespace Aggregation

open Gcjobs Gcimport Effects Batching

/-! ### The requests -/

section Requests

variable (env : Env) (answer : ℕ → Request → PostResult) (context : ImportRequestContext)
  (features : List PreparedFeature)

/-- What the batches of an import come to. -/
def batchRun : BatchRun :=
  runBatches env answer context.apiUrl 0 (context.batches features)
    (List.replicate features.length none)

theorem runImport_requests (total : ℕ) :
    ∃ r events, Yields answer (runImport env context features total) 0 r events
      (batchRun env answer context features).requests := by
  have hyields := importFeatures_yields env answer context.apiUrl
    (fun b _ => yields_publish_swallowed (batchEvent context.baseEvent total b)) features
    context.settings.upsertBatchSize 0
  change Yields answer _ 0 (_ <$> (batchRun env answer context features).result)
    ((batchRun env answer context features).events.flatMap _)
    (batchRun env answer context features).requests at hyields
  cases hresult : (batchRun env answer context features).result with
  | ok imported =>
    rw [hresult] at hyields
    exact ⟨_, _, hyields.handle⟩
  | error e =>
    rw [hresult] at hyields
    -- the handler posts nothing
    cases e with
    | upstreamImport collection featureId reason =>
      have hhandler : ∀ k, Yields answer (do
          publishEvent (upstreamFailure context.baseEvent total collection featureId reason)
          lift (httpException 502
            (upstreamDetail context.requestProfile.title collection featureId reason)) :
            ImportTask ImportSummary) k _ _ _ :=
        fun k => (yields_publish_swallowed _).bind (yields_lift _)
      have hrun : Yields answer (runImport env context features total) 0 _ _ _ :=
        hyields.handle_error (hhandler _)
      simp only [List.append_nil] at hrun
      exact ⟨_, _, hrun⟩
    | _ =>
      have hrun : Yields answer (runImport env context features total) 0 _ _ _ :=
        hyields.handle_error (yields_lift _)
      simp only [List.append_nil] at hrun
      exact ⟨_, _, hrun⟩

/-- The requests of an import are those of its batches. -/
theorem requests_featureImport (raises : List Event → Event → Option PyError) :
    (exec (featureImport env context features) ⟨raises, answer⟩ {}).2.requests =
      (batchRun env answer context features).requests := by
  obtain ⟨r, events, hrun⟩ := runImport_requests env answer context features features.length
  have hprepared : ∃ r events, Yields answer (importPrepared env context features) 0 r events
      (batchRun env answer context features).requests := by
    cases r with
    | ok summary =>
      have hyields : Yields answer (importPrepared env context features) 0 _ _ _ :=
        (yields_publishImportUpdate _ _ _ _ 0).bind
          (hrun.bind ((yields_publishImportUpdate _ _ _ _ _).bind (yields_pure _)))
      simp only [List.nil_append, List.append_nil] at hyields
      exact ⟨_, _, hyields⟩
    | error e =>
      have hyields : Yields answer (importPrepared env context features) 0 _ _ _ :=
        (yields_publishImportUpdate _ _ _ _ 0).bind hrun.bind_error
      exact ⟨_, _, hyields⟩
  obtain ⟨r', events', hyields⟩ := hprepared
  exact (featureImport_yields env context features answer hyields raises {} rfl).2.2

end Requests

/-! ### The tables -/

section Tables

variable {Geometry : Type} {service : Service Geometry}

/-- The first `n` batches are stored, each by its statement, and the next one is
stored as a whole or not at all. -/
structure StoredUpTo (service : Service Geometry) (before after : ℕ → Geocomponents.Db Geometry)
    (sent : List Chunk) (n : ℕ) : Prop where
  stored : ∀ k chunk, k < n → sent[k]? = some chunk →
    ∃ ids, service.upserts k chunk (before k) = .ok (ids, after k) ∧ ids.length = chunk.length ∧
      ∀ id ∈ ids, ((after k).row? ⟨chunkCollection chunk, id⟩).isSome
  next : ∀ chunk, sent[n]? = some chunk →
    after n = before n ∨ ∃ ids, service.upserts n chunk (before n) = .ok (ids, after n)

/-- A batch is upserted or it leaves the tables, whatever the client sees. -/
theorem serve_upserts {k : ℕ} {chunk : Chunk} {apiUrl : String} {db : Geocomponents.Db Geometry}
    (hobjects : IsObjects chunk) (hne : chunk ≠ []) :
    (service.serve k (chunkRequest apiUrl chunk) db).2 = db ∨
      ∃ ids, service.upserts k chunk db =
        .ok (ids, (service.serve k (chunkRequest apiUrl chunk) db).2) := by
  rw [Service.serve]
  cases hexecute : Geocomponents.executeUpsertBatch service.gis (service.env k) service.deployed
      service.loads (Geocomponents.providerDefs service.dataset)
      (((chunkRequest apiUrl chunk).payload.get? "inputs").getD (.obj [])) db with
  | error e => exact .inl rfl
  | ok x =>
    obtain ⟨ids, hids, -⟩ := Geocomponents.executeUpsertBatch_eq_ok (documents_objects hobjects)
      (by simpa [documents] using hne) hexecute
    exact .inr ⟨ids, hids⟩

theorem delivered_whole {k : ℕ} {chunk : Chunk} {apiUrl : String} {result : PostResult}
    {db db' : Geocomponents.Db Geometry} (hobjects : IsObjects chunk) (hne : chunk ≠ [])
    (h : Delivered service k (chunkRequest apiUrl chunk) db result db') :
    db' = db ∨ ∃ ids, service.upserts k chunk db = .ok (ids, db') := by
  cases h with
  | answered => exact serve_upserts hobjects hne
  | requestLost message => exact .inl rfl
  | answerLost message => exact serve_upserts hobjects hne

variable {env : Env} {answer : ℕ → Request → PostResult} {context : ImportRequestContext}
  {features : List PreparedFeature} {before after : ℕ → Geocomponents.Db Geometry}

/-- Each batch that is sent is delivered. -/
theorem delivered_batch
    (hdelivered : ∀ k request, (batchRun env answer context features).requests[k]? = some request →
      Delivered service k request (before k) (answer k request) (after k)) {k : ℕ} {chunk : Chunk}
    (hchunk : (context.batches features)[k]? = some chunk)
    (hk : k < (batchRun env answer context features).requests.length) :
    Delivered service k (chunkRequest context.apiUrl chunk) (before k)
      (answer k (chunkRequest context.apiUrl chunk)) (after k) := by
  obtain ⟨n, hn⟩ : ∃ n, (batchRun env answer context features).requests =
      ((context.batches features).take n).map (chunkRequest context.apiUrl) :=
    requests_runBatches context.settings.upsertBatchSize_pos _
  refine hdelivered k _ ?_
  rw [hn, List.length_map, List.length_take] at hk
  rw [hn, List.getElem?_map, List.getElem?_take_of_lt (by omega), hchunk]
  rfl

/-- **When the first `n` batches are answered**, they are stored, and the next one, if
it is sent, is stored as a whole or not at all. -/
theorem storedUpTo_of_answers (hservice : service.Documented)
    (hobjects : ∀ f ∈ features, ∃ members, f.geojson = .obj members)
    (hdelivered : ∀ k request, (batchRun env answer context features).requests[k]? = some request →
      Delivered service k request (before k) (answer k request) (after k)) {n : ℕ}
    (hsent : ∀ k chunk, k ≤ n → (context.batches features)[k]? = some chunk →
      k < (batchRun env answer context features).requests.length)
    (hanswers : ∀ k chunk, k < n → (context.batches features)[k]? = some chunk →
      ∃ identifiers, chunkOutcome env answer context.apiUrl k chunk = .ok identifiers) :
    StoredUpTo service before after (context.batches features) n := by
  have hsize := context.settings.upsertBatchSize_pos
  have hbatch : ∀ (k : ℕ) (chunk : Chunk), (context.batches features)[k]? = some chunk →
      chunk ≠ [] ∧ IsObjects chunk := by
    intro k chunk hchunk
    have hmem : chunk ∈ batches features context.settings.upsertBatchSize :=
      List.mem_of_getElem? hchunk
    exact ⟨(mem_batches hsize hmem).1, isObjects_batches hsize hobjects hmem⟩
  constructor
  · intro k chunk hk hchunk
    obtain ⟨hne, hobj⟩ := hbatch k chunk hchunk
    obtain ⟨identifiers, hout⟩ := hanswers k chunk hk hchunk
    have hgiven := ((chunkOutcome_eq_ok hne).mp hout).1
    obtain ⟨ids, hids, -⟩ := (delivered_batch hdelivered hchunk
      (hsent k chunk hk.le hchunk)).stored hservice hobj hne hgiven
    obtain ⟨hlen, hrows, -⟩ := Geocomponents.upsertStatement_spec hids
    exact ⟨ids, hids, hlen.trans (List.length_map _), hrows⟩
  · intro chunk hchunk
    obtain ⟨hne, hobj⟩ := hbatch n chunk hchunk
    exact delivered_whole hobj hne (delivered_batch hdelivered hchunk (hsent n chunk le_rfl hchunk))

end Tables

/-! ### The job -/

/-- **The job of an import is true of the tables.**  Whoever else writes between the
batches, and whatever else is in the stream, the features that the job counts as
succeeded are those of the `n` batches that were answered; these are stored, the next
batch is stored as a whole or not at all, and no other was sent. -/
theorem importedTables_reported {Geometry : Type} (env : Env) (context : ImportRequestContext)
    (features : List PreparedFeature) (answer : ℕ → Request → PostResult)
    (raises : List Event → Event → Option PyError) (service : Service Geometry)
    (hservice : service.Documented)
    (hobjects : ∀ f ∈ features, ∃ members, f.geojson = .obj members)
    (before after : ℕ → Geocomponents.Db Geometry)
    (hdelivered : ∀ k request,
      (exec (featureImport env context features) ⟨raises, answer⟩ {}).2.requests[k]? = some request →
        Delivered service k request (before k) (answer k request) (after k))
    (rt : Runtime) (t : Tracking) (entries : List (StreamEntry × ℕ))
    (hentries : ∀ e ∈ entries, WellFormed rt e.1)
    (hsame : ∀ e ∈ entries, ∀ e' ∈ entries, e.1.messageId = e'.1.messageId → e.1 = e'.1)
    (hfresh : ∀ e ∈ entries, e.1.messageId ∉ t.db.messageIds)
    (hnew : NewRun context.baseEvent.importId t.db)
    (hpublished :
      (ownDeliveries context.baseEvent.importId (messagesOf rt entries)).map (·.event) =
        (exec (featureImport env context features) ⟨raises, answer⟩ {}).2.attempted)
    (filenames : Option (List String)) (baseUrl : String) (settings : JobPayloadSettings) :
    let sent := context.batches features
    let out := exec (featureImport env context features) ⟨raises, answer⟩ {}
    ∃ run, getImportRun (consumeImportEvents rt entries t).db context.baseEvent.importId =
        some run ∧
      ∃ n, n ≤ sent.length ∧ StoredUpTo service before after sent n ∧
        out.2.requests.length ≤ n + 1 ∧
        (∀ k chunk, k ≤ n → sent[k]? = some chunk →
          (k < n ↔ ∃ ids, chunkOutcome env answer context.apiUrl k chunk = .ok ids)) ∧
        (jobPayload run filenames baseUrl settings).counters.succeededFeatures =
          (((sent.take n).map List.length).sum : ℕ) ∧
        ((jobPayload run filenames baseUrl settings).status = .successful ↔ n = sent.length) ∧
        ((jobPayload run filenames baseUrl settings).status = .failed ↔ n < sent.length) := by
  intro sent out
  have hrequests : out.2.requests = (batchRun env answer context features).requests :=
    requests_featureImport env answer context features raises
  rw [hrequests] at hdelivered
  obtain ⟨himports, hmessages⟩ := messagesOf_spec hsame hfresh
  obtain ⟨hown, hids⟩ := ownDeliveries_spec context.baseEvent.importId (messagesOf rt entries)
  have hfirst : ∀ m ∈ ownDeliveries context.baseEvent.importId (messagesOf rt entries),
      m.messageId ∉ t.db.messageIds := fun m hm => hmessages m (hown m hm).1
  -- the stream holds other entries and repeats: the row is that of the first own ones
  have hrow : getImportRun (consumeImportEvents rt entries t).db context.baseEvent.importId =
      getImportRun (recordAll (ownDeliveries context.baseEvent.importId (messagesOf rt entries)) t.db)
        context.baseEvent.importId := by
    rw [consumeImportEvents_db hentries]
    exact ((lookup_recordAll_among himports hmessages).2 _).trans
      (recordAll_ownDeliveries _ hmessages).symm
  have hsize := context.settings.upsertBatchSize_pos
  -- sent to the end, or up to the first batch that was not answered
  rcases runBatches_cases env answer context.apiUrl features hsize
      (List.replicate features.length none) with
    ⟨hall, hsent⟩ | ⟨n, chunk, hchunk, hbefore, hbad, -, hsent⟩
  · obtain ⟨run, now, hrun, hcounters⟩ := recorded_succeeded env context features answer _ t.db
      hall hpublished hnew hids hfirst
    have hjob : JobSucceeded (jobPayload (updateRun (completedEvent context features) now run)
        filenames baseUrl settings) ⟨features.length, []⟩ sent.length :=
      jobSucceeded_of_row hcounters rfl filenames baseUrl settings
    have hlen : out.2.requests.length = sent.length := by
      rw [hrequests]
      exact (congrArg List.length hsent).trans (List.length_map _)
    refine ⟨_, hrow.trans hrun, sent.length, le_rfl, ?_, by omega, ?_, ?_, ?_, ?_⟩
    · refine storedUpTo_of_answers hservice hobjects hdelivered ?_ fun k c _ hc => hall k c hc
      intro k c _ hc
      rw [← hrequests, hlen]
      exact (List.getElem?_eq_some_iff.mp hc).1
    · exact fun k c _ hc => iff_of_true (List.getElem?_eq_some_iff.mp hc).1 (hall k c hc)
    · rw [hjob.counters, List.take_length]
      exact congrArg Nat.cast (batches_spec features hsize).2.symm
    · exact iff_of_true hjob.status rfl
    · rw [hjob.status]
      exact iff_of_false (by decide) (lt_irrefl _)
  · obtain ⟨collection, featureId, reason, hreason, hout⟩ :=
      (chunkOutcome_cases env answer context.apiUrl n
        (mem_batches hsize (List.mem_of_getElem? hchunk)).1).resolve_left hbad
    obtain ⟨run, now, hrun, hcounters⟩ := recorded_failed env context features answer _ t.db
      hchunk hbefore hout hpublished hnew hids hfirst
    have hjob : JobFailed (jobPayload (updateRun (upstreamFailure context.baseEvent features.length
        collection featureId reason) now run) filenames baseUrl settings) (sent.take n) chunk
        reason :=
      jobFailed_of_row hreason hcounters filenames baseUrl settings
    have hn : n < sent.length := (List.getElem?_eq_some_iff.mp hchunk).1
    have hlen : out.2.requests.length = n + 1 := by
      rw [hrequests]
      refine (congrArg List.length hsent).trans ?_
      rw [List.length_map, List.length_take]
      exact min_eq_left hn
    refine ⟨_, hrow.trans hrun, n, hn.le, ?_, by omega, ?_, ?_, ?_, ?_⟩
    · refine storedUpTo_of_answers hservice hobjects hdelivered (fun k c hk _ => ?_) hbefore
      rw [← hrequests, hlen]
      omega
    · intro k c hk hc
      rcases Nat.lt_or_eq_of_le hk with hk | rfl
      · exact iff_of_true hk (hbefore k c hk hc)
      · cases Option.some.inj (hchunk.symm.trans hc)
        exact iff_of_false (lt_irrefl _) hbad
    · rw [hjob.counters]
    · rw [hjob.status]
      exact iff_of_false (by decide) (by omega)
    · exact iff_of_true hjob.status hn

namespace Sample

/-- Two signs, one to a batch. -/
def signContext : ImportRequestContext where
  settings := ⟨"http://api", 100, 1, Nat.one_pos⟩
  requestProfile := bygningProfile
  baseEvent := baseEvent bygningProfile "7f3a" []

def sign (second : Bool) : PreparedFeature :=
  ⟨"skilt", tileId second, .obj [("id", .str (tileId second)), ("geometry", .obj []),
    ("properties", .obj [("lokalid", .str "stopp")])]⟩

def signBatch (second : Bool) : Chunk := [(if second then 1 else 0, sign second)]

def signRequest (second : Bool) : Request :=
  chunkRequest signContext.apiUrl (signBatch second)

/-- The service before and after the two batches. -/
def signTables : ℕ → Geocomponents.Db Unit
  | 0 => Geocomponents.Db.empty
  | k + 1 => (Batching.Sample.signs.serve k (signRequest (k = 1)) (signTables k)).2

/-- The answer to the first batch arrives, the one to the second is lost. -/
def answerLost (k : ℕ) (_ : Request) : PostResult :=
  if k = 0 then (Batching.Sample.signs.serve 0 (signRequest false) (signTables 0)).1
  else .httpError "reset"

/-- The events of that import, under the id of their entry. -/
def lostEvents : List (String × Event) :=
  [("1-0", startedEvent signContext), ("2-0", parsedEvent signContext [sign false, sign true]),
    ("3-0", signContext.succeededEvent 2 (signBatch false)),
    ("4-0", signContext.failedEvent 2 (signBatch true) "skilt" (tileId true)
      "batch request failed: reset"),
    ("5-0", upstreamFailure signContext.baseEvent 2 "skilt" (tileId true)
      "batch request failed: reset")]

/-- Entries with the id of their event as the payload. -/
def lostStream : Runtime where
  loads payload := some (.obj [("import_id", .str "7f3a"), ("event", .str payload)])
  store members :=
    match members.lookup "event" with
    | some (.str payload) => ((lostEvents.lookup payload).map .ok).getD (.error "no such event")
    | _ => .error "no such event"

def lostEntries : List (StreamEntry × ℕ) :=
  lostEvents.map fun e => (⟨e.1, [("event", e.1)]⟩, 1)

theorem signBatches : signContext.batches [sign false, sign true] =
    [signBatch false, signBatch true] := rfl

theorem firstAnswered :
    chunkOutcome Batching.Sample.uuidEnv answerLost signContext.apiUrl 0 (signBatch false) =
      .ok [tileId false] :=
  Except.toOption_eq_some.mp (by decide +kernel)

theorem secondLost :
    chunkOutcome Batching.Sample.uuidEnv answerLost signContext.apiUrl 1 (signBatch true) =
      .error (.upstreamImport "skilt" (tileId true) "batch request failed: reset") := rfl

theorem answeredBefore (j : ℕ) (c : Chunk) (hj : j < 1)
    (hc : (signContext.batches [sign false, sign true])[j]? = some c) :
    ∃ identifiers, chunkOutcome Batching.Sample.uuidEnv answerLost signContext.apiUrl j c =
      .ok identifiers := by
  obtain rfl := Nat.lt_one_iff.mp hj
  cases hc
  exact ⟨_, firstAnswered⟩

/-- Both batches are sent. -/
theorem signRequests : (batchRun Batching.Sample.uuidEnv answerLost signContext
    [sign false, sign true]).requests = [signRequest false, signRequest true] := by
  obtain ⟨-, -, hrequests⟩ := runBatches_failed Batching.Sample.uuidEnv answerLost
    signContext.apiUrl (signContext.batches [sign false, sign true]) 0 [none, none]
    (n := 1) rfl (fun j c hj hc => (Nat.zero_add j).symm ▸ answeredBefore j c hj hc) secondLost
  exact hrequests

/-- The stream holds what the import publishes. -/
theorem lostEntries_published :
    (ownDeliveries "7f3a" (messagesOf lostStream lostEntries)).map (·.event) =
      (exec (featureImport Batching.Sample.uuidEnv signContext [sign false, sign true])
        ⟨fun _ _ => none, answerLost⟩ {}).2.attempted := by
  obtain ⟨requests, -, hyields⟩ := importPrepared_failed Batching.Sample.uuidEnv signContext
    [sign false, sign true] answerLost rfl answeredBefore secondLost
  obtain ⟨-, hattempted, -⟩ := featureImport_yields Batching.Sample.uuidEnv signContext
    [sign false, sign true] answerLost hyields (fun _ _ => none) {} rfl
  rw [hattempted]
  rfl

end Sample

open Sample in
/-- Two signs, the second one stored although its answer was lost: the job says that it failed,
and has counted the first one. -/
theorem importedTables_reported_lost :
    ∃ run, getImportRun (consumeImportEvents lostStream lostEntries ⟨Gcjobs.Db.empty, [], none⟩).db
        "7f3a" = some run ∧
      (jobPayload run none "" ⟨"", "", ""⟩).status = .failed ∧
      (jobPayload run none "" ⟨"", "", ""⟩).counters.succeededFeatures = 1 := by
  have hobjects : ∀ f ∈ [sign false, sign true], ∃ members, f.geojson = .obj members := by
    intro f hf
    rcases List.mem_pair.mp hf with rfl | rfl <;> exact ⟨_, rfl⟩
  have hsent := requests_featureImport Batching.Sample.uuidEnv answerLost signContext
    [sign false, sign true] fun _ _ => none
  have hdelivered : ∀ k request, [signRequest false, signRequest true][k]? = some request →
      Delivered Batching.Sample.signs k request (signTables k) (answerLost k request)
        (signTables (k + 1)) := by
    intro k request hrequest
    rcases k with _ | _ | k
    · cases hrequest
      exact .answered
    · cases hrequest
      exact .answerLost "reset"
    · cases hrequest
  obtain ⟨run, hrow, n, hle, -, -, hanswered, hcount, -, hfailed⟩ := importedTables_reported
    Batching.Sample.uuidEnv signContext [sign false, sign true] answerLost (fun _ _ => none)
    Batching.Sample.signs Batching.Sample.signs_documented hobjects signTables
    (fun k => signTables (k + 1)) (by rwa [hsent, signRequests])
    lostStream ⟨Gcjobs.Db.empty, [], none⟩ lostEntries (by decide +kernel)
    (by simp [lostEntries, lostEvents]) (fun e _ => List.not_mem_nil) (Or.inl rfl)
    lostEntries_published none "" ⟨"", "", ""⟩
  have hpos : 0 < n := (hanswered 0 (signBatch false) (Nat.zero_le n) rfl).mpr ⟨_, firstAnswered⟩
  have hone : n = 1 := by
    by_contra hne
    have hlt : 1 < n := by omega
    obtain ⟨ids, hids⟩ := (hanswered 1 (signBatch true) hlt.le rfl).mp hlt
    rw [secondLost] at hids
    cases hids
  subst hone
  exact ⟨run, hrow, hfailed.mpr (by decide), hcount⟩

end Aggregation
