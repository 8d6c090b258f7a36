/-
gcimport keeps the event protocol.

Before the first event a request is checked; after it every end of every handler
publishes exactly one `import.completed.*`.  `Prepares` is what the handlers
have in common — a value and no event, or an error and its one failure event —
and composes along the source's loops.

* `runImport_ok`, `runImport_failed` — the batches of the upsert, event by event;
* `importUploads_yields` — the word of a whole request, whatever is published;
* `handleImportRequest_protocol` — the protocol of `POST /imports`.
-/
import Topogdb.Protocol
import Topogdb.Gcimport.App
import Topogdb.Gcimport.Batches

namespace Gcimport

open Effects

/-- The names of events. -/
def names (events : List Event) : List String := events.map (·.event)

variable (env : Env) (answer : ℕ → Request → PostResult)

/-! ### Preparing -/

/-- A value and no event, or an HTTP error and one failure event; no request. -/
def Prepares {α : Type} (m : ImportTask α) : Prop :=
  ∀ k, (∃ a, Yields answer m k (.ok a) [] []) ∨
    ∃ statusCode detail event, Yields answer m k (.error (.http statusCode detail)) [event] [] ∧
      event.event = Event.completedFailed

variable {answer}

theorem prepares_pure {α : Type} (a : α) : Prepares answer (pure a : ImportTask α) :=
  fun _ => Or.inl ⟨a, yields_pure a⟩

theorem Prepares.bind {α β : Type} {m : ImportTask α} {f : α → ImportTask β} (hm : Prepares answer m)
    (hf : ∀ a, Prepares answer (f a)) : Prepares answer (m >>= f) := by
  intro k
  rcases hm k with ⟨a, ha⟩ | ⟨code, detail, event, he, hname⟩
  · rcases hf a k with ⟨b, hb⟩ | ⟨code, detail, event, he, hname⟩
    · exact Or.inl ⟨b, ha.bind hb⟩
    · exact Or.inr ⟨code, detail, event, ha.bind he, hname⟩
  · exact Or.inr ⟨code, detail, event, he.bind_error, hname⟩

theorem Prepares.foldlM {α β : Type} {f : β → α → ImportTask β} (hf : ∀ b a, Prepares answer (f b a))
    (l : List α) (b : β) : Prepares answer (l.foldlM f b) := by
  induction l generalizing b with
  | nil => exact prepares_pure b
  | cons a l ih =>
    rw [List.foldlM_cons]
    exact (hf b a).bind ih

theorem yields_publishImportUpdate (base : Event) (eventName phase : String)
    (extra : Event → Event) (k : ℕ) :
    Yields answer (publishImportUpdate base eventName phase extra) k (.ok ⟨⟩)
      [importEvent base eventName phase extra] [] :=
  yields_publish_swallowed _

/-- The handlers end in their failure event. -/
theorem yields_failImport {α : Type} (base : Event) (phase : String) (extra : Event → Event)
    (statusCode : ℕ) (detail : Json) (k : ℕ) :
    Yields answer (failImport base phase extra statusCode detail : ImportTask α) k
      (.error (.http statusCode detail))
      [importEvent base Event.completedFailed phase extra] [] :=
  (yields_publishImportUpdate base _ phase extra k).bind (yields_lift _)

theorem prepares_failImport {α : Type} (base : Event) (phase : String) (extra : Event → Event)
    (statusCode : ℕ) (detail : Json) :
    Prepares answer (failImport base phase extra statusCode detail : ImportTask α) :=
  fun k => Or.inr ⟨_, _, _, yields_failImport base phase extra statusCode detail k, rfl⟩

/-- A computation whose every error has a handler that fails the import. -/
theorem prepares_handle {α : Type} {x : Except PyError α} {handler : PyError → ImportTask α}
    (h : ∀ e, x = .error e → Prepares answer (handler e)) :
    Prepares answer (handle (lift x) handler) := by
  intro k
  cases hx : x with
  | ok a => exact Or.inl ⟨a, (yields_lift _).handle⟩
  | error e =>
    rcases h e hx k with ⟨a, ha⟩ | ⟨code, detail, event, he, hname⟩
    · exact Or.inl ⟨a, (yields_lift _).handle_error ha⟩
    · exact Or.inr ⟨code, detail, event, (yields_lift _).handle_error he, hname⟩

theorem prepares_loadImportDocument (body : ByteArray) (base : Event) :
    Prepares answer (loadImportDocument env body base) := by
  unfold loadImportDocument
  simp only
  split
  · exact prepares_pure _
  · exact prepares_failImport _ _ _ _ _

/-- Only the two exceptions that are handled come out of the preparation. -/
theorem normalize_prepare_raises {profile : ImportProfile} (hp : profile.WellFormed)
    (document : Json) (filename : Option String) :
    (do
      let normalizedDocument ← normalizeUpload env document filename profile
      prepareDocument env profile normalizedDocument :
        Except PyError (List PreparedFeature)).Raises fun e => IsConversion e ∨ IsInvalid e := by
  refine Except.Raises.bind ?_ fun d _ =>
    Except.Raises.mono (prepareDocument_raises hp d) fun e he => Or.inr he
  refine Except.Raises.ite (fun _ => ?_) fun _ => Except.raises_ok _
  exact Except.Raises.mono (convertDocument_raises env hp document) fun e he => Or.inl he

theorem prepares_prepareImportFeatures {profile : ImportProfile} (hp : profile.WellFormed)
    (document : Json) (filename : Option String) (base : Event) :
    Prepares answer (prepareImportFeatures env document filename profile base) := by
  refine prepares_handle fun e he => ?_
  rcases normalize_prepare_raises env hp document filename e he with ⟨m, rfl⟩ | ⟨errors, rfl⟩
  · exact prepares_failImport _ _ _ _ _
  · exact prepares_failImport _ _ _ _ _

theorem prepares_fromUploads {profile : ImportProfile} (hp : profile.WellFormed)
    (uploads : List UploadedImportFile) (base : Event) :
    Prepares answer (prepareImportFeaturesFromUploads env uploads profile base) := by
  refine Prepares.foldlM (fun features upload => ?_) uploads []
  refine (prepares_loadImportDocument env upload.body base).bind fun document => ?_
  refine (prepares_prepareImportFeatures env hp document upload.filename base).bind fun prepared => ?_
  exact prepares_pure _

theorem prepares_summarizeSosiUploads (uploads : List UploadedImportFile) (base : Event) :
    Prepares answer (summarizeSosiUploads env uploads base) := by
  refine Prepares.bind (Prepares.foldlM (fun summaries upload => ?_) uploads [])
    fun _ => prepares_pure _
  refine Prepares.bind ?_ fun summary => prepares_pure _
  unfold summarizeSosiUpload
  simp only
  split
  · exact prepares_failImport _ _ _ _ _
  · next text _ =>
    refine prepares_handle fun e he => ?_
    have hraises := Except.Raises.bind (parseText_raises env text)
      (fun tree _ => Except.raises_ok ({ filename := upload.filename, stats := summarizeTree tree } :
        SosiUploadSummary))
    obtain ⟨message, rfl⟩ := hraises e he
    exact prepares_failImport _ _ _ _ _

/-! ### The batches -/

variable (answer)

/-- The upstream URL of a request. -/
def ImportRequestContext.apiUrl (context : ImportRequestContext) : String :=
  datasetApiUrl context.settings.geocomponentsApiUrl context.requestProfile

/-- The chunks of a request. -/
def ImportRequestContext.batches (context : ImportRequestContext)
    (features : List PreparedFeature) : List Chunk :=
  Gcimport.batches features context.settings.upsertBatchSize

/-- The event of a batch that went through, and of one that failed. -/
def ImportRequestContext.succeededEvent (context : ImportRequestContext) (total : ℕ)
    (chunk : Chunk) : Event :=
  batchEvent context.baseEvent total (succeededBatch chunk (chunkCollection chunk))

def ImportRequestContext.failedEvent (context : ImportRequestContext) (total : ℕ) (chunk : Chunk)
    (collection featureId reason : String) : Event :=
  batchEvent context.baseEvent total (failedBatch chunk collection featureId reason)

variable (context : ImportRequestContext) (features : List PreparedFeature)

/-- All batches go through. -/
theorem runImport_ok (total k : ℕ)
    (h : ∀ j chunk, (context.batches features)[j]? = some chunk →
      ∃ identifiers, chunkOutcome env answer context.apiUrl (k + j) chunk = .ok identifiers) :
    ∃ rows requests, rows.length = features.length ∧
      requests.length = (context.batches features).length ∧
      Yields answer (runImport env context features total) k
        (.ok { total := features.length, features := rows })
        ((context.batches features).map (context.succeededEvent total)) requests := by
  obtain ⟨rows, hlen, hres, hev, hreq⟩ := runBatches_ok env answer context.apiUrl
    (context.batches features) k (List.replicate features.length none) h
  refine ⟨rows, (context.batches features).map (chunkRequest context.apiUrl),
    hlen.trans List.length_replicate, List.length_map _, ?_⟩
  have hyields := importFeatures_yields env answer context.apiUrl
    (fun b _ => yields_publish_swallowed (batchEvent context.baseEvent total b)) features
    context.settings.upsertBatchSize k
  rw [ImportRequestContext.batches] at hres hev hreq
  rw [hres, hev, hreq, ← List.map_eq_flatMap, List.map_map] at hyields
  exact hyields.handle

/-- The `n`-th batch is the first to fail. -/
theorem runImport_failed (total k : ℕ) {n : ℕ} {chunk : Chunk}
    {collection featureId reason : String} (hchunk : (context.batches features)[n]? = some chunk)
    (h : ∀ j c, j < n → (context.batches features)[j]? = some c →
      ∃ identifiers, chunkOutcome env answer context.apiUrl (k + j) c = .ok identifiers)
    (hfail : chunkOutcome env answer context.apiUrl (k + n) chunk
      = .error (.upstreamImport collection featureId reason)) :
    ∃ requests, requests.length = n + 1 ∧
      Yields answer (runImport env context features total) k
        (.error (.http 502
          (upstreamDetail context.requestProfile.title collection featureId reason)))
        (((context.batches features).take n).map (context.succeededEvent total)
          ++ [context.failedEvent total chunk collection featureId reason,
            upstreamFailure context.baseEvent total collection featureId reason]) requests := by
  obtain ⟨hres, hev, hreq⟩ := runBatches_failed env answer context.apiUrl
    (context.batches features) k (List.replicate features.length none) hchunk h hfail
  have hyields := importFeatures_yields env answer context.apiUrl
    (fun b _ => yields_publish_swallowed (batchEvent context.baseEvent total b)) features
    context.settings.upsertBatchSize k
  rw [ImportRequestContext.batches] at hres hev hreq
  rw [hres, hev, ← List.map_eq_flatMap, List.map_append, List.map_map] at hyields
  -- the handler of `_run_import` reports the failure once more and answers 502
  have hfailure : ∀ k', Yields answer (do
      publishEvent (upstreamFailure context.baseEvent total collection featureId reason)
      lift (httpException 502
        (upstreamDetail context.requestProfile.title collection featureId reason)) :
        ImportTask ImportSummary) k' _ _ _ :=
    fun k' => (yields_publish_swallowed _).bind (yields_lift _)
  have hrun : Yields answer (runImport env context features total) k _ _ _ :=
    hyields.handle_error (hfailure _)
  rw [List.append_assoc] at hrun
  simp only [List.append_nil] at hrun
  have hn : n < (batches features context.settings.upsertBatchSize).length :=
    (List.getElem?_eq_some_iff.mp hchunk).1
  refine ⟨_, ?_, hrun⟩
  rw [hreq, List.length_map, List.length_take]
  omega

/-- Either all of a list of outcomes are fine or there is a first that is not. -/
theorem first_failure {α : Type} (l : List α) (P : ℕ → α → Prop) :
    (∀ j a, l[j]? = some a → P j a) ∨
      ∃ n a, l[n]? = some a ∧ ¬ P n a ∧ ∀ j b, j < n → l[j]? = some b → P j b := by
  classical
  by_cases h : ∃ n a, l[n]? = some a ∧ ¬ P n a
  · right
    obtain ⟨a, ha, hP⟩ := Nat.find_spec h
    -- the least index that fails
    refine ⟨Nat.find h, a, ha, hP, fun j b hj hb => ?_⟩
    by_contra hPb
    exact Nat.find_min h hj ⟨b, hb, hPb⟩
  · left
    intro j a ha
    by_contra hP
    exact h ⟨j, a, ha, hP⟩

/-- **The upsert emits one event a batch** until one fails, and then the failure
of the import. -/
theorem runImport_yields (total k : ℕ) :
    ∃ r events requests, Yields answer (runImport env context features total) k r events requests ∧
      ∃ n, ((∃ summary, r = .ok summary) ∧ names events = List.replicate n Event.batchSucceeded) ∨
        ((∃ statusCode detail, r = .error (.http statusCode detail)) ∧ names events
          = List.replicate n Event.batchSucceeded ++ [Event.batchFailed, Event.completedFailed]) := by
  have hnames : ∀ chunks : List Chunk, names (chunks.map (context.succeededEvent total))
      = List.replicate chunks.length Event.batchSucceeded := by
    intro chunks
    rw [names, List.map_map]
    refine List.eq_replicate_iff.mpr ⟨by simp, fun name hname => ?_⟩
    obtain ⟨chunk, -, rfl⟩ := List.mem_map.mp hname
    exact (by decide : "import.batch." ++ "succeeded" = Event.batchSucceeded)
  rcases first_failure (context.batches features) (fun j chunk => ∃ identifiers,
      chunkOutcome env answer context.apiUrl (k + j) chunk = .ok identifiers) with hall | hfirst
  · obtain ⟨rows, requests, -, -, hyields⟩ := runImport_ok env answer context features total k hall
    exact ⟨_, _, _, hyields, _, Or.inl ⟨⟨_, rfl⟩, hnames _⟩⟩
  · obtain ⟨n, chunk, hchunk, hbad, hbefore⟩ := hfirst
    have hne : chunk ≠ [] := (batches_spec features context.settings.upsertBatchSize_pos).1 chunk
      (List.mem_of_getElem? hchunk)
    -- a batch that is not answered fails as an upstream error
    rcases chunkOutcome_cases env answer context.apiUrl (k + n) hne with hgood | hfail
    · exact absurd hgood hbad
    · obtain ⟨collection, featureId, reason, -, hout⟩ := hfail
      obtain ⟨requests, -, hyields⟩ :=
        runImport_failed env answer context features total k hchunk hbefore hout
      refine ⟨_, _, _, hyields, ((context.batches features).take n).length,
        Or.inr ⟨⟨_, _, rfl⟩, ?_⟩⟩
      rw [← hnames, names, names, List.map_append]
      congr 1

/-! ### The request -/

/-- How a checked request ends: its events form a word of the protocol of its
uploads, it succeeds exactly when the last of them says so, and an error is an
HTTP error. -/
structure KeepsProtocol (env : Env) (uploads : List UploadedImportFile)
    (r : Except PyError ImportResponse) (events : List Event) : Prop where
  sosi : containsSosiUploads env uploads = true → names events ∈ Event.sosiProtocol.matches'
  feature : containsSosiUploads env uploads = false →
    names events ∈ Event.featureProtocol.matches'
  success : (∃ response, r = .ok response) ↔
    (names events).getLast? = some Event.completedSucceeded
  error : ∀ e, r = .error e → ∃ statusCode detail, e = .http statusCode detail

/-- The failure of a preparation, after `import.started`. -/
theorem keepsProtocol_failed {uploads : List UploadedImportFile} {started failed : Event}
    {e : PyError} (hs : started.event = Event.started) (hf : failed.event = Event.completedFailed)
    (he : ∃ statusCode detail, e = .http statusCode detail) :
    KeepsProtocol env uploads (.error e) ([started] ++ [failed]) := by
  have hword : names ([started] ++ [failed]) = [Event.started, Event.completedFailed] := by
    simp [names, hs, hf]
  refine ⟨fun _ => ?_, fun _ => ?_, ?_, ?_⟩
  · rw [hword]
    exact (Event.mem_sosiProtocol _).mpr (Or.inl rfl)
  · rw [hword]
    exact (Event.mem_featureProtocol _).mpr (Or.inl rfl)
  · rw [hword]
    refine iff_of_false (by simp) (by decide)
  · rintro _ ⟨⟩
    exact he

/-- The success of an import, after `n` batches; SOSI uploads have none. -/
theorem keepsProtocol_succeeded {uploads : List UploadedImportFile} {events : List Event} (n : ℕ)
    (response : ImportResponse)
    (hword : names events
      = Event.started :: Event.parsed ::
        (List.replicate n Event.batchSucceeded ++ [Event.completedSucceeded]))
    (hsosi : containsSosiUploads env uploads = true → n = 0) :
    KeepsProtocol env uploads (.ok response) events := by
  refine ⟨fun h => ?_, fun _ => ?_, ?_, ?_⟩
  · rw [hword, hsosi h]
    exact (Event.mem_sosiProtocol _).mpr (Or.inr rfl)
  · rw [hword]
    exact (Event.mem_featureProtocol _).mpr (Or.inr ⟨n, Or.inl rfl⟩)
  · refine iff_of_true ⟨response, rfl⟩ ?_
    rw [hword, ← List.cons_append, ← List.cons_append]
    exact List.getLast?_concat
  · rintro e ⟨⟩

/-- The failure of a batch, which SOSI uploads do not have. -/
theorem keepsProtocol_batchFailed {uploads : List UploadedImportFile} {events : List Event} (n : ℕ)
    {e : PyError}
    (hword : names events
      = Event.started :: Event.parsed ::
        (List.replicate n Event.batchSucceeded ++ [Event.batchFailed, Event.completedFailed]))
    (he : ∃ statusCode detail, e = .http statusCode detail)
    (hsosi : containsSosiUploads env uploads = false) :
    KeepsProtocol env uploads (.error e) events := by
  refine ⟨fun h => ?_, fun _ => ?_, ?_, ?_⟩
  · rw [hsosi] at h
    cases h
  · rw [hword]
    exact (Event.mem_featureProtocol _).mpr (Or.inr ⟨n, Or.inr rfl⟩)
  · refine iff_of_false (by simp) ?_
    have hsplit : Event.started :: Event.parsed ::
        (List.replicate n Event.batchSucceeded ++ [Event.batchFailed, Event.completedFailed])
        = (Event.started :: Event.parsed ::
          (List.replicate n Event.batchSucceeded ++ [Event.batchFailed]))
            ++ [Event.completedFailed] := by simp
    rw [hword, hsplit, List.getLast?_concat]
    decide
  · rintro _ ⟨⟩
    exact he

/-- The checked request of the SOSI branch. -/
theorem importSosi_yields (context : ImportRequestContext) (uploads : List UploadedImportFile)
    (k : ℕ) (started : Event) (hs : started.event = Event.started) :
    ∃ r events requests, Yields answer (importSosi env context uploads) k r events requests ∧
      KeepsProtocol env uploads r ([started] ++ events) := by
  rw [importSosi]
  simp only
  split
  · rcases prepares_summarizeSosiUploads env uploads context.baseEvent k with
      ⟨result, hresult⟩ | ⟨code, detail, failed, hfailed, hname⟩
    · refine ⟨_, _, _, hresult.bind ((yields_publishImportUpdate _ _ _ _ _).bind
        ((yields_publishImportUpdate _ _ _ _ _).bind (yields_pure _))), ?_⟩
      refine keepsProtocol_succeeded env 0 _ ?_ fun _ => rfl
      simp [names, hs, importEvent]
    · exact ⟨_, _, _, hfailed.bind_error, keepsProtocol_failed env hs hname ⟨_, _, rfl⟩⟩
  · exact ⟨_, _, _, yields_failImport _ _ _ _ _ k, keepsProtocol_failed env hs rfl ⟨_, _, rfl⟩⟩

/-- The checked request once its features are prepared. -/
theorem importPrepared_yields (context : ImportRequestContext) (features : List PreparedFeature)
    {uploads : List UploadedImportFile} (hsosi : containsSosiUploads env uploads = false)
    (k : ℕ) (started : Event) (hs : started.event = Event.started) :
    ∃ r events requests, Yields answer (importPrepared env context features) k r events requests ∧
      KeepsProtocol env uploads r ([started] ++ events) := by
  unfold importPrepared
  simp only
  have hparsed : ∀ extra, Yields answer
      (publishImportUpdate context.baseEvent Event.parsed "importing" extra) k _ _ _ :=
    fun extra => yields_publishImportUpdate context.baseEvent Event.parsed "importing" extra k
  obtain ⟨r, events, requests, hrun, n, ⟨⟨summary, rfl⟩, hword⟩ | ⟨⟨code, detail, rfl⟩, hword⟩⟩ :=
    runImport_yields env answer context features features.length (k + ([] : List Request).length)
  · refine ⟨_, _, _, (hparsed _).bind (hrun.bind
      ((yields_publishImportUpdate _ _ _ _ _).bind (yields_pure _))), ?_⟩
    refine keepsProtocol_succeeded env n _ ?_ fun h => absurd h (by simp [hsosi])
    rw [names] at hword
    simp [names, hs, importEvent, hword]
  · refine ⟨_, _, _, (hparsed _).bind hrun.bind_error, ?_⟩
    refine keepsProtocol_batchFailed env n ?_ ⟨_, _, rfl⟩ hsosi
    rw [names] at hword
    simp [names, hs, importEvent, hword]

/-- The whole of a checked request, whatever the publisher does. -/
theorem importUploads_yields (context : ImportRequestContext)
    (hp : context.requestProfile.WellFormed) (uploads : List UploadedImportFile) :
    ∃ r events requests, Yields answer (importUploads env context uploads) 0 r events requests ∧
      KeepsProtocol env uploads r events := by
  rw [importUploads]
  have hstart : Yields answer
      (publishImportUpdate context.baseEvent Event.started "parsing" id) 0 _ _ _ :=
    yields_publishImportUpdate context.baseEvent Event.started "parsing" id 0
  -- SOSI files are summarized or refused, and never sent
  by_cases hsosi : containsSosiUploads env uploads = true
  · rw [if_pos hsosi]
    obtain ⟨r, events, requests, hrun, hprotocol⟩ :=
      importSosi_yields env answer context uploads (0 + ([] : List Request).length)
        (importEvent context.baseEvent Event.started "parsing" id) rfl
    exact ⟨_, _, _, hstart.bind hrun, hprotocol⟩
  · rw [if_neg hsosi]
    rcases prepares_fromUploads env hp uploads context.baseEvent (0 + ([] : List Request).length)
      with ⟨features, hfeatures⟩ | ⟨code, detail, failed, hfailed, hname⟩
    · obtain ⟨r, events, requests, hrun, hprotocol⟩ :=
        importPrepared_yields env answer context features (by simpa using hsosi)
          (0 + ([] : List Request).length + ([] : List Request).length)
          (importEvent context.baseEvent Event.started "parsing" id) rfl
      refine ⟨_, _, _, hstart.bind (hfeatures.bind hrun), ?_⟩
      rw [List.nil_append]
      exact hprotocol
    · exact ⟨_, _, _, hstart.bind hfailed.bind_error,
        keepsProtocol_failed env rfl hname ⟨_, _, rfl⟩⟩

/-- The profile of a checked request is built in. -/
theorem checkRequest_wellFormed {settings : Settings} {request : ImportRequest}
    {context : ImportRequestContext} {uploads : List UploadedImportFile}
    (h : checkRequest env settings request = .ok (context, uploads)) :
    context.requestProfile.WellFormed := by
  rw [checkRequest, requestProfile] at h
  cases hp : getProfile env request.profileName with
  | none => simp [hp, httpException] at h
  | some profile =>
    simp only [hp, Except.ok_bind] at h
    cases hf : requestUploadFiles request.form with
    | error e => simp [hf] at h
    | ok files =>
      simp only [hf, Except.ok_bind] at h
      cases hu : readUploadedFiles settings.maxUploadBytes 0 files with
      | error e => simp [hu] at h
      | ok read =>
        simp only [hu, Except.ok_bind, Except.ok.injEq, Prod.mk.injEq] at h
        rw [← h.1]
        exact builtin_wellFormed hp

/-- An `import.completed.*` event. -/
def IsCompleted (name : String) : Prop :=
  name = Event.completedSucceeded ∨ name = Event.completedFailed

/-- A protocol word has one completion, at its end. -/
theorem completed_last {w : List String} (h : w ∈ Event.featureProtocol.matches') :
    ∃ front last, w = front ++ [last] ∧ IsCompleted last ∧ ∀ name ∈ front, ¬ IsCompleted name := by
  have hnot : ∀ name : String, name = Event.started ∨ name = Event.parsed ∨
      name = Event.batchSucceeded ∨ name = Event.batchFailed → ¬ IsCompleted name := by
    rintro name (rfl | rfl | rfl | rfl) (h | h) <;> revert h <;> decide
  -- refused while parsing, all batches, or up to the one that failed
  rcases (Event.mem_featureProtocol w).mp h with rfl | ⟨n, rfl | rfl⟩
  · refine ⟨[Event.started], _, rfl, Or.inr rfl, ?_⟩
    intro name hname
    exact hnot name (Or.inl (List.mem_singleton.mp hname))
  · refine ⟨Event.started :: Event.parsed :: List.replicate n Event.batchSucceeded, _, by simp,
      Or.inl rfl, ?_⟩
    intro name hname
    rcases List.mem_cons.mp hname with rfl | hname
    · exact hnot _ (Or.inl rfl)
    · rcases List.mem_cons.mp hname with rfl | hname
      · exact hnot _ (Or.inr (Or.inl rfl))
      · exact hnot _ (Or.inr (Or.inr (Or.inl (List.eq_of_mem_replicate hname))))
  · refine ⟨Event.started :: Event.parsed ::
      (List.replicate n Event.batchSucceeded ++ [Event.batchFailed]), _, by simp, Or.inr rfl, ?_⟩
    intro name hname
    rcases List.mem_cons.mp hname with rfl | hname
    · exact hnot _ (Or.inl rfl)
    · rcases List.mem_cons.mp hname with rfl | hname
      · exact hnot _ (Or.inr (Or.inl rfl))
      · rcases List.mem_append.mp hname with hname | hname
        · exact hnot _ (Or.inr (Or.inr (Or.inl (List.eq_of_mem_replicate hname))))
        · exact hnot _ (Or.inr (Or.inr (Or.inr (List.mem_singleton.mp hname))))

/-- **The event protocol of `POST /imports`.**  For a request that passes the
checks, whatever its files hold, upstream answers and the publisher raises: the
attempted events form a word of the protocol of the uploads, with one completion
at the end; the response is a success exactly when that is
`import.completed.succeeded`, and an HTTP error otherwise; and another publisher
changes neither the response nor the attempted events. -/
theorem handleImportRequest_protocol (env : Env) (settings : Settings) (request : ImportRequest)
    (context : ImportRequestContext) (uploads : List UploadedImportFile)
    (hchecked : checkRequest env settings request = .ok (context, uploads))
    (answer : ℕ → Request → PostResult) (raises raises' : List Event → Event → Option PyError) :
    let out := exec (handleImportRequest env settings request) ⟨raises, answer⟩ {}
    let out' := exec (handleImportRequest env settings request) ⟨raises', answer⟩ {}
    (containsSosiUploads env uploads = true →
        names out.2.attempted ∈ Event.sosiProtocol.matches') ∧
      (containsSosiUploads env uploads = false →
        names out.2.attempted ∈ Event.featureProtocol.matches') ∧
      (∃ front last, names out.2.attempted = front ++ [last] ∧ IsCompleted last ∧
        ∀ name ∈ front, ¬ IsCompleted name) ∧
      ((∃ response, out.1 = .ok response) ↔
        (names out.2.attempted).getLast? = some Event.completedSucceeded) ∧
      (∀ e, out.1 = .error e → ∃ statusCode detail, e = .http statusCode detail) ∧
      out'.1 = out.1 ∧ out'.2.attempted = out.2.attempted := by
  obtain ⟨r, events, requests, hyields, hprotocol⟩ :=
    importUploads_yields env answer context (checkRequest_wellFormed env hchecked) uploads
  have hrequest : Yields answer (handleImportRequest env settings request) 0 r events requests := by
    have hlift : Yields answer (lift (checkRequest env settings request) :
        ImportTask (ImportRequestContext × List UploadedImportFile)) 0 (.ok (context, uploads)) [] [] :=
      hchecked ▸ yields_lift _
    exact hlift.bind hyields
  obtain ⟨hresult, hevents, -⟩ := hrequest raises {} rfl
  -- the publisher is no part of what the request yields
  obtain ⟨hsame, hsame'⟩ := hrequest.eq_of_worlds raises' raises
  rw [List.nil_append] at hevents
  intro out out'
  have hr : out.1 = r := hresult
  have he : out.2.attempted = events := hevents
  rw [hr, he]
  refine ⟨hprotocol.sosi, hprotocol.feature, ?_, hprotocol.success, hprotocol.error, ?_, ?_⟩
  · refine completed_last ?_
    cases hsosi : containsSosiUploads env uploads with
    | true => exact Event.sosiProtocol_le (hprotocol.sosi hsosi)
    | false => exact hprotocol.feature hsosi
  · exact hsame.trans hr
  · exact hsame'.trans he

/-- Libraries as they are on an upload of nothing: no JSON, lower-case names. -/
def emptyUploadEnv : Env where
  casefold := id
  casefold_casefold _ := rfl
  isDecimal := Char.isDigit
  isDigit := Char.isDigit
  isInt token := token.toInt?.isSome
  isFloat _ := false
  repr token := token
  strOf _ := ""
  loads _ := none
  transformer _ _ := none
  uuid _ := none
  uuid4 := "7f3a"

/-! ### An upload of two lines -/

/-- The identifiers of two lines. -/
def tileId (second : Bool) : String :=
  if second then "00000000-0000-0000-0000-000000000002"
  else "00000000-0000-0000-0000-000000000001"

def tileProperties (second : Bool) : List (String × Json) :=
  [("lokalid", .str (tileId second)), ("identifikasjon_navnerom", .str "fkb"),
    ("oppdateringsdato", .str "2026-01-01"), ("datafangstdato", .str "2025-01-01")]

/-- The part of a line that lies in one tile. -/
def tilePart (x : ℚ) : Json := .arr [.arr [.num x, .num 0], .arr [.num (x + 1), .num 0]]

def tilePlace (x : ℚ) : List (String × Json) :=
  [("type", .str "LineString"), ("coordinates", tilePart x)]

def tileFeature (second : Bool) (x : ℚ) : List (String × Json) :=
  [("type", .str "Feature"), ("featureType", .str "bygning"), ("place", .obj (tilePlace x)),
    ("properties", .obj (tileProperties second))]

def collectionMembers (features : List Json) : List (String × Json) :=
  [("type", .str "FeatureCollection"), ("coordRefSys", .str "EPSG:5972"),
    ("features", .arr features)]

/-- The JSON text of a part in the first tile, or in the later one. -/
def tileText (second later : Bool) : String :=
  "\x7b\"type\": \"Feature\", \"featureType\": \"bygning\", " ++
    "\"place\": \x7b\"type\": \"LineString\", \"coordinates\": [[" ++
    (if later then "1" else "0") ++
    (", 0], [" ++ (if later then "2" else "1") ++ ", 0]]\x7d, \"properties\": \x7b\"lokalid\": \"" ++
      tileId second ++ "\", \"identifikasjon_navnerom\": \"fkb\", " ++
      "\"oppdateringsdato\": \"2026-01-01\", \"datafangstdato\": \"2025-01-01\"\x7d\x7d")

def collectionText (features : String) : String :=
  "\x7b\"type\": \"FeatureCollection\", \"coordRefSys\": \"EPSG:5972\", \"features\": [" ++
    features ++ "]\x7d"

/-- Libraries whose transformation leaves the coordinates. -/
def tilesEnv (loads : ByteArray → Option Json) : Env :=
  { emptyUploadEnv with
    loads := loads
    uuid := some
    transformer := fun _ _ => some fun values => some (values.map .finite) }

def twoLines : UploadedImportFile :=
  ⟨some "lines.json", (collectionText (tileText false false ++ ", " ++ tileText true true)).toUTF8⟩

def twoLinesEnv : Env :=
  tilesEnv fun body =>
    if body.data = twoLines.body.data then
      some (.obj (collectionMembers [.obj (tileFeature false 0), .obj (tileFeature true 1)]))
    else none

/-- One feature to a batch, and no room for another byte. -/
def oneByOne : Settings := ⟨"http://api", twoLines.body.size, 1, by decide⟩

def twoLinesRequest : ImportRequest := ⟨"bygning", none, [("file", some twoLines)]⟩

def twoLinesContext : ImportRequestContext :=
  ⟨oneByOne, bygningProfile, baseEvent bygningProfile "7f3a" [twoLines]⟩

theorem checkRequest_twoLines :
    checkRequest twoLinesEnv oneByOne twoLinesRequest = .ok (twoLinesContext, [twoLines]) := by
  have hprofile : requestProfile twoLinesEnv "bygning" = .ok bygningProfile := rfl
  have hfiles : requestUploadFiles twoLinesRequest.form = .ok [twoLines] := rfl
  have hbounded : readUploadedFiles oneByOne.maxUploadBytes 0 [twoLines] = .ok [twoLines] := by
    simp [readUploadedFiles, readBounded, oneByOne]
  rw [checkRequest, hfiles]
  simp only [twoLinesRequest, hprofile, hbounded, Except.ok_bind]
  rfl

/-- An upstream that stores the first batch and refuses the second one. -/
def secondRefused (k : ℕ) (_ : Request) : PostResult :=
  if k = 0 then .response 200 (some (.obj [("features", .arr [.obj [("id", .str (tileId false))]])]))
  else .httpError "refused"

/-- Two batches, the second one refused, and a publisher that always raises: the
request still ends in one completion. -/
theorem handleImportRequest_protocol_batches :
    let out := exec (handleImportRequest twoLinesEnv oneByOne twoLinesRequest)
      ⟨fun _ _ => some .valueError, secondRefused⟩ {}
    names out.2.attempted ∈ Event.featureProtocol.matches' ∧
      ∃ front last, names out.2.attempted = front ++ [last] ∧ IsCompleted last ∧
        ∀ name ∈ front, ¬ IsCompleted name := by
  obtain ⟨-, hword, hcompleted, -⟩ := handleImportRequest_protocol twoLinesEnv oneByOne
    twoLinesRequest twoLinesContext [twoLines] checkRequest_twoLines secondRefused
    (fun _ _ => some .valueError) fun _ _ => none
  exact ⟨hword rfl, hcompleted⟩

end Gcimport
