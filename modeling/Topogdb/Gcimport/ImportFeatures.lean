/-
Upserting prepared features (`gcimport/importer.py`, from `import_features`).

Features are grouped by collection and sent in chunks; after each chunk a batch
event is emitted, and the first chunk that fails ends the import.

* `batches` — all chunks in the order they are sent;
* `runBatches` — what answering them comes to: the batch events, and the error
  of the first failing chunk or the rows of all of them;
* `importFeatures_yields` — `import_features` does exactly that.
-/
import Topogdb.Lib.Effects
import Topogdb.Lib.Related
import Topogdb.Event
import Topogdb.Gcimport.Prepare

namespace Gcimport

open Python

/-- A request to the upstream API. -/
structure Request where
  url : String
  payload : Json

/-- A task of the request handler. -/
abbrev ImportTask (α : Type) := Effects.Task PyError Event Request PostResult α

/-- What `on_batch` is called with. -/
structure BatchEvent where
  status : String
  mode : String
  collection : String
  batchSize : ℕ
  featureId : Option String := none
  reason : Option String := none
  featureIds : Option (List String) := none

/-- A feature with its position in the upload. -/
abbrev Chunk := List (ℕ × PreparedFeature)

/-- An entry of the summary's `features`. -/
structure ImportedFeature where
  collection : String
  id : String

variable (env : Env)

/-! ### One batch -/

/-- The request of `_import_feature_batch`. -/
def batchRequest (apiUrl collection : String) (chunk : Chunk) : Request :=
  { url := apiUrl ++ "/processes/upsert-batch/execution"
    payload := .obj
      [("inputs", .obj
        [("collection", .str collection), ("features", .arr (chunk.map fun x => x.2.geojson))]),
        ("response", .str "raw")] }

/-- `_parse_upstream_id`. -/
def parseUpstreamId (collection featureId : String) (responseBody : Json) : Except PyError String :=
  let failed : Except PyError String := .error
    (.upstreamImport collection featureId "successful upstream response requires a UUID string id")
  match responseBody.get? "id" with
  | some (.str upstreamId) =>
    match env.uuid upstreamId with
    | some id => .ok id
    | none => failed
  | _ => failed

/-- What `_import_feature_batch` makes of the answer. -/
def batchOutcome (first : PreparedFeature) (chunk : Chunk) (answer : PostResult) :
    Except PyError (List String) :=
  let failed (reason : String) : Except PyError (List String) :=
    .error (.upstreamImport first.collection first.featureId reason)
  match answer with
  | .httpError message => failed ("batch request failed: " ++ message)
  | .response statusCode body =>
    if statusCode = 404 ∨ statusCode = 405 ∨ statusCode = 415 ∨ statusCode = 501 then
      failed ("upstream batch upsert endpoint /processes/upsert-batch/execution is unavailable " ++
        s!"(HTTP {statusCode}); gcimport requires batch mode")
    else if ¬ (200 ≤ statusCode ∧ statusCode ≤ 299) then
      failed s!"upstream batch upsert returned HTTP {statusCode}"
    else
      match body with
      | none => failed "successful upstream response did not contain valid JSON"
      | some responseBody =>
        let wrong :=
          failed "successful upstream batch response must return one id per feature under features"
        match responseBody.get? "features" with
        | some (.arr items) =>
          if items.length ≠ chunk.length then wrong
          else
            (chunk.zip items).mapM fun x =>
              parseUpstreamId env x.1.2.collection x.1.2.featureId x.2
        | _ => wrong

/-- `_import_feature_batch`. -/
def importFeatureBatch (apiUrl : String) (chunk : Chunk) : ImportTask (List String) :=
  match chunk with
  | [] => Effects.lift (.error .indexError)
  | (_, first) :: _ => do
    let answer ← Effects.post (batchRequest apiUrl first.collection chunk)
    Effects.lift (batchOutcome env first chunk answer)

/-! ### Chunks -/

/-- `_chunked`: `items[index : index + size]` for the indexes `0, size, …`. -/
def chunked {α : Type} (items : List α) (size : ℕ) : List (List α) :=
  (List.range ((items.length + size - 1) / size)).map fun k => (items.drop (k * size)).take size

/-- The features of each collection, in the order of its first feature. -/
def groupByCollection (features : List PreparedFeature) : List (String × Chunk) :=
  features.zipIdx.foldl
    (fun groups x =>
      let collection := x.1.collection
      dictSet groups collection ((groups.lookup collection).getD [] ++ [(x.2, x.1)]))
    []

/-- All chunks, in the order in which they are sent. -/
def batches (features : List PreparedFeature) (size : ℕ) : List Chunk :=
  (groupByCollection features).flatMap fun e => chunked e.2 size

/-! ### The import -/

/-- The event of a failed chunk. -/
def failedBatch (chunk : Chunk) (collection featureId reason : String) : BatchEvent :=
  { status := "failed"
    mode := "batch"
    collection := collection
    featureId := some featureId
    batchSize := chunk.length
    reason := some reason }

/-- The event of a chunk that went through. -/
def succeededBatch (chunk : Chunk) (collection : String) : BatchEvent :=
  { status := "succeeded"
    mode := "batch"
    collection := collection
    batchSize := chunk.length
    featureIds := some (chunk.map fun x => x.2.featureId) }

/-- The rows of a chunk, with the identifiers it got; `zip` is strict. -/
def recordImported (imported : List (Option ImportedFeature)) (chunk : Chunk)
    (identifiers : List String) : Except PyError (List (Option ImportedFeature)) :=
  if chunk.length ≠ identifiers.length then .error .valueError
  else
    .ok ((chunk.zip identifiers).foldl
      (fun imported x => imported.set x.1.1 (some { collection := x.1.2.collection, id := x.2 }))
      imported)

/-- `_import_chunk`. -/
def importChunk (apiUrl : String) (onBatch : BatchEvent → ImportTask PUnit)
    (imported : List (Option ImportedFeature)) (chunk : Chunk) :
    ImportTask (List (Option ImportedFeature)) := do
  let identifiers ← Effects.handle (importFeatureBatch env apiUrl chunk) fun
    | .upstreamImport collection featureId reason => do
      onBatch (failedBatch chunk collection featureId reason)
      Effects.lift (.error (.upstreamImport collection featureId reason))
    | e => Effects.lift (.error e)
  match chunk with
  | [] => Effects.lift (.error .indexError)
  | (_, first) :: _ => do
    onBatch (succeededBatch chunk first.collection)
    Effects.lift (recordImported imported chunk identifiers)

/-- The summary that `import_features` returns. -/
structure ImportSummary where
  total : ℕ
  features : List (Option ImportedFeature)

/-- `import_features`. -/
def importFeatures (features : List PreparedFeature) (apiUrl : String) (upsertBatchSize : ℕ)
    (onBatch : BatchEvent → ImportTask PUnit) : ImportTask ImportSummary := do
  let imported ← (groupByCollection features).foldlM
    (fun imported e =>
      (chunked e.2 upsertBatchSize).foldlM (importChunk env apiUrl onBatch) imported)
    (List.replicate features.length none)
  pure { total := features.length, features := imported }

/-! ### What the answers come to -/

/-- The events, the requests and the end of a sequence of chunks. -/
structure BatchRun where
  events : List BatchEvent
  requests : List Request
  result : Except PyError (List (Option ImportedFeature))

/-- The outcome of a chunk with this first feature, as the k-th request. -/
def outcomeAt (answer : ℕ → Request → PostResult) (apiUrl : String) (k : ℕ)
    (first : PreparedFeature) (chunk : Chunk) : Except PyError (List String) :=
  batchOutcome env first chunk (answer k (batchRequest apiUrl first.collection chunk))

/-- What sending one chunk as the k-th request comes to. -/
def chunkRun (answer : ℕ → Request → PostResult) (apiUrl : String) (k : ℕ)
    (imported : List (Option ImportedFeature)) : Chunk → BatchRun
  | [] => ⟨[], [], .error .indexError⟩
  | (i, first) :: tail =>
    let chunk := (i, first) :: tail
    let request := batchRequest apiUrl first.collection chunk
    match outcomeAt env answer apiUrl k first chunk with
    | .error (.upstreamImport collection featureId reason) =>
      ⟨[failedBatch chunk collection featureId reason], [request],
        .error (.upstreamImport collection featureId reason)⟩
    | .error e => ⟨[], [request], .error e⟩
    | .ok identifiers =>
      ⟨[succeededBatch chunk first.collection], [request],
        recordImported imported chunk identifiers⟩

/-- Send the chunks from request `k` on, until one fails. -/
def runBatches (answer : ℕ → Request → PostResult) (apiUrl : String) :
    ℕ → List Chunk → List (Option ImportedFeature) → BatchRun
  | _, [], imported => ⟨[], [], .ok imported⟩
  | k, chunk :: chunks, imported =>
    let head := chunkRun env answer apiUrl k imported chunk
    match head.result with
    | .error e => { head with result := .error e }
    | .ok imported =>
      let rest := runBatches answer apiUrl (k + head.requests.length) chunks imported
      ⟨head.events ++ rest.events, head.requests ++ rest.requests, rest.result⟩

variable (answer : ℕ → Request → PostResult) (apiUrl : String)

open Effects

theorem importFeatureBatch_yields (k i : ℕ) (first : PreparedFeature) (tail : Chunk) :
    Yields answer (importFeatureBatch env apiUrl ((i, first) :: tail)) k
      (outcomeAt env answer apiUrl k first ((i, first) :: tail)) []
      [batchRequest apiUrl first.collection ((i, first) :: tail)] := by
  have hpost : Yields answer (post (batchRequest apiUrl first.collection ((i, first) :: tail)) :
      ImportTask PostResult) k _ [] _ := yields_post _
  exact hpost.bind (yields_lift _)

variable {onBatch : BatchEvent → ImportTask PUnit} {eventsOf : BatchEvent → List Event}
  (hbatch : ∀ b k, Yields answer (onBatch b) k (.ok ⟨⟩) (eventsOf b) [])

include hbatch

theorem importChunk_yields (k : ℕ) (imported : List (Option ImportedFeature)) (chunk : Chunk) :
    Yields answer (importChunk env apiUrl onBatch imported chunk) k
      (chunkRun env answer apiUrl k imported chunk).result
      ((chunkRun env answer apiUrl k imported chunk).events.flatMap eventsOf)
      (chunkRun env answer apiUrl k imported chunk).requests := by
  cases chunk with
  | nil => exact Yields.bind_error (Yields.handle_error (yields_lift _) (yields_lift _))
  | cons x tail =>
    obtain ⟨i, first⟩ := x
    have hpost := importFeatureBatch_yields env answer apiUrl k i first tail
    unfold chunkRun
    simp only
    cases hout : outcomeAt env answer apiUrl k first ((i, first) :: tail) with
    | ok identifiers =>
      rw [hout] at hpost
      exact hpost.handle.bind ((hbatch _ _).bind (yields_lift _))
    | error e =>
      rw [hout] at hpost
      cases e with
      | upstreamImport collection featureId reason =>
        -- the handler reports the batch and raises again
        exact Yields.bind_error (hpost.handle_error ((hbatch _ _).bind (yields_lift _)))
      | _ => exact Yields.bind_error (hpost.handle_error (yields_lift _))

/-- The chunks of a list, sent by the loop over `_import_chunk`. -/
theorem foldlM_importChunk_yields (chunks : List Chunk) (k : ℕ)
    (imported : List (Option ImportedFeature)) :
    Yields answer (chunks.foldlM (importChunk env apiUrl onBatch) imported) k
      (runBatches env answer apiUrl k chunks imported).result
      ((runBatches env answer apiUrl k chunks imported).events.flatMap eventsOf)
      (runBatches env answer apiUrl k chunks imported).requests := by
  induction chunks generalizing k imported with
  | nil => exact yields_pure imported
  | cons chunk chunks ih =>
    rw [List.foldlM_cons]
    have hchunk := importChunk_yields env answer apiUrl hbatch k imported chunk
    rw [runBatches]
    simp only
    cases hres : (chunkRun env answer apiUrl k imported chunk).result with
    | error e =>
      rw [hres] at hchunk
      exact hchunk.bind_error
    | ok imported' =>
      rw [hres] at hchunk
      simp only [List.flatMap_append]
      exact hchunk.bind (ih _ imported')

omit hbatch in
/-- The two nested loops of `import_features` send `batches`. -/
theorem foldlM_groups
    (f : List (Option ImportedFeature) → Chunk → ImportTask (List (Option ImportedFeature)))
    (groups : List (String × Chunk)) (size : ℕ) (imported : List (Option ImportedFeature)) :
    groups.foldlM (fun imported e => (chunked e.2 size).foldlM f imported) imported
      = (groups.flatMap fun e => chunked e.2 size).foldlM f imported := by
  induction groups generalizing imported with
  | nil => rfl
  | cons e groups ih =>
    rw [List.flatMap_cons, List.foldlM_append, List.foldlM_cons]
    simp only [ih]

/-- **`import_features` runs the batches.** -/
theorem importFeatures_yields (features : List PreparedFeature) (size k : ℕ) :
    Yields answer (importFeatures env features apiUrl size onBatch) k
      ((fun imported => { total := features.length, features := imported }) <$>
        (runBatches env answer apiUrl k (batches features size)
          (List.replicate features.length none)).result)
      ((runBatches env answer apiUrl k (batches features size)
        (List.replicate features.length none)).events.flatMap eventsOf)
      (runBatches env answer apiUrl k (batches features size)
        (List.replicate features.length none)).requests := by
  rw [importFeatures, foldlM_groups]
  have hloop := foldlM_importChunk_yields env answer apiUrl hbatch
    (batches features size) k (List.replicate features.length none)
  show Yields answer ((batches features size).foldlM (importChunk env apiUrl onBatch) _ >>= _) k
    _ _ _
  cases hres : (runBatches env answer apiUrl k (batches features size)
      (List.replicate features.length none)).result with
  | error e =>
    rw [hres] at hloop
    exact hloop.bind_error
  | ok imported =>
    rw [hres] at hloop
    have h := hloop.bind (f := fun imported =>
      (pure { total := features.length, features := imported } : ImportTask ImportSummary)) (yields_pure _)
    simpa using h

omit hbatch

/-! ### Outcomes -/

/-- A failed batch raises an `UpstreamImportError` with a reason. -/
def IsUpstream (e : PyError) : Prop :=
  ∃ collection featureId reason, e = .upstreamImport collection featureId reason ∧ reason ≠ ""

theorem parseUpstreamId_meets (collection featureId : String) (responseBody : Json) :
    (parseUpstreamId env collection featureId responseBody).Meets IsUpstream fun _ => True := by
  unfold parseUpstreamId
  simp only
  split
  · split
    · trivial
    · exact ⟨_, _, _, rfl, by decide⟩
  · exact ⟨_, _, _, rfl, by decide⟩

theorem ne_empty_of_append {a b : String} (h : a ≠ "") : a ++ b ≠ "" := by
  intro hab
  have hlist : (a ++ b).toList = [] := by rw [hab]; rfl
  rw [String.toList_append] at hlist
  exact h (String.toList_eq_nil_iff.mp (List.append_eq_nil_iff.mp hlist).1)

/-- As many identifiers as features, or a reason. -/
theorem batchOutcome_meets (first : PreparedFeature) (chunk : Chunk) (result : PostResult) :
    (batchOutcome env first chunk result).Meets IsUpstream
      fun identifiers => identifiers.length = chunk.length := by
  have hfailed : ∀ reason : String, reason ≠ "" →
      (Except.error (.upstreamImport first.collection first.featureId reason) :
        Except PyError (List String)).Meets IsUpstream
          fun identifiers => identifiers.length = chunk.length :=
    fun reason h => ⟨_, _, reason, rfl, h⟩
  unfold batchOutcome
  simp only
  split
  · exact hfailed _ (ne_empty_of_append (by decide))
  · split
    · exact hfailed _ (ne_empty_of_append (by decide))
    · split
      · exact hfailed _ (ne_empty_of_append (by decide))
      · split
        · exact hfailed _ (by decide)
        · split
          · split
            · exact hfailed _ (by decide)
            · next items _ hlen =>
              have hmap : ∀ x ∈ chunk.zip items,
                  (parseUpstreamId env x.1.2.collection x.1.2.featureId x.2).Raises IsUpstream :=
                fun x _ => (Except.meets_iff.mp (parseUpstreamId_meets env _ _ _)).1
              have hzip : (chunk.zip items).length = chunk.length := by
                rw [List.length_zip]
                omega
              have h := Except.meets_mapM_length hmap
              rwa [hzip] at h
          · exact hfailed _ (by decide)

/-- The outcome of a chunk as the k-th request; an empty chunk is never sent. -/
def chunkOutcome (k : ℕ) : Chunk → Except PyError (List String)
  | [] => .error .indexError
  | (i, first) :: tail => outcomeAt env answer apiUrl k first ((i, first) :: tail)

/-- The collection of a chunk is that of its first feature. -/
def chunkCollection (chunk : Chunk) : String := (chunk.head?.map (·.2.collection)).getD ""

/-- The request of a chunk. -/
def chunkRequest (chunk : Chunk) : Request := batchRequest apiUrl (chunkCollection chunk) chunk

/-- Rows are filled in, never added. -/
theorem length_recordImported {imported imported' : List (Option ImportedFeature)} {chunk : Chunk}
    {identifiers : List String} (h : recordImported imported chunk identifiers = .ok imported') :
    imported'.length = imported.length := by
  have hfold : ∀ (xs : List ((ℕ × PreparedFeature) × String))
      (rows : List (Option ImportedFeature)),
      (xs.foldl (fun rows x =>
        rows.set x.1.1 (some ⟨x.1.2.collection, x.2⟩)) rows).length = rows.length := by
    intro xs
    induction xs with
    | nil => exact fun _ => rfl
    | cons x xs ih =>
      intro rows
      rw [List.foldl_cons, ih, List.length_set]
  rw [recordImported] at h
  split at h
  · cases h
  · cases h
    exact hfold _ _

/-- A chunk that goes through emits its success and fills its rows. -/
theorem chunkRun_ok {k : ℕ} {chunk : Chunk} {identifiers : List String}
    (imported : List (Option ImportedFeature))
    (h : chunkOutcome env answer apiUrl k chunk = .ok identifiers) :
    ∃ imported', imported'.length = imported.length ∧
      (chunkRun env answer apiUrl k imported chunk).result = .ok imported' ∧
      (chunkRun env answer apiUrl k imported chunk).events
        = [succeededBatch chunk (chunkCollection chunk)] ∧
      (chunkRun env answer apiUrl k imported chunk).requests = [chunkRequest apiUrl chunk] := by
  cases chunk with
  | nil => cases h
  | cons x tail =>
    obtain ⟨i, first⟩ := x
    change outcomeAt env answer apiUrl k first ((i, first) :: tail) = .ok identifiers at h
    have hlen : identifiers.length = ((i, first) :: tail).length := by
      have hmeets := batchOutcome_meets env first ((i, first) :: tail)
        (answer k (batchRequest apiUrl first.collection ((i, first) :: tail)))
      exact (Except.meets_iff.mp hmeets).2 identifiers h
    obtain ⟨imported', hrows⟩ :
        ∃ imported', recordImported imported ((i, first) :: tail) identifiers = .ok imported' := by
      rw [recordImported, if_neg (not_not.mpr hlen.symm)]
      exact ⟨_, rfl⟩
    simp only [chunkRun, h, hrows]
    exact ⟨imported', length_recordImported hrows, rfl, rfl, rfl⟩

/-- A chunk that fails emits its failure. -/
theorem chunkRun_failed {k : ℕ} {chunk : Chunk} {collection featureId reason : String}
    (imported : List (Option ImportedFeature))
    (h : chunkOutcome env answer apiUrl k chunk
      = .error (.upstreamImport collection featureId reason)) :
    (chunkRun env answer apiUrl k imported chunk).result
        = .error (.upstreamImport collection featureId reason) ∧
      (chunkRun env answer apiUrl k imported chunk).events
        = [failedBatch chunk collection featureId reason] ∧
      (chunkRun env answer apiUrl k imported chunk).requests = [chunkRequest apiUrl chunk] := by
  cases chunk with
  | nil => cases h
  | cons x tail =>
    obtain ⟨i, first⟩ := x
    change outcomeAt env answer apiUrl k first ((i, first) :: tail) = _ at h
    simp only [chunkRun, h]
    exact ⟨trivial, trivial, rfl⟩

/-- What a non-empty chunk can come to. -/
theorem chunkOutcome_cases (k : ℕ) {chunk : Chunk} (hne : chunk ≠ []) :
    (∃ identifiers, chunkOutcome env answer apiUrl k chunk = .ok identifiers) ∨
      ∃ collection featureId reason, reason ≠ "" ∧
        chunkOutcome env answer apiUrl k chunk
          = .error (.upstreamImport collection featureId reason) := by
  cases chunk with
  | nil => exact absurd rfl hne
  | cons x tail =>
    obtain ⟨i, first⟩ := x
    have hmeets := batchOutcome_meets env first ((i, first) :: tail)
      (answer k (batchRequest apiUrl first.collection ((i, first) :: tail)))
    show (∃ identifiers, outcomeAt env answer apiUrl k first ((i, first) :: tail) = .ok identifiers) ∨
      ∃ collection featureId reason, reason ≠ "" ∧
        outcomeAt env answer apiUrl k first ((i, first) :: tail) = _
    rw [outcomeAt]
    cases hout : batchOutcome env first ((i, first) :: tail)
        (answer k (batchRequest apiUrl first.collection ((i, first) :: tail))) with
    | ok identifiers => exact Or.inl ⟨identifiers, rfl⟩
    | error e =>
      rw [hout] at hmeets
      obtain ⟨collection, featureId, reason, rfl, hreason⟩ := hmeets
      exact Or.inr ⟨collection, featureId, reason, hreason, rfl⟩

/-- All chunks go through: one success each. -/
theorem runBatches_ok (chunks : List Chunk) (k : ℕ) (imported : List (Option ImportedFeature))
    (h : ∀ j chunk, chunks[j]? = some chunk →
      ∃ identifiers, chunkOutcome env answer apiUrl (k + j) chunk = .ok identifiers) :
    ∃ imported', imported'.length = imported.length ∧
      (runBatches env answer apiUrl k chunks imported).result = .ok imported' ∧
      (runBatches env answer apiUrl k chunks imported).events
        = chunks.map (fun chunk => succeededBatch chunk (chunkCollection chunk)) ∧
      (runBatches env answer apiUrl k chunks imported).requests
        = chunks.map (chunkRequest apiUrl) := by
  induction chunks generalizing k imported with
  | nil => exact ⟨imported, rfl, rfl, rfl, rfl⟩
  | cons chunk chunks ih =>
    obtain ⟨⟨identifiers, hout⟩, hrest⟩ := List.forall_getElem?_cons
      (P := fun j c => ∃ identifiers, chunkOutcome env answer apiUrl j c = .ok identifiers) h
    obtain ⟨imported', hlen, hres, hev, hreq⟩ := chunkRun_ok env answer apiUrl imported hout
    obtain ⟨imported'', hlen', hres', hev', hreq'⟩ := ih (k + 1) imported' hrest
    refine ⟨imported'', hlen'.trans hlen, ?_, ?_, ?_⟩
    · simp only [runBatches, hres, hreq, List.length_singleton, hres']
    · simp only [runBatches, hres, hreq, List.length_singleton, hev, hev', List.map_cons,
        List.singleton_append]
    · simp only [runBatches, hres, hreq, List.length_singleton, hreq', List.map_cons,
        List.singleton_append]

/-- The first failing chunk: the successes before it, then its failure. -/
theorem runBatches_failed (chunks : List Chunk) (k : ℕ) (imported : List (Option ImportedFeature))
    {n : ℕ} {chunk : Chunk} {collection featureId reason : String}
    (hchunk : chunks[n]? = some chunk)
    (h : ∀ j c, j < n → chunks[j]? = some c →
      ∃ identifiers, chunkOutcome env answer apiUrl (k + j) c = .ok identifiers)
    (hfail : chunkOutcome env answer apiUrl (k + n) chunk
      = .error (.upstreamImport collection featureId reason)) :
    (runBatches env answer apiUrl k chunks imported).result
        = .error (.upstreamImport collection featureId reason) ∧
      (runBatches env answer apiUrl k chunks imported).events
        = (chunks.take n).map (fun chunk => succeededBatch chunk (chunkCollection chunk))
          ++ [failedBatch chunk collection featureId reason] ∧
      (runBatches env answer apiUrl k chunks imported).requests
        = (chunks.take (n + 1)).map (chunkRequest apiUrl) := by
  induction chunks generalizing k n imported with
  | nil => simp at hchunk
  | cons c chunks ih =>
    cases n with
    | zero =>
      obtain rfl : c = chunk := by simpa using hchunk
      obtain ⟨hres, hev, hreq⟩ := chunkRun_failed env answer apiUrl imported hfail
      rw [Nat.add_zero] at hres hev hreq
      refine ⟨?_, ?_, ?_⟩
      · simp only [runBatches, hres]
      · simp only [runBatches, hres, hev, List.take_zero, List.map_nil, List.nil_append]
      · simp only [runBatches, hres, hreq, Nat.zero_add, List.take_succ_cons, List.take_zero,
          List.map_cons, List.map_nil]
    | succ n =>
      obtain ⟨identifiers, hout⟩ := h 0 c (Nat.succ_pos n) rfl
      obtain ⟨imported', -, hres, hev, hreq⟩ := chunkRun_ok env answer apiUrl imported hout
      have hrest : ∀ j c', j < n → chunks[j]? = some c' →
          ∃ identifiers, chunkOutcome env answer apiUrl (k + 1 + j) c' = .ok identifiers := by
        intro j c' hj hc'
        have := h (j + 1) c' (by omega) (by simpa using hc')
        rwa [show k + 1 + j = k + (j + 1) by omega]
      have hfail' : chunkOutcome env answer apiUrl (k + 1 + n) chunk
          = .error (.upstreamImport collection featureId reason) := by
        rwa [show k + 1 + n = k + (n + 1) by omega]
      obtain ⟨hres', hev', hreq'⟩ := ih (k + 1) imported' (by simpa using hchunk) hrest hfail'
      rw [Nat.add_zero] at hres hev hreq
      refine ⟨?_, ?_, ?_⟩
      · simp only [runBatches, hres, hreq, List.length_singleton, hres']
      · simp [runBatches, hres, hreq, hev, hev']
      · simp only [runBatches, hres, hreq, List.length_singleton, hreq', List.take_succ_cons,
          List.map_cons, List.singleton_append]

end Gcimport
