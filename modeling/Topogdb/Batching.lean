/-
gcimport's batches in geocomponents' tables.

gcimport sends batches one after another and stops at the first that is not
answered as it expects (`Gcimport.importFeatures`); geocomponents upserts each in
one autocommitted statement (`Geocomponents.executeUpsertBatch`).  Between the two
are pygeoapi and a network that can lose a request or its answer.

* `rows_of_answers` — the rows of the summary, when all batches are answered;
* `served_of_answers`, `refused_of_rejects` — what an answer says about the tables;
* `run_rejected` — the tables after a batch that is rejected;
* `importFeatures_batched` — how a list of features is imported.
-/
import Topogdb.Gcimport.EventProtocol
import Topogdb.Gcimport.ImportedIds
import Topogdb.Geocomponents.Upsert
import Topogdb.Geocomponents.UpsertBatch

namespace Batching

open Gcimport Effects

/-! ### Rows -/

section Rows

variable {features : List PreparedFeature} {size : ℕ}

theorem mem_indexed {j : ℕ} {f : PreparedFeature} : (j, f) ∈ indexed features ↔ features[j]? = some f := by
  rw [indexed, List.mem_map]
  constructor
  · rintro ⟨x, hmem, heq⟩
    obtain ⟨rfl, rfl⟩ := Prod.mk.inj heq
    exact List.mem_zipIdx_iff_getElem?.mp hmem
  · intro hf
    exact ⟨(f, j), List.mem_zipIdx_iff_getElem?.mpr hf, rfl⟩

/-- No position is in two batches. -/
theorem nodup_positions (hsize : 0 < size) :
    ((batches features size).flatten.map Prod.fst).Nodup := by
  have hrange : (indexed features).map Prod.fst = List.range features.length := by
    rw [indexed, List.map_map, List.range_eq_range', ← List.zipIdx_map_snd 0 features]
    rfl
  rw [((perm_batches hsize).map Prod.fst).nodup_iff, hrange]
  exact List.nodup_range

/-- A feature of a batch has the identifier at its place in the answer. -/
theorem mem_answered {identifiers : ℕ → List String} {chunks : List Chunk} {k i : ℕ} {chunk : Chunk}
    (hchunk : chunks[k]? = some chunk) {x : ℕ × PreparedFeature} (hx : chunk[i]? = some x)
    {id : String} (hid : (identifiers k)[i]? = some id) :
    (x, id) ∈ answered identifiers 0 chunks := by
  have hzip : (x, id) ∈ chunk.zip (identifiers k) :=
    List.mem_of_getElem? (List.getElem?_zip_eq_some.mpr ⟨hx, hid⟩)
  exact List.mem_flatMap.mpr ⟨(chunk, k), List.mem_zipIdx_iff_getElem?.mpr hchunk, hzip⟩

/-- **When all batches are answered, each row has the collection of its feature and
the identifier given for it**, and no row is missing. -/
theorem rows_of_answers (hsize : 0 < size) {identifiers : ℕ → List String}
    (hlen : ∀ k chunk, (batches features size)[k]? = some chunk →
      (identifiers k).length = chunk.length) :
    let rows := fillRows (List.replicate features.length none)
      (answered identifiers 0 (batches features size))
    rows.length = features.length ∧ none ∉ rows ∧
      ∀ (k : ℕ) (chunk : Chunk) (i j : ℕ) (f : PreparedFeature),
        (batches features size)[k]? = some chunk → chunk[i]? = some (j, f) →
        ∃ id, (identifiers k)[i]? = some id ∧ rows[j]? = some (some ⟨f.collection, id⟩) := by
  intro rows
  have hrows : rows.length = features.length := by
    rw [length_fillRows, List.length_replicate]
  have hnodup : ((answered identifiers 0 (batches features size)).map fun x => x.1.1).Nodup := by
    have hfst : (answered identifiers 0 (batches features size)).map Prod.fst =
        (batches features size).flatten := map_fst_answered fun j chunk hchunk => by
      rw [Nat.zero_add]
      exact hlen j chunk hchunk
    have hpositions : ((batches features size).flatten.map Prod.fst).Nodup := nodup_positions hsize
    rw [← hfst, List.map_map] at hpositions
    exact hpositions
  have hgiven : ∀ (k : ℕ) (chunk : Chunk) (i j : ℕ) (f : PreparedFeature),
      (batches features size)[k]? = some chunk → chunk[i]? = some (j, f) →
      ∃ id, (identifiers k)[i]? = some id ∧ rows[j]? = some (some ⟨f.collection, id⟩) := by
    intro k chunk i j f hchunk hf
    have hi : i < (identifiers k).length := by
      rw [hlen k chunk hchunk]
      exact (List.getElem?_eq_some_iff.mp hf).1
    have hj : j < features.length := by
      have hmem : (j, f) ∈ indexed features := (perm_batches hsize).subset
        (List.mem_flatten_of_mem (List.mem_of_getElem? hchunk) (List.mem_of_getElem? hf))
      exact (List.getElem?_eq_some_iff.mp (mem_indexed.mp hmem)).1
    have hid : (identifiers k)[i]? = some (identifiers k)[i] := List.getElem?_eq_getElem hi
    refine ⟨_, hid, ?_⟩
    exact getElem?_fillRows hnodup (mem_answered hchunk hf hid)
      (by rw [List.length_replicate]; exact hj)
  refine ⟨hrows, fun hnone => ?_, hgiven⟩
  obtain ⟨j, hj⟩ := List.mem_iff_getElem?.mp hnone
  have hlt : j < features.length := hrows ▸ (List.getElem?_eq_some_iff.mp hj).1
  -- the feature at this position is in a batch
  have hmem : (j, features[j]) ∈ (batches features size).flatten :=
    (perm_batches hsize).symm.subset (mem_indexed.mpr (List.getElem?_eq_getElem hlt))
  obtain ⟨chunk, hchunk, hf⟩ := List.mem_flatten.mp hmem
  obtain ⟨k, hk⟩ := List.mem_iff_getElem?.mp hchunk
  obtain ⟨i, hi⟩ := List.mem_iff_getElem?.mp hf
  obtain ⟨id, -, hrow⟩ := hgiven k chunk i j _ hk hi
  rw [hj] at hrow
  cases hrow

end Rows

/-! ### The service -/

/-- A deployed dataset behind pygeoapi. -/
structure Service (Geometry : Type) where
  gis : Geocomponents.PostGIS Geometry
  /-- The clock and the like, at the k-th request. -/
  env : ℕ → Geocomponents.Env
  deployed : String → Option Geocomponents.SchemaPlan
  loads : String → Option Json
  dataset : Geocomponents.ResolvedDataset
  /-- What pygeoapi answers when the process has ended. -/
  respond : Except Geocomponents.ProcessError Json → PostResult

variable {Geometry : Type} {service : Service Geometry} {db db' : Geocomponents.Db Geometry}

/-- pygeoapi answers the outputs of a process with a success, and an exception with
another status. -/
structure Service.Documented (service : Service Geometry) : Prop where
  outputs : ∀ outputs, ∃ statusCode, 200 ≤ statusCode ∧ statusCode ≤ 299 ∧
    service.respond (.ok outputs) = .response statusCode (some outputs)
  error : ∀ e, ∃ statusCode body, service.respond (.error e) = .response statusCode body ∧
    ¬ (200 ≤ statusCode ∧ statusCode ≤ 299)

/-- The k-th request at the process: its answer, and the tables after it. -/
def Service.serve (service : Service Geometry) (k : ℕ) (request : Request)
    (db : Geocomponents.Db Geometry) : PostResult × Geocomponents.Db Geometry :=
  match Geocomponents.executeUpsertBatch service.gis (service.env k) service.deployed service.loads
      (Geocomponents.providerDefs service.dataset)
      ((request.payload.get? "inputs").getD (.obj [])) db with
  | .ok (outputs, db') => (service.respond (.ok outputs), db')
  | .error e => (service.respond (.error e), db)

/-- What the client sees of the k-th request, and the tables after it: the network
can lose the request, and the answer. -/
inductive Delivered (service : Service Geometry) (k : ℕ) (request : Request)
    (db : Geocomponents.Db Geometry) : PostResult → Geocomponents.Db Geometry → Prop
  | answered : Delivered service k request db (service.serve k request db).1
      (service.serve k request db).2
  | requestLost (message : String) : Delivered service k request db (.httpError message) db
  | answerLost (message : String) : Delivered service k request db (.httpError message)
      (service.serve k request db).2

/-- The tables before and after each of the requests. -/
def Serves (service : Service Geometry) (answer : ℕ → Request → PostResult)
    (dbs : ℕ → Geocomponents.Db Geometry) (requests : List Request) : Prop :=
  ∀ k request, requests[k]? = some request →
    Delivered service k request (dbs k) (answer k request) (dbs (k + 1))

/-- The features of a batch, as they are sent. -/
def documents (chunk : Chunk) : List Json := chunk.map fun x => x.2.geojson

/-- The statement of a batch. -/
def Service.upserts (service : Service Geometry) (k : ℕ) (chunk : Chunk)
    (db : Geocomponents.Db Geometry) :
    Except SqlError (List Uuid × Geocomponents.Db Geometry) :=
  Geocomponents.upsertStatement service.gis (service.env k) service.deployed service.dataset.name
    (chunkCollection chunk) 0 (documents chunk) db

/-- The database rejects a feature of the batch, having accepted those before it. -/
def Rejects (service : Service Geometry) (k : ℕ) (chunk : Chunk) (db : Geocomponents.Db Geometry) :
    Prop :=
  ∃ before x after ids db' e, chunk = before ++ x :: after ∧
    Geocomponents.upsertStatement service.gis (service.env k) service.deployed service.dataset.name
      (chunkCollection chunk) 0 (documents before) db = .ok (ids, db') ∧
    Geocomponents.upsertCall service.gis (service.env k) service.deployed before.length
      service.dataset.name (chunkCollection chunk) x.2.geojson db' = .error e

theorem Rejects.upserts_error {k : ℕ} {chunk : Chunk} (h : Rejects service k chunk db) :
    ∃ e, service.upserts k chunk db = .error e := by
  obtain ⟨before, x, after, ids, db', e, rfl, hbefore, hcall⟩ := h
  have hdocuments : documents (before ++ x :: after) =
      documents before ++ x.2.geojson :: documents after := List.map_append
  refine ⟨e, ?_⟩
  rw [Service.upserts, hdocuments]
  refine Geocomponents.upsertStatement_error _ hbefore ?_
  have hlen : (documents before).length = before.length := List.length_map _
  rw [hlen, Nat.zero_add]
  exact hcall

section Served

variable {env : Env} {apiUrl : String} {k : ℕ} {chunk : Chunk}

/-- The features of the batch are GeoJSON objects. -/
def IsObjects (chunk : Chunk) : Prop := ∀ x ∈ chunk, ∃ members, x.2.geojson = .obj members

theorem documents_objects (h : IsObjects chunk) :
    ∀ f ∈ documents chunk, ∃ members, f = .obj members := by
  intro f hf
  obtain ⟨x, hx, rfl⟩ := List.mem_map.mp hf
  exact h x hx

/-- The answer to a batch that was not upserted is no list of identifiers, and the
tables are as before. -/
theorem serve_error (hservice : service.Documented) (hobjects : IsObjects chunk) (hne : chunk ≠ [])
    {e : SqlError} (he : service.upserts k chunk db = .error e) :
    (service.serve k (chunkRequest apiUrl chunk) db).2 = db ∧
      ∀ identifiers, ¬ Answers env (service.serve k (chunkRequest apiUrl chunk) db).1 identifiers := by
  rw [Service.serve]
  cases hexecute : Geocomponents.executeUpsertBatch service.gis (service.env k) service.deployed
      service.loads (Geocomponents.providerDefs service.dataset)
      (((chunkRequest apiUrl chunk).payload.get? "inputs").getD (.obj [])) db with
  | ok x =>
    obtain ⟨ids, hids, -⟩ := Geocomponents.executeUpsertBatch_eq_ok (documents_objects hobjects)
      (by simpa [documents] using hne) hexecute
    rw [Service.upserts, hids] at he
    cases he
  | error e' =>
    refine ⟨rfl, ?_⟩
    rintro identifiers ⟨statusCode, body, items, hanswer, hlow, hhigh, -⟩
    obtain ⟨status, body', hrespond, hstatus⟩ := hservice.error e'
    simp only [hrespond, PostResult.response.injEq] at hanswer
    exact hstatus (by omega)

/-- **A batch that is answered with identifiers was upserted**, and these are the ones
that the calls named, in order. -/
theorem serve_of_answers (hservice : service.Documented) (hobjects : IsObjects chunk)
    (hne : chunk ≠ []) {identifiers : List String}
    (h : Answers env (service.serve k (chunkRequest apiUrl chunk) db).1 identifiers) :
    ∃ ids, service.upserts k chunk db =
        .ok (ids, (service.serve k (chunkRequest apiUrl chunk) db).2) ∧
      List.Forall₂ (fun id identifier => env.uuid (Uuid.text id) = some identifier) ids
        identifiers := by
  rw [Service.serve] at h ⊢
  cases hexecute : Geocomponents.executeUpsertBatch service.gis (service.env k) service.deployed
      service.loads (Geocomponents.providerDefs service.dataset)
      (((chunkRequest apiUrl chunk).payload.get? "inputs").getD (.obj [])) db with
  | error e =>
    rw [hexecute] at h
    obtain ⟨statusCode, body, items, hanswer, hlow, hhigh, -⟩ := h
    obtain ⟨status, body', hrespond, hstatus⟩ := hservice.error e
    simp only [hrespond, PostResult.response.injEq] at hanswer
    exact absurd (by omega) hstatus
  | ok x =>
    rw [hexecute] at h
    obtain ⟨ids, hids, houtputs⟩ := Geocomponents.executeUpsertBatch_eq_ok
      (documents_objects hobjects) (by simpa [documents] using hne) hexecute
    obtain ⟨statusCode, body, items, hanswer, -, -, hfeatures, hitems⟩ := h
    obtain ⟨status, -, -, hrespond⟩ := hservice.outputs x.1
    simp only [hrespond, PostResult.response.injEq, Option.some.injEq] at hanswer
    obtain ⟨-, rfl⟩ := hanswer
    refine ⟨ids, hids, ?_⟩
    have hitems' : items = ids.map fun id => Json.obj [("id", .str (Uuid.text id))] := by
      rw [houtputs] at hfeatures
      exact (Json.arr.inj (Option.some.inj hfeatures)).symm
    rw [hitems', List.forall₂_map_left_iff] at hitems
    refine hitems.imp ?_
    rintro id identifier ⟨text, htext, huuid⟩
    cases htext
    exact huuid

/-- A batch that is answered with identifiers is stored. -/
theorem Delivered.stored (hservice : service.Documented) (hobjects : IsObjects chunk)
    (hne : chunk ≠ []) {result : PostResult}
    (h : Delivered service k (chunkRequest apiUrl chunk) db result db') {identifiers : List String}
    (hanswers : Answers env result identifiers) :
    ∃ ids, service.upserts k chunk db = .ok (ids, db') ∧
      List.Forall₂ (fun id identifier => env.uuid (Uuid.text id) = some identifier) ids
        identifiers := by
  cases h with
  | answered => exact serve_of_answers hservice hobjects hne hanswers
  | requestLost message =>
    obtain ⟨statusCode, body, items, h, -⟩ := hanswers
    cases h
  | answerLost message =>
    obtain ⟨statusCode, body, items, h, -⟩ := hanswers
    cases h

/-- **A batch that is rejected leaves the tables**, and is not answered with
identifiers. -/
theorem Delivered.refused (hservice : service.Documented) (hobjects : IsObjects chunk)
    (hne : chunk ≠ []) {result : PostResult}
    (h : Delivered service k (chunkRequest apiUrl chunk) db result db')
    (hrejects : Rejects service k chunk db) :
    db' = db ∧ ¬ ∃ identifiers, Answers env result identifiers := by
  obtain ⟨e, he⟩ := hrejects.upserts_error
  obtain ⟨hdb, hanswer⟩ : (service.serve k (chunkRequest apiUrl chunk) db).2 = db ∧
      ∀ identifiers, ¬ Answers env (service.serve k (chunkRequest apiUrl chunk) db).1 identifiers :=
    serve_error hservice hobjects hne he
  cases h with
  | answered => exact ⟨hdb, fun ⟨identifiers, h⟩ => hanswer identifiers h⟩
  | requestLost message =>
    refine ⟨rfl, ?_⟩
    rintro ⟨identifiers, statusCode, body, items, h, -⟩
    cases h
  | answerLost message =>
    refine ⟨hdb, ?_⟩
    rintro ⟨identifiers, statusCode, body, items, h, -⟩
    cases h

end Served

/-! ### The import -/

section Import

variable {env : Env} {answer : ℕ → Request → PostResult} {apiUrl : String}
  {features : List PreparedFeature} {size : ℕ}

variable (env answer apiUrl features) in
/-- The batches go through, or end with one that does not. -/
theorem runBatches_cases (hsize : 0 < size) (rows : List (Option ImportedFeature)) :
    let sent := batches features size
    let run := runBatches env answer apiUrl 0 sent rows
    ((∀ j chunk, sent[j]? = some chunk →
        ∃ identifiers, chunkOutcome env answer apiUrl j chunk = .ok identifiers) ∧
      run.requests = sent.map (chunkRequest apiUrl)) ∨
    ∃ n chunk, sent[n]? = some chunk ∧
      (∀ j c, j < n → sent[j]? = some c →
        ∃ identifiers, chunkOutcome env answer apiUrl j c = .ok identifiers) ∧
      (¬ ∃ identifiers, chunkOutcome env answer apiUrl n chunk = .ok identifiers) ∧
      (∃ collection featureId reason,
        run.result = .error (.upstreamImport collection featureId reason)) ∧
      run.requests = (sent.take (n + 1)).map (chunkRequest apiUrl) := by
  intro sent run
  rcases first_failure sent fun j chunk =>
      ∃ identifiers, chunkOutcome env answer apiUrl j chunk = .ok identifiers with hall | hfirst
  · obtain ⟨-, -, -, -, hrequests⟩ := runBatches_ok env answer apiUrl sent 0 rows fun j chunk h => by
      rw [Nat.zero_add]
      exact hall j chunk h
    exact .inl ⟨hall, hrequests⟩
  · obtain ⟨n, chunk, hchunk, hbad, hbefore⟩ := hfirst
    have hne : chunk ≠ [] := (mem_batches hsize (List.mem_of_getElem? hchunk)).1
    rcases chunkOutcome_cases env answer apiUrl n hne with hgood | hfail
    · exact absurd hgood hbad
    · obtain ⟨collection, featureId, reason, -, hout⟩ := hfail
      obtain ⟨hresult, -, hrequests⟩ := runBatches_failed env answer apiUrl sent 0 rows hchunk
        (fun j c hj hc => by
          rw [Nat.zero_add]
          exact hbefore j c hj hc) (by rw [Nat.zero_add]; exact hout)
      exact .inr ⟨n, chunk, hchunk, hbefore, hbad, ⟨collection, featureId, reason, hresult⟩, hrequests⟩

/-- The batches are a partition of the features that keeps their order in each
collection. -/
structure Partitions (features : List PreparedFeature) (size : ℕ) (sent : List Chunk) : Prop where
  batch : ∀ chunk ∈ sent, chunk ≠ [] ∧ chunk.length ≤ size ∧
    ∀ x ∈ chunk, x.2.collection = chunkCollection chunk
  once : sent.flatten.Perm (indexed features)
  order : ∀ collection, sent.flatten.filter (fun x => x.2.collection = collection) =
    (indexed features).filter fun x => x.2.collection = collection

theorem partitions_batches (features : List PreparedFeature) (hsize : 0 < size) :
    Partitions features size (batches features size) :=
  ⟨fun _ h => mem_batches hsize h, perm_batches hsize, filter_batches hsize⟩

/-- All batches before the k-th are stored: each by one statement that named a row for
each feature, and the rows are still there. -/
def StoredBefore (service : Service Geometry) (dbs : ℕ → Geocomponents.Db Geometry)
    (sent : List Chunk) (k : ℕ) : Prop :=
  ∀ j chunk, j < k → sent[j]? = some chunk →
    ∃ ids, service.upserts j chunk (dbs j) = .ok (ids, dbs (j + 1)) ∧
      ids.length = chunk.length ∧
      ∀ id ∈ ids, ((dbs k).row? ⟨chunkCollection chunk, id⟩).isSome

/-- The tables after batches that are answered. -/
theorem storedBefore_of_answers {service : Service Geometry} (hservice : service.Documented)
    {dbs : ℕ → Geocomponents.Db Geometry} {sent : List Chunk}
    (hne : ∀ chunk ∈ sent, chunk ≠ []) (hobjects : ∀ chunk ∈ sent, IsObjects chunk) {k : ℕ}
    (hserves : ∀ j chunk, j < k → sent[j]? = some chunk →
      Delivered service j (chunkRequest apiUrl chunk) (dbs j) (answer j (chunkRequest apiUrl chunk))
        (dbs (j + 1)))
    (hanswers : ∀ j chunk, j < k → sent[j]? = some chunk →
      ∃ identifiers, Answers env (answer j (chunkRequest apiUrl chunk)) identifiers)
    (hk : k ≤ sent.length) : StoredBefore service dbs sent k := by
  induction k with
  | zero => exact fun j _ hj => absurd hj (Nat.not_lt_zero j)
  | succ k ih =>
    have hbefore := ih (fun j chunk hj => hserves j chunk (by omega))
      (fun j chunk hj => hanswers j chunk (by omega)) (by omega)
    have hchunk : sent[k]? = some sent[k] := List.getElem?_eq_getElem (by omega)
    have hmem : sent[k] ∈ sent := List.getElem_mem _
    obtain ⟨identifiers, hidentifiers⟩ := hanswers k _ (Nat.lt_succ_self k) hchunk
    obtain ⟨ids, hids, -⟩ := (hserves k _ (Nat.lt_succ_self k) hchunk).stored hservice
      (hobjects _ hmem) (hne _ hmem) hidentifiers
    obtain ⟨hlen, hrows, hkept⟩ := Geocomponents.upsertStatement_spec hids
    intro j chunk hj hget
    rcases Nat.lt_succ_iff_lt_or_eq.mp hj with hj | rfl
    · obtain ⟨ids', hids', hlen', hrows'⟩ := hbefore j chunk hj hget
      exact ⟨ids', hids', hlen', fun id hid => hkept _ (hrows' id hid)⟩
    · rw [hchunk] at hget
      cases hget
      exact ⟨ids, hids, hlen.trans (List.length_map _), hrows⟩

theorem isObjects_batches (hsize : 0 < size)
    (hfeatures : ∀ f ∈ features, ∃ members, f.geojson = .obj members) {chunk : Chunk}
    (hchunk : chunk ∈ batches features size) : IsObjects chunk := by
  intro x hx
  have hmem : (x.1, x.2) ∈ indexed features :=
    (perm_batches hsize).subset (List.mem_flatten_of_mem hchunk hx)
  exact hfeatures x.2 (List.mem_of_getElem? (mem_indexed.mp hmem))

/-- The requests are those of the first batches. -/
theorem requests_runBatches (hsize : 0 < size) (rows : List (Option ImportedFeature)) :
    ∃ n, (runBatches env answer apiUrl 0 (batches features size) rows).requests =
      ((batches features size).take n).map (chunkRequest apiUrl) := by
  rcases runBatches_cases env answer apiUrl features hsize rows with
    ⟨-, hall⟩ | ⟨n, chunk, -, -, -, -, hfirst⟩
  · refine ⟨(batches features size).length, ?_⟩
    rw [List.take_length]
    exact hall
  · exact ⟨n + 1, hfirst⟩

/-- **What a batch that is rejected comes to.** -/
theorem run_rejected (hsize : 0 < size) (rows : List (Option ImportedFeature))
    {service : Service Geometry} (hservice : service.Documented)
    (hfeatures : ∀ f ∈ features, ∃ members, f.geojson = .obj members)
    {dbs : ℕ → Geocomponents.Db Geometry}
    (hserves : Serves service answer dbs
      (runBatches env answer apiUrl 0 (batches features size) rows).requests)
    {k : ℕ} {chunk : Chunk} (hchunk : (batches features size)[k]? = some chunk)
    (hk : k < (runBatches env answer apiUrl 0 (batches features size) rows).requests.length)
    (hrejects : Rejects service k chunk (dbs k)) :
    (runBatches env answer apiUrl 0 (batches features size) rows).requests.length = k + 1 ∧
      dbs (k + 1) = dbs k ∧ StoredBefore service dbs (batches features size) k ∧
      ∃ collection featureId reason,
        (runBatches env answer apiUrl 0 (batches features size) rows).result =
          .error (.upstreamImport collection featureId reason) := by
  have hne : ∀ c ∈ batches features size, c ≠ [] := fun _ h => (mem_batches hsize h).1
  have hobjects : ∀ c ∈ batches features size, IsObjects c := fun _ h =>
    isObjects_batches hsize hfeatures h
  have hdelivered : ∀ j c, j ≤ k → (batches features size)[j]? = some c →
      Delivered service j (chunkRequest apiUrl c) (dbs j) (answer j (chunkRequest apiUrl c))
        (dbs (j + 1)) := by
    intro j c hj hc
    refine hserves j _ ?_
    obtain ⟨n, hn⟩ : ∃ n, (runBatches env answer apiUrl 0 (batches features size) rows).requests =
      ((batches features size).take n).map (chunkRequest apiUrl) := requests_runBatches hsize rows
    rw [hn, List.length_map, List.length_take] at hk
    rw [hn, List.getElem?_map, List.getElem?_take_of_lt (by omega), hc]
    rfl
  have hlast : chunk ∈ batches features size := List.mem_of_getElem? hchunk
  obtain ⟨hdb, hrefused⟩ : dbs (k + 1) = dbs k ∧
      ¬ ∃ identifiers, Answers env (answer k (chunkRequest apiUrl chunk)) identifiers :=
    (hdelivered k chunk (Nat.le_refl k) hchunk).refused hservice (hobjects chunk hlast)
      (hne chunk hlast) hrejects
  have hbad : ¬ ∃ identifiers, chunkOutcome env answer apiUrl k chunk = .ok identifiers := by
    rintro ⟨identifiers, hout⟩
    exact hrefused ⟨identifiers, ((chunkOutcome_eq_ok (hne chunk hlast)).mp hout).1⟩
  rcases runBatches_cases env answer apiUrl features hsize rows with
    ⟨hall, -⟩ | ⟨n, c, hc, hbefore, -, hresult, hrequests⟩
  · exact absurd (hall k chunk hchunk) hbad
  · have hn : n < (batches features size).length := (List.getElem?_eq_some_iff.mp hc).1
    have hlen : (runBatches env answer apiUrl 0 (batches features size) rows).requests.length =
        n + 1 := by
      rw [hrequests, List.length_map, List.length_take]
      omega
    -- an earlier batch would have gone through
    obtain rfl : k = n := by
      rcases Nat.lt_or_ge k n with hlt | hge
      · exact absurd (hbefore k chunk hlt hchunk) hbad
      · omega
    refine ⟨hlen, hdb, ?_, hresult⟩
    have hanswers : ∀ j c, j < k → (batches features size)[j]? = some c →
        ∃ identifiers, Answers env (answer j (chunkRequest apiUrl c)) identifiers := by
      intro j c hj hc
      obtain ⟨identifiers, hout⟩ := hbefore j c hj hc
      exact ⟨identifiers, ((chunkOutcome_eq_ok (hne c (List.mem_of_getElem? hc))).mp hout).1⟩
    exact storedBefore_of_answers hservice hne hobjects
      (fun j c hj hc => hdelivered j c (by omega) hc) hanswers (by omega)

/-- **How a list of features is imported.**  The batches are a partition of the
features that keeps their order in each collection; when all of them are answered, each
feature has the identifier given for it; and when the database rejects a feature of a
batch, nothing of this batch and of a later one is stored, while those before it are. -/
theorem importFeatures_batched (env : Env) (answer : ℕ → Request → PostResult) (apiUrl : String)
    (features : List PreparedFeature) (size : ℕ) (hsize : 0 < size)
    (onBatch : BatchEvent → ImportTask PUnit) (eventsOf : BatchEvent → List Event)
    (hbatch : ∀ b k, Yields answer (onBatch b) k (.ok ⟨⟩) (eventsOf b) [])
    (raises : List Event → Event → Option PyError) :
    let sent := batches features size
    let run := exec (importFeatures env features apiUrl size onBatch) ⟨raises, answer⟩ {}
    Partitions features size sent ∧
    (∃ n, run.2.requests = (sent.take n).map (chunkRequest apiUrl)) ∧
    (∀ identifiers : ℕ → List String,
      (∀ k chunk, sent[k]? = some chunk →
        Answers env (answer k (chunkRequest apiUrl chunk)) (identifiers k) ∧
          (identifiers k).length = chunk.length) →
      run.2.requests = sent.map (chunkRequest apiUrl) ∧
      ∃ imported, run.1 = .ok { total := features.length, features := imported } ∧
        imported.length = features.length ∧ none ∉ imported ∧
        ∀ (k : ℕ) (chunk : Chunk) (i j : ℕ) (f : PreparedFeature),
          sent[k]? = some chunk → chunk[i]? = some (j, f) →
          ∃ id, (identifiers k)[i]? = some id ∧ imported[j]? = some (some ⟨f.collection, id⟩)) ∧
    ∀ (Geometry : Type) (service : Service Geometry) (dbs : ℕ → Geocomponents.Db Geometry),
      service.Documented → (∀ f ∈ features, ∃ members, f.geojson = .obj members) →
      Serves service answer dbs run.2.requests →
      ∀ k chunk, sent[k]? = some chunk → k < run.2.requests.length →
        Rejects service k chunk (dbs k) →
        run.2.requests.length = k + 1 ∧ dbs (k + 1) = dbs k ∧ StoredBefore service dbs sent k ∧
          ∃ collection featureId reason,
            run.1 = .error (.upstreamImport collection featureId reason) := by
  intro sent run
  obtain ⟨hresult, -, hrequests⟩ :=
    importFeatures_yields env answer apiUrl hbatch features size 0 raises {} rfl
  rw [List.nil_append] at hrequests
  have hne : ∀ chunk ∈ sent, chunk ≠ [] := fun _ h => (mem_batches hsize h).1
  refine ⟨partitions_batches features hsize, ?_, fun identifiers hanswers => ?_, ?_⟩
  · obtain ⟨n, hn⟩ : ∃ n, (runBatches env answer apiUrl 0 sent
        (List.replicate features.length none)).requests = (sent.take n).map (chunkRequest apiUrl) :=
      requests_runBatches hsize _
    exact ⟨n, hrequests.trans hn⟩
  · -- as many ids as features is what makes a batch go through
    have houtcomes : ∀ k chunk, sent[k]? = some chunk →
        chunkOutcome env answer apiUrl k chunk = .ok (identifiers k) := fun k chunk hchunk =>
      (chunkOutcome_eq_ok (hne chunk (List.mem_of_getElem? hchunk))).mpr (hanswers k chunk hchunk)
    have hrows : (runBatches env answer apiUrl 0 sent (List.replicate features.length none)).result =
        .ok (fillRows (List.replicate features.length none) (answered identifiers 0 sent)) :=
      runBatches_rows sent 0 _ fun j chunk hchunk => by
        rw [Nat.zero_add]
        exact houtcomes j chunk hchunk
    rw [hrows] at hresult
    refine ⟨?_, _, hresult, rows_of_answers hsize fun k chunk hchunk => (hanswers k chunk hchunk).2⟩
    rcases runBatches_cases env answer apiUrl features hsize (List.replicate features.length none)
      with ⟨-, hall⟩ | ⟨n, chunk, hchunk, -, hbad, -, -⟩
    · exact hrequests.trans hall
    · exact absurd ⟨_, houtcomes n chunk hchunk⟩ hbad
  · intro Geometry service dbs hservice hfeatures hserves k chunk hchunk hk hrejects
    -- the requests are those of `runBatches`, so the first refusal ends them
    have hlen : run.2.requests.length = (runBatches env answer apiUrl 0 (batches features size)
        (List.replicate features.length none)).requests.length := congrArg List.length hrequests
    have hsent : Serves service answer dbs (runBatches env answer apiUrl 0 (batches features size)
        (List.replicate features.length none)).requests := hrequests ▸ hserves
    obtain ⟨hlast, hdb, hstored, collection, featureId, reason, herror⟩ :=
      run_rejected hsize _ hservice hfeatures hsent hchunk (hlen ▸ hk) hrejects
    rw [herror] at hresult
    exact ⟨hlen.trans hlast, hdb, hstored, collection, featureId, reason, hresult⟩

end Import

/-! ### A network that loses nothing -/

section Tables

variable (service : Service Geometry) (apiUrl : String) (sent : List Chunk)
  (db : Geocomponents.Db Geometry)

/-- The tables, when each batch is served in turn. -/
def Service.tables : ℕ → Geocomponents.Db Geometry
  | 0 => db
  | k + 1 =>
    match sent[k]? with
    | some chunk => (service.serve k (chunkRequest apiUrl chunk) (Service.tables k)).2
    | none => Service.tables k

/-- The answers then. -/
def Service.answers (k : ℕ) (request : Request) : PostResult :=
  (service.serve k request (service.tables apiUrl sent db k)).1

theorem serves_tables (n : ℕ) : Serves service (service.answers apiUrl sent db)
    (service.tables apiUrl sent db) ((sent.take n).map (chunkRequest apiUrl)) := by
  intro k request hrequest
  rw [List.getElem?_map] at hrequest
  obtain ⟨chunk, hchunk, rfl⟩ := Option.map_eq_some_iff.mp hrequest
  have hsent : sent[k]? = some chunk := by
    rw [List.getElem?_take] at hchunk
    split at hchunk
    · exact hchunk
    · cases hchunk
  have htables : service.tables apiUrl sent db (k + 1) =
      (service.serve k (chunkRequest apiUrl chunk) (service.tables apiUrl sent db k)).2 := by
    rw [Service.tables, hsent]
  rw [htables]
  exact .answered

end Tables

namespace Sample

def signPlan : Geocomponents.SchemaPlan where
  schemaName := "skiltplan"
  collections := [Geocomponents.Sample.sign]
  names_nodup := List.nodup_singleton _
  roles_nodup := List.forall_mem_singleton.mpr List.nodup_nil
  targets_known := by decide
  derived_declared := by decide
  members_not_derived := by decide

/-- The service of the signs. -/
def signs : Service Unit where
  gis := Geocomponents.Sample.gis
  env _ := Geocomponents.Sample.env
  deployed _ := some signPlan
  loads _ := none
  dataset := Geocomponents.Sample.skiltplan
  respond
    | .ok outputs => .response 200 (some outputs)
    | .error _ => .response 400 none

theorem signs_documented : signs.Documented where
  outputs _ := ⟨200, by omega, by omega, rfl⟩
  error _ := ⟨400, none, rfl, by omega⟩

/-- Libraries for uuids that are spelled as they are stored. -/
def uuidEnv : Env := { emptyUploadEnv with uuid := some }

def stop : PreparedFeature := ⟨"skilt", "1", Geocomponents.Sample.stopSign⟩

/-- A sign without a place. -/
def nowhere : PreparedFeature := ⟨"skilt", "2", .obj []⟩

def importSigns : ImportTask ImportSummary :=
  importFeatures uuidEnv [stop, nowhere] "" 1 fun _ => pure ⟨⟩

end Sample

open Sample in
/-- Two signs, one a batch; the second is rejected. -/
theorem importFeatures_batched_signs :
    let sent := batches [stop, nowhere] 1
    let dbs := signs.tables "" sent Geocomponents.Db.empty
    let run := exec importSigns ⟨fun _ _ => none, signs.answers "" sent Geocomponents.Db.empty⟩ {}
    run.2.requests.length = 2 ∧ dbs 2 = dbs 1 ∧ StoredBefore signs dbs sent 1 := by
  intro sent dbs run
  obtain ⟨-, ⟨n, hn⟩, -, hrejected⟩ := importFeatures_batched uuidEnv
    (signs.answers "" sent Geocomponents.Db.empty) "" [stop, nowhere] 1 (by omega)
    (fun _ => pure ⟨⟩) (fun _ => []) (fun _ _ => yields_pure _) fun _ _ => none
  have hchunk : (batches [stop, nowhere] 1)[1]? = some [(1, nowhere)] := rfl
  have hlen : run.2.requests.length = 2 := by decide +kernel
  have hserves : Serves signs (signs.answers "" sent Geocomponents.Db.empty) dbs run.2.requests := by
    have hrequests : run.2.requests = (sent.take n).map (chunkRequest "") := hn
    rw [hrequests]
    exact serves_tables _ _ _ _ _
  have hrejects : Rejects signs 1 [(1, nowhere)] (dbs 1) := by
    have hcall : (Geocomponents.upsertCall signs.gis (signs.env 1) signs.deployed 0
        signs.dataset.name "skilt" nowhere.geojson (dbs 1)).toOption.isNone := by decide +kernel
    cases hresult : Geocomponents.upsertCall signs.gis (signs.env 1) signs.deployed 0
        signs.dataset.name "skilt" nowhere.geojson (dbs 1) with
    | ok x =>
      rw [hresult] at hcall
      cases hcall
    | error e => exact ⟨[], (1, nowhere), [], [], dbs 1, e, rfl, rfl, hresult⟩
  have hobjects : ∀ f ∈ [stop, nowhere], ∃ members, f.geojson = .obj members := by
    intro f hf
    rcases List.mem_pair.mp hf with rfl | rfl <;> exact ⟨_, rfl⟩
  have hk : 1 < run.2.requests.length := by omega
  obtain ⟨-, hdbs, hstored, -⟩ := hrejected Unit signs dbs signs_documented hobjects hserves 1
    [(1, nowhere)] hchunk hk hrejects
  exact ⟨hlen, hdbs, hstored⟩

end Batching
