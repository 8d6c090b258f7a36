/-
The API of a dataset writes what direct writes write.

* `requestCalls` — the direct writes that a request stands for, by its method, its path
  and its body;
* `handle_spec` — a request that is answered as done leaves the tables that these
  writes leave, and every other request leaves the tables;
* `serve_requests` — so do requests one after another.
-/
import Topogdb.Geocomponents.Api
import Topogdb.Geocomponents.CallWrites
import Topogdb.Geocomponents.StoredRows
import Topogdb.Lib.Traces

namespace Geocomponents

open Prog Python

variable {Geometry : Type}

/-! ### The writes that a request stands for -/

section Calls

variable (loads : String → Option Json) (env : Env)

/-- The writes of the feature in a body. -/
def bodyCalls (body : String) (calls : Json → List (Env × Call)) : List (Env × Call) :=
  match bodyFeature loads body with
  | .ok feature => calls feature
  | .error _ => []

/-- The write of a row that an identifier names. -/
def rowCalls (identifier : String) (call : Option Uuid → Call) : List (Env × Call) :=
  match castUuid (some identifier) with
  | .ok fid => [(env, call fid)]
  | .error _ => []

/-- The writes of a batch, the n-th in the environment after `n` draws. -/
def featureCalls (n : ℕ) (collection : String) (features : List Json) : List (Env × Call) :=
  (features.zipIdx n).map fun x => (env.after x.2, .upsert collection (some x.1))

/-- The writes of the inputs of `upsert-batch`. -/
def batchCalls (inputs : Json) : List (Env × Call) :=
  match inputs.get? "collection", inputs.get? "features" with
  | some (.str collection), some (.arr items) =>
    match items.mapM (asFeatureDict loads) with
    | .ok features => featureCalls env 0 collection features
    | .error _ => []
  | _, _ => []

/-- The direct writes that a request to an endpoint stands for. -/
def endpointCalls {Geometry : Type} (pygeoapi : Pygeoapi Geometry) (request : HttpRequest) (e : Endpoint) :
    List (Env × Call) :=
  match e, request.method with
  | .items cid, .post => bodyCalls loads request.body fun doc => [(env, .create cid doc)]
  | .upsertItem cid, .post => bodyCalls loads request.body fun doc => [(env, .upsert cid doc)]
  | .item cid iid, .put =>
    bodyCalls loads request.body fun doc => rowCalls env iid fun fid => .replace cid fid doc
  | .item cid iid, .patch =>
    bodyCalls loads request.body fun doc => rowCalls env iid fun fid => .update cid fid doc
  | .item cid iid, .delete => rowCalls env iid fun fid => .delete cid fid
  | .execution pid, .post =>
    if pid = "upsert-batch" then (pygeoapi.inputs request).elim [] (batchCalls loads env) else []
  | _, _ => []

/-- The direct writes that a request stands for. -/
def requestCalls {Geometry : Type} (pygeoapi : Pygeoapi Geometry) (request : HttpRequest) : List (Env × Call) :=
  (endpoint request.path).elim [] (endpointCalls loads env pygeoapi request)

end Calls

/-! ### Links have a source -/

section Sourced

variable {gis : PostGIS Geometry} {env : Env} {deployed : String → Option SchemaPlan}
  {dataset : String} {plan : SchemaPlan} {db db' : Db Geometry}

/-- The links are declared, and of rows that are there; their targets may be gone. -/
def Sourced (plan : SchemaPlan) (db : Db Geometry) : Prop := ∃ gone, ResolvesBut plan gone db

theorem sourced_empty : Sourced plan (Db.empty : Db Geometry) :=
  ⟨[], fun _ hl => absurd hl (Finset.notMem_empty _)⟩

/-- Accepted direct writes keep it so. -/
theorem sourced_acceptedStep (hdeployed : deployed dataset = some plan) {call : Env × Call}
    (hdirect : ∀ document, call.2 ≠ .transaction document) (hdb : Sourced plan db)
    (hstep : acceptedStep gis deployed dataset db call = some db') : Sourced plan db' := by
  obtain ⟨gone, hdb⟩ := hdb
  obtain ⟨env, call⟩ := call
  cases call with
  | create collection feature =>
    obtain ⟨coll, hcoll, _, ⟨⟩, id, hrun, -⟩ := (succeeded_writeDispatch_iff hdeployed).mp hstep
    exact ⟨gone, (ends_create gis env (mem_of_directCollection hcoll).1 0 feature db id db'
      hrun).2.1.resolvesBut hdb⟩
  | replace collection fid feature =>
    obtain ⟨coll, hcoll, _, ⟨⟩, found, hrun, hfound⟩ :=
      (succeeded_writeDispatch_iff hdeployed).mp hstep
    rcases ends_replace gis env (mem_of_directCollection hcoll).1 fid feature db found db' hrun with
      ⟨-, rfl⟩ | ⟨-, id, -, -, hwrote⟩
    · exact ⟨gone, hdb⟩
    · exact ⟨gone, hwrote.resolvesBut hdb⟩
  | update collection fid feature =>
    obtain ⟨coll, hcoll, _, ⟨⟩, found, hrun, hfound⟩ :=
      (succeeded_writeDispatch_iff hdeployed).mp hstep
    rcases ends_update gis env (mem_of_directCollection hcoll).1 fid feature db found db' hrun with
      ⟨-, rfl⟩ | ⟨-, id, -, -, hwrote⟩
    · exact ⟨gone, hdb⟩
    · exact ⟨gone, hwrote.resolvesBut hdb⟩
  -- the one call that can leave links behind: those to its row
  | delete collection fid =>
    obtain ⟨coll, hcoll, _, ⟨⟩, found, hrun, hfound⟩ :=
      (succeeded_writeDispatch_iff hdeployed).mp hstep
    rcases ends_delete fid db found db' hrun with ⟨-, -, rfl⟩ | ⟨id, -, -, hdeleted⟩
    · exact ⟨gone, hdb⟩
    · exact ⟨_, hdeleted.resolvesBut (mem_of_directCollection hcoll).1 rfl hdb⟩
  | upsert collection feature =>
    obtain ⟨coll, hcoll, body, hbody, id, hrun, -⟩ :=
      (succeeded_writeDispatch_iff hdeployed).mp hstep
    split at hbody
    · cases hbody
      obtain ⟨hothers, hpresent, hassoc⟩ := ends_upsert gis env 0 feature db id db' hrun
      have hwrote : Wrote plan ⟨coll.collectionName, id⟩ db db' :=
        ⟨hothers, hpresent, fun l _ => by rw [hassoc], fun l hl => Or.inl (hassoc ▸ hl)⟩
      exact ⟨gone, hwrote.resolvesBut hdb⟩
    · cases hbody
  | transaction document => exact absurd rfl (hdirect document)

/-- A delete that finds no row finds no link of it either. -/
theorem delete_missing (hdb : Sourced plan db) {coll : CollectionPlan} {fid : Option Uuid}
    (hrun : run (delete coll fid) db = .ok (false, db')) : db' = db := by
  rcases ends_delete fid db false db' hrun with ⟨-, -, rfl⟩ | ⟨id, -, hmissing, hdeleted⟩
  · rfl
  · obtain ⟨gone, hdb⟩ := hdb
    have hnone : db.row? ⟨coll.collectionName, id⟩ = none := by
      rw [← Option.not_isSome_iff_eq_none, ← hmissing]
      exact Bool.false_ne_true
    refine Db.ext_row? (fun r => ?_) (Finset.ext fun l => ?_)
    · rw [hdeleted.rows]
      split
      · next href => rw [href, hnone]
      · rfl
    · rw [hdeleted.links]
      refine ⟨fun h => h.1, fun hl => ⟨hl, fun hsource => ?_⟩⟩
      have hpresent := (hdb l hl).1
      rw [hsource.2, hnone] at hpresent
      cases hpresent

end Sourced

/-! ### The provider -/

section Provider

variable {gis : PostGIS Geometry} {env : Env} {deployed : String → Option SchemaPlan}
  {loads : String → Option Json} {dataset : String} {plan : SchemaPlan} {db : Db Geometry}

/-- What a method does where it succeeds, the calls do; else it does nothing. -/
def MethodEnds {α : Type} (gis : PostGIS Geometry) (deployed : String → Option SchemaPlan)
    (dataset : String) (calls : List (Env × Call)) (db : Db Geometry)
    (ended : Except ApiError α × Db Geometry) : Prop :=
  match ended with
  | (.ok _, db') => Runs.run (acceptedStep gis deployed dataset) db calls = some db'
  | (.error _, db') => db' = db

theorem run_singleton {σ α : Type} {step : σ → α → Option σ} {s : σ} {a : α} :
    Runs.run step s [a] = step s a := by
  rw [Runs.run_cons]
  exact Option.bind_fun_some (step s a)

theorem methodEnds_named {call : Env × Call} {result : Except SqlError (Uuid × Db Geometry)}
    (hcall : acceptedStep gis deployed dataset db call = succeeded (fun _ => true) result) :
    MethodEnds gis deployed dataset [call] db (named db result) := by
  cases result with
  | error e => rfl
  | ok x =>
    show Runs.run _ _ _ = some x.2
    rw [run_singleton, hcall]
    rfl

theorem methodEnds_onRow {identifier : String} {rethrow : SqlError → ProcessError}
    {statement : Option Uuid → Db Geometry → Except SqlError (Bool × Db Geometry)}
    {call : Option Uuid → Call}
    (hcall : ∀ fid, acceptedStep gis deployed dataset db (env, call fid) =
      succeeded id (statement fid db))
    (hmissing : ∀ fid db', statement fid db = .ok (false, db') → db' = db) :
    MethodEnds gis deployed dataset (rowCalls env identifier call) db
      (onRow identifier rethrow statement db) := by
  rw [onRow, rowCalls]
  cases castUuid (some identifier) with
  | error e => rfl
  | ok fid =>
    show MethodEnds gis deployed dataset [(env, call fid)] db
      (found identifier rethrow db (statement fid db))
    cases hstatement : statement fid db with
    | error e => rfl
    | ok x =>
      obtain ⟨found, db'⟩ := x
      cases found with
      | false => exact hmissing fid db' hstatement
      | true =>
        show Runs.run _ _ _ = some db'
        rw [run_singleton, hcall, hstatement]
        rfl

/-- A direct write that finds no row leaves the tables. -/
theorem missing_dispatch (hdeployed : deployed dataset = some plan) {operation collection : String}
    {function : CollectionPlan → SqlProg Geometry SqlError Bool}
    (hfunction : ∀ coll ∈ plan.collections, ∀ db', run (function coll) db = .ok (false, db') →
      db' = db)
    {db' : Db Geometry} (h : writeDispatch deployed dataset operation
      (fun coll => some (function coll)) collection db = .ok (false, db')) : db' = db := by
  have hnot : succeeded not (writeDispatch deployed dataset operation
      (fun coll => some (function coll)) collection db) = some db' := by
    rw [h]
    rfl
  obtain ⟨coll, hcoll, _, ⟨⟩, found, hrun, hfound⟩ :=
    (succeeded_writeDispatch_iff hdeployed).mp hnot
  cases found with
  | true => cases hfound
  | false => exact hfunction coll (mem_of_directCollection hcoll).1 db' hrun

theorem wroteIfFound_false {coll : CollectionPlan} {fid : Option Uuid} {db' : Db Geometry}
    (h : WroteIfFound plan coll fid db false db') : db' = db := by
  rcases h with ⟨-, rfl⟩ | ⟨hfalse, -⟩
  · rfl
  · cases hfalse

variable {provider : ProviderDef} {body identifier : String}

theorem methodEnds_create :
    MethodEnds gis deployed provider.dataset
      (bodyCalls loads body fun doc => [(env, .create provider.collection doc)]) db
      (provider.create gis env deployed loads body db) := by
  rw [ProviderDef.create, bodyCalls]
  cases bodyFeature loads body with
  | error e => rfl
  | ok feature => exact methodEnds_named rfl

theorem methodEnds_upsert :
    MethodEnds gis deployed provider.dataset
      (bodyCalls loads body fun doc => [(env, .upsert provider.collection doc)]) db
      (provider.upsert gis env deployed loads body db) := by
  rw [ProviderDef.upsert, bodyCalls]
  by_cases hnone : provider.upsertField.isNone = true
  · rw [if_pos hnone]
    rfl
  · rw [if_neg hnone]
    cases bodyFeature loads body with
    | error e => rfl
    | ok feature => exact methodEnds_named rfl

theorem methodEnds_update (hdeployed : deployed provider.dataset = some plan) :
    MethodEnds gis deployed provider.dataset
      (bodyCalls loads body fun doc =>
        rowCalls env identifier fun fid => .replace provider.collection fid doc) db
      (provider.update gis env deployed loads identifier body db) := by
  rw [ProviderDef.update, bodyCalls]
  cases bodyFeature loads body with
  | error e => rfl
  | ok feature =>
    refine methodEnds_onRow (fun _ => rfl) fun fid db' h => ?_
    exact missing_dispatch hdeployed (fun coll hcoll db' hrun =>
      wroteIfFound_false (ends_replace gis env hcoll fid (some feature) db false db' hrun)) h

theorem methodEnds_patch (hdeployed : deployed provider.dataset = some plan) :
    MethodEnds gis deployed provider.dataset
      (bodyCalls loads body fun doc =>
        rowCalls env identifier fun fid => .update provider.collection fid doc) db
      (provider.patch gis env deployed loads identifier body db) := by
  rw [ProviderDef.patch, bodyCalls]
  cases bodyFeature loads body with
  | error e => rfl
  | ok feature =>
    refine methodEnds_onRow (fun _ => rfl) fun fid db' h => ?_
    exact missing_dispatch hdeployed (fun coll hcoll db' hrun =>
      wroteIfFound_false (ends_update gis env hcoll fid (some feature) db false db' hrun)) h

theorem methodEnds_delete (hdeployed : deployed provider.dataset = some plan)
    (hdb : Sourced plan db) :
    MethodEnds gis deployed provider.dataset
      (rowCalls env identifier fun fid => .delete provider.collection fid) db
      (provider.delete deployed identifier db) :=
  methodEnds_onRow (fun _ => rfl) fun _ _ h =>
    missing_dispatch hdeployed (fun _ _ _ hrun => delete_missing hdb hrun) h

/-! ### Batches -/

/-- An upsert in the environment after `n` draws is the n-th upsert of a statement. -/
theorem upsert_after (n : ℕ) (coll : CollectionPlan) (feature : Option Json) :
    upsert gis (env.after n) 0 coll feature = upsert gis env n coll feature := by
  rw [upsert, guardBlock_after]
  rfl

theorem upsertCall_after (n : ℕ) (collection : String) (feature : Json) :
    featureUpsert gis (env.after n) deployed dataset collection (some feature) db =
      upsertCall gis env deployed n dataset collection feature db := by
  rw [featureUpsert, upsertCall]
  simp only [upsert_after]

/-- **A statement over a batch writes what the upserts of its features write**, one
after another. -/
theorem run_upsertStatement {n : ℕ} {collection : String} {features : List Json} {ids : List Uuid}
    {db' : Db Geometry}
    (h : upsertStatement gis env deployed dataset collection n features db = .ok (ids, db')) :
    Runs.run (acceptedStep gis deployed dataset) db (featureCalls env n collection features) =
      some db' := by
  induction features generalizing n db ids with
  | nil =>
    cases h
    rfl
  | cons feature features ih =>
    obtain ⟨⟨id, db₁⟩, hcall, h⟩ := Except.bind_eq_ok.mp h
    obtain ⟨⟨rest, db₂⟩, hrest, h⟩ := Except.bind_eq_ok.mp h
    cases h
    have hstep : acceptedStep gis deployed dataset db
        (env.after n, .upsert collection (some feature)) = some db₁ := by
      rw [acceptedStep, upsertCall_after, hcall]
      rfl
    rw [featureCalls, List.zipIdx_cons, List.map_cons, Runs.run_cons, hstep, Option.bind_some]
    exact ih hrest

/-- A batch that goes through was written by the statement of its features. -/
theorem executeUpsertBatch_calls {resolved : ResolvedDataset} {inputs outputs : Json}
    {db' : Db Geometry} (h : executeUpsertBatch gis env deployed loads (providerDefs resolved) inputs
      db = .ok (outputs, db')) :
    Runs.run (acceptedStep gis deployed resolved.name) db (batchCalls loads env inputs) =
      some db' := by
  rw [executeUpsertBatch] at h
  split at h
  · next collection hcollection =>
    split at h
    · cases h
    split at h
    · cases h
    · next provider hprovider =>
      obtain ⟨hdataset, hname⟩ := collection_of_providerDefs hprovider
      split at h
      · next feature items hitems =>
        obtain ⟨⟨ids, db₁⟩, hmany, h⟩ := Except.bind_eq_ok.mp h
        cases h
        rw [upsertMany] at hmany
        split at hmany
        · cases hmany
        obtain ⟨features, hfeatures, hmany⟩ := Except.bind_eq_ok.mp hmany
        have hfeatures : (feature :: items).mapM (asFeatureDict loads) = .ok features := hfeatures
        -- the calls that the inputs stand for are those of the features
        have hcalls : batchCalls loads env inputs = featureCalls env 0 collection features := by
          rw [batchCalls, hcollection, hitems]
          simp only [hfeatures]
        rw [hcalls]
        split at hmany
        · next hnil =>
          cases hmany
          rw [hnil]
          rfl
        · rw [hdataset, hname] at hmany
          cases hstatement : upsertStatement gis env deployed resolved.name collection 0 features
              db with
          | error e =>
            rw [hstatement] at hmany
            cases hmany
          | ok x =>
            rw [hstatement] at hmany
            cases hmany
            exact run_upsertStatement hstatement
      · cases h
  · cases h

end Provider

/-! ### pygeoapi -/

/-- The answer is a success exactly if what was called has returned, and the tables are
those that it left. -/
def Reports {α : Type} (called : Except ApiError α × Db Geometry) (answer : ℕ × Db Geometry) :
    Prop :=
  (answer.1 < 300 ↔ called.1.isOk = true) ∧ answer.2 = called.2

/-- The answer is no success, and nothing was called. -/
def TurnsDown (db : Db Geometry) (answer : ℕ × Db Geometry) : Prop :=
  ¬ answer.1 < 300 ∧ answer.2 = db

/-- pygeoapi calls what it is given once, on the body or the inputs of the request, and
reports how that ended, unless it turns the request down. -/
structure Pygeoapi.PassesOn (pygeoapi : Pygeoapi Geometry) : Prop where
  manage : ∀ {α : Type} (action : String) (request : HttpRequest)
    (method : String → Db Geometry → Except ApiError α × Db Geometry) (db : Db Geometry),
    TurnsDown db (pygeoapi.manageCollectionItem action request method db) ∨
      Reports (method request.body db) (pygeoapi.manageCollectionItem action request method db)
  execute : ∀ (pid : String) (request : HttpRequest)
    (processors : String → Option (Json → Db Geometry → Except ApiError Json × Db Geometry))
    (db : Db Geometry),
    TurnsDown db (pygeoapi.executeProcess pid request processors db) ∨
      ∃ execute inputs, processors pid = some execute ∧ pygeoapi.inputs request = some inputs ∧
        Reports (execute inputs db) (pygeoapi.executeProcess pid request processors db)

/-! ### The handlers -/

section Handlers

variable {gis : PostGIS Geometry} {env : Env} {deployed : String → Option SchemaPlan}
  {loads : String → Option Json} {lower : String → String} {pygeoapi : Pygeoapi Geometry}
  {dataset : ResolvedDataset} {config : List (String × Resource)} {plan : SchemaPlan}
  {db : Db Geometry}

/-- The resources are those of the collections and of the processes. -/
theorem mem_buildConfig (hconfig : buildConfig dataset = .ok config) {name : String}
    {resource : Resource} (h : config.lookup name = some resource) :
    (∃ coll ∈ dataset.collections, coll.name = name ∧
        resource = collectionResource dataset.name coll) ∨
      name ∈ dataset.processes ∧ processResource dataset name = .ok resource := by
  obtain ⟨processes, hprocesses, hconfig⟩ := Except.bind_eq_ok.mp hconfig
  cases hconfig
  rcases List.mem_append.mp (mem_dictOf (mem_of_lookup h)) with hmem | hmem
  · obtain ⟨coll, hcoll, heq⟩ := List.mem_map.mp hmem
    cases heq
    exact .inl ⟨coll, hcoll, rfl, rfl⟩
  · obtain ⟨processId, hmem', hx⟩ :=
      (Except.forall₂_of_mapM hprocesses).exists_of_mem_right hmem
    obtain ⟨resource', hresource, hx⟩ := Except.bind_eq_ok.mp hx
    cases hx
    exact .inr ⟨hmem', hresource⟩

/-- The provider of a collection is that of the collection. -/
theorem provider_of_lookup (hconfig : buildConfig dataset = .ok config) {cid : String}
    {editable : Bool} {provider : ProviderDef}
    (h : config.lookup cid = some (.collection editable provider)) :
    provider.dataset = dataset.name ∧ provider.collection = cid := by
  rcases mem_buildConfig hconfig h with ⟨coll, -, rfl, heq⟩ | ⟨-, hprocess⟩
  · cases heq
    exact ⟨rfl, rfl⟩
  · unfold processResource at hprocess
    split at hprocess <;> cases hprocess

/-- The processor of a process writes as a batch, or not at all. -/
theorem processor_of_lookup (hconfig : buildConfig dataset = .ok config) {pid : String}
    {processor : Processor} (h : config.lookup pid = some (.process processor)) :
    pid = "upsert-batch" ∧ processor = .upsertBatch (providerDefs dataset) ∨
      pid ≠ "upsert-batch" ∧ (processor = .placeholder ∨ processor = .importShell) := by
  rcases mem_buildConfig hconfig h with ⟨coll, -, -, heq⟩ | ⟨-, hprocess⟩
  · cases heq
  · unfold processResource at hprocess
    split at hprocess
    · cases hprocess
      exact .inr ⟨by decide, .inl rfl⟩
    · cases hprocess
      exact .inl ⟨rfl, rfl⟩
    · cases hprocess
      exact .inr ⟨by decide, .inr rfl⟩
    · cases hprocess

/-- A request that is answered as done ends as the calls do, and another leaves the
tables. -/
structure EndsAs (gis : PostGIS Geometry) (deployed : String → Option SchemaPlan)
    (dataset : String) (calls : List (Env × Call)) (db : Db Geometry)
    (ended : ApiAnswer × Db Geometry) : Prop where
  done : ended.1.isDone = true → Runs.run (acceptedStep gis deployed dataset) db calls = some ended.2
  undone : ended.1.isDone = false → ended.2 = db

variable {calls : List (Env × Call)}

theorem EndsAs.of_done {answer : ApiAnswer} {db' : Db Geometry} (h : answer.isDone = true)
    (hrun : Runs.run (acceptedStep gis deployed dataset.name) db calls = some db') :
    EndsAs gis deployed dataset.name calls db (answer, db') :=
  ⟨fun _ => hrun, fun hundone => absurd (h.symm.trans hundone) Bool.noConfusion⟩

theorem EndsAs.of_undone {answer : ApiAnswer} {db' : Db Geometry} (h : answer.isDone = false)
    (hkept : db' = db) : EndsAs gis deployed dataset.name calls db (answer, db') :=
  ⟨fun hdone => absurd (h.symm.trans hdone) Bool.noConfusion, fun _ => hkept⟩

/-- A request that stands for no write leaves the tables. -/
theorem EndsAs.of_kept (answer : ApiAnswer) :
    EndsAs gis deployed dataset.name [] db (answer, db) :=
  ⟨fun _ => rfl, fun _ => rfl⟩

theorem endsAs_guarded {guard : Except ApiError (Option ProviderDef)}
    {handler : ProviderDef → Db Geometry → ApiAnswer × Db Geometry}
    (h : ∀ provider, guard = .ok (some provider) →
      EndsAs gis deployed dataset.name calls db (handler provider db)) :
    EndsAs gis deployed dataset.name calls db (guarded guard handler db) := by
  cases hguard : guard with
  | error e => exact .of_undone rfl rfl
  | ok passed =>
    cases passed with
    | none => exact .of_undone rfl rfl
    | some provider => exact h provider hguard

theorem endsAs_ended {α : Type} {done : α → ApiAnswer} {undone : ApiError → ApiAnswer}
    {result : Except ApiError α × Db Geometry} (hdone : ∀ a, (done a).isDone = true)
    (hundone : ∀ e, (undone e).isDone = false)
    (h : MethodEnds gis deployed dataset.name calls db result) :
    EndsAs gis deployed dataset.name calls db (ended done undone result) := by
  obtain ⟨result, db'⟩ := result
  cases result with
  | ok a => exact .of_done (hdone a) h
  | error e => exact .of_undone (hundone e) h

theorem endsAs_turnsDown {answer : ℕ × Db Geometry} (h : TurnsDown db answer) :
    EndsAs gis deployed dataset.name calls db (passed answer) :=
  .of_undone (decide_eq_false h.1) h.2

/-- What pygeoapi reports has ended so. -/
theorem endsAs_reports {α : Type} {called : Except ApiError α × Db Geometry}
    {answer : ℕ × Db Geometry} (h : MethodEnds gis deployed dataset.name calls db called)
    (hreports : Reports called answer) :
    EndsAs gis deployed dataset.name calls db (passed answer) := by
  obtain ⟨result, db'⟩ := called
  obtain ⟨hstatus, htables⟩ := hreports
  cases result with
  | ok a =>
    refine .of_done (decide_eq_true (hstatus.mpr rfl)) ?_
    rw [htables]
    exact h
  | error e =>
    refine .of_undone (decide_eq_false fun hdone => ?_) (htables.trans h)
    exact absurd (hstatus.mp hdone) Bool.false_ne_true

theorem endsAs_managed {α : Type} (hpygeoapi : pygeoapi.PassesOn) {action : String}
    {request : HttpRequest} {method : String → Db Geometry → Except ApiError α × Db Geometry}
    (h : MethodEnds gis deployed dataset.name calls db (method request.body db)) :
    EndsAs gis deployed dataset.name calls db
      (passed (pygeoapi.manageCollectionItem action request method db)) := by
  rcases hpygeoapi.manage action request method db with hdown | hreports
  · exact endsAs_turnsDown hdown
  · exact endsAs_reports h hreports

/-- The provider behind a guard is that of its collection. -/
theorem provider_of_guard (hconfig : buildConfig dataset = .ok config) {cid : String}
    {passes : Bool → ProviderDef → Bool} {provider : ProviderDef}
    (h : guardResource config cid passes = .ok (some provider)) :
    provider.dataset = dataset.name ∧ provider.collection = cid := by
  rw [guardResource] at h
  split at h
  · cases h
  · next editable provider' hlookup =>
    split at h
    · cases h
      exact provider_of_lookup hconfig hlookup
    · cases h
  · cases h

theorem endsAs_postItems (hpygeoapi : pygeoapi.PassesOn)
    (hconfig : buildConfig dataset = .ok config) (cid : String) (request : HttpRequest) :
    EndsAs gis deployed dataset.name
      (bodyCalls loads request.body fun doc => [(env, .create cid doc)]) db
      (postItems gis env deployed loads lower pygeoapi config cid request db) := by
  rw [postItems]
  by_cases htype : isGeoJson lower request = false
  · rw [if_pos htype]
    exact .of_undone rfl rfl
  · rw [if_neg htype]
    refine endsAs_guarded fun provider hguard => ?_
    obtain ⟨hdataset, rfl⟩ := provider_of_guard hconfig hguard
    refine endsAs_managed hpygeoapi ?_
    rw [← hdataset]
    exact methodEnds_create

theorem endsAs_upsertItem (hconfig : buildConfig dataset = .ok config) (cid : String)
    (request : HttpRequest) :
    EndsAs gis deployed dataset.name
      (bodyCalls loads request.body fun doc => [(env, .upsert cid doc)]) db
      (upsertItem gis env deployed loads lower config cid request db) := by
  refine endsAs_guarded fun provider hguard => ?_
  obtain ⟨hdataset, rfl⟩ := provider_of_guard hconfig hguard
  by_cases htype : isGeoJson lower request = false
  · rw [if_pos htype]
    exact .of_undone rfl rfl
  · rw [if_neg htype]
    refine endsAs_ended (fun _ => rfl) (fun _ => rfl) ?_
    rw [← hdataset]
    exact methodEnds_upsert

theorem endsAs_putItem (hpygeoapi : pygeoapi.PassesOn) (hconfig : buildConfig dataset = .ok config)
    (hdeployed : deployed dataset.name = some plan) (cid iid : String) (request : HttpRequest) :
    EndsAs gis deployed dataset.name
      (bodyCalls loads request.body fun doc => rowCalls env iid fun fid => .replace cid fid doc) db
      (putItem gis env deployed loads pygeoapi config cid iid request db) := by
  refine endsAs_guarded fun provider hguard => ?_
  obtain ⟨hdataset, rfl⟩ := provider_of_guard hconfig hguard
  refine endsAs_managed hpygeoapi ?_
  rw [← hdataset] at hdeployed ⊢
  exact methodEnds_update hdeployed

theorem endsAs_deleteItem (hpygeoapi : pygeoapi.PassesOn)
    (hconfig : buildConfig dataset = .ok config)
    (hdeployed : deployed dataset.name = some plan) (hdb : Sourced plan db) (cid iid : String)
    (request : HttpRequest) :
    EndsAs gis deployed dataset.name (rowCalls env iid fun fid => .delete cid fid) db
      (deleteItem deployed pygeoapi config cid iid request db) := by
  refine endsAs_guarded fun provider hguard => ?_
  obtain ⟨hdataset, rfl⟩ := provider_of_guard hconfig hguard
  refine endsAs_managed hpygeoapi ?_
  rw [← hdataset] at hdeployed ⊢
  exact methodEnds_delete hdeployed hdb

theorem endsAs_patchItem (hconfig : buildConfig dataset = .ok config)
    (hdeployed : deployed dataset.name = some plan) (cid iid : String) (request : HttpRequest) :
    EndsAs gis deployed dataset.name
      (bodyCalls loads request.body fun doc => rowCalls env iid fun fid => .update cid fid doc) db
      (patchItem gis env deployed loads config cid iid request db) := by
  refine endsAs_guarded fun provider hguard => ?_
  obtain ⟨hdataset, rfl⟩ := provider_of_guard hconfig hguard
  refine endsAs_ended (fun _ => rfl) (fun e => ?_) ?_
  · cases e with
    | itemNotFound message => rfl
    | process e => rfl
    | keyError key => rfl
  · rw [← hdataset] at hdeployed ⊢
    exact methodEnds_patch hdeployed

/-- What a processor of the configuration does with its inputs. -/
theorem methodEnds_executed (hconfig : buildConfig dataset = .ok config) {pid : String}
    {processor : Processor} (hlookup : config.lookup pid = some (.process processor))
    (inputs : Json) :
    MethodEnds gis deployed dataset.name
      (if pid = "upsert-batch" then batchCalls loads env inputs else []) db
      (executed db (processor.execute gis env deployed loads inputs db)) := by
  rcases processor_of_lookup hconfig hlookup with ⟨hpid, rfl⟩ | ⟨hpid, rfl | rfl⟩
  · rw [if_pos hpid]
    simp only [Processor.execute]
    cases hexecuted : executeUpsertBatch gis env deployed loads (providerDefs dataset) inputs db with
    | error e => rfl
    | ok x => exact executeUpsertBatch_calls hexecuted
  · rw [if_neg hpid]
    rfl
  · rfl

theorem endsAs_executeProcess (hpygeoapi : pygeoapi.PassesOn)
    (hconfig : buildConfig dataset = .ok config) (pid : String) (request : HttpRequest) :
    EndsAs gis deployed dataset.name
      (if pid = "upsert-batch" then (pygeoapi.inputs request).elim [] (batchCalls loads env) else [])
      db (executeProcess gis env deployed loads pygeoapi config pid request db) := by
  rw [executeProcess]
  rcases hpygeoapi.execute pid request (processors gis env deployed loads config) db with
    hdown | ⟨execute, inputs, hexecute, hinputs, hreports⟩
  · exact endsAs_turnsDown hdown
  · rw [processors] at hexecute
    split at hexecute
    · next processor hlookup =>
      cases hexecute
      rw [hinputs, Option.elim_some]
      exact endsAs_reports (methodEnds_executed hconfig hlookup inputs) hreports
    · cases hexecute

/-- **A request that is answered as done leaves the tables that its direct writes leave,
and every other request leaves the tables as they were.** -/
theorem handle_endsAs (hpygeoapi : pygeoapi.PassesOn) (hconfig : buildConfig dataset = .ok config)
    (hdeployed : deployed dataset.name = some plan) (hdb : Sourced plan db)
    (request : HttpRequest) :
    EndsAs gis deployed dataset.name (requestCalls loads env pygeoapi request) db
      (handle gis env deployed loads lower pygeoapi config request db) := by
  rw [handle, requestCalls]
  cases endpoint request.path with
  | none => exact .of_undone rfl rfl
  | some e =>
    rw [Option.elim_some]
    simp only
    by_cases hmethods : request.method ∈ e.methods
    · rw [if_pos hmethods]
      unfold handleEndpoint endpointCalls
      cases e with
      -- of the writing routes each method has its own handler; the others keep the tables
      | items cid =>
        cases hmethod : request.method with
        | post => exact endsAs_postItems hpygeoapi hconfig cid request
        | _ => exact .of_kept _
      | item cid iid =>
        cases hmethod : request.method with
        | put => exact endsAs_putItem hpygeoapi hconfig hdeployed cid iid request
        | patch => exact endsAs_patchItem hconfig hdeployed cid iid request
        | delete => exact endsAs_deleteItem hpygeoapi hconfig hdeployed hdb cid iid request
        | _ => exact .of_kept _
      | upsertItem cid =>
        obtain hmethod : request.method = .post := List.mem_singleton.mp hmethods
        rw [hmethod]
        exact endsAs_upsertItem hconfig cid request
      | execution pid =>
        obtain hmethod : request.method = .post := List.mem_singleton.mp hmethods
        rw [hmethod]
        exact endsAs_executeProcess hpygeoapi hconfig pid request
      | _ => exact .of_kept _
    · rw [if_neg hmethods]
      exact .of_undone rfl rfl

/-- No request stands for a transaction. -/
theorem not_transaction_of_requestCalls {request : HttpRequest} {call : Env × Call}
    (h : call ∈ requestCalls loads env pygeoapi request) (document : Option Json) :
    call.2 ≠ .transaction document := by
  have hbody : ∀ {body : String} {calls : Json → List (Env × Call)},
      (∀ doc, call ∈ calls doc → call.2 ≠ .transaction document) →
      call ∈ bodyCalls loads body calls → call.2 ≠ .transaction document := by
    intro body calls hcalls hmem
    unfold bodyCalls at hmem
    split at hmem
    · exact hcalls _ hmem
    · cases hmem
  have hrow : ∀ {identifier : String} {make : Option Uuid → Call},
      (∀ fid, make fid ≠ .transaction document) → call ∈ rowCalls env identifier make →
      call.2 ≠ .transaction document := by
    intro identifier make hmake hmem
    unfold rowCalls at hmem
    split at hmem
    · cases List.mem_singleton.mp hmem
      exact hmake _
    · cases hmem
  -- route by route, in the order of `endpointCalls`
  rw [requestCalls] at h
  cases hendpoint : endpoint request.path with
  | none =>
    rw [hendpoint] at h
    cases h
  | some e =>
    rw [hendpoint, Option.elim_some] at h
    unfold endpointCalls at h
    split at h
    · refine hbody (fun doc hmem => ?_) h
      cases List.mem_singleton.mp hmem
      exact Call.noConfusion
    · refine hbody (fun doc hmem => ?_) h
      cases List.mem_singleton.mp hmem
      exact Call.noConfusion
    · exact hbody (fun _ => hrow fun _ => Call.noConfusion) h
    · exact hbody (fun _ => hrow fun _ => Call.noConfusion) h
    · exact hrow (fun _ => Call.noConfusion) h
    · split at h
      · cases hinputs : pygeoapi.inputs request with
        | none =>
          rw [hinputs] at h
          cases h
        | some inputs =>
          rw [hinputs, Option.elim_some] at h
          unfold batchCalls at h
          split at h
          · split at h
            · obtain ⟨x, -, rfl⟩ := List.mem_map.mp h
              exact Call.noConfusion
            · cases h
          · cases h
      · cases h
    · cases h

/-! ### Requests one after another -/

/-- The writes of a request that is answered as done. -/
def doneCalls (loads : String → Option Json) (pygeoapi : Pygeoapi Geometry) (request : Env × HttpRequest)
    (answer : ApiAnswer) : List (Env × Call) :=
  if answer.isDone then requestCalls loads request.1 pygeoapi request.2 else []

/-- The app takes requests one after another. -/
def serveRequests (gis : PostGIS Geometry) (deployed : String → Option SchemaPlan)
    (loads : String → Option Json) (lower : String → String) (pygeoapi : Pygeoapi Geometry)
    (config : List (String × Resource)) (db : Db Geometry) (requests : List (Env × HttpRequest)) :
    List ApiAnswer × Db Geometry :=
  Traces.serve (fun db request =>
    handle gis request.1 deployed loads lower pygeoapi config request.2 db) db requests

end Handlers

/-- **Whatever requests the app of a dataset gets, the tables are in the end those that
the writes of the requests answered as done leave, called directly one after another**:
every other request leaves no trace.  Of pygeoapi this takes only that it calls what it is
given at most once and reports how that ended. -/
theorem serveRequests_eq_run (gis : PostGIS Geometry) (deployed : String → Option SchemaPlan)
    (loads : String → Option Json) (lower : String → String) (pygeoapi : Pygeoapi Geometry)
    (hpygeoapi : pygeoapi.PassesOn) {dataset : ResolvedDataset} {config : List (String × Resource)}
    (hconfig : buildConfig dataset = .ok config) {plan : SchemaPlan}
    (hdeployed : deployed dataset.name = some plan) {db : Db Geometry} (hdb : Sourced plan db)
    (requests : List (Env × HttpRequest)) :
    Runs.run (acceptedStep gis deployed dataset.name) db
        (Traces.standFor (doneCalls loads pygeoapi) requests
          (serveRequests gis deployed loads lower pygeoapi config db requests).1) =
      some (serveRequests gis deployed loads lower pygeoapi config db requests).2 := by
  refine Traces.run_serve (I := Sourced plan) (fun db request _ hdb => ?_) hdb
  have hends : EndsAs gis deployed dataset.name
      (requestCalls loads request.1 pygeoapi request.2) db
      (handle gis request.1 deployed loads lower pygeoapi config request.2 db) :=
    handle_endsAs hpygeoapi hconfig hdeployed hdb request.2
  rw [doneCalls]
  split
  · next hdone =>
    have hrun := hends.done hdone
    refine ⟨hrun, ?_⟩
    -- the calls are direct writes, and these keep the links sourced
    have halong : Runs.Along (acceptedStep gis deployed dataset.name)
        (fun _ _ db' => Sourced plan db') db (requestCalls loads request.1 pygeoapi request.2) :=
      Runs.along_of_invariant (I := Sourced plan) (fun db call hcall db' hdb hstep => by
        have hdb' := sourced_acceptedStep hdeployed
          (not_transaction_of_requestCalls hcall) hdb hstep
        exact ⟨hdb', hdb'⟩) hdb
    exact halong.invariant (I := Sourced plan) (fun _ _ _ _ h _ => h) hdb hrun
  · next hundone =>
    have hkept := hends.undone (Bool.not_eq_true _ ▸ hundone)
    rw [hkept]
    exact ⟨rfl, hdb⟩

namespace Sample

/-- A building, as text. -/
def buildingText (gate : String) : String :=
  "\x7b\"id\": \"" ++ Uuid.text 1 ++ "\", \"geometry\": \x7b\x7d, \"properties\": " ++
    "\x7b\"adresse\": \x7b\"gate\": \"" ++ gate ++ "\"\x7d\x7d\x7d"

/-- The inputs of a batch with one building, as text. -/
def batchText (gate : String) : String :=
  "\x7b\"inputs\": \x7b\"collection\": \"bygning\", \"features\": [" ++ buildingText gate ++
    "]\x7d\x7d"

/-- A decoder of these texts. -/
def loadsBuilding (text : String) : Option Json :=
  if text = buildingText "Storgata 1" then some (buildingAt "Storgata 1")
  else if text = batchText "Storgata 2" then
    some (.obj [("inputs", batchInputs "bygning" [buildingAt "Storgata 2"])])
  else none

/-- The status of what was called. -/
def reported {α : Type} (status : ℕ) : Except ApiError α × Db Unit → ℕ × Db Unit
  | (.ok _, db) => (status, db)
  | (.error (.itemNotFound _), db) => (404, db)
  | (.error _, db) => (400, db)

theorem reports_reported {α : Type} {status : ℕ} (hstatus : status < 300)
    (called : Except ApiError α × Db Unit) : Reports called (reported status called) := by
  obtain ⟨result, db⟩ := called
  cases result with
  | ok a => exact ⟨iff_of_true hstatus rfl, rfl⟩
  | error e =>
    have hnot : ¬ (Except.error e : Except ApiError α).isOk = true := Bool.false_ne_true
    have hbad : ¬ 400 < 300 := by decide
    have hmissing : ¬ 404 < 300 := by decide
    cases e with
    | itemNotFound message => exact ⟨iff_of_false hmissing hnot, rfl⟩
    | process e => exact ⟨iff_of_false hbad hnot, rfl⟩
    | keyError key => exact ⟨iff_of_false hbad hnot, rfl⟩

/-- A pygeoapi that wants a body, but for a delete. -/
def passing : Pygeoapi Unit where
  manageCollectionItem action request method db :=
    if action ≠ "delete" ∧ request.body = "" then (400, db)
    else reported (if action = "create" then 201 else if action = "update" then 204 else 200)
      (method request.body db)
  inputs request := (loadsBuilding request.body).bind (·.get? "inputs")
  executeProcess pid request processors db :=
    match processors pid, (loadsBuilding request.body).bind (·.get? "inputs") with
    | some execute, some inputs => reported 200 (execute inputs db)
    | none, _ => (404, db)
    | _, none => (400, db)

theorem passesOn_passing : passing.PassesOn where
  manage action request method db := by
    by_cases hempty : action ≠ "delete" ∧ request.body = ""
    · exact .inl ⟨by simp [passing, hempty], by simp [passing, hempty]⟩
    · refine .inr ?_
      have hpasses : passing.manageCollectionItem action request method db =
          reported (if action = "create" then 201 else if action = "update" then 204 else 200)
            (method request.body db) := if_neg hempty
      rw [hpasses]
      refine reports_reported ?_ _
      split_ifs <;> decide
  execute pid request processors db := by
    cases hprocessor : processors pid with
    | none =>
      refine .inl ?_
      have hmissing : passing.executeProcess pid request processors db = (404, db) := by
        simp [passing, hprocessor]
      exact ⟨by simp [hmissing], by rw [hmissing]⟩
    | some execute =>
      cases hinputs : (loadsBuilding request.body).bind (·.get? "inputs") with
      | none =>
        refine .inl ?_
        have hbad : passing.executeProcess pid request processors db = (400, db) := by
          simp [passing, hprocessor, hinputs]
        exact ⟨by simp [hbad], by rw [hbad]⟩
      | some inputs =>
        refine .inr ⟨execute, inputs, rfl, hinputs, ?_⟩
        have hexecuted : passing.executeProcess pid request processors db =
            reported 200 (execute inputs db) := by simp [passing, hprocessor, hinputs]
        rw [hexecuted]
        exact reports_reported (by decide) _

/-- The register with a topology of parcels, a collection that has the name of a process,
and two processes. -/
def service : ResolvedDataset where
  name := "matrikkel"
  processes := ["hello", "upsert-batch"]
  collections := [
    { bygning with upsertField := some "adresse" },
    { name := "teig", featureModel := .topology, geometryType := .polygon, srid := 4326
      fields := [], relationships := [], upsertField := some "nummer" },
    { name := "hello", featureModel := .simple, geometryType := .point, srid := 4326
      fields := [], relationships := [] }]

def serviceConfig : List (String × Resource) :=
  [("bygning", .collection true ⟨"matrikkel", "bygning", some "adresse"⟩),
    ("teig", .collection false ⟨"matrikkel", "teig", some "nummer"⟩),
    ("hello", .process .placeholder),
    ("upsert-batch", .process (.upsertBatch (providerDefs service)))]

theorem buildConfig_service : buildConfig service = .ok serviceConfig := rfl

def servicePlan : SchemaPlan where
  schemaName := "matrikkel"
  collections := [
    { collectionName := "bygning", featureModel := .simple
      columns := [{ name := "adresse", sqlType := "jsonb", nullable := false
                    nestedFields := [.mk "gate" "text" false false [] []] }]
      geometry := ⟨"Point", 4326, false, false⟩
      supportsUpsert := true },
    { collectionName := "teig", featureModel := .topology
      geometry := ⟨"Polygon", 4326, false, false⟩ },
    { collectionName := "hello", featureModel := .simple
      geometry := ⟨"Point", 4326, false, false⟩ }]
  names_nodup := by decide
  roles_nodup := by decide
  targets_known := by decide
  derived_declared := by
    intro coll hcoll derived h
    simp only [List.mem_cons, List.not_mem_nil, or_false] at hcoll
    rcases hcoll with rfl | rfl | rfl <;> cases h
  members_not_derived := by
    intro coll hcoll derived h
    simp only [List.mem_cons, List.not_mem_nil, or_false] at hcoll
    rcases hcoll with rfl | rfl | rfl <;> cases h

theorem deployed_service :
    (fun _ : String => some servicePlan) service.name = some servicePlan := rfl

/-- A building is created, not replaced under another id, not taken as JSON, not patched
where a process has the name, replaced in a batch, and deleted; a parcel is not created. -/
def requests : List (Env × HttpRequest) :=
  [(env, { method := .post, path := ["collections", "bygning", "items"]
           contentType := "application/geo+json", body := buildingText "Storgata 1" }),
    (env, { method := .put, path := ["collections", "bygning", "items", Uuid.text 2]
            body := buildingText "Storgata 1" }),
    (env, { method := .put, path := ["collections", "bygning", "items", Uuid.text 1] }),
    (env, { method := .post, path := ["collections", "bygning", "items"]
            contentType := "application/json", body := buildingText "Storgata 1" }),
    (env, { method := .patch, path := ["collections", "hello", "items", Uuid.text 1]
            body := buildingText "Storgata 1" }),
    (env, { method := .post, path := ["collections", "teig", "items"]
            contentType := "application/geo+json", body := buildingText "Storgata 1" }),
    (env, { method := .post, path := ["processes", "upsert-batch", "execution"]
            body := batchText "Storgata 2" }),
    (env, { method := .post, path := ["processes", "upsert-batch", "execution"]
            body := buildingText "Storgata 1" }),
    (env, { method := .delete, path := ["collections", "bygning", "items", Uuid.text 1] })]

end Sample

open Sample in
theorem serveRequests_eq_run_sample :
    (serveRequests gis (fun _ => some servicePlan) loadsBuilding id passing serviceConfig Db.empty
      requests).1.map ApiAnswer.isDone =
        [true, false, false, false, false, false, true, false, true] ∧
    Runs.run (acceptedStep gis (fun _ => some servicePlan) "matrikkel") Db.empty
        (Traces.standFor (doneCalls loadsBuilding passing) requests
          (serveRequests gis (fun _ => some servicePlan) loadsBuilding id passing serviceConfig
            Db.empty requests).1) =
      some (serveRequests gis (fun _ => some servicePlan) loadsBuilding id passing serviceConfig
        Db.empty requests).2 :=
  ⟨by decide +kernel, serveRequests_eq_run gis (fun _ => some servicePlan) loadsBuilding id
    passing passesOn_passing buildConfig_service deployed_service sourced_empty requests⟩

end Geocomponents
