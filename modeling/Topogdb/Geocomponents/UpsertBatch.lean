/-
Upserting a batch (`geocomponents/processes/upsert_batch.py`,
`DbFunctionProvider.upsert_many`).

One autocommitted statement calls `ogc.feature_upsert` for the features in
order; each call sees the rows of those before it.

* `upsertStatement_spec` — one identifier a feature, each with a row;
* `upsertStatement_error` — a call that fails ends the statement;
* `executeUpsertBatch_eq_ok` — a batch that is answered was upserted.
-/
import Topogdb.Lib.Python
import Topogdb.Lib.Raises
import Topogdb.Geocomponents.Dispatch
import Topogdb.Geocomponents.Description

namespace Geocomponents

open Prog Python

/-- What the process raises. -/
inductive ProcessError where
  | execute (message : String)
  | query (message : String)
  | validation (message : String)
  | json
  | database (e : SqlError)

/-- What a provider is configured with, as far as a batch is concerned. -/
structure ProviderDef where
  dataset : String
  collection : String
  upsertField : Option String

/-- The `provider_defs` of `_process_resource`. -/
def providerDefs (dataset : ResolvedDataset) : List (String × ProviderDef) :=
  dictOf ((dataset.collections.filter (·.supportsUpsert)).map fun coll =>
    (coll.name, { dataset := dataset.name, collection := coll.name, upsertField := coll.upsertField }))

section Code

variable {Geometry : Type} (gis : PostGIS Geometry) (env : Env)
  (deployed : String → Option SchemaPlan) (loads : String → Option Json)

/-- `ogc.feature_upsert(dataset, collection, feature)`, as the n-th call of a statement. -/
def upsertCall (n : ℕ) (dataset collection : String) (feature : Json) (db : Db Geometry) :
    Except SqlError (Uuid × Db Geometry) :=
  writeDispatch deployed dataset "upsert"
    (fun coll => if coll.supportsUpsert then some (upsert gis env n coll (some feature)) else none)
    collection db

/-- `select ogc.feature_upsert(…) from jsonb_array_elements(…)`, from the n-th call on. -/
def upsertStatement (dataset collection : String) :
    ℕ → List Json → Db Geometry → Except SqlError (List Uuid × Db Geometry)
  | _, [], db => .ok ([], db)
  | n, feature :: features, db => do
    let (id, db) ← upsertCall gis env deployed n dataset collection feature db
    let (ids, db) ← upsertStatement dataset collection (n + 1) features db
    pure (id :: ids, db)

/-- `orjson.loads`. -/
def orjsonLoads (s : String) : Except ProcessError Json :=
  match loads s with
  | some item => .ok item
  | none => .error .json

/-- `_as_feature_dict`. -/
def asFeatureDict : Json → Except ProcessError Json
  | .str s => orjsonLoads loads s
  | item => .ok item

/-- `_as_feature_list`. -/
def asFeatureList (items : Json) : Except ProcessError (List Json) := do
  match ← asFeatureDict loads items with
  | .arr items => items.mapM (asFeatureDict loads)
  | _ => .error (.query "request body must be a JSON array of features")

/-- `_rethrow_pg_raise`. -/
def rethrowPgRaise (e : SqlError) : ProcessError :=
  if e.sqlstate = "P0001" then .validation e.message else .database e

/-- `DbFunctionProvider.upsert_many`. -/
def upsertMany (provider : ProviderDef) (items : Json) (db : Db Geometry) :
    Except ProcessError (List Uuid × Db Geometry) :=
  if provider.upsertField.isNone then .error (.query "collection has no configured upsert key")
  else do
    let features ← asFeatureList loads items
    if features = [] then pure ([], db)
    else
      (upsertStatement gis env deployed provider.dataset provider.collection 0 features db).mapError
        rethrowPgRaise

/-- `UpsertBatchProcessor.execute`. -/
def executeUpsertBatch (defs : List (String × ProviderDef)) (data : Json) (db : Db Geometry) :
    Except ProcessError (Json × Db Geometry) :=
  match data.get? "collection" with
  | some (.str collection) =>
    if collection = "" then .error (.execute "input 'collection' must be a non-empty string")
    else
      match defs.lookup collection with
      | none => .error (.execute s!"collection '{collection}' is not enabled for batch upsert")
      | some provider =>
        match data.get? "features" with
        | some (.arr (feature :: features)) => do
          let (identifiers, db) ←
            upsertMany gis env deployed loads provider (.arr (feature :: features)) db
          pure (.obj
            [("collection", .str collection), ("total", .num identifiers.length),
              ("features", .arr (identifiers.map fun id => .obj [("id", .str (Uuid.text id))]))], db)
        | _ => .error (.execute "input 'features' must be a non-empty array")
  | _ => .error (.execute "input 'collection' must be a non-empty string")

end Code

section Spec

variable {Geometry : Type} {gis : PostGIS Geometry} {env : Env}
  {deployed : String → Option SchemaPlan} {loads : String → Option Json}
  {dataset collection : String} {db db' : Db Geometry}

/-! ### The statement -/

/-- A dispatch that goes through ran the function of the collection. -/
theorem writeDispatch_eq_ok {α : Type} {operation : String}
    {function : CollectionPlan → Option (SqlProg Geometry SqlError α)} {a : α}
    (h : writeDispatch deployed dataset operation function collection db = .ok (a, db')) :
    ∃ coll body, coll.collectionName = collection ∧ function coll = some body ∧
      run body db = .ok (a, db') := by
  rw [writeDispatch] at h
  split at h
  · cases h
  · obtain ⟨-, -, h⟩ := Except.bind_eq_ok.mp h
    split at h
    · cases h
    · next body hbody =>
      obtain ⟨coll, hcoll, hfunction⟩ := Option.bind_eq_some_iff.mp hbody
      exact ⟨coll, body, (SchemaPlan.mem_of_collection? hcoll).2, hfunction, h⟩

/-- A call stores the row that it names, and no row goes. -/
theorem upsertCall_spec {n : ℕ} {feature : Json} {id : Uuid}
    (h : upsertCall gis env deployed n dataset collection feature db = .ok (id, db')) :
    (db'.row? ⟨collection, id⟩).isSome ∧ ∀ r, (db.row? r).isSome → (db'.row? r).isSome := by
  obtain ⟨coll, body, rfl, hbody, hrun⟩ := writeDispatch_eq_ok h
  split at hbody
  · cases hbody
    obtain ⟨hothers, hpresent, -⟩ := ends_upsert gis env n (some feature) db id db' hrun
    refine ⟨hpresent, fun r hr => ?_⟩
    by_cases href : r = ⟨coll.collectionName, id⟩
    · rw [href]
      exact hpresent
    · rwa [hothers r href]
  · cases hbody

/-- **A statement names a row for each feature**, and all of them are stored. -/
theorem upsertStatement_spec {n : ℕ} {features : List Json} {ids : List Uuid}
    (h : upsertStatement gis env deployed dataset collection n features db = .ok (ids, db')) :
    ids.length = features.length ∧ (∀ id ∈ ids, (db'.row? ⟨collection, id⟩).isSome) ∧
      ∀ r, (db.row? r).isSome → (db'.row? r).isSome := by
  induction features generalizing n db ids with
  | nil =>
    cases h
    exact ⟨rfl, fun _ hid => absurd hid List.not_mem_nil, fun _ hr => hr⟩
  | cons feature features ih =>
    obtain ⟨⟨id, db₁⟩, hcall, h⟩ := Except.bind_eq_ok.mp h
    obtain ⟨⟨rest, db₂⟩, hrest, h⟩ := Except.bind_eq_ok.mp h
    cases h
    obtain ⟨hpresent, hkept⟩ := upsertCall_spec hcall
    obtain ⟨hlen, hrows, hkept'⟩ := ih hrest
    refine ⟨by rw [List.length_cons, hlen, List.length_cons], fun x hx => ?_,
      fun r hr => hkept' r (hkept r hr)⟩
    rcases List.mem_cons.mp hx with rfl | hx
    · exact hkept' _ hpresent
    · exact hrows x hx

/-- A call that fails ends the statement. -/
theorem upsertStatement_error {n : ℕ} {before : List Json} {feature : Json} (after : List Json)
    {ids : List Uuid} {e : SqlError}
    (hbefore : upsertStatement gis env deployed dataset collection n before db = .ok (ids, db'))
    (hcall : upsertCall gis env deployed (n + before.length) dataset collection feature db'
      = .error e) :
    upsertStatement gis env deployed dataset collection n (before ++ feature :: after) db
      = .error e := by
  induction before generalizing n db ids with
  | nil =>
    cases hbefore
    rw [List.nil_append, upsertStatement]
    rw [List.length_nil, Nat.add_zero] at hcall
    rw [hcall]
    rfl
  | cons x before ih =>
    obtain ⟨⟨id, db₁⟩, hx, hbefore⟩ := Except.bind_eq_ok.mp hbefore
    obtain ⟨⟨rest, db₂⟩, hrest, hbefore⟩ := Except.bind_eq_ok.mp hbefore
    cases hbefore
    rw [List.length_cons, show n + (before.length + 1) = n + 1 + before.length by omega] at hcall
    rw [List.cons_append, upsertStatement, hx]
    show (upsertStatement gis env deployed dataset collection (n + 1)
      (before ++ feature :: after) db₁ >>= _) = Except.error e
    rw [ih hrest hcall]
    rfl

/-! ### The process -/

/-- Objects are taken as they are. -/
theorem asFeatureList_objects {features : List Json}
    (h : ∀ f ∈ features, ∃ members, f = .obj members) :
    asFeatureList loads (.arr features) = .ok features := by
  show features.mapM (asFeatureDict loads) = .ok features
  rw [Except.mapM_eq_ok_iff, List.forall₂_same]
  intro f hf
  obtain ⟨members, rfl⟩ := h f hf
  rfl

theorem upsertMany_objects {provider : ProviderDef} {features : List Json}
    (h : ∀ f ∈ features, ∃ members, f = .obj members) (hne : features ≠ [])
    {x : List Uuid × Db Geometry} :
    upsertMany gis env deployed loads provider (.arr features) db = .ok x ↔
      provider.upsertField.isSome ∧
        upsertStatement gis env deployed provider.dataset provider.collection 0 features db =
          .ok x := by
  rw [upsertMany]
  cases provider.upsertField with
  | none => simp
  | some field =>
    rw [asFeatureList_objects h, Except.ok_bind, if_neg hne]
    cases upsertStatement gis env deployed provider.dataset provider.collection 0 features db with
    | ok y => simp [Except.mapError]
    | error e => simp [Except.mapError]

/-- The inputs of a process. -/
def batchInputs (collection : String) (features : List Json) : Json :=
  .obj [("collection", .str collection), ("features", .arr features)]

/-- What the process answers. -/
def batchOutputs (collection : String) (ids : List Uuid) : Json :=
  .obj
    [("collection", .str collection), ("total", .num ids.length),
      ("features", .arr (ids.map fun id => .obj [("id", .str (Uuid.text id))]))]

/-- The provider of a collection is that of the collection. -/
theorem collection_of_providerDefs {resolved : ResolvedDataset} {provider : ProviderDef}
    (h : (providerDefs resolved).lookup collection = some provider) :
    provider.dataset = resolved.name ∧ provider.collection = collection := by
  obtain ⟨coll, -, hcoll⟩ := List.mem_map.mp (mem_dictOf (mem_of_lookup h))
  obtain ⟨rfl, rfl⟩ := Prod.mk.inj hcoll
  exact ⟨rfl, rfl⟩

/-- **A batch that is answered was upserted** by one statement, and the answer names
what its calls named. -/
theorem executeUpsertBatch_eq_ok {resolved : ResolvedDataset} {features : List Json}
    (h : ∀ f ∈ features, ∃ members, f = .obj members) (hne : features ≠ []) {outputs : Json}
    (hok : executeUpsertBatch gis env deployed loads (providerDefs resolved)
      (batchInputs collection features) db = .ok (outputs, db')) :
    ∃ ids, upsertStatement gis env deployed resolved.name collection 0 features db = .ok (ids, db') ∧
      outputs = batchOutputs collection ids := by
  obtain ⟨feature, rest, rfl⟩ := List.exists_cons_of_ne_nil hne
  have hcollection : (batchInputs collection (feature :: rest)).get? "collection" =
      some (.str collection) := rfl
  have hfeatures : (batchInputs collection (feature :: rest)).get? "features" =
      some (.arr (feature :: rest)) := rfl
  rw [executeUpsertBatch, hcollection] at hok
  simp only [hfeatures] at hok
  split_ifs at hok
  split at hok
  · cases hok
  · next provider hprovider =>
    obtain ⟨hdataset, hname⟩ := collection_of_providerDefs hprovider
    obtain ⟨⟨ids, db₁⟩, hmany, hok⟩ := Except.bind_eq_ok.mp hok
    cases hok
    obtain ⟨-, hstatement⟩ := (upsertMany_objects h hne).mp hmany
    rw [hdataset, hname] at hstatement
    exact ⟨ids, hstatement, rfl⟩

end Spec

end Geocomponents
