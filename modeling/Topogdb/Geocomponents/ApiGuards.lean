/-
What the API of a dataset lets through, against what the database takes.

* `lookup_process`, `lookup_collection`, `lookup_unknown` — the resource under a name: a
  process takes the name of a collection from it;
* `editable_eq`, `upsertable_eq` — what the guards make of a name;
* `notEditable_iff` — 405 is the answer exactly where the database takes no direct
  write, but for names of processes and for upserts.
-/
import Topogdb.Geocomponents.ApiWrites

namespace Geocomponents

open Prog Python

variable {Geometry : Type}

/-! ### Resources -/

section Resources

variable {dataset : ResolvedDataset} {config : List (String × Resource)} {built : BuiltSchema}
  {plan : SchemaPlan}

/-- What the plan of a collection keeps of it. -/
structure PlansCollection (rc : ResolvedCollection) (coll : CollectionPlan) : Prop where
  name : coll.collectionName = rc.name
  model : coll.featureModel = rc.featureModel
  upsert : coll.supportsUpsert = rc.supportsUpsert

theorem plansCollection_of_buildSchemaPlan (hbuilt : buildSchemaPlan dataset = .ok built)
    (hplan : plan.collections = built.collections.map (·.plan)) :
    List.Forall₂ PlansCollection dataset.collections plan.collections := by
  rw [buildSchemaPlan] at hbuilt
  obtain ⟨bs, hbs, hbuilt⟩ := Except.bind_eq_ok.mp hbuilt
  cases hbuilt
  rw [hplan, List.forall₂_map_right_iff]
  refine (Except.forall₂_of_mapM hbs).imp fun rc b hb => ?_
  rw [buildCollection] at hb
  obtain ⟨columns, -, hb⟩ := Except.bind_eq_ok.mp hb
  obtain ⟨roles, -, hb⟩ := Except.bind_eq_ok.mp hb
  cases hb
  exact ⟨rfl, rfl, rfl⟩

/-- The names of the collections are the names of their plans. -/
theorem names_of_plansCollection
    (h : List.Forall₂ PlansCollection dataset.collections plan.collections) :
    dataset.collections.map (·.name) = plan.collections.map (·.collectionName) :=
  h.map_eq fun _ _ hrc => hrc.name.symm

/-- The two parts of the configuration. -/
theorem lookup_buildConfig (hconfig : buildConfig dataset = .ok config) (name : String) :
    ∃ processes : List (String × Resource), processes.map Prod.fst = dataset.processes ∧
      (∀ e ∈ processes, ∃ processor, e.2 = .process processor) ∧
      config.lookup name = ((dictOf processes).lookup name).or
        ((dictOf (dataset.collections.map fun coll =>
          (coll.name, collectionResource dataset.name coll))).lookup name) := by
  obtain ⟨processes, hprocesses, hconfig⟩ := Except.bind_eq_ok.mp hconfig
  cases hconfig
  have hforall := Except.forall₂_of_mapM hprocesses
  refine ⟨processes, ?_, fun e he => ?_, lookup_dictOf_append _ _ name⟩
  · have hkeys := hforall.map_eq (f := id) (g := Prod.fst) fun processId e he => by
      obtain ⟨resource, -, he⟩ := Except.bind_eq_ok.mp he
      cases he
      rfl
    rw [← hkeys, List.map_id]
  · obtain ⟨processId, -, he⟩ := hforall.exists_of_mem_right he
    obtain ⟨resource, hresource, he⟩ := Except.bind_eq_ok.mp he
    cases he
    unfold processResource at hresource
    split at hresource
    · cases hresource
      exact ⟨_, rfl⟩
    · cases hresource
      exact ⟨_, rfl⟩
    · cases hresource
      exact ⟨_, rfl⟩
    · cases hresource

/-- A declared process has its name to itself. -/
theorem lookup_process (hconfig : buildConfig dataset = .ok config) {name : String}
    (hname : name ∈ dataset.processes) :
    ∃ processor, config.lookup name = some (.process processor) := by
  obtain ⟨processes, hkeys, hprocess, hlookup⟩ := lookup_buildConfig hconfig name
  obtain ⟨resource, hresource⟩ := Option.isSome_iff_exists.mp
    ((lookup_dictOf_isSome processes name).mpr (hkeys ▸ hname))
  obtain ⟨processor, rfl⟩ := hprocess _ (mem_dictOf (mem_of_lookup hresource))
  exact ⟨processor, by rw [hlookup, hresource, Option.some_or]⟩

theorem lookup_of_not_process (hconfig : buildConfig dataset = .ok config) {name : String}
    (hname : name ∉ dataset.processes) :
    config.lookup name = (dictOf (dataset.collections.map fun coll =>
      (coll.name, collectionResource dataset.name coll))).lookup name := by
  obtain ⟨processes, hkeys, -, hlookup⟩ := lookup_buildConfig hconfig name
  have hnone : (dictOf processes).lookup name = none := by
    rw [← Option.not_isSome_iff_eq_none, lookup_dictOf_isSome, hkeys]
    exact hname
  rw [hlookup, hnone, Option.none_or]

/-- Another collection is found by its name. -/
theorem lookup_collection (hconfig : buildConfig dataset = .ok config)
    (hnodup : (dataset.collections.map (·.name)).Nodup) {rc : ResolvedCollection}
    (hrc : rc ∈ dataset.collections) (hname : rc.name ∉ dataset.processes) :
    config.lookup rc.name = some (collectionResource dataset.name rc) := by
  rw [lookup_of_not_process hconfig hname]
  refine lookup_dictOf_of_unique (List.mem_map.mpr ⟨rc, hrc, rfl⟩) fun resource hmem => ?_
  obtain ⟨rc', hrc', heq⟩ := List.mem_map.mp hmem
  obtain ⟨hsame, rfl⟩ := Prod.mk.inj heq
  rw [List.inj_on_of_nodup_map hnodup hrc' hrc hsame]

theorem lookup_unknown (hconfig : buildConfig dataset = .ok config) {name : String}
    (hname : name ∉ dataset.processes) (hunknown : ∀ rc ∈ dataset.collections, rc.name ≠ name) :
    config.lookup name = none := by
  rw [lookup_of_not_process hconfig hname, ← Option.not_isSome_iff_eq_none, lookup_dictOf_isSome,
    List.map_map]
  intro hmem
  obtain ⟨rc, hrc, heq⟩ := List.mem_map.mp hmem
  exact hunknown rc hrc heq

/-! ### Guards -/

/-- A guard does not get past a process. -/
theorem guardResource_process (hconfig : buildConfig dataset = .ok config) {cid : String}
    (hcid : cid ∈ dataset.processes) (passes : Bool → ProviderDef → Bool) :
    guardResource config cid passes = .error (.keyError "providers") := by
  obtain ⟨processor, hlookup⟩ := lookup_process hconfig hcid
  rw [guardResource, hlookup]

/-- The provider that a guard finds for a name. -/
theorem guardResource_collection (hconfig : buildConfig dataset = .ok config)
    (hplans : List.Forall₂ PlansCollection dataset.collections plan.collections) {cid : String}
    (hcid : cid ∉ dataset.processes) (passes : Bool → ProviderDef → Bool) :
    guardResource config cid passes = .ok none ∧
        (∀ rc ∈ dataset.collections, rc.name = cid →
          passes rc.supportsCrud ⟨dataset.name, cid, rc.upsertField⟩ = false) ∨
      ∃ rc ∈ dataset.collections, rc.name = cid ∧
        passes rc.supportsCrud ⟨dataset.name, cid, rc.upsertField⟩ = true ∧
        guardResource config cid passes = .ok (some ⟨dataset.name, cid, rc.upsertField⟩) := by
  have hnodup : (dataset.collections.map (·.name)).Nodup := by
    rw [names_of_plansCollection hplans]
    exact plan.names_nodup
  by_cases hknown : ∃ rc ∈ dataset.collections, rc.name = cid
  · obtain ⟨rc, hrc, rfl⟩ := hknown
    have hlookup := lookup_collection hconfig hnodup hrc hcid
    rw [guardResource, hlookup, collectionResource]
    simp only
    cases hpasses : passes rc.supportsCrud ⟨dataset.name, rc.name, rc.upsertField⟩ with
    | true => exact .inr ⟨rc, hrc, rfl, hpasses, rfl⟩
    | false =>
      refine .inl ⟨rfl, fun rc' hrc' hname => ?_⟩
      rw [List.inj_on_of_nodup_map hnodup hrc' hrc hname]
      exact hpasses
  · have hunknown : ∀ rc ∈ dataset.collections, rc.name ≠ cid :=
      fun rc hrc hname => hknown ⟨rc, hrc, hname⟩
    rw [guardResource, lookup_unknown hconfig hcid hunknown]
    exact .inl ⟨rfl, fun rc hrc hname => absurd hname (hunknown rc hrc)⟩

/-- The database takes direct writes to the collections that support them. -/
theorem directCollection_eq_none_iff
    (hplans : List.Forall₂ PlansCollection dataset.collections plan.collections) {cid : String} :
    directCollection plan cid = none ↔
      ∀ rc ∈ dataset.collections, rc.name = cid → rc.supportsCrud = false := by
  constructor
  · rintro hnone rc hrc rfl
    obtain ⟨coll, hcoll, hplansCollection⟩ := hplans.exists_of_mem_left hrc
    have hnot : ¬ coll.featureModel ≠ .topology := by
      intro hmodel
      have hdirect := directCollection_eq hcoll hmodel
      rw [hplansCollection.name, hnone] at hdirect
      cases hdirect
    rw [ResolvedCollection.supportsCrud, ← hplansCollection.model, not_not.mp hnot]
    rfl
  · intro hnone
    refine Option.eq_none_iff_forall_ne_some.mpr fun coll hdirect => ?_
    obtain ⟨hcoll, hname, hmodel⟩ := mem_of_directCollection hdirect
    obtain ⟨rc, hrc, hplansCollection⟩ := hplans.exists_of_mem_right hcoll
    have hfalse := hnone rc hrc (hplansCollection.name.symm.trans hname)
    rw [ResolvedCollection.supportsCrud, ← hplansCollection.model] at hfalse
    cases hfeature : coll.featureModel with
    | topology => exact hmodel hfeature
    | simple =>
      rw [hfeature] at hfalse
      cases hfalse

end Resources

/-! ### What the database refuses -/

/-- Every direct write to the collection is refused before its function runs. -/
def RefusesDirectWrites (Geometry : Type) (deployed : String → Option SchemaPlan)
    (dataset cid : String) : Prop :=
  ∀ (operation : String) (function : CollectionPlan → Option (SqlProg Geometry SqlError Bool))
    (db : Db Geometry), ∃ e, writeDispatch deployed dataset operation function cid db = .error e

section Refused

variable {deployed : String → Option SchemaPlan} {dataset : String} {plan : SchemaPlan}
  {cid : String}

theorem refusesDirectWrites_iff (hdeployed : deployed dataset = some plan) :
    RefusesDirectWrites Geometry deployed dataset cid ↔ directCollection plan cid = none := by
  constructor
  · intro hrefuses
    refine Option.eq_none_iff_forall_ne_some.mpr fun coll hcoll => ?_
    obtain ⟨e, he⟩ := hrefuses "create" (fun _ => some (Pure.pure true)) Db.empty
    have hok : succeeded id (writeDispatch deployed dataset "create"
        (fun _ => some (Pure.pure true : SqlProg Geometry SqlError Bool)) cid Db.empty) =
          some Db.empty :=
      (succeeded_writeDispatch_iff hdeployed).mpr ⟨coll, hcoll, _, rfl, true, rfl, rfl⟩
    rw [he] at hok
    cases hok
  · intro hnone operation function db
    cases hrun : writeDispatch deployed dataset operation function cid db with
    | error e => exact ⟨e, rfl⟩
    | ok x =>
      have hok : succeeded (fun _ => true)
          (writeDispatch deployed dataset operation function cid db) = some x.2 := by
        rw [hrun]
        rfl
      obtain ⟨coll, hcoll, -⟩ := (succeeded_writeDispatch_iff hdeployed).mp hok
      rw [hnone] at hcoll
      cases hcoll

/-- Then no upsert goes through either. -/
theorem featureUpsert_refused {gis : PostGIS Geometry} {env : Env}
    (hdeployed : deployed dataset = some plan) (hnone : directCollection plan cid = none)
    (feature : Option Json) (db : Db Geometry) :
    ∃ e, featureUpsert gis env deployed dataset cid feature db = .error e := by
  cases hrun : featureUpsert gis env deployed dataset cid feature db with
  | error e => exact ⟨e, rfl⟩
  | ok x =>
    have hok : succeeded (fun _ => true)
        (featureUpsert gis env deployed dataset cid feature db) = some x.2 := by
      rw [hrun]
      rfl
    obtain ⟨coll, hcoll, -⟩ := (succeeded_writeDispatch_iff hdeployed).mp hok
    rw [hnone] at hcoll
    cases hcoll

end Refused

/-! ### Requests behind a guard -/

/-- A create, a replace, a patch or a delete in a collection. -/
inductive WritesTo (lower : String → String) (cid : String) (request : HttpRequest) : Prop
  | create (path : endpoint request.path = some (.items cid)) (method : request.method = .post)
      (geoJson : isGeoJson lower request = true)
  | row (iid : String) (path : endpoint request.path = some (.item cid iid))
      (method : request.method ∈ [.put, .patch, .delete])

/-- An upsert in a collection. -/
structure UpsertsTo (lower : String → String) (cid : String) (request : HttpRequest) : Prop where
  path : endpoint request.path = some (.upsertItem cid)
  method : request.method = .post
  geoJson : isGeoJson lower request = true

/-- The methods of a collection or of a row of it are asked for; `verbs` are those that
only some collections have. -/
inductive AsksFor (cid : String) (request : HttpRequest) : String → Prop
  | items (path : endpoint request.path = some (.items cid)) (method : request.method = .options) :
      AsksFor cid request ", POST"
  | item (iid : String) (path : endpoint request.path = some (.item cid iid))
      (method : request.method = .options) : AsksFor cid request ", PUT, PATCH, DELETE"

section Answers

variable {gis : PostGIS Geometry} {env : Env} {deployed : String → Option SchemaPlan}
  {loads : String → Option Json} {lower : String → String} {pygeoapi : Pygeoapi Geometry}
  {config : List (String × Resource)} {db : Db Geometry} {cid : String} {request : HttpRequest}

theorem ended_ne {α : Type} {done : α → ApiAnswer} {undone : ApiError → ApiAnswer}
    {answer : ApiAnswer} (hdone : ∀ a, done a ≠ answer) (hundone : ∀ e, undone e ≠ answer)
    (result : Except ApiError α × Db Geometry) : (ended done undone result).1 ≠ answer := by
  obtain ⟨result, db'⟩ := result
  cases result with
  | ok a => exact hdone a
  | error e => exact hundone e

/-- What pygeoapi answers is no answer of the app itself. -/
theorem passed_ne_notEditable (answer : ℕ × Db Geometry) :
    (passed answer).1 ≠ .response notEditable := ApiAnswer.noConfusion

theorem patched_ne_notEditable (iid : String) (result : Except ApiError Unit × Db Geometry) :
    (ended (fun _ => .response { status := 204 }) (unpatched iid) result).1 ≠
      .response notEditable := by
  refine ended_ne (fun _ h => by cases h) (fun e => ?_) result
  cases e with
  | itemNotFound message =>
    intro h
    cases h
  | process e => exact ApiAnswer.noConfusion
  | keyError key => exact ApiAnswer.noConfusion

theorem upserted_ne_notEditable (result : Except ApiError Uuid × Db Geometry) :
    (ended upserted .raised result).1 ≠ .response notEditable :=
  ended_ne (fun _ h => by cases h) (fun _ => ApiAnswer.noConfusion) result

theorem guarded_eq_notEditable_iff {guard : Except ApiError (Option ProviderDef)}
    {handler : ProviderDef → Db Geometry → ApiAnswer × Db Geometry}
    (hhandler : ∀ provider, (handler provider db).1 ≠ .response notEditable) :
    (guarded guard handler db).1 = .response notEditable ↔ guard = .ok none := by
  cases guard with
  | error e => exact iff_of_false ApiAnswer.noConfusion (fun h => by cases h)
  | ok passed =>
    cases passed with
    | none => exact iff_of_true rfl rfl
    | some provider => exact iff_of_false (hhandler provider) (fun h => by cases h)

/-- A request that writes is answered behind the guard of its collection. -/
theorem handle_writesTo (h : WritesTo lower cid request) (db : Db Geometry) :
    ∃ handler : ProviderDef → Db Geometry → ApiAnswer × Db Geometry,
      (∀ provider db, (handler provider db).1 ≠ .response notEditable) ∧
      handle gis env deployed loads lower pygeoapi config request db =
        guarded (editable config cid) handler db := by
  cases h with
  | create path method geoJson =>
    refine ⟨fun provider db => passed (pygeoapi.manageCollectionItem "create" request
      (provider.create gis env deployed loads) db), fun _ _ => passed_ne_notEditable _, ?_⟩
    rw [handle, path]
    simp only [method, Endpoint.methods, List.mem_cons, reduceCtorEq, true_or, or_true, if_true,
      handleEndpoint]
    rw [postItems, if_neg (by rw [geoJson]; exact Bool.noConfusion)]
  | row iid path method =>
    have hhandle : handle gis env deployed loads lower pygeoapi config request db =
        handleEndpoint gis env deployed loads lower pygeoapi config (.item cid iid) request db := by
      rw [handle, path]
      simp only
      rw [if_pos]
      simp only [List.mem_cons, List.not_mem_nil, or_false] at method
      simp only [Endpoint.methods, List.mem_cons, List.not_mem_nil, or_false]
      tauto
    rw [hhandle]
    simp only [List.mem_cons, List.not_mem_nil, or_false] at method
    rcases method with method | method | method
    · refine ⟨fun provider db => passed (pygeoapi.manageCollectionItem "update" request
        (provider.update gis env deployed loads iid) db), fun _ _ => passed_ne_notEditable _, ?_⟩
      simp only [handleEndpoint, method]
      rw [putItem]
    · refine ⟨fun provider db => ended (fun _ => .response { status := 204 }) (unpatched iid)
        (provider.patch gis env deployed loads iid request.body db),
        fun _ _ => patched_ne_notEditable iid _, ?_⟩
      simp only [handleEndpoint, method]
      rw [patchItem]
    · refine ⟨fun provider db => passed (pygeoapi.manageCollectionItem "delete" request
        (fun _ => provider.delete deployed iid) db), fun _ _ => passed_ne_notEditable _, ?_⟩
      simp only [handleEndpoint, method]
      rw [deleteItem]

/-- An upsert is answered behind its own guard. -/
theorem handle_upsertsTo (h : UpsertsTo lower cid request) :
    handle gis env deployed loads lower pygeoapi config request db =
      guarded (upsertable config cid) (fun provider db =>
        ended upserted .raised (provider.upsert gis env deployed loads request.body db)) db := by
  rw [handle, h.path]
  simp only [h.method, Endpoint.methods, List.mem_singleton, if_true, handleEndpoint]
  rw [upsertItem]
  simp only [h.geoJson, Bool.true_eq_false, if_false]

theorem handle_asksFor {verbs : String} (h : AsksFor cid request verbs) :
    handle gis env deployed loads lower pygeoapi config request db =
      (optionsHandler config cid verbs, db) := by
  cases h with
  | items path method =>
    rw [handle, path]
    simp only [method, Endpoint.methods, List.mem_cons, or_true, true_or, if_true, handleEndpoint]
  | item iid path method =>
    rw [handle, path]
    simp only [method, Endpoint.methods, List.mem_cons, or_true, true_or, if_true, handleEndpoint]

theorem optionsResponse_ne {verbs : String} (h : AsksFor cid request verbs) :
    ApiAnswer.response (optionsResponse "GET, HEAD, OPTIONS") ≠
      .response (optionsResponse ("GET, HEAD, OPTIONS" ++ verbs)) := by
  have hverbs : "GET, HEAD, OPTIONS" ≠ "GET, HEAD, OPTIONS" ++ verbs := by
    cases h with
    | items => decide
    | item => decide
  intro heq
  injection heq with heq
  injection heq with _ heq _
  injection heq with heq _
  exact hverbs (Prod.mk.inj heq).2

/-- An upsert that the database refuses is raised by the provider. -/
theorem upsert_refused {dataset : String} {plan : SchemaPlan}
    (hdeployed : deployed dataset = some plan) (hnone : directCollection plan cid = none)
    (field : Option String) (body : String) (db : Db Geometry) :
    ∃ e, ProviderDef.upsert gis env deployed loads ⟨dataset, cid, field⟩ body db = (.error e, db) := by
  rw [ProviderDef.upsert]
  split
  · exact ⟨_, rfl⟩
  · cases bodyFeature loads body with
    | error e => exact ⟨e, rfl⟩
    | ok feature =>
      obtain ⟨e, he⟩ : ∃ e, featureUpsert gis env deployed dataset cid (some feature) db =
          .error e := featureUpsert_refused hdeployed hnone (some feature) db
      refine ⟨.process (rethrowPgRaise e), ?_⟩
      simp only [he]
      rfl

end Answers

/-! ### Guards against dispatch -/

/-- **405 is the answer to a write exactly where the database takes no direct write**, and
the methods of a collection are those of a writable one exactly where it does, unless a
process has the name of the collection: then every write to it, and the question for its
methods, ends in an exception.  For an upsert the guard looks at the upsert field alone:
where the database takes no direct write to a collection that has one, every upsert ends
in an exception. -/
theorem guards_agree (gis : PostGIS Geometry) (env : Env) (deployed : String → Option SchemaPlan)
    (loads : String → Option Json) (lower : String → String) (pygeoapi : Pygeoapi Geometry)
    {dataset : ResolvedDataset} {built : BuiltSchema}
    (hbuilt : buildSchemaPlan dataset = .ok built) {plan : SchemaPlan}
    (hplan : plan.collections = built.collections.map (·.plan))
    (hdeployed : deployed dataset.name = some plan) {config : List (String × Resource)}
    (hconfig : buildConfig dataset = .ok config) (cid : String) (request : HttpRequest)
    (db : Db Geometry) :
    (WritesTo lower cid request →
      ((handle gis env deployed loads lower pygeoapi config request db).1 = .response notEditable ↔
        cid ∉ dataset.processes ∧ RefusesDirectWrites Geometry deployed dataset.name cid)) ∧
    (∀ verbs, AsksFor cid request verbs →
      ((handle gis env deployed loads lower pygeoapi config request db).1 =
          .response (optionsResponse ("GET, HEAD, OPTIONS" ++ verbs)) ↔
        cid ∉ dataset.processes ∧ ¬ RefusesDirectWrites Geometry deployed dataset.name cid)) ∧
    (UpsertsTo lower cid request → cid ∉ dataset.processes →
      ((handle gis env deployed loads lower pygeoapi config request db).1 = .response notEditable ↔
        ∀ rc ∈ dataset.collections, rc.name = cid → rc.upsertField.getD "" = "") ∧
      (RefusesDirectWrites Geometry deployed dataset.name cid →
        (∃ rc ∈ dataset.collections, rc.name = cid ∧ rc.upsertField.getD "" ≠ "") →
        ∃ e, handle gis env deployed loads lower pygeoapi config request db = (.raised e, db))) ∧
    (cid ∈ dataset.processes → WritesTo lower cid request ∨ UpsertsTo lower cid request ∨
        (∃ verbs, AsksFor cid request verbs) →
      handle gis env deployed loads lower pygeoapi config request db =
        (.raised (.keyError "providers"), db)) := by
  have hplans := plansCollection_of_buildSchemaPlan hbuilt hplan
  have hrefuses : RefusesDirectWrites Geometry deployed dataset.name cid ↔
      directCollection plan cid = none := refusesDirectWrites_iff hdeployed
  -- what the guard of the collection finds, where no process has its name
  have heditable : cid ∉ dataset.processes →
      editable config cid = .ok none ∧ directCollection plan cid = none ∨
        ∃ provider, editable config cid = .ok (some provider) ∧
          directCollection plan cid ≠ none := by
    intro hcid
    rcases guardResource_collection hconfig hplans hcid (fun editable _ => editable) with
      ⟨hguard, hnone⟩ | ⟨rc, hrc, hname, hcrud, hguard⟩
    · exact .inl ⟨hguard, (directCollection_eq_none_iff hplans).mpr hnone⟩
    · refine .inr ⟨_, hguard, fun hnone => ?_⟩
      have hfalse := (directCollection_eq_none_iff hplans).mp hnone rc hrc hname
      cases hcrud.symm.trans hfalse
  have hprocess : cid ∈ dataset.processes → ∀ passes,
      guardResource config cid passes = .error (.keyError "providers") :=
    fun hcid passes => guardResource_process hconfig hcid passes
  refine ⟨fun hwrites => ?_, fun verbs hasks => ?_, fun hupserts hcid => ⟨?_, ?_⟩, ?_⟩
  · obtain ⟨handler, hhandler, hhandle⟩ := handle_writesTo hwrites db
    rw [hhandle, guarded_eq_notEditable_iff fun provider => hhandler provider db, hrefuses]
    by_cases hcid : cid ∈ dataset.processes
    · rw [editable, hprocess hcid]
      exact iff_of_false (fun h => by cases h) (fun h => h.1 hcid)
    · rcases heditable hcid with ⟨hguard, hnone⟩ | ⟨provider, hguard, hsome⟩
      · exact iff_of_true hguard ⟨hcid, hnone⟩
      · rw [hguard]
        exact iff_of_false (fun h => by cases h) (fun h => hsome h.2)
  · rw [handle_asksFor hasks, optionsHandler, hrefuses]
    by_cases hcid : cid ∈ dataset.processes
    · rw [editable, hprocess hcid]
      exact iff_of_false (fun h => by cases h) (fun h => h.1 hcid)
    · rcases heditable hcid with ⟨hguard, hnone⟩ | ⟨provider, hguard, hsome⟩
      · rw [hguard]
        exact iff_of_false (optionsResponse_ne hasks) (fun h => h.2 hnone)
      · rw [hguard]
        exact iff_of_true rfl ⟨hcid, hsome⟩
  · rw [handle_upsertsTo hupserts, guarded_eq_notEditable_iff]
    · rw [upsertable]
      rcases guardResource_collection hconfig hplans hcid
        (fun _ provider => provider.upsertField.getD "" ≠ "") with
        ⟨hguard, hnone⟩ | ⟨rc, hrc, hname, hfield, hguard⟩
      · exact iff_of_true hguard fun rc hrc hname => by simpa using hnone rc hrc hname
      · rw [hguard]
        refine iff_of_false (fun h => by cases h) fun h => ?_
        exact of_decide_eq_true hfield (h rc hrc hname)
    · exact fun provider => upserted_ne_notEditable _
  · rintro hnone ⟨rc, hrc, hname, hfield⟩
    rw [handle_upsertsTo hupserts]
    rcases guardResource_collection hconfig hplans hcid
      (fun _ provider => provider.upsertField.getD "" ≠ "") with
      ⟨-, hall⟩ | ⟨rc', -, -, -, hguard⟩
    · exact absurd (hall rc hrc hname) (by simpa using hfield)
    · obtain ⟨e, he⟩ := upsert_refused hdeployed (hrefuses.mp hnone) rc'.upsertField request.body db
      refine ⟨e, ?_⟩
      rw [upsertable, hguard, guarded, he]
      rfl
  · rintro hcid (hwrites | hupserts | ⟨verbs, hasks⟩)
    · obtain ⟨handler, -, hhandle⟩ := handle_writesTo hwrites db
      rw [hhandle, editable, hprocess hcid]
      rfl
    · rw [handle_upsertsTo hupserts, upsertable, hprocess hcid]
      rfl
    · rw [handle_asksFor hasks, optionsHandler, editable, hprocess hcid]

open Sample in
theorem buildSchemaPlan_service : buildSchemaPlan service =
    .ok ⟨"matrikkel", servicePlan.collections.map fun coll => ⟨coll, []⟩, []⟩ := rfl

open Sample in
/-- A parcel is not replaced, a building is writable, a parcel is not upserted, and
nothing is written where a process has the name. -/
theorem guards_agree_sample :
    (handle gis env (fun _ => some servicePlan) loadsBuilding id passing serviceConfig
      { method := .put, path := ["collections", "teig", "items", Uuid.text 1] } Db.empty).1 =
        .response notEditable ∧
    (handle gis env (fun _ => some servicePlan) loadsBuilding id passing serviceConfig
      { method := .options, path := ["collections", "bygning", "items"] } Db.empty).1 =
        .response (optionsResponse ("GET, HEAD, OPTIONS" ++ ", POST")) ∧
    (∃ e, handle gis env (fun _ => some servicePlan) loadsBuilding id passing serviceConfig
      { method := .post, path := ["collections", "teig", "items:upsert"]
        contentType := "application/geo+json", body := buildingText "Storgata 1" } Db.empty =
        (.raised e, Db.empty)) ∧
    handle gis env (fun _ => some servicePlan) loadsBuilding id passing serviceConfig
      { method := .put, path := ["collections", "hello", "items", Uuid.text 1] } Db.empty =
        (.raised (.keyError "providers"), Db.empty) := by
  have hteig : RefusesDirectWrites Unit (fun _ => some servicePlan) "matrikkel" "teig" :=
    (refusesDirectWrites_iff deployed_service).mpr (by decide)
  have hbygning : ¬ RefusesDirectWrites Unit (fun _ => some servicePlan) "matrikkel" "bygning" :=
    (refusesDirectWrites_iff deployed_service).not.mpr (by decide)
  refine ⟨?_, ?_, ?_, ?_⟩
  · exact ((guards_agree gis env (fun _ => some servicePlan) loadsBuilding id passing
      buildSchemaPlan_service rfl deployed_service buildConfig_service "teig" _ Db.empty).1
        (.row (Uuid.text 1) rfl List.mem_cons_self)).mpr ⟨by decide, hteig⟩
  · exact ((guards_agree gis env (fun _ => some servicePlan) loadsBuilding id passing
      buildSchemaPlan_service rfl deployed_service buildConfig_service "bygning" _ Db.empty).2.1
        ", POST" (.items rfl rfl)).mpr ⟨by decide, hbygning⟩
  · refine ((guards_agree gis env (fun _ => some servicePlan) loadsBuilding id passing
      buildSchemaPlan_service rfl deployed_service buildConfig_service "teig" _ Db.empty).2.2.1
        ⟨rfl, rfl, by decide⟩ (by decide)).2 hteig ⟨_, List.mem_cons_of_mem _ List.mem_cons_self, ?_⟩
    exact ⟨rfl, by decide⟩
  · exact (guards_agree gis env (fun _ => some servicePlan) loadsBuilding id passing
      buildSchemaPlan_service rfl deployed_service buildConfig_service "hello" _ Db.empty).2.2.2
        (by decide) (.inl (.row (Uuid.text 1) rfl List.mem_cons_self))

end Geocomponents
