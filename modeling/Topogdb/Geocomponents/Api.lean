/-
The OGC API of a dataset (`geocomponents/api/pygeoapi_provider.py`,
`geocomponents/api/db_function_provider.py`).

`buildConfig` gives each collection its provider and each declared process its
processor, and `handle` is what the routes of `_build_starlette_app` do with a request.

* `ProviderDef.create` and its siblings — the methods of `DbFunctionProvider`;
* `Pygeoapi` — the functions of pygeoapi that a request is passed on to;
* `handle` — the answer to a request and the tables after it.
-/
import Topogdb.Geocomponents.Resolution
import Topogdb.Geocomponents.UpsertBatch

namespace Geocomponents

open Python

/-! ### The resources -/

/-- The processors of `PROCESS_REGISTRY`. -/
inductive Processor where
  | placeholder
  | upsertBatch (providerDefs : List (String × ProviderDef))
  | importShell

/-- A resource of the configuration. -/
inductive Resource where
  | collection (editable : Bool) (provider : ProviderDef)
  | process (processor : Processor)

/-- `ResolvedCollection.supports_crud`. -/
def ResolvedCollection.supportsCrud (coll : ResolvedCollection) : Bool :=
  coll.featureModel = .simple

/-- `_collection_resource`. -/
def collectionResource (dataset : String) (coll : ResolvedCollection) : Resource :=
  .collection coll.supportsCrud
    { dataset := dataset, collection := coll.name, upsertField := coll.upsertField }

/-- `_process_resource`. -/
def processResource (dataset : ResolvedDataset) (processId : String) : Except PyError Resource :=
  match processId with
  | "hello" => .ok (.process .placeholder)
  | "upsert-batch" => .ok (.process (.upsertBatch (providerDefs dataset)))
  | "import" => .ok (.process .importShell)
  | _ => .error (.keyError processId)

/-- The `resources` of `build_config`. -/
def buildConfig (dataset : ResolvedDataset) : Except PyError (List (String × Resource)) := do
  let processes ← dataset.processes.mapM fun processId => do
    let resource ← processResource dataset processId
    .ok (processId, resource)
  .ok (dictOf (dataset.collections.map (fun coll =>
    (coll.name, collectionResource dataset.name coll)) ++ processes))

/-! ### Requests and answers -/

inductive HttpMethod where
  | get | head | options | post | put | patch | delete | other
deriving DecidableEq

/-- A request to the app of a dataset; `path` is split at its slashes. -/
structure HttpRequest where
  method : HttpMethod
  path : List String
  contentType : String := ""
  query : List (String × String) := []
  body : String := ""

/-- What a provider or a handler raises. -/
inductive ApiError where
  | process (e : ProcessError)
  | itemNotFound (message : String)
  | keyError (key : String)

/-- A response that the app makes itself. -/
structure HttpResponse where
  status : ℕ
  headers : List (String × String) := []
  content : Option Json := none

/-- How a request is answered. -/
inductive ApiAnswer where
  | response (r : HttpResponse)
  /-- No route has the path, or the route not the method. -/
  | noRoute
  /-- pygeoapi reads what it answers. -/
  | read
  /-- pygeoapi was given a provider or a processor, and answers with the status. -/
  | passed (status : ℕ)
  /-- Nothing handles the exception. -/
  | raised (e : ApiError)

/-- The answer reports that what was asked for is done. -/
def ApiAnswer.isDone : ApiAnswer → Bool
  | .response r => r.status < 300
  | .read => true
  | .passed status => status < 300
  | .noRoute | .raised _ => false

/-- `_not_editable`. -/
def notEditable : HttpResponse :=
  { status := 405
    headers := [("Allow", "GET, HEAD, OPTIONS")]
    content := some (.obj [("code", .str "MethodNotAllowed"),
      ("description", .str "Collection is not editable (topology / shared geometry)")]) }

/-- `_options`. -/
def optionsResponse (allow : String) : HttpResponse :=
  { status := 200, headers := [("Allow", allow)] }

/-- `_filtering_unsupported`. -/
def filteringUnsupported : HttpResponse :=
  { status := 400
    content := some (.obj [("code", .str "InvalidParameter"),
      ("description", .str "CQL filtering (filter/filter-lang) is not supported yet")]) }

/-- `_unsupported_media_type`. -/
def unsupportedMediaType : HttpResponse :=
  { status := 415
    headers := [("Accept-Post", "application/geo+json")]
    content := some (.obj [("code", .str "UnsupportedMediaType"),
      ("description", .str ("POST /items requires application/geo+json (create). " ++
        "Query-by-POST (application/json + CQL2 body) is not supported yet."))]) }

/-- The answer to a PATCH of an item that is not there. -/
def itemNotFoundResponse (iid : String) : HttpResponse :=
  { status := 404
    content := some (.obj [("code", .str "NotFound"), ("description", .str s!"item {iid} not found")]) }

/-! ### The provider -/

section Provider

variable {Geometry : Type} (gis : PostGIS Geometry) (env : Env)
  (deployed : String → Option SchemaPlan) (loads : String → Option Json)

/-- `_as_feature_dict` of the body of a request. -/
def bodyFeature (body : String) : Except ApiError Json :=
  (asFeatureDict loads (.str body)).mapError .process

/-- What a statement makes of the tables, whose result names the row it has written. -/
def named (db : Db Geometry) : Except SqlError (Uuid × Db Geometry) →
    Except ApiError Uuid × Db Geometry
  | .ok (id, db') => (.ok id, db')
  | .error e => (.error (.process (rethrowPgRaise e)), db)

/-- The same, where the result says whether the row of the identifier was found. -/
def found (identifier : String) (rethrow : SqlError → ProcessError) (db : Db Geometry) :
    Except SqlError (Bool × Db Geometry) → Except ApiError Unit × Db Geometry
  | .ok (true, db') => (.ok (), db')
  | .ok (false, db') => (.error (.itemNotFound s!"item {identifier} not found"), db')
  | .error e => (.error (.process (rethrow e)), db)

/-- A statement on the row of an identifier. -/
def onRow (identifier : String) (rethrow : SqlError → ProcessError)
    (statement : Option Uuid → Db Geometry → Except SqlError (Bool × Db Geometry))
    (db : Db Geometry) : Except ApiError Unit × Db Geometry :=
  found identifier rethrow db ((castUuid (some identifier)).bind fun fid => statement fid db)

/-- `DbFunctionProvider.create`. -/
def ProviderDef.create (provider : ProviderDef) (body : String) (db : Db Geometry) :
    Except ApiError Uuid × Db Geometry :=
  match bodyFeature loads body with
  | .error e => (.error e, db)
  | .ok feature =>
    named db (featureCreate gis env deployed provider.dataset provider.collection feature db)

/-- `DbFunctionProvider.upsert`. -/
def ProviderDef.upsert (provider : ProviderDef) (body : String) (db : Db Geometry) :
    Except ApiError Uuid × Db Geometry :=
  if provider.upsertField.isNone then
    (.error (.process (.query "collection has no configured upsert key")), db)
  else
    match bodyFeature loads body with
    | .error e => (.error e, db)
    | .ok feature =>
      named db (featureUpsert gis env deployed provider.dataset provider.collection feature db)

/-- `DbFunctionProvider.update`. -/
def ProviderDef.update (provider : ProviderDef) (identifier body : String) (db : Db Geometry) :
    Except ApiError Unit × Db Geometry :=
  match bodyFeature loads body with
  | .error e => (.error e, db)
  | .ok feature =>
    onRow identifier rethrowPgRaise
      (fun fid => featureReplace gis env deployed provider.dataset provider.collection fid feature) db

/-- `DbFunctionProvider.patch`. -/
def ProviderDef.patch (provider : ProviderDef) (identifier body : String) (db : Db Geometry) :
    Except ApiError Unit × Db Geometry :=
  match bodyFeature loads body with
  | .error e => (.error e, db)
  | .ok feature =>
    onRow identifier rethrowPgRaise
      (fun fid => featureUpdate gis env deployed provider.dataset provider.collection fid feature) db

/-- `DbFunctionProvider.delete`: what the database raises is not rethrown. -/
def ProviderDef.delete (provider : ProviderDef) (identifier : String) (db : Db Geometry) :
    Except ApiError Unit × Db Geometry :=
  onRow identifier .database
    (fun fid => featureDelete deployed provider.dataset provider.collection fid) db

end Provider

/-! ### The routes -/

/-- The endpoint of a route, with its path parameters. -/
inductive Endpoint where
  | landing
  | openapi
  | conformance
  | collections
  | collection (cid : String)
  | schema (cid : String)
  | items (cid : String)
  | item (cid iid : String)
  | upsertItem (cid : String)
  | processes
  | process (pid : String)
  | execution (pid : String)
deriving DecidableEq

/-- The route of a path; no path parameter is empty. -/
def endpoint (path : List String) : Option Endpoint :=
  match path with
  | [""] => some .landing
  | ["openapi"] => some .openapi
  | ["conformance"] => some .conformance
  | ["collections"] => some .collections
  | ["collections", cid] => if cid = "" then none else some (.collection cid)
  | ["collections", cid, "schema"] => if cid = "" then none else some (.schema cid)
  | ["collections", cid, "items"] => if cid = "" then none else some (.items cid)
  | ["collections", cid, "items:upsert"] => if cid = "" then none else some (.upsertItem cid)
  | ["collections", cid, "items", iid] =>
    if cid = "" ∨ iid = "" then none else some (.item cid iid)
  | ["processes"] => some .processes
  | ["processes", pid] => if pid = "" then none else some (.process pid)
  | ["processes", pid, "execution"] => if pid = "" then none else some (.execution pid)
  | _ => none

/-- The methods of a route. -/
def Endpoint.methods : Endpoint → List HttpMethod
  | .items _ => [.get, .head, .post, .options]
  | .item _ _ => [.get, .head, .put, .patch, .delete, .options]
  | .upsertItem _ | .execution _ => [.post]
  | _ => [.get, .head]

/-! ### The handlers -/

/-- The functions of pygeoapi that a request is passed on to, with the status of the
answer and the tables after it. -/
structure Pygeoapi (Geometry : Type) where
  /-- `manage_collection_item`, given the method of the provider for the action. -/
  manageCollectionItem {α : Type} (action : String) (request : HttpRequest)
    (method : String → Db Geometry → Except ApiError α × Db Geometry) (db : Db Geometry) :
    ℕ × Db Geometry
  /-- The inputs that `execute_process` finds in a request. -/
  inputs (request : HttpRequest) : Option Json
  /-- `execute_process`, given the processors by their names. -/
  executeProcess (pid : String) (request : HttpRequest)
    (processors : String → Option (Json → Db Geometry → Except ApiError Json × Db Geometry))
    (db : Db Geometry) : ℕ × Db Geometry

/-- A guard on `res["providers"][0]`. -/
def guardResource (config : List (String × Resource)) (cid : String)
    (passes : Bool → ProviderDef → Bool) : Except ApiError (Option ProviderDef) :=
  match config.lookup cid with
  | none => .ok none
  | some (.collection editable provider) =>
    .ok (if passes editable provider then some provider else none)
  | some (.process _) => .error (.keyError "providers")

/-- `_editable`, with the provider it looks at. -/
def editable (config : List (String × Resource)) (cid : String) :
    Except ApiError (Option ProviderDef) :=
  guardResource config cid fun editable _ => editable

/-- `_upsertable`, with the provider it looks at. -/
def upsertable (config : List (String × Resource)) (cid : String) :
    Except ApiError (Option ProviderDef) :=
  guardResource config cid fun _ provider => provider.upsertField.getD "" ≠ ""

/-- The content type is `application/geo+json`, with or without parameters. -/
def isGeoJson (lower : String → String) (request : HttpRequest) : Bool :=
  "application/geo+json".toList.isPrefixOf (lower request.contentType).toList

section Handlers

variable {Geometry : Type} (gis : PostGIS Geometry) (env : Env)
  (deployed : String → Option SchemaPlan) (loads : String → Option Json) (lower : String → String)
  (pygeoapi : Pygeoapi Geometry) (config : List (String × Resource))

/-- The answer to a request whose provider or processor has ended. -/
def ended {α : Type} (done : α → ApiAnswer) (undone : ApiError → ApiAnswer) :
    Except ApiError α × Db Geometry → ApiAnswer × Db Geometry
  | (.ok a, db) => (done a, db)
  | (.error e, db) => (undone e, db)

/-- `_execute`: the answer of pygeoapi. -/
def passed (answer : ℕ × Db Geometry) : ApiAnswer × Db Geometry := (.passed answer.1, answer.2)

/-- The answer behind a guard: 405 where it does not pass. -/
def guarded (guard : Except ApiError (Option ProviderDef))
    (handler : ProviderDef → Db Geometry → ApiAnswer × Db Geometry) (db : Db Geometry) :
    ApiAnswer × Db Geometry :=
  match guard with
  | .error e => (.raised e, db)
  | .ok none => (.response notEditable, db)
  | .ok (some provider) => handler provider db

/-- `_options_items` and `_options_item`. -/
def optionsHandler (cid verbs : String) : ApiAnswer :=
  match editable config cid with
  | .error e => .raised e
  | .ok none => .response (optionsResponse "GET, HEAD, OPTIONS")
  | .ok (some _) => .response (optionsResponse ("GET, HEAD, OPTIONS" ++ verbs))

/-- `_list_items`. -/
def listItems (request : HttpRequest) : ApiAnswer :=
  if (request.query.lookup "filter").isSome ∨ (request.query.lookup "filter-lang").isSome then
    .response filteringUnsupported
  else .read

/-- `_post_items`. -/
def postItems (cid : String) (request : HttpRequest) (db : Db Geometry) : ApiAnswer × Db Geometry :=
  if isGeoJson lower request = false then (.response unsupportedMediaType, db)
  else
    guarded (editable config cid) (fun provider db => passed (pygeoapi.manageCollectionItem
      "create" request (provider.create gis env deployed loads) db)) db

/-- The answer to an upsert. -/
def upserted (id : Uuid) : ApiAnswer :=
  .response { status := 200, content := some (.obj [("id", .str (Uuid.text id))]) }

/-- `upsert_item`. -/
def upsertItem (cid : String) (request : HttpRequest) (db : Db Geometry) : ApiAnswer × Db Geometry :=
  guarded (upsertable config cid) (fun provider db =>
    if isGeoJson lower request = false then (.response unsupportedMediaType, db)
    else ended upserted .raised (provider.upsert gis env deployed loads request.body db)) db

/-- `_put_item`. -/
def putItem (cid iid : String) (request : HttpRequest) (db : Db Geometry) :
    ApiAnswer × Db Geometry :=
  guarded (editable config cid) (fun provider db => passed (pygeoapi.manageCollectionItem
    "update" request (provider.update gis env deployed loads iid) db)) db

/-- `_delete_item`. -/
def deleteItem (cid iid : String) (request : HttpRequest) (db : Db Geometry) :
    ApiAnswer × Db Geometry :=
  guarded (editable config cid) (fun provider db => passed (pygeoapi.manageCollectionItem
    "delete" request (fun _ => provider.delete deployed iid) db)) db

/-- Of what the provider raises for a PATCH, only a missing item is answered. -/
def unpatched (iid : String) : ApiError → ApiAnswer
  | .itemNotFound _ => .response (itemNotFoundResponse iid)
  | e => .raised e

/-- `_patch_item`. -/
def patchItem (cid iid : String) (request : HttpRequest) (db : Db Geometry) :
    ApiAnswer × Db Geometry :=
  guarded (editable config cid) (fun provider db => ended (fun _ => .response { status := 204 })
    (unpatched iid) (provider.patch gis env deployed loads iid request.body db)) db

/-- The `execute` of a processor; the greeting of the placeholder is left out. -/
def Processor.execute (processor : Processor) (inputs : Json) (db : Db Geometry) :
    Except ProcessError (Json × Db Geometry) :=
  match processor with
  | .placeholder => .ok (.obj [], db)
  | .upsertBatch providerDefs => executeUpsertBatch gis env deployed loads providerDefs inputs db
  | .importShell =>
    .error (.execute ("gcapi routes import execution to gcjobs; " ++
      "geocomponents only exposes the process description shell"))

/-- The outputs of a processor; one that raises has written nothing. -/
def executed (db : Db Geometry) : Except ProcessError (Json × Db Geometry) →
    Except ApiError Json × Db Geometry
  | .ok (outputs, db') => (.ok outputs, db')
  | .error e => (.error (.process e), db)

/-- The processors of the configuration. -/
def processors (pid : String) : Option (Json → Db Geometry → Except ApiError Json × Db Geometry) :=
  match config.lookup pid with
  | some (.process processor) =>
    some fun inputs db => executed db (processor.execute gis env deployed loads inputs db)
  | _ => none

/-- `execute_process`. -/
def executeProcess (pid : String) (request : HttpRequest) (db : Db Geometry) :
    ApiAnswer × Db Geometry :=
  passed (pygeoapi.executeProcess pid request (processors gis env deployed loads config) db)

/-- `_collection_schema`. -/
def collectionSchema (cid : String) : ApiAnswer :=
  match config.lookup cid with
  | none =>
    .response
      { status := 404
        content := some (.obj [("code", .str "NotFound"),
          ("description", .str s!"collection {cid} not found")]) }
  | some (.collection _ _) => .read
  | some (.process _) => .raised (.keyError "providers")

/-- A request that has found its route. -/
def handleEndpoint (e : Endpoint) (request : HttpRequest) (db : Db Geometry) :
    ApiAnswer × Db Geometry :=
  match e, request.method with
  | .schema cid, _ => (collectionSchema config cid, db)
  | .items cid, .options => (optionsHandler config cid ", POST", db)
  | .items cid, .post => postItems gis env deployed loads lower pygeoapi config cid request db
  | .items _, _ => (listItems request, db)
  | .item cid _, .options => (optionsHandler config cid ", PUT, PATCH, DELETE", db)
  | .item cid iid, .put => putItem gis env deployed loads pygeoapi config cid iid request db
  | .item cid iid, .patch => patchItem gis env deployed loads config cid iid request db
  | .item cid iid, .delete => deleteItem deployed pygeoapi config cid iid request db
  | .upsertItem cid, _ => upsertItem gis env deployed loads lower config cid request db
  | .execution pid, _ => executeProcess gis env deployed loads pygeoapi config pid request db
  | _, _ => (.read, db)

/-- The app of a dataset. -/
def handle (request : HttpRequest) (db : Db Geometry) : ApiAnswer × Db Geometry :=
  match endpoint request.path with
  | none => (.noRoute, db)
  | some e =>
    if request.method ∈ e.methods then
      handleEndpoint gis env deployed loads lower pygeoapi config e request db
    else (.noRoute, db)

end Handlers

end Geocomponents
