/-
The import request of gcimport (`gcimport/app.py`).

`handleImportRequest` is `POST /imports`: it checks the request, then publishes
what it does as events, from `import.started` to one `import.completed.*`.  The
handlers of the source publish the failure they met and raise an HTTP error.

An event's `timestamp` is left out; nothing reads it.
-/
import Topogdb.Gcimport.GeojsonToJsonfg
import Topogdb.Gcimport.ImportFeatures
import Topogdb.Gcimport.Sosi

namespace Gcimport

open Python Effects

/-! ### Requests -/

/-- `Settings`; `from_env` refuses a batch size that is not positive. -/
structure Settings where
  geocomponentsApiUrl : String
  maxUploadBytes : ℕ
  upsertBatchSize : ℕ
  upsertBatchSize_pos : 0 < upsertBatchSize

/-- `UploadedImportFile`, also as it stands in the form. -/
structure UploadedImportFile where
  filename : Option String
  body : ByteArray

/-- A request: a form value that is no file is none. -/
structure ImportRequest where
  profileName : String
  requestedImportId : Option String
  form : List (String × Option UploadedImportFile)

/-- `ImportRequestContext`. -/
structure ImportRequestContext where
  settings : Settings
  requestProfile : ImportProfile
  baseEvent : Event

variable (env : Env)

/-- `HTTPException`. -/
def httpException {α : Type} (statusCode : ℕ) (detail : Json) : Except PyError α :=
  .error (.http statusCode detail)

/-- `_request_profile`. -/
def requestProfile (profileName : String) : Except PyError ImportProfile :=
  match getProfile env profileName with
  | some profile => .ok profile
  | none =>
    let supported := ", ".intercalate (sorted (builtinProfiles.map Prod.fst))
    httpException 400 (.str s!"profile must be one of: {supported}")

/-- `_request_upload_files`. -/
def requestUploadFiles (form : List (String × Option UploadedImportFile)) :
    Except PyError (List UploadedImportFile) :=
  let files := form.filterMap fun e => if e.1 = "file" ∨ e.1 = "files" then e.2 else none
  if files ≠ [] then .ok files
  else httpException 422 (.str "at least one uploaded file is required")

/-- `_read_bounded`. -/
def readBounded (file : UploadedImportFile) (maxBytes : ℕ) : Except PyError ByteArray :=
  if file.body.size > maxBytes then
    httpException 413 (.str s!"uploaded file exceeds {maxBytes} bytes")
  else .ok file.body

/-- `_read_uploaded_files`, after `totalSize` bytes. -/
def readUploadedFiles (maxBytes totalSize : ℕ) :
    List UploadedImportFile → Except PyError (List UploadedImportFile)
  | [] => .ok []
  | file :: files => do
    let body ← readBounded file maxBytes
    let totalSize := totalSize + body.size
    if totalSize > maxBytes then
      httpException 413 (.str s!"uploaded files exceed {maxBytes} bytes")
    else do
      let uploads ← readUploadedFiles maxBytes totalSize files
      .ok ({ filename := file.filename, body := body } :: uploads)

/-- `_request_import_id`. -/
def requestImportId (requestedImportId : Option String) : String :=
  let importId := strip (requestedImportId.getD "")
  if importId ≠ "" then importId else env.uuid4

/-- `_is_classic_geojson_filename` and `_is_sosi_filename`. -/
def hasSuffix (suffix : String) (filename : Option String) : Bool :=
  match filename with
  | none => false
  | some filename => filename ≠ "" ∧ env.casefold (pathSuffix filename) = suffix

def isClassicGeojsonFilename (filename : Option String) : Bool := hasSuffix env ".geojson" filename

def isSosiFilename (filename : Option String) : Bool := hasSuffix env ".sos" filename

/-- `_contains_sosi_uploads`. -/
def containsSosiUploads (uploads : List UploadedImportFile) : Bool :=
  uploads.any fun upload => isSosiFilename env upload.filename

/-- `_all_uploads_are_sosi`. -/
def allUploadsAreSosi (uploads : List UploadedImportFile) : Bool :=
  uploads.all fun upload => isSosiFilename env upload.filename

/-! ### Events -/

/-- `_base_event`: the members that every event of the request has. -/
def baseEvent (profile : ImportProfile) (importId : String) (uploads : List UploadedImportFile) :
    Event :=
  let filenames := (uploads.filterMap (·.filename)).filter (· ≠ "")
  { importId := importId
    event := ""
    profile := some profile.name
    datasetApiPath := some profile.datasetApiPath
    filename := if filenames.length = 1 then filenames.head? else none
    filenames := filenames }

/-- `_import_event`; `extra` sets the other members. -/
def importEvent (base : Event) (eventName phase : String) (extra : Event → Event) : Event :=
  { extra base with event := eventName, phase := some phase }

/-- `_publish_event`: whatever the publisher raises is logged. -/
def publishEvent (event : Event) : ImportTask PUnit := handle (publish event) fun _ => pure ⟨⟩

/-- `_publish_import_update`. -/
def publishImportUpdate (base : Event) (eventName phase : String) (extra : Event → Event) :
    ImportTask PUnit :=
  publishEvent (importEvent base eventName phase extra)

/-- Publish a failure and raise the HTTP error: the end of every handler. -/
def failImport {α : Type} (base : Event) (phase : String) (extra : Event → Event)
    (statusCode : ℕ) (detail : Json) : ImportTask α := do
  publishImportUpdate base Event.completedFailed phase extra
  lift (httpException statusCode detail)

/-- A detail with a message and a list of errors. -/
def errorsDetail (message : String) (errors : List String) : Json :=
  .obj [("message", .str message), ("errors", .arr (errors.map Json.str))]

/-! ### Documents -/

/-- `_load_import_document`. -/
def loadImportDocument (body : ByteArray) (base : Event) : ImportTask Json :=
  let reason := "uploaded file must contain valid UTF-8 JSON"
  match env.loads body with
  | some document => pure document
  | none =>
    failImport base "parsing" (fun event => { event with reason := some reason }) 400 (.str reason)

/-- `_normalize_upload`. -/
def normalizeUpload (document : Json) (filename : Option String) (profile : ImportProfile) :
    Except PyError Json :=
  if isClassicGeojsonFilename env filename then convertDocument env profile document
  else .ok document

/-- `_prepare_import_features`. -/
def prepareImportFeatures (document : Json) (filename : Option String) (profile : ImportProfile)
    (base : Event) : ImportTask (List PreparedFeature) :=
  handle
    (lift do
      let normalizedDocument ← normalizeUpload env document filename profile
      prepareDocument env profile normalizedDocument)
    fun
    | .conversion message =>
      failImport base "parsing" (fun event => { event with reason := some message }) 422
        (errorsDetail "invalid classic GeoJSON document" [message])
    | .documentValidation errors =>
      failImport base "parsing"
        (fun event => { event with
          errors := some errors
          reason := some "invalid JSON-FG document" }) 422
        (errorsDetail "invalid JSON-FG document" errors)
    | e => lift (.error e)

/-- `_prepare_import_features_from_uploads`. -/
def prepareImportFeaturesFromUploads (uploads : List UploadedImportFile) (profile : ImportProfile)
    (base : Event) : ImportTask (List PreparedFeature) :=
  uploads.foldlM
    (fun features upload => do
      let document ← loadImportDocument env upload.body base
      let prepared ← prepareImportFeatures env document upload.filename profile base
      pure (features ++ prepared))
    []

/-! ### SOSI uploads -/

/-- `SosiUploadSummary`. -/
structure SosiUploadSummary where
  filename : Option String
  stats : SosiStats

/-- The summary of all SOSI files of a request. -/
structure SosiResult where
  totalFiles : ℕ
  hasHeader : Bool
  hasFooter : Bool
  totalObjects : ℕ
  coordinateRecords : ℕ
  objectTypes : Counts
  objtypes : Counts
  coordinateAttributeCounts : Counts
  files : List SosiUploadSummary

/-- `_aggregate_sosi_summaries`. -/
def aggregateSosiSummaries (summaries : List SosiUploadSummary) : SosiResult :=
  let stats := summaries.map (·.stats)
  { totalFiles := summaries.length
    hasHeader := stats.any (·.hasHeader)
    hasFooter := stats.any (·.hasFooter)
    totalObjects := (stats.map (·.totalObjects)).sum
    coordinateRecords := (stats.map (·.coordinateRecords)).sum
    objectTypes := stats.foldl (fun counts s => counts.update s.objectTypes) []
    objtypes := stats.foldl (fun counts s => counts.update s.objtypes) []
    coordinateAttributeCounts :=
      stats.foldl (fun counts s => counts.update s.coordinateAttributeCounts) []
    files := summaries }

/-- One upload of `_summarize_sosi_uploads`. -/
def summarizeSosiUpload (upload : UploadedImportFile) (base : Event) : ImportTask SosiUploadSummary :=
  let reason := "uploaded SOSI file must contain valid UTF-8 text"
  match String.fromUTF8? upload.body with
  | none =>
    failImport base "parsing" (fun event => { event with reason := some reason }) 400 (.str reason)
  | some text =>
    handle
      (lift do
        let tree ← parseText env text
        .ok { filename := upload.filename, stats := summarizeTree tree })
      fun
      | .sosiParse message =>
        failImport base "parsing" (fun event => { event with reason := some message }) 422
          (errorsDetail "invalid SOSI document" [message])
      | e => lift (.error e)

/-- `_summarize_sosi_uploads`. -/
def summarizeSosiUploads (uploads : List UploadedImportFile) (base : Event) : ImportTask SosiResult := do
  let summaries ← uploads.foldlM
    (fun summaries upload => do
      let summary ← summarizeSosiUpload env upload base
      pure (summaries ++ [summary]))
    []
  pure (aggregateSosiSummaries summaries)

/-! ### The upsert -/

/-- The event of one batch. -/
def batchEvent (base : Event) (totalFeatures : ℕ) (batch : BatchEvent) : Event :=
  importEvent base ("import.batch." ++ batch.status) "importing" fun event =>
    { event with
      totalFeatures := some totalFeatures
      status := some batch.status
      mode := some batch.mode
      collection := some batch.collection
      batchSize := some batch.batchSize
      featureId := batch.featureId
      reason := batch.reason
      featureIds := batch.featureIds }

/-- `_batch_event_publisher`. -/
def batchEventPublisher (base : Event) (totalFeatures : ℕ) (batch : BatchEvent) : ImportTask PUnit :=
  publishEvent (batchEvent base totalFeatures batch)

/-- `_dataset_api_url`. -/
def datasetApiUrl (rootApiUrl : String) (profile : ImportProfile) : String :=
  rstrip '/' rootApiUrl ++ "/" ++
    String.ofList ((profile.datasetApiPath.toList.dropWhile (· = '/')).rdropWhile (· = '/'))

/-- The failure of the upsert as an event, and as a response. -/
def upstreamFailure (base : Event) (totalFeatures : ℕ) (collection featureId reason : String) :
    Event :=
  importEvent base Event.completedFailed "importing" fun event =>
    { event with
      totalFeatures := some totalFeatures
      collection := some collection
      featureId := some featureId
      reason := some reason }

def upstreamDetail (title collection featureId reason : String) : Json :=
  .obj
    [("message", .str s!"{title} API batch upsert failed"), ("collection", .str collection),
      ("id", .str featureId), ("reason", .str reason)]

/-- `_run_import`. -/
def runImport (context : ImportRequestContext) (features : List PreparedFeature)
    (totalFeatures : ℕ) : ImportTask ImportSummary :=
  handle
    (importFeatures env features
      (datasetApiUrl context.settings.geocomponentsApiUrl context.requestProfile)
      context.settings.upsertBatchSize
      (batchEventPublisher context.baseEvent totalFeatures))
    fun
    | .upstreamImport collection featureId reason => do
      publishEvent (upstreamFailure context.baseEvent totalFeatures collection featureId reason)
      lift (httpException 502
        (upstreamDetail context.requestProfile.title collection featureId reason))
    | e => lift (.error e)

/-! ### The request -/

/-- What a successful request answers. -/
inductive ImportResponse where
  | stats (result : SosiResult)
  | imported (result : ImportSummary)

/-- The SOSI branch of `_handle_import_request`. -/
def importSosi (context : ImportRequestContext) (uploads : List UploadedImportFile) :
    ImportTask ImportResponse := do
  let base := context.baseEvent
  if allUploadsAreSosi env uploads then do
    let result ← summarizeSosiUploads env uploads base
    let counted (event : Event) : Event :=
      { event with
        mode := some "stats"
        totalFeatures := some result.totalObjects
        totalObjects := some result.totalObjects
        totalFiles := some result.totalFiles }
    publishImportUpdate base Event.parsed "completed" counted
    publishImportUpdate base Event.completedSucceeded "completed" fun event =>
      { counted event with importedFeatures := some 0 }
    pure (.stats result)
  else
    let reason := "SOSI uploads cannot be mixed with JSON or GeoJSON uploads"
    failImport base "parsing" (fun event => { event with reason := some reason }) 422 (.str reason)

/-- `_handle_import_request` once the features are prepared. -/
def importPrepared (context : ImportRequestContext) (features : List PreparedFeature) :
    ImportTask ImportResponse := do
  let base := context.baseEvent
  let totalFeatures := features.length
  publishImportUpdate base Event.parsed "importing" fun event =>
    { event with totalFeatures := some totalFeatures }
  let result ← runImport env context features totalFeatures
  publishImportUpdate base Event.completedSucceeded "completed" fun event =>
    { event with
      totalFeatures := some totalFeatures
      importedFeatures := some result.total }
  pure (.imported result)

/-- `_handle_import_request` once the request is checked. -/
def importUploads (context : ImportRequestContext) (uploads : List UploadedImportFile) :
    ImportTask ImportResponse := do
  publishImportUpdate context.baseEvent Event.started "parsing" id
  if containsSosiUploads env uploads then importSosi env context uploads
  else do
    let features ← prepareImportFeaturesFromUploads env uploads context.requestProfile
      context.baseEvent
    importPrepared env context features

/-- The checks before the first event: the profile, the upload, its size. -/
def checkRequest (settings : Settings) (request : ImportRequest) :
    Except PyError (ImportRequestContext × List UploadedImportFile) := do
  let profile ← requestProfile env request.profileName
  let files ← requestUploadFiles request.form
  let uploads ← readUploadedFiles settings.maxUploadBytes 0 files
  let importId := requestImportId env request.requestedImportId
  .ok
    ({ settings := settings
       requestProfile := profile
       baseEvent := baseEvent profile importId uploads }, uploads)

/-- `_handle_import_request`. -/
def handleImportRequest (settings : Settings) (request : ImportRequest) : ImportTask ImportResponse := do
  let checked ← lift (checkRequest env settings request)
  importUploads env checked.1 checked.2

end Gcimport
