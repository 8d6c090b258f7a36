/-
`ogc.transaction` (`geocomponents/schema/functions.py`, `dispatch_statements`).

* `transactionBlock` — the block with the exception handler, as a program that
  fails with the error and the variables as they were;
* `exceptionHandler` — the report that the handler makes of a failure;
* `transaction` — the call: the block rolls back to its savepoint on a failure.

The jsonb variables are lists of records here.
-/
import Topogdb.Geocomponents.Footprint
import Topogdb.Geocomponents.Write

namespace Geocomponents

open Sql

variable {Geometry : Type}

/-! ### Variables and report -/

inductive Phase where
  | document
  | items
  | «structure»
  | geometry
deriving DecidableEq

inductive ItemStatus where
  | created
  | updated
  | deleted
  | rejected
deriving DecidableEq

/-- An entry of the report's `items`. -/
structure ItemResult where
  index : ℕ
  action : Option String
  collection : Option String
  id : Option String
  status : ItemStatus
  sqlstate : Option String := none
  reason : Option String := none
deriving DecidableEq

/-- An entry of `touched_features`. -/
structure Touched where
  itemIndex : ℕ
  action : Option String
  collection : String
  id : Option String
deriving DecidableEq

/-- An entry of `dirty_member_curves`. -/
structure DirtyCurve where
  collection : String
  id : Option String
deriving DecidableEq

/-- A finding with the reason `missing_member`. -/
structure MissingFinding where
  source : Ref
  property : String
  target : Ref
  deletedByItem : ℕ
deriving DecidableEq

/-- A finding of the structure phase. -/
inductive StructureFinding where
  | missing (finding : MissingFinding)
  | footprint (verdict : StructureVerdict)
  | bounds (finding : BoundsFinding)
deriving DecidableEq

/-- The variables of `ogc.transaction`. -/
structure TxVars where
  reportItems : List ItemResult := []
  touchedFeatures : List Touched := []
  dirtyMemberCurves : List DirtyCurve := []
  structureFindings : List StructureFinding := []
  geometryFindings : List GeometryVerdict := []
  currentIndex : ℕ := 0
  currentAction : Option String := none
  currentCollection : Option String := none
  currentId : Option String := none
  currentFeature : Option Json := none
  phase : Phase := .document
  structureFailed : Bool := false
  geometryFailed : Bool := false

/-- What the block fails with. -/
abbrev Failure := SqlError × TxVars

/-- The report; its findings stand under `structure` and `geometry`. -/
structure Report where
  committed : Bool
  phase : Phase
  reason : Option String
  sqlstate : Option String
  items : List ItemResult
  structureFindings : List StructureFinding
  geometryFindings : List GeometryVerdict

/-- A part of the block, failing with these variables. -/
def failing {α : Type} (vars : TxVars) (p : SqlProg Geometry SqlError α) :
    SqlProg Geometry Failure α :=
  p.mapError fun e => (e, vars)

/-- `text::uuid`. -/
def castUuid : Option String → Except SqlError (Option Uuid)
  | none => .ok none
  | some s =>
    match Uuid.uuidIn s with
    | some id => .ok (some id)
    | none => .error ⟨"22P02", s!"invalid input syntax for type uuid: \"{s}\""⟩

/-! ### Items -/

/-- The head of the loop: the variables of the current item. -/
def readItem (env : Env) (vars : TxVars) (item : Json) (index : ℕ) : TxVars :=
  let action := arrowText env.jsonText (some item) "action"
  let feature := arrow (some item) "feature"
  { vars with
    phase := .items
    currentIndex := index
    currentAction := action
    currentCollection := arrowText env.jsonText (some item) "collection"
    currentFeature := feature
    currentId :=
      if action = some "insert" then arrowText env.jsonText feature "id"
      else arrowText env.jsonText (some item) "id" }

/-- The link targets of the current row, in order. -/
def currentTargets (plan : SchemaPlan) (coll : CollectionPlan) (id : Option String) :
    SqlProg Geometry SqlError (List DirtyCurve) := do
  let fid ← Prog.ofExcept (castUuid id)
  let targets ← Prog.select fun db =>
    .ok ((targetsFromSources plan db coll.collectionName fid.toList).insertionSort (· ≤ ·))
  pure (targets.map fun r => ⟨r.collection, some (Uuid.text r.id)⟩)

/-- The writers that answer whether they found the row. -/
def writeFound (coll : CollectionPlan) (action : String) (id : Option String)
    (write : CollectionPlan → Option Uuid → SqlProg Geometry SqlError Bool) :
    SqlProg Geometry SqlError (Option String × ItemStatus) := do
  let fid ← Prog.ofExcept (castUuid id)
  let wrote ← write coll fid
  if wrote then pure (id, if action = "delete" then .deleted else .updated)
  else Prog.raise (.p0001 s!"feature not found: {shown id}")

/-- The branches over the action: the id and the status of the report item. -/
def writeItem (gis : PostGIS Geometry) (env : Env) (n : ℕ) (coll : CollectionPlan)
    (action : Option String) (id : Option String) (feature : Option Json) :
    SqlProg Geometry SqlError (Option String × ItemStatus) :=
  match action with
  | some "insert" => do
    let createdId ← create gis env n coll feature
    pure (some (Uuid.text createdId), .created)
  | some "replace" =>
    writeFound coll "replace" id fun coll fid => replace gis env coll fid feature
  | some "update" =>
    writeFound coll "update" id fun coll fid => update gis env coll fid feature
  | some "delete" => writeFound coll "delete" id delete
  | action =>
    let shownAction := action.getD "<null>"
    Prog.raise (.p0001 s!"unknown action: {shownAction}")

/-- The collection of the current item. -/
def currentCollection (plan : SchemaPlan) (name : Option String) :
    Except SqlError CollectionPlan :=
  match name.bind plan.collection? with
  | some coll => .ok coll
  | none => .error (.p0001 s!"unknown collection: {shown name}")

/-- One turn of the loop. -/
def transactionItem (gis : PostGIS Geometry) (env : Env) (plan : SchemaPlan) (vars : TxVars)
    (x : Json × ℕ) : SqlProg Geometry Failure TxVars := do
  let vars := readItem env vars x.1 x.2
  let action := vars.currentAction
  let coll ← failing vars (Prog.ofExcept (currentCollection plan vars.currentCollection))
  let before ←
    if action ≠ none ∧ action ≠ some "insert" then
      failing vars (currentTargets plan coll vars.currentId)
    else pure []
  let vars := { vars with dirtyMemberCurves := vars.dirtyMemberCurves ++ before }
  let written ←
    failing vars (writeItem gis env x.2 coll action vars.currentId vars.currentFeature)
  let vars := { vars with
    currentId := written.1
    reportItems := vars.reportItems ++
      [{ index := x.2
         action := action
         collection := vars.currentCollection
         id := written.1
         status := written.2 }]
    touchedFeatures := vars.touchedFeatures ++ [⟨x.2, action, coll.collectionName, written.1⟩]
    dirtyMemberCurves := vars.dirtyMemberCurves ++ [⟨coll.collectionName, written.1⟩] }
  let after ←
    if action ≠ some "delete" then failing vars (currentTargets plan coll vars.currentId)
    else pure []
  pure { vars with dirtyMemberCurves := vars.dirtyMemberCurves ++ after }

/-! ### The structure phase -/

/-- The reference in a row of a recordset; with a NULL id it matches nothing. -/
def castRef (collection : String) (id : Option String) : Except SqlError (Option Ref) :=
  (castUuid id).map fun id => id.map fun id => ⟨collection, id⟩

/-- `jsonb_to_recordset`, and of its rows those that can match. -/
def recordset {α β : Type} (cast : α → Except SqlError (Option β)) (rows : List α) :
    Except SqlError (List β) :=
  (rows.mapM cast).map List.reduceOption

/-- The ids of one collection: a row of `touched_sets`. -/
def idsOf (refs : List Ref) (collection : String) : List Uuid :=
  (refs.filter fun r => r.collection = collection).map (·.id)

/-- The collections of `touched_sets`. -/
def collectionsOf (refs : List Ref) : List String := Ordered.list (refs.map (·.collection)).toFinset

/-- The touched rows. -/
def touchedRows (touched : List Touched) : Except SqlError (List Ref) :=
  recordset (fun t => castRef t.collection t.id) touched

/-- The deleted rows, each with its item. -/
def deletedRows (touched : List Touched) : Except SqlError (List (ℕ × Ref)) :=
  recordset (fun t => (castRef t.collection t.id).map fun ref => ref.map fun ref => (t.itemIndex, ref))
    (touched.filter fun t => t.action = some "delete")

/-- The dirty rows. -/
def dirtyRows (dirty : List DirtyCurve) : Except SqlError (List Ref) :=
  recordset (fun d => castRef d.collection d.id) dirty

/-- The links whose target an item deleted. -/
def missingFindings (plan : SchemaPlan) (db : Db Geometry) (deleted : List (ℕ × Ref)) :
    List MissingFinding :=
  let refs := deleted.map Prod.snd
  let missing := (collectionsOf refs).flatMap fun collection =>
    (sourcesUsing plan db collection (idsOf refs collection)).flatMap fun s =>
      (deleted.filter fun r => r.2 = ⟨collection, s.targetId⟩).map fun r =>
        { source := s.source
          property := s.property
          target := r.2
          deletedByItem := r.1 }
  missing.insertionSort fun a b =>
    toLex (a.source, toLex (a.property, a.target)) ≤ toLex (b.source, toLex (b.property, b.target))

/-- The rows with a link to a touched row. -/
def reverseSurfaces (plan : SchemaPlan) (db : Db Geometry) (refs : List Ref) : Finset Ref :=
  (((collectionsOf refs).flatMap fun collection =>
    sourcesUsing plan db collection (idsOf refs collection)).map (·.source)).toFinset

/-- The touched rows and those with a link to one. -/
def dirtySurfaces (plan : SchemaPlan) (db : Db Geometry) (refs : List Ref) : Finset Ref :=
  refs.toFinset ∪ reverseSurfaces plan db refs

/-- The invalid verdicts over the dirty surfaces. -/
def footprintFindings (plan : SchemaPlan) (db : Db Geometry) (refs : List Ref) :
    List StructureVerdict :=
  ((Ordered.list (dirtySurfaces plan db refs)).filterMap
    (footprintStructureVerdict plan db)).filter fun verdict => !verdict.valid

/-- The bounds findings over the dirty rows. -/
def boundsFindings (plan : SchemaPlan) (db : Db Geometry) (dirty : List Ref) :
    List BoundsFinding :=
  ((collectionsOf dirty).flatMap fun collection =>
    checkMemberBounds plan db collection (idsOf dirty collection)).insertionSort fun a b =>
      (⟨a.collection, a.id⟩ : Ref) ≤ ⟨b.collection, b.id⟩

/-- The structure phase, of a document that touched something. -/
def structurePhase (plan : SchemaPlan) (vars : TxVars) : SqlProg Geometry Failure TxVars :=
  if vars.touchedFeatures = [] then pure vars
  else do
    let vars := { vars with phase := .structure }
    let missing ← failing vars <| Prog.select fun db => do
      let deleted ← deletedRows vars.touchedFeatures
      .ok (missingFindings plan db deleted)
    let footprints ← failing vars <| Prog.select fun db => do
      let refs ← touchedRows vars.touchedFeatures
      .ok (footprintFindings plan db refs)
    let bounds ← failing vars <| Prog.select fun db => do
      let dirty ← dirtyRows vars.dirtyMemberCurves
      .ok (boundsFindings plan db dirty)
    pure { vars with
      structureFindings :=
        missing.map .missing ++ footprints.map .footprint ++ bounds.map .bounds }

/-! ### The geometry phase -/

/-- A measured surface: a row with its verdict and its footprint. -/
structure Measured (Geometry : Type) where
  ref : Ref
  verdict : GeometryVerdict
  footprint : Option Geometry

/-- The measured surfaces of `_apply_dirty_footprints`; those without a verdict
play no part in it. -/
def measureSurfaces (gis : PostGIS Geometry) (plan : SchemaPlan) (db : Db Geometry)
    (refs : List Ref) : Except SqlError (List (Measured Geometry)) := do
  let measured ← (Ordered.list (dirtySurfaces plan db refs)).mapM fun ref => do
    let verdict ← footprintGeometryVerdict gis plan db ref
    pure (verdict.map fun x => ⟨ref, x.1, x.2⟩)
  pure (measured.filterMap id)

/-- The `updated_…` parts: store the measured footprint. -/
def storeFootprint (gis : PostGIS Geometry) (plan : SchemaPlan) (measured : Measured Geometry) :
    Except SqlError (Write Geometry) := do
  match measured.footprint, plan.collection? measured.ref.collection with
  | some footprint, some coll => gis.typmod coll.geometry footprint
  | _, _ => pure ()
  pure (.updateRow measured.ref fun row => { row with geometry := measured.footprint })

/-- `_apply_dirty_footprints`. -/
def applyDirtyFootprints (gis : PostGIS Geometry) (plan : SchemaPlan) (touched : List Touched) :
    SqlProg Geometry SqlError (List GeometryVerdict) :=
  Prog.query fun seen _ => do
    let refs ← touchedRows touched
    let measured ← measureSurfaces gis plan seen refs
    let findings := (measured.map (·.verdict)).filter fun verdict => !verdict.valid
    if findings = [] then do
      let writes ← measured.mapM (storeFootprint gis plan)
      .ok (findings, writes)
    else .ok (findings, [])

/-- The geometry phase. -/
def geometryPhase (gis : PostGIS Geometry) (plan : SchemaPlan) (vars : TxVars) :
    SqlProg Geometry Failure TxVars :=
  if vars.touchedFeatures = [] then pure vars
  else do
    let vars := { vars with phase := .geometry }
    let findings ← failing vars (applyDirtyFootprints gis plan vars.touchedFeatures)
    pure { vars with geometryFindings := findings }

/-! ### The block and its handler -/

/-- `tx_items`. -/
def txItems (document : Option Json) : Json := (arrow document "transaction").getD (.arr [])

/-- The loop. -/
def transactionItems (gis : PostGIS Geometry) (env : Env) (plan : SchemaPlan) (vars : TxVars)
    (items : List Json) : SqlProg Geometry Failure TxVars :=
  items.zipIdx.foldlM (transactionItem gis env plan) vars

/-- The block. -/
def transactionBlock (gis : PostGIS Geometry) (env : Env) (plan : SchemaPlan)
    (document : Option Json) : SqlProg Geometry Failure TxVars := do
  let vars : TxVars := {}
  let semantic := arrowText env.jsonText document "semantic"
  if semantic.getD "" ≠ "atomic" then
    let shownSemantic := semantic.getD "<null>"
    Prog.raise (.p0001 s!"unsupported semantic: {shownSemantic}", vars)
  else
    match txItems document with
    | .arr items => do
      let vars ← transactionItems gis env plan vars items
      let vars ← structurePhase plan vars
      if vars.structureFindings ≠ [] then
        Prog.raise
          (.p0001 "transaction failed structure checks", { vars with structureFailed := true })
      else do
        let vars ← geometryPhase gis plan vars
        if vars.geometryFindings ≠ [] then
          Prog.raise
            (.p0001 "transaction failed geometry checks", { vars with geometryFailed := true })
        else pure vars
    | _ => Prog.raise (.p0001 "transaction must be an array", vars)

/-- The exception handler: class 42 is raised again, the rest is reported. -/
def exceptionHandler (failure : Failure) : Except SqlError Report :=
  let (e, vars) := failure
  if e.syntaxErrorOrAccessRuleViolation then .error e
  else if vars.structureFailed then
    .ok
      { committed := false
        phase := .structure
        reason := none
        sqlstate := none
        items := []
        structureFindings := vars.structureFindings
        geometryFindings := [] }
  else if vars.geometryFailed then
    .ok
      { committed := false
        phase := .geometry
        reason := none
        sqlstate := none
        items := []
        structureFindings := []
        geometryFindings := vars.geometryFindings }
  else if vars.phase = .items then
    .ok
      { committed := false
        phase := vars.phase
        reason := none
        sqlstate := none
        items :=
          [{ index := vars.currentIndex
             action := vars.currentAction
             collection := vars.currentCollection
             id := vars.currentId
             status := .rejected
             sqlstate := some e.sqlstate
             reason := some e.message }]
        structureFindings := []
        geometryFindings := [] }
  else
    .ok
      { committed := false
        phase := vars.phase
        reason := some e.message
        sqlstate := some e.sqlstate
        items := []
        structureFindings := []
        geometryFindings := [] }

/-- The report after the block. -/
def committedReport (vars : TxVars) : Report :=
  { committed := true
    phase := .items
    reason := none
    sqlstate := none
    items := vars.reportItems
    structureFindings := []
    geometryFindings := [] }

/-- `ogc.transaction`, over the tables of the dataset: the report and the tables
afterwards, or what the call raises. -/
def transaction (gis : PostGIS Geometry) (env : Env) (deployed : String → Option SchemaPlan)
    (dataset : String) (document : Option Json) (db : Db Geometry) :
    Except SqlError (Report × Db Geometry) :=
  match deployed dataset with
  | none => .error (.undefinedTable (dataset ++ ".collection_capability"))
  | some plan =>
    match (transactionBlock gis env plan document).run db with
    | .ok (vars, db') => .ok (committedReport vars, db')
    | .error failure => (exceptionHandler failure).map fun report => (report, db)

end Geocomponents
