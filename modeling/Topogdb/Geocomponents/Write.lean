/-
The generated write functions of a collection
(`geocomponents/schema/functions.py`: `_fn_create`, `_fn_replace`, `_fn_update`,
`_fn_delete`, `_fn_upsert` and the link helpers).

Each statement of a function body is a statement of the program.  A statement
finds its rows in what it saw when it began; those that it writes by their id it
writes in their latest versions.

`n` is the number of the write within the call: it picks the random id and the
sequence values that the write draws.
-/
import Topogdb.Geocomponents.Feature

namespace Geocomponents

open Sql

variable {Geometry : Type} (gis : PostGIS Geometry) (env : Env)

/-! ### Links -/

/-- One element of a link property: the checks of `_link_validation_block` and
the look-up of the target. -/
def linkTarget (role : CollectionRolePlan) (elem : Json) : SqlProg Geometry SqlError Uuid := do
  let featuretype := arrowText env.jsonText (some elem) "featuretype"
  let value := arrowText env.jsonText (some elem) role.oiLeaf
  let shownType := featuretype.getD "null"
  let shownValue := value.getD "null"
  Prog.ofExcept do
    raiseIf (ne (typeOf (some elem)) (some "object"))
      s!"property {role.property}: element is not an object"
    raiseIf (some (featuretype ≠ some role.targetCollection))
      (s!"property {role.property}: featuretype {shownType} is not " ++
        role.targetCollection)
    raiseIf (hasKey (some elem) role.oiLeaf).not
      s!"property {role.property}: expected identifier key {role.oiLeaf}"
  match value.bind Uuid.uuidIn with
  | none =>
    Prog.raise (.p0001
      s!"field {role.property}.{role.oiLeaf}: value {shownValue} is not a uuid")
  | some id => do
    let found ← Prog.select fun db => .ok (db.row? ⟨role.targetCollection, id⟩).isSome
    if found then pure id
    else
      Prog.raise (.p0001
        (s!"property {role.property}: missing_member {shownValue} not found in " ++
          role.targetCollection))

/-- `_link_validation_block`: the ids that the property names.  A `properties`
that holds the name without having such a member (an array or the text itself)
names none. -/
def linkIds (feature : Option Json) (role : CollectionRolePlan) :
    SqlProg Geometry SqlError (List Uuid) :=
  let property := arrow (properties feature) role.property
  if (hasKey (properties feature) role.property).holds then
    match property with
    | none => pure []
    | some (.arr elems) => do
      let ids ← elems.mapM (linkTarget env role)
      if ids.Nodup then pure ids
      else Prog.raise (.p0001 s!"property {role.property}: duplicate target")
    | some _ => Prog.raise (.p0001 s!"property {role.property}: expected array")
  else pure []

/-- The validation blocks of all link properties. -/
def linkValidation (roles : List CollectionRolePlan) (feature : Option Json) :
    SqlProg Geometry SqlError (List (CollectionRolePlan × List Uuid)) :=
  roles.mapM fun role => do
    let ids ← linkIds env feature role
    pure (role, ids)

/-- `insert into association … select …, unnest(ids)`. -/
def insertLinks (source : Ref) (property : String) (ids : List Uuid) :
    SqlProg Geometry SqlError Unit :=
  Prog.query fun _ latest =>
    if ids.any fun id => (⟨source, property, id⟩ : Link) ∈ latest.association then
      .error ⟨"23505", "duplicate key value violates unique constraint \"association_pkey\""⟩
    else .ok ((), ids.map fun id => .link ⟨source, property, id⟩)

/-- `delete from association where source_collection = … and source_id = … and
property in (…)`. -/
def deleteLinks (source : Ref) (hasProperty : String → Bool) : SqlProg Geometry SqlError Unit :=
  Prog.query fun seen _ =>
    .ok ((), (Ordered.list (seen.association.filter fun l =>
      l.source = source ∧ hasProperty l.property)).map .unlink)

/-- `_link_write_create` and `_link_write_put`: write the properties that the
feature names. -/
def linkWrites (source : Ref) (feature : Option Json)
    (links : List (CollectionRolePlan × List Uuid)) : SqlProg Geometry SqlError Unit :=
  links.forM fun x =>
    if (hasKey (properties feature) x.1.property).holds then insertLinks source x.1.property x.2
    else pure ()

/-- `_link_write_patch`: replace the properties that the feature names. -/
def linkWritesPatch (source : Ref) (feature : Option Json)
    (links : List (CollectionRolePlan × List Uuid)) : SqlProg Geometry SqlError Unit :=
  links.forM fun x =>
    if (hasKey (properties feature) x.1.property).holds then do
      deleteLinks source fun property => property = x.1.property
      insertLinks source x.1.property x.2
    else pure ()

/-- `_link_clear_all`. -/
def linkClearAll (source : Ref) (roles : List CollectionRolePlan) :
    SqlProg Geometry SqlError Unit :=
  deleteLinks source fun property => roles.any fun role => role.property = property

/-- `_link_upsert_guards`. -/
def linkUpsertGuards (roles : List CollectionRolePlan) (feature : Option Json) :
    Except SqlError Unit :=
  roles.forM fun role =>
    raiseIf (hasKey (properties feature) role.property)
      s!"property {role.property}: upsert does not support link properties; use ogc.transaction"

/-! ### Values -/

/-- What a write assigns: a geometry or none, and some columns. -/
structure Assignments (Geometry : Type) where
  geometry : Option (Option Geometry)
  columns : List (String × Option Datum)

/-- The assignments over a row; every write refreshes `updated_at`. -/
def Row.assign (row : Row Geometry) (values : Assignments Geometry) (now : Datum) : Row Geometry :=
  { row with
    geometry := values.geometry.getD row.geometry
    columns := fun c => (values.columns.lookup c).getD (row.columns c)
    updatedAt := now }

/-- `_geometry_insert_value` and `_geometry_replace_value`. -/
def geometryValue (coll : CollectionPlan) (feature : Option Json) :
    Except SqlError (Option Geometry) :=
  if coll.derived.isSome then .ok none else geomFromFeature gis coll.geometry feature

/-- The type modifier and the NOT NULL constraints, on what is assigned. -/
def checkRow (coll : CollectionPlan) (values : Assignments Geometry) : Except SqlError Unit := do
  let notNull (column : String) : SqlError :=
    ⟨"23502", s!"null value in column \"{column}\" of relation \"{coll.collectionName}\" " ++
      "violates not-null constraint"⟩
  match values.geometry with
  | some (some geom) => gis.typmod coll.geometry geom
  | some none => if coll.geometry.nullable then pure () else .error (notNull "geometry")
  | none => pure ()
  coll.columns.forM fun col =>
    if !col.nullable && (values.columns.lookup col.name).any Option.isNone then
      .error (notNull col.name)
    else pure ()

/-- The values of a complete write. -/
def completeValues (coll : CollectionPlan) (feature : Option Json) :
    Except SqlError (Assignments Geometry) := do
  let geometry ← geometryValue gis coll feature
  let writable ← coll.writableColumns.mapM fun col => do
    let value ← propRead env col feature
    pure (col.name, value)
  let server ← coll.serverWriteColumns.mapM fun x => do
    let value ← serverWrite env x.1 feature x.2
    pure (x.1.name, value)
  let values : Assignments Geometry := ⟨some geometry, writable ++ server⟩
  checkRow gis coll values
  pure values

/-- The values of a partial write: `_geometry_update_value`, and the columns that
the feature names. -/
def partialValues (coll : CollectionPlan) (feature : Option Json) :
    Except SqlError (Assignments Geometry) := do
  let geometry ←
    if coll.derived.isSome || (hasKey feature "geometry").holds then
      (geometryValue gis coll feature).map some
    else pure none
  let named := coll.writableColumns.filter fun col =>
    (hasKey (properties feature) col.name).holds
  let writable ← named.mapM fun col => do
    let value ← propRead env col feature
    pure (col.name, value)
  let server ← coll.serverWriteColumns.mapM fun x => do
    let value ← serverWrite env x.1 feature x.2
    pure (x.1.name, value)
  let values : Assignments Geometry := ⟨geometry, writable ++ server⟩
  checkRow gis coll values
  pure values

/-- The row that an insert stores, with its defaults. -/
def newRow (n : ℕ) (coll : CollectionPlan) (values : Assignments Geometry) : Row Geometry :=
  Row.assign
    { geometry := none
      columns := fun c =>
        if coll.columns.any fun col => col.name = c && col.autoIncrement then
          some (env.identity n c)
        else none
      createdAt := env.now
      updatedAt := env.now }
    values env.now

/-! ### Identifiers -/

/-- `feature->>'id'`. -/
def featureId (feature : Option Json) : Option String := arrowText env.jsonText feature "id"

/-- `_oi_raw`: the outward identifier in the properties. -/
def oiRaw (coll : CollectionPlan) (feature : Option Json) : Option String :=
  coll.oiColumn.bind fun x =>
    arrowText env.jsonText (arrow (properties feature) x.1) x.2

/-- `_uuid_check`. -/
def uuidCheck (value : Option String) (fieldPath : String) : Except SqlError Unit :=
  raiseIf ((isNotNull value).and (some (value.bind Uuid.uuidIn).isNone))
    s!"field {fieldPath}: value {shown value} is not a uuid"

/-- The id checks of `_fn_create` and `_fn_upsert`. -/
def idChecks (coll : CollectionPlan) (feature : Option Json) : Except SqlError Unit := do
  uuidCheck (featureId env feature) "id"
  match coll.oiColumn with
  | some (column, key) => uuidCheck (oiRaw env coll feature) s!"{column}.{key}"
  | none => pure ()

/-- Whether the two identifiers of a feature disagree, as texts. -/
def idsDisagree (coll : CollectionPlan) (feature : Option Json) : Except SqlError Unit :=
  raiseIf (ne (featureId env feature) (oiRaw env coll feature))
    (s!"feature.id and outward identifier disagree: {shown (featureId env feature)}, " ++
      shown (oiRaw env coll feature))

/-- The id that the feature names; the checks made it a uuid. -/
def givenId (coll : CollectionPlan) (feature : Option Json) : Option Uuid :=
  (featureId env feature).bind Uuid.uuidIn <|> (oiRaw env coll feature).bind Uuid.uuidIn

/-- The `oi_guard` of `_fn_replace` and `_fn_update`. -/
def oiGuard (coll : CollectionPlan) (fid : Option Uuid) (feature : Option Json) :
    Except SqlError Unit :=
  raiseIf (ne (oiRaw env coll feature) (fid.map Uuid.text)) "outward identifier does not match"

/-! ### The functions -/

/-- `insert into <table> … returning id`. -/
def insertRow (n : ℕ) (coll : CollectionPlan) (id : Uuid) (feature : Option Json) :
    SqlProg Geometry SqlError Unit :=
  Prog.query fun _ latest => do
    let values ← completeValues gis env coll feature
    if (latest.row? ⟨coll.collectionName, id⟩).isSome then
      .error ⟨"23505", s!"duplicate key value violates unique constraint \"{coll.collectionName}_pkey\""⟩
    else .ok ((), [.insertRow ⟨coll.collectionName, id⟩ (newRow env n coll values)])

/-- `exception when unique_violation then raise exception 'duplicate identifier %'`. -/
def duplicateIdentifier (coll : CollectionPlan) (feature : Option Json) (e : SqlError) : SqlError :=
  if e.sqlstate = "23505" then
    .p0001 s!"duplicate identifier {shown (featureId env feature <|> oiRaw env coll feature)}"
  else e

/-- `_fn_create`. -/
def create (n : ℕ) (coll : CollectionPlan) (feature : Option Json) :
    SqlProg Geometry SqlError Uuid := do
  Prog.ofExcept do
    idChecks env coll feature
    guardBlock gis env coll false feature
  let links ← linkValidation env coll.roles feature
  Prog.ofExcept (idsDisagree env coll feature)
  let newId := (givenId env coll feature).getD (env.genRandomUuid n)
  (insertRow gis env n coll newId feature).mapError (duplicateIdentifier env coll feature)
  linkWrites ⟨coll.collectionName, newId⟩ feature links
  pure newId

/-- A row that `where id = …` finds: it was seen when the statement began, and is
still there. -/
def Db.finds (seen latest : Db Geometry) (ref : Ref) : Bool :=
  (seen.row? ref).isSome && (latest.row? ref).isSome

@[simp] theorem Db.finds_self (db : Db Geometry) (ref : Ref) :
    Db.finds db db ref = (db.row? ref).isSome := Bool.and_self _

/-- `update <table> set … where id = fid`; whether a row was found. -/
def updateRow (coll : CollectionPlan) (fid : Option Uuid)
    (values : Except SqlError (Assignments Geometry)) : SqlProg Geometry SqlError Bool :=
  Prog.query fun seen latest =>
    match fid with
    | none => .ok (false, [])
    | some id =>
      if seen.finds latest ⟨coll.collectionName, id⟩ then do
        let values ← values
        .ok (true, [.updateRow ⟨coll.collectionName, id⟩ fun row => row.assign values env.now])
      else .ok (false, [])

/-- What `_fn_replace` and `_fn_update` do around their own parts. -/
def writeExisting (guardedByPresence : Bool) (coll : CollectionPlan) (fid : Option Uuid)
    (feature : Option Json) (values : Except SqlError (Assignments Geometry))
    (writeLinks : Ref → List (CollectionRolePlan × List Uuid) → SqlProg Geometry SqlError Unit) :
    SqlProg Geometry SqlError Bool := do
  Prog.ofExcept do
    guardBlock gis env coll guardedByPresence feature
    oiGuard env coll fid feature
  let links ← linkValidation env coll.roles feature
  let found ← updateRow env coll fid values
  match found, fid with
  | true, some id => do
    writeLinks ⟨coll.collectionName, id⟩ links
    pure true
  | _, _ => pure false

/-- `_fn_replace`. -/
def replace (coll : CollectionPlan) (fid : Option Uuid) (feature : Option Json) :
    SqlProg Geometry SqlError Bool :=
  writeExisting gis env false coll fid feature (completeValues gis env coll feature)
    fun source links => do
      linkClearAll source coll.roles
      linkWrites source feature links

/-- `_fn_update`. -/
def update (coll : CollectionPlan) (fid : Option Uuid) (feature : Option Json) :
    SqlProg Geometry SqlError Bool :=
  writeExisting gis env true coll fid feature (partialValues gis env coll feature)
    fun source links => linkWritesPatch source feature links

/-- `_fn_delete`: the links of the row go first, those to it stay. -/
def delete (coll : CollectionPlan) (fid : Option Uuid) : SqlProg Geometry SqlError Bool :=
  match fid with
  | none => pure false
  | some id => do
    if coll.roles ≠ [] then deleteLinks ⟨coll.collectionName, id⟩ fun _ => true
    Prog.query fun seen latest =>
      if seen.finds latest ⟨coll.collectionName, id⟩ then
        .ok (true, [.deleteRow ⟨coll.collectionName, id⟩])
      else .ok (false, [])

/-- `_fn_upsert`. -/
def upsert (n : ℕ) (coll : CollectionPlan) (feature : Option Json) :
    SqlProg Geometry SqlError Uuid := do
  Prog.ofExcept do
    linkUpsertGuards coll.roles feature
    idChecks env coll feature
    guardBlock gis env coll false feature
    if coll.oiColumn.isSome && (givenId env coll feature).isNone then
      .error (.p0001 "upsert requires an identifier")
    idsDisagree env coll feature
  let id := (givenId env coll feature).getD (env.genRandomUuid n)
  Prog.query fun _ latest => do
    let values ← completeValues gis env coll feature
    let write : Write Geometry :=
      if (latest.row? ⟨coll.collectionName, id⟩).isSome then
        .updateRow ⟨coll.collectionName, id⟩ fun row => row.assign values env.now
      else .insertRow ⟨coll.collectionName, id⟩ (newRow env n coll values)
    .ok (id, [write])

end Geocomponents
