/-
Reading a feature (`geocomponents/schema/functions.py`: `_geom_from_feature`,
`_prop_read`, and the blocks of `_enum_checks`, `_nested_checks` and
`_geom_checks`).

Each check block is the `Except` of its `raise`; `guardedByPresence` is the PATCH
form, which checks only what the feature names.
-/
import Topogdb.Geocomponents.Db

namespace Geocomponents

open Sql

variable {Geometry : Type} (gis : PostGIS Geometry) (env : Env)

/-! ### Values -/

/-- `feature->'properties'`. -/
def properties (feature : Option Json) : Option Json := arrow feature "properties"

/-- `_geom_from_feature`. -/
def geomFromFeature (geometry : GeometryColumnPlan) (feature : Option Json) :
    Except SqlError (Option Geometry) :=
  match arrow feature "geometry" with
  | some (.obj members) => do
    let geom ← gis.geomFromGeoJSON (.obj members)
    let geom := gis.setSRID geom geometry.srid
    .ok (some (if geometry.hasZ then gis.force3D geom else geom))
  | _ => .ok none

/-- `_prop_read`. -/
def propRead (col : ColumnPlan) (feature : Option Json) : Except SqlError (Option Datum) :=
  if col.sqlType = "jsonb" then
    match arrow (properties feature) col.name with
    | none => .ok none
    | some value => do
      let value ← col.stripKeys.foldlM (fun value key => deletePath key value) value
      let value :=
        col.writeInject.foldl (fun value key => concatMember key (.str env.nowText) value) value
      .ok (some (.json value))
  else
    match arrowText env.jsonText (properties feature) col.name with
    | none => .ok none
    | some text => (env.cast col.sqlType text).map some

/-- The value of a `server_write_expr`, assigned to its column. -/
def serverWrite (col : ColumnPlan) (feature : Option Json) :
    ServerWriteExpr → Except SqlError (Option Datum)
  | .now => (env.assignNow col.sqlType).map some
  | .featurePropertyText [] => .ok none
  | .featurePropertyText (head :: tail) =>
    -- `_feature_property_text_expr`: arrows, and `->>` at the last part
    let leaf := (head :: tail).getLast (List.cons_ne_nil head tail)
    let parent := (head :: tail).dropLast.foldl arrow (properties feature)
    match arrowText env.jsonText parent leaf with
    | none => .ok none
    | some text => (env.assignText col.sqlType text).map some

/-! ### Codes -/

/-- The block of one column of `_enum_checks`. -/
def enumCheck (guardedByPresence : Bool) (feature : Option Json) (col : ColumnPlan) :
    Except SqlError Unit :=
  if col.codelistValues = [] then .ok ()
  else
    let value := arrowText env.jsonText (properties feature) col.name
    let invalid := (isNotNull value).and (notIn value col.codelistValues)
    let condition :=
      if guardedByPresence then (hasKey (properties feature) col.name).and invalid else invalid
    raiseIf condition s!"field {col.name}: value {shown value} is not a valid code"

/-- `_enum_checks`. -/
def enumChecks (writable : List ColumnPlan) (guardedByPresence : Bool) (feature : Option Json) :
    Except SqlError Unit :=
  writable.forM (enumCheck env guardedByPresence feature)

/-! ### Nested objects -/

/-- The JSON type of the values of a column type. -/
def expectedJsonType (sqlType : String) : String :=
  match sqlType with
  | "integer" | "double precision" => "number"
  | "boolean" => "boolean"
  | "jsonb" => "object"
  | _ => "string"

/-- The first member that no field declares. -/
def undeclaredChild (object : Option Json) (declared : List String) : Option String :=
  match object with
  | some (.obj members) => (members.map Prod.fst).find? (· ∉ declared)
  | _ => none

/-- A number that is not whole. -/
def isFractional : Option Json → Tri
  | some (.num q) => some (q.den ≠ 1)
  | _ => none

/-- The head of `_nested_object_checks`. -/
def undeclaredCheck (object : Option Json) (objectPath : String) (declared : List String) :
    Except SqlError Unit :=
  let unknown := undeclaredChild object declared
  raiseIf ((eq (typeOf object) (some "object")).and (isNotNull unknown))
    s!"field {objectPath}: undeclared child {shown unknown}"

mutual

/-- `_nested_field_checks`. -/
def nestedFieldChecks (parent : Option Json) (parentPath : String) :
    NestedFieldPlan → Except SqlError Unit
  | .mk name sqlType required serverSupplied codelistValues fields => do
    let path := parentPath ++ "." ++ name
    let value := arrow parent name
    let text := value.bind (textOf env.jsonText)
    if required && !serverSupplied then
      raiseIf ((hasKey parent name).not.or (eq (typeOf value) (some "null")))
        s!"field {path}: required value is missing"
    let expected := expectedJsonType sqlType
    raiseIf ((hasKey parent name).and (notIn (typeOf value) ["null", expected]))
      s!"field {path}: expected {expected}"
    if sqlType = "integer" then
      raiseIf ((eq (typeOf value) (some "number")).and (isFractional value))
        s!"field {path}: expected integer"
    if codelistValues ≠ [] then
      raiseIf ((eq (typeOf value) (some "string")).and (notIn text codelistValues))
        s!"field {path}: value {shown text} is not a valid code"
    match fields with
    | [] => pure ()
    | field :: rest => do
      undeclaredCheck value path ((field :: rest).map (·.name))
      nestedFieldChecks value path field
      nestedFieldsChecks value path rest

/-- The loop of `_nested_object_checks`. -/
def nestedFieldsChecks (object : Option Json) (objectPath : String) :
    List NestedFieldPlan → Except SqlError Unit
  | [] => pure ()
  | field :: fields => do
    nestedFieldChecks object objectPath field
    nestedFieldsChecks object objectPath fields

end

/-- `_nested_object_checks`. -/
def nestedObjectChecks (fields : List NestedFieldPlan) (object : Option Json)
    (objectPath : String) : Except SqlError Unit := do
  undeclaredCheck object objectPath (fields.map (·.name))
  nestedFieldsChecks env object objectPath fields

/-- The block of one column of `_nested_checks`. -/
def nestedCheck (guardedByPresence : Bool) (feature : Option Json) (column : ColumnPlan) :
    Except SqlError Unit :=
  if column.nestedFields = [] then .ok ()
  else do
    let present := hasKey (properties feature) column.name
    let object := arrow (properties feature) column.name
    if !guardedByPresence && !column.nullable then
      raiseIf (present.not.or (eq (typeOf object) (some "null")))
        s!"field {column.name}: required value is missing"
    let wrongType := notIn (typeOf object) ["object", "null"]
    raiseIf (if guardedByPresence then present.and wrongType else wrongType)
      s!"field {column.name}: expected object"
    if !guardedByPresence || present.holds then
      nestedObjectChecks env column.nestedFields object column.name

/-- `_nested_checks`. -/
def nestedChecks (writable : List ColumnPlan) (guardedByPresence : Bool) (feature : Option Json) :
    Except SqlError Unit :=
  writable.forM (nestedCheck env guardedByPresence feature)

/-! ### Geometry -/

/-- `_derived_geometry_guard`. -/
def derivedGeometryGuard (coll : CollectionPlan) (derived : DerivedPlan)
    (guardedByPresence : Bool) (feature : Option Json) : Except SqlError Unit := do
  let props := ", ".intercalate ((derivedRoles derived).map (·.property))
  if !guardedByPresence then
    raiseIf (hasKey feature "geometry").not "missing geometry"
  raiseIf ((hasKey feature "geometry").and (ne (typeOf (arrow feature "geometry")) (some "null")))
    (s!"collection {coll.collectionName}: geometry is derived from boundary properties {props}; " ++
      "geometry must be null")

/-- `_geom_checks`. -/
def geomChecks (coll : CollectionPlan) (guardedByPresence : Bool) (feature : Option Json) :
    Except SqlError Unit :=
  match coll.derived with
  | some derived => derivedGeometryGuard coll derived guardedByPresence feature
  | none => do
    let present := hasKey feature "geometry"
    let geometryType := typeOf (arrow feature "geometry")
    let invalidType :=
      if coll.geometry.nullable then notIn geometryType ["object", "null"]
      else ne geometryType (some "object")
    raiseIf (if guardedByPresence then present.and invalidType else present.not.or invalidType)
      "missing geometry"
    if geometryType = some "object" then do
      match ← geomFromFeature gis coll.geometry feature with
      | none => pure ()
      | some geom => do
        let valid ← gis.isValid geom
        raiseIf (some !valid) "invalid geometry"
        let simple ← gis.isSimple geom
        raiseIf (some !simple) "non-simple geometry"

/-- The checks that every complete or partial write begins with. -/
def guardBlock (coll : CollectionPlan) (guardedByPresence : Bool) (feature : Option Json) :
    Except SqlError Unit := do
  enumChecks env coll.writableColumns guardedByPresence feature
  nestedChecks env coll.writableColumns guardedByPresence feature
  geomChecks gis coll guardedByPresence feature

end Geocomponents
