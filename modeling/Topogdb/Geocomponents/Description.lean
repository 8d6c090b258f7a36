/-
Dataset descriptions (`geocomponents/descriptions/models.py` and `loader.py`).

The raw models carry what pydantic validates, so that a document it refuses
cannot be built.  `resolveDataset` merges the commons into every collection and
resolves types, code lists, paths, relationships and derived geometries.

Left out: titles, descriptions, labels and the documentation-only `enum` values.
-/
import Topogdb.Geocomponents.Plan
import Topogdb.Lib.Python
import Topogdb.Lib.Raises

namespace Geocomponents

open Python

/-! ### Raw documents -/

/-- `^[a-z_][a-z0-9_]*$`, of 1 to 40 characters. -/
def isSafeIdentifier (s : String) : Bool :=
  match s.toList with
  | [] => false
  | c :: cs =>
    (c.isLower || c = '_') && cs.all (fun c => c.isLower || c.isDigit || c = '_') &&
      cs.length < 40

/-- `SafeIdentifier`. -/
abbrev SafeIdentifier := { s : String // isSafeIdentifier s = true }

/-- `FieldType`. -/
structure FieldType where
  name : SafeIdentifier
  sqlType : String

/-- `CodeList`, with the codes of its values. -/
structure CodeList where
  name : SafeIdentifier
  values : List String := []

/-- `FieldDef`. -/
structure FieldDef where
  name : SafeIdentifier
  type : Option String := none
  typeRef : Option String := none
  codelist : Option String := none
  required : Bool := false
  autoIncrement : Bool := false
  fields : List FieldDef := []
  indexable : Bool := false

/-- `FieldDef._exactly_one_type_source`. -/
def FieldDef.exactlyOneTypeSource (field : FieldDef) : Except String Unit := do
  if field.type = some "object" then
    if field.fields.isEmpty then
      .error "field with type='object' must have at least one sub-field in 'fields'"
    if field.typeRef.isSome || field.codelist.isSome then
      .error "field with type='object' must not also set type_ref or codelist"
  else
    let set := [field.type, field.typeRef, field.codelist].countP Option.isSome
    if set ≠ 1 then
      .error s!"field must set exactly one of type / type_ref / codelist (got {set})"
  if field.autoIncrement && field.type ≠ some "integer" then
    .error "auto_increment is only supported for integer fields"

/-- A field that pydantic accepts, at every depth. -/
inductive FieldDef.Valid : FieldDef → Prop
  | intro {field : FieldDef} (source : field.exactlyOneTypeSource = .ok ())
      (fields : ∀ sub ∈ field.fields, Valid sub) : Valid field

inductive GeometryType where
  | point
  | multiPoint
  | lineString
  | multiLineString
  | polygon
  | multiPolygon
  | geometryCollection
deriving DecidableEq

def GeometryType.value : GeometryType → String
  | point => "Point"
  | multiPoint => "MultiPoint"
  | lineString => "LineString"
  | multiLineString => "MultiLineString"
  | polygon => "Polygon"
  | multiPolygon => "MultiPolygon"
  | geometryCollection => "GeometryCollection"

/-- `_LINE_GEOMETRY_TYPES`. -/
def GeometryType.isLine : GeometryType → Bool
  | lineString | multiLineString => true
  | _ => false

/-- `DerivedRoleDef`. -/
structure DerivedRoleDef where
  name : String
  when : Option SafeIdentifier := none
  name_ne : name ≠ "" := by decide

/-- `DerivedDef`; `footprint` is the only rule. -/
structure DerivedDef where
  areas : DerivedAreas
  holes : DerivedHoles
  oneOf : List (List DerivedRoleDef)
  oneOf_ne : oneOf ≠ [] ∧ ∀ alternative ∈ oneOf, alternative ≠ []

/-- `GeometryDef`. -/
structure GeometryDef where
  type : GeometryType := .point
  srid : ℤ := 4326
  hasZ : Bool := false
  required : Bool := true
  derived : Option DerivedDef := none
  derived_type : derived.isSome = true → type = .multiPolygon := by decide

/-- `RelationshipDef`. -/
structure RelationshipDef where
  property : String
  target : SafeIdentifier

/-- `_VALID_SERVER_MANAGED_TOKENS`. -/
inductive ServerManagedToken where
  | outwardIdentifier
  | timestampIso
deriving DecidableEq

/-- `CollectionDef`; `serverManaged` is a dictionary. -/
structure CollectionDef where
  name : SafeIdentifier
  featureModel : FeatureModel := .simple
  bounds : Option ℕ := none
  geometry : GeometryDef := {}
  fields : List FieldDef := []
  relationships : List RelationshipDef := []
  outwardIdentifier : Option String := none
  serverManaged : List (String × ServerManagedToken) := []
  bounds_value : ∀ b, bounds = some b → b = 1 ∨ b = 2 := by decide
  fields_valid : ∀ field ∈ fields, field.Valid
  serverManaged_nodup : (serverManaged.map Prod.fst).Nodup := by decide

/-- `Commons`. -/
structure Commons where
  baseFields : List FieldDef := []
  fieldTypes : List FieldType := []
  codeLists : List CodeList := []
  baseFields_valid : ∀ field ∈ baseFields, field.Valid

/-- `DatasetDef`. -/
structure DatasetDef where
  name : SafeIdentifier
  processes : List String := []
  collections : List CollectionDef := []
  codelists : List CodeList := []

/-! ### The resolved layer -/

/-- `ResolvedField`. -/
structure ResolvedField where
  name : String
  sqlType : String
  required : Bool := false
  autoIncrement : Bool := false
  subFields : List ResolvedField := []
  indexable : Bool := false
  codelistValues : List String := []
  codelist : Option String := none

/-- `ResolvedRelationship`. -/
structure ResolvedRelationship where
  property : String
  target : String

/-- `ResolvedDerivedRole`. -/
structure ResolvedDerivedRole where
  property : String
  target : String
  whenField : Option String := none

/-- `ResolvedDerivedDef`. -/
structure ResolvedDerivedDef where
  areas : DerivedAreas
  holes : DerivedHoles
  oneOf : List (List ResolvedDerivedRole)

/-- `ResolvedCollection`. -/
structure ResolvedCollection where
  name : String
  featureModel : FeatureModel
  geometryType : GeometryType
  srid : ℤ
  fields : List ResolvedField
  relationships : List ResolvedRelationship
  derived : Option ResolvedDerivedDef := none
  upsertField : Option String := none
  hasZ : Bool := false
  geometryRequired : Bool := true
  bounds : Option ℕ := none
  outwardIdentifierPath : Option String := none
  serverManagedPaths : List (String × ServerManagedToken) := []

/-- `ResolvedCollection.supports_upsert`. -/
def ResolvedCollection.supportsUpsert (coll : ResolvedCollection) : Bool :=
  coll.featureModel = .simple && coll.upsertField.isSome

/-- `ResolvedDataset`. -/
structure ResolvedDataset where
  name : String
  processes : List String := []
  collections : List ResolvedCollection := []

/-! ### Resolution -/

/-- What the loader, the plan and the generator raise; the message of
`unknownProcesses` shows both lists. -/
inductive PyError where
  | descriptionError (message : String)
  | unknownProcesses (dataset : String) (unknown known : List String)
  | assertionError (message : String)
  | valueError (message : String)
  | keyError (key : String)
deriving DecidableEq

/-- `BUILTIN_SQL_TYPES`. -/
def builtinSqlTypes : List (String × String) :=
  [("string", "text"), ("integer", "integer"), ("number", "double precision"),
    ("boolean", "boolean"), ("date", "date"), ("timestamp", "timestamptz"), ("uuid", "uuid"),
    ("object", "jsonb")]

/-- `known_process_ids`. -/
def knownProcessIds : List String := ["hello", "upsert-batch", "import"]

/-- The dictionary `types` of `resolve_dataset`. -/
def Commons.types (commons : Commons) : List (String × FieldType) :=
  dictOf (commons.fieldTypes.map fun t => (t.name, t))

/-- The dictionary `codelists` of `resolve_dataset`: those of the dataset replace
those of the commons. -/
def DatasetDef.allCodelists (dataset : DatasetDef) (commons : Commons) :
    List (String × CodeList) :=
  dictOf ((commons.codeLists ++ dataset.codelists).map fun c => (c.name, c))

section Fields

variable (types : List (String × FieldType)) (codelists : List (String × CodeList))

/-- The last part of `_resolve_field`: a field without sub-fields. -/
def resolveLeaf (place : String) (fld : FieldDef) : Except PyError ResolvedField :=
  match fld.codelist, fld.typeRef, fld.type with
  | some codelist, _, _ =>
    match codelists.lookup codelist with
    | none =>
      .error (.descriptionError
        s!"{place}: field '{fld.name}' references unknown code list '{codelist}'")
    | some cl =>
      .ok
        { name := fld.name, sqlType := "text", required := fld.required
          autoIncrement := fld.autoIncrement, indexable := fld.indexable
          codelistValues := cl.values, codelist := some codelist }
  | none, some typeRef, _ =>
    match types.lookup typeRef with
    | none =>
      .error (.descriptionError
        s!"{place}: field '{fld.name}' references unknown type '{typeRef}'")
    | some t =>
      .ok
        { name := fld.name, sqlType := t.sqlType, required := fld.required
          autoIncrement := fld.autoIncrement, indexable := fld.indexable }
  | none, none, some type =>
    match builtinSqlTypes.lookup type with
    | none =>
      let known := ", ".intercalate (sorted (builtinSqlTypes.map Prod.fst))
      .error (.descriptionError
        s!"{place}: field '{fld.name}' has unknown builtin type '{type}' (known: {known})")
    | some sqlType =>
      .ok
        { name := fld.name, sqlType := sqlType, required := fld.required
          autoIncrement := fld.autoIncrement, indexable := fld.indexable }
  | none, none, none =>
    .error (.assertionError
      s!"{place}: field '{fld.name}' has no type source (should be unreachable)")

mutual

/-- `_resolve_field`. -/
def resolveField (place : String) : FieldDef → Except PyError ResolvedField
  | ⟨name, type, typeRef, codelist, required, autoIncrement, fields, indexable⟩ =>
    if type = some "object" then do
      let sub ← resolveSubFields s!"{place} / field '{name}'" fields
      .ok
        { name := name, sqlType := "jsonb", required := required, subFields := sub
          indexable := indexable }
    else
      resolveLeaf types codelists place
        ⟨name, type, typeRef, codelist, required, autoIncrement, fields, indexable⟩

def resolveSubFields (place : String) : List FieldDef → Except PyError (List ResolvedField)
  | [] => .ok []
  | fld :: flds => do
    let r ← resolveField place fld
    let rs ← resolveSubFields place flds
    .ok (r :: rs)

end

/-- The loop over `merged_fields`. -/
def resolveMerged (place : String) (seen : List String) :
    List FieldDef → Except PyError (List ResolvedField)
  | [] => .ok []
  | fld :: flds => do
    if fld.name.1 ∈ seen then
      .error (.descriptionError s!"{place}: duplicate field name '{fld.name}'")
    let r ← resolveField types codelists place fld
    let rs ← resolveMerged place (seen ++ [fld.name.1]) flds
    .ok (r :: rs)

end Fields

/-- `path.split(".")`. -/
def segments (path : String) : List String := (path.toList.splitOn '.').map String.ofList

/-- `path.rsplit(".", 1)[-1]`. -/
def leaf (path : String) : String := (segments path).getLastD ""

/-- `_resolve_dot_path`, without its result. -/
def resolveDotPath (fields : List ResolvedField) (dotPath place kind : String) :
    Except PyError Unit := do
  let _ ← (segments dotPath).foldlM
    (fun current part =>
      match current.find? (·.name = part) with
      | none =>
        .error (.descriptionError
          s!"{place}: {kind} path '{dotPath}' — segment '{part}' not found")
      | some found => .ok found.subFields)
    fields
  .ok ()

/-- The check of the `outward_identifier` in `resolve_dataset`. -/
def checkOutwardIdentifier (coll : CollectionDef) (fields : List ResolvedField) (place : String) :
    Except PyError Unit :=
  match coll.outwardIdentifier with
  | none | some "" => .ok ()
  | some path => resolveDotPath fields path place "outward_identifier"

/-- `d.setdefault(k, v)`. -/
def setDefault (d : List (String × String)) (k v : String) : List (String × String) :=
  if (d.lookup k).isSome then d else d ++ [(k, v)]

/-- `_upsert_alias_paths`. -/
def upsertAliasPaths (fields : List ResolvedField) (outwardIdentifierPath : Option String) :
    List (String × String) :=
  let names := dictOf (fields.map fun f => (f.name, f.name))
  let subNames := fields.flatMap fun f =>
    f.subFields.map fun sub => (f.name ++ "_" ++ sub.name, f.name ++ "." ++ sub.name)
  let aliases := subNames.foldl (fun d e => setDefault d e.1 e.2) names
  match outwardIdentifierPath with
  | none | some "" => aliases
  | some path => setDefault (setDefault aliases path path) (leaf path) path

/-- `_resolved_upsert_field`. -/
def resolvedUpsertField (coll : CollectionDef) (fields : List ResolvedField) : Option String :=
  match coll.outwardIdentifier with
  | none | some "" => if fields.any (·.name = "lokalid") then some "lokalid" else none
  | some path => some path

/-- The two checks of the upsert field in `resolve_dataset`. -/
def checkUpsertField (coll : CollectionDef) (fields : List ResolvedField)
    (autoIncrementFields : List String) (place : String) : Except PyError Unit :=
  match resolvedUpsertField coll fields with
  | none => .ok ()
  | some field =>
    match (upsertAliasPaths fields coll.outwardIdentifier).lookup field with
    | none =>
      .error (.descriptionError
        s!"{place}: resolved upsert field references unknown field '{field}'")
    | some path =>
      if path ∈ autoIncrementFields then
        .error (.descriptionError
          s!"{place}: resolved upsert field cannot use auto-increment field '{field}'")
      else .ok ()

/-- `_resolve_relationships`. -/
def resolveRelationships (coll : CollectionDef) (collectionNames : List String)
    (place : String) : Except PyError (List ResolvedRelationship) :=
  coll.relationships.mapM fun rel =>
    if rel.target.1 ∈ collectionNames then .ok ⟨rel.property, rel.target⟩
    else
      .error (.descriptionError
        (s!"{place}: relationship '{rel.property}' targets unknown collection " ++
          s!"'{rel.target}' (cross-dataset refs not allowed)"))

section Derived

variable (coll : CollectionDef) (relationships : List ResolvedRelationship)
  (collectionsByName : List (String × CollectionDef))
  (fieldsByCollection : List (String × List ResolvedField)) (place : String)

/-- The `when` part of one derived role. -/
def resolveWhen (role : DerivedRoleDef) (target : String) :
    Except PyError (Option String) :=
  match role.when with
  | none => .ok none
  | some when =>
    match fieldsByCollection.lookup target with
    | none => .error (.keyError target)
    | some targetFields =>
      match targetFields.find? (·.name = when.1) with
      | none =>
        .error (.descriptionError
          (s!"{place}: derived property '{role.name}' names unknown when field '{when}' " ++
            s!"on target collection '{target}'"))
      | some field =>
        if field.sqlType ≠ "boolean" then
          .error (.descriptionError
            (s!"{place}: derived property '{role.name}' names non-boolean when field " ++
              s!"'{when}' on target collection '{target}'"))
        else .ok (some field.name)

/-- One role of `_resolve_derived`. -/
def resolveDerivedRole (role : DerivedRoleDef) : Except PyError ResolvedDerivedRole :=
  match (dictOf (relationships.map fun rel => (rel.property, rel))).lookup role.name with
  | none =>
    .error (.descriptionError
      s!"{place}: derived property '{role.name}' is not a declared relationship")
  | some relationship =>
    match collectionsByName.lookup relationship.target with
    | none => .error (.keyError relationship.target)
    | some target => do
      if !target.geometry.type.isLine then
        .error (.descriptionError
          (s!"{place}: derived property '{role.name}' targets collection " ++
            s!"'{relationship.target}' with geometry type '{target.geometry.type.value}' " ++
            "(expected LineString or MultiLineString)"))
      if target.geometry.srid ≠ coll.geometry.srid then
        .error (.descriptionError
          (s!"{place}: derived property '{role.name}' targets collection " ++
            s!"'{relationship.target}' with SRID {target.geometry.srid} " ++
            s!"but the surface geometry uses SRID {coll.geometry.srid}"))
      let whenField ← resolveWhen fieldsByCollection place role relationship.target
      .ok ⟨role.name, relationship.target, whenField⟩

/-- `_resolve_derived`. -/
def resolveDerived : Except PyError (Option ResolvedDerivedDef) :=
  match coll.geometry.derived with
  | none => .ok none
  | some derived => do
    let oneOf ← derived.oneOf.mapM fun alternative =>
      alternative.mapM (resolveDerivedRole coll relationships collectionsByName
        fieldsByCollection place)
    .ok (some ⟨derived.areas, derived.holes, oneOf⟩)

end Derived

/-- `_validate_bounds`. -/
def validateBounds (coll : CollectionDef) (targetedCollections : List String) (place : String) :
    Except PyError Unit :=
  if coll.bounds.isNone then .ok ()
  else if coll.name.1 ∉ targetedCollections then
    .error (.descriptionError s!"{place}: bounds declared on untargeted collection '{coll.name}'")
  else if !coll.geometry.type.isLine then
    .error (.descriptionError
      (s!"{place}: bounds requires geometry type LineString or MultiLineString " ++
        s!"(got '{coll.geometry.type.value}')"))
  else .ok ()

/-- The `where` of a collection's errors. -/
def DatasetDef.place (dataset : DatasetDef) (coll : CollectionDef) : String :=
  s!"dataset '{dataset.name}' / collection '{coll.name}'"

/-- `_RESERVED_COLLECTION_NAMES`. -/
def reservedCollectionNames : List String := ["association", "association_role"]

/-- The first loop of `resolve_dataset`, for one collection: its fields. -/
def prepareCollection (dataset : DatasetDef) (commons : Commons) (coll : CollectionDef) :
    Except PyError (List ResolvedField) := do
  let place := dataset.place coll
  if coll.name.1 ∈ reservedCollectionNames then
    .error (.descriptionError
      s!"{place}: collection name '{coll.name}' is reserved for generated tables")
  let merged := commons.baseFields ++ coll.fields
  let fields ← resolveMerged commons.types (dataset.allCodelists commons) place [] merged
  checkOutwardIdentifier coll fields place
  coll.serverManaged.forM fun e => resolveDotPath fields e.1 place "server_managed"
  let autoIncrementFields := (merged.filter (·.autoIncrement)).map (·.name.1)
  checkUpsertField coll fields autoIncrementFields place
  .ok fields

/-- The second loop of `resolve_dataset`, for one collection. -/
def resolveCollection (dataset : DatasetDef)
    (fieldsByCollection : List (String × List ResolvedField))
    (prepared : CollectionDef × List ResolvedField) : Except PyError ResolvedCollection := do
  let coll := prepared.1
  let place := dataset.place coll
  let targeted := dataset.collections.flatMap fun c => c.relationships.map (·.target.1)
  validateBounds coll targeted place
  let relationships ← resolveRelationships coll (dataset.collections.map (·.name.1)) place
  let derived ← resolveDerived coll relationships
    (dictOf (dataset.collections.map fun c => (c.name.1, c))) fieldsByCollection place
  .ok
    { name := coll.name
      featureModel := coll.featureModel
      geometryType := coll.geometry.type
      srid := coll.geometry.srid
      fields := prepared.2
      relationships := relationships
      derived := derived
      upsertField := resolvedUpsertField coll prepared.2
      hasZ := coll.geometry.hasZ
      geometryRequired := coll.geometry.required
      bounds := coll.bounds
      outwardIdentifierPath := coll.outwardIdentifier
      serverManagedPaths := coll.serverManaged }

/-- `resolve_dataset`. -/
def resolveDataset (dataset : DatasetDef) (commons : Commons) :
    Except PyError ResolvedDataset := do
  let unknown := dataset.processes.dedup.filter (· ∉ knownProcessIds)
  if unknown ≠ [] then
    .error (.unknownProcesses dataset.name (sorted unknown) (sorted knownProcessIds))
  let prepared ← dataset.collections.mapM fun coll => do
    let fields ← prepareCollection dataset commons coll
    .ok (coll, fields)
  let fieldsByCollection := dictOf (prepared.map fun p => (p.1.name.1, p.2))
  let collections ← prepared.mapM (resolveCollection dataset fieldsByCollection)
  .ok ⟨dataset.name, dataset.processes, collections⟩

end Geocomponents
