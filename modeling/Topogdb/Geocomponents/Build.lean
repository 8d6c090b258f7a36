/-
From a resolved description to a schema plan (`geocomponents/schema/build.py`).

`buildSchemaPlan` gives what `table_statements` and `function_statements` read:
a `CollectionPlan` and the extra indexes for each collection, and the
`association_role` rows.  A `SchemaPlan` is such a result whose names the
server's keys accept.
-/
import Topogdb.Geocomponents.Description

namespace Geocomponents

open Python

/-- `path.split(".", 1)`, when it has two parts. -/
def splitFirst (path : String) : Option (String × String) :=
  if '.' ∈ path.toList then some (partition '.' path) else none

/-! ### Columns -/

mutual

/-- `_nested_field_plan`. -/
def nestedFieldPlan (path : String) (serverSuppliedPaths : List String) :
    ResolvedField → NestedFieldPlan
  | ⟨name, sqlType, required, _, subFields, _, codelistValues, _⟩ =>
    let fieldPath := s!"{path}.{name}"
    .mk name sqlType required (fieldPath ∈ serverSuppliedPaths) codelistValues
      (nestedFieldPlans fieldPath serverSuppliedPaths subFields)

def nestedFieldPlans (path : String) (serverSuppliedPaths : List String) :
    List ResolvedField → List NestedFieldPlan
  | [] => []
  | field :: fields =>
    nestedFieldPlan path serverSuppliedPaths field ::
      nestedFieldPlans path serverSuppliedPaths fields

end

/-- The server-managed keys of one jsonb column: `strip_keys`, `id_inject_key` and
the keys of `write_inject`. -/
structure InjectedKeys where
  stripKeys : List String := []
  idInjectKey : Option String := none
  writeInject : List String := []

/-- One entry of `server_managed_paths`, seen from the column of a field. -/
def InjectedKeys.addServerManaged (field : String) (keys : InjectedKeys)
    (entry : String × ServerManagedToken) : InjectedKeys :=
  match splitFirst entry.1 with
  | none => keys
  | some (head, subKey) =>
    if head ≠ field then keys
    else
      match entry.2 with
      | .outwardIdentifier =>
        { keys with stripKeys := keys.stripKeys ++ [subKey], idInjectKey := some subKey }
      | .timestampIso =>
        { keys with
          stripKeys := keys.stripKeys ++ [subKey], writeInject := keys.writeInject ++ [subKey] }

/-- The `outward_identifier` path, seen from the column of a field. -/
def InjectedKeys.addOutwardIdentifier (field : String) (keys : InjectedKeys)
    (path : Option String) : InjectedKeys :=
  match path.bind splitFirst with
  | none => keys
  | some (head, subKey) =>
    if head ≠ field then keys
    else
      { keys with
        stripKeys :=
          if subKey ∈ keys.stripKeys then keys.stripKeys else keys.stripKeys ++ [subKey]
        idInjectKey := some subKey }

def injectedKeys (coll : ResolvedCollection) (field : String) : InjectedKeys :=
  (coll.serverManagedPaths.foldl (InjectedKeys.addServerManaged field) {}).addOutwardIdentifier
    field coll.outwardIdentifierPath

/-- The `server_supplied_paths` of a collection. -/
def serverSuppliedPaths (coll : ResolvedCollection) : List String :=
  coll.serverManagedPaths.map Prod.fst ++ coll.outwardIdentifierPath.toList

/-- The column of a field of type jsonb. -/
def jsonbColumn (coll : ResolvedCollection) (fld : ResolvedField) : ColumnPlan :=
  let keys := injectedKeys coll fld.name
  { name := fld.name
    sqlType := fld.sqlType
    nullable := !fld.required
    stripKeys := keys.stripKeys
    idInjectKey := keys.idInjectKey
    writeInject := keys.writeInject
    nestedFields := nestedFieldPlans fld.name (serverSuppliedPaths coll) fld.subFields }

/-- The `server_write_expr` of a scalar field. -/
def serverWriteExpr (coll : ResolvedCollection) (fld : ResolvedField) :
    Except PyError (Option ServerWriteExpr) :=
  match coll.serverManagedPaths.lookup fld.name with
  | none => .ok none
  | some .timestampIso => .ok (some .now)
  | some .outwardIdentifier =>
    match coll.outwardIdentifierPath with
    | none =>
      .error (.valueError
        (s!"collection '{coll.name}' uses server_managed outward_identifier " ++
          s!"for field '{fld.name}' without an outward_identifier path"))
    | some path => .ok (some (.featurePropertyText (segments path)))

/-- The column of a field. -/
def buildColumn (coll : ResolvedCollection) (fld : ResolvedField) : Except PyError ColumnPlan :=
  if fld.sqlType = "jsonb" then .ok (jsonbColumn coll fld)
  else do
    let expr ← serverWriteExpr coll fld
    .ok
      { name := fld.name
        sqlType := fld.sqlType
        nullable := !fld.required
        autoIncrement := fld.autoIncrement
        codelistValues := fld.codelistValues
        serverWriteExpr := expr }

/-- The expressions of the extra indexes of a field. -/
def buildIndexes (fld : ResolvedField) : List String :=
  if fld.sqlType = "jsonb" then
    (fld.subFields.filter (·.indexable)).map fun sf => s!"(\"{fld.name}\"->>'{sf.name}')"
  else if fld.indexable then [s!"\"{fld.name}\""]
  else []

/-! ### Collections -/

/-- `_build_role`. -/
def buildRole (collByName : List (String × ResolvedCollection)) (rel : ResolvedRelationship) :
    Except PyError CollectionRolePlan :=
  match collByName.lookup rel.target with
  | none => .error (.keyError rel.target)
  | some target =>
    let oiLeaf :=
      match target.outwardIdentifierPath with
      | none | some "" => "id"
      | some path => leaf path
    .ok ⟨rel.property, rel.target, oiLeaf⟩

/-- `_build_derived`. -/
def buildDerived (coll : ResolvedCollection) : Option DerivedPlan :=
  coll.derived.map fun derived =>
    { required := coll.geometryRequired
      areas := derived.areas
      holes := derived.holes
      oneOf := derived.oneOf.map fun alternative =>
        alternative.map fun role => ⟨role.property, role.target, role.whenField⟩ }

/-- A `CollectionPlan` with the `indexes` of its table. -/
structure BuiltCollection where
  plan : CollectionPlan
  indexes : List String

/-- `AssociationRoleRow`. -/
structure AssociationRoleRow where
  sourceCollection : String
  property : String
  targetCollection : String

/-- What `build_schema_plan` returns. -/
structure BuiltSchema where
  schemaName : String
  collections : List BuiltCollection
  associationRoleRows : List AssociationRoleRow

/-- `_build_table` and the body of the loop of `build_schema_plan`. -/
def buildCollection (collByName : List (String × ResolvedCollection))
    (coll : ResolvedCollection) : Except PyError BuiltCollection := do
  let columns ← coll.fields.mapM (buildColumn coll)
  let roles ← coll.relationships.mapM (buildRole collByName)
  .ok
    { plan :=
        { collectionName := coll.name
          featureModel := coll.featureModel
          columns := columns
          geometry :=
            { geometryType := coll.geometryType.value
              srid := coll.srid
              hasZ := coll.hasZ
              nullable := coll.derived.isSome || !coll.geometryRequired }
          bounds := coll.bounds
          supportsUpsert := coll.supportsUpsert
          roles := roles
          derived := buildDerived coll }
      indexes := coll.fields.flatMap buildIndexes }

/-- `build_schema_plan`. -/
def buildSchemaPlan (dataset : ResolvedDataset) : Except PyError BuiltSchema := do
  let collByName := dictOf (dataset.collections.map fun c => (c.name, c))
  let collections ← dataset.collections.mapM (buildCollection collByName)
  .ok
    { schemaName := dataset.name
      collections := collections
      associationRoleRows := dataset.collections.flatMap fun coll =>
        coll.relationships.map fun rel => ⟨coll.name, rel.property, rel.target⟩ }

end Geocomponents
