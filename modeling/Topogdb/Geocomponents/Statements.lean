/-
The generated statements (`geocomponents/schema/postgis.py`: `table_statements`,
and `geocomponents/schema/functions.py`: `function_statements`).

A statement is kept by the names in it: the relation it creates and its columns,
and the variables a function declares.  The bodies of the functions are in
`Feature`, `Write`, `Footprint` and `Structure`.

Left out: foreign keys, which no plan has, and what the server names itself (the
indexes of primary keys, the sequences of identity columns).
-/
import Topogdb.Geocomponents.Build
import Topogdb.Lib.Identifiers

namespace Geocomponents

open Sql

/-! ### Tables -/

/-- One element of `table_statements`. -/
inductive TableStatement where
  | createExtension (name : String)
  | createSchema (name : String)
  | commentOnSchema (name : String)
  | createTable (name : String) (columns : List String)
  | commentOnTable (name : String)
  | seedCollectionCapability (rows : List (String × FeatureModel))
  | seedAssociationRole (rows : List AssociationRoleRow)
  | createIndex (name table expression : String)

namespace TableStatement

/-- The relation that a statement creates. -/
def relation? : TableStatement → Option String
  | createTable name _ => some name
  | createIndex name _ _ => some name
  | _ => none

/-- The columns of the table that a statement creates. -/
def columns? : TableStatement → Option (List String)
  | createTable _ columns => some columns
  | _ => none

end TableStatement

/-- `_table_ddl`: `_standard_columns`, the fields and the geometry. -/
def tableDdl (coll : CollectionPlan) : TableStatement :=
  .createTable coll.collectionName
    (["id", "created_at", "updated_at"] ++ coll.columns.map (·.name) ++ ["geometry"])

/-- `_collection_capability_table_ddl`. -/
def collectionCapabilityTableDdl : TableStatement :=
  .createTable "collection_capability" ["collection", "feature_model"]

/-- `_association_role_table_ddl`. -/
def associationRoleTableDdl : TableStatement :=
  .createTable "association_role" ["source_collection", "property", "target_collection"]

/-- `_association_table_ddl`. -/
def associationTableDdl : TableStatement :=
  .createTable "association" ["source_collection", "source_id", "property", "target_id"]

/-- `_association_index_ddl`. -/
def associationIndexDdl : TableStatement :=
  .createIndex "association_target_id_idx" "association" "target_id"

/-- `_geometry_index_ddl`. -/
def geometryIndexDdl (collection : String) : TableStatement :=
  .createIndex s!"{collection}_geometry_idx" collection "\"geometry\""

/-- `_extra_index_ddl`. -/
def extraIndexDdl (collection : String) (indexes : List String) : List TableStatement :=
  indexes.mapIdx fun i expression =>
    .createIndex s!"{collection}_{i}_idx" collection expression

/-- `table_statements`. -/
def tableStatements (plan : BuiltSchema) : List TableStatement :=
  [.createExtension "postgis", .createExtension "pgcrypto", .createSchema plan.schemaName,
    .commentOnSchema plan.schemaName, collectionCapabilityTableDdl,
    .commentOnTable "collection_capability"] ++
  (if plan.associationRoleRows.isEmpty then []
    else [associationRoleTableDdl, associationTableDdl]) ++
  plan.collections.map (fun coll => tableDdl coll.plan) ++
  [.seedCollectionCapability
    (plan.collections.map fun coll => (coll.plan.collectionName, coll.plan.featureModel))] ++
  (if plan.associationRoleRows.isEmpty then []
    else [.seedAssociationRole plan.associationRoleRows, associationIndexDdl]) ++
  plan.collections.flatMap fun coll =>
    geometryIndexDdl coll.plan.collectionName ::
      extraIndexDdl coll.plan.collectionName coll.indexes

/-! ### Functions -/

/-- One element of `function_statements`: the function and its variables. -/
structure FunctionStatement where
  name : String
  declared : List String := []

/-- The dictionary `expected_json_type` of `_nested_field_checks`. -/
def expectedJsonTypes : List (String × String) :=
  [("text", "string"), ("date", "string"), ("timestamp", "string"), ("timestamptz", "string"),
    ("uuid", "string"), ("integer", "number"), ("double precision", "number"),
    ("boolean", "boolean"), ("jsonb", "object")]

mutual

/-- What of `_nested_field_checks` can fail: the look-up of the JSON type. -/
def nestedFieldTypes : NestedFieldPlan → Except PyError Unit
  | .mk _ sqlType _ _ _ fields =>
    match expectedJsonTypes.lookup sqlType with
    | none => .error (.keyError sqlType)
    | some _ => nestedFieldsTypes fields

def nestedFieldsTypes : List NestedFieldPlan → Except PyError Unit
  | [] => .ok ()
  | field :: fields => do
    nestedFieldTypes field
    nestedFieldsTypes fields

end

/-- The look-ups of `_nested_checks`. -/
def nestedTypes (writable : List ColumnPlan) : Except PyError Unit :=
  writable.forM fun column => nestedFieldsTypes column.nestedFields

/-- `_writable_columns` among all columns of the table: the audit columns are not
written, nor is a field of their name. -/
def writableColumnPlans (coll : CollectionPlan) : List ColumnPlan :=
  coll.writableColumns.filter fun c => c.name ∉ ["created_at", "updated_at"]

/-- `_safe_var_name`. -/
def safeVarName (property : String) : String :=
  String.ofList (property.toList.map fun c => if c.isAlphanum then c else '_')

/-- `_link_declare_vars`. -/
def linkDeclareVars (roles : List CollectionRolePlan) : List String :=
  if roles.isEmpty then []
  else
    ["_elem", "_target_id"] ++ roles.map fun role => "_ids_" ++ safeVarName role.property

/-- The `oi_declare` of `_fn_create` and `_fn_upsert`. -/
def oiDeclare (coll : CollectionPlan) : List String :=
  if coll.oiColumn.isSome then ["_oi_raw"] else []

/-- `READ_OPS`, `WRITE_OPS` and `UPSERT_OP`. -/
inductive Operation where
  | items
  | item
  | create
  | replace
  | update
  | delete
  | upsert
deriving DecidableEq

def Operation.value : Operation → String
  | items => "items"
  | item => "item"
  | create => "create"
  | replace => "replace"
  | update => "update"
  | delete => "delete"
  | upsert => "upsert"

/-- The keys of `functions` in `build_schema_plan`. -/
def CollectionPlan.operations (coll : CollectionPlan) : List Operation :=
  [.items, .item, .create, .replace, .update, .delete] ++
    if coll.supportsUpsert then [.upsert] else []

/-- The variables that the function of an operation declares. -/
def declaredVariables (coll : CollectionPlan) : Operation → List String
  | .create => ["new_id"] ++ oiDeclare coll ++ linkDeclareVars coll.roles
  | .upsert => ["result_id"] ++ oiDeclare coll
  | .replace | .update => linkDeclareVars coll.roles
  | .items | .item | .delete => []

/-- The look-ups of `_nested_checks`, which the writing functions contain. -/
def operationTypes (coll : CollectionPlan) (op : Operation) : Except PyError Unit :=
  if op ∈ [.create, .replace, .update, .upsert] then nestedTypes (writableColumnPlans coll)
  else .ok ()

/-- `_BUILDER_BY_OP`. -/
def builderByOp (coll : CollectionPlan) (op : Operation) : Except PyError FunctionStatement := do
  operationTypes coll op
  .ok ⟨s!"_{coll.collectionName}_{op.value}", declaredVariables coll op⟩

/-- The functions of a derived collection. -/
def fnFootprint (coll : CollectionPlan) : List FunctionStatement :=
  if coll.derived.isNone then []
  else
    [{ name := s!"_{coll.collectionName}_footprint_members" },
      { name := s!"_{coll.collectionName}_footprint_measure"
        declared := ["measure", "linework", "facts"] },
      { name := s!"_{coll.collectionName}_footprint_structure_verdict" },
      { name := s!"_{coll.collectionName}_footprint_geometry_verdict" }]

/-- The body of the loop of `function_statements`. -/
def collectionFunctions (coll : CollectionPlan) : Except PyError (List FunctionStatement) := do
  let operations ← coll.operations.mapM (builderByOp coll)
  .ok <|
    (if coll.roles.isEmpty then [] else [{ name := s!"_{coll.collectionName}_associations" }]) ++
    fnFootprint coll ++ operations

/-- `_fn_footprint_geometry_verdict_dispatch`. -/
def fnFootprintGeometryVerdictDispatch (plan : BuiltSchema) : FunctionStatement :=
  { name := "_footprint_geometry_verdict"
    declared := if plan.collections.any (·.plan.derived.isSome) then ["measure"] else [] }

/-- `function_statements`. -/
def functionStatements (plan : BuiltSchema) : Except PyError (List FunctionStatement) := do
  let perCollection ← plan.collections.mapM fun coll => collectionFunctions coll.plan
  .ok <|
    [{ name := "_sources_using" }, { name := "_targets_from_sources" },
      { name := "_check_member_bounds" }] ++
    perCollection.flatten ++
    [{ name := "_footprint_structure_verdict" }, fnFootprintGeometryVerdictDispatch plan,
      { name := "_apply_dirty_footprints" }]

end Geocomponents
