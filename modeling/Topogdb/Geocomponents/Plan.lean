/-
The schema plan of a dataset (`geocomponents/schema/plan.py`, built by
`schema/build.py`).

A `SchemaPlan` carries what the loader and the primary keys of the catalogue
tables guarantee, so that a plan that cannot be deployed cannot be built.  The
`association_role` rows and the footprint owner roles, which `build.py` stores
in the plan, are functions of the collections here.

Left out: titles, indexes, foreign keys (always empty), and the `id`,
`created_at` and `updated_at` columns, which every table has.
-/
import Mathlib.Data.Int.Notation
import Mathlib.Data.List.Nodup
import Mathlib.Data.Nat.Notation

namespace Geocomponents

/-- One link property: `CollectionRolePlan`. -/
structure CollectionRolePlan where
  property : String
  targetCollection : String
  oiLeaf : String := "id"
deriving DecidableEq

/-- One role of a derived footprint: `DerivedRolePlan`. -/
structure DerivedRolePlan where
  property : String
  targetCollection : String
  whenField : Option String := none
deriving DecidableEq

inductive DerivedAreas where
  | one
  | many
deriving DecidableEq

inductive DerivedHoles where
  | allowed
  | forbidden
deriving DecidableEq

/-- `DerivedPlan`. -/
structure DerivedPlan where
  rule : String := "footprint"
  required : Bool
  areas : DerivedAreas
  holes : DerivedHoles
  oneOf : List (List DerivedRolePlan)
deriving DecidableEq

/-- `FootprintOwnerRolePlan`. -/
structure FootprintOwnerRolePlan where
  sourceCollection : String
  property : String
  targetCollection : String
  whenField : Option String
deriving DecidableEq

/-- `NestedFieldPlan`. -/
inductive NestedFieldPlan where
  | mk (name sqlType : String) (required serverSupplied : Bool) (codelistValues : List String)
    (fields : List NestedFieldPlan)

namespace NestedFieldPlan

def name : NestedFieldPlan → String
  | mk name _ _ _ _ _ => name

end NestedFieldPlan

/-- `server_write_expr`: `now()`, or the text at a path of the properties. -/
inductive ServerWriteExpr where
  | now
  | featurePropertyText (path : List String)

/-- `ColumnPlan` of a declared field; `write_inject` names the keys that get
`now()::text`. -/
structure ColumnPlan where
  name : String
  sqlType : String
  nullable : Bool := true
  autoIncrement : Bool := false
  stripKeys : List String := []
  idInjectKey : Option String := none
  writeInject : List String := []
  codelistValues : List String := []
  nestedFields : List NestedFieldPlan := []
  serverWriteExpr : Option ServerWriteExpr := none

/-- `GeometryColumnPlan`; the column is called `geometry`. -/
structure GeometryColumnPlan where
  geometryType : String
  srid : ℤ
  hasZ : Bool := false
  nullable : Bool := false

inductive FeatureModel where
  | simple
  | topology
deriving DecidableEq

/-- `CollectionPlan`, with the columns of its `TablePlan`. -/
structure CollectionPlan where
  collectionName : String
  featureModel : FeatureModel
  columns : List ColumnPlan := []
  geometry : GeometryColumnPlan
  bounds : Option ℕ := none
  supportsUpsert : Bool := false
  roles : List CollectionRolePlan := []
  derived : Option DerivedPlan := none

/-- `_derived_roles`: the first role of each property. -/
def derivedRoles (derived : DerivedPlan) : List DerivedRolePlan :=
  derived.oneOf.flatten.foldl
    (fun roles role => if roles.any (·.property = role.property) then roles else roles ++ [role]) []

/-- `_build_footprint_owner_roles`. -/
def CollectionPlan.footprintOwnerRoles (coll : CollectionPlan) : List FootprintOwnerRolePlan :=
  match coll.derived with
  | none => []
  | some derived =>
    if derived.rule ≠ "footprint" then []
    else
      (derivedRoles derived).map fun role =>
        { sourceCollection := coll.collectionName
          property := role.property
          targetCollection := role.targetCollection
          whenField := role.whenField }

/-- `_writable_columns`. -/
def CollectionPlan.writableColumns (coll : CollectionPlan) : List ColumnPlan :=
  coll.columns.filter fun c => !c.autoIncrement && c.serverWriteExpr.isNone

/-- `_server_write_columns`, with their expressions. -/
def CollectionPlan.serverWriteColumns (coll : CollectionPlan) :
    List (ColumnPlan × ServerWriteExpr) :=
  coll.columns.filterMap fun c => c.serverWriteExpr.map fun e => (c, e)

/-- `_oi_column`: the column and the key that carry the outward identifier. -/
def CollectionPlan.oiColumn (coll : CollectionPlan) : Option (String × String) :=
  coll.columns.findSome? fun c => c.idInjectKey.map fun key => (c.name, key)

/-- `SchemaPlan`. -/
structure SchemaPlan where
  schemaName : String
  collections : List CollectionPlan
  /-- The primary key of `collection_capability`. -/
  names_nodup : (collections.map (·.collectionName)).Nodup
  /-- The primary key of `association_role`. -/
  roles_nodup : ∀ coll ∈ collections, (coll.roles.map (·.property)).Nodup
  /-- `_resolve_relationships`. -/
  targets_known : ∀ coll ∈ collections, ∀ role ∈ coll.roles,
    role.targetCollection ∈ collections.map (·.collectionName)
  /-- `_resolve_derived`: a derived property is a declared relationship. -/
  derived_declared : ∀ coll ∈ collections, ∀ derived, coll.derived = some derived →
    ∀ role ∈ derived.oneOf.flatten, ∃ r ∈ coll.roles,
      r.property = role.property ∧ r.targetCollection = role.targetCollection
  /-- `_resolve_derived` wants lines as members, and a derived geometry is a
  MultiPolygon. -/
  members_not_derived : ∀ coll ∈ collections, ∀ derived, coll.derived = some derived →
    ∀ role ∈ derived.oneOf.flatten, ∀ target ∈ collections,
      target.collectionName = role.targetCollection → target.derived = none

namespace SchemaPlan

variable (plan : SchemaPlan)

/-- The collection of a name. -/
def collection? (name : String) : Option CollectionPlan :=
  plan.collections.find? (·.collectionName = name)

/-- `ogc._collection_feature_model`. -/
def collectionFeatureModel (collection : Option String) : Option FeatureModel :=
  (collection.bind plan.collection?).map (·.featureModel)

/-- The target collection in the `association_role` row of a source and a
property. -/
def targetCollection? (source property : String) : Option String := do
  let coll ← plan.collection? source
  let role ← coll.roles.find? (·.property = property)
  some role.targetCollection

variable {plan}

/-! ### Looking up by a key -/

theorem mem_of_find?_key {α κ : Type} [DecidableEq κ] {key : α → κ} {k : κ} {xs : List α} {x : α}
    (h : xs.find? (fun y => decide (key y = k)) = some x) : x ∈ xs ∧ key x = k :=
  ⟨List.mem_of_find?_eq_some h, by simpa using List.find?_some h⟩

/-- With distinct keys an element is found by its key. -/
theorem find?_key {α κ : Type} [DecidableEq κ] {key : α → κ} {xs : List α} {x : α}
    (hnodup : (xs.map key).Nodup) (h : x ∈ xs) :
    xs.find? (fun y => decide (key y = key x)) = some x := by
  induction xs with
  | nil => exact absurd h List.not_mem_nil
  | cons y ys ih =>
    rw [List.map_cons, List.nodup_cons] at hnodup
    rw [List.find?_cons]
    rcases List.mem_cons.mp h with rfl | hmem
    · rw [decide_eq_true rfl]
    · have hne : key y ≠ key x := by
        intro heq
        exact hnodup.1 (heq ▸ List.mem_map_of_mem hmem)
      rw [decide_eq_false hne]
      exact ih hnodup.2 hmem

theorem mem_of_collection? {name : String} {coll : CollectionPlan}
    (h : plan.collection? name = some coll) :
    coll ∈ plan.collections ∧ coll.collectionName = name :=
  mem_of_find?_key h

/-- A collection is found by its name. -/
theorem collection?_eq {coll : CollectionPlan} (h : coll ∈ plan.collections) :
    plan.collection? coll.collectionName = some coll :=
  find?_key plan.names_nodup h

/-- A declared role is found by its property. -/
theorem targetCollection?_eq {coll : CollectionPlan} (h : coll ∈ plan.collections)
    {role : CollectionRolePlan} (hrole : role ∈ coll.roles) :
    plan.targetCollection? coll.collectionName role.property = some role.targetCollection := by
  have hfind := find?_key (plan.roles_nodup coll h) hrole
  rw [targetCollection?, collection?_eq h, Option.bind_eq_bind, Option.bind_some, hfind]
  rfl

theorem targetCollection?_cases {source property target : String}
    (h : plan.targetCollection? source property = some target) :
    ∃ coll ∈ plan.collections, coll.collectionName = source ∧ ∃ role ∈ coll.roles,
      role.property = property ∧ role.targetCollection = target := by
  obtain ⟨coll, hcoll, h⟩ := Option.bind_eq_some_iff.mp h
  obtain ⟨role, hrole, h⟩ := Option.bind_eq_some_iff.mp h
  obtain ⟨hmem, hname⟩ := mem_of_collection? hcoll
  obtain ⟨hmem', hproperty⟩ := mem_of_find?_key hrole
  exact ⟨coll, hmem, hname, role, hmem', hproperty, by simpa using h⟩

end SchemaPlan

/-- The kept roles are among the declared ones. -/
theorem mem_oneOf_of_mem_derivedRoles {derived : DerivedPlan} {role : DerivedRolePlan}
    (h : role ∈ derivedRoles derived) : role ∈ derived.oneOf.flatten := by
  have hfold : ∀ (xs kept : List DerivedRolePlan), role ∈ xs.foldl
      (fun roles r => if roles.any (·.property = r.property) then roles else roles ++ [r]) kept →
      role ∈ kept ∨ role ∈ xs := by
    intro xs
    induction xs with
    | nil => exact fun kept h => Or.inl h
    | cons x xs ih =>
      intro kept h
      rw [List.foldl_cons] at h
      rcases ih _ h with hkept | hxs
      · split at hkept
        · exact Or.inl hkept
        · rcases List.mem_append.mp hkept with hkept | hx
          · exact Or.inl hkept
          · exact Or.inr (List.mem_cons.mpr (Or.inl (List.mem_singleton.mp hx)))
      · exact Or.inr (List.mem_cons_of_mem x hxs)
  rcases hfold _ _ h with hnil | hmem
  · exact absurd hnil List.not_mem_nil
  · exact hmem

/-- A kept role is a declared link to its target. -/
theorem SchemaPlan.targetCollection?_of_derived {plan : SchemaPlan} {coll : CollectionPlan}
    (h : coll ∈ plan.collections) {derived : DerivedPlan} (hderived : coll.derived = some derived)
    {role : DerivedRolePlan} (hrole : role ∈ derivedRoles derived) :
    plan.targetCollection? coll.collectionName role.property = some role.targetCollection := by
  obtain ⟨r, hr, hproperty, htarget⟩ :=
    plan.derived_declared coll h derived hderived role (mem_oneOf_of_mem_derivedRoles hrole)
  rw [← hproperty, ← htarget]
  exact targetCollection?_eq h hr

end Geocomponents
