/-
The structural checks of a dataset (`geocomponents/schema/functions.py`:
`_fn_sources_using`, `_fn_targets_from_sources`, `_fn_check_member_bounds` and
`_fn_footprint_structure_verdict`).

All of these are queries: functions of the plan and of the tables they see.
-/
import Mathlib.Data.Finset.Image
import Topogdb.Geocomponents.Db

namespace Geocomponents

variable {Geometry : Type} (plan : SchemaPlan) (db : Db Geometry)

/-! ### Links -/

/-- The row that a link targets, by its row of `association_role`. -/
def SchemaPlan.target? (l : Link) : Option Ref :=
  (plan.targetCollection? l.source.collection l.property).map fun collection =>
    ⟨collection, l.targetId⟩

/-- `_sources_using`. -/
def sourcesUsing (targetCollection : String) (ids : List Uuid) : List Link :=
  Ordered.list (db.association.filter fun l =>
    plan.targetCollection? l.source.collection l.property = some targetCollection ∧
      l.targetId ∈ ids)

/-- `_targets_from_sources`, the target columns of its rows. -/
def targetsFromSources (sourceCollection : String) (ids : List Uuid) : List Ref :=
  (Ordered.list (db.association.filter fun l =>
    l.source.collection = sourceCollection ∧ l.source.id ∈ ids)).filterMap plan.target?

/-! ### Bounds -/

/-- A finding of `_check_member_bounds`; its reason is `member_bounds_violated`. -/
structure BoundsFinding where
  collection : String
  id : Uuid
  expected : ℕ
  actual : ℕ
  owners : List Ref
deriving DecidableEq

/-- The footprint roles of all collections that target this one. -/
def ownerRoles (coll : CollectionPlan) : List FootprintOwnerRolePlan :=
  (plan.collections.flatMap (·.footprintOwnerRoles)).filter fun role =>
    role.targetCollection = coll.collectionName

/-- `_owner_rows_body`, without duplicates: the rows that have this one as a
member of their footprint. -/
def owners (coll : CollectionPlan) (id : Uuid) (row : Row Geometry) : Finset Ref :=
  (db.association.filter fun l =>
    l.targetId = id ∧ (ownerRoles plan coll).any fun role =>
      l.source.collection = role.sourceCollection && l.property = role.property &&
        row.included role.whenField).image (·.source)

/-- The finding about one row, if there is one. -/
def boundsFinding (ref : Ref) : Option BoundsFinding := do
  let coll ← plan.collection? ref.collection
  let bounds ← coll.bounds
  let row ← db.row? ref
  let owners := owners plan db coll ref.id row
  if owners.card ≠ bounds then
    some
      { collection := ref.collection
        id := ref.id
        expected := bounds
        actual := owners.card
        owners := Ordered.list owners }
  else none

/-- `_check_member_bounds`. -/
def checkMemberBounds (targetCollection : String) (ids : List Uuid) : List BoundsFinding :=
  (Ordered.list ids.toFinset).filterMap fun id => boundsFinding plan db ⟨targetCollection, id⟩

/-! ### The structure of a footprint -/

/-- The result of `_footprint_structure_verdict`; `roles` are its details. -/
structure StructureVerdict where
  valid : Bool
  collection : String
  id : Uuid
  rule : String
  reason : Option String
  members : ℕ
  included : ℕ
  roles : List String
deriving DecidableEq

/-- The links of a row that are roles of its footprint, by property and target. -/
def footprintLinks (derived : DerivedPlan) (ref : Ref) : List (Link × DerivedRolePlan) :=
  (Ordered.list (db.association.filter fun l => l.source = ref)).filterMap fun l =>
    ((derivedRoles derived).find? fun role => role.property = l.property).map fun role => (l, role)

/-- Whether a link counts; a member with a `when` field must be there. -/
def memberIncluded (x : Link × DerivedRolePlan) : Option Bool :=
  match x.2.whenField with
  | none => some true
  | some field => (db.row? ⟨x.2.targetCollection, x.1.targetId⟩).map (·.included (some field))

/-- `_<collection>_footprint_structure_verdict`, of a row that is there. -/
def collectionStructureVerdict (derived : DerivedPlan) (ref : Ref) : StructureVerdict :=
  let members := (footprintLinks db derived ref).filterMap fun x =>
    (memberIncluded db x).map fun included => (x.1.property, included)
  let included := members.filter (·.2)
  let roles := Ordered.list (included.map Prod.fst).toFinset
  let validSubset := derived.oneOf.any fun alternative =>
    roles.all fun property => alternative.any (·.property = property)
  let verdict (valid : Bool) (reason : Option String) (roles : List String) : StructureVerdict :=
    { valid := valid
      collection := ref.collection
      id := ref.id
      rule := derived.rule
      reason := reason
      members := members.length
      included := included.length
      roles := roles }
  if derived.required && included.length = 0 then verdict false (some "no_boundary") []
  else if validSubset then verdict true none []
  else verdict false (some "conflicting_boundary_roles") roles

/-- `_footprint_structure_verdict`: none for a row that is not there or not
derived. -/
def footprintStructureVerdict (ref : Ref) : Option StructureVerdict := do
  let coll ← plan.collection? ref.collection
  let derived ← coll.derived
  let _ ← db.row? ref
  some (collectionStructureVerdict db derived ref)

end Geocomponents
