/-
Derived footprints (`geocomponents/schema/functions.py`: `_fn_footprint_members`,
`_fn_footprint_measure`, `_fn_footprint_geometry_verdict`; `build_footprint` of
`schema/topogdb_functions.sql`).
-/
import Topogdb.Geocomponents.Structure

namespace Geocomponents

variable {Geometry : Type} (gis : PostGIS Geometry)

/-! ### Building -/

/-- `topogdb.footprint_facts`. -/
structure FootprintFacts (Geometry : Type) where
  footprint : Option Geometry := none
  areas : ℕ := 0
  holes : ℕ := 0
  curvesAllUsed : Bool := false

/-- `topogdb.build_footprint`; the strict functions give NULL for no lines. -/
def buildFootprint (lines : Option Geometry) : Except SqlError (FootprintFacts Geometry) :=
  match lines with
  | none => .ok {}
  | some lines => do
    if gis.geometryType lines ≠ "MULTILINESTRING" then
      .error ⟨"XX000",
        s!"build_footprint expects MULTILINESTRING, got {gis.geometryType lines}"⟩
    if (gis.dump lines).any gis.isEmpty then
      .error ⟨"XX000", "build_footprint received a MULTILINESTRING with an empty member"⟩
    let flat := gis.force2D lines
    let noded ← gis.node flat
    let area ← gis.buildArea noded
    match area with
    | none => .ok {}
    | some footprint =>
      if gis.isEmpty footprint then .ok { footprint := some footprint }
      else do
        let valid ← gis.isValid footprint
        if !valid then
          .error ⟨"XX000", s!"build_footprint produced an invalid footprint: {gis.isValidReason footprint}"⟩
        let boundary ← gis.boundary footprint
        let used ← gis.coveredBy flat boundary
        .ok
          { footprint := some footprint
            areas := gis.numGeometries footprint
            holes := ((gis.dump footprint).map fun part => (gis.numInteriorRings part).getD 0).sum
            curvesAllUsed := used }

/-! ### Measuring -/

/-- A row of `_<collection>_footprint_members`. -/
structure FootprintMember (Geometry : Type) where
  property : String
  target : Ref
  included : Bool
  geom : Option Geometry

/-- `_<collection>_footprint_members`: the target row may be missing. -/
def footprintMembers (db : Db Geometry) (derived : DerivedPlan) (ref : Ref) :
    List (FootprintMember Geometry) :=
  (footprintLinks db derived ref).map fun x =>
    let target : Ref := ⟨x.2.targetCollection, x.1.targetId⟩
    { property := x.1.property
      target := target
      included :=
        match x.2.whenField with
        | none => true
        | some field => (db.row? target).any fun row => row.included (some field)
      geom := (db.row? target).bind (·.geometry) }

/-- `topogdb.footprint_measure`, of a row that is there. -/
structure FootprintMeasure (Geometry : Type) where
  members : ℕ
  included : ℕ
  lineworkSimple : Bool := true
  footprint : Option Geometry := none
  areas : ℕ := 0
  holes : ℕ := 0
  curvesAllUsed : Bool := true
  unused : List Ref := []

/-- The members that do not lie on the boundary of the footprint. -/
def unusedMembers (members : List (FootprintMember Geometry)) (footprint : Option Geometry) :
    Except SqlError (List Ref) :=
  match footprint with
  | none => .ok []
  | some footprint => do
    let unused ← members.filterMapM fun m =>
      match m.included, m.geom with
      | true, some geom => do
        let boundary ← gis.boundary footprint
        let covered ← gis.coveredBy (gis.force2D geom) boundary
        pure (if covered then none else some m.target)
      | _, _ => pure none
    pure (unused.insertionSort (· ≤ ·))

/-- What `_<collection>_footprint_measure` makes of the members. -/
def measureMembers (members : List (FootprintMember Geometry)) :
    Except SqlError (FootprintMeasure Geometry) := do
  let included := members.filter (·.included)
  let measure : FootprintMeasure Geometry :=
    { members := members.length, included := included.length }
  if included.length = 0 then pure measure
  else do
    let parts := included.flatMap fun m => m.geom.toList.flatMap gis.dump
    let linework ← gis.collect parts
    let simple ← match linework with
      | none => pure true
      | some lines => gis.isSimple lines
    if !simple then pure { measure with lineworkSimple := false }
    else do
      let facts ← buildFootprint gis linework
      let unused ←
        if facts.curvesAllUsed then pure [] else unusedMembers gis members facts.footprint
      pure
        { measure with
          footprint := facts.footprint.filter fun footprint => !gis.isEmpty footprint
          areas := facts.areas
          holes := facts.holes
          curvesAllUsed := facts.curvesAllUsed
          unused := unused }

/-- `_<collection>_footprint_measure`; none is `row_exists` false. -/
def footprintMeasure (db : Db Geometry) (derived : DerivedPlan) (ref : Ref) :
    Except SqlError (Option (FootprintMeasure Geometry)) :=
  match db.row? ref with
  | none => .ok none
  | some _ => (measureMembers gis (footprintMembers db derived ref)).map some

/-! ### Judging -/

/-- The result of `_footprint_geometry_verdict`; `unused` are the details of an
unused boundary line. -/
structure GeometryVerdict where
  valid : Bool
  collection : String
  id : Uuid
  rule : String
  reason : Option String
  members : ℕ
  included : ℕ
  areas : ℕ
  holes : ℕ
  unused : List Ref
deriving DecidableEq

/-- `_<collection>_footprint_geometry_verdict`. -/
def collectionGeometryVerdict (derived : DerivedPlan) (ref : Ref)
    (measure : FootprintMeasure Geometry) : GeometryVerdict :=
  let verdict (reason : Option String) (areas holes : ℕ) (unused : List Ref) : GeometryVerdict :=
    { valid := reason.isNone
      collection := ref.collection
      id := ref.id
      rule := derived.rule
      reason := reason
      members := measure.members
      included := measure.included
      areas := areas
      holes := holes
      unused := unused }
  if measure.included = 0 then verdict none 0 0 []
  else if !measure.lineworkSimple then verdict (some "nonsimple_boundary") 0 0 []
  else if measure.footprint.isNone then
    verdict (some "boundary_does_not_close") measure.areas measure.holes []
  else if !measure.curvesAllUsed then
    verdict (some "unused_boundary_line") measure.areas measure.holes measure.unused
  else if derived.areas = .one && measure.areas > 1 then
    verdict (some "multiple_disjoint_areas") measure.areas measure.holes []
  else if derived.holes = .forbidden && measure.holes > 0 then
    verdict (some "holes_not_allowed") measure.areas measure.holes []
  else verdict none measure.areas measure.holes []

/-- `_footprint_geometry_verdict`: the verdict and the footprint, none for a row
that is not there or not derived. -/
def footprintGeometryVerdict (plan : SchemaPlan) (db : Db Geometry) (ref : Ref) :
    Except SqlError (Option (GeometryVerdict × Option Geometry)) :=
  match (plan.collection? ref.collection).bind (·.derived) with
  | none => .ok none
  | some derived => do
    let measure ← footprintMeasure gis db derived ref
    pure (measure.map fun measure =>
      (collectionGeometryVerdict derived ref measure, measure.footprint))

end Geocomponents
