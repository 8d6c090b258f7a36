/-
Two calls of `ogc.transaction` at the same time.

A call checks the targets of its links, its bounds and its footprints in the
snapshots of its own statements, and locks only the rows that it writes.

* `lost_target` — so one call can link to a row that the other one deletes, and
  both commit;
* `concurrent_consistent` — while the call that commits first writes nothing that
  the other one reads, the dataset stays consistent.
-/
import Topogdb.Geocomponents.MissingMembers
import Topogdb.Geocomponents.TransactionReads

namespace Geocomponents

open Prog
open Interleaving (Side Action)

variable {Geometry : Type} {gis : PostGIS Geometry} {plan : SchemaPlan} {db : Db Geometry}

/-! ### Consistent tables -/

/-- Every derived row stores the footprint of its current members. -/
def FootprintsStored (gis : PostGIS Geometry) (plan : SchemaPlan) (db : Db Geometry) : Prop :=
  ∀ ref coll derived row, plan.collection? ref.collection = some coll →
    coll.derived = some derived → db.row? ref = some row →
    ∃ measure, footprintMeasure gis db derived ref = .ok (some measure) ∧
      row.geometry = measure.footprint

theorem footprintsStored_iff :
    FootprintsStored gis plan db ↔ Fresh gis plan (fun _ => True) db := by
  constructor
  · intro h ref
    cases hderived : (plan.collection? ref.collection).bind (·.derived) with
    | none => exact Or.inl (footprintGeometryVerdict_of_not_derived hderived)
    | some derived =>
      cases hrow : db.row? ref with
      | none =>
        refine Or.inl ?_
        simp only [footprintGeometryVerdict, hderived, footprintMeasure, hrow]
        rfl
      | some row =>
        obtain ⟨coll, hcoll, hderived⟩ := Option.bind_eq_some_iff.mp hderived
        obtain ⟨measure, hmeasure, hstored⟩ := h ref coll derived row hcoll hderived hrow
        exact (freshRow_iff hcoll hderived hrow).mpr ⟨measure, hmeasure, hstored, trivial⟩
  · intro h ref coll derived row hcoll hderived hrow
    obtain ⟨measure, hmeasure, hstored, -⟩ := (freshRow_iff hcoll hderived hrow).mp (h ref)
    exact ⟨measure, hmeasure, hstored⟩

/-- The tables of a dataset with its topology as declared. -/
structure Consistent (gis : PostGIS Geometry) (plan : SchemaPlan) (db : Db Geometry) : Prop where
  resolves : Resolves plan db
  bounds : BoundsExact plan db
  stored : FootprintsStored gis plan db

theorem consistent_empty : Consistent gis plan Db.empty :=
  ⟨resolves_empty plan, boundsExact_empty plan, footprintsStored_iff.mpr fresh_empty⟩

/-- A call that commits leaves consistent tables consistent. -/
theorem Consistent.transactionBlock {env : Env} {document : Option Json}
    (h : Consistent gis plan db) :
    Ends (transactionBlock gis env plan document) db fun _ db' => Consistent gis plan db' := by
  intro vars db' hrun
  obtain ⟨items, vars₀, db₁, -, hdone, -⟩ :=
    ends_transactionBlock gis env plan document db vars db' hrun
  have hfresh := hdone.fresh (fun _ _ => trivial) (footprintsStored_iff.mp h.stored)
  exact ⟨hdone.resolves h.resolves, hdone.bounds h.bounds, footprintsStored_iff.mpr hfresh⟩

/-! ### Two calls -/

/-- The calls of the two sides. -/
def calls (gis : PostGIS Geometry) (plan : SchemaPlan) (env : Side → Env)
    (document : Side → Option Json) (i : Side) : SqlProg Geometry Failure TxVars :=
  transactionBlock gis (env i) plan (document i)

/-- What two calls are between steps. -/
abbrev Calls (Geometry : Type) := Interleaving.State (Db Geometry) (Write Geometry) Failure TxVars

/-- A step of two calls. -/
def callsStep : Calls Geometry → Action → Option (Calls Geometry) := Interleaving.step Write.key

/-! ### Two samples -/

namespace Sample

/-- The statements of a side, each finished before the next one starts. -/
def statements (i : Side) (n : ℕ) : List Action :=
  (List.replicate n [Action.start i, Action.finish i]).flatten

/-- A parcel without buildings. -/
def vacant : Db Unit := { rows := Finmap.singleton ⟨"parcels", 1⟩ row, association := ∅ }

/-- One side deletes the parcel, the other one puts a building on it. -/
def deleteAndBuild : Side → Option Json
  | .left => document [delete "parcels" 1]
  | .right => document [insert "buildings" (building 2 1)]

/-- All statements of both, and then the commits. -/
def together : List Action :=
  statements .left 6 ++ statements .right 8 ++ [.commit .left, .commit .right]

/-- A line and its area. -/
def settled : Db Unit :=
  Interleaving.alone
    (transactionBlock Sample.gis env topology (document [insertLine 5, insertArea 6 5]))
    Db.empty

/-- The item that draws a line again. -/
def updateLine (id : Uuid) : Json :=
  .obj [("action", .str "update"), ("collection", .str "lines"), ("id", .str (Uuid.text id)),
    ("feature", .obj [("geometry", .obj []), ("properties", .obj [])])]

/-- One side adds a line with its area, the other one draws the old line again. -/
def addAndRedraw : Side → Option Json
  | .left => document [insertLine 1, insertArea 2 1]
  | .right => document [updateLine 5]

/-- The statements of both sides by turns, each started before the other one's is
finished.  The left side commits during the last statement of the right one. -/
def byTurns : List Action :=
  statements .left 4 ++
    (List.replicate 6 [Action.start .left, .start .right, .finish .left, .finish .right]).flatten ++
    [.start .right, .commit .left, .finish .right, .commit .right]

/-- Without bounds and footprints, only links can be wrong. -/
theorem consistent_cadastre {db : Db Unit} (h : Resolves cadastre db) :
    Consistent Sample.gis cadastre db := by
  have hplain : ∀ name coll, cadastre.collection? name = some coll →
      coll.bounds = none ∧ coll.derived = none := by
    intro name coll hcoll
    have hmem : coll ∈ [parcels, buildings] := (SchemaPlan.mem_of_collection? hcoll).1
    simp only [List.mem_cons, List.not_mem_nil, or_false] at hmem
    rcases hmem with rfl | rfl <;> exact ⟨rfl, rfl⟩
  refine ⟨h, ?_, ?_⟩
  · intro ref coll bounds row hcoll hbounds _
    cases (hplain _ coll hcoll).1.symm.trans hbounds
  · intro ref coll derived row hcoll hderived _
    cases (hplain _ coll hcoll).2.symm.trans hderived

end Sample

/-! ### The results -/

/-- **Concurrent calls keep the tables consistent while they stay apart.**  If both
calls commit, and the one that commits first writes no row and no link that the
other one reads, then the tables are consistent again. -/
theorem concurrent_consistent (gis : PostGIS Geometry) (plan : SchemaPlan) (env : Side → Env)
    (document : Side → Option Json) (db : Db Geometry) (hconsistent : Consistent gis plan db)
    (actions : List Action) (s : Calls Geometry)
    (hrun : Runs.run callsStep (Interleaving.init (calls gis plan env document) db) actions = some s)
    (i j : Side) (hcommitted : s.committed = [i, j])
    (hapart : Apart plan db (touches (env i) plan (document i)) (touches (env j) plan (document j))) :
    Consistent gis plan s.base := by
  -- what the first call leaves is unseen by the second one
  have hchanged : (touches (env i) plan (document i)).Changed plan db
      (Interleaving.alone (calls gis plan env document i) db) :=
    Interleaving.alone_of_ends Touches.Changed.refl
      (ends_transactionBlock_changed gis (env i) plan (document i) db)
  obtain ⟨vars, vars', db₁, hi, hj⟩ := Interleaving.serial_of_local hrun hcommitted
    (local_transactionBlock gis (env j) plan (document j) db) (hchanged.unseen hapart)
  have hfirst : Consistent gis plan db₁ := hconsistent.transactionBlock vars db₁ hi
  exact hfirst.transactionBlock vars' s.base hj

/-- The last statement of the right side has its snapshot from before the commit of
the left side, and writes after it. -/
theorem concurrent_consistent_sample : ∃ s, Runs.run callsStep (Interleaving.init
      (calls Sample.gis Sample.topology (fun _ => Sample.env) Sample.addAndRedraw) Sample.settled)
      Sample.byTurns = some s ∧ s.committed = [.left, .right] ∧
    Consistent Sample.gis Sample.topology s.base := by
  obtain ⟨s, hrun, hcommitted⟩ : ∃ s ∈ Runs.run callsStep (Interleaving.init
      (calls Sample.gis Sample.topology (fun _ => Sample.env) Sample.addAndRedraw) Sample.settled)
      Sample.byTurns, s.committed = [.left, .right] := by decide +kernel
  have hsettled : Consistent Sample.gis Sample.topology Sample.settled :=
    Interleaving.alone_of_ends consistent_empty consistent_empty.transactionBlock
  exact ⟨s, hrun, hcommitted, concurrent_consistent Sample.gis Sample.topology
    (fun _ => Sample.env) Sample.addAndRedraw Sample.settled hsettled _ s hrun .left .right
    hcommitted (by decide +kernel)⟩

/-- A call that deletes a parcel and a call that puts a building on it both
commit; the building is left with a link to no row. -/
theorem lost_target : Consistent Sample.gis Sample.cadastre Sample.vacant ∧
    ∃ s, Runs.run callsStep (Interleaving.init
        (calls Sample.gis Sample.cadastre (fun _ => Sample.env) Sample.deleteAndBuild)
        Sample.vacant) Sample.together = some s ∧
      s.committed = [.left, .right] ∧ ¬ Consistent Sample.gis Sample.cadastre s.base := by
  obtain ⟨s, hrun, hcommitted, hdangling⟩ : ∃ s ∈ Runs.run callsStep (Interleaving.init
      (calls Sample.gis Sample.cadastre (fun _ => Sample.env) Sample.deleteAndBuild)
      Sample.vacant) Sample.together, s.committed = [.left, .right] ∧
      ¬ Resolves Sample.cadastre s.base := by decide +kernel
  have hvacant : Resolves Sample.cadastre Sample.vacant :=
    fun l hl => absurd hl (Finset.notMem_empty l)
  exact ⟨Sample.consistent_cadastre hvacant, s, hrun, hcommitted, fun h => hdangling h.resolves⟩

/-- The second of these calls reads the row that the first one deletes. -/
example : ¬ Apart Sample.cadastre Sample.vacant
    (touches Sample.env Sample.cadastre (Sample.deleteAndBuild .left))
    (touches Sample.env Sample.cadastre (Sample.deleteAndBuild .right)) := by decide +kernel

end Geocomponents
