/-
Stored footprints are never stale.

* `FreshRow` — what is stored in a row is what measuring it now gives;
* `footprintGeometryVerdict_congr` — what a measure depends on;
* `Committed.fresh` — a committed call keeps every row fresh;
* `footprints_never_stale` — so does every run of calls from the empty tables.
-/
import Topogdb.Geocomponents.StructureCheck
import Topogdb.Geocomponents.Atomicity
import Topogdb.Lib.Runs

namespace Geocomponents

open Prog

variable {Geometry : Type} {gis : PostGIS Geometry} {plan : SchemaPlan} {db db' : Db Geometry}
  {ref : Ref} {good : GeometryVerdict → Prop}

/-! ### What a measure depends on -/

/-- A row that is there is measured by its members. -/
theorem footprintMeasure_eq {derived : DerivedPlan} {row : Row Geometry}
    (hrow : db.row? ref = some row) : footprintMeasure gis db derived ref
      = (measureMembers gis (footprintMembers db derived ref)).map some := by
  rw [footprintMeasure, hrow]

/-- The members of a footprint depend on the links of the row and on the rows
they target. -/
theorem footprintMembers_congr {derived : DerivedPlan}
    (hlinks : ∀ l : Link, l.source = ref → (l ∈ db'.association ↔ l ∈ db.association))
    (htargets : ∀ x ∈ footprintLinks db derived ref,
      db'.row? ⟨x.2.targetCollection, x.1.targetId⟩
        = db.row? ⟨x.2.targetCollection, x.1.targetId⟩) :
    footprintMembers db' derived ref = footprintMembers db derived ref := by
  rw [footprintMembers, footprintMembers, footprintLinks_congr hlinks]
  refine List.map_congr_left fun x hx => ?_
  simp only [htargets x hx]

/-- **The verdict and the footprint of a row depend on whether the row is there,
on the links from it and on its member rows.** -/
theorem footprintGeometryVerdict_congr (hrow : (db'.row? ref).isSome = (db.row? ref).isSome)
    (hlinks : ∀ l : Link, l.source = ref → (l ∈ db'.association ↔ l ∈ db.association))
    (htargets : ∀ coll ∈ plan.collections, coll.collectionName = ref.collection →
      ∀ derived, coll.derived = some derived → ∀ x ∈ footprintLinks db derived ref,
        db'.row? ⟨x.2.targetCollection, x.1.targetId⟩
          = db.row? ⟨x.2.targetCollection, x.1.targetId⟩) :
    footprintGeometryVerdict gis plan db' ref = footprintGeometryVerdict gis plan db ref := by
  unfold footprintGeometryVerdict
  split
  · rfl
  · next derived hderived =>
    obtain ⟨coll, hcoll, hderived⟩ := Option.bind_eq_some_iff.mp hderived
    obtain ⟨hmem, hname⟩ := SchemaPlan.mem_of_collection? hcoll
    have hmembers := footprintMembers_congr hlinks (htargets coll hmem hname derived hderived)
    have hmeasure : footprintMeasure gis db' derived ref = footprintMeasure gis db derived ref := by
      unfold footprintMeasure
      rw [hmembers]
      cases hdb : db.row? ref with
      | none =>
        rw [hdb, Option.isSome_none, Option.isSome_eq_false_iff, Option.isNone_iff_eq_none] at hrow
        rw [hrow]
      | some row =>
        rw [hdb, Option.isSome_some] at hrow
        obtain ⟨row', hrow'⟩ := Option.isSome_iff_exists.mp hrow
        rw [hrow']
    rw [hmeasure]

/-- A row with a verdict is there. -/
theorem row_of_footprintGeometryVerdict {x : GeometryVerdict × Option Geometry}
    (h : footprintGeometryVerdict gis plan db ref = .ok (some x)) : ∃ row, db.row? ref = some row := by
  rw [footprintGeometryVerdict] at h
  split at h
  · cases h
  · obtain ⟨measure, hmeasure, h⟩ := Except.bind_eq_ok.mp h
    rw [footprintMeasure] at hmeasure
    split at hmeasure
    · cases hmeasure
      cases h
    · next row hrow => exact ⟨row, hrow⟩

/-- Without a footprint there is no verdict. -/
theorem footprintGeometryVerdict_of_not_derived
    (h : (plan.collection? ref.collection).bind (·.derived) = none) :
    footprintGeometryVerdict gis plan db ref = .ok none := by
  rw [footprintGeometryVerdict, h]

/-- A member is not derived itself. -/
theorem not_derived_of_mem_footprintLinks {coll : CollectionPlan} (hmem : coll ∈ plan.collections)
    (hname : coll.collectionName = ref.collection) {derived : DerivedPlan}
    (hderived : coll.derived = some derived) {x : Link × DerivedRolePlan}
    (hx : x ∈ footprintLinks db derived ref) :
    (plan.collection? x.2.targetCollection).bind (·.derived) = none := by
  obtain ⟨-, -, hrole, -⟩ := target?_of_mem_footprintLinks hmem hname hderived hx
  cases htarget : plan.collection? x.2.targetCollection with
  | none => rfl
  | some target =>
    obtain ⟨htmem, htname⟩ := SchemaPlan.mem_of_collection? htarget
    exact plan.members_not_derived coll hmem derived hderived x.2
      (mem_oneOf_of_mem_derivedRoles hrole) target htmem htname

/-! ### Fresh rows -/

/-- The row has no footprint, or stores what measuring it gives, with a verdict
that `good` admits. -/
def FreshRow (gis : PostGIS Geometry) (plan : SchemaPlan) (good : GeometryVerdict → Prop)
    (db : Db Geometry) (ref : Ref) : Prop :=
  footprintGeometryVerdict gis plan db ref = .ok none ∨
    ∃ verdict footprint, footprintGeometryVerdict gis plan db ref = .ok (some (verdict, footprint)) ∧
      good verdict ∧ (db.row? ref).bind (·.geometry) = footprint

/-- All rows are fresh. -/
def Fresh (gis : PostGIS Geometry) (plan : SchemaPlan) (good : GeometryVerdict → Prop)
    (db : Db Geometry) : Prop :=
  ∀ ref, FreshRow gis plan good db ref

theorem fresh_empty : Fresh gis plan good Db.empty := by
  intro ref
  refine Or.inl ?_
  rw [footprintGeometryVerdict]
  split
  · rfl
  · rfl

/-- A fresh row of a derived collection stores the footprint of its members. -/
theorem freshRow_iff {coll : CollectionPlan} {derived : DerivedPlan} {row : Row Geometry}
    (hcoll : plan.collection? ref.collection = some coll) (hderived : coll.derived = some derived)
    (hrow : db.row? ref = some row) :
    FreshRow gis plan good db ref ↔ ∃ measure,
      footprintMeasure gis db derived ref = .ok (some measure) ∧
        row.geometry = measure.footprint ∧ good (collectionGeometryVerdict derived ref measure) := by
  have hmeasure : footprintMeasure gis db derived ref
      = (measureMembers gis (footprintMembers db derived ref)).map some := footprintMeasure_eq hrow
  have hverdict : footprintGeometryVerdict gis plan db ref
      = (measureMembers gis (footprintMembers db derived ref)).map fun measure =>
          some (collectionGeometryVerdict derived ref measure, measure.footprint) := by
    rw [footprintGeometryVerdict, hcoll, Option.bind_some, hderived]
    simp only [hmeasure]
    cases measureMembers gis (footprintMembers db derived ref) <;> rfl
  rw [FreshRow, hverdict, hmeasure, hrow]
  cases measureMembers gis (footprintMembers db derived ref) with
  | error e => simp [Except.map]
  | ok measure =>
    constructor
    · rintro (hnone | ⟨verdict, footprint, hsome, hgood, hstored⟩)
      · cases hnone
      · cases hsome
        exact ⟨measure, rfl, hstored, hgood⟩
    · rintro ⟨measure', hmeasured, hstored, hgood⟩
      cases hmeasured
      exact Or.inr ⟨_, _, rfl, hgood, hstored⟩

theorem FreshRow.congr (h : FreshRow gis plan good db ref)
    (hverdict : footprintGeometryVerdict gis plan db' ref = footprintGeometryVerdict gis plan db ref)
    (hrow : db'.row? ref = db.row? ref) : FreshRow gis plan good db' ref := by
  rw [FreshRow, hverdict, hrow]
  exact h

/-- The items leave every row fresh that is not a dirty surface. -/
theorem fresh_outside {db₀ : Db Geometry} {vars : TxVars} (htracks : Tracks plan db₀ vars db)
    (h : Fresh gis plan good db₀) {r : Ref} (hr : r ∉ dirtySurfaces plan db vars.touched) :
    FreshRow gis plan good db r := by
  rw [dirtySurfaces, Finset.mem_union, not_or, List.mem_toFinset] at hr
  obtain ⟨htouched, hreverse⟩ := hr
  have hlinks : ∀ l : Link, l.source = r → (l ∈ db.association ↔ l ∈ db₀.association) :=
    fun l hl => htracks.links l (hl ▸ htouched)
  refine (h r).congr (footprintGeometryVerdict_congr ?_ hlinks ?_) (htracks.rows r htouched)
  · rw [htracks.rows r htouched]
  · intro coll hmem hname derived hderived x hx
    obtain ⟨hl, hsource, -, htarget⟩ := target?_of_mem_footprintLinks hmem hname hderived hx
    refine htracks.rows _ fun htouched' => hreverse ?_
    exact mem_reverseSurfaces.mpr ⟨x.1, (hlinks x.1 hsource).mpr hl, hsource, _, htouched', htarget⟩

/-- What is refreshed is fresh, and what was fresh stays so. -/
theorem Refreshed.fresh {surfaces : Finset Ref} (h : Refreshed gis plan surfaces db db')
    (hgood : ∀ verdict : GeometryVerdict, verdict.valid = true → good verdict)
    (hfresh : ∀ r, r ∉ surfaces → FreshRow gis plan good db r) : Fresh gis plan good db' := by
  intro r
  have hverdict :
      footprintGeometryVerdict gis plan db' r = footprintGeometryVerdict gis plan db r := by
    refine footprintGeometryVerdict_congr (h.isSome_row? r) (fun l _ => by rw [h.association]) ?_
    intro coll hmem hname derived hderived x hx
    -- the geometry phase writes no member
    have hmember := not_derived_of_mem_footprintLinks hmem hname hderived hx
    by_cases hsurface : (⟨x.2.targetCollection, x.1.targetId⟩ : Ref) ∈ surfaces
    · rcases h.measured _ hsurface with ⟨-, hrow⟩ | ⟨verdict, footprint, hsome, -, -⟩
      · exact hrow
      · rw [footprintGeometryVerdict_of_not_derived hmember] at hsome
        cases hsome
    · exact h.others _ hsurface
  by_cases hr : r ∈ surfaces
  · rcases h.measured r hr with ⟨hnone, -⟩ | ⟨verdict, footprint, hsome, hvalid, hrow⟩
    · exact Or.inl (hverdict.trans hnone)
    · refine Or.inr ⟨verdict, footprint, hverdict.trans hsome, hgood verdict hvalid, ?_⟩
      obtain ⟨row, hrow'⟩ := row_of_footprintGeometryVerdict hsome
      rw [hrow, hrow']
      rfl
  · exact (hfresh r hr).congr hverdict (h.others r hr)

/-- A committed call keeps every row fresh. -/
theorem Committed.fresh {env : Env} {items : List Json} {db₁ : Db Geometry} {vars : TxVars}
    (h : Committed gis env plan items db vars db₁ db')
    (hgood : ∀ verdict : GeometryVerdict, verdict.valid = true → good verdict)
    (hfresh : Fresh gis plan good db) : Fresh gis plan good db' :=
  h.refreshed.fresh hgood fun _ hr => fresh_outside h.tracks hfresh hr

/-! ### Measures and verdicts -/

/-- A measure counts the included members. -/
theorem counts_of_measureMembers (members : List (FootprintMember Geometry)) :
    (measureMembers gis members).Meets (fun _ => True) fun measure =>
      measure.members = members.length ∧
        measure.included = (members.filter (·.included)).length := by
  rw [measureMembers]
  simp only
  split
  · exact ⟨rfl, rfl⟩
  · refine (Except.meets_true _).bind fun linework _ => ?_
    split
    all_goals
      refine (Except.meets_true _).bind fun simple _ => ?_
      split
      · exact ⟨rfl, rfl⟩
      · refine (Except.meets_true _).bind fun facts _ => ?_
        split
        · exact ⟨rfl, rfl⟩
        · exact (Except.meets_true _).bind fun unused _ => ⟨rfl, rfl⟩

/-- Nothing included, nothing measured. -/
theorem footprint_of_measureMembers {members : List (FootprintMember Geometry)}
    {measure : FootprintMeasure Geometry} (h : measureMembers gis members = .ok measure)
    (hincluded : measure.included = 0) : measure.footprint = none := by
  have hcount : (measureMembers gis members).Meets _ _ := counts_of_measureMembers members
  rw [h] at hcount
  rw [measureMembers] at h
  simp only at h
  rw [if_pos (hcount.2.symm.trans hincluded)] at h
  cases h
  rfl

/-- A valid verdict has a footprint unless nothing is included. -/
theorem footprint_of_valid {derived : DerivedPlan} {measure : FootprintMeasure Geometry}
    (hvalid : (collectionGeometryVerdict derived ref measure).valid = true)
    (hnone : measure.footprint = none) : measure.included = 0 := by
  by_contra hincluded
  rw [collectionGeometryVerdict] at hvalid
  simp only [if_neg hincluded, hnone, Option.isNone_none, if_true] at hvalid
  split at hvalid <;> cases hvalid

/-! ### The result -/

/-- One call, by its environment and its document. -/
def transactionStep (gis : PostGIS Geometry) (deployed : String → Option SchemaPlan)
    (dataset : String) (db : Db Geometry) (call : Env × Option Json) : Option (Db Geometry) :=
  some (tablesAfter db (transaction gis call.1 deployed dataset call.2 db))

/-- Every call keeps every row fresh. -/
theorem fresh_transactionStep {deployed : String → Option SchemaPlan} {dataset : String}
    (hplan : deployed dataset = some plan) {call : Env × Option Json}
    (h : Fresh gis plan (·.valid = true) db)
    (hstep : transactionStep gis deployed dataset db call = some db') :
    Fresh gis plan (·.valid = true) db' := by
  cases hstep
  cases hcall : transaction gis call.1 deployed dataset call.2 db with
  | error e => exact h
  | ok x =>
    obtain ⟨report, db'⟩ := x
    cases hcommitted : report.committed with
    | true =>
      obtain ⟨plan', items, vars, db₁, hplan', -, hdone, -⟩ := transaction_committed hcall hcommitted
      cases hplan.symm.trans hplan'
      exact hdone.fresh (fun _ hvalid => hvalid) h
    | false =>
      rw [transaction_rejected hcall hcommitted]
      exact h

/-- **Stored footprints are never stale.**  After any calls from the empty
tables, every derived row stores the footprint that measuring it gives, NULL
exactly when it includes no member, and its verdict is valid. -/
theorem footprints_never_stale (gis : PostGIS Geometry) (deployed : String → Option SchemaPlan)
    (dataset : String) (plan : SchemaPlan) (hplan : deployed dataset = some plan)
    (calls : List (Env × Option Json)) (db : Db Geometry)
    (hrun : Runs.run (transactionStep gis deployed dataset) Db.empty calls = some db)
    (ref : Ref) (coll : CollectionPlan) (derived : DerivedPlan) (row : Row Geometry)
    (hcoll : plan.collection? ref.collection = some coll) (hderived : coll.derived = some derived)
    (hrow : db.row? ref = some row) :
    ∃ measure, footprintMeasure gis db derived ref = .ok (some measure) ∧
      row.geometry = measure.footprint ∧ (row.geometry = none ↔ measure.included = 0) ∧
      (collectionGeometryVerdict derived ref measure).valid = true := by
  have hfresh : Fresh gis plan (·.valid = true) db :=
    Runs.run_invariant (fun _ _ _ h hstep => fresh_transactionStep hplan h hstep) fresh_empty hrun
  obtain ⟨measure, hmeasure, hstored, hvalid⟩ :=
    (freshRow_iff hcoll hderived hrow).mp (hfresh ref)
  refine ⟨measure, hmeasure, hstored, ?_, hvalid⟩
  obtain ⟨measure', hmeasured, heq⟩ := Except.map_eq_ok.mp
    ((footprintMeasure_eq hrow).symm.trans hmeasure)
  cases heq
  rw [hstored]
  exact ⟨footprint_of_valid hvalid, footprint_of_measureMembers hmeasured⟩

/-- The area of a committed document stores its footprint. -/
theorem footprints_never_stale_sample : ∃ db row measure,
    Runs.run (transactionStep Sample.gis (fun _ => some Sample.topology) "topology") Db.empty
      [(Sample.env, Sample.document [Sample.insertLine 1, Sample.insertArea 2 1])] = some db ∧
    db.row? ⟨"areas", 2⟩ = some row ∧
    footprintMeasure Sample.gis db ⟨"footprint", true, .one, .allowed,
      [[⟨"boundary", "lines", none⟩]]⟩ ⟨"areas", 2⟩ = .ok (some measure) ∧
    row.geometry = some () ∧ row.geometry = measure.footprint := by
  obtain ⟨db, hrun, row, hrow, hgeometry⟩ : ∃ db ∈ Runs.run (transactionStep Sample.gis
      (fun _ => some Sample.topology) "topology") Db.empty
      [(Sample.env, Sample.document [Sample.insertLine 1, Sample.insertArea 2 1])],
      ∃ row ∈ db.row? ⟨"areas", 2⟩, row.geometry = some () := by decide +kernel
  obtain ⟨measure, hmeasure, hstored, -⟩ := footprints_never_stale Sample.gis
    (fun _ => some Sample.topology) "topology" Sample.topology rfl _ db hrun ⟨"areas", 2⟩
    Sample.areas _ row rfl rfl hrow
  exact ⟨db, row, measure, hrun, hrow, hmeasure, hgeometry, hstored⟩

end Geocomponents
