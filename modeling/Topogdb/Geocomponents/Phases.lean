/-
The phases after the items, and what a committed call has done.

* `run_structurePhase` — the structure phase never fails, and finds
  `structureFindingsOf`;
* `Refreshed` — what the geometry phase stores;
* `transaction_committed` — a committed call applied its items, found nothing
  and refreshed the dirty surfaces; `transaction_rejected` — any other report
  goes with the tables as they were.
-/
import Topogdb.Geocomponents.Items

namespace Geocomponents

open Prog

variable {Geometry : Type}

/-! ### The structure phase -/

/-- All findings of the structure phase. -/
def structureFindingsOf (plan : SchemaPlan) (vars : TxVars) (db : Db Geometry) :
    List StructureFinding :=
  (missingFindings plan db vars.deleted).map .missing ++
    (footprintFindings plan db vars.touched).map .footprint ++
    (boundsFindings plan db vars.dirty).map .bounds

namespace Tracks

variable {plan : SchemaPlan} {db₀ db : Db Geometry} {vars : TxVars}

theorem touchedRows_eq (h : Tracks plan db₀ vars db) :
    touchedRows vars.touchedFeatures = .ok vars.touched :=
  recordset_eq fun t ht => castRef_eq (h.castable_touched t ht)

theorem dirtyRows_eq (h : Tracks plan db₀ vars db) :
    dirtyRows vars.dirtyMemberCurves = .ok vars.dirty :=
  recordset_eq fun d hd => castRef_eq (h.castable_dirty d hd)

theorem deletedRows_eq (h : Tracks plan db₀ vars db) :
    deletedRows vars.touchedFeatures = .ok vars.deleted := by
  refine recordset_eq fun t ht => ?_
  rw [castRef_eq (h.castable_touched t (List.mem_of_mem_filter ht))]
  rfl

end Tracks

/-- **The structure phase finds what it looks for and never fails.** -/
theorem run_structurePhase {plan : SchemaPlan} {db₀ db : Db Geometry} {vars : TxVars}
    (h : Tracks plan db₀ vars db) :
    ∃ vars', run (structurePhase plan vars) db = .ok (vars', db) ∧
      vars'.structureFindings = structureFindingsOf plan vars db ∧
      vars'.touchedFeatures = vars.touchedFeatures ∧ vars'.reportItems = vars.reportItems ∧
      vars'.structureFailed = false ∧ vars'.geometryFailed = false := by
  rw [structurePhase]
  split
  · next hnil =>
    refine ⟨vars, rfl, ?_, rfl, rfl, h.findings.2.2⟩
    rw [h.fresh hnil]
    rfl
  · refine ⟨{ vars with
      phase := .structure
      structureFindings := structureFindingsOf plan vars db }, ?_, rfl, rfl, rfl, h.findings.2.2⟩
    simp only [failing, run_bind, run_mapError, run_select, h.deletedRows_eq, h.touchedRows_eq,
      h.dirtyRows_eq, Except.ok_bind, Except.map, Except.mapError]
    rfl

/-! ### The geometry phase -/

/-- What the geometry phase does to the row of a dirty surface: nothing, if it
has no verdict, and else it stores the footprint that was measured. -/
def RefreshedRow (gis : PostGIS Geometry) (plan : SchemaPlan) (db db' : Db Geometry) (r : Ref) :
    Prop :=
  (footprintGeometryVerdict gis plan db r = .ok none ∧ db'.row? r = db.row? r) ∨
    ∃ verdict footprint, footprintGeometryVerdict gis plan db r = .ok (some (verdict, footprint)) ∧
      verdict.valid = true ∧
      db'.row? r = (db.row? r).map fun row => { row with geometry := footprint }

/-- The dirty surfaces are refreshed, and nothing else changes. -/
structure Refreshed (gis : PostGIS Geometry) (plan : SchemaPlan) (surfaces : Finset Ref)
    (db db' : Db Geometry) : Prop where
  association : db'.association = db.association
  others : ∀ r, r ∉ surfaces → db'.row? r = db.row? r
  measured : ∀ r ∈ surfaces, RefreshedRow gis plan db db' r

/-- The write that stores a measured footprint. -/
def Measured.write (m : Measured Geometry) : Write Geometry :=
  .updateRow m.ref fun row => { row with geometry := m.footprint }

section StoredFootprints

variable {ms : List (Measured Geometry)} {db : Db Geometry}

theorem association_applyAll_measured :
    (Store.applyAll (ms.map Measured.write) db).association = db.association := by
  refine Store.applyAll_invariant (P := fun db' : Db Geometry => db'.association = db.association)
    ?_ rfl
  intro w hw db' hdb'
  obtain ⟨m, -, rfl⟩ := List.mem_map.mp hw
  rw [Measured.write, association_updateRow, hdb']

theorem row?_applyAll_of_not_measured {r : Ref} (hr : r ∉ ms.map (·.ref)) :
    (Store.applyAll (ms.map Measured.write) db).row? r = db.row? r := by
  refine Store.applyAll_invariant (P := fun db' : Db Geometry => db'.row? r = db.row? r) ?_ rfl
  intro w hw db' hdb'
  obtain ⟨m, hm, rfl⟩ := List.mem_map.mp hw
  have hne : r ≠ m.ref := fun heq => hr (heq ▸ List.mem_map_of_mem hm)
  rw [Measured.write, row?_updateRow, if_neg hne, hdb']

/-- Each measured row gets its own footprint. -/
theorem row?_applyAll_measured (hnodup : (ms.map (·.ref)).Nodup) {m : Measured Geometry}
    (hm : m ∈ ms) : (Store.applyAll (ms.map Measured.write) db).row? m.ref
      = (db.row? m.ref).map fun row => { row with geometry := m.footprint } := by
  induction ms generalizing db with
  | nil => exact absurd hm List.not_mem_nil
  | cons m' ms ih =>
    rw [List.map_cons, List.nodup_cons] at hnodup
    rw [List.map_cons, Store.applyAll_cons]
    rcases List.mem_cons.mp hm with rfl | hmem
    · rw [row?_applyAll_of_not_measured hnodup.1, Measured.write, row?_updateRow, if_pos rfl]
    · have hne : m.ref ≠ m'.ref := fun heq => hnodup.1 (heq ▸ List.mem_map_of_mem hmem)
      rw [ih hnodup.2 hmem, Measured.write, row?_updateRow, if_neg hne]

end StoredFootprints

/-- The surface of a verdict. -/
def measuredOf (gis : PostGIS Geometry) (plan : SchemaPlan) (db : Db Geometry) (ref : Ref) :
    Option (Measured Geometry) :=
  match footprintGeometryVerdict gis plan db ref with
  | .ok verdict => verdict.map fun x => ⟨ref, x.1, x.2⟩
  | .error _ => none

theorem ref_of_measuredOf {gis : PostGIS Geometry} {plan : SchemaPlan} {db : Db Geometry}
    {ref : Ref} {m : Measured Geometry} (h : measuredOf gis plan db ref = some m) : m.ref = ref := by
  rw [measuredOf] at h
  split at h
  · obtain ⟨x, -, rfl⟩ := Option.map_eq_some_iff.mp h
    rfl
  · cases h

theorem measureSurfaces_eq_ok {gis : PostGIS Geometry} {plan : SchemaPlan} {db : Db Geometry}
    {refs : List Ref} {ms : List (Measured Geometry)}
    (h : measureSurfaces gis plan db refs = .ok ms) :
    ms = (Ordered.list (dirtySurfaces plan db refs)).filterMap (measuredOf gis plan db) ∧
      ∀ r ∈ dirtySurfaces plan db refs, ∃ x, footprintGeometryVerdict gis plan db r = .ok x ∧
        measuredOf gis plan db r = x.map fun x => ⟨r, x.1, x.2⟩ := by
  obtain ⟨measured, hmeasured, h⟩ := Except.bind_eq_ok.mp h
  cases h
  have hstep : ∀ ref m, (do
      let verdict ← footprintGeometryVerdict gis plan db ref
      pure (verdict.map fun x => (⟨ref, x.1, x.2⟩ : Measured Geometry)) : Except SqlError _)
        = .ok m → m = measuredOf gis plan db ref := by
    intro ref m hm
    obtain ⟨x, hx, hm⟩ := Except.bind_eq_ok.mp hm
    cases hm
    rw [measuredOf, hx]
  obtain ⟨rfl, hall⟩ := Except.mapM_eq_ok hstep hmeasured
  refine ⟨by rw [List.filterMap_map]; rfl, fun r hr => ?_⟩
  obtain ⟨x, hx, -⟩ := Except.bind_eq_ok.mp (hall r (Ordered.mem_list.mpr hr))
  refine ⟨x, hx, ?_⟩
  rw [measuredOf, hx]

theorem storeFootprint_eq_ok {gis : PostGIS Geometry} {plan : SchemaPlan}
    (m : Measured Geometry) (w : Write Geometry) (h : storeFootprint gis plan m = .ok w) :
    w = m.write := by
  rw [storeFootprint] at h
  split at h
  · obtain ⟨_, -, h⟩ := Except.bind_eq_ok.mp h
    cases h
    rfl
  · cases h
    rfl

/-- **Either a surface is found invalid, or every dirty one is refreshed.** -/
theorem ends_applyDirtyFootprints (gis : PostGIS Geometry) (plan : SchemaPlan)
    {touched : List Touched} {refs : List Ref} (hrefs : touchedRows touched = .ok refs)
    (db : Db Geometry) :
    Ends (applyDirtyFootprints gis plan touched) db fun findings db' =>
      findings = [] → Refreshed gis plan (dirtySurfaces plan db refs) db db' := by
  refine ends_query fun findings ws h => ?_
  rw [hrefs, Except.ok_bind] at h
  obtain ⟨ms, hms, h⟩ := Except.bind_eq_ok.mp h
  obtain ⟨rfl, hdefined⟩ := measureSurfaces_eq_ok hms
  have hnodup : (((Ordered.list (dirtySurfaces plan db refs)).filterMap
      (measuredOf gis plan db)).map (·.ref)).Nodup := by
    rw [List.map_filterMap]
    refine (Ordered.nodup_list _).filterMap fun a a' b hb hb' => ?_
    obtain ⟨m, hm, rfl⟩ := Option.map_eq_some_iff.mp hb
    obtain ⟨m', hm', heq⟩ := Option.map_eq_some_iff.mp hb'
    rw [← ref_of_measuredOf hm, ← ref_of_measuredOf hm', heq]
  simp only at h
  split at h
  · next hvalid =>
    obtain ⟨writes, hwrites, h⟩ := Except.bind_eq_ok.mp h
    cases h
    obtain ⟨rfl, -⟩ := Except.mapM_eq_ok storeFootprint_eq_ok hwrites
    intro _
    refine ⟨association_applyAll_measured, fun r hr => ?_, fun r hr => ?_⟩
    · refine row?_applyAll_of_not_measured fun hmem => hr ?_
      obtain ⟨m, hm, rfl⟩ := List.mem_map.mp hmem
      obtain ⟨r, hr, hm⟩ := List.mem_filterMap.mp hm
      rw [ref_of_measuredOf hm]
      exact Ordered.mem_list.mp hr
    · obtain ⟨x, hx, hmeasured⟩ := hdefined r hr
      cases x with
      | none =>
        refine Or.inl ⟨hx, row?_applyAll_of_not_measured fun hmem => ?_⟩
        obtain ⟨m, hm, rfl⟩ := List.mem_map.mp hmem
        obtain ⟨r', -, hm⟩ := List.mem_filterMap.mp hm
        rw [ref_of_measuredOf hm, hm] at hmeasured
        cases hmeasured
      | some x =>
        obtain ⟨verdict, footprint⟩ := x
        have hmem : (⟨r, verdict, footprint⟩ : Measured Geometry) ∈
            (Ordered.list (dirtySurfaces plan db refs)).filterMap (measuredOf gis plan db) :=
          List.mem_filterMap.mpr ⟨r, Ordered.mem_list.mpr hr, hmeasured⟩
        refine Or.inr ⟨verdict, footprint, hx, ?_, row?_applyAll_measured hnodup hmem⟩
        -- an invalid verdict would be a finding
        by_contra hbad
        have hfound : verdict ∈ ([] : List GeometryVerdict) :=
          hvalid ▸ List.mem_filter.mpr ⟨List.mem_map.mpr ⟨_, hmem, rfl⟩, by simpa using hbad⟩
        exact List.not_mem_nil hfound
  · next hinvalid =>
    cases h
    exact fun hnil => absurd hnil hinvalid

theorem Refreshed.refl (gis : PostGIS Geometry) (plan : SchemaPlan) (db : Db Geometry) :
    Refreshed gis plan ∅ db db :=
  ⟨rfl, fun _ _ => rfl, fun r hr => absurd hr (Finset.notMem_empty r)⟩

theorem ends_geometryPhase (gis : PostGIS Geometry) {plan : SchemaPlan} {db₀ db : Db Geometry}
    {vars vars' : TxVars} (h : Tracks plan db₀ vars db)
    (htouched : vars'.touchedFeatures = vars.touchedFeatures) :
    Ends (geometryPhase gis plan vars') db fun vars'' db' =>
      vars''.reportItems = vars'.reportItems ∧ vars''.structureFailed = vars'.structureFailed ∧
        (vars''.geometryFindings = [] →
          Refreshed gis plan (dirtySurfaces plan db vars.touched) db db') := by
  rw [geometryPhase]
  split
  · next hnil =>
    refine ends_pure ⟨rfl, rfl, fun _ => ?_⟩
    rw [h.fresh (htouched ▸ hnil)]
    exact Refreshed.refl gis plan db
  · have hrefs : touchedRows vars'.touchedFeatures = .ok vars.touched := htouched ▸ h.touchedRows_eq
    refine ((ends_applyDirtyFootprints gis plan hrefs db).mapError _).bind ?_
    intro findings db' hfindings
    exact ends_pure ⟨rfl, rfl, hfindings⟩

/-! ### The whole call -/

/-- What a committed call has done: its items applied, no finding, and the dirty
surfaces refreshed. -/
structure Committed (gis : PostGIS Geometry) (env : Env) (plan : SchemaPlan) (items : List Json)
    (db : Db Geometry) (vars : TxVars) (db₁ db' : Db Geometry) : Prop where
  items : run (transactionItems gis env plan {} items) db = .ok (vars, db₁)
  clean : structureFindingsOf plan vars db₁ = []
  refreshed : Refreshed gis plan (dirtySurfaces plan db₁ vars.touched) db₁ db'

theorem Committed.tracks {gis : PostGIS Geometry} {env : Env} {plan : SchemaPlan}
    {items : List Json} {db db₁ db' : Db Geometry} {vars : TxVars}
    (h : Committed gis env plan items db vars db₁ db') : Tracks plan db vars db₁ :=
  tracks_transactionItems gis env plan items db vars db₁ h.items

theorem ends_transactionBlock (gis : PostGIS Geometry) (env : Env) (plan : SchemaPlan)
    (document : Option Json) (db : Db Geometry) :
    Ends (transactionBlock gis env plan document) db fun vars' db' =>
      ∃ items vars db₁, txItems document = .arr items ∧
        Committed gis env plan items db vars db₁ db' ∧ vars'.reportItems = vars.reportItems := by
  rw [transactionBlock]
  simp only
  split
  · exact ends_raise
  · split
    · next items hitems =>
      refine (ends_run _ db).bind fun vars db₁ hrun => ?_
      have htracks := tracks_transactionItems gis env plan items db vars db₁ hrun
      obtain ⟨vars₁, hstructure, hfindings, htouched, hreport, -⟩ := run_structurePhase htracks
      refine Ends.bind (R := fun vars' db' => vars' = vars₁ ∧ db' = db₁) ?_ ?_
      · intro a s' h
        cases hstructure.symm.trans h
        exact ⟨rfl, rfl⟩
      rintro _ _ ⟨rfl, rfl⟩
      split
      · exact ends_raise
      · next hclean =>
        refine (ends_geometryPhase gis htracks htouched).bind ?_
        rintro vars₂ db' ⟨hreport', -, hrefreshed⟩
        split
        · exact ends_raise
        · next hvalid =>
          refine ends_pure ⟨items, vars, _, hitems, ⟨hrun, ?_, hrefreshed (not_not.mp hvalid)⟩,
            hreport'.trans hreport⟩
          rw [← hfindings]
          exact not_not.mp hclean
    · exact ends_raise

theorem exceptionHandler_not_committed {failure : Failure} {report : Report}
    (h : exceptionHandler failure = .ok report) : report.committed = false := by
  unfold exceptionHandler at h
  simp only at h
  split at h
  · cases h
  · split at h
    · cases h
      rfl
    · split at h
      · cases h
        rfl
      · split at h
        · cases h
          rfl
        · cases h
          rfl

section Call

variable {gis : PostGIS Geometry} {env : Env} {deployed : String → Option SchemaPlan}
  {dataset : String} {document : Option Json} {db db' : Db Geometry} {report : Report}

/-- **A committed call applied its items, found nothing and refreshed the dirty
surfaces.** -/
theorem transaction_committed
    (h : transaction gis env deployed dataset document db = .ok (report, db'))
    (hcommitted : report.committed = true) :
    ∃ plan items vars db₁, deployed dataset = some plan ∧ txItems document = .arr items ∧
      Committed gis env plan items db vars db₁ db' ∧ report = committedReport vars := by
  rw [transaction] at h
  split at h
  · cases h
  · next plan hplan =>
    split at h
    · next vars' db₂ hrun =>
      cases h
      obtain ⟨items, vars, db₁, hitems, hdone, hreport⟩ :=
        ends_transactionBlock gis env plan document db vars' _ hrun
      refine ⟨plan, items, vars, db₁, hplan, hitems, hdone, ?_⟩
      unfold committedReport
      rw [hreport]
    · next failure _ =>
      obtain ⟨report', hhandler, heq⟩ := Except.map_eq_ok.mp h
      cases heq
      rw [exceptionHandler_not_committed hhandler] at hcommitted
      cases hcommitted

/-- **Any other report goes with the tables as they were.** -/
theorem transaction_rejected
    (h : transaction gis env deployed dataset document db = .ok (report, db'))
    (hrejected : report.committed = false) : db' = db := by
  rw [transaction] at h
  split at h
  · cases h
  · split at h
    · cases h
      cases hrejected
    · obtain ⟨report', -, heq⟩ := Except.map_eq_ok.mp h
      cases heq
      rfl

end Call

end Geocomponents
