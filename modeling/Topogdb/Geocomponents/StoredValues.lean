/-
What the generated functions store.

`Conformance` is about what the description promises; here is what every accepted
write makes sure of, whatever its document.

* `StoredValue`, `StoredGeometry`, `StoredRow` — a value that has passed the checks
  of a write, and was stripped and stamped by it;
* `storedValue_of_assigns` — what a write assigns to a column is such a value;
* `storedRow_of_run` — so every row that a run of accepted calls leaves is made of
  such values.
-/
import Topogdb.Geocomponents.StoredRows
import Topogdb.Geocomponents.Written

namespace Geocomponents

open Prog Sql

variable {Geometry : Type}

/-! ### Stored values -/

/-- What is stored of an object with sub-fields: the keys that the server manages
are stripped or hold a text, and the rest has passed its checks. -/
structure StoredObject (rc : ResolvedCollection) (f : ResolvedField) (ms : List (String × Json)) :
    Prop where
  declared : ∀ m ∈ ms, m.1 ∈ f.subFields.map (·.name) ∨ m.1 ∈ (injectedKeys rc f.name).writeInject
  stripped : ∀ key ∈ (injectedKeys rc f.name).stripKeys,
    key ∉ (injectedKeys rc f.name).writeInject → ms.lookup key = none
  stamped : ∀ key ∈ (injectedKeys rc f.name).writeInject, ∃ text, ms.lookup key = some (.str text)
  members : ∀ sub ∈ f.subFields, sub.name ∉ (injectedKeys rc f.name).stripKeys →
    (sub.shape f.name (serverSuppliedPaths rc)).dropEmptyCodes.Admits (ms.lookup sub.name) ∧
      ¬ (sub.shape f.name (serverSuppliedPaths rc)).NullsRequired (ms.lookup sub.name)

/-- What a write from the calls `served` stores for a field. -/
structure StoredValue (served : Env → Prop) (rc : ResolvedCollection) (f : ResolvedField)
    (value : Option Datum) : Prop where
  notNull : f.required = true → value ≠ none
  json : f.sqlType = "jsonb" → ∀ d, value = some d → ∃ j, d = .json j
  object : f.subFields ≠ [] → ∀ j, value = some (.json j) →
    (j = .null ∧ (injectedKeys rc f.name).stripKeys = []) ∨
      ∃ ms, j = .obj ms ∧ StoredObject rc f ms
  code : f.sqlType ≠ "jsonb" → isClientWritten rc f = true → f.codelistValues ≠ [] →
    ∀ d, value = some d → ∃ c ∈ f.codelistValues, d = .scalar "text" c
  now : f.sqlType ≠ "jsonb" → rc.serverManagedPaths.lookup f.name = some .timestampIso →
    ∃ env, served env ∧ ∃ d, env.assignNow f.sqlType = .ok d
  cast : f.sqlType ≠ "jsonb" → isClientWritten rc f = true → ∀ d, value = some d →
    ∃ env, served env ∧ ∃ text, env.cast f.sqlType text = .ok d

/-- A stored geometry has passed its checks. -/
structure StoredGeometry (gis : PostGIS Geometry) (column : GeometryColumnPlan)
    (geometry : Option Geometry) : Prop where
  notNull : geometry = none → column.nullable = true
  valid : ∀ g, geometry = some g → gis.isValid g = .ok true
  simple : ∀ g, geometry = some g → gis.isSimple g = .ok true
  typmod : ∀ g, geometry = some g → gis.typmod column g = .ok ()

structure StoredRow (gis : PostGIS Geometry) (served : Env → Prop) (rc : ResolvedCollection)
    (coll : CollectionPlan) (row : Row Geometry) : Prop where
  values : ∀ f ∈ rc.fields, StoredValue served rc f (row.columns f.name)
  geometry : coll.derived = none → StoredGeometry gis coll.geometry row.geometry

section Values

variable {gis : PostGIS Geometry} {env : Env} {served : Env → Prop} {rc : ResolvedCollection}
  {coll : CollectionPlan} {feature : Option Json} {named : ColumnPlan → Bool}
  {vals : Assignments Geometry} {f : ResolvedField} {value : Option Datum} {guarded : Bool}

/-- An object as it is read from a document that passed its check. -/
theorem storedObject_of_propRead (hregular : f.Regular) (hsub : f.subFields ≠ [])
    (hcheck : nestedCheck env guarded feature (jsonbColumn rc f) = .ok ()) {j : Json}
    (hread : propRead env (jsonbColumn rc f) feature = .ok (some (.json j))) :
    (j = .null ∧ (injectedKeys rc f.name).stripKeys = []) ∨
      ∃ ms, j = .obj ms ∧ StoredObject rc f ms := by
  obtain ⟨-, -, hobject, hfields⟩ := hregular
  have hjson : (jsonbColumn rc f).sqlType = "jsonb" := hobject hsub
  have hsupplied := supplied_injectedKeys rc f.name
  cases harrow : arrow (properties feature) f.name with
  | none =>
    rw [propRead, if_pos hjson, show (jsonbColumn rc f).name = f.name from rfl, harrow] at hread
    cases hread
  | some v =>
    -- JSON null passes the check, and survives when nothing is put into it
    by_cases hnull : v = .null
    · subst hnull
      rw [propRead, if_pos hjson, show (jsonbColumn rc f).name = f.name from rfl, harrow] at hread
      obtain ⟨v', hstrip, hread⟩ := Except.bind_eq_ok.mp hread
      obtain ⟨hnil, rfl⟩ := foldlM_deletePath_null hstrip
      have hwrite : (jsonbColumn rc f).writeInject = [] := by
        refine List.eq_nil_iff_forall_not_mem.mpr fun key hkey => ?_
        have hmem := hsupplied.write key hkey
        rw [show (injectedKeys rc f.name).stripKeys = [] from hnil] at hmem
        exact List.not_mem_nil hmem
      rw [hwrite] at hread
      cases hread
      exact .inl ⟨rfl, hnil⟩
    · have hplans : (jsonbColumn rc f).nestedFields =
          f.subFields.map (nestedFieldPlan f.name (serverSuppliedPaths rc)) :=
        nestedFieldPlans_eq f.name f.subFields
      have hne : (jsonbColumn rc f).nestedFields ≠ [] := by
        rw [hplans]
        simpa using hsub
      obtain ⟨ms, rfl, hdeclared, hchecked⟩ := object_of_nestedCheck hcheck hne harrow hnull
      obtain ⟨ms', hvalue, hmem, hlookup⟩ := exists_propRead_object hjson harrow hread
      have hj : j = .obj ms' := by
        rw [Option.some.injEq, Datum.json.injEq] at hvalue
        exact hvalue
      refine .inr ⟨ms', hj, fun m hm => ?_, fun key hkey hnot => ?_, fun key hkey => ?_,
        fun sub hmem' hnot => ?_⟩
      · rcases hmem m hm with hput | hold
        · exact .inr hput
        · refine .inl ?_
          have hdecl := hdeclared m hold
          rwa [hplans, map_nestedFieldPlan_name] at hdecl
      · rw [hlookup]
        exact (if_neg hnot).trans (if_pos hkey)
      · exact ⟨env.nowText, (hlookup key).trans (if_pos hkey)⟩
      · -- a field of the client is what was checked
        have hnotWritten : sub.name ∉ (injectedKeys rc f.name).writeInject :=
          fun h => hnot (hsupplied.write _ h)
        have hsame : ms'.lookup sub.name = ms.lookup sub.name := by
          rw [hlookup]
          exact (if_neg hnotWritten).trans (if_neg hnot)
        rw [hsame]
        have hplan : nestedFieldPlan f.name (serverSuppliedPaths rc) sub ∈
            (jsonbColumn rc f).nestedFields := by
          rw [hplans]
          exact List.mem_map_of_mem hmem'
        exact (nestedFieldChecks_iff (hfields sub hmem')).mp (hchecked _ hplan)

/-- A column of the client is not written by the server. -/
theorem not_server_written (hjson : f.sqlType ≠ "jsonb") (hclient : isClientWritten rc f = true)
    {expr : Option ServerWriteExpr} (h : serverWriteExpr rc f = .ok expr) : expr = none := by
  have hlookup : rc.serverManagedPaths.lookup f.name = none := by
    rw [isClientWritten, decide_eq_false hjson, Bool.false_or, Bool.and_eq_true] at hclient
    exact Option.isNone_iff_eq_none.mp hclient.2
  rw [serverWriteExpr, hlookup] at h
  exact (Except.ok.inj h).symm

/-- **What a write assigns to a column.** -/
theorem storedValue_of_assigns (hb : Builds rc coll) (hserved : served env)
    (hconverts : env.Converts) {guarded : Bool}
    (hguard : guardBlock gis env coll guarded feature = .ok ())
    (hassigns : AssignsColumns env coll feature named vals.columns)
    (hcheck : checkRow gis coll vals = .ok ()) (hf : f ∈ rc.fields)
    (hv : vals.columns.lookup f.name = some value) : StoredValue served rc f value := by
  obtain ⟨col, hcol, hbuild⟩ := hb.columns.exists_of_mem_left hf
  have hregular := hb.regular f hf
  rw [← name_buildColumn hbuild] at hv
  have hnull := fun hnullable => ne_none_of_checkRow hcheck hcol hnullable hv
  have hassigned := hassigns.of_lookup hb.nodup hcol hv
  rw [buildColumn] at hbuild
  by_cases hjson : f.sqlType = "jsonb"
  · rw [if_pos hjson] at hbuild
    cases hbuild
    -- a jsonb column is never written by the server
    rcases hassigned with ⟨hwritable, hread⟩ | ⟨expr, hexpr, -⟩
    · refine ⟨fun hrequired => hnull ?_, fun _ d hd => ?_, fun hsub j hj => ?_,
        fun hnot => absurd hjson hnot, fun hnot => absurd hjson hnot,
        fun hnot => absurd hjson hnot⟩
      · show (!f.required) = false
        rw [hrequired]
        rfl
      · subst hd
        rw [propRead, if_pos (show (jsonbColumn rc f).sqlType = "jsonb" from hjson)] at hread
        split at hread
        · cases hread
        · obtain ⟨v', -, hread⟩ := Except.bind_eq_ok.mp hread
          cases hread
          exact ⟨_, rfl⟩
      · subst hj
        exact storedObject_of_propRead hregular hsub (guards_of_guardBlock hguard _ hwritable).2 hread
    · cases hexpr
  · rw [if_neg hjson] at hbuild
    obtain ⟨expr, hexpr, hbuild⟩ := Except.bind_eq_ok.mp hbuild
    cases hbuild
    obtain ⟨hcodes, hvalues, hobject, -⟩ := hregular
    refine ⟨fun hrequired => hnull ?_, fun h => absurd h hjson,
      fun hsub => absurd (hobject hsub) hjson, fun _ hclient hne d hd => ?_, fun _ hnow => ?_,
      fun _ hclient d hd => ?_⟩
    · simp [hrequired]
    · subst hd
      rcases hassigned with ⟨hwritable, hread⟩ | ⟨expr, hsome, -⟩
      · have htype : f.sqlType = "text" := by
          refine (hcodes ?_).1
          by_contra hnone
          exact hne (hvalues (Option.not_isSome_iff_eq_none.mp hnone))
        rw [propRead, if_neg hjson] at hread
        split at hread
        · cases hread
        · next text htext =>
          -- the code was checked on the text that is stored
          have hmem := mem_of_enumCheck (guards_of_guardBlock hguard _ hwritable).1 htext hne
          rw [htype, hconverts.castText] at hread
          cases hread
          exact ⟨text, hmem, rfl⟩
      · simp only at hsome
        subst hsome
        cases not_server_written hjson hclient hexpr
    · have hsome : expr = some .now := by
        rw [serverWriteExpr, hnow] at hexpr
        cases hexpr
        rfl
      subst hsome
      rcases hassigned with ⟨hwritable, -⟩ | ⟨expr, hsome, hwrite⟩
      · have hnone := (mem_writableColumns.mp hwritable).2.2
        cases hnone
      · cases hsome
        obtain ⟨d, hd, -⟩ := Except.map_eq_ok.mp hwrite
        exact ⟨env, hserved, d, hd⟩
    · subst hd
      rcases hassigned with ⟨-, hread⟩ | ⟨expr, hsome, -⟩
      · rw [propRead, if_neg hjson] at hread
        split at hread
        · cases hread
        · next text _ =>
          obtain ⟨d', hcast, hsame⟩ := Except.map_eq_ok.mp hread
          cases hsame
          exact ⟨env, hserved, text, hcast⟩
      · simp only at hsome
        subst hsome
        cases not_server_written hjson hclient hexpr

/-- A number that the server gives. -/
theorem storedValue_numbered (hregular : f.Regular) {col : ColumnPlan}
    (hbuild : buildColumn rc f = .ok col) (hauto : col.autoIncrement = true)
    (hexpr : col.serverWriteExpr = none) {d : Datum} : StoredValue served rc f (some d) := by
  obtain ⟨-, -, hobject, -⟩ := hregular
  rw [buildColumn] at hbuild
  by_cases hjson : f.sqlType = "jsonb"
  · rw [if_pos hjson] at hbuild
    cases hbuild
    cases hauto
  · rw [if_neg hjson] at hbuild
    obtain ⟨expr, hserver, hbuild⟩ := Except.bind_eq_ok.mp hbuild
    cases hbuild
    simp only at hauto hexpr
    refine ⟨fun _ => Option.some_ne_none d, fun h => absurd h hjson,
      fun hsub => absurd (hobject hsub) hjson,
      fun _ hclient => ?_, fun _ hnow => ?_, fun _ hclient => ?_⟩
    · rw [isClientWritten, decide_eq_false hjson, hauto] at hclient
      cases hclient
    · rw [serverWriteExpr, hnow, hexpr] at hserver
      cases hserver
    · rw [isClientWritten, decide_eq_false hjson, hauto] at hclient
      cases hclient

/-- A geometry that a write assigns. -/
theorem storedGeometry_of_checks (hderived : coll.derived = none)
    (hguard : guardBlock gis env coll guarded feature = .ok ())
    (hcheck : checkRow gis coll vals = .ok ()) {geometry : Option Geometry}
    (hgeometry : vals.geometry = some geometry)
    (hread : geometryValue gis coll feature = .ok geometry) :
    StoredGeometry gis coll.geometry geometry := by
  have hchecks : geomChecks gis coll guarded feature = .ok () := by
    obtain ⟨-, hguard⟩ := Except.seq_eq_ok.mp hguard
    exact (Except.seq_eq_ok.mp hguard).2
  rw [geometryValue, hderived, Option.isSome_none, if_neg Bool.false_ne_true] at hread
  have hvalid : ∀ g, geometry = some g → gis.isValid g = .ok true ∧ gis.isSimple g = .ok true := by
    rintro g rfl
    have hobject : typeOf (arrow feature "geometry") = some "object" := by
      rw [geomFromFeature] at hread
      split at hread
      · next members harrow =>
        rw [harrow]
        rfl
      · cases hread
    rw [geomChecks, hderived] at hchecks
    simp only [hobject, if_true] at hchecks
    obtain ⟨-, hchecks⟩ := Except.seq_eq_ok.mp hchecks
    rw [hread, Except.ok_bind] at hchecks
    obtain ⟨valid, hvalid, hchecks⟩ := Except.bind_eq_ok.mp hchecks
    obtain ⟨hvalid', hchecks⟩ := Except.seq_eq_ok.mp hchecks
    obtain ⟨simple, hsimple, hchecks⟩ := Except.bind_eq_ok.mp hchecks
    rw [raiseIf_eq_ok] at hvalid' hchecks
    cases valid with
    | false => exact absurd rfl hvalid'
    | true =>
      cases simple with
      | false => exact absurd rfl hchecks
      | true => exact ⟨hvalid, hsimple⟩
  rw [checkRow, hgeometry] at hcheck
  refine ⟨?_, fun g hg => (hvalid g hg).1, fun g hg => (hvalid g hg).2, ?_⟩
  · rintro rfl
    by_contra hnullable
    simp only [hnullable] at hcheck
    cases hcheck
  · rintro g rfl
    exact (Except.seq_eq_ok.mp hcheck).1

/-- A row that is rewritten. -/
theorem storedRow_assign (hb : Builds rc coll) (hserved : served env) (hconverts : env.Converts)
    (hguard : guardBlock gis env coll guarded feature = .ok ())
    (hassigns : AssignsColumns env coll feature named vals.columns)
    (hcheck : checkRow gis coll vals = .ok ())
    (hgeometry : ∀ g, vals.geometry = some g → geometryValue gis coll feature = .ok g)
    {row : Row Geometry} (hrow : StoredRow gis served rc coll row) :
    StoredRow gis served rc coll (row.assign vals env.now) where
  values f hf := by
    show StoredValue served rc f ((vals.columns.lookup f.name).getD (row.columns f.name))
    cases hv : vals.columns.lookup f.name with
    | none => exact hrow.values f hf
    | some v => exact storedValue_of_assigns hb hserved hconverts hguard hassigns hcheck hf hv
  geometry hderived := by
    show StoredGeometry gis coll.geometry (vals.geometry.getD row.geometry)
    cases hg : vals.geometry with
    | none => exact hrow.geometry hderived
    | some g => exact storedGeometry_of_checks hderived hguard hcheck hg (hgeometry g hg)

/-- A new row; a column that is not assigned is numbered by the server. -/
theorem storedRow_newRow (hb : Builds rc coll) (hserved : served env) (hconverts : env.Converts)
    (hguard : guardBlock gis env coll guarded feature = .ok ())
    (hassigns : AssignsColumns env coll feature (fun _ => true) vals.columns)
    (hcheck : checkRow gis coll vals = .ok ()) {g : Option Geometry}
    (hg : vals.geometry = some g) (hgeometry : geometryValue gis coll feature = .ok g) (n : ℕ) :
    StoredRow gis served rc coll (newRow env n coll vals) where
  values f hf := by
    show StoredValue served rc f ((vals.columns.lookup f.name).getD
      (if coll.columns.any fun col => col.name = f.name && col.autoIncrement then
        some (env.identity n f.name) else none))
    cases hv : vals.columns.lookup f.name with
    | some v => exact storedValue_of_assigns hb hserved hconverts hguard hassigns hcheck hf hv
    | none =>
      obtain ⟨col, hcol, hbuild⟩ := hb.columns.exists_of_mem_left hf
      have hname := name_buildColumn hbuild
      rw [← hname] at hv
      obtain ⟨hauto, hexpr⟩ := hassigns.unassigned hcol hv
      have hany : (coll.columns.any fun col => col.name = f.name && col.autoIncrement) = true := by
        refine List.any_eq_true.mpr ⟨col, hcol, ?_⟩
        rw [hname, hauto]
        simp
      rw [if_pos hany, Option.getD_none]
      exact storedValue_numbered (hb.regular f hf) hbuild hauto hexpr
  geometry hderived := by
    show StoredGeometry gis coll.geometry (vals.geometry.getD none)
    rw [hg]
    exact storedGeometry_of_checks hderived hguard hcheck hg hgeometry

end Values

/-! ### Stored rows -/

section Rows

variable {gis : PostGIS Geometry} {resolved : ResolvedDataset} {plan : SchemaPlan}
  {served : Env → Prop}

/-- The row is as the writes of its collection store it. -/
def StoredAs (gis : PostGIS Geometry) (served : Env → Prop) (resolved : ResolvedDataset)
    (coll : CollectionPlan) (row : Row Geometry) : Prop :=
  ∀ rc ∈ resolved.collections, rc.name = coll.collectionName → StoredRow gis served rc coll row

theorem keptByWrites_storedAs (hplan : PlanOf resolved plan) :
    KeptByWrites gis plan (fun _ env _ => served env ∧ env.Converts)
      (StoredAs gis served resolved) where
  inserted coll hcoll env feature vals hgiven hguard hvals n rc hrc hname := by
    have hb := hplan.builds hrc hcoll hname
    obtain ⟨⟨g, hg, hgeometry⟩, hassigns, hcheck⟩ := completeValues_ok hb.nodup hvals
    exact storedRow_newRow hb hgiven.1 hgiven.2 hguard hassigns hcheck hg hgeometry n
  replaced coll hcoll env feature vals hgiven hguard hvals row hrow rc hrc hname := by
    have hb := hplan.builds hrc hcoll hname
    obtain ⟨⟨g, hg, hgeometry⟩, hassigns, hcheck⟩ := completeValues_ok hb.nodup hvals
    refine storedRow_assign hb hgiven.1 hgiven.2 hguard hassigns hcheck (fun g' hg' => ?_)
      (hrow rc hrc hname)
    rw [hg] at hg'
    cases hg'
    exact hgeometry
  updated coll hcoll env feature vals hgiven hguard hvals row hrow rc hrc hname := by
    have hb := hplan.builds hrc hcoll hname
    obtain ⟨hgeometry, hassigns, hcheck⟩ := partialValues_ok hb.nodup hvals
    refine storedRow_assign hb hgiven.1 hgiven.2 hguard hassigns hcheck (fun g' hg' => ?_)
      (hrow rc hrc hname)
    split at hgeometry
    · obtain ⟨g, hg, hgeometry⟩ := hgeometry
      rw [hg] at hg'
      cases hg'
      exact hgeometry
    · rw [hgeometry] at hg'
      cases hg'
  measured coll hcoll hderived row geometry hrow rc hrc hname := by
    refine ⟨(hrow rc hrc hname).values, fun hnone => ?_⟩
    rw [hnone] at hderived
    cases hderived

/-- Every row is stored as the calls of the run store it, all along the run. -/
theorem everyRow_stored_along {deployed : String → Option SchemaPlan} {dataset : String}
    (hplan : PlanOf resolved plan) (hdeployed : deployed dataset = some plan)
    {calls : List (Env × Call)} (hconverts : ∀ call ∈ calls, call.1.Converts) :
    Runs.Along (acceptedStep gis deployed dataset)
      (fun _ _ db' => EveryRow plan
        (StoredAs gis (fun env => ∃ call ∈ calls, call.1 = env) resolved) db') Db.empty calls := by
  let served : Env → Prop := fun env => ∃ call ∈ calls, call.1 = env
  have hgives : ∀ call ∈ calls,
      CallGives plan (fun _ env _ => served env ∧ env.Converts) call := by
    intro call hcall
    have hgiven : served call.1 ∧ call.1.Converts := ⟨⟨call, hcall, rfl⟩, hconverts call hcall⟩
    obtain ⟨env, call⟩ := call
    cases call with
    | create => exact fun _ _ _ => hgiven
    | replace => exact fun _ _ _ => hgiven
    | update => exact fun _ _ _ => hgiven
    | delete => trivial
    | upsert => exact fun _ _ _ => hgiven
    | transaction => exact fun _ _ _ _ _ _ _ _ _ _ => hgiven
  exact Runs.along_of_invariant (I := EveryRow plan (StoredAs gis served resolved))
    (fun db call hcall db' hdb hstep => by
      have hdb' := everyRow_acceptedStep (keptByWrites_storedAs hplan) hdeployed
        (hgives call hcall) hdb hstep
      exact ⟨hdb', hdb'⟩) everyRow_empty

/-- A row that accepted calls leave is stored as their writes store it. -/
theorem storedRow_of_run {deployed : String → Option SchemaPlan} {dataset : String}
    (hplan : PlanOf resolved plan) (hdeployed : deployed dataset = some plan)
    {calls : List (Env × Call)} (hconverts : ∀ call ∈ calls, call.1.Converts) {db : Db Geometry}
    (hrun : Runs.run (acceptedStep gis deployed dataset) Db.empty calls = some db)
    {rc : ResolvedCollection} (hrc : rc ∈ resolved.collections) {coll : CollectionPlan}
    (hcoll : coll ∈ plan.collections) (hname : rc.name = coll.collectionName) {id : Uuid}
    {row : Row Geometry} (hrow : db.row? ⟨coll.collectionName, id⟩ = some row) :
    StoredRow gis (fun env => ∃ call ∈ calls, call.1 = env) rc coll row := by
  have hdb : EveryRow plan (StoredAs gis (fun env => ∃ call ∈ calls, call.1 = env) resolved) db :=
    (everyRow_stored_along hplan hdeployed hconverts).invariant
      (I := EveryRow plan (StoredAs gis (fun env => ∃ call ∈ calls, call.1 = env) resolved))
      (fun _ _ _ _ h _ => h) everyRow_empty hrun
  exact hdb coll hcoll _ row rfl hrow rc hrc hname

end Rows

/-- **Whatever documents the accepted calls of a run write, every stored value has
passed its checks**: what is required is there, a code is of its list, an object has
its declared members under the keys that the server manages, and a geometry is valid,
simple and of its column. -/
theorem storedRows_checked (gis : PostGIS Geometry) (deployed : String → Option SchemaPlan)
    {dataset : DatasetDef} {commons : Commons} {resolved : ResolvedDataset}
    (hresolved : resolveDataset dataset commons = .ok resolved) {built : BuiltSchema}
    (hbuilt : buildSchemaPlan resolved = .ok built) {plan : SchemaPlan}
    (hplan : plan.collections = built.collections.map (·.plan))
    (hdeployed : deployed resolved.name = some plan) (calls : List (Env × Call))
    (hconverts : ∀ call ∈ calls, call.1.Converts) :
    Runs.Along (acceptedStep gis deployed resolved.name)
      (fun _ _ db' => ∀ rc ∈ resolved.collections, ∀ coll ∈ plan.collections,
        rc.name = coll.collectionName → ∀ id row,
          db'.row? ⟨coll.collectionName, id⟩ = some row →
            StoredRow gis (fun env => ∃ call ∈ calls, call.1 = env) rc coll row)
      Db.empty calls := by
  have hplanOf : PlanOf resolved plan := by
    rw [PlanOf, hplan]
    exact builds_of_resolveDataset hresolved hbuilt
  refine (everyRow_stored_along hplanOf hdeployed hconverts).imp (I := fun _ => True)
    (fun db call _ db' _ h _ => ⟨?_, trivial⟩) trivial
  intro rc hrc coll hcoll hname id row hrow
  exact h coll hcoll _ row rfl hrow rc hrc hname

open Sample in
theorem storedRows_checked_sample :
    (Runs.run (acceptedStep gis (fun _ => some registerPlan) "matrikkel") Db.empty cleared).isSome =
        true ∧
      Runs.Along (acceptedStep gis (fun _ => some registerPlan) "matrikkel")
        (fun _ _ db' => ∀ rc ∈ matrikkel.collections, ∀ coll ∈ registerPlan.collections,
          rc.name = coll.collectionName → ∀ id row,
            db'.row? ⟨coll.collectionName, id⟩ = some row →
              StoredRow gis (fun env => ∃ call ∈ cleared, call.1 = env) rc coll row)
        Db.empty cleared := by
  refine ⟨by decide +kernel, storedRows_checked gis (fun _ => some registerPlan)
    resolveDataset_register buildSchemaPlan_matrikkel rfl rfl cleared fun call hcall => ?_⟩
  simp only [cleared, List.mem_cons, List.not_mem_nil, or_false] at hcall
  rcases hcall with rfl | rfl
  · exact converts_strictEnv
  · exact converts_strictEnv

end Geocomponents
