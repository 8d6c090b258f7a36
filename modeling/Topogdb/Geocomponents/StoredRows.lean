/-
The stored rows of a dataset, under all accepted writes.

* `rowConforms_assign`, `rowConforms_newRow` — a write of a document that fits
  makes a row that conforms;
* `storedRows_conform` — in a run of accepted calls whose documents fit, every
  stored row conforms, in every state.
-/
import Topogdb.Geocomponents.Conformance
import Topogdb.Geocomponents.GeneratedNames
import Topogdb.Geocomponents.RowInvariants

namespace Geocomponents

open Prog Sql

variable {Geometry : Type}

/-! ### Plans of descriptions -/

/-- The plan of a resolved collection, and what the loader makes sure of in it. -/
structure Builds (rc : ResolvedCollection) (coll : CollectionPlan) : Prop where
  name : coll.collectionName = rc.name
  columns : List.Forall₂ (fun f c => buildColumn rc f = .ok c) rc.fields coll.columns
  nodup : (coll.columns.map (·.name)).Nodup
  regular : ∀ f ∈ rc.fields, f.Regular

theorem fields_nodup_of_resolveDataset {dataset : DatasetDef} {commons : Commons}
    {resolved : ResolvedDataset} (h : resolveDataset dataset commons = .ok resolved) :
    ∀ rc ∈ resolved.collections, (rc.fields.map (·.name)).Nodup := by
  intro rc hrc
  obtain ⟨coll, -, hc⟩ := (resolveDataset_ok h).exists_of_mem_right hrc
  rw [← hc.fields.map_eq fun _ _ hf => hf.name.symm]
  exact hc.fields_nodup

theorem name_buildColumn {rc : ResolvedCollection} {f : ResolvedField} {col : ColumnPlan}
    (h : buildColumn rc f = .ok col) : col.name = f.name := by
  rw [buildColumn] at h
  split at h
  · cases h
    rfl
  · obtain ⟨_, -, h⟩ := Except.bind_eq_ok.mp h
    cases h
    rfl

theorem builds_of_resolveDataset {dataset : DatasetDef} {commons : Commons}
    {resolved : ResolvedDataset} (hresolved : resolveDataset dataset commons = .ok resolved)
    {built : BuiltSchema} (hbuilt : buildSchemaPlan resolved = .ok built) :
    List.Forall₂ Builds resolved.collections (built.collections.map (·.plan)) := by
  have hregular := regular_of_resolveDataset hresolved
  have hnodup := fields_nodup_of_resolveDataset hresolved
  rw [buildSchemaPlan] at hbuilt
  obtain ⟨bs, hbs, hbuilt⟩ := Except.bind_eq_ok.mp hbuilt
  cases hbuilt
  have hboth := (List.forall₂_and_left _ _).mpr
    ⟨fun rc hrc => And.intro (hregular rc hrc) (hnodup rc hrc), Except.forall₂_of_mapM hbs⟩
  rw [List.forall₂_map_right_iff]
  refine hboth.imp fun rc b hb => ?_
  obtain ⟨⟨hregular, hnodup⟩, hb⟩ := hb
  rw [buildCollection] at hb
  obtain ⟨columns, hcolumns, hb⟩ := Except.bind_eq_ok.mp hb
  obtain ⟨_, -, hb⟩ := Except.bind_eq_ok.mp hb
  cases hb
  have hforall := Except.forall₂_of_mapM hcolumns
  refine ⟨rfl, hforall, ?_, hregular⟩
  show (columns.map (·.name)).Nodup
  rwa [← hforall.map_eq fun _ _ hcol => (name_buildColumn hcol).symm]

/-! ### Values -/

section Values

variable {gis : PostGIS Geometry} {env : Env} {rc : ResolvedCollection} {coll : CollectionPlan}
  {feature : Option Json} {named : ColumnPlan → Bool} {vals : Assignments Geometry}

/-- What a write assigns to a column it read from the document, or the server wrote. -/
theorem AssignsColumns.of_lookup {columns : List (String × Option Datum)}
    (h : AssignsColumns env coll feature named columns) (hnodup : (coll.columns.map (·.name)).Nodup)
    {col : ColumnPlan} (hcol : col ∈ coll.columns) {v : Option Datum}
    (hv : columns.lookup col.name = some v) :
    (col ∈ coll.writableColumns ∧ propRead env col feature = .ok v) ∨
      ∃ expr, col.serverWriteExpr = some expr ∧ serverWrite env col feature expr = .ok v := by
  have hsame : ∀ col' ∈ coll.columns, col'.name = col.name → col' = col :=
    fun col' hcol' hname => List.inj_on_of_nodup_map hnodup hcol' hcol hname
  by_cases hwritable : col ∈ coll.writableColumns ∧ named col = true
  · obtain ⟨v', hread, hlookup⟩ := h.writable col hwritable.1 hwritable.2
    rw [hv] at hlookup
    cases hlookup
    exact .inl ⟨hwritable.1, hread⟩
  cases hexpr : col.serverWriteExpr with
  | some expr =>
    obtain ⟨v', hwrite, hlookup⟩ := h.server (col, expr) (mem_serverWriteColumns.mpr ⟨hcol, hexpr⟩)
    rw [hv] at hlookup
    cases hlookup
    exact .inr ⟨expr, rfl, hwrite⟩
  | none =>
    -- the name belongs to no other column
    rw [h.other col.name ?_ ?_] at hv
    · cases hv
    · intro col' hcol' hnamed hname
      obtain rfl := hsame col' (mem_writableColumns.mp hcol').1 hname
      exact hwritable ⟨hcol', hnamed⟩
    · intro x hx hname
      obtain ⟨hmem, hx⟩ := mem_serverWriteColumns.mp hx
      rw [hsame x.1 hmem hname, hexpr] at hx
      cases hx

/-- A complete write assigns all columns but those that the server numbers. -/
theorem AssignsColumns.unassigned {columns : List (String × Option Datum)}
    (h : AssignsColumns env coll feature (fun _ => true) columns) {col : ColumnPlan}
    (hcol : col ∈ coll.columns) (hv : columns.lookup col.name = none) :
    col.autoIncrement = true ∧ col.serverWriteExpr = none := by
  have hexpr : col.serverWriteExpr = none := by
    refine Option.eq_none_iff_forall_ne_some.mpr fun expr hexpr => ?_
    obtain ⟨v, -, hlookup⟩ := h.server (col, expr) (mem_serverWriteColumns.mpr ⟨hcol, hexpr⟩)
    rw [hv] at hlookup
    cases hlookup
  refine ⟨?_, hexpr⟩
  by_contra hauto
  rw [Bool.not_eq_true] at hauto
  obtain ⟨v, -, hlookup⟩ := h.writable col (mem_writableColumns.mpr ⟨hcol, hauto, hexpr⟩) rfl
  rw [hv] at hlookup
  cases hlookup

/-- What is assigned to a required column is not NULL. -/
theorem ne_none_of_checkRow (h : checkRow gis coll vals = .ok ()) {col : ColumnPlan}
    (hcol : col ∈ coll.columns) (hnullable : col.nullable = false) {v : Option Datum}
    (hv : vals.columns.lookup col.name = some v) : v ≠ none := by
  rintro rfl
  have hcolumns : ∀ col ∈ coll.columns,
      ¬ (!col.nullable && (vals.columns.lookup col.name).any Option.isNone) = true := by
    have hforM : ∃ e : ColumnPlan → SqlError, (coll.columns.forM fun col =>
        if (!col.nullable && (vals.columns.lookup col.name).any Option.isNone) = true then
          (.error (e col) : Except SqlError Unit)
        else Pure.pure ()) = .ok () := by
      unfold checkRow at h
      split at h
      · obtain ⟨_, -, h⟩ := Except.bind_eq_ok.mp h
        exact ⟨_, h⟩
      · split at h
        · exact ⟨_, h⟩
        · cases h
      · exact ⟨_, h⟩
    obtain ⟨e, hforM⟩ := hforM
    intro col hcol
    have hone := Except.forM_ok.mp hforM col hcol
    split at hone
    · cases hone
    · assumption
  refine hcolumns col hcol ?_
  rw [hnullable, hv]
  rfl

theorem guards_of_guardBlock {guarded : Bool}
    (h : guardBlock gis env coll guarded feature = .ok ()) :
    ∀ col ∈ coll.writableColumns, enumCheck env guarded feature col = .ok () ∧
      nestedCheck env guarded feature col = .ok () := by
  obtain ⟨henum, h⟩ := Except.seq_eq_ok.mp h
  obtain ⟨hnested, -⟩ := Except.seq_eq_ok.mp h
  exact fun col hcol => ⟨Except.forM_ok.mp henum col hcol, Except.forM_ok.mp hnested col hcol⟩

/-- **A write gives each column a value that conforms.** -/
theorem valueConforms_of_assigns (hb : Builds rc coll) (hconverts : env.Converts)
    (hfits : Fits env rc feature) {guarded : Bool}
    (hguard : guardBlock gis env coll guarded feature = .ok ())
    (hassigns : AssignsColumns env coll feature named vals.columns)
    (hcheck : checkRow gis coll vals = .ok ()) {f : ResolvedField} (hf : f ∈ rc.fields)
    {v : Option Datum} (hv : vals.columns.lookup f.name = some v) : ValueConforms rc f v := by
  obtain ⟨col, hcol, hbuild⟩ := hb.columns.exists_of_mem_left hf
  have hregular := hb.regular f hf
  rw [← name_buildColumn hbuild] at hv
  have hnull := fun hnullable => ne_none_of_checkRow hcheck hcol hnullable hv
  have hassigned := hassigns.of_lookup hb.nodup hcol hv
  rw [buildColumn] at hbuild
  by_cases hjson : f.sqlType = "jsonb"
  · rw [if_pos hjson] at hbuild
    cases hbuild
    rcases hassigned with ⟨hwritable, hread⟩ | ⟨expr, hexpr, -⟩
    · refine valueConforms_jsonb hregular hjson hf hfits (guards_of_guardBlock hguard _ hwritable).2
        hread fun hrequired => hnull ?_
      show (!f.required) = false
      rw [hrequired]
      rfl
    · cases hexpr
  · rw [if_neg hjson] at hbuild
    obtain ⟨expr, hexpr, hbuild⟩ := Except.bind_eq_ok.mp hbuild
    cases hbuild
    have hrequired : f.required = true → v ≠ none := by
      intro hrequired
      refine hnull ?_
      rw [hrequired]
      rfl
    rcases hassigned with ⟨hwritable, hread⟩ | ⟨expr, rfl, hwrite⟩
    · obtain ⟨-, hauto, hnone⟩ := mem_writableColumns.mp hwritable
      simp only at hauto hnone
      subst hnone
      have hclient : isClientWritten rc f = true := by
        have hlookup : rc.serverManagedPaths.lookup f.name = none := by
          rw [serverWriteExpr] at hexpr
          split at hexpr
          · assumption
          · cases hexpr
          · split at hexpr <;> cases hexpr
        rw [isClientWritten, hauto, hlookup]
        exact Bool.or_true _
      exact valueConforms_scalar hconverts hregular hjson hf hfits hclient rfl rfl rfl
        (guards_of_guardBlock hguard _ hwritable).1 hread hrequired
    · exact valueConforms_serverWrite hconverts hregular hjson hf hfits rfl hexpr hwrite hrequired

/-- A row that is rewritten. -/
theorem rowConforms_assign (hb : Builds rc coll) (hconverts : env.Converts)
    (hfits : Fits env rc feature) {guarded : Bool}
    (hguard : guardBlock gis env coll guarded feature = .ok ())
    (hassigns : AssignsColumns env coll feature named vals.columns)
    (hcheck : checkRow gis coll vals = .ok ()) {row : Row Geometry} (hrow : RowConforms rc row) :
    RowConforms rc (row.assign vals env.now) := by
  intro f hf
  show ValueConforms rc f ((vals.columns.lookup f.name).getD (row.columns f.name))
  cases hv : vals.columns.lookup f.name with
  | none => exact hrow f hf
  | some v => exact valueConforms_of_assigns hb hconverts hfits hguard hassigns hcheck hf hv

/-- A new row; a column that is not assigned is numbered by the server. -/
theorem rowConforms_newRow (hb : Builds rc coll) (hconverts : env.Converts)
    (hfits : Fits env rc feature) {guarded : Bool}
    (hguard : guardBlock gis env coll guarded feature = .ok ())
    (hassigns : AssignsColumns env coll feature (fun _ => true) vals.columns)
    (hcheck : checkRow gis coll vals = .ok ()) (n : ℕ) :
    RowConforms rc (newRow env n coll vals) := by
  intro f hf
  show ValueConforms rc f ((vals.columns.lookup f.name).getD
    (if coll.columns.any fun col => col.name = f.name && col.autoIncrement then
      some (env.identity n f.name) else none))
  cases hv : vals.columns.lookup f.name with
  | some v => exact valueConforms_of_assigns hb hconverts hfits hguard hassigns hcheck hf hv
  | none =>
    obtain ⟨col, hcol, hbuild⟩ := hb.columns.exists_of_mem_left hf
    have hname := name_buildColumn hbuild
    rw [← hname] at hv
    obtain ⟨hauto, -⟩ := hassigns.unassigned hcol hv
    have hany : (coll.columns.any fun col => col.name = f.name && col.autoIncrement) = true := by
      refine List.any_eq_true.mpr ⟨col, hcol, ?_⟩
      rw [hname, hauto]
      simp
    rw [if_pos hany, Option.getD_none]
    rw [buildColumn] at hbuild
    by_cases hjson : f.sqlType = "jsonb"
    · rw [if_pos hjson] at hbuild
      cases hbuild
      cases hauto
    · rw [if_neg hjson] at hbuild
      obtain ⟨expr, -, hbuild⟩ := Except.bind_eq_ok.mp hbuild
      cases hbuild
      obtain ⟨hcodes, -, hobject, -⟩ := hb.regular f hf
      refine ⟨fun _ => ⟨_, rfl, hconverts.identity n f.name⟩, fun hcodelist => ?_, fun hsub => ?_⟩
      · have hnot := (hcodes hcodelist).2
        exact absurd (hnot.symm.trans hauto) Bool.false_ne_true
      · exact absurd (hobject hsub) hjson

end Values

/-! ### The rows of a plan -/

section Rows

variable {gis : PostGIS Geometry} {resolved : ResolvedDataset} {plan : SchemaPlan}
  {rc : ResolvedCollection} {coll : CollectionPlan} {db : Db Geometry}

/-- The plan is that of the description, collection by collection. -/
def PlanOf (resolved : ResolvedDataset) (plan : SchemaPlan) : Prop :=
  List.Forall₂ Builds resolved.collections plan.collections

/-- The two of a name belong together. -/
theorem PlanOf.builds (h : PlanOf resolved plan) (hrc : rc ∈ resolved.collections)
    (hcoll : coll ∈ plan.collections) (hname : rc.name = coll.collectionName) : Builds rc coll := by
  have hnames : resolved.collections.map (·.name) = plan.collections.map (·.collectionName) :=
    List.Forall₂.map_eq h fun _ _ hb => hb.name.symm
  have hnodup : (resolved.collections.map (·.name)).Nodup := by
    rw [hnames]
    exact plan.names_nodup
  obtain ⟨rc', hrc', hb⟩ := List.Forall₂.exists_of_mem_right h hcoll
  have hsame : rc = rc' :=
    List.inj_on_of_nodup_map hnodup hrc hrc' (hname.trans hb.name)
  exact hsame ▸ hb

/-- The row of a collection conforms to its description. -/
def ConformsTo (resolved : ResolvedDataset) (coll : CollectionPlan) (row : Row Geometry) : Prop :=
  ∀ rc ∈ resolved.collections, rc.name = coll.collectionName → RowConforms rc row

theorem conforms_iff_everyRow (hplan : PlanOf resolved plan) :
    Conforms resolved db ↔ EveryRow plan (ConformsTo resolved) db := by
  constructor
  · intro h coll _ ref row hcollection hrow rc hrc hname
    exact h rc hrc ref row (hcollection.trans hname.symm) hrow
  · intro h rc hrc ref row hcollection hrow
    obtain ⟨coll, hcoll, hb⟩ := List.Forall₂.exists_of_mem_left hplan hrc
    exact h coll hcoll ref row (hcollection.trans hb.name.symm) hrow rc hrc hb.name.symm

/-- The document fits the collection of the name. -/
def FitsCollection (resolved : ResolvedDataset) (env : Env) (collection : String)
    (feature : Option Json) : Prop :=
  ∀ rc ∈ resolved.collections, rc.name = collection → Fits env rc feature

/-- The feature that an item of a transaction writes fits. -/
def ItemFits (resolved : ResolvedDataset) (env : Env) (item : Json) : Prop :=
  arrowText env.jsonText (some item) "action" ∈ [some "insert", some "replace", some "update"] →
    ∀ collection, arrowText env.jsonText (some item) "collection" = some collection →
      FitsCollection resolved env collection (arrow (some item) "feature")

/-- The documents that a call writes fit. -/
def CallFits (resolved : ResolvedDataset) : Env × Call → Prop
  | (env, .create collection feature) => FitsCollection resolved env collection feature
  | (env, .replace collection _ feature) => FitsCollection resolved env collection feature
  | (env, .update collection _ feature) => FitsCollection resolved env collection feature
  | (_, .delete _ _) => True
  | (env, .upsert collection feature) => FitsCollection resolved env collection feature
  | (env, .transaction document) =>
    ∀ items, txItems document = .arr items → ∀ item ∈ items, ItemFits resolved env item

/-- The document of a write fits, and the server converts as it should. -/
def GivenToFit (resolved : ResolvedDataset) (coll : CollectionPlan) (env : Env)
    (feature : Option Json) : Prop :=
  env.Converts ∧ FitsCollection resolved env coll.collectionName feature

/-- **Documents that fit make rows that conform.** -/
theorem keptByWrites_conformsTo (hplan : PlanOf resolved plan) :
    KeptByWrites gis plan (GivenToFit resolved) (ConformsTo resolved) where
  inserted coll hcoll env feature vals hgiven hguard hvals n rc hrc hname := by
    have hb := hplan.builds hrc hcoll hname
    obtain ⟨-, hassigns, hcheck⟩ := completeValues_ok hb.nodup hvals
    exact rowConforms_newRow hb hgiven.1 (hgiven.2 rc hrc hname) hguard hassigns hcheck n
  replaced coll hcoll env feature vals hgiven hguard hvals row hrow rc hrc hname := by
    have hb := hplan.builds hrc hcoll hname
    obtain ⟨-, hassigns, hcheck⟩ := completeValues_ok hb.nodup hvals
    exact rowConforms_assign hb hgiven.1 (hgiven.2 rc hrc hname) hguard hassigns hcheck
      (hrow rc hrc hname)
  updated coll hcoll env feature vals hgiven hguard hvals row hrow rc hrc hname := by
    have hb := hplan.builds hrc hcoll hname
    obtain ⟨-, hassigns, hcheck⟩ := partialValues_ok hb.nodup hvals
    exact rowConforms_assign hb hgiven.1 (hgiven.2 rc hrc hname) hguard hassigns hcheck
      (hrow rc hrc hname)
  measured coll _ _ row geometry hrow := hrow

theorem callGives_of_fits {call : Env × Call} (hconverts : call.1.Converts)
    (hfits : CallFits resolved call) : CallGives plan (GivenToFit resolved) call := by
  have hgiven : ∀ {collection feature}, FitsCollection resolved call.1 collection feature →
      GivenTo plan (GivenToFit resolved) call.1 collection feature := by
    rintro _ feature h coll _ rfl
    exact ⟨hconverts, h⟩
  obtain ⟨env, call⟩ := call
  cases call with
  | create collection feature => exact hgiven hfits
  | replace collection fid feature => exact hgiven hfits
  | update collection fid feature => exact hgiven hfits
  | delete collection fid => trivial
  | upsert collection feature => exact hgiven hfits
  | transaction document =>
    intro items hitems item hitem haction collection hcollection
    exact hgiven (hfits items hitems item hitem haction collection hcollection)

end Rows

/-! ### Runs of accepted calls -/

/-- **In a run of accepted calls whose documents fit, every stored row conforms to
the description.** -/
theorem storedRows_conform (gis : PostGIS Geometry) (deployed : String → Option SchemaPlan)
    {dataset : DatasetDef} {commons : Commons} {resolved : ResolvedDataset}
    (hresolved : resolveDataset dataset commons = .ok resolved) {built : BuiltSchema}
    (hbuilt : buildSchemaPlan resolved = .ok built) {plan : SchemaPlan}
    (hplan : plan.collections = built.collections.map (·.plan))
    (hdeployed : deployed resolved.name = some plan) (calls : List (Env × Call))
    (hconverts : ∀ call ∈ calls, call.1.Converts)
    (hfits : Runs.Along (acceptedStep gis deployed resolved.name)
      (fun _ call _ => CallFits resolved call) Db.empty calls) :
    Runs.Along (acceptedStep gis deployed resolved.name) (fun _ _ db' => Conforms resolved db')
      Db.empty calls := by
  have hplanOf : PlanOf resolved plan := by
    rw [PlanOf, hplan]
    exact builds_of_resolveDataset hresolved hbuilt
  refine hfits.imp (I := EveryRow plan (ConformsTo resolved))
    (fun db call hcall db' hdb hcallFits hstep => ?_) everyRow_empty
  have hgives : CallGives plan (GivenToFit resolved) call :=
    callGives_of_fits (hconverts call hcall) hcallFits
  have hdb' := everyRow_acceptedStep (keptByWrites_conformsTo hplanOf) hdeployed hgives hdb hstep
  exact ⟨(conforms_iff_everyRow hplanOf).mpr hdb', hdb'⟩

/-! ### A register of buildings -/

namespace Sample

/-- A required address with an optional street. -/
def address : FieldDef :=
  { name := ⟨"adresse", by decide⟩, type := some "object", required := true
    fields := [textField ⟨"gate", by decide⟩] }

theorem address_valid : address.Valid :=
  .intro rfl (List.forall_mem_singleton.mpr (textField_valid _))

theorem no_bounds : ∀ b : ℕ, none = some b → b = 1 ∨ b = 2 := fun _ h => by cases h

theorem no_derived : (none : Option DerivedDef).isSome = true → GeometryType.point = .multiPolygon :=
  fun h => by cases h

theorem no_fields : ∀ field ∈ ([] : List FieldDef), field.Valid := List.forall_mem_nil _

def register : DatasetDef where
  name := ⟨"matrikkel", by decide⟩
  collections := [
    { name := ⟨"bygning", by decide⟩
      bounds := none
      geometry := { type := .point, derived := none, derived_type := no_derived }
      fields := [address]
      serverManaged := []
      bounds_value := no_bounds
      fields_valid := List.forall_mem_singleton.mpr address_valid
      serverManaged_nodup := List.nodup_nil }]

def adresse : ResolvedField :=
  { name := "adresse", sqlType := "jsonb", required := true
    subFields := [{ name := "gate", sqlType := "text" }] }

def bygning : ResolvedCollection :=
  { name := "bygning", featureModel := .simple, geometryType := .point, srid := 4326
    fields := [adresse], relationships := [] }

def matrikkel : ResolvedDataset := ⟨"matrikkel", [], [bygning]⟩

theorem resolveDataset_register : resolveDataset register noCommons = .ok matrikkel := rfl

def registerPlan : SchemaPlan where
  schemaName := "matrikkel"
  collections := [
    { collectionName := "bygning", featureModel := .simple
      columns := [{ name := "adresse", sqlType := "jsonb", nullable := false
                    nestedFields := [.mk "gate" "text" false false [] []] }]
      geometry := ⟨"Point", 4326, false, false⟩ }]
  names_nodup := by decide
  roles_nodup := by decide
  targets_known := by decide
  derived_declared := by
    intro coll hcoll derived h
    cases List.mem_singleton.mp hcoll
    cases h
  members_not_derived := by
    intro coll hcoll derived h
    cases List.mem_singleton.mp hcoll
    cases h

theorem buildSchemaPlan_matrikkel : buildSchemaPlan matrikkel =
    .ok ⟨"matrikkel", registerPlan.collections.map fun coll => ⟨coll, []⟩, []⟩ := rfl

/-- A server that assigns no text to a json column. -/
def strictEnv : Env :=
  { env with
    assignText := fun sqlType text =>
      if sqlType = "json" then
        .error ⟨"42804", "column is of type json but expression is of type text"⟩
      else .ok (.scalar sqlType text) }

theorem converts_strictEnv : strictEnv.Converts where
  castText _ := rfl
  assignNowText := rfl
  assignTextText _ := rfl
  assignNow sqlType d h := by
    cases h
    have hempty : (Python.strip "" = "null") = False := by simp [Python.strip]
    simp [Datum.isJsonNull, hempty]
  assignText sqlType text d h := by
    have hassign : strictEnv.assignText sqlType text =
        if sqlType = "json" then
          .error ⟨"42804", "column is of type json but expression is of type text"⟩
        else .ok (.scalar sqlType text) := rfl
    rw [hassign] at h
    split at h
    · cases h
    · next hjson =>
      cases h
      simp [Datum.isJsonNull, hjson]
  identity _ _ := rfl

/-- A building in a street. -/
def buildingAt (gate : String) : Json :=
  .obj [("id", .str (Uuid.text 1)), ("geometry", .obj []), ("properties", .obj
    [("adresse", .obj [("gate", .str gate)])])]

theorem fits_buildingAt (gate : String) : Fits strictEnv bygning (some (buildingAt gate)) := by
  have hfield : ∀ f ∈ bygning.fields, f = adresse := fun f hf => List.mem_singleton.mp hf
  refine ⟨fun f hf _ _ h => ?_, fun f hf h => ?_, fun f hf h => ?_, fun f hf h => ?_,
    fun f hf sub hsub _ => ?_, fun f hf _ _ key hkey => ?_⟩
  · obtain rfl := hfield f hf
    cases h
  · obtain rfl := hfield f hf
    cases h
  · obtain rfl := hfield f hf
    cases h
  · obtain rfl := hfield f hf
    cases h
  · obtain rfl := hfield f hf
    obtain rfl := List.mem_singleton.mp hsub
    refine ⟨fun h => ?_, trivial⟩
    cases h
  · obtain rfl := hfield f hf
    cases hkey

/-- A building that moves. -/
def moved : List (Env × Call) :=
  [(strictEnv, .create "bygning" (some (buildingAt "Storgata 1"))),
    (strictEnv, .update "bygning" (some 1) (some (buildingAt "Storgata 2")))]

/-- A building whose address is set to null. -/
def cleared : List (Env × Call) :=
  [(strictEnv, .create "bygning" (some (buildingAt "Storgata 1"))),
    (strictEnv, .update "bygning" (some 1) (some (.obj
      [("properties", .obj [("adresse", .null)])])))]

end Sample

open Sample in
theorem storedRows_conform_sample :
    (Runs.run (acceptedStep gis (fun _ => some registerPlan) "matrikkel") Db.empty moved).isSome =
        true ∧
      Runs.Along (acceptedStep gis (fun _ => some registerPlan) "matrikkel")
        (fun _ _ db' => Conforms matrikkel db') Db.empty moved := by
  refine ⟨by decide +kernel, ?_⟩
  have hfits : ∀ gate, FitsCollection matrikkel strictEnv "bygning" (some (buildingAt gate)) := by
    intro gate rc hrc _
    obtain rfl := List.mem_singleton.mp hrc
    exact fits_buildingAt gate
  refine storedRows_conform gis (fun _ => some registerPlan) resolveDataset_register
    buildSchemaPlan_matrikkel rfl rfl moved ?_ ?_
  · intro call hcall
    simp only [moved, List.mem_cons, List.not_mem_nil, or_false] at hcall
    rcases hcall with rfl | rfl
    · exact converts_strictEnv
    · exact converts_strictEnv
  · exact fun _ _ => ⟨hfits _, fun _ _ => ⟨hfits _, trivial⟩⟩

open Sample in
/-- A PATCH stores JSON null for the required address. -/
theorem storedRows_not_conforming : resolveDataset register noCommons = .ok matrikkel ∧
    buildSchemaPlan matrikkel =
      .ok ⟨"matrikkel", registerPlan.collections.map fun coll => ⟨coll, []⟩, []⟩ ∧
    ∃ db, Runs.run (acceptedStep gis (fun _ => some registerPlan) "matrikkel") Db.empty cleared =
      some db ∧ ¬ Conforms matrikkel db := by
  refine ⟨rfl, rfl, ?_⟩
  obtain ⟨db, hrun, hnull⟩ : ∃ db ∈ Runs.run
      (acceptedStep gis (fun _ => some registerPlan) "matrikkel") Db.empty cleared,
      ((db.row? ⟨"bygning", 1⟩).any fun row =>
        (row.columns "adresse").any Datum.isJsonNull) = true := by decide +kernel
  refine ⟨db, hrun, fun hconforms => ?_⟩
  obtain ⟨row, hrow, hnull⟩ := (Option.any_eq_true _ _).mp hnull
  obtain ⟨d, hd, hnull⟩ := (Option.any_eq_true _ _).mp hnull
  have hvalue := hconforms bygning List.mem_cons_self ⟨"bygning", 1⟩ row rfl hrow adresse
    List.mem_cons_self
  obtain ⟨d', hd', hnot⟩ := hvalue.required rfl
  cases hd.symm.trans hd'
  rw [hnull] at hnot
  cases hnot

end Geocomponents
