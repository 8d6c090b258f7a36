/-
Which descriptions give a schema without collisions.

The loader compares field names within a collection and keeps two collection
names free; everything else that a name must differ from shows only in the
generated SQL.

* `CollisionFree` — what the generated names must satisfy;
* `NamesApart` — the same as a condition on the documents;
* `generatesCollisionFree_iff` — the second decides the first.
-/
import Topogdb.Geocomponents.RelationNames
import Topogdb.Geocomponents.Resolution

namespace Geocomponents

open Python Sql Except

/-! ### The property -/

/-- The names in the generated SQL are apart. -/
structure CollisionFree (plan : BuiltSchema) (functions : List FunctionStatement) : Prop where
  columns : ∀ columns ∈ (tableStatements plan).filterMap TableStatement.columns?, columns.Nodup
  relations : ((tableStatements plan).filterMap TableStatement.relation?).Nodup
  roles : (plan.associationRoleRows.map fun row => (row.sourceCollection, row.property)).Nodup
  properties : ∀ coll ∈ plan.collections, ∀ role ∈ coll.plan.roles,
    role.property ∉ coll.plan.columns.map (·.name)
  declared : ∀ function ∈ functions, (function.declared.map foldIdentifier).Nodup

/-- Plan and statements come out without an error, and their names are apart. -/
def GeneratesCollisionFree (dataset : ResolvedDataset) : Prop :=
  ∃ plan functions, buildSchemaPlan dataset = .ok plan ∧ functionStatements plan = .ok functions ∧
    CollisionFree plan functions

/-! ### The condition -/

/-- The names that a description gives are apart. -/
structure NamesApart (dataset : DatasetDef) (commons : Commons) : Prop where
  /-- Named types inside objects have a JSON type. -/
  nestedTypes : ∀ coll ∈ dataset.collections, ∀ fld ∈ coll.allFields commons,
    ∀ ref ∈ fld.nestedTypeRefs, ∀ t, commons.types.lookup ref = some t →
      t.sqlType ∈ expectedJsonTypes.map Prod.fst
  outwardIdentifier : ∀ coll ∈ dataset.collections, coll.CopiesOutwardIdentifier commons
  fields : ∀ coll ∈ dataset.collections, ∀ fld ∈ coll.allFields commons,
    fld.name.1 ∉ ["id", "created_at", "updated_at", "geometry"]
  collections : (dataset.collections.map (·.name.1)).Nodup
  /-- No collection is called like a catalogue table or an index. -/
  relations : ∀ coll ∈ dataset.collections, coll.name.1 ≠ "collection_capability" ∧
    ((∃ c ∈ dataset.collections, c.relationships ≠ []) →
      coll.name.1 ≠ "association_target_id_idx") ∧
    ∀ other ∈ dataset.collections, coll.name.1 ∉ indexNames other.name (other.indexCount commons)
  /-- No relationship is called like a field. -/
  properties : ∀ coll ∈ dataset.collections, ∀ rel ∈ coll.relationships,
    rel.property ∉ (coll.allFields commons).map (·.name.1)
  /-- Relationships differ in what is left of their names. -/
  linkVariables : ∀ coll ∈ dataset.collections,
    (coll.relationships.map fun rel => variableKey rel.property).Nodup

/-! ### The schema -/

/-- The look-ups of a built collection, when no field is called like an audit
column. -/
theorem nestedTypes_iff {dataset : DatasetDef} {commons : Commons} {coll : CollectionDef}
    {b : BuiltCollection} (hb : BuildsCollection dataset commons coll b)
    (haudit : ∀ fld ∈ coll.allFields commons, fld.name.1 ∉ ["created_at", "updated_at"]) :
    nestedTypes (writableColumnPlans b.plan) = .ok () ↔
      ∀ fld ∈ coll.allFields commons, KnownRefs commons.types fld.nestedTypeRefs := by
  have hall : (∀ c ∈ b.plan.columns, nestedFieldsTypes c.nestedFields = .ok ()) ↔
      ∀ fld ∈ coll.allFields commons, KnownRefs commons.types fld.nestedTypeRefs :=
    (hb.columns.forall_iff fun _ _ hc => hc.nested.symm).symm
  rw [nestedTypes, forM_ok, ← hall]
  constructor
  · intro h c hc
    obtain ⟨fld, hfld, hbuilds⟩ := hb.columns.exists_of_mem_right hc
    by_cases hunwritten : c.autoIncrement = true ∨ c.serverWriteExpr.isSome = true
    · rw [hbuilds.unwritten hunwritten]
      rfl
    · refine h c (List.mem_filter.mpr ⟨List.mem_filter.mpr ⟨hc, ?_⟩, ?_⟩)
      · rw [not_or, Bool.not_eq_true, Bool.not_eq_true, Option.isSome_eq_false_iff] at hunwritten
        rw [hunwritten.1, hunwritten.2]
        rfl
      · rw [hbuilds.name]
        exact decide_eq_true (haudit fld hfld)
  · intro h c hc
    exact h c (List.mem_of_mem_filter (List.mem_of_mem_filter hc))

section Schema

variable {dataset : DatasetDef} {commons : Commons} {resolved : ResolvedDataset}

theorem BuildsSchema.relations_eq {plan : BuiltSchema} (hb : BuildsSchema dataset commons plan) :
    plan.relations = dataset.collections.map fun coll =>
      (coll.name.1, coll.indexCount commons) := by
  refine (hb.collections.map_eq fun coll b hc => ?_).symm
  rw [hc.name, hc.indexes]

/-- The keys of `association_role`. -/
theorem BuildsSchema.nodup_rows {plan : BuiltSchema} (hb : BuildsSchema dataset commons plan)
    (hnames : (dataset.collections.map (·.name.1)).Nodup)
    (hlinks : ∀ coll ∈ dataset.collections,
      (coll.relationships.map fun rel => variableKey rel.property).Nodup) :
    (plan.associationRoleRows.map fun row => (row.sourceCollection, row.property)).Nodup := by
  rw [hb.rows]
  refine List.nodup_flatMap.mpr ⟨fun coll hcoll => ?_, ?_⟩
  · refine List.Nodup.of_map (fun key => variableKey key.2) ?_
    simp only [List.map_map, Function.comp_def]
    exact hlinks coll hcoll
  · refine (List.pairwise_map.mp hnames).imp fun hne key h h' => hne ?_
    obtain ⟨rel, -, rfl⟩ := List.mem_map.mp h
    obtain ⟨rel', -, heq⟩ := List.mem_map.mp h'
    exact (Prod.mk.inj heq).1.symm

/-- The columns of a table, whose fields the loader keeps apart. -/
theorem nodup_columns_iff {coll : CollectionDef} {b : BuiltCollection}
    (hb : BuildsCollection dataset commons coll b)
    (hnodup : ((coll.allFields commons).map (·.name.1)).Nodup) :
    (["id", "created_at", "updated_at"] ++ b.plan.columns.map (·.name) ++ ["geometry"]).Nodup ↔
      ∀ fld ∈ coll.allFields commons,
        fld.name.1 ∉ ["id", "created_at", "updated_at", "geometry"] := by
  have hnames : b.plan.columns.map (·.name) = (coll.allFields commons).map (·.name.1) :=
    (hb.columns.map_eq fun _ _ hc => hc.name.symm).symm
  have hmem (name : String) : name ∉ (coll.allFields commons).map (·.name.1) ↔
      ∀ fld ∈ coll.allFields commons, fld.name.1 ≠ name := by
    simp only [List.mem_map, not_exists, not_and, ne_eq]
  have hperm : (["id", "created_at", "updated_at"] ++ (coll.allFields commons).map (·.name.1)
      ++ ["geometry"]).Perm
      ("geometry" :: "id" :: "created_at" :: "updated_at" ::
        (coll.allFields commons).map (·.name.1)) := List.perm_append_comm
  rw [hnames, hperm.nodup_iff]
  simp only [List.nodup_cons, List.mem_cons, List.not_mem_nil, or_false, not_or, hnodup, hmem,
    and_true]
  constructor
  · rintro ⟨⟨-, -, -, hgeometry⟩, ⟨-, -, hid⟩, ⟨-, hcreated⟩, hupdated⟩ fld hfld
    exact ⟨hid fld hfld, hcreated fld hfld, hupdated fld hfld, hgeometry fld hfld⟩
  · intro h
    refine ⟨⟨by decide, by decide, by decide, fun fld hfld => (h fld hfld).2.2.2⟩,
      ⟨by decide, by decide, fun fld hfld => (h fld hfld).1⟩,
      ⟨by decide, fun fld hfld => (h fld hfld).2.1⟩, fun fld hfld => (h fld hfld).2.2.1⟩

section Built

variable {plan : BuiltSchema} (hb : BuildsSchema dataset commons plan)
include hb

theorem BuildsSchema.columns_iff
    (hnodup : ∀ coll ∈ dataset.collections, ((coll.allFields commons).map (·.name.1)).Nodup) :
    (∀ columns ∈ (tableStatements plan).filterMap TableStatement.columns?, columns.Nodup) ↔
      ∀ coll ∈ dataset.collections, ∀ fld ∈ coll.allFields commons,
        fld.name.1 ∉ ["id", "created_at", "updated_at", "geometry"] := by
  have hcollections := (List.forall₂_and_left _ _).mpr ⟨hnodup, hb.collections⟩
  rw [columns_tableStatements]
  exact (hcollections.forall_iff fun coll b hc => (nodup_columns_iff hc.2 hc.1).symm).symm

theorem BuildsSchema.nested_iff
    (haudit : ∀ coll ∈ dataset.collections, ∀ fld ∈ coll.allFields commons,
      fld.name.1 ∉ ["id", "created_at", "updated_at", "geometry"]) :
    (∃ functions, functionStatements plan = .ok functions) ↔
      ∀ coll ∈ dataset.collections, ∀ fld ∈ coll.allFields commons,
        KnownRefs commons.types fld.nestedTypeRefs := by
  have hcollections := (List.forall₂_and_left _ _).mpr ⟨haudit, hb.collections⟩
  rw [exists_functionStatements_ok]
  refine (hcollections.forall_iff fun coll b hc => (nestedTypes_iff hc.2 fun fld hfld hmem => ?_).symm).symm
  refine hc.1 fld hfld ?_
  simp only [List.mem_cons, List.not_mem_nil, or_false] at hmem ⊢
  exact .inr (hmem.imp_right .inl)

theorem BuildsSchema.relations_iff
    (hreserved : ∀ coll ∈ dataset.collections, coll.name.1 ∉ reservedCollectionNames) :
    ((tableStatements plan).filterMap TableStatement.relation?).Nodup ↔
      (dataset.collections.map (·.name.1)).Nodup ∧
      ∀ coll ∈ dataset.collections, coll.name.1 ≠ "collection_capability" ∧
        ((∃ c ∈ dataset.collections, c.relationships ≠ []) →
          coll.name.1 ≠ "association_target_id_idx") ∧
        ∀ other ∈ dataset.collections,
          coll.name.1 ∉ indexNames other.name (other.indexCount commons) := by
  have hindex (name : String) :
      name ∉ indexRelations plan.associationRoleRows.isEmpty plan.relations ↔
        ((∃ c ∈ dataset.collections, c.relationships ≠ []) →
          name ≠ "association_target_id_idx") ∧
        ∀ other ∈ dataset.collections,
          name ∉ indexNames other.name (other.indexCount commons) := by
    rw [mem_indexRelations, hb.rows_isEmpty, hb.relations_eq, not_or, not_and]
    simp only [List.mem_map, not_exists, not_and, forall_exists_index, and_imp,
      forall_apply_eq_imp_iff₂, ne_eq]
  have hcolls : ∀ c ∈ plan.relations, c.1 ∉ reservedCollectionNames := by
    rw [hb.relations_eq]
    exact List.forall_mem_map.mpr hreserved
  rw [relations_tableStatements, nodup_relations hcolls]
  simp only [hindex]
  rw [hb.relations_eq, List.map_map, List.forall_mem_map]
  rfl

theorem BuildsSchema.properties_iff :
    (∀ coll ∈ plan.collections, ∀ role ∈ coll.plan.roles,
        role.property ∉ coll.plan.columns.map (·.name)) ↔
      ∀ coll ∈ dataset.collections, ∀ rel ∈ coll.relationships,
        rel.property ∉ (coll.allFields commons).map (·.name.1) := by
  refine (hb.collections.forall_iff fun coll b hc => ?_).symm
  have hnames : b.plan.columns.map (·.name) = (coll.allFields commons).map (·.name.1) :=
    (hc.columns.map_eq fun _ _ hcol => hcol.name.symm).symm
  have hroles := List.forall_mem_map (f := CollectionRolePlan.property) (l := b.plan.roles)
    (P := fun p => p ∉ b.plan.columns.map (·.name))
  rw [← hroles, hc.properties, hnames, List.forall_mem_map]

theorem BuildsSchema.declared_iff {functions : List FunctionStatement}
    (hfunctions : functionStatements plan = .ok functions) :
    (∀ function ∈ functions, (function.declared.map foldIdentifier).Nodup) ↔
      ∀ coll ∈ dataset.collections,
        (coll.relationships.map fun rel => variableKey rel.property).Nodup := by
  rw [functionStatements_declared hfunctions]
  refine (hb.collections.forall_iff fun coll b hc => ?_).symm
  rw [hc.properties]
  simp only [List.map_map, Function.comp_def]

end Built

/-- The loader keeps these apart. -/
theorem kept_of_resolveDataset (h : resolveDataset dataset commons = .ok resolved) :
    ∀ coll ∈ dataset.collections, coll.name.1 ∉ reservedCollectionNames ∧
      ((coll.allFields commons).map (·.name.1)).Nodup := by
  intro coll hcoll
  obtain ⟨rc, -, hc⟩ := (resolveDataset_ok h).exists_of_mem_left hcoll
  exact ⟨hc.reserved, hc.fields_nodup⟩

theorem namesApart_of_collisionFree (h : resolveDataset dataset commons = .ok resolved)
    (hfree : GeneratesCollisionFree resolved) : NamesApart dataset commons := by
  have hkept := kept_of_resolveDataset h
  obtain ⟨plan, functions, hplan, hfunctions, hfree⟩ := hfree
  have hb := buildsSchema h hplan
  have hfields := (hb.columns_iff fun coll hcoll => (hkept coll hcoll).2).mp hfree.columns
  have hrelations := (hb.relations_iff fun coll hcoll => (hkept coll hcoll).1).mp hfree.relations
  exact
    { nestedTypes := (hb.nested_iff hfields).mp ⟨functions, hfunctions⟩
      outwardIdentifier := (exists_buildSchemaPlan_ok h).mp ⟨plan, hplan⟩
      fields := hfields
      collections := hrelations.1
      relations := hrelations.2
      properties := hb.properties_iff.mp hfree.properties
      linkVariables := (hb.declared_iff hfunctions).mp hfree.declared }

theorem collisionFree_of_namesApart (h : resolveDataset dataset commons = .ok resolved)
    (hapart : NamesApart dataset commons) : GeneratesCollisionFree resolved := by
  have hkept := kept_of_resolveDataset h
  obtain ⟨plan, hplan⟩ := (exists_buildSchemaPlan_ok h).mpr hapart.outwardIdentifier
  have hb := buildsSchema h hplan
  obtain ⟨functions, hfunctions⟩ := (hb.nested_iff hapart.fields).mpr hapart.nestedTypes
  exact ⟨plan, functions, hplan, hfunctions,
    { columns := (hb.columns_iff fun coll hcoll => (hkept coll hcoll).2).mpr hapart.fields
      relations := (hb.relations_iff fun coll hcoll => (hkept coll hcoll).1).mpr
        ⟨hapart.collections, hapart.relations⟩
      roles := hb.nodup_rows hapart.collections hapart.linkVariables
      properties := hb.properties_iff.mpr hapart.properties
      declared := (hb.declared_iff hfunctions).mpr hapart.linkVariables }⟩

/-- An accepted description whose names are apart builds a `SchemaPlan`. -/
theorem exists_schemaPlan (h : resolveDataset dataset commons = .ok resolved)
    {built : BuiltSchema} (hbuilt : buildSchemaPlan resolved = .ok built)
    (hapart : NamesApart dataset commons) :
    ∃ plan : SchemaPlan, plan.schemaName = built.schemaName ∧
      plan.collections = built.collections.map (·.plan) := by
  have hcollections := (buildsSchema h hbuilt).collections
  have hnames : (built.collections.map (·.plan)).map (·.collectionName)
      = dataset.collections.map (·.name.1) := by
    rw [List.map_map]
    exact (hcollections.map_eq fun _ _ hb => hb.name.symm).symm
  have hbuilds : ∀ coll ∈ built.collections.map (·.plan), ∃ def_ ∈ dataset.collections,
      ∃ b, b.plan = coll ∧ BuildsCollection dataset commons def_ b := by
    intro coll hcoll
    obtain ⟨b, hb, rfl⟩ := List.mem_map.mp hcoll
    obtain ⟨def_, hdef, hbuilds⟩ := hcollections.exists_of_mem_right hb
    exact ⟨def_, hdef, b, rfl, hbuilds⟩
  refine ⟨⟨built.schemaName, built.collections.map (·.plan), ?_, ?_, ?_, ?_, ?_⟩, rfl, rfl⟩
  · rw [hnames]
    exact hapart.collections
  · intro coll hcoll
    obtain ⟨def_, hdef, b, rfl, hb⟩ := hbuilds coll hcoll
    have hkeys := hapart.linkVariables def_ hdef
    rw [hb.properties]
    refine List.Nodup.of_map variableKey ?_
    simpa only [List.map_map, Function.comp_def] using hkeys
  · intro coll hcoll role hrole
    obtain ⟨def_, hdef, b, rfl, hb⟩ := hbuilds coll hcoll
    have hmem : (role.property, role.targetCollection) ∈
        def_.relationships.map fun rel => (rel.property, rel.target.1) :=
      hb.roles ▸ List.mem_map_of_mem hrole
    obtain ⟨rel, hrel, heq⟩ := List.mem_map.mp hmem
    rw [hnames, ← (Prod.mk.inj heq).2]
    exact hb.targets rel hrel
  · intro coll hcoll derived hderived role hrole
    obtain ⟨def_, hdef, b, rfl, hb⟩ := hbuilds coll hcoll
    have hmem := ((hb.derived derived hderived).2 role hrole).1
    rw [← hb.roles] at hmem
    obtain ⟨r, hr, heq⟩ := List.mem_map.mp hmem
    exact ⟨r, hr, (Prod.mk.inj heq).1, (Prod.mk.inj heq).2⟩
  · intro coll hcoll derived hderived role hrole target htarget hname
    obtain ⟨def_, hdef, b, rfl, hb⟩ := hbuilds coll hcoll
    obtain ⟨-, line, hline, hlineName, hisLine⟩ := (hb.derived derived hderived).2 role hrole
    obtain ⟨def', hdef', b', rfl, hb'⟩ := hbuilds target htarget
    -- the target is the line, as collections are found by their names
    have heq : def' = line := by
      refine List.inj_on_of_nodup_map hapart.collections hdef' hline ?_
      rw [hlineName, ← hname, hb'.name]
    subst heq
    cases hd : b'.plan.derived with
    | none => rfl
    | some d =>
      have htype := def'.geometry.derived_type (hb'.derived d hd).1
      rw [htype] at hisLine
      cases hisLine

/-- The generated names are apart exactly when those of the description are. -/
theorem generatesCollisionFree_iff (h : resolveDataset dataset commons = .ok resolved) :
    GeneratesCollisionFree resolved ↔ NamesApart dataset commons :=
  ⟨namesApart_of_collisionFree h, collisionFree_of_namesApart h⟩

end Schema

/-! ### Samples -/

theorem exists_resolved (dataset : DatasetDef) (commons : Commons)
    (h : (resolveDataset dataset commons).toOption.isSome = true) :
    ∃ resolved, resolveDataset dataset commons = .ok resolved := by
  cases hresolved : resolveDataset dataset commons with
  | ok resolved => exact ⟨resolved, rfl⟩
  | error e =>
    rw [hresolved] at h
    cases h

/-- A text field. -/
def Sample.textField (name : SafeIdentifier) : FieldDef := { name := name, type := some "string" }

theorem Sample.leaf_valid {field : FieldDef} (hsource : field.exactlyOneTypeSource = .ok ())
    (hfields : field.fields = []) : field.Valid :=
  .intro hsource fun _ hsub => absurd (hfields ▸ hsub) List.not_mem_nil

theorem Sample.textField_valid (name : SafeIdentifier) : (Sample.textField name).Valid :=
  Sample.leaf_valid rfl rfl

/-- A dataset of one collection with one text field. -/
def Sample.parcelDataset (field : SafeIdentifier) : DatasetDef where
  name := ⟨"cadastre", by decide⟩
  collections := [
    { name := ⟨"parcel", by decide⟩
      fields := [Sample.textField field]
      fields_valid := List.forall_mem_singleton.mpr (Sample.textField_valid field) }]

def Sample.noCommons : Commons where
  baseFields_valid := fun _ hfield => absurd hfield List.not_mem_nil

/-- The identification of a building, with an index on its identifier. -/
def Sample.identity : FieldDef :=
  { name := ⟨"identification", by decide⟩, type := some "object"
    fields := [{ Sample.textField ⟨"local_id", by decide⟩ with indexable := true },
      { name := ⟨"version", by decide⟩, type := some "integer" }] }

theorem Sample.identity_valid : Sample.identity.Valid :=
  .intro rfl (List.forall_mem_cons.mpr
    ⟨Sample.leaf_valid rfl rfl, List.forall_mem_singleton.mpr (Sample.leaf_valid rfl rfl)⟩)

/-- A dataset of owners and their buildings. -/
def Sample.estateDataset : DatasetDef where
  name := ⟨"estate", by decide⟩
  codelists := [⟨⟨"use", by decide⟩, ["dwelling", "industry"]⟩]
  collections := [
    { name := ⟨"owner", by decide⟩
      fields := [Sample.textField ⟨"name", by decide⟩]
      fields_valid := List.forall_mem_singleton.mpr (Sample.textField_valid _) },
    { name := ⟨"building", by decide⟩
      fields := [Sample.identity, { Sample.textField ⟨"street", by decide⟩ with indexable := true },
        { name := ⟨"use", by decide⟩, codelist := some "use" }]
      relationships := [⟨"owners", ⟨"owner", by decide⟩⟩, ⟨"tenants", ⟨"owner", by decide⟩⟩]
      outwardIdentifier := some "identification.local_id"
      fields_valid := List.forall_mem_cons.mpr ⟨Sample.identity_valid, List.forall_mem_cons.mpr
        ⟨Sample.leaf_valid rfl rfl, List.forall_mem_singleton.mpr (Sample.leaf_valid rfl rfl)⟩⟩ }]

theorem Sample.namesApart_estate : NamesApart Sample.estateDataset Sample.noCommons where
  nestedTypes := by
    intro coll hcoll fld hfld ref href
    have hnone : ∀ coll ∈ Sample.estateDataset.collections,
        ∀ fld ∈ coll.allFields Sample.noCommons, fld.nestedTypeRefs = [] := by decide +kernel
    rw [hnone coll hcoll fld hfld] at href
    exact absurd href List.not_mem_nil
  outwardIdentifier := by
    unfold CollectionDef.CopiesOutwardIdentifier
    decide +kernel
  fields := by decide +kernel
  collections := by decide +kernel
  relations := by decide +kernel
  properties := by decide +kernel
  linkVariables := by decide +kernel

/-- Buildings with an object, two links and three indexes. -/
theorem generatesCollisionFree_iff_sample : ∃ resolved,
    resolveDataset Sample.estateDataset Sample.noCommons = .ok resolved ∧
      GeneratesCollisionFree resolved := by
  obtain ⟨resolved, h⟩ := exists_resolved Sample.estateDataset Sample.noCommons (by decide +kernel)
  exact ⟨resolved, h, (generatesCollisionFree_iff h).mpr Sample.namesApart_estate⟩

/-- A field called `geometry` gives its table two columns of that name. -/
theorem geometryField_collides : ∃ resolved,
    resolveDataset (Sample.parcelDataset ⟨"geometry", by decide⟩) Sample.noCommons = .ok resolved ∧
      ¬ GeneratesCollisionFree resolved := by
  obtain ⟨resolved, h⟩ := exists_resolved
    (Sample.parcelDataset ⟨"geometry", by decide⟩) Sample.noCommons (by decide +kernel)
  refine ⟨resolved, h, fun hfree => ?_⟩
  refine (namesApart_of_collisionFree h hfree).fields _ List.mem_cons_self
    (Sample.textField ⟨"geometry", by decide⟩) List.mem_cons_self ?_
  simp [Sample.textField]

end Geocomponents
