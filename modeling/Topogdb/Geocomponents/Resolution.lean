/-
What an accepted description becomes.

* `ResolvesCollection` — what the loader keeps of a collection, and that it kept
  its field names apart;
* `BuildsCollection` — what the plan keeps of it;
* `BuildsSchema` — the same for the whole schema.
-/
import Topogdb.Geocomponents.Statements
import Topogdb.Lib.Related

namespace Geocomponents

open Python Except

/-! ### Definitions of fields -/

namespace FieldDef

/-- Whether the column of the field is jsonb. -/
def storesJson (types : List (String × FieldType)) (fld : FieldDef) : Bool :=
  fld.type = some "object" ||
    (fld.codelist.isNone && (fld.typeRef.bind fun ref => types.lookup ref).any (·.sqlType = "jsonb"))

mutual

/-- The named types that the field and its sub-fields refer to. -/
def typeRefs : FieldDef → List String
  | ⟨_, type, typeRef, codelist, _, _, fields, _⟩ =>
    if type = some "object" then allTypeRefs fields
    else if codelist.isSome then [] else typeRef.toList

def allTypeRefs : List FieldDef → List String
  | [] => []
  | fld :: flds => typeRefs fld ++ allTypeRefs flds

end

/-- Those of the sub-fields. -/
def nestedTypeRefs (fld : FieldDef) : List String :=
  if fld.type = some "object" then allTypeRefs fld.fields else []

/-- How many extra indexes the field gets. -/
def indexCount (types : List (String × FieldType)) (fld : FieldDef) : ℕ :=
  if fld.type = some "object" then fld.fields.countP (·.indexable)
  else if fld.indexable && !fld.storesJson types then 1 else 0

end FieldDef

/-- The fields of a collection, those of the commons first. -/
def CollectionDef.allFields (coll : CollectionDef) (commons : Commons) : List FieldDef :=
  commons.baseFields ++ coll.fields

/-- A scalar field copies the outward identifier only where there is one. -/
def CollectionDef.CopiesOutwardIdentifier (coll : CollectionDef) (commons : Commons) : Prop :=
  ∀ fld ∈ coll.allFields commons, fld.storesJson commons.types = false →
    coll.serverManaged.lookup fld.name.1 = some .outwardIdentifier →
      coll.outwardIdentifier.isSome = true

/-- How many extra indexes the collection gets. -/
def CollectionDef.indexCount (coll : CollectionDef) (commons : Commons) : ℕ :=
  ((coll.allFields commons).map (·.indexCount commons.types)).sum

/-! ### Fields -/

section Fields

variable {types : List (String × FieldType)} {codelists : List (String × CodeList)}

/-- The JSON types of the named types are known. -/
def KnownRefs (types : List (String × FieldType)) (refs : List String) : Prop :=
  ∀ ref ∈ refs, ∀ t, types.lookup ref = some t → t.sqlType ∈ expectedJsonTypes.map Prod.fst

theorem knownRefs_append {refs refs' : List String} :
    KnownRefs types (refs ++ refs') ↔ KnownRefs types refs ∧ KnownRefs types refs' := by
  simp only [KnownRefs, List.mem_append]
  exact ⟨fun h => ⟨fun ref hr => h ref (.inl hr), fun ref hr => h ref (.inr hr)⟩,
    fun h ref hr => hr.elim (h.1 ref) (h.2 ref)⟩

/-- The built-in types have a JSON type, and only `object` is jsonb. -/
theorem builtinSqlTypes_spec {type sqlType : String}
    (h : builtinSqlTypes.lookup type = some sqlType) :
    sqlType ∈ expectedJsonTypes.map Prod.fst ∧ (sqlType = "jsonb" → type = "object") := by
  have hall : ∀ e ∈ builtinSqlTypes, e.2 ∈ expectedJsonTypes.map Prod.fst ∧
      (e.2 = "jsonb" → e.1 = "object") := by decide +kernel
  exact hall _ (mem_of_lookup h)

theorem isSome_expectedJsonTypes {sqlType : String} :
    (expectedJsonTypes.lookup sqlType).isSome = true ↔
      sqlType ∈ expectedJsonTypes.map Prod.fst := lookup_isSome_iff

/-- What the resolved field keeps of its definition. -/
structure ResolvesField (types : List (String × FieldType)) (fld : FieldDef) (r : ResolvedField) :
    Prop where
  name : r.name = fld.name
  indexable : r.indexable = fld.indexable
  json : r.sqlType = "jsonb" ↔ fld.storesJson types = true
  indexes : (r.subFields.countP (·.indexable)) =
    if fld.type = some "object" then fld.fields.countP (·.indexable) else 0
  known : ∀ path supplied, nestedFieldTypes (nestedFieldPlan path supplied r) = .ok () ↔
    KnownRefs types fld.typeRefs
  nested : ∀ path supplied, nestedFieldsTypes (nestedFieldPlans path supplied r.subFields) = .ok () ↔
    KnownRefs types fld.nestedTypeRefs

theorem nestedFieldTypes_leaf {sqlType : String} (path name : String) (supplied : List String)
    (required autoIncrement indexable : Bool) (codes : List String) (codelist : Option String) :
    nestedFieldTypes (nestedFieldPlan path supplied
        ⟨name, sqlType, required, autoIncrement, [], indexable, codes, codelist⟩) = .ok () ↔
      sqlType ∈ expectedJsonTypes.map Prod.fst := by
  rw [← isSome_expectedJsonTypes, nestedFieldPlan, nestedFieldPlans, nestedFieldTypes]
  cases expectedJsonTypes.lookup sqlType with
  | none => simp
  | some expected => simp [nestedFieldsTypes]

/-- A field without sub-fields. -/
theorem resolves_resolveLeaf {place : String} {fld : FieldDef} {r : ResolvedField}
    (hobject : fld.type ≠ some "object")
    (h : resolveLeaf types codelists place fld = .ok r) : ResolvesField types fld r := by
  obtain ⟨name, type, typeRef, codelist, required, autoIncrement, fields, indexable⟩ := fld
  have hnested : FieldDef.nestedTypeRefs
      ⟨name, type, typeRef, codelist, required, autoIncrement, fields, indexable⟩ = [] := by
    rw [FieldDef.nestedTypeRefs, if_neg hobject]
  have hempty (path : String) (supplied : List String) :
      nestedFieldsTypes (nestedFieldPlans path supplied []) = .ok () ↔ KnownRefs types [] := by
    simp [nestedFieldPlans, nestedFieldsTypes, KnownRefs]
  rw [resolveLeaf] at h
  simp only at h hobject
  -- a code list, a shared type, or a builtin one
  cases codelist with
  | some codelist =>
    simp only at h
    cases hlookup : codelists.lookup codelist with
    | none => rw [hlookup] at h; cases h
    | some cl =>
      rw [hlookup] at h
      cases h
      refine ⟨rfl, rfl, ?_, by simp [hobject], fun path supplied => ?_, fun path supplied => ?_⟩
      · simp [FieldDef.storesJson, hobject]
      · rw [nestedFieldTypes_leaf]
        exact iff_of_true (by decide +kernel) (by simp [FieldDef.typeRefs, hobject, KnownRefs])
      · rw [hnested]
        exact hempty path supplied
  | none =>
    cases typeRef with
    | some typeRef =>
      simp only at h
      cases hlookup : types.lookup typeRef with
      | none => rw [hlookup] at h; cases h
      | some t =>
        rw [hlookup] at h
        cases h
        refine ⟨rfl, rfl, ?_, by simp [hobject], fun path supplied => ?_, fun path supplied => ?_⟩
        · simp [FieldDef.storesJson, hobject, hlookup]
        · rw [nestedFieldTypes_leaf]
          simp [FieldDef.typeRefs, hobject, KnownRefs, hlookup]
        · rw [hnested]
          exact hempty path supplied
    | none =>
      cases type with
      | none => simp only at h; cases h
      | some type =>
        simp only at h
        cases hlookup : builtinSqlTypes.lookup type with
        | none => rw [hlookup] at h; cases h
        | some sqlType =>
          rw [hlookup] at h
          cases h
          obtain ⟨hknown, hjson⟩ := builtinSqlTypes_spec hlookup
          -- of the builtin types only `object` is stored as jsonb
          have hne : sqlType ≠ "jsonb" := fun heq => hobject (congrArg some (hjson heq))
          refine ⟨rfl, rfl, ?_, by simp [hobject], fun path supplied => ?_,
            fun path supplied => ?_⟩
          · simp [FieldDef.storesJson, hobject, hne]
          · rw [nestedFieldTypes_leaf]
            simp only [hknown, true_iff]
            simp [FieldDef.typeRefs, hobject, KnownRefs]
          · rw [hnested]
            exact hempty path supplied

theorem resolves_nested {flds : List FieldDef} {rs : List ResolvedField}
    (h : List.Forall₂ (ResolvesField types) flds rs) (path : String) (supplied : List String) :
    nestedFieldsTypes (nestedFieldPlans path supplied rs) = .ok () ↔
      KnownRefs types (FieldDef.allTypeRefs flds) := by
  induction h with
  | nil => simp [nestedFieldPlans, nestedFieldsTypes, FieldDef.allTypeRefs, KnownRefs]
  | cons hfld _ ih =>
    rw [nestedFieldPlans, nestedFieldsTypes, FieldDef.allTypeRefs, knownRefs_append,
      ← hfld.known path supplied, ← ih, bind_eq_ok]
    exact ⟨fun ⟨_, h, h'⟩ => ⟨h, h'⟩, fun ⟨h, h'⟩ => ⟨(), h, h'⟩⟩

theorem resolves_indexable {flds : List FieldDef} {rs : List ResolvedField}
    (h : List.Forall₂ (ResolvesField types) flds rs) :
    rs.countP (·.indexable) = flds.countP (·.indexable) := by
  induction h with
  | nil => rfl
  | cons hfld _ ih => rw [List.countP_cons, List.countP_cons, ih, hfld.indexable]

mutual

theorem resolves_resolveField : ∀ (fld : FieldDef) {place : String} {r : ResolvedField},
    resolveField types codelists place fld = .ok r → ResolvesField types fld r
  | ⟨name, type, typeRef, codelist, required, autoIncrement, fields, indexable⟩, place, r, h => by
    rw [resolveField] at h
    by_cases hobject : type = some "object"
    · rw [if_pos hobject, bind_eq_ok] at h
      obtain ⟨sub, hsub, h⟩ := h
      cases h
      have hfields := resolves_resolveSubFields fields hsub
      subst hobject
      refine ⟨rfl, rfl, ?_, resolves_indexable hfields, fun path supplied => ?_,
        fun path supplied => ?_⟩
      · simp [FieldDef.storesJson]
      · have hjson : expectedJsonTypes.lookup "jsonb" = some "object" := by decide +kernel
        rw [nestedFieldPlan, nestedFieldTypes, hjson, FieldDef.typeRefs, if_pos rfl]
        exact resolves_nested hfields _ _
      · rw [FieldDef.nestedTypeRefs, if_pos rfl]
        exact resolves_nested hfields _ _
    · rw [if_neg hobject] at h
      exact resolves_resolveLeaf hobject h

theorem resolves_resolveSubFields : ∀ (flds : List FieldDef) {place : String}
    {rs : List ResolvedField}, resolveSubFields types codelists place flds = .ok rs →
    List.Forall₂ (ResolvesField types) flds rs
  | [], _, rs, h => by
    rw [resolveSubFields] at h
    cases h
    exact .nil
  | fld :: flds, place, rs, h => by
    rw [resolveSubFields, bind_eq_ok] at h
    obtain ⟨r, hr, h⟩ := h
    obtain ⟨rs, hrs, h⟩ := bind_eq_ok.mp h
    cases h
    exact .cons (resolves_resolveField fld hr) (resolves_resolveSubFields flds hrs)

end

/-- The merged fields are resolved one by one, under different names. -/
theorem resolves_resolveMerged {place : String} {seen : List String} {flds : List FieldDef}
    {rs : List ResolvedField} (h : resolveMerged types codelists place seen flds = .ok rs) :
    List.Forall₂ (ResolvesField types) flds rs ∧ (flds.map (·.name.1)).Nodup ∧
      ∀ fld ∈ flds, fld.name.1 ∉ seen := by
  induction flds generalizing seen rs with
  | nil =>
    cases h
    exact ⟨.nil, List.nodup_nil, by simp⟩
  | cons fld flds ih =>
    rw [resolveMerged] at h
    by_cases hseen : fld.name.1 ∈ seen
    · rw [if_pos hseen] at h
      cases h
    · rw [if_neg hseen] at h
      obtain ⟨r, hr, h⟩ := bind_eq_ok.mp h
      obtain ⟨rs, hrs, h⟩ := bind_eq_ok.mp h
      cases h
      obtain ⟨hfields, hnodup, hnot⟩ := ih hrs
      refine ⟨.cons (resolves_resolveField fld hr) hfields, ?_, ?_⟩
      · rw [List.map_cons, List.nodup_cons]
        refine ⟨fun hmem => ?_, hnodup⟩
        obtain ⟨fld', hfld', heq⟩ := List.mem_map.mp hmem
        exact hnot fld' hfld' (List.mem_append.mpr (.inr (by simp [heq])))
      · intro fld' hfld'
        rcases List.mem_cons.mp hfld' with rfl | hfld'
        · exact hseen
        · exact fun hmem => hnot fld' hfld' (List.mem_append.mpr (.inl hmem))

end Fields

/-! ### Collections -/

/-- What a resolved collection keeps of its definition. -/
structure ResolvesCollection (dataset : DatasetDef) (commons : Commons) (coll : CollectionDef)
    (r : ResolvedCollection) : Prop where
  name : r.name = coll.name
  reserved : coll.name.1 ∉ reservedCollectionNames
  fields : List.Forall₂ (ResolvesField commons.types) (coll.allFields commons) r.fields
  fields_nodup : ((coll.allFields commons).map (·.name.1)).Nodup
  relationships : r.relationships =
    coll.relationships.map fun rel => ⟨rel.property, rel.target⟩
  targets : ∀ rel ∈ coll.relationships, rel.target.1 ∈ dataset.collections.map (·.name.1)
  outwardIdentifier : r.outwardIdentifierPath = coll.outwardIdentifier
  serverManaged : r.serverManagedPaths = coll.serverManaged
  derived : ∀ derived, r.derived = some derived → coll.geometry.derived.isSome = true ∧
    ∀ role ∈ derived.oneOf.flatten, ∃ rel ∈ coll.relationships,
      rel.property = role.property ∧ rel.target = role.target ∧
      ∃ target ∈ dataset.collections, target.name.1 = role.target ∧
        target.geometry.type.isLine = true

theorem prepareCollection_ok {dataset : DatasetDef} {commons : Commons} {coll : CollectionDef}
    {fields : List ResolvedField} (h : prepareCollection dataset commons coll = .ok fields) :
    coll.name.1 ∉ reservedCollectionNames ∧
      List.Forall₂ (ResolvesField commons.types) (coll.allFields commons) fields ∧
      ((coll.allFields commons).map (·.name.1)).Nodup := by
  rw [prepareCollection] at h
  by_cases hreserved : coll.name.1 ∈ reservedCollectionNames
  · rw [if_pos hreserved] at h
    cases h
  · rw [if_neg hreserved] at h
    obtain ⟨fields', hfields, h⟩ := bind_eq_ok.mp h
    obtain ⟨hforall, hnodup, -⟩ := resolves_resolveMerged hfields
    obtain ⟨_, -, h⟩ := bind_eq_ok.mp h
    obtain ⟨_, -, h⟩ := bind_eq_ok.mp h
    obtain ⟨_, -, h⟩ := bind_eq_ok.mp h
    cases h
    exact ⟨hreserved, hforall, hnodup⟩

theorem resolveRelationships_ok {coll : CollectionDef} {names : List String} {place : String}
    {rels : List ResolvedRelationship} (h : resolveRelationships coll names place = .ok rels) :
    rels = coll.relationships.map (fun rel => ⟨rel.property, rel.target⟩) ∧
      ∀ rel ∈ coll.relationships, rel.target.1 ∈ names := by
  rw [resolveRelationships] at h
  have hforall := forall₂_of_mapM h
  clear h
  generalize coll.relationships = defs at hforall ⊢
  induction hforall with
  | nil => exact ⟨rfl, by simp⟩
  | @cons rel r _ _ hrel _ ih =>
    obtain ⟨hrs, htargets⟩ := ih
    split at hrel
    · next hmem =>
      cases hrel
      exact ⟨by rw [hrs, List.map_cons], List.forall_mem_cons.mpr ⟨hmem, htargets⟩⟩
    · cases hrel

/-- A derived role is a relationship with a line as its target. -/
theorem resolveDerivedRole_ok {coll : CollectionDef} {rels : List ResolvedRelationship}
    {colls : List CollectionDef} {byName : List (String × List ResolvedField)} {place : String}
    {role : DerivedRoleDef} {r : ResolvedDerivedRole}
    (h : resolveDerivedRole coll rels (dictOf (colls.map fun c => (c.name.1, c))) byName place role
      = .ok r) :
    ∃ rel ∈ rels, rel.property = r.property ∧ rel.target = r.target ∧
      ∃ target ∈ colls, target.name.1 = r.target ∧ target.geometry.type.isLine = true := by
  rw [resolveDerivedRole] at h
  cases hrel : (dictOf (rels.map fun rel => (rel.property, rel))).lookup role.name with
  | none =>
    rw [hrel] at h
    cases h
  | some rel =>
    rw [hrel] at h
    simp only at h
    cases htarget : (dictOf (colls.map fun c => (c.name.1, c))).lookup rel.target with
    | none =>
      rw [htarget] at h
      cases h
    | some target =>
      rw [htarget] at h
      simp only at h
      by_cases hline : target.geometry.type.isLine = true
      · rw [hline, Bool.not_true, if_neg Bool.false_ne_true] at h
        by_cases hsrid : target.geometry.srid ≠ coll.geometry.srid
        · rw [if_pos hsrid] at h
          cases h
        · rw [if_neg hsrid] at h
          obtain ⟨whenField, -, h⟩ := bind_eq_ok.mp h
          cases h
          obtain ⟨rel', hrel', heq⟩ := List.mem_map.mp (mem_dictOf (mem_of_lookup hrel))
          obtain ⟨target', htarget', heq'⟩ := List.mem_map.mp (mem_dictOf (mem_of_lookup htarget))
          obtain ⟨hproperty, rfl⟩ := Prod.mk.inj heq
          obtain ⟨hname, rfl⟩ := Prod.mk.inj heq'
          exact ⟨rel', hrel', hproperty, rfl, target', htarget', hname, hline⟩
      · rw [Bool.eq_false_iff.mpr hline, Bool.not_false, if_pos rfl] at h
        cases h

theorem resolveDerived_ok {coll : CollectionDef} {rels : List ResolvedRelationship}
    {colls : List CollectionDef} {byName : List (String × List ResolvedField)} {place : String}
    {derived : ResolvedDerivedDef}
    (h : resolveDerived coll rels (dictOf (colls.map fun c => (c.name.1, c))) byName place
      = .ok (some derived)) :
    coll.geometry.derived.isSome = true ∧ ∀ role ∈ derived.oneOf.flatten, ∃ rel ∈ rels,
      rel.property = role.property ∧ rel.target = role.target ∧
      ∃ target ∈ colls, target.name.1 = role.target ∧ target.geometry.type.isLine = true := by
  rw [resolveDerived] at h
  cases hderived : coll.geometry.derived with
  | none =>
    rw [hderived] at h
    cases h
  | some d =>
    rw [hderived] at h
    obtain ⟨oneOf, honeOf, h⟩ := bind_eq_ok.mp h
    cases h
    refine ⟨rfl, fun role hrole => ?_⟩
    obtain ⟨roles, hroles, hmem⟩ := List.mem_flatten.mp hrole
    obtain ⟨alternative, -, halternative⟩ := (forall₂_of_mapM honeOf).exists_of_mem_right hroles
    obtain ⟨def_, -, hdef⟩ := (forall₂_of_mapM halternative).exists_of_mem_right hmem
    exact resolveDerivedRole_ok hdef

theorem resolveCollection_ok {dataset : DatasetDef} {commons : Commons}
    {byName : List (String × List ResolvedField)} {coll : CollectionDef}
    {fields : List ResolvedField} {r : ResolvedCollection}
    (hfields : prepareCollection dataset commons coll = .ok fields)
    (hr : resolveCollection dataset byName (coll, fields) = .ok r) :
    ResolvesCollection dataset commons coll r := by
  obtain ⟨hreserved, hforall, hnodup⟩ := prepareCollection_ok hfields
  rw [resolveCollection] at hr
  obtain ⟨_, -, hr⟩ := bind_eq_ok.mp hr
  obtain ⟨rels, hrels, hr⟩ := bind_eq_ok.mp hr
  obtain ⟨derived, hderived, hr⟩ := bind_eq_ok.mp hr
  cases hr
  obtain ⟨hrels, htargets⟩ := resolveRelationships_ok hrels
  refine ⟨rfl, hreserved, hforall, hnodup, hrels, htargets, rfl, rfl, fun d hd => ?_⟩
  cases hd
  obtain ⟨hsome, hroles⟩ := resolveDerived_ok hderived
  refine ⟨hsome, fun role hrole => ?_⟩
  obtain ⟨rel, hrel, hproperty, htarget, hline⟩ := hroles role hrole
  rw [hrels] at hrel
  obtain ⟨def_, hdef, rfl⟩ := List.mem_map.mp hrel
  exact ⟨def_, hdef, hproperty, htarget, hline⟩

/-- The two stages of a collection. -/
structure ResolvedFrom (dataset : DatasetDef) (commons : Commons) (coll : CollectionDef)
    (r : ResolvedCollection) : Prop where
  prepared : prepareCollection dataset commons coll = .ok r.fields
  resolved : ∃ byName, resolveCollection dataset byName (coll, r.fields) = .ok r

theorem resolveCollection_fields {dataset : DatasetDef}
    {byName : List (String × List ResolvedField)} {p : CollectionDef × List ResolvedField}
    {r : ResolvedCollection} (h : resolveCollection dataset byName p = .ok r) :
    r.fields = p.2 := by
  rw [resolveCollection] at h
  obtain ⟨_, -, h⟩ := bind_eq_ok.mp h
  obtain ⟨_, -, h⟩ := bind_eq_ok.mp h
  obtain ⟨_, -, h⟩ := bind_eq_ok.mp h
  cases h
  rfl

/-- Each resolved collection comes from its definition. -/
theorem resolvedFrom_of_resolveDataset {dataset : DatasetDef} {commons : Commons}
    {resolved : ResolvedDataset} (h : resolveDataset dataset commons = .ok resolved) :
    List.Forall₂ (ResolvedFrom dataset commons) dataset.collections resolved.collections := by
  rw [resolveDataset] at h
  by_cases hunknown : dataset.processes.dedup.filter (· ∉ knownProcessIds) ≠ []
  · simp only [if_pos hunknown] at h
    cases h
  · simp only [if_neg hunknown] at h
    obtain ⟨prepared, hprepared, h⟩ := bind_eq_ok.mp h
    obtain ⟨collections, hcollections, h⟩ := bind_eq_ok.mp h
    cases h
    refine (forall₂_of_mapM hprepared).comp (forall₂_of_mapM hcollections) fun coll p r hp hr => ?_
    obtain ⟨fields, hfields, hp⟩ := bind_eq_ok.mp hp
    cases hp
    rw [← show r.fields = fields from resolveCollection_fields hr] at hfields hr
    exact ⟨hfields, _, hr⟩

/-- The resolved collections, one for each definition. -/
theorem resolveDataset_ok {dataset : DatasetDef} {commons : Commons} {resolved : ResolvedDataset}
    (h : resolveDataset dataset commons = .ok resolved) :
    List.Forall₂ (ResolvesCollection dataset commons) dataset.collections resolved.collections := by
  refine (resolvedFrom_of_resolveDataset h).imp fun coll r hr => ?_
  obtain ⟨byName, hresolved⟩ := hr.resolved
  exact resolveCollection_ok hr.prepared hresolved

/-! ### The plan -/

section Plan

variable {types : List (String × FieldType)} {rc : ResolvedCollection} {fld : FieldDef}
  {f : ResolvedField}

theorem exists_buildColumn_ok (hf : ResolvesField types fld f) :
    (∃ c, buildColumn rc f = .ok c) ↔
      (fld.storesJson types = false →
        rc.serverManagedPaths.lookup fld.name.1 = some .outwardIdentifier →
          rc.outwardIdentifierPath.isSome = true) := by
  rw [buildColumn]
  by_cases hjson : f.sqlType = "jsonb"
  · rw [if_pos hjson]
    refine iff_of_true ⟨_, rfl⟩ fun h => ?_
    rw [hf.json.mp hjson] at h
    cases h
  · have hstores : fld.storesJson types = false :=
      Bool.eq_false_iff.mpr fun h => hjson (hf.json.mpr h)
    rw [if_neg hjson, serverWriteExpr, hf.name]
    cases hlookup : rc.serverManagedPaths.lookup fld.name.1 with
    | none => exact iff_of_true ⟨_, rfl⟩ fun _ h => by cases h
    | some token =>
      cases token with
      | timestampIso => exact iff_of_true ⟨_, rfl⟩ fun _ h => by cases h
      | outwardIdentifier =>
        cases hpath : rc.outwardIdentifierPath with
        | none => exact iff_of_false (fun ⟨_, h⟩ => by cases h) fun h => by cases h hstores rfl
        | some path => exact iff_of_true ⟨_, rfl⟩ fun _ _ => rfl

/-- What a column keeps of its field. -/
structure BuildsColumn (types : List (String × FieldType)) (fld : FieldDef) (c : ColumnPlan) :
    Prop where
  name : c.name = fld.name
  nested : nestedFieldsTypes c.nestedFields = .ok () ↔ KnownRefs types fld.nestedTypeRefs
  unwritten : c.autoIncrement = true ∨ c.serverWriteExpr.isSome = true → c.nestedFields = []

theorem buildsColumn (hf : ResolvesField types fld f) {c : ColumnPlan}
    (h : buildColumn rc f = .ok c) : BuildsColumn types fld c := by
  rw [buildColumn] at h
  by_cases hjson : f.sqlType = "jsonb"
  · rw [if_pos hjson] at h
    cases h
    refine ⟨hf.name, hf.nested _ _, ?_⟩
    rintro (h | h) <;> cases h
  · rw [if_neg hjson] at h
    obtain ⟨expr, -, h⟩ := bind_eq_ok.mp h
    cases h
    refine ⟨hf.name, ?_, fun _ => rfl⟩
    have hobject : fld.type ≠ some "object" :=
      fun h => hjson (hf.json.mpr (by simp [FieldDef.storesJson, h]))
    rw [FieldDef.nestedTypeRefs, if_neg hobject]
    exact iff_of_true rfl (by simp [KnownRefs])

theorem length_buildIndexes (hf : ResolvesField types fld f) :
    (buildIndexes f).length = fld.indexCount types := by
  rw [buildIndexes, FieldDef.indexCount]
  by_cases hjson : f.sqlType = "jsonb"
  · rw [if_pos hjson, List.length_map, ← List.countP_eq_length_filter, hf.indexes,
      hf.json.mp hjson, Bool.not_true, Bool.and_false]
    rfl
  · have hstores : fld.storesJson types = false :=
      Bool.eq_false_iff.mpr fun h => hjson (hf.json.mpr h)
    have hobject : fld.type ≠ some "object" :=
      fun h => hjson (hf.json.mpr (by simp [FieldDef.storesJson, h]))
    rw [if_neg hjson, if_neg hobject, hstores, hf.indexable, Bool.not_false, Bool.and_true]
    cases fld.indexable <;> rfl

end Plan

section Collection

variable {dataset : DatasetDef} {commons : Commons} {coll : CollectionDef}
  {rc : ResolvedCollection}

/-- What a built collection keeps of its definition. -/
structure BuildsCollection (dataset : DatasetDef) (commons : Commons) (coll : CollectionDef)
    (b : BuiltCollection) : Prop where
  name : b.plan.collectionName = coll.name
  columns : List.Forall₂ (BuildsColumn commons.types) (coll.allFields commons) b.plan.columns
  indexes : b.indexes.length = coll.indexCount commons
  roles : b.plan.roles.map (fun role => (role.property, role.targetCollection)) =
    coll.relationships.map fun rel => (rel.property, rel.target.1)
  targets : ∀ rel ∈ coll.relationships, rel.target.1 ∈ dataset.collections.map (·.name.1)
  derived : ∀ derived, b.plan.derived = some derived → coll.geometry.derived.isSome = true ∧
    ∀ role ∈ derived.oneOf.flatten,
      (role.property, role.targetCollection) ∈
        coll.relationships.map (fun rel => (rel.property, rel.target.1)) ∧
      ∃ target ∈ dataset.collections, target.name.1 = role.targetCollection ∧
        target.geometry.type.isLine = true

theorem BuildsCollection.properties {dataset : DatasetDef} {commons : Commons}
    {coll : CollectionDef} {b : BuiltCollection} (hb : BuildsCollection dataset commons coll b) :
    b.plan.roles.map (·.property) = coll.relationships.map (·.property) := by
  have hroles := congrArg (List.map Prod.fst) hb.roles
  rwa [List.map_map, List.map_map] at hroles

theorem exists_buildRole_ok {collByName : List (String × ResolvedCollection)}
    {rel : ResolvedRelationship} (h : rel.target ∈ collByName.map Prod.fst) :
    ∃ role, buildRole collByName rel = .ok role := by
  rw [buildRole]
  obtain ⟨target, htarget⟩ := Option.isSome_iff_exists.mp (lookup_isSome_iff.mpr h)
  rw [htarget]
  exact ⟨_, rfl⟩

theorem buildRole_ok {collByName : List (String × ResolvedCollection)}
    {rel : ResolvedRelationship} {role : CollectionRolePlan}
    (h : buildRole collByName rel = .ok role) :
    (rel.property, rel.target) = (role.property, role.targetCollection) := by
  rw [buildRole] at h
  cases hlookup : collByName.lookup rel.target with
  | none =>
    rw [hlookup] at h
    cases h
  | some target =>
    rw [hlookup] at h
    cases h
    rfl

/-- A collection is built exactly when its scalar fields find their outward
identifier. -/
theorem exists_buildCollection_ok (hc : ResolvesCollection dataset commons coll rc)
    {collByName : List (String × ResolvedCollection)}
    (htargets : ∀ rel ∈ coll.relationships, rel.target.1 ∈ collByName.map Prod.fst) :
    (∃ b, buildCollection collByName rc = .ok b) ↔ coll.CopiesOutwardIdentifier commons := by
  have hcolumns : (∃ cs, rc.fields.mapM (buildColumn rc) = .ok cs) ↔
      coll.CopiesOutwardIdentifier commons := by
    rw [exists_mapM_ok]
    refine (hc.fields.forall_iff fun fld f hf => ?_).symm
    rw [exists_buildColumn_ok hf, hc.serverManaged, hc.outwardIdentifier]
  have hroles : ∃ roles, rc.relationships.mapM (buildRole collByName) = .ok roles := by
    rw [exists_mapM_ok, hc.relationships]
    intro rel hrel
    obtain ⟨def_, hdef, rfl⟩ := List.mem_map.mp hrel
    exact exists_buildRole_ok (htargets def_ hdef)
  rw [← hcolumns, buildCollection]
  obtain ⟨roles, hroles⟩ := hroles
  constructor
  · rintro ⟨b, h⟩
    obtain ⟨columns, hcolumns, -⟩ := bind_eq_ok.mp h
    exact ⟨columns, hcolumns⟩
  · rintro ⟨columns, hcolumns⟩
    exact ⟨_, by rw [hcolumns, ok_bind, hroles, ok_bind]⟩

theorem buildsCollection (hc : ResolvesCollection dataset commons coll rc)
    {collByName : List (String × ResolvedCollection)} {b : BuiltCollection}
    (h : buildCollection collByName rc = .ok b) : BuildsCollection dataset commons coll b := by
  rw [buildCollection] at h
  obtain ⟨columns, hcolumns, h⟩ := bind_eq_ok.mp h
  obtain ⟨roles, hroles, h⟩ := bind_eq_ok.mp h
  cases h
  refine ⟨hc.name, ?_, ?_, ?_, hc.targets, fun derived hderived => ?_⟩
  · exact hc.fields.comp (forall₂_of_mapM hcolumns) fun _ _ _ hf hcol => buildsColumn hf hcol
  · rw [List.length_flatMap, CollectionDef.indexCount]
    exact congrArg List.sum (hc.fields.map_eq fun _ _ hf => (length_buildIndexes hf).symm).symm
  · show roles.map (fun role => (role.property, role.targetCollection)) = _
    have hmap := (forall₂_of_mapM hroles).map_eq fun _ _ hrole => buildRole_ok hrole
    rw [← hmap, hc.relationships, List.map_map]
    rfl
  · obtain ⟨resolved, hresolved, rfl⟩ := Option.map_eq_some_iff.mp hderived
    obtain ⟨hsome, hlines⟩ := hc.derived resolved hresolved
    refine ⟨hsome, fun role hrole => ?_⟩
    obtain ⟨alternative, halternative, hmem⟩ := List.mem_flatten.mp hrole
    obtain ⟨alternative, halternative', rfl⟩ := List.mem_map.mp halternative
    obtain ⟨role, hrole', rfl⟩ := List.mem_map.mp hmem
    obtain ⟨rel, hrel, hproperty, htarget, hline⟩ :=
      hlines role (List.mem_flatten.mpr ⟨alternative, halternative', hrole'⟩)
    refine ⟨List.mem_map.mpr ⟨rel, hrel, ?_⟩, hline⟩
    rw [hproperty, htarget]

end Collection

/-! ### The schema -/

section Schema

variable {dataset : DatasetDef} {commons : Commons} {resolved : ResolvedDataset}

theorem targets_built (h : resolveDataset dataset commons = .ok resolved) :
    ∀ coll ∈ dataset.collections, ∀ rel ∈ coll.relationships,
      rel.target.1 ∈ (dictOf (resolved.collections.map fun c => (c.name, c))).map Prod.fst := by
  intro coll hcoll rel hrel
  have hresolved := resolveDataset_ok h
  obtain ⟨rc, -, hc⟩ := hresolved.exists_of_mem_left hcoll
  have hnames : dataset.collections.map (·.name.1) = resolved.collections.map (·.name) :=
    hresolved.map_eq fun _ _ hc => hc.name.symm
  rw [← lookup_isSome_iff, lookup_dictOf_isSome, List.map_map]
  show rel.target.1 ∈ resolved.collections.map (·.name)
  rw [← hnames]
  exact hc.targets rel hrel

theorem exists_buildSchemaPlan_ok (h : resolveDataset dataset commons = .ok resolved) :
    (∃ plan, buildSchemaPlan resolved = .ok plan) ↔
      ∀ coll ∈ dataset.collections, coll.CopiesOutwardIdentifier commons := by
  have hcollections :=
    (List.forall₂_and_left _ _).mpr ⟨targets_built h, resolveDataset_ok h⟩
  have hloop : (∃ bs, resolved.collections.mapM (buildCollection (dictOf
      (resolved.collections.map fun c => (c.name, c)))) = .ok bs) ↔
      ∀ coll ∈ dataset.collections, coll.CopiesOutwardIdentifier commons := by
    rw [exists_mapM_ok]
    exact (hcollections.forall_iff fun coll rc hc =>
      (exists_buildCollection_ok hc.2 hc.1).symm).symm
  rw [← hloop, buildSchemaPlan]
  constructor
  · rintro ⟨plan, h⟩
    obtain ⟨bs, hbs, -⟩ := bind_eq_ok.mp h
    exact ⟨bs, hbs⟩
  · rintro ⟨bs, hbs⟩
    exact ⟨_, by rw [hbs, ok_bind]⟩

/-- What a built schema keeps of its description. -/
structure BuildsSchema (dataset : DatasetDef) (commons : Commons) (plan : BuiltSchema) : Prop where
  collections : List.Forall₂ (BuildsCollection dataset commons) dataset.collections plan.collections
  rows : plan.associationRoleRows.map (fun row => (row.sourceCollection, row.property)) =
    dataset.collections.flatMap fun coll =>
      coll.relationships.map fun rel => (coll.name.1, rel.property)

theorem buildsSchema (h : resolveDataset dataset commons = .ok resolved) {plan : BuiltSchema}
    (hplan : buildSchemaPlan resolved = .ok plan) : BuildsSchema dataset commons plan := by
  rw [buildSchemaPlan] at hplan
  obtain ⟨bs, hbs, hplan⟩ := bind_eq_ok.mp hplan
  cases hplan
  have hresolved := resolveDataset_ok h
  refine ⟨?_, ?_⟩
  · exact hresolved.comp (forall₂_of_mapM hbs) fun _ _ _ hc hb => buildsCollection hc hb
  · rw [List.map_flatMap]
    refine (hresolved.flatMap_eq fun coll rc hc => ?_).symm
    rw [hc.relationships, List.map_map, List.map_map, hc.name]
    rfl

/-- Every relationship has a role row. -/
theorem BuildsSchema.rows_isEmpty {plan : BuiltSchema} (hb : BuildsSchema dataset commons plan) :
    plan.associationRoleRows.isEmpty = false ↔
      ∃ coll ∈ dataset.collections, coll.relationships ≠ [] := by
  have hlength := congrArg List.isEmpty hb.rows
  rw [List.isEmpty_map] at hlength
  rw [hlength, Bool.eq_false_iff, ne_eq, List.isEmpty_iff, List.flatMap_eq_nil_iff]
  simp only [List.map_eq_nil_iff, not_forall, ne_eq, exists_prop]

end Schema

end Geocomponents
