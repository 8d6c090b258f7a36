/-
The document that the converter makes of a QMS schema.

* `Conversion.Takes` — what the loop over the attributes does, step by step;
* `ConvertedFrom`, `DescribedBy` — a collection of the document, and its definition,
  against the feature type;
* `convertedDoc_spec` — one collection for each feature type;
* `kept_iff_agreeing` — when the registered code lists are those of the fields.
-/
import Topogdb.Geocomponents.ConvertedFields

namespace Geocomponents

open Python Except

/-! ### The loop over the attributes -/

section Loop

variable (lower : String → String) (dats : List (String × DatEntry))

/-- The path of the outward identifier in an `Identifikasjon`. -/
def lokalidPath (attr : QmsAttribute) : String := (safeId lower attr.name).1 ++ "." ++ "lokalid"

/-- The path of the version in an `Identifikasjon`. -/
def versjonidPath (attr : QmsAttribute) : String := (safeId lower attr.name).1 ++ "." ++ "versjonid"

/-- The paths that an attribute hands over to the server. -/
def handedPaths (attr : QmsAttribute) : List String :=
  if attr.isServerManaged dats then [(safeId lower attr.name).1]
  else if attr.isIdentifikasjon dats then [versjonidPath lower attr]
  else []

/-- The loop over some attributes, from one value of its variables to another. -/
structure Conversion.Takes (attrs : List QmsAttribute) (s s' : Conversion) : Prop where
  fields : s'.fields = s.fields ++ allEmitted lower dats attrs
  codelists : s'.codelists = (allCodelistUses lower dats attrs).foldl registerCodelist s.codelists
  outwardIdentifier : s'.outwardIdentifier =
    ((attrs.filter (·.isIdentifikasjon dats)).getLast?.map (lokalidPath lower)).or
      s.outwardIdentifier
  serverManaged : ∀ path, path ∈ s'.serverManaged.map Prod.fst ↔
    path ∈ s.serverManaged.map Prod.fst ∨ path ∈ attrs.flatMap (handedPaths lower dats)

variable {lower dats}

theorem allEmitted_append (as bs : List QmsAttribute) :
    allEmitted lower dats (as ++ bs) = allEmitted lower dats as ++ allEmitted lower dats bs := by
  induction as with
  | nil => rw [allEmitted]; rfl
  | cons a as ih => rw [List.cons_append, allEmitted, allEmitted, ih, List.append_assoc]

theorem allCodelistUses_append (as bs : List QmsAttribute) :
    allCodelistUses lower dats (as ++ bs) =
      allCodelistUses lower dats as ++ allCodelistUses lower dats bs := by
  induction as with
  | nil => rw [allCodelistUses]; rfl
  | cons a as ih => rw [List.cons_append, allCodelistUses, allCodelistUses, ih, List.append_assoc]

theorem lokalidPath_eq (attr : QmsAttribute) :
    s!"{safeId lower attr.name}.lokalid" = lokalidPath lower attr := by
  rw [lokalidPath, String.append_assoc]
  rfl

theorem versjonidPath_eq (attr : QmsAttribute) :
    s!"{safeId lower attr.name}.versjonid" = versjonidPath lower attr := by
  rw [versjonidPath, String.append_assoc]
  rfl

theorem isServerManaged_eq (attr : QmsAttribute) : attr.isServerManaged dats =
    ((dats.lookup attr.uuid).bind fun dat =>
      datScalarServerManaged.lookup dat.typeName).isSome := by
  rw [QmsAttribute.isServerManaged]
  cases dats.lookup attr.uuid <;> rfl

theorem isIdentifikasjon_iff {attr : QmsAttribute} : attr.isIdentifikasjon dats = true ↔
    attr.type = "Struct" ∧
      (dats.lookup attr.uuid).map (·.typeName) = some fkbIdentifikasjonTypename := by
  rw [QmsAttribute.isIdentifikasjon, Bool.and_eq_true, decide_eq_true_eq]
  cases dats.lookup attr.uuid <;> simp

/-- The type name of an `Identifikasjon` is not that of a scalar. -/
theorem isIdentifikasjon_of_isServerManaged {attr : QmsAttribute}
    (h : attr.isServerManaged dats = true) : attr.isIdentifikasjon dats = false := by
  by_contra hident
  rw [Bool.not_eq_false] at hident
  obtain ⟨dat, hdat, hname⟩ := Option.map_eq_some_iff.mp (isIdentifikasjon_iff.mp hident).2
  rw [isServerManaged_eq, hdat, Option.bind_some, hname] at h
  exact absurd h (by decide)

namespace Conversion

theorem Takes.nil (s : Conversion) : Takes lower dats [] s s := by
  refine ⟨?_, ?_, rfl, fun path => ?_⟩
  · rw [allEmitted, List.append_nil]
  · rw [allCodelistUses, List.foldl_nil]
  · simp

theorem Takes.append {as bs : List QmsAttribute} {s s' s'' : Conversion}
    (has : Takes lower dats as s s') (hbs : Takes lower dats bs s' s'') :
    Takes lower dats (as ++ bs) s s'' := by
  refine ⟨?_, ?_, ?_, fun path => ?_⟩
  · rw [hbs.fields, has.fields, allEmitted_append, List.append_assoc]
  · rw [hbs.codelists, has.codelists, allCodelistUses_append, List.foldl_append]
  · -- the last `Identifikasjon` is that of the second part, if it has one
    rw [hbs.outwardIdentifier, has.outwardIdentifier, List.filter_append, List.getLast?_append,
      ← Option.or_assoc]
    cases (bs.filter (·.isIdentifikasjon dats)).getLast? <;> rfl
  · rw [hbs.serverManaged, has.serverManaged, List.flatMap_append, List.mem_append, or_assoc]

/-- What `_convert_attr` does to the variables. -/
theorem append_spec (s : Conversion) (attr : QmsAttribute) :
    s.append lower dats attr =
      { s with
        codelists := (codelistUses lower dats attr).foldl registerCodelist s.codelists
        fields := s.fields ++ (emitted lower dats attr).toList } := by
  rw [append, convertAttr_eq]

theorem mem_manage {s : Conversion} {path path' : String} {token : ServerManagedToken} :
    path' ∈ (s.manage path token).serverManaged.map Prod.fst ↔
      path' ∈ s.serverManaged.map Prod.fst ∨ path' = path := by
  rw [or_comm]
  exact keys_dictSet s.serverManaged path path' token

/-- One attribute of the loop. -/
theorem takes_step (s : Conversion) (attr : QmsAttribute) :
    Takes lower dats [attr] s (s.step lower dats attr) := by
  have hemitted : allEmitted lower dats [attr] = (emitted lower dats attr).toList := by
    rw [allEmitted, allEmitted, List.append_nil]
  have huses : allCodelistUses lower dats [attr] = codelistUses lower dats attr := by
    rw [allCodelistUses, allCodelistUses, List.append_nil]
  have hpaths : [attr].flatMap (handedPaths lower dats) = handedPaths lower dats attr :=
    List.flatMap_singleton _ _
  rw [step]
  cases htoken : (dats.lookup attr.uuid).bind fun dat =>
      datScalarServerManaged.lookup dat.typeName with
  | some token =>
    -- a scalar that the server manages
    have hmanaged : attr.isServerManaged dats = true := by rw [isServerManaged_eq, htoken]; rfl
    have hident := isIdentifikasjon_of_isServerManaged hmanaged
    simp only [append_spec]
    refine ⟨?_, ?_, ?_, fun path => ?_⟩
    · rw [hemitted]
      rfl
    · rw [huses]
      rfl
    · rw [List.filter_singleton, hident]
      rfl
    · rw [hpaths, handedPaths, if_pos hmanaged, List.mem_singleton]
      exact mem_manage
  | none =>
    have hmanaged : attr.isServerManaged dats = false := by rw [isServerManaged_eq, htoken]; rfl
    by_cases hident : attr.isIdentifikasjon dats = true
    · simp only [if_pos (isIdentifikasjon_iff.mp hident), append_spec]
      refine ⟨?_, ?_, ?_, fun path => ?_⟩
      · rw [hemitted]
        rfl
      · rw [huses]
        rfl
      · rw [List.filter_singleton, hident, lokalidPath_eq]
        rfl
      · rw [hpaths, handedPaths, hmanaged, if_neg Bool.false_ne_true, if_pos hident,
          List.mem_singleton, ← versjonidPath_eq]
        exact mem_manage
    · simp only [if_neg fun h => hident (isIdentifikasjon_iff.mpr h), append_spec]
      refine ⟨?_, ?_, ?_, fun path => ?_⟩
      · rw [hemitted]
      · rw [huses]
      · rw [List.filter_singleton, Bool.eq_false_iff.mpr hident]
        rfl
      · rw [hpaths, handedPaths, hmanaged, if_neg Bool.false_ne_true, if_neg hident]
        simp

variable (lower dats) in
/-- The loop of `_convert_feature_type`. -/
theorem takes_foldl (attrs : List QmsAttribute) (s : Conversion) :
    Takes lower dats attrs s (attrs.foldl (step lower dats) s) := by
  induction attrs generalizing s with
  | nil => exact Takes.nil s
  | cons attr attrs ih => exact (takes_step s attr).append (ih (s.step lower dats attr))

end Conversion

end Loop

/-! ### The document -/

section Document

variable {lower : String → String}

variable (lower) in
/-- A collection of the document, against its feature type. -/
structure ConvertedFrom (dats : List (String × DatEntry)) (ft : FeatureType)
    (doc : CollectionDoc) : Prop where
  name : doc.name = safeId lower ft.name
  fields : doc.fields = allEmitted lower dats ft.attributeTypes
  outwardIdentifier : doc.outwardIdentifier =
    (ft.attributeTypes.filter (·.isIdentifikasjon dats)).getLast?.map (lokalidPath lower)
  serverManaged : ∀ path, path ∈ doc.serverManaged.map Prod.fst ↔
    path ∈ ft.attributeTypes.flatMap (handedPaths lower dats)
  derived : doc.geometry.derived = none

variable (lower) in
theorem convertFeatureType_spec (dats : List (String × DatEntry)) (srid : ℤ) (hasZ : Bool)
    (ft : FeatureType) (codelists : List CodeList) :
    ConvertedFrom lower dats ft (convertFeatureType lower dats srid hasZ ft codelists).1 ∧
      (convertFeatureType lower dats srid hasZ ft codelists).2 =
        (allCodelistUses lower dats ft.attributeTypes).foldl registerCodelist codelists := by
  have htakes := Conversion.takes_foldl lower dats ft.attributeTypes
    (.start codelists)
  refine ⟨⟨rfl, htakes.fields, ?_, fun path => ?_, rfl⟩, htakes.codelists⟩
  · exact htakes.outwardIdentifier.trans (Option.or_none)
  · refine (htakes.serverManaged path).trans (or_iff_right ?_)
    exact List.not_mem_nil

variable (lower) in
theorem foldl_convertNext (dats : List (String × DatEntry)) (srid : ℤ) (hasZ : Bool)
    (fts : List FeatureType) (s : List CollectionDoc × List CodeList) :
    ∃ docs, List.Forall₂ (ConvertedFrom lower dats) fts docs ∧
      fts.foldl (convertNext lower dats srid hasZ) s =
        (s.1 ++ docs, (fts.flatMap fun ft => allCodelistUses lower dats ft.attributeTypes).foldl
          registerCodelist s.2) := by
  induction fts generalizing s with
  | nil => exact ⟨[], .nil, by simp⟩
  | cons ft fts ih =>
    obtain ⟨hdoc, hcodelists⟩ := convertFeatureType_spec lower dats srid hasZ ft s.2
    obtain ⟨docs, hdocs, hfold⟩ := ih (convertNext lower dats srid hasZ s ft)
    refine ⟨_ :: docs, .cons hdoc hdocs, ?_⟩
    rw [List.foldl_cons, hfold, List.flatMap_cons, List.foldl_append, ← hcodelists]
    show (s.1 ++ [_] ++ docs, _) = _
    rw [List.append_assoc]
    rfl

variable (lower) in
/-- **The document has one collection for each feature type, and the code lists of the
schema, each under its first values.** -/
theorem convertedDoc_spec (qms : Qms) (datasetName : SafeIdentifier) (srid : ℤ) (hasZ : Bool) :
    List.Forall₂ (ConvertedFrom lower qms.datByUuid) qms.featureTypes
        (convertedDoc lower qms datasetName srid hasZ).collections ∧
      (convertedDoc lower qms datasetName srid hasZ).codelists =
        (qms.codelistUses lower).foldl registerCodelist [] := by
  obtain ⟨docs, hdocs, hfold⟩ := foldl_convertNext lower qms.datByUuid srid hasZ
    qms.featureTypes ([], [])
  rw [convertedDoc, hfold]
  exact ⟨hdocs, rfl⟩

/-! ### The code lists -/

theorem mem_registerCodelist {codelists : List CodeList} {cl cl' : CodeList}
    (h : cl' ∈ registerCodelist codelists cl) : cl' ∈ codelists ∨ cl' = cl := by
  rw [registerCodelist] at h
  split at h
  · exact .inl h
  · exact (List.mem_append.mp h).imp_right List.mem_singleton.mp

theorem names_registerCodelist {codelists : List CodeList} {cl : CodeList} {name : SafeIdentifier} :
    name ∈ (registerCodelist codelists cl).map (·.name) ↔
      name ∈ codelists.map (·.name) ∨ name = cl.name := by
  rw [registerCodelist]
  split
  · next h => exact ⟨.inl, fun h' => h'.elim id fun he => he ▸ h⟩
  · simp

theorem mem_foldl_registerCodelist {uses codelists : List CodeList} {cl : CodeList}
    (h : cl ∈ uses.foldl registerCodelist codelists) : cl ∈ codelists ∨ cl ∈ uses := by
  induction uses generalizing codelists with
  | nil => exact .inl h
  | cons u uses ih =>
    rcases ih h with hmem | hmem
    · rcases mem_registerCodelist hmem with hmem | rfl
      · exact .inl hmem
      · exact .inr List.mem_cons_self
    · exact .inr (List.mem_cons_of_mem u hmem)

theorem names_foldl_registerCodelist {uses codelists : List CodeList} {name : SafeIdentifier} :
    name ∈ (uses.foldl registerCodelist codelists).map (·.name) ↔
      name ∈ codelists.map (·.name) ∨ name ∈ uses.map (·.name) := by
  induction uses generalizing codelists with
  | nil => simp
  | cons u uses ih =>
    rw [List.foldl_cons, ih, names_registerCodelist, List.map_cons, List.mem_cons, or_assoc]

/-- What the loader looks up is a code list of the schema. -/
theorem lookup_allCodelists {dataset : DatasetDef} {uses : List CodeList}
    (h : dataset.codelists = uses.foldl registerCodelist []) {u : CodeList} (hu : u ∈ uses) :
    ∃ cl ∈ uses, cl.name = u.name ∧
      (dataset.allCodelists Commons.empty).lookup u.name.1 = some cl := by
  have hall : dataset.allCodelists Commons.empty =
      dictOf ((uses.foldl registerCodelist []).map fun c => (c.name.1, c)) := by
    rw [DatasetDef.allCodelists, h]
    rfl
  have hname : u.name.1 ∈
      ((uses.foldl registerCodelist []).map fun c => (c.name.1, c)).map Prod.fst := by
    have hmem : u.name ∈ (uses.foldl registerCodelist []).map (·.name) :=
      names_foldl_registerCodelist.mpr (.inr (List.mem_map_of_mem hu))
    obtain ⟨cl, hcl, hname⟩ := List.mem_map.mp hmem
    exact List.mem_map.mpr ⟨_, List.mem_map_of_mem hcl, congrArg Subtype.val hname⟩
  obtain ⟨cl, hcl⟩ := Option.isSome_iff_exists.mp ((lookup_dictOf_isSome _ _).mpr hname)
  obtain ⟨c, hc, heq⟩ := List.mem_map.mp (mem_dictOf (mem_of_lookup hcl))
  obtain ⟨hsame, rfl⟩ := Prod.mk.inj heq
  refine ⟨c, (mem_foldl_registerCodelist hc).resolve_left List.not_mem_nil, Subtype.ext hsame, ?_⟩
  rw [hall, hcl]

/-- The fields keep their values when code lists of one identifier agree. -/
theorem kept_iff_agreeing {dataset : DatasetDef} {uses : List CodeList}
    (h : dataset.codelists = uses.foldl registerCodelist []) :
    Kept (dataset.allCodelists Commons.empty) uses ↔ Agreeing uses := by
  constructor
  · intro hkept u hu v hv huv
    obtain ⟨cl, -, -, hcl⟩ := lookup_allCodelists h hu
    rw [← hkept u hu cl hcl]
    rw [huv] at hcl
    exact hkept v hv cl hcl
  · intro hagree u hu cl hcl
    obtain ⟨cl', hcl', hname, hlookup⟩ := lookup_allCodelists h hu
    rw [hlookup] at hcl
    cases hcl
    exact hagree cl hcl' u hu hname

end Document

/-! ### Loading -/

/-- A definition, against its feature type. -/
structure DescribedBy (lower : String → String) (dats : List (String × DatEntry))
    (ft : FeatureType) (coll : CollectionDef) : Prop where
  name : coll.name = safeId lower ft.name
  fields : coll.fields = allEmitted lower dats ft.attributeTypes
  outwardIdentifier : coll.outwardIdentifier =
    (ft.attributeTypes.filter (·.isIdentifikasjon dats)).getLast?.map (lokalidPath lower)
  serverManaged : ∀ path, path ∈ coll.serverManaged.map Prod.fst ↔
    path ∈ ft.attributeTypes.flatMap (handedPaths lower dats)
  derived : coll.geometry.derived = none
  relationships : coll.relationships = []
  bounds : coll.bounds = none

section Load

variable {lower : String → String} {dats : List (String × DatEntry)}

theorem exists_validate {doc : CollectionDoc} :
    (∃ coll, doc.validate = .ok coll) ↔ ∀ fld ∈ doc.fields, fld.Valid := by
  rw [← FieldDef.validateAll_ok]
  unfold CollectionDoc.validate
  split
  · next e h =>
    rw [h]
    exact iff_of_false (fun ⟨_, h⟩ => by cases h) fun h => by cases h
  · next h => exact iff_of_true ⟨_, rfl⟩ h

theorem describedBy_of_validate {ft : FeatureType} {doc : CollectionDoc} {coll : CollectionDef}
    (hdoc : ConvertedFrom lower dats ft doc) (h : doc.validate = .ok coll) :
    DescribedBy lower dats ft coll := by
  unfold CollectionDoc.validate at h
  split at h
  · cases h
  · cases h
    exact ⟨hdoc.name, hdoc.fields, hdoc.outwardIdentifier, hdoc.serverManaged, hdoc.derived, rfl, rfl⟩

theorem mapError_eq_ok {ε ε' α : Type} {x : Except ε α} {f : ε → ε'} {a : α} :
    x.mapError f = .ok a ↔ x = .ok a := by
  cases x with
  | ok b => simp [Except.mapError]
  | error e => simp [Except.mapError]

/-- What `load_dataset` returns. -/
theorem loadDataset_eq_ok {yaml : Yaml} {path text : String} {doc : DatasetDoc}
    (hload : yaml.safeLoad text = .ok doc) {dataset : DatasetDef} :
    loadDataset yaml path text = .ok dataset ↔
      ∃ colls, List.Forall₂ (fun d coll => d.validate = .ok coll) doc.collections colls ∧
        dataset = { name := doc.name, collections := colls, codelists := doc.codelists } := by
  simp only [loadDataset, mapError_eq_ok, hload, ok_bind, bind_eq_ok, mapM_eq_ok_iff, Except.ok.injEq,
    eq_comm (b := dataset)]

end Load

end Geocomponents
