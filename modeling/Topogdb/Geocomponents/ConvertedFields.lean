/-
The fields that the converter makes of a QMS schema, and what the loader makes of them.

Identifiers are transliterated, stripped and cut, so that two names of a schema can
become one; code lists go by the identifier of their type name.

* `FieldOf`, `CollectionOf` — what a field and a collection owe to the schema;
* `Qms.Convertible` — the schemas without such a collision or a missing part;
* `emitted`, `codelistUses` — a field without the code lists threaded through, and the
  code lists that it meets;
* `emitted_valid`, `resolveField_emitted` — which of the fields pydantic takes, and what
  they resolve to.
-/
import Topogdb.Geocomponents.Convert
import Topogdb.Geocomponents.Resolution

namespace Geocomponents

open Python Except

/-! ### What a schema asks for -/

/-- The type is one that `_convert_attr` converts. -/
def QmsAttribute.isKnown (attr : QmsAttribute) : Bool :=
  attr.type = "CodeList" || attr.type = "Struct" || (qmsScalarTypes.lookup attr.type).isSome

mutual

/-- Every struct has a sub-attribute of a known type. -/
def QmsAttribute.structsFilled : QmsAttribute → Bool
  | ⟨_, type, _, _, subs⟩ => type ≠ "Struct" || (subs.any (·.isKnown) && allStructsFilled subs)

def QmsAttribute.allStructsFilled : List QmsAttribute → Bool
  | [] => true
  | attr :: attrs => structsFilled attr && allStructsFilled attrs

end

section Schema

variable (lower : String → String) (dats : List (String × DatEntry))

mutual

/-- The field is that of the attribute: it has its identifier, the values of the code
list of its own entry, and one sub-field for each sub-attribute of a known type. -/
def FieldOf : QmsAttribute → ResolvedField → Prop
  | ⟨name, type, uuid, _, subs⟩, field =>
    field.name = safeId lower name ∧
      (type = "CodeList" →
        ∀ dat, dats.lookup uuid = some dat → field.codelistValues = dat.codeList) ∧
      if type = "Struct" then FieldsOf subs field.subFields else field.subFields = []

def FieldsOf : List QmsAttribute → List ResolvedField → Prop
  | [], fields => fields = []
  | attr :: attrs, fields =>
    if attr.isKnown then
      ∃ field rest, fields = field :: rest ∧ FieldOf attr field ∧ FieldsOf attrs rest
    else FieldsOf attrs fields

end

/-- The collection is that of the feature type. -/
def CollectionOf (ft : FeatureType) (coll : ResolvedCollection) : Prop :=
  coll.name = safeId lower ft.name ∧ FieldsOf lower dats ft.attributeTypes coll.fields

/-- The identifiers of the attributes of known types. -/
def knownIds (attrs : List QmsAttribute) : List String :=
  (attrs.filter (·.isKnown)).map fun attr => (safeId lower attr.name).1

/-- The entry of the attribute is one of the scalars that the server manages. -/
def QmsAttribute.isServerManaged (attr : QmsAttribute) : Bool :=
  (dats.lookup attr.uuid).any fun dat => (datScalarServerManaged.lookup dat.typeName).isSome

/-- The attribute is an `Identifikasjon` struct. -/
def QmsAttribute.isIdentifikasjon (attr : QmsAttribute) : Bool :=
  attr.type = "Struct" &&
    (dats.lookup attr.uuid).any fun dat => dat.typeName = fkbIdentifikasjonTypename

mutual

/-- The code lists with values that the attribute and its sub-attributes name. -/
def codelistUses : QmsAttribute → List CodeList
  | ⟨_, type, uuid, _, subs⟩ =>
    if type = "CodeList" then
      ((dats.lookup uuid).filter (!·.codeList.isEmpty)).toList.map fun dat =>
        ⟨safeId lower dat.typeName, dat.codeList⟩
    else if type = "Struct" then allCodelistUses subs
    else []

def allCodelistUses : List QmsAttribute → List CodeList
  | [] => []
  | attr :: attrs => codelistUses attr ++ allCodelistUses attrs

end

/-- Two code lists of one identifier have the same values. -/
def Agreeing (uses : List CodeList) : Prop :=
  ∀ u ∈ uses, ∀ v ∈ uses, u.name = v.name → u.values = v.values

instance (uses : List CodeList) : Decidable (Agreeing uses) :=
  inferInstanceAs (Decidable (∀ u ∈ uses, ∀ v ∈ uses, u.name = v.name → u.values = v.values))

/-- The identifiers of a feature type are apart, and all that its collection refers to
is there. -/
structure FeatureType.Resolvable (ft : FeatureType) : Prop where
  name_unreserved : (safeId lower ft.name).1 ∉ reservedCollectionNames
  ids_nodup : (knownIds lower ft.attributeTypes).Nodup
  serverManaged : ∀ attr ∈ ft.attributeTypes, attr.isServerManaged dats = true →
    (safeId lower attr.name).1 ∈ knownIds lower ft.attributeTypes
  versjonid : ∀ attr ∈ ft.attributeTypes, attr.isIdentifikasjon dats = true →
    "versjonid" ∈ knownIds lower attr.attributeTypes
  lokalid : ∀ attr ∈ (ft.attributeTypes.filter (·.isIdentifikasjon dats)).getLast?,
    "lokalid" ∈ knownIds lower attr.attributeTypes

instance (ft : FeatureType) : Decidable (ft.Resolvable lower dats) :=
  decidable_of_iff
    ((safeId lower ft.name).1 ∉ reservedCollectionNames ∧
      (knownIds lower ft.attributeTypes).Nodup ∧
      (∀ attr ∈ ft.attributeTypes, attr.isServerManaged dats = true →
        (safeId lower attr.name).1 ∈ knownIds lower ft.attributeTypes) ∧
      (∀ attr ∈ ft.attributeTypes, attr.isIdentifikasjon dats = true →
        "versjonid" ∈ knownIds lower attr.attributeTypes) ∧
      ∀ attr ∈ (ft.attributeTypes.filter (·.isIdentifikasjon dats)).getLast?,
        "lokalid" ∈ knownIds lower attr.attributeTypes)
    ⟨fun ⟨h, h', hs, hv, hl⟩ => ⟨h, h', hs, hv, hl⟩, fun ⟨h, h', hs, hv, hl⟩ => ⟨h, h', hs, hv, hl⟩⟩

/-- The code lists with values of a schema. -/
def Qms.codelistUses (qms : Qms) : List CodeList :=
  qms.featureTypes.flatMap fun ft => allCodelistUses lower qms.datByUuid ft.attributeTypes

/-- No two names of the schema collide, and no path leads nowhere. -/
structure Qms.Convertible (qms : Qms) : Prop where
  structs : ∀ ft ∈ qms.featureTypes, QmsAttribute.allStructsFilled ft.attributeTypes = true
  featureTypes : ∀ ft ∈ qms.featureTypes, ft.Resolvable lower qms.datByUuid
  codelists : Agreeing (qms.codelistUses lower)

instance (qms : Qms) : Decidable (qms.Convertible lower) :=
  decidable_of_iff
    ((∀ ft ∈ qms.featureTypes, QmsAttribute.allStructsFilled ft.attributeTypes = true) ∧
      (∀ ft ∈ qms.featureTypes, ft.Resolvable lower qms.datByUuid) ∧
      Agreeing (qms.codelistUses lower))
    ⟨fun ⟨h, h', ha⟩ => ⟨h, h', ha⟩, fun ⟨h, h', ha⟩ => ⟨h, h', ha⟩⟩

end Schema

/-! ### Fields without the code lists -/

section Emitted

variable {lower : String → String} {dats : List (String × DatEntry)}

variable (lower dats) in
mutual

/-- The field of an attribute. -/
def emitted : QmsAttribute → Option FieldDef
  | ⟨name, type, uuid, multiplicityMin, subs⟩ =>
    let required := decide (1 ≤ multiplicityMin)
    if type = "CodeList" then
      match (dats.lookup uuid).filter (!·.codeList.isEmpty) with
      | some dat =>
        some
          { name := safeId lower name, codelist := some (safeId lower dat.typeName)
            required := required }
      | none => some { name := safeId lower name, type := some "string", required := required }
    else if type = "Struct" then
      some
        { name := safeId lower name, type := some "object", required := required
          fields := allEmitted subs }
    else
      (qmsScalarTypes.lookup type).map fun t =>
        { name := safeId lower name, type := some t, required := required }

def allEmitted : List QmsAttribute → List FieldDef
  | [] => []
  | attr :: attrs => (emitted attr).toList ++ allEmitted attrs

end

mutual

/-- What is found of the code lists does not change the field. -/
theorem convertAttr_eq : ∀ (attr : QmsAttribute) (codelists : List CodeList),
    convertAttr lower dats attr codelists =
      (emitted lower dats attr, (codelistUses lower dats attr).foldl registerCodelist codelists)
  | ⟨name, type, uuid, multiplicityMin, subs⟩, codelists => by
    rw [convertAttr, emitted, codelistUses]
    by_cases hcode : type = "CodeList"
    · simp only [if_pos hcode]
      cases (dats.lookup uuid).filter (!·.codeList.isEmpty) <;> rfl
    · by_cases hstruct : type = "Struct"
      · simp only [if_neg hcode, if_pos hstruct, convertSubAttrs_eq subs codelists]
      · simp only [if_neg hcode, if_neg hstruct]
        cases qmsScalarTypes.lookup type <;> rfl

theorem convertSubAttrs_eq : ∀ (attrs : List QmsAttribute) (codelists : List CodeList),
    convertSubAttrs lower dats attrs codelists =
      (allEmitted lower dats attrs,
        (allCodelistUses lower dats attrs).foldl registerCodelist codelists)
  | [], codelists => by rw [convertSubAttrs, allEmitted, allCodelistUses, List.foldl_nil]
  | attr :: attrs, codelists => by
    rw [convertSubAttrs, allEmitted, allCodelistUses, List.foldl_append]
    simp only [convertAttr_eq attr, convertSubAttrs_eq attrs]

end

/-- What a field is emitted from: a code list with values or without, a struct or a scalar. -/
theorem emitted_cases {attr : QmsAttribute} {fld : FieldDef}
    (h : emitted lower dats attr = some fld) :
    (attr.type = "CodeList" ∧
      ∃ dat, (dats.lookup attr.uuid).filter (!·.codeList.isEmpty) = some dat ∧
        fld =
          { name := safeId lower attr.name, codelist := some (safeId lower dat.typeName)
            required := decide (1 ≤ attr.multiplicityMin) }) ∨
    (attr.type = "CodeList" ∧ (dats.lookup attr.uuid).filter (!·.codeList.isEmpty) = none ∧
      fld =
        { name := safeId lower attr.name, type := some "string"
          required := decide (1 ≤ attr.multiplicityMin) }) ∨
    (attr.type = "Struct" ∧
      fld =
        { name := safeId lower attr.name, type := some "object"
          required := decide (1 ≤ attr.multiplicityMin)
          fields := allEmitted lower dats attr.attributeTypes }) ∨
    (attr.type ≠ "CodeList" ∧ attr.type ≠ "Struct" ∧
      ∃ t, qmsScalarTypes.lookup attr.type = some t ∧
        fld =
          { name := safeId lower attr.name, type := some t
            required := decide (1 ≤ attr.multiplicityMin) }) := by
  obtain ⟨name, type, uuid, multiplicityMin, subs⟩ := attr
  rw [emitted] at h
  by_cases hcode : type = "CodeList"
  · rw [if_pos hcode] at h
    cases hdat : (dats.lookup uuid).filter (!·.codeList.isEmpty) with
    | some dat =>
      rw [hdat] at h
      exact .inl ⟨hcode, dat, rfl, (Option.some.inj h).symm⟩
    | none =>
      rw [hdat] at h
      exact .inr (.inl ⟨hcode, rfl, (Option.some.inj h).symm⟩)
  · rw [if_neg hcode] at h
    by_cases hstruct : type = "Struct"
    · rw [if_pos hstruct] at h
      exact .inr (.inr (.inl ⟨hstruct, (Option.some.inj h).symm⟩))
    · rw [if_neg hstruct] at h
      obtain ⟨t, ht, hfld⟩ := Option.map_eq_some_iff.mp h
      exact .inr (.inr (.inr ⟨hcode, hstruct, t, ht, hfld.symm⟩))

variable (lower dats) in
/-- A field is emitted exactly for the known types, under its identifier. -/
theorem emitted_name (attr : QmsAttribute) :
    (emitted lower dats attr).map (·.name) =
      if attr.isKnown then some (safeId lower attr.name) else none := by
  obtain ⟨name, type, uuid, multiplicityMin, subs⟩ := attr
  rw [emitted, QmsAttribute.isKnown]
  by_cases hcode : type = "CodeList"
  · simp only [hcode, if_true, decide_true, Bool.true_or]
    cases (dats.lookup uuid).filter (!·.codeList.isEmpty) <;> rfl
  · by_cases hstruct : type = "Struct"
    · simp [hstruct]
    · simp only [hcode, hstruct, if_false, decide_false, Bool.false_or]
      cases qmsScalarTypes.lookup type <;> rfl

variable (lower dats) in
theorem allEmitted_names (attrs : List QmsAttribute) :
    (allEmitted lower dats attrs).map (·.name.1) = knownIds lower attrs := by
  induction attrs with
  | nil => rw [allEmitted]; rfl
  | cons attr attrs ih =>
    have hname := emitted_name lower dats attr
    rw [allEmitted, List.map_append, ih, knownIds, knownIds, List.filter_cons]
    cases hemitted : emitted lower dats attr with
    | none =>
      rw [hemitted] at hname
      have hunknown : attr.isKnown = false := by
        by_contra hknown
        rw [Bool.not_eq_false] at hknown
        rw [hknown] at hname
        cases hname
      rw [hunknown]
      rfl
    | some fld =>
      rw [hemitted] at hname
      by_cases hknown : attr.isKnown = true
      · rw [if_pos hknown] at hname
        rw [if_pos hknown, List.map_cons, ← Option.some.inj hname]
        rfl
      · rw [if_neg hknown] at hname
        cases hname

variable (lower dats) in
/-- No field is emitted for an unknown type, which is not that of a struct. -/
theorem isKnown_of_emitted (attr : QmsAttribute) :
    (emitted lower dats attr).isSome = attr.isKnown := by
  have hname := congrArg Option.isSome (emitted_name lower dats attr)
  rw [Option.isSome_map] at hname
  rw [hname]
  split
  · next h => exact h.symm
  · next h => exact (Bool.not_eq_true _ ▸ h).symm

theorem structsFilled_of_unknown {attr : QmsAttribute} (h : attr.isKnown = false) :
    attr.structsFilled = true := by
  obtain ⟨name, type, uuid, multiplicityMin, subs⟩ := attr
  rw [QmsAttribute.isKnown, Bool.or_eq_false_iff, Bool.or_eq_false_iff] at h
  have hstruct : type ≠ "Struct" := of_decide_eq_false h.1.2
  simp [QmsAttribute.structsFilled, hstruct]

theorem codelistUses_of_unknown {attr : QmsAttribute} (h : attr.isKnown = false) :
    codelistUses lower dats attr = [] := by
  obtain ⟨name, type, uuid, multiplicityMin, subs⟩ := attr
  rw [QmsAttribute.isKnown, Bool.or_eq_false_iff, Bool.or_eq_false_iff] at h
  have hcode : type ≠ "CodeList" := of_decide_eq_false h.1.1
  have hstruct : type ≠ "Struct" := of_decide_eq_false h.1.2
  rw [codelistUses, if_neg hcode, if_neg hstruct]

/-! ### Acceptance by pydantic -/

theorem valid_of_leaf {fld : FieldDef} (hleaf : fld.fields = [])
    (h : fld.exactlyOneTypeSource = .ok ()) : fld.Valid := by
  refine .intro h fun sub hsub => ?_
  rw [hleaf] at hsub
  exact absurd hsub List.not_mem_nil

/-- The scalar types are built in, and none of them is an object. -/
theorem builtin_of_scalar {type t : String} (h : qmsScalarTypes.lookup type = some t) :
    t ≠ "object" ∧ (builtinSqlTypes.lookup t).isSome = true := by
  have hall : ∀ e ∈ qmsScalarTypes, e.2 ≠ "object" ∧ (builtinSqlTypes.lookup e.2).isSome = true := by
    decide +kernel
  exact hall _ (mem_of_lookup h)

theorem exactlyOneTypeSource_scalar {name : SafeIdentifier} {t : String} {required : Bool}
    (ht : t ≠ "object") : FieldDef.exactlyOneTypeSource
      { name := name, type := some t, required := required } = .ok () := by
  unfold FieldDef.exactlyOneTypeSource
  simp only [Option.some.injEq, if_neg ht]
  rfl

theorem valid_object {name : SafeIdentifier} {required : Bool} {fields : List FieldDef} :
    FieldDef.Valid { name := name, type := some "object", required := required, fields := fields } ↔
      fields ≠ [] ∧ ∀ sub ∈ fields, sub.Valid := by
  have hsource : FieldDef.exactlyOneTypeSource
      { name := name, type := some "object", required := required, fields := fields } = .ok () ↔
        fields ≠ [] := by
    unfold FieldDef.exactlyOneTypeSource
    cases fields with
    | nil => exact iff_of_false (fun h => by cases h) fun h => h rfl
    | cons fld flds => exact iff_of_true rfl (List.cons_ne_nil fld flds)
  rw [← hsource]
  constructor
  · rintro ⟨h, hsubs⟩
    exact ⟨h, hsubs⟩
  · rintro ⟨h, hsubs⟩
    exact .intro h hsubs

theorem allEmitted_ne_nil {attrs : List QmsAttribute} :
    allEmitted lower dats attrs ≠ [] ↔ attrs.any (·.isKnown) = true := by
  rw [ne_eq, ← List.map_eq_nil_iff (f := fun fld : FieldDef => fld.name.1), allEmitted_names,
    knownIds, List.map_eq_nil_iff, List.filter_eq_nil_iff, List.any_eq_true]
  push Not
  rfl

mutual

/-- An emitted field is valid when its structs are filled. -/
theorem emitted_valid : ∀ (attr : QmsAttribute) {fld : FieldDef},
    emitted lower dats attr = some fld → (fld.Valid ↔ attr.structsFilled = true)
  | ⟨name, type, uuid, multiplicityMin, subs⟩, fld, h => by
    have hother : type ≠ "Struct" →
        QmsAttribute.structsFilled ⟨name, type, uuid, multiplicityMin, subs⟩ = true := by
      intro hne
      simp [QmsAttribute.structsFilled, hne]
    obtain ⟨hcode, dat, -, rfl⟩ | ⟨hcode, -, rfl⟩ | ⟨hstruct, rfl⟩ | ⟨-, hstruct, t, ht, rfl⟩ :=
      emitted_cases h
    · exact iff_of_true (valid_of_leaf rfl rfl) (hother (by simp [show type = _ from hcode]))
    · exact iff_of_true (valid_of_leaf rfl (exactlyOneTypeSource_scalar (by simp)))
        (hother (by simp [show type = _ from hcode]))
    · rw [valid_object, allEmitted_ne_nil, allEmitted_valid subs, QmsAttribute.structsFilled,
        show type = _ from hstruct]
      simp
    · exact iff_of_true
        (valid_of_leaf rfl (exactlyOneTypeSource_scalar (builtin_of_scalar ht).1)) (hother hstruct)

theorem allEmitted_valid : ∀ attrs : List QmsAttribute,
    (∀ fld ∈ allEmitted lower dats attrs, fld.Valid) ↔ QmsAttribute.allStructsFilled attrs = true
  | [] => by simp [allEmitted, QmsAttribute.allStructsFilled]
  | attr :: attrs => by
    rw [allEmitted, QmsAttribute.allStructsFilled, Bool.and_eq_true, ← allEmitted_valid attrs,
      List.forall_mem_append]
    refine and_congr_left fun _ => ?_
    cases hemitted : emitted lower dats attr with
    | none =>
      have hunknown := isKnown_of_emitted lower dats attr
      rw [hemitted] at hunknown
      exact iff_of_true (by simp) (structsFilled_of_unknown hunknown.symm)
    | some fld =>
      rw [Option.toList_some, List.forall_mem_singleton]
      exact emitted_valid attr hemitted

end

/-! ### Resolution of the fields -/

section Resolve

variable {types : List (String × FieldType)} {codelists : List (String × CodeList)}

variable (codelists) in
/-- Every code list that is named can be looked up. -/
def Listed (uses : List CodeList) : Prop := ∀ u ∈ uses, ∃ cl, codelists.lookup u.name.1 = some cl

variable (codelists) in
/-- What is looked up has the values that were meant. -/
def Kept (uses : List CodeList) : Prop :=
  ∀ u ∈ uses, ∀ cl, codelists.lookup u.name.1 = some cl → cl.values = u.values

theorem kept_append {us vs : List CodeList} :
    Kept codelists (us ++ vs) ↔ Kept codelists us ∧ Kept codelists vs := List.forall_mem_append

/-- A resolved field and its sub-fields are called as those of the definition. -/
structure SameNames (fld : FieldDef) (r : ResolvedField) : Prop where
  name : r.name = fld.name
  subNames : r.subFields.map (·.name) = fld.fields.map (·.name.1)

theorem resolveField_leaf {place : String} {fld : FieldDef} (h : fld.type ≠ some "object") :
    resolveField types codelists place fld = resolveLeaf types codelists place fld := by
  obtain ⟨name, type, typeRef, codelist, required, autoIncrement, fields, indexable⟩ := fld
  rw [resolveField, if_neg h]

variable (types codelists) in
theorem resolveField_scalar (place : String) (name : SafeIdentifier) (required : Bool) {t : String}
    (ht : t ≠ "object") (hbuiltin : (builtinSqlTypes.lookup t).isSome = true) :
    ∃ sqlType, resolveField types codelists place
        { name := name, type := some t, required := required } =
      .ok { name := name, sqlType := sqlType, required := required } := by
  obtain ⟨sqlType, hlookup⟩ := Option.isSome_iff_exists.mp hbuiltin
  refine ⟨sqlType, ?_⟩
  rw [resolveField_leaf (by simpa using ht), resolveLeaf]
  simp only [hlookup]

theorem resolveField_codelist {place codelist : String} {name : SafeIdentifier} {required : Bool}
    {cl : CodeList} (hcl : codelists.lookup codelist = some cl) :
    resolveField types codelists place
        { name := name, codelist := some codelist, required := required } =
      .ok { name := name, sqlType := "text", required := required
            codelistValues := cl.values, codelist := some codelist } := by
  rw [resolveField_leaf (by simp), resolveLeaf]
  simp only [hcl]

mutual

/-- An emitted field is resolved when its code lists can be looked up, and it is what
the attribute asks for when they have the right values. -/
theorem resolveField_emitted : ∀ (attr : QmsAttribute) {fld : FieldDef},
    emitted lower dats attr = some fld → Listed codelists (codelistUses lower dats attr) →
      ∀ place : String, ∃ r, resolveField types codelists place fld = .ok r ∧ SameNames fld r ∧
        (FieldOf lower dats attr r ↔ Kept codelists (codelistUses lower dats attr))
  | ⟨name, type, uuid, multiplicityMin, subs⟩, fld, h, hlisted, place => by
    rw [codelistUses] at hlisted ⊢
    obtain ⟨hcode, dat, hdat, rfl⟩ | ⟨hcode, hdat, rfl⟩ | ⟨hstruct, rfl⟩ |
      ⟨hcode, hstruct, t, ht, rfl⟩ := emitted_cases h
    · -- the field names the code list of the entry
      obtain rfl : type = "CodeList" := hcode
      simp only [if_true, show (dats.lookup uuid).filter _ = _ from hdat] at hlisted ⊢
      obtain ⟨cl, hcl⟩ := hlisted _ List.mem_cons_self
      obtain ⟨hlookup, -⟩ := Option.filter_eq_some_iff.mp hdat
      refine ⟨_, resolveField_codelist hcl, ⟨rfl, rfl⟩, ?_⟩
      simp [FieldOf, Kept, hcl, show dats.lookup uuid = _ from hlookup]
    · -- there are no values, or no entry: the field is a string
      obtain rfl : type = "CodeList" := hcode
      have hstring : (builtinSqlTypes.lookup "string").isSome = true := by decide +kernel
      obtain ⟨sqlType, hr⟩ := resolveField_scalar types codelists place (safeId lower name)
        (decide (1 ≤ multiplicityMin)) (by simp) hstring
      simp only [if_true, show (dats.lookup uuid).filter _ = _ from hdat]
      refine ⟨_, hr, ⟨rfl, rfl⟩, iff_of_true ⟨rfl, fun _ dat hlookup => ?_, rfl⟩ (by simp [Kept])⟩
      by_contra hvalues
      exact absurd hdat (by simp [hlookup, Ne.symm hvalues])
    · obtain rfl : type = "Struct" := hstruct
      simp only [String.reduceEq, if_false, if_true] at hlisted ⊢
      obtain ⟨rs, hrs, hnames, hfields⟩ := resolveSubFields_emitted subs hlisted
        s!"{place} / field '{safeId lower name}'"
      refine ⟨{ name := safeId lower name, sqlType := "jsonb", subFields := rs
                required := decide (1 ≤ multiplicityMin) }, ?_, ⟨rfl, ?_⟩, ?_⟩
      · rw [resolveField, if_pos rfl, hrs]
        rfl
      · exact (hnames.map_eq fun _ _ h => h.name.symm).symm
      · rw [← hfields, FieldOf]
        simp
    · obtain ⟨hobject, hbuiltin⟩ := builtin_of_scalar ht
      obtain ⟨sqlType, hr⟩ := resolveField_scalar types codelists place (safeId lower name)
        (decide (1 ≤ multiplicityMin)) hobject hbuiltin
      rw [if_neg hcode, if_neg hstruct]
      refine ⟨_, hr, ⟨rfl, rfl⟩, iff_of_true ⟨rfl, fun htype => absurd htype hcode, ?_⟩ (by simp [Kept])⟩
      rw [if_neg hstruct]

theorem resolveSubFields_emitted : ∀ attrs : List QmsAttribute,
    Listed codelists (allCodelistUses lower dats attrs) → ∀ place : String, ∃ rs,
      resolveSubFields types codelists place (allEmitted lower dats attrs) = .ok rs ∧
        List.Forall₂ SameNames (allEmitted lower dats attrs) rs ∧
        (FieldsOf lower dats attrs rs ↔ Kept codelists (allCodelistUses lower dats attrs))
  | [], _, place => by
    refine ⟨[], ?_, ?_, ?_⟩
    · rw [allEmitted, resolveSubFields]
    · rw [allEmitted]
      exact .nil
    · simp [FieldsOf, allCodelistUses, Kept]
  | attr :: attrs, hlisted, place => by
    rw [allCodelistUses] at hlisted ⊢
    obtain ⟨hattr, hattrs⟩ := List.forall_mem_append.mp hlisted
    obtain ⟨rs, hrs, hnames, hfields⟩ := resolveSubFields_emitted attrs hattrs place
    rw [allEmitted, kept_append, ← hfields]
    have hknown := isKnown_of_emitted lower dats attr
    cases hemitted : emitted lower dats attr with
    | none =>
      rw [hemitted] at hknown
      refine ⟨rs, hrs, hnames, ?_⟩
      rw [codelistUses_of_unknown hknown.symm, FieldsOf, ← hknown]
      simp [Kept]
    | some fld =>
      rw [hemitted] at hknown
      obtain ⟨r, hr, hname, hfield⟩ := resolveField_emitted attr hemitted hattr place
      refine ⟨r :: rs, ?_, .cons hname hnames, ?_⟩
      · show resolveSubFields types codelists place (fld :: allEmitted lower dats attrs) = _
        rw [resolveSubFields, hr, ok_bind, hrs, ok_bind]
      · rw [FieldsOf, ← hknown, ← hfield]
        simp

end

end Resolve

end Emitted

end Geocomponents
