/-
The converter of QMS schemas (`geocomponents/convert.py`), and the check of its
documents by the loader (`load_dataset`).

* `safeId` — the identifier made of a name, safe by construction;
* `convertAttr`, `convertFeatureType`, `convertQms` — the converter, with the code
  lists found so far threaded through;
* `loadDataset` — what pydantic checks of a document, of which YAML is the text.

A schema is read with the keys that the code subscripts; those it asks for with `get`
have their defaults.  `str.lower` and YAML are parameters.
-/
import Topogdb.Geocomponents.Description

namespace Geocomponents

open Python

/-! ### Schemas -/

/-- An entry of `AttributeTypes`. -/
structure QmsAttribute where
  name : String
  type : String := ""
  uuid : String := ""
  multiplicityMin : ℤ := 0
  attributeTypes : List QmsAttribute := []

/-- An entry of `DefaultAttributeTypes`, with the values of its `CodeList`. -/
structure DatEntry where
  uuid : String
  typeName : String
  codeList : List String := []

/-- An entry of `FeatureTypes`, with the types of its `GeometryTypes`. -/
structure FeatureType where
  name : String
  geometryTypes : List String := []
  attributeTypes : List QmsAttribute := []

/-- A QMS schema. -/
structure Qms where
  featureTypes : List FeatureType := []
  defaultAttributeTypes : List DatEntry := []

/-- `_build_dat_lookup`. -/
def Qms.datByUuid (qms : Qms) : List (String × DatEntry) :=
  dictOf (qms.defaultAttributeTypes.map fun entry => (entry.uuid, entry))

/-! ### Identifiers -/

/-- `_TRANSLIT`. -/
def translit : List (Char × Char) :=
  "øæåØÆÅéèêëàáâäíìîïóòôöúùûü".toList.zip "oaeOAEeeeeaaaaiiiioooouuuu".toList

/-- `[a-z0-9_]`. -/
def isIdChar (c : Char) : Bool := c.isLower || c.isDigit || c = '_'

section Convert

variable (lower : String → String)

/-- The characters of `_safe_id`. -/
def safeIdChars (raw : String) : List Char :=
  let s := (lower (String.ofList (raw.toList.map fun c => (translit.lookup c).getD c))).toList
  let s := s.map fun c => if isIdChar c then c else '_'
  let s := s.dropWhile fun c => c.isDigit || c = '_'
  (if s.isEmpty then ['x'] else s).take 40

/-- The first character is a letter, since the others are stripped. -/
theorem isSafeIdentifier_safeIdChars (raw : String) :
    isSafeIdentifier (String.ofList (safeIdChars lower raw)) = true := by
  -- what is left after the stripping, whatever was replaced and mapped before
  obtain ⟨s, hs⟩ : ∃ s : List Char, s = (lower (String.ofList
      (raw.toList.map fun c => (translit.lookup c).getD c))).toList.map
        fun c => if isIdChar c then c else '_' := ⟨_, rfl⟩
  have hchars : ∀ c ∈ s, isIdChar c = true := by
    intro c hc
    rw [hs] at hc
    obtain ⟨c', -, rfl⟩ := List.mem_map.mp hc
    split
    · assumption
    · rfl
  rw [isSafeIdentifier, String.toList_ofList, safeIdChars]
  simp only [← hs]
  cases htail : s.dropWhile fun c => c.isDigit || decide (c = '_') with
  | nil => rfl
  | cons c cs =>
    have hmem : ∀ c' ∈ c :: cs, isIdChar c' = true := by
      intro c' hc'
      rw [← htail] at hc'
      exact hchars c' ((List.dropWhile_sublist _).subset hc')
    have hfirst : (c.isDigit || decide (c = '_')) = false := by
      have hne : s.dropWhile (fun c => c.isDigit || decide (c = '_')) ≠ [] := by
        rw [htail]
        exact List.cons_ne_nil c cs
      have hhead := List.head_dropWhile_not _ hne
      simpa only [htail, List.head_cons] using hhead
    have hlower : c.isLower = true := by
      have hc := hmem c List.mem_cons_self
      rw [isIdChar, Bool.or_assoc, hfirst, Bool.or_false] at hc
      exact hc
    show ((c.isLower || decide (c = '_')) &&
      (cs.take 39).all (fun c => c.isLower || c.isDigit || decide (c = '_')) &&
      decide ((cs.take 39).length < 40)) = true
    rw [hlower, Bool.true_or, Bool.true_and, Bool.and_eq_true]
    constructor
    · rw [List.all_eq_true]
      intro c' hc'
      exact hmem c' (List.mem_cons_of_mem c (List.mem_of_mem_take hc'))
    · rw [decide_eq_true_eq, List.length_take]
      omega

/-- `_safe_id`. -/
def safeId (raw : String) : SafeIdentifier :=
  ⟨String.ofList (safeIdChars lower raw), isSafeIdentifier_safeIdChars lower raw⟩

/-! ### Fields -/

/-- `_QMS_SCALAR_TYPES`. -/
def qmsScalarTypes : List (String × String) :=
  [("String", "string"), ("URI", "string"), ("Integer", "integer"), ("DateTime", "timestamp"),
    ("Date", "date"), ("Boolean", "boolean"), ("Real", "number"), ("Number", "number")]

/-- A code list is registered on first sight of its name. -/
def registerCodelist (codelists : List CodeList) (cl : CodeList) : List CodeList :=
  if cl.name ∈ codelists.map (·.name) then codelists else codelists ++ [cl]

variable (dats : List (String × DatEntry))

mutual

/-- `_convert_attr`. -/
def convertAttr : QmsAttribute → List CodeList → Option FieldDef × List CodeList
  | ⟨name, type, uuid, multiplicityMin, attributeTypes⟩, codelists =>
    let required := decide (1 ≤ multiplicityMin)
    if type = "CodeList" then
      match (dats.lookup uuid).filter (!·.codeList.isEmpty) with
      | some dat =>
        let clName := safeId lower dat.typeName
        (some { name := safeId lower name, codelist := some clName, required := required },
          registerCodelist codelists ⟨clName, dat.codeList⟩)
      | none =>
        (some { name := safeId lower name, type := some "string", required := required }, codelists)
    else if type = "Struct" then
      let (subFields, codelists) := convertSubAttrs attributeTypes codelists
      (some
        { name := safeId lower name, type := some "object", required := required
          fields := subFields }, codelists)
    else
      match qmsScalarTypes.lookup type with
      | none => (none, codelists)
      | some geocomponentsType =>
        (some { name := safeId lower name, type := some geocomponentsType, required := required },
          codelists)

def convertSubAttrs : List QmsAttribute → List CodeList → List FieldDef × List CodeList
  | [], codelists => ([], codelists)
  | sub :: subs, codelists =>
    let (sf, codelists) := convertAttr sub codelists
    let (sfs, codelists) := convertSubAttrs subs codelists
    (sf.toList ++ sfs, codelists)

end

/-! ### Collections -/

/-- `_GM_TO_GEOCOMPONENTS`. -/
def gmToGeocomponents : List (String × GeometryType) :=
  [("GM_Curve", .multiLineString), ("GM_Point", .multiPoint), ("GM_Surface", .multiPolygon),
    ("GM_MultiCurve", .multiLineString), ("GM_MultiPoint", .multiPoint),
    ("GM_MultiSurface", .multiPolygon)]

/-- `_DAT_SCALAR_SERVER_MANAGED`. -/
def datScalarServerManaged : List (String × ServerManagedToken) :=
  [("oppdateringsdato", .timestampIso)]

/-- `_FKB_IDENTIFIKASJON_TYPENAME`. -/
def fkbIdentifikasjonTypename : String := "Identifikasjon"

/-- A collection of a converted document; `serverManaged` is a dictionary. -/
structure CollectionDoc where
  name : SafeIdentifier
  geometry : GeometryDef
  outwardIdentifier : Option String
  serverManaged : List (String × ServerManagedToken)
  fields : List FieldDef
  serverManaged_nodup : (serverManaged.map Prod.fst).Nodup

/-- The variables of the loop of `_convert_feature_type`. -/
structure Conversion where
  codelists : List CodeList
  fields : List FieldDef
  outwardIdentifier : Option String
  serverManaged : List (String × ServerManagedToken)
  serverManaged_nodup : (serverManaged.map Prod.fst).Nodup

/-- The variables before the loop. -/
def Conversion.start (codelists : List CodeList) : Conversion where
  codelists := codelists
  fields := []
  outwardIdentifier := none
  serverManaged := []
  serverManaged_nodup := List.nodup_nil

/-- `server_managed[path] = token`. -/
def Conversion.manage (s : Conversion) (path : String) (token : ServerManagedToken) : Conversion :=
  { s with
    serverManaged := dictSet s.serverManaged path token
    serverManaged_nodup := nodup_dictSet s.serverManaged_nodup path token }

/-- `fields.append` of the converted attribute, when there is one. -/
def Conversion.append (s : Conversion) (attr : QmsAttribute) : Conversion :=
  let (fld, codelists) := convertAttr lower dats attr s.codelists
  { s with codelists := codelists, fields := s.fields ++ fld.toList }

/-- The loop of `_convert_feature_type`, for one attribute. -/
def Conversion.step (s : Conversion) (attr : QmsAttribute) : Conversion :=
  let attrName := safeId lower attr.name
  let dat := dats.lookup attr.uuid
  match dat.bind fun dat => datScalarServerManaged.lookup dat.typeName with
  | some token => (s.manage attrName token).append lower dats attr
  | none =>
    if attr.type = "Struct" ∧ dat.map (·.typeName) = some fkbIdentifikasjonTypename then
      let s := { s with outwardIdentifier := some s!"{attrName}.lokalid" }
      (s.manage s!"{attrName}.versjonid" .timestampIso).append lower dats attr
    else s.append lower dats attr

/-- `_convert_feature_type`. -/
def convertFeatureType (srid : ℤ) (hasZ : Bool) (ft : FeatureType) (codelists : List CodeList) :
    CollectionDoc × List CodeList :=
  let gmType := ft.geometryTypes.headD "GM_Curve"
  let geomType := (gmToGeocomponents.lookup gmType).getD .lineString
  let s := ft.attributeTypes.foldl (Conversion.step lower dats) (.start codelists)
  ({ name := safeId lower ft.name
     geometry := { type := geomType, srid := srid, hasZ := hasZ, derived_type := fun h => by cases h }
     outwardIdentifier := s.outwardIdentifier
     serverManaged := s.serverManaged
     fields := s.fields
     serverManaged_nodup := s.serverManaged_nodup }, s.codelists)

/-- The loop of `convert_qms`, for one feature type: the collections and the code lists. -/
def convertNext (srid : ℤ) (hasZ : Bool) (s : List CollectionDoc × List CodeList)
    (ft : FeatureType) : List CollectionDoc × List CodeList :=
  let (coll, codelists) := convertFeatureType lower dats srid hasZ ft s.2
  (s.1 ++ [coll], codelists)

end Convert

/-! ### Documents -/

/-- A converted document. -/
structure DatasetDoc where
  name : SafeIdentifier
  collections : List CollectionDoc
  codelists : List CodeList

/-- The document of `convert_qms`. -/
def convertedDoc (lower : String → String) (qms : Qms) (datasetName : SafeIdentifier) (srid : ℤ)
    (hasZ : Bool) : DatasetDoc :=
  let s := qms.featureTypes.foldl (convertNext lower qms.datByUuid srid hasZ) ([], [])
  ⟨datasetName, s.1, s.2⟩

/-- `yaml.dump` and `yaml.safe_load`, on documents. -/
structure Yaml where
  dump : DatasetDoc → String
  safeLoad : String → Except String DatasetDoc

/-- `convert_qms`. -/
def convertQms (lower : String → String) (yaml : Yaml) (qms : Qms) (datasetName : SafeIdentifier)
    (srid : ℤ) (hasZ : Bool) : String :=
  yaml.dump (convertedDoc lower qms datasetName srid hasZ)

/-! ### Loading -/

mutual

/-- `FieldDef.model_validate`, the sub-fields before the field. -/
def FieldDef.validate : FieldDef → Except String Unit
  | ⟨name, type, typeRef, codelist, required, autoIncrement, fields, indexable⟩ => do
    FieldDef.validateAll fields
    FieldDef.exactlyOneTypeSource
      ⟨name, type, typeRef, codelist, required, autoIncrement, fields, indexable⟩

def FieldDef.validateAll : List FieldDef → Except String Unit
  | [] => .ok ()
  | fld :: flds => do
    FieldDef.validate fld
    FieldDef.validateAll flds

end

mutual

theorem FieldDef.validate_ok : ∀ fld : FieldDef, fld.validate = .ok () ↔ fld.Valid
  | ⟨name, type, typeRef, codelist, required, autoIncrement, fields, indexable⟩ => by
    rw [FieldDef.validate, Except.seq_eq_ok, FieldDef.validateAll_ok fields]
    constructor
    · rintro ⟨hfields, hsource⟩
      exact .intro hsource hfields
    · rintro ⟨hsource, hfields⟩
      exact ⟨hfields, hsource⟩

theorem FieldDef.validateAll_ok : ∀ flds : List FieldDef,
    FieldDef.validateAll flds = .ok () ↔ ∀ fld ∈ flds, fld.Valid
  | [] => by simp [FieldDef.validateAll]
  | fld :: flds => by
    rw [FieldDef.validateAll, Except.seq_eq_ok, FieldDef.validate_ok fld,
      FieldDef.validateAll_ok flds, List.forall_mem_cons]

end

theorem bounds_none (b : ℕ) (h : (none : Option ℕ) = some b) : b = 1 ∨ b = 2 := by
  cases h

/-- `CollectionDef.model_validate`. -/
def CollectionDoc.validate (doc : CollectionDoc) : Except String CollectionDef :=
  match h : FieldDef.validateAll doc.fields with
  | .error e => .error e
  | .ok () =>
    .ok
      { name := doc.name
        geometry := doc.geometry
        fields := doc.fields
        outwardIdentifier := doc.outwardIdentifier
        serverManaged := doc.serverManaged
        bounds_value := bounds_none
        fields_valid := (FieldDef.validateAll_ok doc.fields).mp h
        serverManaged_nodup := doc.serverManaged_nodup }

/-- `load_dataset`, on the text of the file. -/
def loadDataset (yaml : Yaml) (path text : String) : Except PyError DatasetDef :=
  let loaded : Except String DatasetDef := do
    let doc ← yaml.safeLoad text
    let collections ← doc.collections.mapM CollectionDoc.validate
    .ok { name := doc.name, collections := collections, codelists := doc.codelists }
  loaded.mapError fun exc => .descriptionError s!"invalid dataset file {path}: {exc}"

theorem valid_of_mem_nil (field : FieldDef) (h : field ∈ []) : field.Valid :=
  absurd h List.not_mem_nil

/-- `Commons()`. -/
def Commons.empty : Commons where
  baseFields_valid := valid_of_mem_nil

end Geocomponents
