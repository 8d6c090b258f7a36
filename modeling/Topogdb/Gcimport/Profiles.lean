/-
Import profiles (`gcimport/profiles`).

A profile maps the features of one dataset to the collections of its API.  Its
tables are looked up under casefolded names, which `__post_init__` puts into
them; a name that a table lacks is a `KeyError`.

`WellFormed` says that the tables fit together, and `builtin_wellFormed` that
the built-in profiles are: for them no lookup fails
(`WellFormed.collectionFor_keys`, `WellFormed.geometryTypeForCollection_ok`).
-/
import Topogdb.Lib.Python
import Topogdb.Lib.Raises
import Topogdb.Gcimport.Env

namespace Gcimport

open Python

/-- `ImportProfile`, as it is written down.  A collection target is one
collection or a tuple of them, here a list; properties are the members of a
JSON object. -/
structure ImportProfile where
  name : String
  title : String
  datasetApiPath : String
  targetCrs : String
  geometryType : String
  collections : List (String × List String)
  requiredFields : List (String × List String)
  identityFields : List String
  geometryTypes : List (String × String) := []
  mergeDuplicateMultilinestrings : Bool := false
  propertyTransform : Option (List (String × Json) → String → List (String × Json)) := none

/-- `d[k]`. -/
def dictGet {α : Type} (d : List (String × α)) (k : String) : Except PyError α :=
  match d.lookup k with
  | some v => .ok v
  | none => .error (.keyError k)

namespace ImportProfile

variable (env : Env) (profile : ImportProfile)

/-! ### The tables of `__post_init__` -/

def normalizedRequiredFields : List (String × List String) :=
  dictOf (profile.requiredFields.map fun e => (env.casefold e.1, e.2))

def normalizedCollections : List (String × List String) :=
  dictOf (profile.collections.map fun e => (env.casefold e.1, e.2.map env.casefold))

/-- The declared geometry types, and the profile's own for the other collections. -/
def normalizedGeometryTypes : List (String × String) :=
  (profile.normalizedRequiredFields env).foldl
    (fun d e => if (d.lookup e.1).isSome then d else d ++ [(e.1, profile.geometryType)])
    (dictOf (profile.geometryTypes.map fun e => (env.casefold e.1, e.2)))

/-! ### Lookups -/

/-- `geometry_type_for_collection`. -/
def geometryTypeForCollection (collection : String) : Except PyError String :=
  dictGet (profile.normalizedGeometryTypes env) (env.casefold collection)

/-- `geometry_match_kind`; the source type is any JSON value. -/
def geometryMatchKind (sourceGeometryType : Json) (collection : String) : Except PyError ℕ := do
  let target ← profile.geometryTypeForCollection env collection
  match sourceGeometryType with
  | .str source =>
    if source = target then pure 2
    else if source = "LineString" ∧ target = "MultiLineString" then pure 1
    else if source = "MultiLineString" ∧ target = "MultiPolygon" then pure 1
    else pure 0
  | _ => pure 0

/-- `collections_for_objtype`. -/
def collectionsForObjtype (objtype : String) : List String :=
  ((profile.normalizedCollections env).lookup (env.casefold objtype)).getD []

/-- The candidates of one match kind. -/
def matchesOfKind (geometryType : Json) (kind : ℕ) (candidates : List String) :
    Except PyError (List String) := do
  let kinds ← candidates.mapM (profile.geometryMatchKind env geometryType)
  pure (((candidates.zip kinds).filter fun c => c.2 = kind).map Prod.fst)

/-- `collection_for_objtype`; the geometry type is none when it is JSON null. -/
def collectionForObjtype (objtype : String) (geometryType : Json) :
    Except PyError (Option String) := do
  let candidates := profile.collectionsForObjtype env objtype
  match candidates with
  | [collection] => pure (some collection)
  | _ =>
    if geometryType.isNull then pure none
    else
      let exact ← profile.matchesOfKind env geometryType 2 candidates
      match exact with
      | [collection] => pure (some collection)
      | _ :: _ => pure none
      | [] =>
        let compatible ← profile.matchesOfKind env geometryType 1 candidates
        match compatible with
        | [collection] => pure (some collection)
        | _ => pure none

/-- `collection_for`. -/
def collectionFor (featureType : String) (geometryType : Json) :
    Except PyError (Option String) :=
  let token := env.casefold featureType
  if ((profile.normalizedRequiredFields env).lookup token).isSome then pure (some token)
  else profile.collectionForObjtype env featureType geometryType

/-- `properties_for_upstream`. -/
def propertiesForUpstream (properties : List (String × Json)) (collection : String) :
    List (String × Json) :=
  match profile.propertyTransform with
  | none => properties
  | some transform => transform properties (env.casefold collection)

/-- `supported_feature_types`. -/
def supportedFeatureTypes : String :=
  " or ".intercalate (sorted ((profile.normalizedCollections env).map Prod.fst ++
    (profile.normalizedRequiredFields env).map Prod.fst).dedup)

/-- `supported_objtypes`. -/
def supportedObjtypes : String :=
  " or ".intercalate (sorted ((profile.normalizedCollections env).map Prod.fst))

end ImportProfile

/-! ### FKB-Bane -/

def baneCommonRequiredFields : List String :=
  ["lokalid", "identifikasjon_navnerom", "oppdateringsdato", "datafangstdato", "medium"]

def qualityPropertyNames : List (String × String) :=
  [("kvalitet_datafangstmetode", "datafangstmetode"),
    ("kvalitet_noyaktighet", "noyaktighet"),
    ("kvalitet_synbarhet", "synbarhet"),
    ("kvalitet_datafangstmetodehoyde", "datafangstmetodehoyde"),
    ("kvalitet_noyaktighethoyde", "noyaktighethoyde")]

def identifikasjonPropertyNames : List (String × String) :=
  [("lokalid", "lokalid"),
    ("identifikasjon_navnerom", "navnerom"),
    ("identifikasjon_versjonid", "versjonid")]

/-- `_nested_string_properties`: truthy values, strings stripped. -/
def nestedStringProperties (properties : List (String × Json)) (aliases : List (String × String)) :
    List (String × Json) :=
  aliases.filterMap fun e =>
    let value :=
      match (properties.lookup e.1).getD .null with
      | .str s => Json.str (strip s)
      | value => value
    if truthy value then some (e.2, value) else none

/-- `_nested_properties`: values that are not null. -/
def nestedProperties (properties : List (String × Json)) (aliases : List (String × String)) :
    List (String × Json) :=
  aliases.filterMap fun e =>
    let value := (properties.lookup e.1).getD .null
    if value.isNull then none else some (e.2, value)

/-- `_fkb_bane_upstream_properties`. -/
def fkbBaneUpstreamProperties (properties : List (String × Json)) (_collection : String) :
    List (String × Json) :=
  let identifikasjon := nestedStringProperties properties identifikasjonPropertyNames
  let upstream :=
    if identifikasjon = [] then properties
    else dictSet properties "identifikasjon" (.obj identifikasjon)
  let kvalitet := nestedProperties upstream qualityPropertyNames
  if kvalitet = [] then upstream else dictSet upstream "kvalitet" (.obj kvalitet)

/-- `BANE_PROFILE`. -/
def baneProfile : ImportProfile :=
  { name := "fkb_bane"
    title := "FKB-Bane"
    datasetApiPath := "/datasets/fkb_bane/ogc_api"
    targetCrs := "EPSG:5973"
    geometryType := "MultiLineString"
    collections :=
      [("jernbaneplattformkant", ["jernbaneplattformkant"]),
        ("spormidt", ["spormidt"])]
    requiredFields :=
      [("jernbaneplattformkant", baneCommonRequiredFields),
        ("spormidt", baneCommonRequiredFields ++ ["jernbanetype", "hoydereferanse"])]
    identityFields := ["lokalid"]
    propertyTransform := some fkbBaneUpstreamProperties }

/-! ### FKB-Bygning -/

def lineSourceObjtypes : List String :=
  ["bygning", "bygningbru", "bygningsavgrensningtiltak", "bygningsdelelinje", "bygningslinje",
    "fiktivbygningsavgrensning", "grunnmur", "låvebru", "mønelinje", "takkant",
    "takoverbyggkant", "takplatå", "taksprang", "taksprangbunn", "trappbygg",
    "veggfrittstående", "veranda"]

def centerlineSourceObjtypes : List String := ["hjelpelinje3d"]

def areaSourceObjtypes : List String := ["annenbygning", "bygning", "takoverbygg"]

def pointSourceObjtypes : List String := ["bygning"]

def bygningCommonRequiredFields : List String :=
  ["lokalid", "identifikasjon_navnerom", "oppdateringsdato", "datafangstdato"]

/-- `_COLLECTIONS`; the last entry of a name stands. -/
def bygningCollections : List (String × List String) :=
  dictOf (lineSourceObjtypes.map (·, ["bygning"]) ++
    centerlineSourceObjtypes.map (·, ["bygning_senterlinje"]) ++
    areaSourceObjtypes.map (·, ["bygning_omrade"]) ++
    pointSourceObjtypes.map (·, ["bygning_posisjon"]) ++
    [("bygning", ["bygning", "bygning_omrade", "bygning_posisjon"])])

/-- `BYGNING_PROFILE`. -/
def bygningProfile : ImportProfile :=
  { name := "bygning"
    title := "Bygning"
    datasetApiPath := "/datasets/bygning/ogc_api"
    targetCrs := "EPSG:5972"
    geometryType := "MultiLineString"
    collections := bygningCollections
    requiredFields :=
      [("bygning", bygningCommonRequiredFields),
        ("bygning_senterlinje", bygningCommonRequiredFields),
        ("bygning_omrade", bygningCommonRequiredFields),
        ("bygning_posisjon", bygningCommonRequiredFields)]
    identityFields := ["lokalid", "identifikasjon_navnerom"]
    geometryTypes :=
      [("bygning", "MultiLineString"),
        ("bygning_senterlinje", "MultiLineString"),
        ("bygning_omrade", "MultiPolygon"),
        ("bygning_posisjon", "Point")]
    mergeDuplicateMultilinestrings := true }

/-- `BUILTIN_PROFILES`. -/
def builtinProfiles : List (String × ImportProfile) :=
  dictOf ([baneProfile, bygningProfile].map fun profile => (profile.name, profile))

/-- `get_profile`; nothing is its `ValueError`. -/
def getProfile (env : Env) (name : String) : Option ImportProfile :=
  builtinProfiles.lookup (env.casefold name)

/-! ### Profiles whose lookups succeed -/

/-- Every target of a feature type has required fields, there are identity
fields, and the transform keeps every property that is there. -/
structure ImportProfile.WellFormed (profile : ImportProfile) : Prop where
  targets : ∀ e ∈ profile.collections, ∀ t ∈ e.2, t ∈ profile.requiredFields.map Prod.fst
  identity : profile.identityFields ≠ []
  transform : ∀ f, profile.propertyTransform = some f → ∀ properties collection name,
    (properties.lookup name).isSome = true → ((f properties collection).lookup name).isSome = true

theorem fkbBaneUpstreamProperties_keeps (properties : List (String × Json)) (collection name : String)
    (h : (properties.lookup name).isSome = true) :
    ((fkbBaneUpstreamProperties properties collection).lookup name).isSome = true := by
  have hset : ∀ (d : List (String × Json)) (k : String) (v : Json) (c : Prop) [Decidable c],
      (d.lookup name).isSome = true →
      ((if c then d else dictSet d k v).lookup name).isSome = true := by
    intro d k v c _ hd
    split
    · exact hd
    · exact (lookup_dictSet_isSome d k name v).mpr (Or.inr hd)
  exact hset _ _ _ _ (hset _ _ _ _ h)

theorem baneProfile_wellFormed : baneProfile.WellFormed where
  targets := by decide
  identity := by decide
  transform := by
    rintro f ⟨⟩ properties collection name h
    exact fkbBaneUpstreamProperties_keeps properties collection name h

theorem bygningProfile_wellFormed : bygningProfile.WellFormed where
  targets := by decide
  identity := by decide
  transform := by
    rintro f ⟨⟩

/-- The profiles that a request can name. -/
theorem builtin_wellFormed {env : Env} {name : String} {profile : ImportProfile}
    (h : getProfile env name = some profile) : profile.WellFormed := by
  have hmem : (env.casefold name, profile) ∈ builtinProfiles := by
    rw [getProfile] at h
    exact mem_of_lookup h
  obtain ⟨p, hp, heq⟩ := List.mem_map.mp (mem_dictOf hmem)
  obtain rfl : p = profile := congrArg Prod.snd heq
  rcases List.mem_pair.mp hp with rfl | rfl
  · exact baneProfile_wellFormed
  · exact bygningProfile_wellFormed

namespace ImportProfile

variable {env : Env} {profile : ImportProfile}

/-- A collection that the required fields name, under its casefolded name. -/
def Declares (env : Env) (profile : ImportProfile) (collection : String) : Prop :=
  ((profile.normalizedRequiredFields env).lookup collection).isSome = true

theorem declares_iff {collection : String} :
    profile.Declares env collection ↔
      ∃ t ∈ profile.requiredFields.map Prod.fst, collection = env.casefold t := by
  rw [Declares, normalizedRequiredFields, lookup_dictOf_isSome]
  rw [List.map_map]
  constructor
  · intro h
    obtain ⟨e, he, rfl⟩ := List.mem_map.mp h
    exact ⟨e.1, List.mem_map_of_mem he, rfl⟩
  · rintro ⟨t, ht, rfl⟩
    obtain ⟨e, he, rfl⟩ := List.mem_map.mp ht
    exact List.mem_map_of_mem (f := Prod.fst ∘ fun e => (env.casefold e.1, e.2)) he

theorem Declares.casefold {collection : String} (h : profile.Declares env collection) :
    env.casefold collection = collection := by
  obtain ⟨t, -, rfl⟩ := declares_iff.mp h
  exact env.casefold_casefold t

/-- The geometry types cover the required fields: `setdefault` adds what is missing. -/
theorem keys_setdefault (entries : List (String × List String)) (d : List (String × String))
    (value k : String) (hk : k ∈ d.map Prod.fst ∨ k ∈ entries.map Prod.fst) :
    k ∈ (entries.foldl (fun d e => if (d.lookup e.1).isSome then d else d ++ [(e.1, value)])
      d).map Prod.fst := by
  induction entries generalizing d with
  | nil => simpa using hk
  | cons e entries ih =>
    rw [List.foldl_cons]
    refine ih _ ?_
    rcases hk with hk | hk
    · left
      split
      · exact hk
      · rw [List.map_append]
        exact List.mem_append_left _ hk
    · rw [List.map_cons] at hk
      rcases List.mem_cons.mp hk with rfl | hk
      · left
        split
        · next h => exact lookup_isSome_iff.mp h
        · simp
      · exact Or.inr hk

theorem geometryTypeForCollection_ok {collection : String} (h : profile.Declares env collection) :
    ∃ t, profile.geometryTypeForCollection env collection = .ok t := by
  have hkey : collection ∈ (profile.normalizedGeometryTypes env).map Prod.fst :=
    keys_setdefault _ _ _ _ (Or.inr (lookup_isSome_iff.mp h))
  obtain ⟨t, ht⟩ := Option.isSome_iff_exists.mp (lookup_isSome_iff.mpr hkey)
  refine ⟨t, ?_⟩
  rw [geometryTypeForCollection, dictGet, h.casefold, ht]

theorem WellFormed.collectionsForObjtype_declared (hp : profile.WellFormed) {objtype c : String}
    (hc : c ∈ profile.collectionsForObjtype env objtype) : profile.Declares env c := by
  rw [collectionsForObjtype] at hc
  cases hl : (profile.normalizedCollections env).lookup (env.casefold objtype) with
  | none => simp [hl] at hc
  | some targets =>
    rw [hl, Option.getD_some] at hc
    obtain ⟨e, he, heq⟩ := List.mem_map.mp (mem_dictOf (mem_of_lookup hl))
    obtain rfl : e.2.map env.casefold = targets := congrArg Prod.snd heq
    obtain ⟨t, ht, rfl⟩ := List.mem_map.mp hc
    exact declares_iff.mpr ⟨t, hp.targets e he t ht, rfl⟩

/-! ### No lookup fails -/

theorem matchesOfKind_raises {geometryType : Json} {kind : ℕ} {candidates : List String}
    (h : ∀ c ∈ candidates, profile.Declares env c) :
    (profile.matchesOfKind env geometryType kind candidates).Raises fun _ => False := by
  refine Except.Raises.bind (Except.raises_mapM fun c hc => ?_) fun _ _ => Except.raises_pure _
  obtain ⟨t, ht⟩ := geometryTypeForCollection_ok (h c hc)
  rw [geometryMatchKind, ht]
  cases geometryType with
  | str source =>
    show Except.Raises _ (if _ then _ else if _ then _ else if _ then _ else _)
    split_ifs <;> exact Except.raises_pure _
  | _ => exact Except.raises_pure _

theorem matchesOfKind_mem {geometryType : Json} {kind : ℕ} {candidates cs : List String}
    (h : profile.matchesOfKind env geometryType kind candidates = .ok cs) :
    ∀ c ∈ cs, c ∈ candidates := by
  rw [matchesOfKind] at h
  cases hk : candidates.mapM (profile.geometryMatchKind env geometryType) with
  | error e => rw [hk] at h; cases h
  | ok kinds =>
    rw [hk] at h
    cases h
    intro c hc
    obtain ⟨⟨c', k⟩, hmem, rfl⟩ := List.mem_map.mp hc
    exact (List.of_mem_zip (List.mem_of_mem_filter hmem)).1

theorem WellFormed.collectionForObjtype_spec (env : Env) (hp : profile.WellFormed) (objtype : String)
    (geometryType : Json) :
    ∃ c, profile.collectionForObjtype env objtype geometryType = .ok c ∧
      ∀ collection, c = some collection → profile.Declares env collection := by
  have hdecl : ∀ c ∈ profile.collectionsForObjtype env objtype, profile.Declares env c :=
    fun c hc => hp.collectionsForObjtype_declared hc
  unfold collectionForObjtype
  simp only
  generalize hcs : profile.collectionsForObjtype env objtype = candidates at hdecl
  have hmatch : ∀ kind, ∃ cs, profile.matchesOfKind env geometryType kind candidates = .ok cs := by
    intro kind
    cases hm : profile.matchesOfKind env geometryType kind candidates with
    | ok cs => exact ⟨cs, rfl⟩
    | error e => exact (matchesOfKind_raises hdecl e hm).elim
  obtain ⟨exact, hexact⟩ := hmatch 2
  obtain ⟨compatible, hcompatible⟩ := hmatch 1
  split
  · exact ⟨_, rfl, by rintro _ ⟨⟩; exact hdecl _ (by simp)⟩
  · split
    · exact ⟨_, rfl, by simp⟩
    · rw [hexact]
      show ∃ c, (match exact with
        | [collection] => pure (some collection)
        | _ :: _ => pure none
        | [] => _) = Except.ok c ∧ _
      split
      · exact ⟨_, rfl, by rintro _ ⟨⟩; exact hdecl _ (matchesOfKind_mem hexact _ (by simp))⟩
      · exact ⟨_, rfl, by simp⟩
      · rw [hcompatible]
        show ∃ c, (match compatible with
          | [collection] => pure (some collection)
          | _ => pure none) = Except.ok c ∧ _
        split
        · exact ⟨_, rfl, by rintro _ ⟨⟩; exact hdecl _ (matchesOfKind_mem hcompatible _ (by simp))⟩
        · exact ⟨_, rfl, by simp⟩

/-- `collection_for` returns, and only collections with required fields. -/
theorem WellFormed.collectionFor_spec (env : Env) (hp : profile.WellFormed) (featureType : String)
    (geometryType : Json) :
    ∃ c, profile.collectionFor env featureType geometryType = .ok c ∧
      ∀ collection, c = some collection → profile.Declares env collection := by
  simp only [collectionFor]
  split
  · next h => exact ⟨_, rfl, by rintro _ ⟨⟩; exact h⟩
  · exact hp.collectionForObjtype_spec env featureType geometryType

theorem WellFormed.propertiesForUpstream_keeps (hp : profile.WellFormed)
    {properties : List (String × Json)} (collection : String) {name : String}
    (h : (properties.lookup name).isSome = true) :
    ((profile.propertiesForUpstream env properties collection).lookup name).isSome = true := by
  rw [propertiesForUpstream]
  split
  · exact h
  · next transform ht => exact hp.transform transform ht properties _ name h

end ImportProfile

end Gcimport
