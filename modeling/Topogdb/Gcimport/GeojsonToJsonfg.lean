/-
Conversion of classic GeoJSON to JSON-FG
(`gcimport/parsers/geojson_to_jsonfg.py`, up to `convert_document`).

`convertDocument_raises`: for a well-formed profile the conversion raises
nothing but `ConversionError`.
-/
import Topogdb.Gcimport.Profiles

namespace Gcimport

open Python

variable (env : Env) (profile : ImportProfile)

/-- A `ConversionError`. -/
def unconvertible {α : Type} (message : String) : Except PyError α := .error (.conversion message)

/-! ### The CRS -/

/-- Case folding of `re.IGNORECASE`, as far as it reaches an ASCII letter. -/
def ignoreCase (c : Char) : Char :=
  if 'A' ≤ c ∧ c ≤ 'Z' then Char.ofNat (c.toNat + 32)
  else if c.toNat = 0x212a then 'k'
  else if c.toNat = 0x17f then 's'
  else if c.toNat = 0x130 ∨ c.toNat = 0x131 then 'i'
  else c

/-- The rest of `text` after a literal that is matched without regard to case. -/
def afterLiteral (literal : String) (text : List Char) : Option (List Char) :=
  if (text.take literal.length).map ignoreCase = literal.toList.map ignoreCase then
    some (text.drop literal.length)
  else none

/-- The text as a non-empty run of digits. -/
def decimals (text : List Char) : Option String :=
  if text ≠ [] ∧ text.all env.isDecimal then some (String.ofList text) else none

/-- `_EPSG_URN`: the code of a full match. -/
def epsgUrn (text : List Char) : Option String :=
  (afterLiteral "urn:ogc:def:crs:EPSG::" text).bind (decimals env)

/-- `_EPSG_HTTP`: the version comes before the code. -/
def epsgHttp (text : List Char) : Option String := do
  let rest ←
    afterLiteral "http://www.opengis.net/def/crs/EPSG/" text <|>
      afterLiteral "https://www.opengis.net/def/crs/EPSG/" text
  let _ ← decimals env (rest.takeWhile (· ≠ '/'))
  decimals env ((rest.dropWhile (· ≠ '/')).drop 1)

/-- `_EPSG_PLAIN`. -/
def epsgPlain (text : List Char) : Option String :=
  (afterLiteral "EPSG:" text).bind (decimals env)

/-- `normalize_crs`. -/
def normalizeCrs (value : String) : Except PyError String :=
  let text := (strip value).toList
  match epsgUrn env text <|> epsgHttp env text <|> epsgPlain env text with
  | some code => .ok ("EPSG:" ++ code)
  | none => unconvertible s!"unsupported CRS '{value}'"

/-- `crs_from_geojson`. -/
def crsFromGeojson (document : List (String × Json)) : Except PyError (Option String) :=
  match (document.lookup "crs").getD .null with
  | .null => .ok none
  | .obj crs =>
    match crs.lookup "type" with
    | some (.str "name") =>
      match crs.lookup "properties" with
      | some (.obj properties) =>
        match properties.lookup "name" with
        | some (.str name) =>
          if strip name = "" then unconvertible "crs.properties.name must be a non-empty string"
          else some <$> normalizeCrs env name
        | _ => unconvertible "crs.properties.name must be a non-empty string"
      | _ => unconvertible "crs.properties must be an object"
    | _ => unconvertible "crs.type must be 'name'"
  | _ => unconvertible "crs must be an object"

/-! ### Feature types -/

/-- `_unsupported_objtype_message`. -/
def unsupportedObjtypeMessage (objtype geometryType : String) : Except PyError String :=
  let candidates := profile.collectionsForObjtype env objtype
  if candidates ≠ [] then do
    let types ← candidates.mapM (profile.geometryTypeForCollection env)
    let supportedGeometryTypes := " or ".intercalate (sorted types.dedup)
    pure (s!"properties.objtype '{objtype}' requires geometry.type " ++
      s!"{supportedGeometryTypes}; got '{geometryType}'")
  else
    let message := s!"properties.objtype must be one of {profile.supportedObjtypes env}"
    let matchingProfiles := (builtinProfiles.map Prod.snd).filter fun candidate =>
      candidate.name ≠ profile.name ∧ candidate.collectionsForObjtype env objtype ≠ []
    match matchingProfiles with
    | [candidate] => pure s!"{message}; '{objtype}' belongs to the {candidate.name} profile"
    | _ => pure message

/-- `feature_type_from_objtype`. -/
def featureTypeFromObjtype (objtype geometryType : Json) : Except PyError String :=
  match objtype with
  | .str objtype =>
    if strip objtype = "" then unconvertible "properties.objtype must be a non-empty string"
    else
      match geometryType with
      | .str geometryType =>
        if strip geometryType = "" then unconvertible "geometry.type must be a non-empty string"
        else do
          let collection ← profile.collectionForObjtype env objtype (.str geometryType)
          match collection with
          | some collection => pure collection
          | none =>
            let message ← unsupportedObjtypeMessage env profile objtype geometryType
            unconvertible message
      | _ => unconvertible "geometry.type must be a non-empty string"
  | _ => unconvertible "properties.objtype must be a non-empty string"

/-! ### Features -/

/-- `_PROPERTY_ALIASES`. -/
def propertyAliases : List (String × String) :=
  [("navnerom", "identifikasjon_navnerom"),
    ("versjonid", "identifikasjon_versjonid"),
    ("datafangstmetode", "kvalitet_datafangstmetode"),
    ("noyaktighet", "kvalitet_noyaktighet"),
    ("synbarhet", "kvalitet_synbarhet"),
    ("datafangstmetodehoyde", "kvalitet_datafangstmetodehoyde"),
    ("noyaktighethoyde", "kvalitet_noyaktighethoyde")]

/-- `normalize_properties`. -/
def normalizeProperties (properties : List (String × Json)) : List (String × Json) :=
  propertyAliases.foldl
    (fun normalized e =>
      if (normalized.lookup e.2).isSome then normalized
      else
        match normalized.lookup e.1 with
        | some value => dictSet normalized e.2 value
        | none => normalized)
    properties

/-- The coordinates of a geometry whose type has to change. -/
def coordinateArray (geometry : List (String × Json)) (index : ℕ) : Except PyError (List Json) :=
  match geometry.lookup "coordinates" with
  | some (.arr coordinates) => .ok coordinates
  | _ => unconvertible s!"features[{index}].geometry.coordinates must be an array"

/-- `normalize_geometry_for_profile`. -/
def normalizeGeometryForProfile (geometry : List (String × Json)) (collection : String)
    (index : ℕ) : Except PyError (List (String × Json)) := do
  let target ← profile.geometryTypeForCollection env collection
  let wrongType := s!"features[{index}].geometry.type must be '{target}'"
  match (geometry.lookup "type").getD .null with
  | .str geometryType =>
    if geometryType = target then .ok geometry
    else if geometryType = "LineString" ∧ target = "MultiLineString" then do
      let coordinates ← coordinateArray geometry index
      .ok [("type", .str "MultiLineString"), ("coordinates", .arr [.arr coordinates])]
    else if geometryType = "MultiLineString" ∧ target = "LineString" then do
      let coordinates ← coordinateArray geometry index
      match coordinates with
      | [.arr part] => .ok [("type", .str "LineString"), ("coordinates", .arr part)]
      | [_] => unconvertible s!"features[{index}].geometry.coordinates[0] must be an array"
      | _ =>
        unconvertible (s!"features[{index}].geometry.coordinates for MultiLineString " ++
          "must contain exactly one part")
    else if geometryType = "MultiLineString" ∧ target = "MultiPolygon" then do
      let coordinates ← coordinateArray geometry index
      if coordinates = [] then
        unconvertible s!"features[{index}].geometry.coordinates must contain at least one part"
      else
        match coordinates.findIdx? fun part => !(part matches .arr _) with
        | some i => unconvertible s!"features[{index}].geometry.coordinates[{i}] must be an array"
        | none =>
          .ok [("type", .str "MultiPolygon"),
            ("coordinates", .arr (coordinates.map fun part => .arr [part]))]
    else unconvertible wrongType
  | _ => unconvertible wrongType

/-- The feature that `convert_feature` returns. -/
def convertedFeature (feature properties geometry : List (String × Json)) (featureType : String)
    (index : ℕ) : Except PyError Json :=
  match geometry.lookup "coordinates" with
  | some (.arr coordinates) => do
    let geometryType ← dictGet geometry "type"
    let place := Json.obj [("type", geometryType), ("coordinates", .arr coordinates)]
    let converted :=
      [("type", .str "Feature"), ("featureType", .str featureType), ("place", place),
        ("properties", .obj properties)]
    match feature.lookup "id" with
    | some id => .ok (.obj (converted ++ [("id", id)]))
    | none => .ok (.obj converted)
  | _ => unconvertible s!"features[{index}].geometry.coordinates must be an array"

/-- `convert_feature`. -/
def convertFeature (feature : Json) (index : ℕ) : Except PyError Json :=
  match feature with
  | .obj members =>
    match members.lookup "type" with
    | some (.str "Feature") =>
      match members.lookup "properties" with
      | some (.obj properties) =>
        let properties := normalizeProperties properties
        let geometryType := ((members.lookup "geometry").getD .null).getD "type"
        match featureTypeFromObjtype env profile ((properties.lookup "objtype").getD .null)
            geometryType with
        | .error (.conversion message) => unconvertible s!"features[{index}]: {message}"
        | .error e => .error e
        | .ok featureType =>
          match (members.lookup "geometry").getD .null with
          | .obj geometry => do
            let geometry ← normalizeGeometryForProfile env profile geometry featureType index
            convertedFeature members properties geometry featureType index
          | _ => unconvertible s!"features[{index}].geometry must be an object"
      | _ => unconvertible s!"features[{index}].properties must be an object"
    | _ => unconvertible s!"features[{index}].type must be 'Feature'"
  | _ => unconvertible s!"features[{index}] must be an object"

/-- `convert_document`, without the `crs` override of the command line. -/
def convertDocument (document : Json) : Except PyError Json :=
  match document with
  | .obj members =>
    match members.lookup "type" with
    | some (.str "FeatureCollection") =>
      match members.lookup "features" with
      | some (.arr features) => do
        let resolvedCrs ← crsFromGeojson env members
        match resolvedCrs with
        | none => unconvertible "missing CRS; provide a GeoJSON crs member"
        | some crs => do
          let converted ← features.zipIdx.mapM fun x => convertFeature env profile x.1 x.2
          .ok (.obj
            [("type", .str "FeatureCollection"), ("coordRefSys", .str crs),
              ("features", .arr converted)])
      | _ => unconvertible "features must be an array"
    | _ => unconvertible "type must be 'FeatureCollection'"
  | _ => unconvertible "document must be a JSON object"

/-! ### What can be raised -/

/-- The error is a `ConversionError`. -/
def IsConversion (e : PyError) : Prop := ∃ message, e = .conversion message

theorem raises_unconvertible {α : Type} (message : String) :
    (unconvertible message : Except PyError α).Raises IsConversion := by
  rintro e ⟨⟩
  exact ⟨_, rfl⟩

theorem normalizeCrs_raises (value : String) : (normalizeCrs env value).Raises IsConversion := by
  unfold normalizeCrs
  simp only
  split
  · exact Except.raises_ok _
  · exact raises_unconvertible _

theorem crsFromGeojson_raises (document : List (String × Json)) :
    (crsFromGeojson env document).Raises IsConversion := by
  rw [crsFromGeojson]
  split
  · exact Except.raises_ok _
  · split
    · split
      · split
        · split
          · exact raises_unconvertible _
          · exact (normalizeCrs_raises env _).map
        · exact raises_unconvertible _
      · exact raises_unconvertible _
    · exact raises_unconvertible _
  · exact raises_unconvertible _

variable {profile}

theorem unsupportedObjtypeMessage_raises (hp : profile.WellFormed) (objtype geometryType : String) :
    (unsupportedObjtypeMessage env profile objtype geometryType).Raises IsConversion := by
  rw [unsupportedObjtypeMessage]
  simp only
  split
  · refine Except.Raises.bind (Except.raises_mapM fun c hc => ?_) fun _ _ => Except.raises_pure _
    obtain ⟨t, ht⟩ := ImportProfile.geometryTypeForCollection_ok
      (hp.collectionsForObjtype_declared hc)
    rw [ht]
    exact Except.raises_ok _
  · split <;> exact Except.raises_pure _

theorem meets_unconvertible {α : Type} (Q : α → Prop) (message : String) :
    (unconvertible message : Except PyError α).Meets IsConversion Q := ⟨message, rfl⟩

/-- The feature type is a collection of the profile, or the error a conversion. -/
theorem featureTypeFromObjtype_meets (hp : profile.WellFormed) (objtype geometryType : Json) :
    (featureTypeFromObjtype env profile objtype geometryType).Meets IsConversion
      (profile.Declares env) := by
  unfold featureTypeFromObjtype
  split
  · next objtype =>
    split
    · exact meets_unconvertible _ _
    · split
      · next geometryType =>
        split
        · exact meets_unconvertible _ _
        · obtain ⟨c, hc, hdecl⟩ := hp.collectionForObjtype_spec env objtype (.str geometryType)
          rw [hc, Except.ok_bind]
          cases c with
          | some collection => exact hdecl collection rfl
          | none =>
            refine Except.Meets.bind
              (unsupportedObjtypeMessage_raises env hp objtype geometryType).meets ?_
            exact fun message _ => meets_unconvertible _ message
      · exact meets_unconvertible _ _
  · exact meets_unconvertible _ _

theorem coordinateArray_meets (geometry : List (String × Json)) (index : ℕ) :
    (coordinateArray geometry index).Meets IsConversion fun _ => True := by
  rw [coordinateArray]
  split
  · trivial
  · exact meets_unconvertible _ _

/-- A geometry with a type, or a conversion error. -/
theorem normalizeGeometryForProfile_meets (geometry : List (String × Json)) {collection : String}
    (h : profile.Declares env collection) (index : ℕ) :
    (normalizeGeometryForProfile env profile geometry collection index).Meets IsConversion
      fun g => (g.lookup "type").isSome = true := by
  obtain ⟨target, htarget⟩ := ImportProfile.geometryTypeForCollection_ok h
  have hcoordinates := coordinateArray_meets geometry index
  rw [normalizeGeometryForProfile, htarget, Except.ok_bind]
  simp only
  split
  · next geometryType htype =>
    split
    · -- unchanged: the type that was read is there
      cases ht : geometry.lookup "type" with
      | none => simp [ht] at htype
      | some t =>
        show (geometry.lookup "type").isSome = true
        rw [ht]
        rfl
    · split
      · exact hcoordinates.bind fun coordinates _ => rfl
      · split
        · refine hcoordinates.bind fun coordinates _ => ?_
          split
          · exact rfl
          · exact meets_unconvertible _ _
          · exact meets_unconvertible _ _
        · split
          · refine hcoordinates.bind fun coordinates _ => ?_
            split
            · exact meets_unconvertible _ _
            · split
              · exact meets_unconvertible _ _
              · exact rfl
          · exact meets_unconvertible _ _
  · exact meets_unconvertible _ _

theorem convertedFeature_meets (feature properties : List (String × Json))
    {geometry : List (String × Json)} (h : (geometry.lookup "type").isSome = true)
    (featureType : String) (index : ℕ) :
    (convertedFeature feature properties geometry featureType index).Meets IsConversion
      fun _ => True := by
  obtain ⟨t, ht⟩ := Option.isSome_iff_exists.mp h
  rw [convertedFeature]
  split
  · rw [dictGet, ht, Except.ok_bind]
    simp only
    split <;> trivial
  · exact meets_unconvertible _ _

theorem convertFeature_meets (hp : profile.WellFormed) (feature : Json) (index : ℕ) :
    (convertFeature env profile feature index).Meets IsConversion fun _ => True := by
  unfold convertFeature
  split
  · next members =>
    split
    · split
      · next properties _ =>
        simp only
        generalize ((members.lookup "geometry").getD .null).getD "type" = geometryType
        have htype := featureTypeFromObjtype_meets env hp
          (((normalizeProperties properties).lookup "objtype").getD .null) geometryType
        split
        · exact meets_unconvertible _ _
        · next e hne he =>
          rw [he] at htype
          obtain ⟨message, rfl⟩ := htype
          exact absurd rfl (hne message)
        · next featureType heq =>
          rw [heq] at htype
          split
          · next geometry _ =>
            refine (normalizeGeometryForProfile_meets env geometry htype index).bind fun g hg => ?_
            exact convertedFeature_meets members _ hg featureType index
          · exact meets_unconvertible _ _
      · exact meets_unconvertible _ _
    · exact meets_unconvertible _ _
  · exact meets_unconvertible _ _

/-- **Converting a document raises nothing but `ConversionError`.** -/
theorem convertDocument_raises (hp : profile.WellFormed) (document : Json) :
    (convertDocument env profile document).Raises IsConversion := by
  unfold convertDocument
  split
  · split
    · split
      · refine Except.Raises.bind (crsFromGeojson_raises env _) fun crs _ => ?_
        split
        · exact raises_unconvertible _
        · refine Except.Raises.bind (Except.raises_mapM fun x _ => ?_) fun _ _ => Except.raises_ok _
          exact (Except.meets_iff.mp (convertFeature_meets env hp x.1 x.2)).1
      · exact raises_unconvertible _
    · exact raises_unconvertible _
  · exact raises_unconvertible _

end Gcimport
