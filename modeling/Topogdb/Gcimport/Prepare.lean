/-
Validation and coordinate transformation of a JSON-FG document
(`gcimport/importer.py`, up to `prepare_document`).

The functions raise as the source does; `prepareDocument_raises` says that for
a well-formed profile all of it ends in a `DocumentValidationError`, so no
lookup of the source fails on a document it accepts for work.
-/
import Topogdb.Gcimport.Profiles

namespace Gcimport

open Python

/-- Coordinates after the transformation: positions, nested in lists. -/
inductive Coords where
  | position (values : List PyFloat)
  | list (items : List Coords)

/-- The numbers of all positions, as `_iter_positions` yields them. -/
def Coords.values : Coords → List PyFloat
  | .position values => values
  | .list items => items.flatMap Coords.values

/-- The coordinates as JSON, once they are finite. -/
def Coords.toJson : Coords → Json
  | .position values =>
    .arr (values.map fun
      | .finite q => .num q
      | _ => .null)
  | .list items => .arr (items.map Coords.toJson)

/-- `PreparedFeature`. -/
structure PreparedFeature where
  collection : String
  featureId : String
  geojson : Json

variable (env : Env) (profile : ImportProfile)

/-- One validation message. -/
def invalid {α : Type} (message : String) : Except PyError α :=
  .error (.documentValidation [message])

/-! ### Coordinates -/

/-- What pyproj does with one position; its `ProjError` becomes nothing. -/
abbrev Transformer := List ℚ → Option (List PyFloat)

/-- The exceptions of the transformation: the message of a validation error, or
pyproj's own, which `_transform_geometry` turns into one. -/
inductive CoordsError where
  | invalid (message : String)
  | proj

/-- The numbers of a position: two or three, booleans excluded. -/
def positionNumbers : Json → Option (List ℚ)
  | .arr values =>
    if 2 ≤ values.length ∧ values.length ≤ 3 then
      values.mapM fun
        | .num q => some q
        | _ => none
    else none
  | _ => none

/-- `_transform_position`. -/
def transformPosition (transform : Transformer) (geometryType path : String) (position : Json) :
    Except CoordsError Coords :=
  match positionNumbers position with
  | none => .error (.invalid (geometryType ++ " " ++ path ++ " must contain two or three finite numbers"))
  | some numbers =>
    match transform numbers with
    | none => .error .proj
    | some values => .ok (.position values)

/-- The list comprehension over an array with at least `least` elements. -/
def transformItems (least : ℕ) (message : String) (item : ℕ → Json → Except CoordsError Coords) :
    Json → Except CoordsError Coords
  | .arr items =>
    if items.length < least then .error (.invalid message)
    else Coords.list <$> items.zipIdx.mapM fun x => item x.2 x.1
  | _ => .error (.invalid message)

/-- `_transform_point_coordinates`. -/
def transformPointCoordinates (transform : Transformer) (coordinates : Json) :
    Except CoordsError Coords :=
  transformPosition transform "Point" "position" coordinates

/-- `_transform_linestring_coordinates`. -/
def transformLinestringCoordinates (transform : Transformer) (coordinates : Json) :
    Except CoordsError Coords :=
  transformItems 2 "LineString coordinates must contain at least two positions"
    (fun i => transformPosition transform "LineString" s!"position {i}") coordinates

/-- `_transform_ring`. -/
def transformRing (transform : Transformer) (geometryType path : String) (ring : Json) :
    Except CoordsError Coords :=
  transformItems 4 (geometryType ++ " " ++ path ++ " must contain at least four positions")
    (fun i => transformPosition transform geometryType s!"{path} position {i}") ring

/-- `_transform_polygon_coordinates`. -/
def transformPolygonCoordinates (transform : Transformer) (coordinates : Json) :
    Except CoordsError Coords :=
  transformItems 1 "Polygon coordinates must contain at least one ring"
    (fun i => transformRing transform "Polygon" s!"ring {i}") coordinates

/-- `_transform_multilinestring_coordinates`. -/
def transformMultilinestringCoordinates (transform : Transformer) (coordinates : Json) :
    Except CoordsError Coords :=
  transformItems 1 "MultiLineString coordinates must contain at least one line"
    (fun i => transformItems 2 s!"MultiLineString line {i} must contain at least two positions"
      fun j => transformPosition transform "MultiLineString" s!"line {i} position {j}")
    coordinates

/-- `_transform_multipolygon_coordinates`. -/
def transformMultipolygonCoordinates (transform : Transformer) (coordinates : Json) :
    Except CoordsError Coords :=
  transformItems 1 "MultiPolygon coordinates must contain at least one polygon"
    (fun i => transformItems 1 s!"MultiPolygon polygon {i} must contain at least one ring"
      fun j => transformRing transform "MultiPolygon" s!"polygon {i} ring {j}")
    coordinates

/-- `_transform_coordinates`, for a geometry type that is the target's. -/
def transformCoordinates (geometryType : String) (coordinates : Json) (transform : Transformer) :
    Except CoordsError Coords :=
  if geometryType = "Point" then transformPointCoordinates transform coordinates
  else if geometryType = "LineString" then transformLinestringCoordinates transform coordinates
  else if geometryType = "MultiLineString" then
    transformMultilinestringCoordinates transform coordinates
  else if geometryType = "Polygon" then transformPolygonCoordinates transform coordinates
  else if geometryType = "MultiPolygon" then transformMultipolygonCoordinates transform coordinates
  else .error (.invalid s!"geometry type {geometryType} is not implemented")

/-- `_transform_geometry`. -/
def transformGeometry (geometry : List (String × Json)) (sourceCrs collection : String) :
    Except PyError Json := do
  let target ← profile.geometryTypeForCollection env collection
  let geometryType := (geometry.lookup "type").getD .null
  let coordinates := (geometry.lookup "coordinates").getD .null
  -- a line is promoted to a multi-line where the collection wants one
  let (geometryType, coordinates) :=
    match geometryType with
    | .str "LineString" =>
      if target = "MultiLineString" then (Json.str "MultiLineString", Json.arr [coordinates])
      else (geometryType, coordinates)
    | _ => (geometryType, coordinates)
  match geometryType with
  | .str geometryType =>
    if geometryType ≠ target then invalid s!"geometry must be a {target}"
    else
      let cannot := s!"cannot transform coordRefSys '{sourceCrs}' to {profile.targetCrs}"
      match env.transformer sourceCrs profile.targetCrs with
      | none => invalid cannot
      | some transform =>
        match transformCoordinates geometryType coordinates transform with
        | .error .proj => invalid cannot
        | .error (.invalid message) => invalid message
        | .ok transformed =>
          if transformed.values.all fun v => v matches .finite _ then
            .ok (.obj [("type", .str geometryType), ("coordinates", transformed.toJson)])
          else
            invalid s!"coordinate transform from '{sourceCrs}' produced invalid values"
  | _ => invalid s!"geometry must be a {target}"

/-! ### One feature -/

/-- `FALLBACK_GEOMETRY_CRS`. -/
def fallbackGeometryCrs : String := "EPSG:4326"

/-- `_select_geometry`: the geometry and the CRS it is in. -/
def selectGeometry (feature : List (String × Json)) (inheritedCrs : Json) :
    Except PyError (List (String × Json) × String) :=
  match (feature.lookup "place").getD .null with
  | .null =>
    match (feature.lookup "geometry").getD .null with
    | .obj geometry => .ok (geometry, fallbackGeometryCrs)
    | _ => invalid "feature requires a JSON-FG place or GeoJSON geometry"
  | .obj place =>
    let sourceCrs :=
      (place.lookup "coordRefSys").getD ((feature.lookup "coordRefSys").getD inheritedCrs)
    match sourceCrs with
    | .null => invalid "place requires coordRefSys on place, feature, or collection"
    | .str crs =>
      if strip crs = "" then invalid "coordRefSys must be a non-empty string" else .ok (place, crs)
    | _ => invalid "coordRefSys must be a non-empty string"
  | _ => invalid "place must be a geometry object"

/-- One field of `_identity_values`. -/
def identityStep (properties : List (String × Json)) (acc : List String × List String)
    (name : String) : List String × List String :=
  match (properties.lookup name).getD .null with
  | .str value =>
    if strip value = "" then (acc.1, acc.2 ++ [s!"properties.{name} must be a non-empty string"])
    else (acc.1 ++ [strip value], acc.2)
  | _ => (acc.1, acc.2 ++ [s!"properties.{name} must be a non-empty string"])

/-- `_identity_values`: the values and the errors. -/
def identityValues (properties : List (String × Json)) : List String × List String :=
  profile.identityFields.foldl (identityStep properties) ([], [])

/-- What the `try` block of `_prepare_feature` leaves behind. -/
structure Placement where
  errors : List String
  collection : String := ""
  geometry : Json := .obj []

/-- The collection of the feature, empty when it has none. -/
def findCollection (feature geometry : List (String × Json)) (errors : List String) :
    Except PyError Placement :=
  match (feature.lookup "featureType").getD .null with
  | .str featureType => do
    let collection ← profile.collectionFor env featureType ((geometry.lookup "type").getD .null)
    if collection.getD "" = "" then
      pure { errors := errors ++ [s!"featureType must be {profile.supportedFeatureTypes env}"] }
    else pure { errors := errors, collection := collection.getD "" }
  | _ => pure { errors := errors ++ ["featureType must be a string"] }

/-- The required properties and the geometry of a feature with a collection; a
validation error joins those found so far. -/
def checkPlaced (geometry properties : List (String × Json)) (sourceCrs : String)
    (placement : Placement) : Except PyError Placement :=
  if placement.collection = "" then pure placement
  else do
    let required ← dictGet (profile.normalizedRequiredFields env) placement.collection
    let missing := sorted (required.filter fun name => ((properties.lookup name).getD .null).isNull)
    let errors :=
      if missing = [] then placement.errors
      else placement.errors ++ ["missing required properties: " ++ ", ".intercalate missing]
    match transformGeometry env profile geometry sourceCrs placement.collection with
    | .error (.documentValidation messages) =>
      pure { placement with errors := errors ++ messages }
    | .error e => .error e
    | .ok transformed => pure { placement with errors := errors, geometry := transformed }

/-- The `try` block of `_prepare_feature` and its handler. -/
def placeFeature (feature properties : List (String × Json)) (inheritedCrs : Json)
    (errors : List String) : Except PyError Placement :=
  match selectGeometry feature inheritedCrs with
  | .error (.documentValidation messages) => .ok { errors := errors ++ messages }
  | .error e => .error e
  | .ok (geometry, sourceCrs) => do
    let placement ← findCollection env profile feature geometry errors
    checkPlaced env profile geometry properties sourceCrs placement

/-- The properties of a feature and the error when they are no object. -/
def featureProperties (feature : List (String × Json)) : List (String × Json) × List String :=
  match feature.lookup "properties" with
  | some (.obj properties) => (properties, [])
  | _ => ([], ["properties must be an object"])

/-- The end of `_prepare_feature`. -/
def finishFeature (properties : List (String × Json)) (identity : List String)
    (placement : Placement) : Except PyError PreparedFeature :=
  if placement.errors ≠ [] then .error (.documentValidation placement.errors)
  else
    match identity with
    | [] => .error .indexError
    | featureId :: _ =>
      let upstreamProperties := profile.propertiesForUpstream env properties placement.collection
      .ok
        { collection := placement.collection
          featureId := featureId
          geojson := .obj
            [("type", .str "Feature"), ("id", .str featureId), ("geometry", placement.geometry),
              ("properties", .obj upstreamProperties)] }

/-- `_prepare_feature`. -/
def prepareFeature (feature inheritedCrs : Json) : Except PyError PreparedFeature :=
  match feature with
  | .obj members => do
    let typeErrors :=
      match members.lookup "type" with
      | some (.str "Feature") => []
      | _ => ["type must be 'Feature'"]
    let properties := featureProperties members
    let identity := identityValues profile properties.1
    let placement ← placeFeature env profile members properties.1 inheritedCrs
      (typeErrors ++ properties.2 ++ identity.2)
    finishFeature env profile properties.1 identity.1 placement
  | _ => invalid "feature must be a JSON object"

/-! ### Duplicates -/

/-- `_comparable_properties`. -/
def comparableProperties (properties : List (String × Json)) : List (String × Json) :=
  properties.filter fun e => e.1 ≠ "OBJECTID" ∧ e.1 ≠ "SHAPE_Length"

/-- `_merge_duplicate_feature`. -/
def mergeDuplicateFeature (existing incoming : PreparedFeature) : Option PreparedFeature :=
  if profile.mergeDuplicateMultilinestrings = false then none
  else if existing.collection ≠ incoming.collection ∨ existing.featureId ≠ incoming.featureId then
    none
  else
    match existing.geojson.getD "properties", incoming.geojson.getD "properties",
      existing.geojson.getD "geometry", incoming.geojson.getD "geometry" with
    | .obj existingProperties, .obj incomingProperties, .obj existingGeometry,
      .obj incomingGeometry =>
      match existingGeometry.lookup "type", incomingGeometry.lookup "type" with
      | some (.str "MultiLineString"), some (.str "MultiLineString") =>
        if jsonEq (.obj (comparableProperties existingProperties))
            (.obj (comparableProperties incomingProperties)) then
          match existingGeometry.lookup "coordinates", incomingGeometry.lookup "coordinates",
            existing.geojson with
          | some (.arr existingCoordinates), some (.arr incomingCoordinates), .obj members =>
            some
              { existing with
                geojson := .obj (dictSet members "geometry" (.obj
                  [("type", .str "MultiLineString"),
                    ("coordinates", .arr (existingCoordinates ++ incomingCoordinates))])) }
          | _, _, _ => none
        else none
      | _, _ => none
    | _, _, _, _ => none

/-! ### The document -/

/-- The variables of the loop of `prepare_document`. -/
structure PrepareState where
  errors : List String := []
  prepared : List PreparedFeature := []
  identityIndexes : List (List String × ℕ) := []

/-- The identity of a prepared feature, read back from its properties. -/
def identityOf (item : PreparedFeature) : Except PyError (List String) :=
  profile.identityFields.mapM fun name =>
    match item.geojson.getD "properties" with
    | .obj properties => env.str <$> dictGet properties name
    | _ => .error (.keyError "properties")

/-- What one iteration does with a feature it could prepare. -/
def noteItem (st : PrepareState) (index : ℕ) (item : PreparedFeature) (identity : List String) :
    Except PyError PrepareState :=
  match st.identityIndexes.lookup identity with
  | none =>
    .ok { st with
      identityIndexes := st.identityIndexes ++ [(identity, st.prepared.length)]
      prepared := st.prepared ++ [item] }
  | some existingIndex =>
    match st.prepared[existingIndex]? with
    | none => .error .indexError
    | some existing =>
      match mergeDuplicateFeature profile existing item with
      | none =>
        let names := ", ".intercalate profile.identityFields
        .ok { st with errors := st.errors ++ [s!"features[{index}]: duplicate ({names})"] }
      | some merged => .ok { st with prepared := st.prepared.set existingIndex merged }

/-- The `try` block of one iteration. -/
def prepareItem (inheritedCrs : Json) (st : PrepareState) (index : ℕ) (feature : Json) :
    Except PyError PrepareState := do
  let item ← prepareFeature env profile feature inheritedCrs
  let identity ← identityOf env profile item
  noteItem profile st index item identity

/-- One iteration of the loop of `prepare_document`. -/
def prepareStep (inheritedCrs : Json) (st : PrepareState) (feature : Json × ℕ) :
    Except PyError PrepareState :=
  match prepareItem env profile inheritedCrs st feature.2 feature.1 with
  | .error (.documentValidation messages) =>
    .ok { st with
      errors := st.errors ++ messages.map fun message => s!"features[{feature.2}]: {message}" }
  | r => r

/-- `prepare_document`. -/
def prepareDocument (document : Json) : Except PyError (List PreparedFeature) :=
  match document with
  | .obj members =>
    match members.lookup "type" with
    | some (.str "FeatureCollection") =>
      match members.lookup "features" with
      | some (.arr features) => do
        let inheritedCrs := (members.lookup "coordRefSys").getD .null
        let st ← features.zipIdx.foldlM (prepareStep env profile inheritedCrs) {}
        if st.errors ≠ [] then .error (.documentValidation st.errors) else pure st.prepared
      | _ => invalid "features must be an array"
    | _ => invalid "type must be 'FeatureCollection'"
  | _ => invalid "document must be a JSON object"

/-! ### What can be raised -/

/-- The error is a `DocumentValidationError`. -/
def IsInvalid (e : PyError) : Prop := ∃ errors, e = .documentValidation errors

theorem raises_invalid {α : Type} (message : String) :
    (invalid message : Except PyError α).Raises IsInvalid := by
  rintro e ⟨⟩
  exact ⟨_, rfl⟩

variable {env : Env} {profile : ImportProfile}

theorem selectGeometry_raises (feature : List (String × Json)) (inheritedCrs : Json) :
    (selectGeometry feature inheritedCrs).Raises IsInvalid := by
  rw [selectGeometry]
  split
  · split
    · exact Except.raises_ok _
    · exact raises_invalid _
  · simp only
    split
    · exact raises_invalid _
    · split
      · exact raises_invalid _
      · exact Except.raises_ok _
    · exact raises_invalid _
  · exact raises_invalid _

theorem transformGeometry_raises (geometry : List (String × Json)) (sourceCrs : String)
    {collection : String} (h : profile.Declares env collection) :
    (transformGeometry env profile geometry sourceCrs collection).Raises IsInvalid := by
  obtain ⟨target, htarget⟩ := ImportProfile.geometryTypeForCollection_ok h
  rw [transformGeometry, htarget]
  refine Except.Raises.bind (Except.raises_ok _) fun target' _ => ?_
  simp only
  split
  · split
    · exact raises_invalid _
    · split
      · exact raises_invalid _
      · split
        · exact raises_invalid _
        · exact raises_invalid _
        · split
          · exact Except.raises_ok _
          · exact raises_invalid _
  · exact raises_invalid _

/-- The collection that is found has its tables. -/
theorem findCollection_spec (hp : profile.WellFormed) (feature geometry : List (String × Json))
    (errors : List String) :
    ∃ p, findCollection env profile feature geometry errors = .ok p ∧
      (p.collection = "" ∨ profile.Declares env p.collection) := by
  rw [findCollection]
  split
  · next featureType _ =>
    obtain ⟨c, hc, hdecl⟩ :=
      hp.collectionFor_spec env featureType ((geometry.lookup "type").getD .null)
    rw [hc]
    show ∃ p, (if c.getD "" = "" then _ else _) = Except.ok p ∧ _
    split
    · exact ⟨_, rfl, Or.inl rfl⟩
    · next hne =>
      cases c with
      | none => exact absurd rfl hne
      | some collection => exact ⟨_, rfl, Or.inr (hdecl collection rfl)⟩
  · exact ⟨_, rfl, Or.inl rfl⟩

theorem checkPlaced_raises (geometry properties : List (String × Json)) (sourceCrs : String)
    {p : Placement} (hp : p.collection = "" ∨ profile.Declares env p.collection) :
    (checkPlaced env profile geometry properties sourceCrs p).Raises fun _ => False := by
  rw [checkPlaced]
  split
  · exact Except.raises_pure _
  · next hne =>
    have hdecl := hp.resolve_left hne
    obtain ⟨fields, hfields⟩ := Option.isSome_iff_exists.mp hdecl
    have hget : dictGet (profile.normalizedRequiredFields env) p.collection = .ok fields := by
      rw [dictGet, hfields]
    rw [hget]
    refine Except.Raises.bind (Except.raises_ok _) fun required _ => ?_
    simp only
    split
    · exact Except.raises_pure _
    · next e hne' he =>
      obtain ⟨messages, rfl⟩ := transformGeometry_raises geometry sourceCrs hdecl e he
      exact absurd rfl (hne' messages)
    · exact Except.raises_pure _

/-- The handler of `_prepare_feature` leaves nothing to raise. -/
theorem placeFeature_raises (hp : profile.WellFormed) (feature properties : List (String × Json))
    (inheritedCrs : Json) (errors : List String) :
    (placeFeature env profile feature properties inheritedCrs errors).Raises fun _ => False := by
  rw [placeFeature]
  split
  · exact Except.raises_ok _
  · next e hne he =>
    obtain ⟨messages, rfl⟩ := selectGeometry_raises feature inheritedCrs e he
    exact absurd rfl (hne messages)
  · next geometry sourceCrs _ =>
    obtain ⟨p, hfind, hp⟩ := findCollection_spec hp feature geometry errors
    rw [hfind]
    exact checkPlaced_raises geometry properties sourceCrs hp

/-- An identity property, if it is a string with something in it. -/
def identityValue (properties : List (String × Json)) (name : String) : Option String :=
  match (properties.lookup name).getD .null with
  | .str value => if strip value = "" then none else some (strip value)
  | _ => none

theorem identityStep_eq (properties : List (String × Json)) (acc : List String × List String)
    (name : String) : identityStep properties acc name =
      match identityValue properties name with
      | some value => (acc.1 ++ [value], acc.2)
      | none => (acc.1, acc.2 ++ [s!"properties.{name} must be a non-empty string"]) := by
  rw [identityStep, identityValue]
  split
  · split <;> rfl
  · rfl

/-- Without identity errors every identity field has its value. -/
theorem foldl_identityStep (properties : List (String × Json)) (names : List String)
    (acc : List String × List String) (h : (names.foldl (identityStep properties) acc).2 = []) :
    acc.2 = [] ∧ (names.foldl (identityStep properties) acc).1.map some =
      acc.1.map some ++ names.map (identityValue properties) := by
  induction names generalizing acc with
  | nil => exact ⟨h, by simp⟩
  | cons name names ih =>
    rw [List.foldl_cons] at h ⊢
    obtain ⟨hstep, hvalues⟩ := ih _ h
    rw [identityStep_eq] at hstep hvalues ⊢
    cases hvalue : identityValue properties name with
    | none => simp [hvalue] at hstep
    | some value =>
      rw [hvalue] at hstep hvalues
      refine ⟨hstep, hvalues.trans ?_⟩
      simp [hvalue]

theorem identityValues_eq (properties : List (String × Json))
    (h : (identityValues profile properties).2 = []) :
    (identityValues profile properties).1.map some =
      profile.identityFields.map (identityValue properties) :=
  (foldl_identityStep properties profile.identityFields _ h).2

theorem identityValues_complete (properties : List (String × Json))
    (h : (identityValues profile properties).2 = []) :
    (identityValues profile properties).1.length = profile.identityFields.length ∧
      ∀ name ∈ profile.identityFields, (properties.lookup name).isSome = true := by
  have hvalues := identityValues_eq properties h
  refine ⟨by simpa using congrArg List.length hvalues, fun name hname => ?_⟩
  have hvalue : identityValue properties name ∈
      (identityValues profile properties).1.map some := by
    rw [hvalues]
    exact List.mem_map_of_mem hname
  obtain ⟨value, -, hvalue⟩ := List.mem_map.mp hvalue
  rw [identityValue] at hvalue
  cases hlookup : properties.lookup name with
  | none => simp [hlookup] at hvalue
  | some v => rfl

/-- The errors that the placement starts from are among those it ends with. -/
theorem placeFeature_errors {feature properties : List (String × Json)} {inheritedCrs : Json}
    {errors : List String} {p : Placement}
    (h : placeFeature env profile feature properties inheritedCrs errors = .ok p)
    (hp : p.errors = []) : errors = [] := by
  -- errors are only ever added: finding the collection, and checking the place
  have hfound : ∀ {geometry q}, findCollection env profile feature geometry errors = .ok q →
      q.errors = [] → errors = [] := by
    intro geometry q hq hempty
    rw [findCollection] at hq
    split at hq
    · cases hc : profile.collectionFor env _ ((geometry.lookup "type").getD .null) with
      | error e => rw [hc] at hq; cases hq
      | ok c =>
        rw [hc] at hq
        change (if c.getD "" = "" then _ else _) = Except.ok q at hq
        split at hq
        · cases hq
          simp at hempty
        · cases hq
          exact hempty
    · cases hq
      simp at hempty
  rw [placeFeature] at h
  split at h
  · cases h
    exact (List.append_eq_nil_iff.mp hp).1
  · cases h
  · next geometry sourceCrs _ =>
    cases hq : findCollection env profile feature geometry errors with
    | error e => rw [hq] at h; cases h
    | ok q =>
      rw [hq] at h
      change checkPlaced env profile geometry properties sourceCrs q = Except.ok p at h
      refine hfound hq ?_
      rw [checkPlaced] at h
      split at h
      · cases h
        exact hp
      · cases hg : dictGet (profile.normalizedRequiredFields env) q.collection with
        | error e => rw [hg] at h; cases h
        | ok required =>
          rw [hg] at h
          change (match transformGeometry env profile geometry sourceCrs q.collection with
            | .error (.documentValidation messages) => _
            | .error e => _
            | .ok transformed => _) = Except.ok p at h
          have hmissing : ∀ {c : Prop} [Decidable c] {m : String},
              (if c then q.errors else q.errors ++ [m]) = [] → q.errors = [] := by
            intro c _ m hite
            split at hite
            · exact hite
            · simp at hite
          split at h
          · cases h
            exact hmissing (List.append_eq_nil_iff.mp hp).1
          · cases h
          · cases h
            exact hmissing hp

/-- What `_prepare_feature` returns carries the identity fields. -/
theorem prepareFeature_spec (env : Env) (hp : profile.WellFormed) (feature inheritedCrs : Json) :
    (prepareFeature env profile feature inheritedCrs).Raises IsInvalid ∧
      ∀ item, prepareFeature env profile feature inheritedCrs = .ok item →
        ∃ properties, item.geojson.getD "properties" = .obj properties ∧
          ∀ name ∈ profile.identityFields, (properties.lookup name).isSome = true := by
  cases feature with
  | obj members =>
    simp only [prepareFeature]
    generalize (match members.lookup "type" with
      | some (.str "Feature") => []
      | _ => ["type must be 'Feature'"]) = typeErrors
    obtain ⟨properties, propertyErrors⟩ := featureProperties members
    cases hplace : placeFeature env profile members properties inheritedCrs
        (typeErrors ++ propertyErrors ++ (identityValues profile properties).2) with
    | error e => exact (placeFeature_raises hp _ _ _ _ e hplace).elim
    | ok placement =>
      show (finishFeature env profile properties _ placement).Raises _ ∧
        ∀ item, finishFeature env profile properties _ placement = _ → _
      by_cases herrors : placement.errors = []
      · have hidentity : (identityValues profile properties).2 = [] :=
          (List.append_eq_nil_iff.mp (placeFeature_errors hplace herrors)).2
        obtain ⟨hlen, hall⟩ := identityValues_complete properties hidentity
        unfold finishFeature
        rw [if_neg (not_not.mpr herrors)]
        cases hvalues : (identityValues profile properties).1 with
        | nil =>
          rw [hvalues] at hlen
          exact absurd (List.length_eq_zero_iff.mp hlen.symm) hp.identity
        | cons featureId rest =>
          refine ⟨Except.raises_ok _, ?_⟩
          rintro item ⟨⟩
          exact ⟨_, rfl, fun name hname =>
            hp.propertiesForUpstream_keeps placement.collection (hall name hname)⟩
      · unfold finishFeature
        rw [if_pos herrors]
        refine ⟨fun e he => ?_, ?_⟩
        · cases he
          exact ⟨_, rfl⟩
        · rintro item ⟨⟩
  | _ => exact ⟨raises_invalid _, by rintro item ⟨⟩⟩

theorem identityOf_raises {item : PreparedFeature}
    (h : ∃ properties, item.geojson.getD "properties" = .obj properties ∧
      ∀ name ∈ profile.identityFields, (properties.lookup name).isSome = true) :
    (identityOf env profile item).Raises fun _ => False := by
  obtain ⟨properties, hget, hall⟩ := h
  refine Except.raises_mapM fun name hname => ?_
  obtain ⟨v, hv⟩ := Option.isSome_iff_exists.mp (hall name hname)
  simp only [hget, dictGet, hv]
  exact Except.raises_ok _

/-- The indexes that the loop has noted are positions of prepared features. -/
def IndexesValid (st : PrepareState) : Prop := ∀ e ∈ st.identityIndexes, e.2 < st.prepared.length

theorem noteItem_spec {st : PrepareState} (hst : IndexesValid st) (index : ℕ)
    (item : PreparedFeature) (identity : List String) :
    ∃ st', noteItem profile st index item identity = .ok st' ∧ IndexesValid st' := by
  rw [noteItem]
  cases hl : st.identityIndexes.lookup identity with
  | none =>
    refine ⟨_, rfl, ?_⟩
    intro e he
    simp only [List.length_append, List.length_singleton]
    rcases List.mem_append.mp he with he | he
    · exact Nat.lt_succ_of_lt (hst e he)
    · rw [List.mem_singleton.mp he]
      exact Nat.lt_succ_self _
  | some i =>
    obtain ⟨l₁, l₂, hsplit, -⟩ := List.lookup_eq_some_iff.mp hl
    have hi : i < st.prepared.length := hst (identity, i) (by simp [hsplit])
    simp only [List.getElem?_eq_getElem hi]
    cases mergeDuplicateFeature profile st.prepared[i] item with
    | none => exact ⟨_, rfl, hst⟩
    | some merged =>
      refine ⟨_, rfl, ?_⟩
      intro e he
      simpa using hst e he

theorem prepareItem_spec (env : Env) (hp : profile.WellFormed) (inheritedCrs : Json) {st : PrepareState}
    (hst : IndexesValid st) (index : ℕ) (feature : Json) :
    (prepareItem env profile inheritedCrs st index feature).Raises IsInvalid ∧
      ∀ st', prepareItem env profile inheritedCrs st index feature = .ok st' →
        IndexesValid st' := by
  obtain ⟨hraises, hspec⟩ := prepareFeature_spec env hp feature inheritedCrs
  rw [prepareItem]
  cases hitem : prepareFeature env profile feature inheritedCrs with
  | error e =>
    refine ⟨?_, by rintro st' ⟨⟩⟩
    rintro e' ⟨⟩
    exact hraises e hitem
  | ok item =>
    cases hid : identityOf env profile item with
    | error e => exact (identityOf_raises (hspec item hitem) e hid).elim
    | ok identity =>
      obtain ⟨st₁, hnote, hst₁⟩ := noteItem_spec hst index item identity
      have hrun : (Except.ok item >>= fun item => identityOf env profile item >>= fun identity =>
          noteItem profile st index item identity) = Except.ok st₁ := by
        show (identityOf env profile item >>= fun identity =>
          noteItem profile st index item identity) = Except.ok st₁
        rw [hid]
        exact hnote
      rw [hrun]
      exact ⟨Except.raises_ok _, by rintro st' ⟨⟩; exact hst₁⟩

/-- **Preparing a document raises nothing but `DocumentValidationError`.** -/
theorem prepareDocument_raises (hp : profile.WellFormed) (document : Json) :
    (prepareDocument env profile document).Raises IsInvalid := by
  unfold prepareDocument
  split
  · split
    · split
      · next features _ =>
        refine Except.Raises.bind ?_ fun st _ => ?_
        · have hstart : IndexesValid {} := by simp [IndexesValid]
          refine Except.raises_foldlM hstart ?_
          intro st feature hst _
          obtain ⟨hraises, hkeep⟩ := prepareItem_spec env hp
            ((List.lookup "coordRefSys" _).getD .null) hst feature.2 feature.1
          rw [prepareStep]
          split
          · refine ⟨Except.raises_ok _, ?_⟩
            rintro st' ⟨⟩
            exact hst
          · exact ⟨hraises, hkeep⟩
        · split
          · intro e he
            cases he
            exact ⟨_, rfl⟩
          · exact Except.raises_pure _
      · exact raises_invalid _
    · exact raises_invalid _
  · exact raises_invalid _

end Gcimport
