/-
Editing a feature on the map (`gcmapview`: `mapViewData.ts`, `mapViewGeometry.ts`,
`useFeatureEditing.ts`).

A feature is loaded with `getFeature`, which hides missing heights, its positions
are listed by `sourcePositions`, and a commit sends `featureWithUpdatedPositions`
to the server.  A thrown error is the `Except` of its message.
-/
import Topogdb.Geocomponents.Write
import Topogdb.Lib.Nested

namespace Gcmapview

/-- `[number, number, ...number[]]`, over the numbers of JSON or others. -/
structure Position (R : Type := ℚ) where
  x : R
  y : R
  rest : List R
deriving DecidableEq

/-- `Position | Coordinates[]`. -/
abbrev Coordinates (R : Type := ℚ) := Nested (Position R)

/-- A geometry: `coordinates`, if it has any, and its other members. -/
structure FeatureGeometry (R : Type := ℚ) where
  coordinates : Option (Coordinates R)
  members : List (String × Json)

/-- A feature: its geometry, and its other members. -/
structure Feature (R : Type := ℚ) where
  geometry : Option (FeatureGeometry R)
  members : List (String × Json)

/-- `feature.geometry?.coordinates`. -/
def Feature.coordinates {R : Type} (feature : Feature R) : Option (Coordinates R) :=
  feature.geometry.bind (·.coordinates)

/-! ### As JSON -/

def Position.json (p : Position) : Json := .arr (.num p.x :: .num p.y :: p.rest.map .num)

mutual

def coordinatesJson : Coordinates → Json
  | .leaf p => p.json
  | .node children => .arr (coordinatesJsonAll children)

def coordinatesJsonAll : List Coordinates → List Json
  | [] => []
  | c :: cs => coordinatesJson c :: coordinatesJsonAll cs

end

def FeatureGeometry.json (geometry : FeatureGeometry) : Json :=
  match geometry.coordinates with
  | none => .obj geometry.members
  | some c => .obj (geometry.members ++ [("coordinates", coordinatesJson c)])

/-- `JSON.stringify(feature)`. -/
def Feature.json (feature : Feature) : Json :=
  .obj (("geometry", (feature.geometry.map FeatureGeometry.json).getD .null) :: feature.members)

/-! ### Loading -/

/-- `MISSING_HEIGHT_Z`. -/
def missingHeightZ : ℚ := -99999

/-- `sanitizeMissingHeightPosition`. -/
def sanitizeMissingHeightPosition (p : Position) : Position :=
  if p.rest.head? = some missingHeightZ then { p with rest := [] } else p

/-- `sanitizeMissingHeightCoordinates`. -/
def sanitizeMissingHeightCoordinates (c : Coordinates) : Coordinates :=
  c.map sanitizeMissingHeightPosition

/-- `sanitizeMissingHeightFeature`. -/
def sanitizeMissingHeightFeature (feature : Feature) : Feature :=
  { feature with
    geometry := feature.geometry.map fun g =>
      { g with coordinates := g.coordinates.map sanitizeMissingHeightCoordinates } }

/-- `getFeature`, of the feature in the response. -/
def getFeature (response : Feature) : Feature := sanitizeMissingHeightFeature response

section Positions

variable {R : Type}

/-- `sourcePositions`. -/
def sourcePositions (feature : Feature R) : List (Position R) :=
  match feature.coordinates with
  | none => []
  | some c => c.leaves

/-! ### Committing -/

variable [DecidableEq R]

/-- `positionsEqualXY`. -/
def positionsEqualXY (left right : Position R) : Bool := left.x = right.x && left.y = right.y

/-- The pair that an array adds: the ends of a sequence of positions closed in XY.
An end that is an array equals no number. -/
def closedPair (children : List (Coordinates R)) (startIndex : ℕ) : List (ℕ × ℕ) :=
  match children.head?, children.getLast? with
  | some (.leaf first), some (.leaf last) =>
    if children.length > 1 && positionsEqualXY first last then
      [(startIndex, startIndex + children.length - 1)]
    else []
  | _, _ => []

mutual

/-- `collectClosedPositionPairs`: the next index and the pairs. -/
def collectClosedPositionPairs : Coordinates R → ℕ → List (ℕ × ℕ) → ℕ × List (ℕ × ℕ)
  | .leaf _, startIndex, pairs => (startIndex + 1, pairs)
  | .node children, startIndex, pairs =>
    collectChildPairs children startIndex (pairs ++ closedPair children startIndex)

/-- Its loop over the children. -/
def collectChildPairs : List (Coordinates R) → ℕ → List (ℕ × ℕ) → ℕ × List (ℕ × ℕ)
  | [], nextIndex, pairs => (nextIndex, pairs)
  | child :: children, nextIndex, pairs =>
    let result := collectClosedPositionPairs child nextIndex pairs
    collectChildPairs children result.1 result.2

end

def unmatchedPositions : String := "Kunne ikke matche redigerte posisjoner mot geometrien."

/-- One pair of the loop of `normalizeClosedPositions`. -/
def normalizePair (originalPositions : List (Position R)) (nextPositions : List (Position R))
    (pair : ℕ × ℕ) : Except String (List (Position R)) :=
  match nextPositions[pair.1]?, nextPositions[pair.2]?,
    originalPositions[pair.1]?, originalPositions[pair.2]? with
  | some firstPosition, some lastPosition, some originalFirst, some originalLast =>
    let firstChanged := !positionsEqualXY firstPosition originalFirst
    let lastChanged := !positionsEqualXY lastPosition originalLast
    if firstChanged && lastChanged && !positionsEqualXY firstPosition lastPosition then
      .error "Lukkede ringer må beholde samme første og siste punkt."
    else if firstChanged && !lastChanged then
      .ok (nextPositions.set pair.2 firstPosition)
    else if !firstChanged && lastChanged then
      .ok (nextPositions.set pair.1 lastPosition)
    else .ok (nextPositions.set pair.2 firstPosition)
  | _, _, _, _ => .error unmatchedPositions

/-- `normalizeClosedPositions`. -/
def normalizeClosedPositions (feature : Feature R) (editedPositions : List (Position R)) :
    Except String (List (Position R)) :=
  match feature.coordinates with
  | none => .ok editedPositions
  | some coordinates =>
    (collectClosedPositionPairs coordinates 0 []).2.foldlM
      (normalizePair (sourcePositions feature)) editedPositions

mutual

/-- `replaceCoordinatesFromPositions`: the coordinates and the next index. -/
def replaceCoordinatesFromPositions (positions : List (Position R)) :
    Coordinates R → ℕ → Except String (Coordinates R × ℕ)
  | .leaf _, nextPositionIndex =>
    match positions[nextPositionIndex]? with
    | none => .error unmatchedPositions
    | some nextPosition => .ok (.leaf nextPosition, nextPositionIndex + 1)
  | .node children, nextPositionIndex => do
    let (children, nextPositionIndex) ← replaceChildren positions children nextPositionIndex
    .ok (.node children, nextPositionIndex)

def replaceChildren (positions : List (Position R)) :
    List (Coordinates R) → ℕ → Except String (List (Coordinates R) × ℕ)
  | [], nextPositionIndex => .ok ([], nextPositionIndex)
  | child :: children, nextPositionIndex => do
    let (child, nextPositionIndex) ←
      replaceCoordinatesFromPositions positions child nextPositionIndex
    let (children, nextPositionIndex) ← replaceChildren positions children nextPositionIndex
    .ok (child :: children, nextPositionIndex)

end

/-- `featureWithUpdatedPositions`. -/
def featureWithUpdatedPositions (feature : Feature R) (editedPositions : List (Position R)) :
    Except String (Feature R) :=
  match feature.geometry, feature.coordinates with
  | some geometry, some coordinates => do
    let normalizedPositions ← normalizeClosedPositions feature editedPositions
    let (nextCoordinates, nextPositionIndex) ←
      replaceCoordinatesFromPositions normalizedPositions coordinates 0
    if nextPositionIndex ≠ normalizedPositions.length then
      .error "Kunne ikke matche alle redigerte posisjoner mot geometrien."
    else
      .ok { feature with geometry := some { geometry with coordinates := some nextCoordinates } }
  | _, _ => .error "Det valgte objektet har ingen redigerbar geometri."

end Positions

/-! ### The way of a stored geometry -/

section Stored

open Geocomponents

variable {Geometry : Type} (gis : PostGIS Geometry) (asGeoJSON : Geometry → FeatureGeometry)

/-- What `feature_replace` does with the geometry of its body; the rest of the body,
its links and properties, is taken as accepted. -/
def putGeometry (coll : CollectionPlan) (feature : Option Json) :
    Except SqlError (Option Geometry) := do
  geomChecks gis coll false feature
  geometryValue gis coll feature

/-- The stored geometry after it was loaded, committed with the positions it was
loaded with, and put; a commit that throws and a PUT that is refused store
nothing. -/
def storedAfterEditing (coll : CollectionPlan) (members : List (String × Json))
    (stored : Option Geometry) : Option Geometry :=
  let feature := getFeature ⟨stored.map asGeoJSON, members⟩
  match featureWithUpdatedPositions feature (sourcePositions feature) with
  | .error _ => stored
  | .ok body =>
    match putGeometry gis coll (some body.json) with
    | .error _ => stored
    | .ok geometry => geometry

end Stored

end Gcmapview
