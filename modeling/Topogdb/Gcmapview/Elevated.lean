/-
Features drawn in three dimensions (`gcmapview`: `map3d.ts`, `bygningOmradeLayers.ts`,
`elevatedSourcesShared.ts`, and the worker `elevatedSourcesWorker.ts`).

Lines become beams at their height, `elevatedLineSegments`, and areas stand on
their lowest height, `bygningOmradeExtrusionFeatureCollection`.  With terrain the
heights are above the ground, which a lookup gives; the worker has no map, and its
lookup is the table of samples that `terrainSamplePointsForFeatureCollections` asks
for.  `extrusions` is what both are for: the features of every layer with one
lookup.

Numbers are exact, and `JsMath` gives the functions that are not.
-/
import Topogdb.Gcmapview.Positions
import Topogdb.Lib.Decimals
import Topogdb.Lib.Python

namespace Gcmapview

open Decimals Python

/-- `Math.PI`, `Math.cos` and `Math.hypot`. -/
structure JsMath where
  pi : ℚ
  cos : ℚ → ℚ
  hypot : ℚ → ℚ → ℚ

/-- A lookup of the terrain at a longitude and a latitude. -/
abbrev TerrainLookup := ℚ → ℚ → Option ℚ

/-- One thing for every layer that is drawn in three dimensions. -/
structure ElevatedLayers (α : Type) where
  platformEdges : α
  trackCentres : α
  bygning : α
  bygningSenterlinje : α
  bygningOmrade : α

/-! ### Coordinates of a type -/

/-- The geometry is of a type. -/
def FeatureGeometry.isOfType (geometry : FeatureGeometry) (type : String) : Bool :=
  (geometry.members.lookup "type").bind Json.str? = some type

/-- The coordinates as an array. -/
def arrayOf : Coordinates → List Coordinates
  | .leaf _ => []
  | .node children => children

/-- The coordinates as `Position[]`. -/
def positionArray (c : Coordinates) : List Position :=
  (arrayOf c).flatMap fun
    | .leaf p => [p]
    | .node _ => []

/-- `lineCoordinateSets`. -/
def lineCoordinateSets (feature : Feature) : List (List Position) :=
  match feature.geometry, feature.coordinates with
  | some geometry, some c =>
    if geometry.isOfType "LineString" then [positionArray c]
    else if geometry.isOfType "MultiLineString" then (arrayOf c).map positionArray
    else []
  | _, _ => []

/-- The rings that the loops over `Polygon` and `MultiPolygon` visit. -/
def rings (feature : Feature) : List (List Position) :=
  match feature.geometry, feature.coordinates with
  | some geometry, some c =>
    if geometry.isOfType "Polygon" then (arrayOf c).map positionArray
    else if geometry.isOfType "MultiPolygon" then
      (arrayOf c).flatMap fun polygon => (arrayOf polygon).map positionArray
    else []
  | _, _ => []

/-- The mean of points; none have none. -/
def mean (points : List (ℚ × ℚ)) : Option (ℚ × ℚ) :=
  if points = [] then none
  else
    let sum := points.foldl (fun sum point => (sum.1 + point.1, sum.2 + point.2)) (0, 0)
    some (sum.1 / points.length, sum.2 / points.length)

/-- `polygonCenter`. -/
def polygonCenter (coordinates : List Position) : Option (ℚ × ℚ) :=
  mean (coordinates.map Position.xy)

/-- `featureCenter`, of `elevatedSourcesShared.ts` and of `bygningOmradeLayers.ts`. -/
def featureCenter (feature : Feature) : Option (ℚ × ℚ) :=
  mean ((rings feature).filterMap polygonCenter)

/-! ### Heights -/

structure HeightRange where
  minimum : ℚ
  maximum : ℚ
deriving DecidableEq

/-- The range with a height in it; the empty one is infinity and 0. -/
def HeightRange.widen (range : Option HeightRange) (z : ℚ) : HeightRange :=
  match range with
  | none => ⟨z, max 0 z⟩
  | some range => ⟨min range.minimum z, max range.maximum z⟩

/-- The range of the heights above 0. -/
def positiveHeightRange (positions : List Position) : Option HeightRange :=
  positions.foldl (fun range p =>
    match p.rest.head? with
    | some z => if 0 < z then some (HeightRange.widen range z) else range
    | none => range) none

/-- `featurePositiveHeightRange`. -/
def featurePositiveHeightRange (feature : Feature) : Option HeightRange :=
  positiveHeightRange (lineCoordinateSets feature).flatten

/-- `MAX_LINE_HEIGHT_RANGE_M` and `MAX_BYGNING_OMRADE_HEIGHT_RANGE_M`. -/
def maxHeightRange : ℚ := 50

/-- `isPlausibleHeightRange`, of a range. -/
def isPlausibleHeightRange (range : HeightRange) : Bool :=
  range.minimum ≤ range.maximum && range.maximum - range.minimum ≤ maxHeightRange

/-- `polygonCoordinateHeightRange`. -/
def polygonCoordinateHeightRange (coordinates : List Position) : Option HeightRange :=
  (positiveHeightRange coordinates).filter isPlausibleHeightRange

/-- `featureHeightRange`, with the loops of `mergeRange`. -/
def featureHeightRange (feature : Feature) : Option HeightRange :=
  ((rings feature).filterMap polygonCoordinateHeightRange).foldl (fun merged range =>
    match merged with
    | none => some ⟨range.minimum, max 0 range.maximum⟩
    | some merged => some ⟨min merged.minimum range.minimum, max merged.maximum range.maximum⟩) none

/-- `percentile`. -/
def percentile (sortedValues : List ℚ) (fraction : ℚ) : ℚ :=
  if sortedValues = [] then 0
  else
    let index := ((sortedValues.length - 1 : ℕ) : ℚ) * fraction
    let lowerIndex := ⌊index⌋.toNat
    let upperIndex := ⌈index⌉.toNat
    let lowerValue := sortedValues[lowerIndex]?.getD (sortedValues.getLast?.getD 0)
    let upperValue := sortedValues[upperIndex]?.getD lowerValue
    if lowerIndex = upperIndex then lowerValue
    else lowerValue + (upperValue - lowerValue) * (index - lowerIndex)

/-- `lowestPositiveLineHeight`. -/
def lowestPositiveLineHeight (featureCollections : List (List Feature)) : ℚ :=
  let minimumHeights := featureCollections.flatMap fun featureCollection =>
    featureCollection.flatMap fun feature =>
      match featurePositiveHeightRange feature with
      | none => []
      | some range => if range.maximum - range.minimum > maxHeightRange then [] else [range.minimum]
  let sortedMinimumHeights := minimumHeights.insertionSort (· ≤ ·)
  let firstQuartile := percentile sortedMinimumHeights (1 / 4)
  let thirdQuartile := percentile sortedMinimumHeights (3 / 4)
  let interquartileRange := thirdQuartile - firstQuartile
  let lowerFence := firstQuartile - interquartileRange * (3 / 2)
  let filteredMinimumHeights := sortedMinimumHeights.filter (lowerFence ≤ ·)
  (filteredMinimumHeights.head?.or sortedMinimumHeights.head?).getD 0

/-- `lowestPositiveBygningOmradeHeight`. -/
def lowestPositiveBygningOmradeHeight (featureCollection : List Feature) : ℚ :=
  (featureCollection.foldl (fun minimum feature =>
    match featureHeightRange feature with
    | some range =>
      if isPlausibleHeightRange range && 0 < range.minimum then
        some (minimum.elim range.minimum (min range.minimum))
      else minimum
    | none => minimum) none).getD 0

/-- `adjustedHeight`. -/
def adjustedHeight (z : Option ℚ) (heightOffset : ℚ) : ℚ :=
  match z with
  | none => 0
  | some z => if z ≤ 0 then 0 else max 0 (z - heightOffset)

/-- `terrainAdjustedElevation`, and `terrainAdjustedHeight` of `bygningOmradeLayers.ts`. -/
def terrainAdjustedElevation (terrainElevationMeters z : Option ℚ) (heightOffset : ℚ) : ℚ :=
  let absoluteElevation := adjustedHeight z heightOffset
  if absoluteElevation ≤ 0 then 0
  else
    match terrainElevationMeters with
    | none => absoluteElevation
    | some terrain => max 0 (absoluteElevation - terrain)

/-! ### Properties -/

/-- `feature.properties ?? {}`. -/
def Feature.properties (feature : Feature) : List (String × Json) :=
  match feature.members.lookup "properties" with
  | some (.obj members) => members
  | _ => []

/-- `{ ...members, ...more }`. -/
def spread (members more : List (String × Json)) : List (String × Json) :=
  more.foldl (fun members member => dictSet members member.1 member.2) members

/-- `numericProperty`. -/
def numericProperty (properties : List (String × Json)) (propertyName : String) : Option ℚ :=
  match properties.lookup propertyName with
  | some (.num value) => some value
  | _ => none

/-- The heights that the map draws a feature with. -/
def heightProperties (elevation base height : ℚ) : List (String × Json) :=
  [("elevation", .num elevation), ("base", .num base), ("height", .num height), ("zOffset", .num 0)]

/-! ### Lines -/

def elevatedLineWidth : ℚ := 3
def bygningElevatedLineWidth : ℚ := 1 / 4
def elevatedLineThickness : ℚ := 2
def bygningElevatedLineThickness : ℚ := 1

/-- `MIN_EXTRUSION_HEIGHT_M` and `MIN_BYGNING_OMRADE_EXTRUSION_HEIGHT_M`. -/
def minExtrusionHeight : ℚ := 1 / 2

/-- `segmentFootprint`. -/
def segmentFootprint (math : JsMath) (start finish : Position) (widthMeters : ℚ) : List Position :=
  let midLat := (start.y + finish.y) / 2 * math.pi / 180
  let metersPerDegLat := 110540
  let metersPerDegLon := 111320 * math.cos midLat
  let dx := (finish.x - start.x) * metersPerDegLon
  let dy := (finish.y - start.y) * metersPerDegLat
  let length := if math.hypot dx dy = 0 then 1 else math.hypot dx dy
  let dLon := -dy / length * (widthMeters / 2) / metersPerDegLon
  let dLat := dx / length * (widthMeters / 2) / metersPerDegLat
  [⟨start.x + dLon, start.y + dLat, []⟩, ⟨finish.x + dLon, finish.y + dLat, []⟩,
    ⟨finish.x - dLon, finish.y - dLat, []⟩, ⟨start.x - dLon, start.y - dLat, []⟩,
    ⟨start.x + dLon, start.y + dLat, []⟩]

section Extrusions

variable (math : JsMath) (heightOffset : ℚ) (terrainElevationAt : Option TerrainLookup)

/-- `terrainElevationAt?.(longitude, latitude)`. -/
def groundAt (longitude latitude : ℚ) : Option ℚ :=
  terrainElevationAt.bind fun lookup => lookup longitude latitude

/-- The beam of a segment, in the loop of `elevatedLineSegments`. -/
def elevatedSegment (widthMeters thicknessMeters : ℚ) (clampToGround : Bool) (feature : Feature)
    (start finish : Position) : Feature :=
  let extrusionThickness := max thicknessMeters minExtrusionHeight
  let halfThickness := extrusionThickness / 2
  let rawZ1 := terrainAdjustedElevation (groundAt terrainElevationAt start.x start.y)
    start.rest.head? heightOffset
  let rawZ2 := terrainAdjustedElevation (groundAt terrainElevationAt finish.x finish.y)
    finish.rest.head? heightOffset
  let rawMidZ := (rawZ1 + rawZ2) / 2
  let clampedMidZ := max 0 rawMidZ
  let isGroundLevel := rawMidZ ≤ 0
  let sourceHeight := numericProperty feature.properties "height"
  let base :=
    if clampToGround then clampedMidZ
    else if isGroundLevel then 0 else max 0 (rawMidZ - halfThickness)
  let height :=
    if clampToGround then max (base + minExtrusionHeight) (clampedMidZ + extrusionThickness)
    else if isGroundLevel then 0
    else max (base + minExtrusionHeight) (rawMidZ + halfThickness)
  { geometry := some
      { coordinates := some (.node [.node
          ((segmentFootprint math start finish widthMeters).map Nested.leaf)])
        members := [("type", .str "Polygon")] }
    members := ("type", .str "Feature") ::
      (feature.members.lookup "id").toList.map (fun id => ("id", id)) ++
      [("properties", .obj (spread feature.properties
        (sourceHeight.toList.map (fun height => ("sourceHeight", .num height)) ++
          heightProperties rawMidZ base height)))] }

/-- `elevatedLineSegments`. -/
def elevatedLineSegments (featureCollection : List Feature) (widthMeters thicknessMeters : ℚ)
    (clampToGround : Bool) : List Feature :=
  featureCollection.flatMap fun feature =>
    (lineCoordinateSets feature).flatMap fun coordinates =>
      List.zipWith (elevatedSegment math heightOffset terrainElevationAt widthMeters
        thicknessMeters clampToGround feature) coordinates coordinates.tail

/-! ### Areas -/

structure FeatureHeightContext where
  center : Option (ℚ × ℚ)
  range : Option HeightRange

/-- `contexts.find(context => context.range)?.range`. -/
def firstHeightRange (contexts : List FeatureHeightContext) : Option HeightRange :=
  (contexts.find? (·.range.isSome)).bind (·.range)

/-- One turn of the loop of `nearestFeatureHeightRange`: the nearest distance, infinite
at first, and the range there. -/
def nearer (targetIndex : ℕ) (targetCenter : ℚ × ℚ) (nearest : Option (ℚ × HeightRange))
    (candidate : FeatureHeightContext × ℕ) : Option (ℚ × HeightRange) :=
  match candidate.1.range, candidate.1.center with
  | some range, some center =>
    let dx := center.1 - targetCenter.1
    let dy := center.2 - targetCenter.2
    let distance := dx * dx + dy * dy
    if candidate.2 ≠ targetIndex ∧ nearest.all (fun nearest => distance < nearest.1) then
      some (distance, range)
    else nearest
  | _, _ => nearest

/-- `nearestFeatureHeightRange`. -/
def nearestFeatureHeightRange (contexts : List FeatureHeightContext) (targetIndex : ℕ) :
    Option HeightRange :=
  match contexts[targetIndex]?.bind (·.center) with
  | none => firstHeightRange contexts
  | some targetCenter =>
    ((contexts.zipIdx.foldl (nearer targetIndex targetCenter) none).map Prod.snd).or
      (firstHeightRange contexts)

/-- `topHeight`. -/
def topHeight (height currentBaseHeight : ℚ) : ℚ :=
  if height ≤ 0 then 0 else max (currentBaseHeight + minExtrusionHeight) height

/-- The area of a feature, in the loop of `bygningOmradeExtrusionFeatureCollection`. -/
def extrudedArea (contexts : List FeatureHeightContext) (index : ℕ) (feature : Feature) : Feature :=
  let context := contexts[index]?
  let range := (context.bind (·.range)).or (nearestFeatureHeightRange contexts index)
  let terrainElevation := (context.bind (·.center)).bind fun center =>
    groundAt terrainElevationAt center.1 center.2
  let base := terrainAdjustedElevation terrainElevation (range.map (·.minimum)) heightOffset
  let height := topHeight
    (terrainAdjustedElevation terrainElevation (range.map (·.maximum)) heightOffset) base
  { feature with
    members := dictSet feature.members "properties"
      (.obj (spread feature.properties (heightProperties height base height))) }

/-- The contexts of `bygningOmradeExtrusionFeatureCollection`. -/
def heightContexts (featureCollection : List Feature) : List FeatureHeightContext :=
  featureCollection.map fun feature => ⟨featureCenter feature, featureHeightRange feature⟩

/-- `bygningOmradeExtrusionFeatureCollection`. -/
def bygningOmradeExtrusionFeatureCollection (featureCollection : List Feature) : List Feature :=
  featureCollection.mapIdx
    (extrudedArea heightOffset terrainElevationAt (heightContexts featureCollection))

end Extrusions

/-! ### The worker -/

/-- `ElevatedSourcesWorkerRequest`. -/
structure ElevatedSourcesWorkerRequest where
  requestId : ℕ
  collections : ElevatedLayers (List Feature)
  visibility : ElevatedLayers Bool
  adjustHeights : Bool
  terrainEnabled : Bool
  baneTerrainClearanceMeters : ℚ
  terrainSamples : List (String × ℚ)

/-- `ElevatedSourcesWorkerResponse`. -/
structure ElevatedSourcesWorkerResponse where
  requestId : ℕ
  data : ElevatedLayers (List Feature)

/-- `heightSamples`. -/
def heightSamples (collections : ElevatedLayers (List Feature)) (visibility : ElevatedLayers Bool) :
    List ℚ :=
  ((if visibility.platformEdges then [lowestPositiveLineHeight [collections.platformEdges]]
      else []) ++
    (if visibility.trackCentres then [lowestPositiveLineHeight [collections.trackCentres]]
      else []) ++
    (if visibility.bygning then [lowestPositiveLineHeight [collections.bygning]] else []) ++
    (if visibility.bygningSenterlinje then
      [lowestPositiveLineHeight [collections.bygningSenterlinje]] else []) ++
    (if visibility.bygningOmrade then
      [lowestPositiveBygningOmradeHeight collections.bygningOmrade] else [])).filter (0 < ·)

/-- `heightOffset`. -/
def heightOffset (collections : ElevatedLayers (List Feature)) (visibility : ElevatedLayers Bool)
    (adjustHeights : Bool) : ℚ :=
  if adjustHeights then ((heightSamples collections visibility).min?).getD 0 else 0

/-- `baneTerrainLookup`. -/
def baneTerrainLookup (clearanceMeters : ℚ) (terrainLookup : TerrainLookup) : TerrainLookup :=
  fun longitude latitude => (terrainLookup longitude latitude).map (· - clearanceMeters)

/-- The features of every layer, with a lookup of the terrain where it is enabled. -/
def extrusions (math : JsMath) (collections : ElevatedLayers (List Feature))
    (visibility : ElevatedLayers Bool) (adjustHeights : Bool) (baneTerrainClearanceMeters : ℚ)
    (terrainLookup : Option TerrainLookup) : ElevatedLayers (List Feature) :=
  let offset := heightOffset collections visibility adjustHeights
  let baneTerrain := terrainLookup.map (baneTerrainLookup baneTerrainClearanceMeters)
  { platformEdges :=
      if visibility.platformEdges then
        elevatedLineSegments math offset baneTerrain collections.platformEdges elevatedLineWidth
          elevatedLineThickness terrainLookup.isSome
      else []
    trackCentres :=
      if visibility.trackCentres then
        elevatedLineSegments math offset baneTerrain collections.trackCentres elevatedLineWidth
          elevatedLineThickness terrainLookup.isSome
      else []
    bygning :=
      if visibility.bygning then
        elevatedLineSegments math offset terrainLookup collections.bygning bygningElevatedLineWidth
          bygningElevatedLineThickness false
      else []
    bygningSenterlinje :=
      if visibility.bygningSenterlinje then
        elevatedLineSegments math offset terrainLookup collections.bygningSenterlinje
          bygningElevatedLineWidth bygningElevatedLineThickness false
      else []
    bygningOmrade :=
      if visibility.bygningOmrade then
        bygningOmradeExtrusionFeatureCollection offset terrainLookup collections.bygningOmrade
      else [] }

/-- `terrainSampleKey`. -/
def terrainSampleKey (longitude latitude : ℚ) : String :=
  toFixed 5 longitude ++ ":" ++ toFixed 5 latitude

/-- `terrainLookupFromSamples`. -/
def terrainLookupFromSamples (terrainSamples : List (String × ℚ)) : TerrainLookup :=
  fun longitude latitude => terrainSamples.lookup (terrainSampleKey longitude latitude)

/-- `self.onmessage` of the worker: what it posts. -/
def elevatedSourcesWorker (math : JsMath) (request : ElevatedSourcesWorkerRequest) :
    ElevatedSourcesWorkerResponse where
  requestId := request.requestId
  data := extrusions math request.collections request.visibility request.adjustHeights
    request.baneTerrainClearanceMeters
    (if request.terrainEnabled then some (terrainLookupFromSamples request.terrainSamples)
      else none)

/-! ### Sampling the terrain -/

/-- The arguments of `upsertElevatedSources`. -/
structure ElevatedSourcesCall (Map : Type) where
  map : Map
  collections : ElevatedLayers (List Feature)
  visibility : ElevatedLayers Bool
  adjustHeights : Bool
  renderElevatedSources : Bool := true

/-- `PendingElevatedSourcesRequest`. -/
structure PendingElevatedSourcesRequest (Map : Type) extends ElevatedSourcesCall Map where
  requestId : ℕ

/-- `points.set(terrainSampleKey(longitude, latitude), [longitude, latitude])`. -/
def addPoint (points : List (String × ℚ × ℚ)) (point : ℚ × ℚ) : List (String × ℚ × ℚ) :=
  dictSet points (terrainSampleKey point.1 point.2) point

/-- `addCollectionCoordinates`. -/
def addCollectionCoordinates (points : List (String × ℚ × ℚ)) (featureCollection : List Feature) :
    List (String × ℚ × ℚ) :=
  featureCollection.foldl (fun points feature =>
    ((sourcePositions feature).map Position.xy).foldl addPoint points) points

/-- `addFeatureCenters`. -/
def addFeatureCenters (points : List (String × ℚ × ℚ)) (featureCollection : List Feature) :
    List (String × ℚ × ℚ) :=
  featureCollection.foldl (fun points feature =>
    (featureCenter feature).toList.foldl addPoint points) points

/-- The points of `terrainSamplePointsForFeatureCollections`, with their keys. -/
def terrainSamplePoints (collections : ElevatedLayers (List Feature))
    (visibility : ElevatedLayers Bool) : List (String × ℚ × ℚ) :=
  let points := if visibility.platformEdges then
    addCollectionCoordinates [] collections.platformEdges else []
  let points := if visibility.trackCentres then
    addCollectionCoordinates points collections.trackCentres else points
  let points := if visibility.bygning then
    addCollectionCoordinates points collections.bygning else points
  let points := if visibility.bygningSenterlinje then
    addCollectionCoordinates points collections.bygningSenterlinje else points
  if visibility.bygningOmrade then addFeatureCenters points collections.bygningOmrade else points

/-- `terrainSamplePointsForFeatureCollections`. -/
def terrainSamplePointsForFeatureCollections (collections : ElevatedLayers (List Feature))
    (visibility : ElevatedLayers Bool) : List (ℚ × ℚ) :=
  (terrainSamplePoints collections visibility).map Prod.snd

/-- `collectTerrainSamples`, of what the map answers to `queryTerrainElevation`. -/
def collectTerrainSamples (terrainElevationAt : TerrainLookup)
    (collections : ElevatedLayers (List Feature)) (visibility : ElevatedLayers Bool) :
    List (String × ℚ) :=
  (terrainSamplePointsForFeatureCollections collections visibility).foldl
    (fun terrainSamples point =>
      match terrainElevationAt point.1 point.2 with
      | some terrainElevation =>
        dictSet terrainSamples (terrainSampleKey point.1 point.2) terrainElevation
      | none => terrainSamples) []

/-- `BANE_TERRAIN_CLEARANCE_M`. -/
def baneTerrainClearance : ℚ := 2

/-- The `workerRequest` of `upsertElevatedSources`.  `terrain` is what the map answers
to `queryTerrainElevation`, nothing where `getTerrain` gives none. -/
def workerRequest {Map : Type} (pendingRequest : PendingElevatedSourcesRequest Map)
    (terrain : Option TerrainLookup) : ElevatedSourcesWorkerRequest where
  requestId := pendingRequest.requestId
  collections := pendingRequest.collections
  visibility := pendingRequest.visibility
  adjustHeights := pendingRequest.adjustHeights
  terrainEnabled := terrain.isSome && !pendingRequest.adjustHeights
  baneTerrainClearanceMeters := baneTerrainClearance
  terrainSamples :=
    match terrain, pendingRequest.adjustHeights with
    | some terrainElevationAt, false =>
      collectTerrainSamples terrainElevationAt pendingRequest.collections pendingRequest.visibility
    | _, _ => []

end Gcmapview
