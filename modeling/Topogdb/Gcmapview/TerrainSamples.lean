/-
The worker that draws heights has no map (`elevatedSourcesShared.ts`,
`elevatedSourcesWorker.ts`).

It is sent the terrain at the points of `terrainSamplePointsForFeatureCollections`,
in a table by their rounded position, and what it draws is what the map itself
would draw:

* `extrusions_congr` — the drawing asks for the terrain at vertices and centres of
  visible layers only;
* `lookup_collectTerrainSamples` — at each of them the table has the terrain of a
  point that is rounded to the same position;
* **`elevatedSourcesWorker_sampled`** — so the worker draws with the terrain of points
  that are less than one hundred-thousandth of a degree off.
-/
import Topogdb.Gcmapview.Elevated

namespace Gcmapview

open Decimals Python

/-! ### Where the terrain is asked for -/

theorem mem_leaves_of_mem_positionArray {c : Coordinates} {p : Position}
    (h : p ∈ positionArray c) : p ∈ c.leaves := by
  cases c with
  | leaf q => exact absurd h List.not_mem_nil
  | node children =>
    obtain ⟨child, hchild, hp⟩ := List.mem_flatMap.mp h
    rw [Nested.leaves_node]
    refine List.mem_flatMap.mpr ⟨child, hchild, ?_⟩
    cases child with
    | leaf q => exact hp
    | node _ => exact absurd hp List.not_mem_nil

theorem mem_leaves_of_mem_arrayOf {c child : Coordinates} (hchild : child ∈ arrayOf c)
    {p : Position} (hp : p ∈ child.leaves) : p ∈ c.leaves := by
  cases c with
  | leaf q => exact absurd hchild List.not_mem_nil
  | node children =>
    rw [Nested.leaves_node]
    exact List.mem_flatMap.mpr ⟨child, hchild, hp⟩

/-- A vertex of a line is a position of its feature. -/
theorem mem_sourcePositions {feature : Feature} {coordinates : List Position}
    (hline : coordinates ∈ lineCoordinateSets feature) {p : Position} (hp : p ∈ coordinates) :
    p ∈ sourcePositions feature := by
  cases hg : feature.geometry with
  | none =>
    rw [lineCoordinateSets, hg] at hline
    exact absurd hline List.not_mem_nil
  | some geometry =>
    cases hc : feature.coordinates with
    | none =>
      rw [lineCoordinateSets, hg, hc] at hline
      exact absurd hline List.not_mem_nil
    | some c =>
      rw [lineCoordinateSets, hg, hc] at hline
      rw [sourcePositions, hc]
      simp only at hline
      split at hline
      · rw [List.mem_singleton] at hline
        exact mem_leaves_of_mem_positionArray (hline ▸ hp)
      · split at hline
        · obtain ⟨child, hchild, rfl⟩ := List.mem_map.mp hline
          exact mem_leaves_of_mem_arrayOf hchild (mem_leaves_of_mem_positionArray hp)
        · exact absurd hline List.not_mem_nil

theorem zipWith_congr {α β γ : Type*} {f g : α → β → γ} {as : List α} {bs : List β}
    (h : ∀ a ∈ as, ∀ b ∈ bs, f a b = g a b) : List.zipWith f as bs = List.zipWith g as bs := by
  induction as generalizing bs with
  | nil => rfl
  | cons a as ih =>
    cases bs with
    | nil => rfl
    | cons b bs =>
      have hrest : List.zipWith f as bs = List.zipWith g as bs :=
        ih fun a ha b hb => h a (List.mem_cons_of_mem _ ha) b (List.mem_cons_of_mem _ hb)
      rw [List.zipWith_cons_cons, List.zipWith_cons_cons, hrest,
        h a List.mem_cons_self b List.mem_cons_self]

/-- The points of a layer of lines. -/
def linePoints (featureCollection : List Feature) : List (ℚ × ℚ) :=
  featureCollection.flatMap fun feature => (sourcePositions feature).map Position.xy

/-- The points of a layer of areas. -/
def areaPoints (featureCollection : List Feature) : List (ℚ × ℚ) :=
  featureCollection.flatMap fun feature => (featureCenter feature).toList

section Lookups

variable {math : JsMath} {offset : ℚ} {lookup lookup' : TerrainLookup}

theorem elevatedLineSegments_congr {featureCollection : List Feature}
    (h : ∀ p ∈ linePoints featureCollection, lookup p.1 p.2 = lookup' p.1 p.2)
    (widthMeters thicknessMeters : ℚ) (clampToGround : Bool) :
    elevatedLineSegments math offset (some lookup) featureCollection widthMeters thicknessMeters
        clampToGround =
      elevatedLineSegments math offset (some lookup') featureCollection widthMeters
        thicknessMeters clampToGround := by
  refine List.flatMap_congr fun feature hfeature => List.flatMap_congr fun coordinates hline => ?_
  have hground : ∀ p ∈ coordinates,
      groundAt (some lookup) p.x p.y = groundAt (some lookup') p.x p.y := by
    intro p hp
    refine h p.xy (List.mem_flatMap.mpr ⟨feature, hfeature, ?_⟩)
    exact List.mem_map_of_mem (mem_sourcePositions hline hp)
  refine zipWith_congr fun start hstart finish hfinish => ?_
  rw [elevatedSegment, elevatedSegment, hground start hstart,
    hground finish (List.mem_of_mem_tail hfinish)]

theorem bygningOmradeExtrusion_congr {featureCollection : List Feature}
    (h : ∀ p ∈ areaPoints featureCollection, lookup p.1 p.2 = lookup' p.1 p.2) :
    bygningOmradeExtrusionFeatureCollection offset (some lookup) featureCollection =
      bygningOmradeExtrusionFeatureCollection offset (some lookup') featureCollection := by
  rw [bygningOmradeExtrusionFeatureCollection, bygningOmradeExtrusionFeatureCollection]
  refine List.mapIdx_eq_mapIdx_iff.mpr fun index hindex => ?_
  have hground : ∀ center, featureCenter featureCollection[index] = some center →
      groundAt (some lookup) center.1 center.2 = groundAt (some lookup') center.1 center.2 := by
    intro center hcenter
    refine h center (List.mem_flatMap.mpr ⟨featureCollection[index], List.getElem_mem hindex, ?_⟩)
    rw [hcenter]
    exact List.mem_singleton_self center
  have hcontext : (heightContexts featureCollection)[index]? =
      some ⟨featureCenter featureCollection[index],
        featureHeightRange featureCollection[index]⟩ := by
    rw [heightContexts, List.getElem?_map, List.getElem?_eq_getElem hindex]
    rfl
  rw [extrudedArea, extrudedArea, hcontext]
  cases hcenter : featureCenter featureCollection[index] with
  | none => rfl
  | some center =>
    simp only [Option.bind_some]
    rw [hground center hcenter]

/-- The points that the drawing of the visible layers looks the terrain up at. -/
def drawnPoints (collections : ElevatedLayers (List Feature)) (visibility : ElevatedLayers Bool) :
    List (ℚ × ℚ) :=
  (if visibility.platformEdges then linePoints collections.platformEdges else []) ++
    (if visibility.trackCentres then linePoints collections.trackCentres else []) ++
    (if visibility.bygning then linePoints collections.bygning else []) ++
    (if visibility.bygningSenterlinje then linePoints collections.bygningSenterlinje else []) ++
    (if visibility.bygningOmrade then areaPoints collections.bygningOmrade else [])

/-- Lookups that agree on these points give the same drawing. -/
theorem extrusions_congr {collections : ElevatedLayers (List Feature)}
    {visibility : ElevatedLayers Bool}
    (h : ∀ p ∈ drawnPoints collections visibility, lookup p.1 p.2 = lookup' p.1 p.2)
    (adjustHeights : Bool) (clearance : ℚ) :
    extrusions math collections visibility adjustHeights clearance (some lookup) =
      extrusions math collections visibility adjustHeights clearance (some lookup') := by
  have hbane (p : ℚ × ℚ) (hp : lookup p.1 p.2 = lookup' p.1 p.2) :
      baneTerrainLookup clearance lookup p.1 p.2 = baneTerrainLookup clearance lookup' p.1 p.2 := by
    rw [baneTerrainLookup, baneTerrainLookup, hp]
  simp only [drawnPoints, List.mem_append] at h
  unfold extrusions
  simp only [Option.map_some, Option.isSome_some, ElevatedLayers.mk.injEq]
  -- layer by layer; the two of the railway look below the terrain
  refine ⟨?_, ?_, ?_, ?_, ?_⟩
  · split
    · rename_i hvisible
      refine elevatedLineSegments_congr (fun p hp => hbane p (h p ?_)) _ _ _
      rw [if_pos hvisible]
      exact .inl (.inl (.inl (.inl hp)))
    · rfl
  · split
    · rename_i hvisible
      refine elevatedLineSegments_congr (fun p hp => hbane p (h p ?_)) _ _ _
      rw [if_pos hvisible]
      exact .inl (.inl (.inl (.inr hp)))
    · rfl
  · split
    · rename_i hvisible
      refine elevatedLineSegments_congr (fun p hp => h p ?_) _ _ _
      rw [if_pos hvisible]
      exact .inl (.inl (.inr hp))
    · rfl
  · split
    · rename_i hvisible
      refine elevatedLineSegments_congr (fun p hp => h p ?_) _ _ _
      rw [if_pos hvisible]
      exact .inl (.inr hp)
    · rfl
  · split
    · rename_i hvisible
      refine bygningOmradeExtrusion_congr fun p hp => h p ?_
      rw [if_pos hvisible]
      exact .inr hp
    · rfl

end Lookups

/-! ### What the table has -/

/-- A point under its key. -/
def keyed (p : ℚ × ℚ) : String × ℚ × ℚ := (terrainSampleKey p.1 p.2, p)

theorem foldl_addPoint (points : List (String × ℚ × ℚ)) (more : List (ℚ × ℚ)) :
    more.foldl addPoint points =
      (more.map keyed).foldl (fun points e => dictSet points e.1 e.2) points := by
  rw [List.foldl_map]
  rfl

theorem addCollectionCoordinates_eq (points : List (String × ℚ × ℚ))
    (featureCollection : List Feature) :
    addCollectionCoordinates points featureCollection =
      (linePoints featureCollection).foldl addPoint points := by
  rw [addCollectionCoordinates, linePoints, List.foldl_flatMap]

theorem addFeatureCenters_eq (points : List (String × ℚ × ℚ)) (featureCollection : List Feature) :
    addFeatureCenters points featureCollection =
      (areaPoints featureCollection).foldl addPoint points := by
  rw [addFeatureCenters, areaPoints, List.foldl_flatMap]

/-- The table of points is the dictionary of the drawn ones: the last of a key stays. -/
theorem terrainSamplePoints_eq (collections : ElevatedLayers (List Feature))
    (visibility : ElevatedLayers Bool) :
    terrainSamplePoints collections visibility =
      dictOf ((drawnPoints collections visibility).map keyed) := by
  have hfold (more : List (ℚ × ℚ)) (visible : Bool) (points : List (String × ℚ × ℚ)) :
      (if visible then more.foldl addPoint points else points) =
        (if visible then more else []).foldl addPoint points := by
    cases visible <;> rfl
  rw [dictOf, ← foldl_addPoint, drawnPoints, List.foldl_append, List.foldl_append,
    List.foldl_append, List.foldl_append]
  simp only [terrainSamplePoints, addCollectionCoordinates_eq, addFeatureCenters_eq, hfold]

variable {collections : ElevatedLayers (List Feature)} {visibility : ElevatedLayers Bool}

theorem mem_terrainSamplePoints {e : String × ℚ × ℚ}
    (h : e ∈ terrainSamplePoints collections visibility) :
    e.1 = terrainSampleKey e.2.1 e.2.2 ∧ e.2 ∈ drawnPoints collections visibility := by
  rw [terrainSamplePoints_eq] at h
  obtain ⟨p, hp, rfl⟩ := List.mem_map.mp (mem_dictOf h)
  exact ⟨rfl, hp⟩

theorem nodup_terrainSamplePoints :
    ((terrainSamplePoints collections visibility).map Prod.fst).Nodup := by
  rw [terrainSamplePoints_eq]
  exact nodup_dictOf _

/-- The samples as the dictionary of the terrain at the points. -/
theorem collectTerrainSamples_eq (terrainElevationAt : TerrainLookup) :
    collectTerrainSamples terrainElevationAt collections visibility =
      dictOf ((terrainSamplePoints collections visibility).filterMap fun e =>
        (terrainElevationAt e.2.1 e.2.2).map fun terrainElevation => (e.1, terrainElevation)) := by
  have hfold (f : List (String × ℚ) → ℚ × ℚ → List (String × ℚ))
      (hsome : ∀ samples p terrainElevation, terrainElevationAt p.1 p.2 = some terrainElevation →
        f samples p = dictSet samples (terrainSampleKey p.1 p.2) terrainElevation)
      (hnone : ∀ samples p, terrainElevationAt p.1 p.2 = none → f samples p = samples)
      (points : List (String × ℚ × ℚ)) (samples : List (String × ℚ))
      (hkeys : ∀ e ∈ points, e.1 = terrainSampleKey e.2.1 e.2.2) :
      (points.map Prod.snd).foldl f samples =
        (points.filterMap fun e => (terrainElevationAt e.2.1 e.2.2).map fun terrainElevation =>
          (e.1, terrainElevation)).foldl (fun d e => dictSet d e.1 e.2) samples := by
    induction points generalizing samples with
    | nil => rfl
    | cons e points ih =>
      have hrest := fun samples =>
        ih samples fun e he => hkeys e (List.mem_cons_of_mem _ he)
      rw [List.map_cons, List.foldl_cons, List.filterMap_cons, hrest]
      cases hterrain : terrainElevationAt e.2.1 e.2.2 with
      | none =>
        rw [hnone _ _ hterrain]
        rfl
      | some terrainElevation =>
        rw [hsome _ _ _ hterrain, ← hkeys e List.mem_cons_self]
        rfl
  rw [collectTerrainSamples, terrainSamplePointsForFeatureCollections]
  refine hfold _ (fun samples p terrainElevation hp => ?_) (fun samples p hp => ?_) _ []
    fun e he => (mem_terrainSamplePoints he).1
  · rw [hp]
  · rw [hp]

/-- The point that the sample of a point is taken at: one that is drawn and has its key. -/
def samplePoint (collections : ElevatedLayers (List Feature)) (visibility : ElevatedLayers Bool)
    (p : ℚ × ℚ) : ℚ × ℚ :=
  ((terrainSamplePoints collections visibility).lookup (terrainSampleKey p.1 p.2)).getD p

theorem terrainSampleKey_samplePoint (p : ℚ × ℚ) :
    terrainSampleKey (samplePoint collections visibility p).1
      (samplePoint collections visibility p).2 = terrainSampleKey p.1 p.2 := by
  rw [samplePoint]
  cases hlookup : (terrainSamplePoints collections visibility).lookup
      (terrainSampleKey p.1 p.2) with
  | none => rfl
  | some q => exact (mem_terrainSamplePoints (mem_of_lookup hlookup)).1.symm

/-- A drawn point has a sample point. -/
theorem lookup_terrainSamplePoints {p : ℚ × ℚ} (hp : p ∈ drawnPoints collections visibility) :
    (terrainSamplePoints collections visibility).lookup (terrainSampleKey p.1 p.2) =
      some (samplePoint collections visibility p) := by
  have hsome : ((terrainSamplePoints collections visibility).lookup
      (terrainSampleKey p.1 p.2)).isSome := by
    rw [terrainSamplePoints_eq, lookup_dictOf_isSome, List.map_map]
    exact List.mem_map_of_mem hp
  obtain ⟨q, hq⟩ := Option.isSome_iff_exists.mp hsome
  rw [samplePoint, hq]
  rfl

/-- A drawn point has the terrain of its sample point in the table. -/
theorem lookup_collectTerrainSamples (terrainElevationAt : TerrainLookup) {p : ℚ × ℚ}
    (hp : p ∈ drawnPoints collections visibility) :
    (collectTerrainSamples terrainElevationAt collections visibility).lookup
        (terrainSampleKey p.1 p.2) =
      terrainElevationAt (samplePoint collections visibility p).1
        (samplePoint collections visibility p).2 := by
  have hkey := lookup_terrainSamplePoints hp
  have hmem := mem_of_lookup hkey
  -- no other point has this key
  have honly : ∀ e ∈ terrainSamplePoints collections visibility,
      e.1 = terrainSampleKey p.1 p.2 → e.2 = samplePoint collections visibility p := by
    intro e he hek
    have hlookup := lookup_of_mem nodup_terrainSamplePoints he
    rw [hek, hkey] at hlookup
    exact (Option.some.inj hlookup).symm
  rw [collectTerrainSamples_eq]
  cases hterrain : terrainElevationAt (samplePoint collections visibility p).1
      (samplePoint collections visibility p).2 with
  | some terrainElevation =>
    refine lookup_dictOf_of_unique (List.mem_filterMap.mpr ⟨_, hmem, ?_⟩) ?_
    · simp only [hterrain, Option.map_some]
    · intro elevation helevation
      obtain ⟨e, he, heq⟩ := List.mem_filterMap.mp helevation
      obtain ⟨elevation', hat, heq⟩ := Option.map_eq_some_iff.mp heq
      have hpoint := honly e he (congrArg Prod.fst heq)
      rw [hpoint, hterrain] at hat
      exact (congrArg Prod.snd heq).symm.trans (Option.some.inj hat).symm
  | none =>
    refine Option.not_isSome_iff_eq_none.mp fun hsome => ?_
    rw [lookup_dictOf_isSome] at hsome
    obtain ⟨sample, hsample, hk⟩ := List.mem_map.mp hsome
    obtain ⟨e, he, heq⟩ := List.mem_filterMap.mp hsample
    obtain ⟨elevation, hat, heq⟩ := Option.map_eq_some_iff.mp heq
    have hpoint := honly e he ((congrArg Prod.fst heq).trans hk)
    rw [hpoint, hterrain] at hat
    cases hat

/-! ### The worker draws what the map would draw -/

/-- **The worker draws with the terrain of the map**, each height taken at a drawn point
less than one hundred-thousandth of a degree away. -/
theorem elevatedSourcesWorker_sampled (math : JsMath) {Map : Type}
    (pendingRequest : PendingElevatedSourcesRequest Map) (terrain : Option TerrainLookup) :
    ∃ snap : ℚ × ℚ → ℚ × ℚ,
      (∀ p, |(snap p).1 - p.1| * 10 ^ 5 < 1 ∧ |(snap p).2 - p.2| * 10 ^ 5 < 1) ∧
      (∀ p ∈ drawnPoints pendingRequest.collections pendingRequest.visibility,
        snap p ∈ drawnPoints pendingRequest.collections pendingRequest.visibility) ∧
      (elevatedSourcesWorker math (workerRequest pendingRequest terrain)).data =
        extrusions math pendingRequest.collections pendingRequest.visibility
          pendingRequest.adjustHeights baneTerrainClearance
          (if pendingRequest.adjustHeights then none
            else terrain.map fun lookup longitude latitude =>
              lookup (snap (longitude, latitude)).1 (snap (longitude, latitude)).2) := by
  refine ⟨samplePoint pendingRequest.collections pendingRequest.visibility, ?_, ?_, ?_⟩
  · intro p
    obtain ⟨hlongitude, hlatitude⟩ := toFixed_pair_inj (terrainSampleKey_samplePoint p)
    exact ⟨toFixed_close hlongitude, toFixed_close hlatitude⟩
  · intro p hp
    exact (mem_terrainSamplePoints (mem_of_lookup (lookup_terrainSamplePoints hp))).2
  · cases hadjust : pendingRequest.adjustHeights with
    | true => simp [elevatedSourcesWorker, workerRequest, hadjust]
    | false =>
      cases terrain with
      | none => simp [elevatedSourcesWorker, workerRequest, hadjust]
      | some terrainElevationAt =>
        simp only [elevatedSourcesWorker, workerRequest, hadjust, Option.isSome_some,
          Bool.not_false, Bool.and_self, if_true, Bool.false_eq_true, if_false, Option.map_some]
        exact extrusions_congr (fun p hp => lookup_collectTerrainSamples terrainElevationAt hp) _ _

end Gcmapview
