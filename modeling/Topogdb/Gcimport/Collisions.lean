/-
The keys of prepared features (`gcimport/importer.py`, `prepare_document`).

The upsert is keyed by the collection and the first identity value, stripped;
duplicates are found by all identity values, as they stand after the property
transform.

* `isCollection_of_ok` — what is accepted is a collection of features;
* `distinctKeys_iff` — no two prepared features have one key exactly when the key
  of a feature decides its identity.
-/
import Topogdb.Gcimport.EventProtocol
import Topogdb.Gcimport.PreparedFeatures
import Topogdb.Lib.Related

namespace Gcimport

open Python

variable {env : Env} {profile : ImportProfile} {document : Json} {prepared : List PreparedFeature}

/-- The row of the upsert: the collection and the id. -/
def PreparedFeature.key (item : PreparedFeature) : String × String :=
  (item.collection, item.featureId)

/-- What is merged has one key. -/
theorem key_merge (a b c : PreparedFeature) (h : mergeDuplicateFeature profile a b = some c) :
    c.key = a.key ∧ c.key = b.key := by
  obtain ⟨hm, hcollection, hid, -, -⟩ := mergeDuplicateFeature_eq_some h
  have hkey : c.key = a.key := Prod.ext hcollection hid
  exact ⟨hkey, hkey.trans (Prod.ext hm.collection hm.featureId)⟩

/-- The features of a document. -/
def featuresOf (document : Json) : List Json :=
  match (membersOf document).lookup "features" with
  | some (.arr features) => features
  | _ => []

/-- An accepted document is a FeatureCollection. -/
theorem isCollection_of_ok (h : prepareDocument env profile document = .ok prepared) :
    ∃ members, document = .obj members ∧ IsCollection members (featuresOf document) := by
  rw [prepareDocument.eq_def] at h
  split at h
  · next members =>
    split at h
    · next htype =>
      split at h
      · next features hfeatures =>
        refine ⟨members, rfl, htype, ?_⟩
        rw [featuresOf, membersOf, hfeatures]
      · cases h
    · cases h
  · cases h

/-- Features of one collection with one first identity value, stripped, have one
identity. -/
def KeyDecides (env : Env) (profile : ImportProfile) (document : Json) : Prop :=
  let crs := inheritedCrs (membersOf document)
  ∀ f ∈ featuresOf document, ∀ g ∈ featuresOf document,
    collectionOf env profile crs f = collectionOf env profile crs g →
      firstIdentity profile f = firstIdentity profile g →
        rawIdentity env profile crs f = rawIdentity env profile crs g

/-- **No two prepared features have one key** exactly when the key of a feature
decides its identity. -/
theorem distinctKeys_iff (env : Env) (profile : ImportProfile) (document : Json)
    (prepared : List PreparedFeature) (h : prepareDocument env profile document = .ok prepared) :
    (prepared.map PreparedFeature.key).Nodup ↔ KeyDecides env profile document := by
  obtain ⟨members, hdocument, hcollection⟩ := isCollection_of_ok h
  rw [hdocument] at h
  obtain ⟨xs, kept, hxs, hkept, rfl⟩ := (prepareDocument_ok_iff hcollection prepared).mp h
  have hcrs : inheritedCrs (membersOf document) = inheritedCrs members := by
    rw [hdocument]
    rfl
  rw [List.map_map, KeyDecides, hcrs]
  refine (KeyedMerge.nodup_collect_iff key_merge hkept).trans ?_
  constructor
  · -- two features of one key are prepared to the same identity
    intro hkeys f hf g hg hsame hfirst
    obtain ⟨x, hx, hfx⟩ := hxs.exists_of_mem_left hf
    obtain ⟨y, hy, hgy⟩ := hxs.exists_of_mem_left hg
    obtain ⟨hpx, hix⟩ := identifiedFeature_ok hfx
    obtain ⟨hpy, hiy⟩ := identifiedFeature_ok hgy
    rw [hpx.collection, hpy.collection, Option.some.injEq] at hsame
    rw [hpx.featureId, hpy.featureId, Option.some.injEq] at hfirst
    rw [hix, hiy, hkeys x hx y hy (Prod.ext hsame hfirst)]
  · -- and two prepared ones come from features that the key tells apart
    intro hdecides x hx y hy hkey
    obtain ⟨f, hf, hfx⟩ := hxs.exists_of_mem_right hx
    obtain ⟨g, hg, hgy⟩ := hxs.exists_of_mem_right hy
    obtain ⟨hpx, hix⟩ := identifiedFeature_ok hfx
    obtain ⟨hpy, hiy⟩ := identifiedFeature_ok hgy
    obtain ⟨hsame, hfirst⟩ := Prod.mk.inj hkey
    have hraw := hdecides f hf g hg (by rw [hpx.collection, hpy.collection, hsame])
      (by rw [hpx.featureId, hpy.featureId, hfirst])
    rw [hix, hiy] at hraw
    exact List.map_injective_iff.mpr (Option.some_injective _) hraw

/-! ### Positions of buildings -/

section Positions

/-- Libraries whose transformation leaves the coordinates. -/
def positionsEnv : Env :=
  { emptyUploadEnv with transformer := fun _ _ => some fun values => some (values.map .finite) }

def positionGeometry : List (String × Json) :=
  [("type", .str "Point"), ("coordinates", .arr [.num 10, .num 60])]

/-- The name spaces of two positions. -/
def navnerom (second : Bool) : String := if second then "stat" else "kommune"

def positionProperties (second : Bool) : List (String × Json) :=
  [("lokalid", .str "1"), ("identifikasjon_navnerom", .str (navnerom second)),
    ("oppdateringsdato", .str "2026-01-01"), ("datafangstdato", .str "2025-01-01")]

/-- The members of a position. -/
def positionMembers (second : Bool) : List (String × Json) :=
  [("type", .str "Feature"), ("featureType", .str "bygning_posisjon"),
    ("geometry", .obj positionGeometry), ("properties", .obj (positionProperties second))]

def positionItem (second : Bool) : PreparedFeature :=
  { collection := "bygning_posisjon"
    featureId := "1"
    geojson := .obj
      [("type", .str "Feature"), ("id", .str "1"), ("geometry", .obj positionGeometry),
        ("properties", .obj (positionProperties second))] }

theorem transformGeometry_position (sourceCrs : String) :
    transformGeometry positionsEnv bygningProfile positionGeometry sourceCrs "bygning_posisjon" =
      .ok (.obj positionGeometry) := by
  let place := Coords.position [.finite 10, .finite 60]
  obtain ⟨isFinite, hfinite, hcoords⟩ : ∃ isFinite : PyFloat → Bool,
      (∀ q, isFinite (.finite q) = true) ∧
      transformGeometry positionsEnv bygningProfile positionGeometry sourceCrs "bygning_posisjon"
        = if place.values.all isFinite then
            .ok (.obj [("type", .str "Point"), ("coordinates", place.toJson)])
          else invalid s!"coordinate transform from '{sourceCrs}' produced invalid values" :=
    ⟨_, fun _ => rfl, rfl⟩
  rw [hcoords]
  simp [place, Coords.values, Coords.toJson, positionGeometry, hfinite]

theorem placeFeature_position (second : Bool) :
    placeFeature positionsEnv bygningProfile (positionMembers second) (positionProperties second)
      .null [] = .ok ⟨[], "bygning_posisjon", .obj positionGeometry⟩ := by
  have hrequired : (bygningProfile.normalizedRequiredFields positionsEnv).lookup "bygning_posisjon"
      = some bygningCommonRequiredFields := by decide +kernel
  have hmissing : sorted (bygningCommonRequiredFields.filter fun name =>
      (((positionProperties second).lookup name).getD .null).isNull) = [] := rfl
  have hselect : selectGeometry (positionMembers second) .null =
      .ok (positionGeometry, "EPSG:4326") := rfl
  have hfind : findCollection positionsEnv bygningProfile (positionMembers second) positionGeometry
      [] = .ok ⟨[], "bygning_posisjon", .obj []⟩ := rfl
  rw [placeFeature, hselect]
  simp only [hfind, Except.ok_bind]
  rw [checkPlaced, if_neg (by decide), dictGet, hrequired, Except.ok_bind]
  simp only [hmissing, if_true, transformGeometry_position]
  rfl

theorem identifiedFeature_position (second : Bool) :
    identifiedFeature positionsEnv bygningProfile .null (.obj (positionMembers second)) =
      .ok (["1", navnerom second], positionItem second) := by
  have hidentity : identityValues bygningProfile (positionProperties second) =
      (["1", navnerom second], []) := by
    cases second <;> decide +kernel
  have hprepare : prepareFeature positionsEnv bygningProfile (.obj (positionMembers second)) .null =
      .ok (positionItem second) := by
    have htype : (positionMembers second).lookup "type" = some (.str "Feature") := rfl
    have hproperties : featureProperties (positionMembers second) =
        (positionProperties second, []) := rfl
    rw [prepareFeature]
    simp only [htype, hproperties, hidentity, List.append_nil, placeFeature_position,
      Except.ok_bind]
    rfl
  rw [identifiedFeature, hprepare, Except.ok_bind]
  rfl

/-- A document with these positions. -/
def positions (seconds : List Bool) : Json :=
  .obj [("type", .str "FeatureCollection"),
    ("features", .arr (seconds.map fun second => .obj (positionMembers second)))]

/-- Positions that are kept apart are accepted. -/
theorem prepareDocument_positions {seconds : List Bool}
    (h : KeyedMerge.collect (mergeDuplicateFeature bygningProfile) []
      (seconds.map fun second => (["1", navnerom second], positionItem second)) =
        some (seconds.map fun second => (["1", navnerom second], positionItem second))) :
    prepareDocument positionsEnv bygningProfile (positions seconds) =
      .ok (seconds.map positionItem) := by
  refine (prepareDocument_ok_iff ⟨rfl, rfl⟩ _).mpr ⟨_, _, ?_, h, ?_⟩
  · exact List.forall₂_map_left_iff.mpr (List.forall₂_map_right_iff.mpr
      (List.forall₂_same.mpr fun second _ => identifiedFeature_position second))
  · rw [List.map_map]
    rfl

end Positions

/-! ### Parts of lines -/

section Lines

variable (loads : ByteArray → Option Json)

/-- A line of such parts. -/
def tileGeometry (xs : List ℚ) : Json :=
  .obj [("type", .str "MultiLineString"), ("coordinates", .arr (xs.map tilePart))]

def tileItem (second : Bool) (xs : List ℚ) : PreparedFeature :=
  { collection := "bygning"
    featureId := tileId second
    geojson := .obj
      [("type", .str "Feature"), ("id", .str (tileId second)), ("geometry", tileGeometry xs),
        ("properties", .obj (tileProperties second))] }

theorem geometryTypeForCollection_tile :
    bygningProfile.geometryTypeForCollection (tilesEnv loads) "bygning" = .ok "MultiLineString" :=
  rfl

/-- The coordinates of the promoted line pass the transformation unchanged. -/
theorem transformCoordinates_tile (x : ℚ) :
    transformCoordinates "MultiLineString" (.arr [tilePart x])
        (fun values => some (values.map .finite)) =
      .ok (.list [.list [.position [.finite x, .finite 0],
        .position [.finite (x + 1), .finite 0]]]) := rfl

theorem transformGeometry_tile (x : ℚ) (sourceCrs : String) :
    transformGeometry (tilesEnv loads) bygningProfile (tilePlace x) sourceCrs "bygning" =
      .ok (tileGeometry [x]) := by
  have htype : ((tilePlace x).lookup "type").getD .null = .str "LineString" := rfl
  have hcoords : ((tilePlace x).lookup "coordinates").getD .null = tilePart x := rfl
  have htransformer : (tilesEnv loads).transformer sourceCrs bygningProfile.targetCrs =
      some fun values => some (values.map .finite) := rfl
  rw [transformGeometry, geometryTypeForCollection_tile, Except.ok_bind]
  simp only [htype, hcoords, if_true, ne_eq, not_true_eq_false, if_false, htransformer,
    transformCoordinates_tile]
  simp [Coords.values, Coords.toJson, tileGeometry, tilePart]

theorem requiredFields_tile :
    (bygningProfile.normalizedRequiredFields (tilesEnv loads)).lookup "bygning" =
      some bygningCommonRequiredFields := by
  have hfields : (bygningProfile.normalizedRequiredFields emptyUploadEnv).lookup "bygning" =
      some bygningCommonRequiredFields := by decide +kernel
  exact hfields

theorem checkPlaced_tile (second : Bool) (x : ℚ) :
    checkPlaced (tilesEnv loads) bygningProfile (tilePlace x) (tileProperties second) "EPSG:5972"
      ⟨[], "bygning", .obj []⟩ = .ok ⟨[], "bygning", tileGeometry [x]⟩ := by
  have hmissing : sorted (bygningCommonRequiredFields.filter fun name =>
      (((tileProperties second).lookup name).getD .null).isNull) = [] := by
    cases second <;> decide +kernel
  rw [checkPlaced, if_neg (by decide), dictGet, requiredFields_tile, Except.ok_bind]
  simp only [hmissing, if_true, transformGeometry_tile]
  rfl

theorem findCollection_tile (second : Bool) (x : ℚ) :
    findCollection (tilesEnv loads) bygningProfile (tileFeature second x) (tilePlace x) [] =
      .ok ⟨[], "bygning", .obj []⟩ := by
  have hcollection : bygningProfile.collectionFor (tilesEnv loads) "bygning" (.str "LineString") =
      .ok (some "bygning") := by
    rw [ImportProfile.collectionFor]
    show (if ((bygningProfile.normalizedRequiredFields (tilesEnv loads)).lookup "bygning").isSome
      then _ else _) = _
    rw [requiredFields_tile]
    rfl
  have hfind : findCollection (tilesEnv loads) bygningProfile (tileFeature second x) (tilePlace x)
        [] =
      bygningProfile.collectionFor (tilesEnv loads) "bygning" (.str "LineString") >>= fun c =>
        if c.getD "" = "" then
          pure { errors := [s!"featureType must be {bygningProfile.supportedFeatureTypes
            (tilesEnv loads)}"] }
        else pure { errors := [], collection := c.getD "" } := rfl
  rw [hfind, hcollection]
  rfl

theorem identifiedFeature_tile (second : Bool) (x : ℚ) :
    identifiedFeature (tilesEnv loads) bygningProfile (.str "EPSG:5972")
      (.obj (tileFeature second x)) = .ok ([tileId second, "fkb"], tileItem second [x]) := by
  have hidentity : identityValues bygningProfile (tileProperties second) =
      ([tileId second, "fkb"], []) := by
    cases second <;> decide +kernel
  have hplace : placeFeature (tilesEnv loads) bygningProfile (tileFeature second x)
      (tileProperties second) (.str "EPSG:5972") [] = .ok ⟨[], "bygning", tileGeometry [x]⟩ := by
    have hselect : selectGeometry (tileFeature second x) (.str "EPSG:5972") =
        .ok (tilePlace x, "EPSG:5972") := rfl
    rw [placeFeature]
    simp only [hselect, findCollection_tile, Except.ok_bind, checkPlaced_tile]
  have hprepare : prepareFeature (tilesEnv loads) bygningProfile (.obj (tileFeature second x))
      (.str "EPSG:5972") = .ok (tileItem second [x]) := by
    have htype : (tileFeature second x).lookup "type" = some (.str "Feature") := rfl
    have hproperties : featureProperties (tileFeature second x) = (tileProperties second, []) := rfl
    rw [prepareFeature]
    simp only [htype, hproperties, hidentity, List.append_nil, hplace, Except.ok_bind]
    rfl
  rw [identifiedFeature, hprepare, Except.ok_bind]
  rfl

theorem tileFeature_distinct (second : Bool) (x : ℚ) :
    (Json.obj (tileFeature second x)).Distinct := by
  have hpoint : ∀ p q : ℚ, (Json.arr [.num p, .num q]).Distinct := by
    intro p q
    exact Json.Distinct.arr (by simp [Json.Distinct.num])
  have hpart : (tilePart x).Distinct := Json.Distinct.arr (by simp [hpoint])
  have hplace : (Json.obj (tilePlace x)).Distinct :=
    Json.Distinct.obj (by simp [tilePlace]) (by simp [tilePlace, Json.Distinct.str, hpart])
  have hproperties : (Json.obj (tileProperties second)).Distinct :=
    Json.Distinct.obj (by cases second <;> decide) (by simp [tileProperties, Json.Distinct.str])
  exact Json.Distinct.obj (by simp [tileFeature])
    (by simp [tileFeature, Json.Distinct.str, hplace, hproperties])

theorem collectionMembers_distinct {features : List Json} (h : ∀ f ∈ features, f.Distinct) :
    (Json.obj (collectionMembers features)).Distinct :=
  Json.Distinct.obj (by simp [collectionMembers])
    (by simp [collectionMembers, Json.Distinct.str, Json.Distinct.arr h])

/-- The parts of two lines, one of them in two pieces. -/
def pieces : List (Bool × ℚ) := [(false, 0), (true, 1), (false, 1)]

def piecesFeatures : List Json := pieces.map fun p => .obj (tileFeature p.1 p.2)

theorem preparedTo_pieces :
    PreparedTo (tilesEnv loads) bygningProfile (.str "EPSG:5972") piecesFeatures
      (pieces.map fun p => ([tileId p.1, "fkb"], tileItem p.1 [p.2])) :=
  List.forall₂_map_left_iff.mpr (List.forall₂_map_right_iff.mpr
    (List.forall₂_same.mpr fun p _ => identifiedFeature_tile loads p.1 p.2))

/-- The pieces of the one line become one feature. -/
theorem prepareDocument_pieces :
    prepareDocument (tilesEnv loads) bygningProfile (.obj (collectionMembers piecesFeatures)) =
      .ok [tileItem false [0, 1], tileItem true [1]] :=
  (prepareDocument_ok_iff ⟨rfl, rfl⟩ _).mpr ⟨_, _, preparedTo_pieces loads, rfl, rfl⟩

end Lines

/-- Three parts of two lines, and two features with keys of their own. -/
theorem distinctKeys_iff_pieces :
    prepareDocument twoLinesEnv bygningProfile (.obj (collectionMembers piecesFeatures)) =
        .ok [tileItem false [0, 1], tileItem true [1]] ∧
      ([tileItem false [0, 1], tileItem true [1]].map PreparedFeature.key).Nodup := by
  have haccepted := prepareDocument_pieces twoLinesEnv.loads
  refine ⟨haccepted, (distinctKeys_iff _ _ _ _ haccepted).mpr ?_⟩
  intro f hf g hg _ hfirst
  obtain ⟨p, -, rfl⟩ := List.mem_map.mp hf
  obtain ⟨q, -, rfl⟩ := List.mem_map.mp hg
  obtain ⟨hp, hrawp⟩ := identifiedFeature_ok (identifiedFeature_tile twoLinesEnv.loads p.1 p.2)
  obtain ⟨hq, hrawq⟩ := identifiedFeature_ok (identifiedFeature_tile twoLinesEnv.loads q.1 q.2)
  have hsame : tileId p.1 = tileId q.1 :=
    Option.some.inj (hp.featureId.symm.trans (hfirst.trans hq.featureId))
  exact hrawp.trans ((congrArg (fun id => [some id, some "fkb"]) hsame).trans hrawq.symm)

/-- Two positions in different name spaces have one key. -/
theorem navnerom_collides :
    prepareDocument positionsEnv bygningProfile (positions [false, true]) =
      .ok [positionItem false, positionItem true] ∧
    (positionItem false).key = ("bygning_posisjon", "1") ∧
    (positionItem true).key = ("bygning_posisjon", "1") ∧
    ¬ ([positionItem false, positionItem true].map PreparedFeature.key).Nodup :=
  ⟨prepareDocument_positions rfl, rfl, rfl, by decide⟩

end Gcimport
