/-
What a feature that can be prepared says (`gcimport/importer.py`,
`_prepare_feature`).

* `collectionOf`, `firstIdentity`, `rawIdentity` — the collection of a feature, its
  first identity value, and all of them as duplicates are found by them;
* `prepareFeature_ok` — a prepared feature in these terms.
-/
import Topogdb.Gcimport.Collecting

namespace Gcimport

open Python

variable {env : Env} {profile : ImportProfile} {inheritedCrs : Json}

/-! ### Errors with a message -/

theorem transformGeometry_message (geometry : List (String × Json)) (sourceCrs collection : String) :
    (transformGeometry env profile geometry sourceCrs collection).Raises HasMessage := by
  rw [transformGeometry]
  refine Except.Raises.bind (raises_dictGet _ _) fun target _ => ?_
  simp only
  split
  · refine Except.Raises.ite (fun _ => raises_invalid_message _) fun _ => ?_
    split
    · exact raises_invalid_message _
    · split
      · exact raises_invalid_message _
      · exact raises_invalid_message _
      · exact Except.Raises.ite (fun _ => Except.raises_ok _) fun _ => raises_invalid_message _
  · exact raises_invalid_message _

theorem selectGeometry_message (feature : List (String × Json)) :
    (selectGeometry feature inheritedCrs).Raises HasMessage := by
  rw [selectGeometry]
  split
  · split
    · exact Except.raises_ok _
    · exact raises_invalid_message _
  · simp only
    split
    · exact raises_invalid_message _
    · exact Except.Raises.ite (fun _ => raises_invalid_message _) fun _ => Except.raises_ok _
    · exact raises_invalid_message _
  · exact raises_invalid_message _

/-! ### Without an error -/

/-- The collection that is found without an error. -/
theorem findCollection_ok {feature geometry : List (String × Json)} {errors : List String}
    {p : Placement} (h : findCollection env profile feature geometry errors = .ok p)
    (hp : p.errors = []) :
    p.collection ≠ "" ∧ ∃ featureType, feature.lookup "featureType" = some (.str featureType) ∧
      profile.collectionFor env featureType ((geometry.lookup "type").getD .null) =
        .ok (some p.collection) := by
  rw [findCollection] at h
  split at h
  · next featureType htype =>
    have hlookup : feature.lookup "featureType" = some (.str featureType) := by
      cases hv : feature.lookup "featureType" with
      | none =>
        rw [hv] at htype
        cases htype
      | some v =>
        rw [hv] at htype
        exact congrArg some htype
    obtain ⟨collection, hcollection, h⟩ := Except.bind_eq_ok.mp h
    split at h
    · cases h
      simp at hp
    · next hne =>
      cases h
      cases collection with
      | none => exact absurd rfl hne
      | some collection => exact ⟨hne, featureType, hlookup, hcollection⟩
  · cases h
    simp at hp

/-- What is checked without an error has its geometry. -/
theorem checkPlaced_ok {geometry properties : List (String × Json)} {sourceCrs : String}
    {p q : Placement} (h : checkPlaced env profile geometry properties sourceCrs q = .ok p)
    (hp : p.errors = []) : q.errors = [] ∧ p.collection = q.collection ∧
      (q.collection ≠ "" →
        transformGeometry env profile geometry sourceCrs q.collection = .ok p.geometry) := by
  rw [checkPlaced] at h
  split at h
  · next hempty =>
    cases h
    exact ⟨hp, rfl, fun hne => absurd hempty hne⟩
  · obtain ⟨required, -, h⟩ := Except.bind_eq_ok.mp h
    simp only at h
    split at h
    · next messages hmessages =>
      cases h
      -- a validation error has a message
      obtain ⟨-, rfl⟩ := List.append_eq_nil_iff.mp hp
      exact absurd rfl (transformGeometry_message geometry sourceCrs q.collection _ hmessages)
    · cases h
    · next transformed htransformed =>
      cases h
      refine ⟨?_, rfl, fun _ => htransformed⟩
      replace hp : (if _ then _ else _) = ([] : List String) := hp
      split at hp
      · exact hp
      · simp at hp

/-- A feature that is placed without an error. -/
def Placed (env : Env) (profile : ImportProfile) (feature : List (String × Json))
    (inheritedCrs : Json) (p : Placement) : Prop :=
  ∃ geometry sourceCrs featureType,
    selectGeometry feature inheritedCrs = .ok (geometry, sourceCrs) ∧
    feature.lookup "featureType" = some (.str featureType) ∧
    profile.collectionFor env featureType ((geometry.lookup "type").getD .null) =
      .ok (some p.collection) ∧
    transformGeometry env profile geometry sourceCrs p.collection = .ok p.geometry

theorem placeFeature_ok {feature properties : List (String × Json)} {errors : List String}
    {p : Placement} (h : placeFeature env profile feature properties inheritedCrs errors = .ok p)
    (hp : p.errors = []) : Placed env profile feature inheritedCrs p := by
  rw [placeFeature] at h
  split at h
  · next messages hmessages =>
    cases h
    obtain ⟨-, rfl⟩ := List.append_eq_nil_iff.mp hp
    exact absurd rfl (selectGeometry_message feature _ hmessages)
  · cases h
  · next geometry sourceCrs hselect =>
    obtain ⟨q, hq, h⟩ := Except.bind_eq_ok.mp h
    obtain ⟨hnone, hcollection, hgeometry⟩ := checkPlaced_ok h hp
    obtain ⟨hne, featureType, htype, hfor⟩ := findCollection_ok hq hnone
    refine ⟨geometry, sourceCrs, featureType, hselect, htype, ?_, ?_⟩
    · rw [hcollection]
      exact hfor
    · rw [hcollection]
      exact hgeometry hne

/-! ### What a feature says -/

/-- The members of a feature. -/
def membersOf : Json → List (String × Json)
  | .obj members => members
  | _ => []

/-- The properties of a feature. -/
def propertiesOf (feature : Json) : List (String × Json) :=
  (featureProperties (membersOf feature)).1

/-- The collection that a feature goes to. -/
def collectionOf (env : Env) (profile : ImportProfile) (inheritedCrs feature : Json) :
    Option String :=
  match selectGeometry (membersOf feature) inheritedCrs, (membersOf feature).lookup "featureType" with
  | .ok (geometry, _), some (.str featureType) =>
    match profile.collectionFor env featureType ((geometry.lookup "type").getD .null) with
    | .ok collection => collection
    | .error _ => none
  | _, _ => none

/-- The first identity value, stripped. -/
def firstIdentity (profile : ImportProfile) (feature : Json) : Option String :=
  profile.identityFields.head?.bind (identityValue (propertiesOf feature))

/-- The properties as they go upstream. -/
def upstreamOf (env : Env) (profile : ImportProfile) (inheritedCrs feature : Json) :
    List (String × Json) :=
  profile.propertiesForUpstream env (propertiesOf feature)
    ((collectionOf env profile inheritedCrs feature).getD "")

/-- The identity values that duplicates are found by. -/
def rawIdentity (env : Env) (profile : ImportProfile) (inheritedCrs feature : Json) :
    List (Option String) :=
  profile.identityFields.map fun name =>
    ((upstreamOf env profile inheritedCrs feature).lookup name).map env.str

/-- A prepared feature, from what the feature says. -/
structure IsPrepared (env : Env) (profile : ImportProfile) (inheritedCrs feature : Json)
    (item : PreparedFeature) : Prop where
  collection : collectionOf env profile inheritedCrs feature = some item.collection
  featureId : firstIdentity profile feature = some item.featureId
  geojson : ∃ geometry sourceCrs transformed,
    selectGeometry (membersOf feature) inheritedCrs = .ok (geometry, sourceCrs) ∧
    transformGeometry env profile geometry sourceCrs item.collection = .ok transformed ∧
    item.geojson = .obj [("type", .str "Feature"), ("id", .str item.featureId),
      ("geometry", transformed), ("properties", .obj (upstreamOf env profile inheritedCrs feature))]

theorem collectionOf_placed {members : List (String × Json)} {p : Placement}
    (h : Placed env profile members inheritedCrs p) :
    collectionOf env profile inheritedCrs (.obj members) = some p.collection := by
  obtain ⟨geometry, sourceCrs, featureType, hselect, htype, hfor, -⟩ := h
  rw [collectionOf, membersOf, hselect, htype]
  simp only [hfor]

/-- **A feature that can be prepared** says its collection, its id and its geometry. -/
theorem prepareFeature_ok {feature : Json} {item : PreparedFeature}
    (h : prepareFeature env profile feature inheritedCrs = .ok item) :
    IsPrepared env profile inheritedCrs feature item := by
  cases feature with
  | obj members =>
    simp only [prepareFeature] at h
    obtain ⟨p, hplace, h⟩ := Except.bind_eq_ok.mp h
    rw [finishFeature.eq_def] at h
    split at h
    · cases h
    · next herrors =>
      have herrors := not_not.mp herrors
      have hplaced := placeFeature_ok hplace herrors
      have hcollection := collectionOf_placed hplaced
      have hidentity := (List.append_eq_nil_iff.mp (placeFeature_errors hplace herrors)).2
      split at h
      · cases h
      · next featureId rest hvalues =>
        cases h
        refine ⟨hcollection, ?_, ?_⟩
        · have hhead := congrArg List.head? (identityValues_eq _ hidentity)
          rw [hvalues, List.map_cons, List.head?_cons, List.head?_map] at hhead
          show profile.identityFields.head?.bind _ = _
          cases hfields : profile.identityFields.head? with
          | none =>
            rw [hfields] at hhead
            cases hhead
          | some name =>
            rw [hfields] at hhead
            exact (Option.some.inj hhead).symm
        · obtain ⟨geometry, sourceCrs, featureType, hselect, -, -, htransform⟩ := hplaced
          refine ⟨geometry, sourceCrs, p.geometry, hselect, htransform, ?_⟩
          rw [upstreamOf, hcollection]
          rfl
  | _ => cases h

/-- The identity that a prepared feature is noted under. -/
theorem identityOf_ok {feature : Json} {item : PreparedFeature} {identity : List String}
    (hprepared : IsPrepared env profile inheritedCrs feature item)
    (h : identityOf env profile item = .ok identity) :
    rawIdentity env profile inheritedCrs feature = identity.map some := by
  obtain ⟨geometry, sourceCrs, transformed, -, -, hgeojson⟩ := hprepared.geojson
  have hproperties : item.geojson.getD "properties" =
      .obj (upstreamOf env profile inheritedCrs feature) := by
    rw [hgeojson]
    rfl
  -- one field: the text of its property
  have hfield : ∀ name value,
      env.str <$> dictGet (upstreamOf env profile inheritedCrs feature) name = .ok value →
        ((upstreamOf env profile inheritedCrs feature).lookup name).map env.str = some value := by
    intro name value hvalue
    rw [dictGet] at hvalue
    split at hvalue
    · next v hv =>
      cases hvalue
      rw [hv]
      rfl
    · cases hvalue
  rw [identityOf, hproperties] at h
  obtain ⟨rfl, hall⟩ := Except.mapM_eq_ok (g := fun name =>
    (((upstreamOf env profile inheritedCrs feature).lookup name).map env.str).getD "")
    (fun name value hvalue => by rw [hfield name value hvalue]; rfl) h
  rw [rawIdentity, List.map_map]
  exact List.map_congr_left fun name hname => hfield name _ (hall name hname)

theorem identifiedFeature_ok {feature : Json} {x : List String × PreparedFeature}
    (h : identifiedFeature env profile inheritedCrs feature = .ok x) :
    IsPrepared env profile inheritedCrs feature x.2 ∧
      rawIdentity env profile inheritedCrs feature = x.1.map some := by
  obtain ⟨item, hitem, h⟩ := Except.bind_eq_ok.mp h
  obtain ⟨identity, hidentity, h⟩ := Except.bind_eq_ok.mp h
  cases h
  have hprepared := prepareFeature_ok hitem
  exact ⟨hprepared, identityOf_ok hprepared hidentity⟩

end Gcimport
