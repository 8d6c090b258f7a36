/-
Where the two upload formats send a feature.

A classic GeoJSON feature is routed by its object type and geometry
(`feature_type_from_objtype`); a JSON-FG feature names its feature type, which may
be an object type or a collection (`collection_for`).  A name that is both is
taken for the collection.

* `collectionFor_of_objtype` — the collection of a JSON-FG feature whose feature
  type is an object type;
* `collectionFor_of_converted` — a converted feature keeps its collection.
-/
import Topogdb.Gcimport.EventProtocol
import Topogdb.Gcimport.GeojsonToJsonfg

namespace Gcimport

open Python ImportProfile

variable {env : Env} {profile : ImportProfile}

/-- The lookup behind `feature_type_from_objtype`. -/
theorem collectionForObjtype_of_featureType {objtype geometryType collection : String}
    (h : featureTypeFromObjtype env profile (.str objtype) (.str geometryType) = .ok collection) :
    profile.collectionForObjtype env objtype (.str geometryType) = .ok (some collection) := by
  simp only [featureTypeFromObjtype] at h
  split at h
  · cases h
  split at h
  · cases h
  obtain ⟨c, hc, hpicked⟩ := Except.bind_eq_ok.mp h
  cases c with
  | some c =>
    cases hpicked
    exact hc
  | none =>
    obtain ⟨message, -, hfail⟩ := Except.bind_eq_ok.mp hpicked
    cases hfail

/-- **A JSON-FG feature named by an object type** goes where the classic feature
goes, unless a collection has that name. -/
theorem collectionFor_of_objtype {objtype geometryType collection : String}
    (h : featureTypeFromObjtype env profile (.str objtype) (.str geometryType) = .ok collection) :
    profile.collectionFor env objtype (.str geometryType) =
      .ok (some (if ((profile.normalizedRequiredFields env).lookup (env.casefold objtype)).isSome
        then env.casefold objtype else collection)) := by
  have hobjtype := collectionForObjtype_of_featureType h
  rw [collectionFor]
  by_cases hnamed : ((profile.normalizedRequiredFields env).lookup (env.casefold objtype)).isSome
  · rw [if_pos hnamed, if_pos hnamed]
    rfl
  · rw [if_neg hnamed, if_neg hnamed]
    exact hobjtype

/-- A converted feature names its collection, and is sent there. -/
theorem collectionFor_of_converted (hp : profile.WellFormed)
    {objtype geometryType collection : String}
    (h : featureTypeFromObjtype env profile (.str objtype) (.str geometryType) = .ok collection)
    (placeType : Json) : profile.collectionFor env collection placeType = .ok (some collection) := by
  obtain ⟨c, hc, hdeclared⟩ := hp.collectionForObjtype_spec env objtype (.str geometryType)
  rw [collectionForObjtype_of_featureType h] at hc
  cases hc
  have hcollection := hdeclared collection rfl
  rw [collectionFor, hcollection.casefold]
  exact if_pos hcollection

/-! ### Buildings -/

/-- A wall is routed alike. -/
theorem collectionFor_of_objtype_wall :
    bygningProfile.collectionFor emptyUploadEnv "takkant" (.str "LineString") =
      .ok (some "bygning") := by
  have hclassic : featureTypeFromObjtype emptyUploadEnv bygningProfile (.str "takkant")
      (.str "LineString") = .ok "bygning" := rfl
  exact collectionFor_of_objtype hclassic

/-- An area named `bygning` is an area in one format and a line in the other. -/
theorem bygning_routed_apart :
    featureTypeFromObjtype emptyUploadEnv bygningProfile (.str "bygning") (.str "MultiPolygon") =
        .ok "bygning_omrade" ∧
      bygningProfile.collectionFor emptyUploadEnv "bygning" (.str "MultiPolygon") =
        .ok (some "bygning") := by
  constructor
  · rfl
  · rfl

end Gcimport
