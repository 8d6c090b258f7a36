/-
`prepare_document` as a collection.

Its loop keeps one feature an identity and merges or rejects the others.

* `prepareDocument_ok_iff` — a document is accepted when its features can be
  prepared and collected under their identities (`KeyedMerge`);
* `mergeDuplicateFeature_lawful` — which features can be merged is a partial
  equivalence of features with dictionaries for properties;
* `prepareFeature_isGood` — the properties that are prepared are dictionaries.
-/
import Topogdb.Lib.KeyedMerge
import Topogdb.Gcimport.GeojsonToJsonfg
import Topogdb.Gcimport.Prepare

namespace Gcimport

open Python

variable (env : Env) (profile : ImportProfile)

/-! ### The loop as a collection -/

/-- A prepared feature and its identity. -/
def identifiedFeature (inheritedCrs feature : Json) : Except PyError (List String × PreparedFeature) := do
  let item ← prepareFeature env profile feature inheritedCrs
  let identity ← identityOf env profile item
  pure (identity, item)

/-- The state of the loop of `prepare_document` that has kept these features and
found no error. -/
structure Keeps (st : PrepareState) (kept : List (List String × PreparedFeature)) : Prop where
  errors : st.errors = []
  prepared : st.prepared = kept.map Prod.snd
  indexes : st.identityIndexes = (kept.map Prod.fst).zipIdx

/-- What the index of an identity says about the collection. -/
theorem insert_of_lookup {merge : PreparedFeature → PreparedFeature → Option PreparedFeature}
    (kept : List (List String × PreparedFeature)) (x : List String × PreparedFeature) (n : ℕ) :
    (((kept.map Prod.fst).zipIdx n).lookup x.1 = none ∧
        KeyedMerge.insert merge kept x = some (kept ++ [x])) ∨
      ∃ j v, ((kept.map Prod.fst).zipIdx n).lookup x.1 = some (n + j) ∧
        (kept.map Prod.snd)[j]? = some v ∧
        (kept.map Prod.fst)[j]? = some x.1 ∧
        KeyedMerge.insert merge kept x = (merge v x.2).map fun merged => kept.set j (x.1, merged) := by
  induction kept generalizing n with
  | nil => exact Or.inl ⟨rfl, rfl⟩
  | cons e kept ih =>
    rw [List.map_cons, List.zipIdx_cons, List.lookup_cons, KeyedMerge.insert]
    by_cases he : e.1 = x.1
    · have hbeq : (x.1 == e.1) = true := beq_iff_eq.mpr he.symm
      rw [if_pos he, hbeq, he]
      exact Or.inr ⟨0, e.2, rfl, rfl, rfl, rfl⟩
    · have hbeq : (x.1 == e.1) = false := beq_eq_false_iff_ne.mpr (Ne.symm he)
      rw [if_neg he, hbeq]
      rcases ih (n + 1) with ⟨hnone, hins⟩ | ⟨j, v, hsome, hv, hkey, hins⟩
      · refine Or.inl ⟨hnone, ?_⟩
        rw [hins]
        rfl
      · refine Or.inr ⟨j + 1, v, ?_, hv, hkey, ?_⟩
        · show ((kept.map Prod.fst).zipIdx (n + 1)).lookup x.1 = some (n + (j + 1))
          rw [hsome, Nat.add_assoc, Nat.add_comm 1 j]
        · rw [hins, Option.map_map]
          rfl

variable {env profile}

/-- The state of the loop of `prepare_document` that has kept these features. -/
structure Holds (st : PrepareState) (kept : List (List String × PreparedFeature)) : Prop where
  prepared : st.prepared = kept.map Prod.snd
  indexes : st.identityIndexes = (kept.map Prod.fst).zipIdx

theorem Keeps.holds {st : PrepareState} {kept : List (List String × PreparedFeature)}
    (h : Keeps st kept) : Holds st kept := ⟨h.prepared, h.indexes⟩

/-- What is noted of a duplicate that cannot be merged. -/
def duplicateMessage (profile : ImportProfile) (index : ℕ) : String :=
  let names := ", ".intercalate profile.identityFields
  s!"features[{index}]: duplicate ({names})"

/-- An iteration puts the feature into the collection, or notes an error. -/
theorem noteItem_holds {st : PrepareState} {kept : List (List String × PreparedFeature)}
    (hst : Holds st kept) (index : ℕ) (x : List String × PreparedFeature) :
    ∃ st', noteItem profile st index x.2 x.1 = .ok st' ∧
      match KeyedMerge.insert (mergeDuplicateFeature profile) kept x with
      | some kept' => Holds st' kept' ∧ st'.errors = st.errors
      | none => Holds st' kept ∧ st'.errors = st.errors ++ [duplicateMessage profile index] := by
  rw [noteItem, hst.indexes, hst.prepared]
  rcases insert_of_lookup kept x 0 with ⟨hlookup, hins⟩ | ⟨j, v, hlookup, hv, hkey, hins⟩
  · rw [hlookup, hins]
    refine ⟨_, rfl, ⟨?_, ?_⟩, rfl⟩
    · simp
    · simp [List.zipIdx_append]
  · rw [Nat.zero_add] at hlookup
    rw [hlookup, hins]
    simp only [hv]
    cases mergeDuplicateFeature profile v x.2 with
    | none => exact ⟨_, rfl, ⟨rfl, rfl⟩, rfl⟩
    | some merged =>
      refine ⟨_, rfl, ⟨?_, ?_⟩, rfl⟩
      · simp [List.map_set]
      · -- the identity at this place stays
        show (kept.map Prod.fst).zipIdx = ((kept.set j (x.1, merged)).map Prod.fst).zipIdx
        obtain ⟨hj, hget⟩ := List.getElem?_eq_some_iff.mp hkey
        have hset : (kept.map Prod.fst).set j x.1 = kept.map Prod.fst := by
          rw [← hget, List.set_getElem_self]
        rw [List.map_set, hset]

/-- Without an error so far, an iteration puts the feature into the collection,
or notes an error. -/
theorem noteItem_keeps {st : PrepareState} {kept : List (List String × PreparedFeature)}
    (hst : Keeps st kept) (index : ℕ) (x : List String × PreparedFeature) :
    ∃ st', noteItem profile st index x.2 x.1 = .ok st' ∧
      match KeyedMerge.insert (mergeDuplicateFeature profile) kept x with
      | some kept' => Keeps st' kept'
      | none => st'.errors ≠ [] := by
  obtain ⟨st', hnote, hspec⟩ := noteItem_holds hst.holds index x
  refine ⟨st', hnote, ?_⟩
  cases hins : KeyedMerge.insert (mergeDuplicateFeature profile) kept x with
  | none =>
    rw [hins] at hspec
    simp [hspec.2]
  | some kept' =>
    rw [hins] at hspec
    exact ⟨hspec.2.trans hst.errors, hspec.1.prepared, hspec.1.indexes⟩

/-! ### Every validation error has a message -/

/-- The error is no validation error without a message. -/
def HasMessage (e : PyError) : Prop := e ≠ .documentValidation []

theorem raises_invalid_message {α : Type} (message : String) :
    (invalid message : Except PyError α).Raises HasMessage := by
  rintro e ⟨⟩ h
  cases h

theorem raises_dictGet {α : Type} (d : List (String × α)) (k : String) :
    (dictGet d k).Raises HasMessage := by
  rw [dictGet]
  split
  · exact Except.raises_ok _
  · rintro e ⟨⟩ h
    cases h

theorem matchesOfKind_message (geometryType : Json) (kind : ℕ) (candidates : List String) :
    (profile.matchesOfKind env geometryType kind candidates).Raises HasMessage := by
  refine Except.Raises.bind (Except.raises_mapM fun c _ => ?_) fun _ _ => Except.raises_pure _
  refine Except.Raises.bind (raises_dictGet _ _) fun target _ => ?_
  split
  · split_ifs <;> exact Except.raises_pure _
  · exact Except.raises_pure _

theorem collectionFor_message (featureType : String) (geometryType : Json) :
    (profile.collectionFor env featureType geometryType).Raises HasMessage := by
  simp only [ImportProfile.collectionFor]
  refine Except.Raises.ite (fun _ => Except.raises_pure _) fun _ => ?_
  simp only [ImportProfile.collectionForObjtype]
  split
  · exact Except.raises_pure _
  · refine Except.Raises.ite (fun _ => Except.raises_pure _) fun _ => ?_
    refine Except.Raises.bind (matchesOfKind_message _ _ _) fun exact _ => ?_
    split
    · exact Except.raises_pure _
    · exact Except.raises_pure _
    · refine Except.Raises.bind (matchesOfKind_message _ _ _) fun compatible _ => ?_
      split
      · exact Except.raises_pure _
      · exact Except.raises_pure _

theorem findCollection_message (feature geometry : List (String × Json)) (errors : List String) :
    (findCollection env profile feature geometry errors).Raises HasMessage := by
  rw [findCollection]
  split
  · refine Except.Raises.bind (collectionFor_message _ _) fun collection _ => ?_
    exact Except.Raises.ite (fun _ => Except.raises_pure _) fun _ => Except.raises_pure _
  · exact Except.raises_pure _

theorem checkPlaced_message (geometry properties : List (String × Json)) (sourceCrs : String)
    (placement : Placement) :
    (checkPlaced env profile geometry properties sourceCrs placement).Raises HasMessage := by
  rw [checkPlaced]
  refine Except.Raises.ite (fun _ => Except.raises_pure _) fun _ => ?_
  refine Except.Raises.bind (raises_dictGet _ _) fun required _ => ?_
  simp only
  split
  · exact Except.raises_pure _
  · next e hne _ =>
    rintro e' ⟨⟩ rfl
    exact hne [] rfl
  · exact Except.raises_pure _

theorem placeFeature_message (feature properties : List (String × Json)) (inheritedCrs : Json)
    (errors : List String) :
    (placeFeature env profile feature properties inheritedCrs errors).Raises HasMessage := by
  rw [placeFeature]
  split
  · exact Except.raises_ok _
  · next e hne _ =>
    rintro e' ⟨⟩ rfl
    exact hne [] rfl
  · refine Except.Raises.bind (findCollection_message _ _ _) fun placement _ => ?_
    exact checkPlaced_message _ _ _ _

theorem prepareFeature_message (feature inheritedCrs : Json) :
    (prepareFeature env profile feature inheritedCrs).Raises HasMessage := by
  cases feature with
  | obj members =>
    simp only [prepareFeature]
    refine Except.Raises.bind (placeFeature_message _ _ _ _) fun placement _ => ?_
    rw [finishFeature.eq_def]
    refine Except.Raises.ite (fun herrors => ?_) fun _ => ?_
    · rintro e ⟨⟩ h
      exact herrors (PyError.documentValidation.inj h)
    · split
      · rintro e ⟨⟩ h
        cases h
      · exact Except.raises_ok _
  | _ => exact raises_invalid_message _

theorem identifiedFeature_message (inheritedCrs feature : Json) :
    (identifiedFeature env profile inheritedCrs feature).Raises HasMessage := by
  refine Except.Raises.bind (prepareFeature_message _ _) fun item _ => ?_
  refine Except.Raises.bind (Except.raises_mapM fun name _ => ?_) fun _ _ => Except.raises_pure _
  split
  · exact Except.Raises.map (raises_dictGet _ _)
  · rintro e ⟨⟩ h
    cases h

/-! ### The loop -/

/-- An iteration notes the feature. -/
theorem prepareStep_of_note {inheritedCrs feature : Json} {x : List String × PreparedFeature}
    (h : identifiedFeature env profile inheritedCrs feature = .ok x) {st st' : PrepareState}
    {index : ℕ} (hnote : noteItem profile st index x.2 x.1 = .ok st') :
    prepareStep env profile inheritedCrs st (feature, index) = .ok st' := by
  rw [identifiedFeature] at h
  obtain ⟨item, hitem, h⟩ := Except.bind_eq_ok.mp h
  obtain ⟨identity, hidentity, h⟩ := Except.bind_eq_ok.mp h
  cases h
  have hprepare : prepareItem env profile inheritedCrs st index feature = .ok st' := by
    rw [prepareItem, hitem, Except.ok_bind, hidentity, Except.ok_bind]
    exact hnote
  rw [prepareStep]
  simp only [hprepare]

/-- Or it ends as the feature does. -/
theorem prepareItem_of_error {inheritedCrs feature : Json} {e : PyError}
    (h : identifiedFeature env profile inheritedCrs feature = .error e) (st : PrepareState)
    (index : ℕ) : prepareItem env profile inheritedCrs st index feature = .error e := by
  rw [identifiedFeature] at h
  rw [prepareItem]
  cases hitem : prepareFeature env profile feature inheritedCrs with
  | error e' =>
    rw [hitem] at h
    cases h
    rfl
  | ok item =>
    rw [hitem] at h
    rw [Except.ok_bind] at h ⊢
    cases hidentity : identityOf env profile item with
    | error e' =>
      rw [hidentity] at h
      cases h
      rfl
    | ok identity =>
      rw [hidentity] at h
      cases h

/-- An iteration with a feature that can be prepared notes it. -/
theorem prepareStep_of_ok {inheritedCrs feature : Json} {x : List String × PreparedFeature}
    (h : identifiedFeature env profile inheritedCrs feature = .ok x) {st : PrepareState}
    {kept : List (List String × PreparedFeature)} (hst : Keeps st kept) (index : ℕ) :
    ∃ st', prepareStep env profile inheritedCrs st (feature, index) = .ok st' ∧
      match KeyedMerge.insert (mergeDuplicateFeature profile) kept x with
      | some kept' => Keeps st' kept'
      | none => st'.errors ≠ [] := by
  obtain ⟨st', hnote, hspec⟩ := noteItem_keeps hst index x
  exact ⟨st', prepareStep_of_note h hnote, hspec⟩

/-- An iteration with another feature notes an error, or raises. -/
theorem prepareStep_of_error {inheritedCrs feature : Json}
    (h : ∀ x, identifiedFeature env profile inheritedCrs feature ≠ .ok x) {st st' : PrepareState}
    {index : ℕ} (hst : prepareStep env profile inheritedCrs st (feature, index) = .ok st') :
    st'.errors ≠ [] := by
  have hmessage : (identifiedFeature env profile inheritedCrs feature).Raises HasMessage :=
    identifiedFeature_message inheritedCrs feature
  cases hid : identifiedFeature env profile inheritedCrs feature with
  | ok x => exact absurd hid (h x)
  | error e =>
    rw [prepareStep] at hst
    simp only [prepareItem_of_error hid] at hst
    split at hst
    · next messages heq =>
      cases heq
      cases hst
      have hne : messages ≠ [] := fun hnil => hmessage _ hid (hnil ▸ rfl)
      simp [hne]
    · cases hst

/-- An error stays noted. -/
theorem prepareStep_errors {inheritedCrs : Json} {feature : Json × ℕ} {st st' : PrepareState}
    (h : prepareStep env profile inheritedCrs st feature = .ok st') (hst : st.errors ≠ []) :
    st'.errors ≠ [] := by
  rw [prepareStep] at h
  split at h
  · cases h
    simp [hst]
  · rw [prepareItem] at h
    obtain ⟨item, -, h⟩ := Except.bind_eq_ok.mp h
    obtain ⟨identity, -, h⟩ := Except.bind_eq_ok.mp h
    rw [noteItem] at h
    split at h
    · cases h
      exact hst
    · split at h
      · cases h
      · split at h
        · cases h
          simp
        · cases h
          exact hst

theorem prepareSteps_errors {inheritedCrs : Json} {features : List (Json × ℕ)}
    {st st' : PrepareState}
    (h : features.foldlM (prepareStep env profile inheritedCrs) st = .ok st')
    (hst : st.errors ≠ []) : st'.errors ≠ [] := by
  induction features generalizing st with
  | nil =>
    cases h
    exact hst
  | cons feature features ih =>
    rw [List.foldlM_cons] at h
    obtain ⟨st₁, hstep, h⟩ := Except.bind_eq_ok.mp h
    exact ih h (prepareStep_errors hstep hst)

/-- The features can be prepared, to these. -/
def PreparedTo (env : Env) (profile : ImportProfile) (inheritedCrs : Json) (features : List Json)
    (xs : List (List String × PreparedFeature)) : Prop :=
  List.Forall₂ (fun feature x => identifiedFeature env profile inheritedCrs feature = .ok x)
    features xs

/-- **The loop finds no error when its features can be prepared and collected,
and has then kept what is collected.** -/
theorem prepareSteps_ok_iff {inheritedCrs : Json} (features : List Json) (n : ℕ)
    {st : PrepareState} {kept : List (List String × PreparedFeature)} (hst : Keeps st kept)
    (prepared : List PreparedFeature) :
    (∃ st', (features.zipIdx n).foldlM (prepareStep env profile inheritedCrs) st = .ok st' ∧
        st'.errors = [] ∧ st'.prepared = prepared) ↔
      ∃ xs kept', PreparedTo env profile inheritedCrs features xs ∧
        KeyedMerge.collect (mergeDuplicateFeature profile) kept xs = some kept' ∧
        prepared = kept'.map Prod.snd := by
  induction features generalizing n st kept with
  | nil =>
    constructor
    · rintro ⟨st', h, -, rfl⟩
      cases h
      exact ⟨[], kept, List.Forall₂.nil, rfl, hst.prepared⟩
    · rintro ⟨xs, kept', hxs, hkept, rfl⟩
      cases hxs
      cases hkept
      exact ⟨st, rfl, hst.errors, hst.prepared⟩
  | cons feature features ih =>
    rw [List.zipIdx_cons, List.foldlM_cons]
    -- a feature that is refused leaves an error, and errors stay
    cases hid : identifiedFeature env profile inheritedCrs feature with
    | error e =>
      constructor
      · rintro ⟨st', h, herrors, -⟩
        obtain ⟨st₁, hstep, h⟩ := Except.bind_eq_ok.mp h
        have hne : ∀ x, identifiedFeature env profile inheritedCrs feature ≠ .ok x := by
          intro x hx
          rw [hid] at hx
          cases hx
        exact absurd herrors (prepareSteps_errors h (prepareStep_of_error hne hstep))
      · rintro ⟨xs, kept', hxs, -, -⟩
        cases hxs with
        | cons hx _ =>
          rw [hid] at hx
          cases hx
    | ok x =>
      obtain ⟨st₁, hstep, hspec⟩ := prepareStep_of_ok hid hst n
      rw [hstep, Except.ok_bind]
      -- it is kept, merged into an earlier one, or a duplicate
      cases hins : KeyedMerge.insert (mergeDuplicateFeature profile) kept x with
      | none =>
        rw [hins] at hspec
        constructor
        · rintro ⟨st', h, herrors, -⟩
          exact absurd herrors (prepareSteps_errors h hspec)
        · rintro ⟨xs, kept', hxs, hkept, -⟩
          cases hxs with
          | cons hx _ =>
            rw [hid] at hx
            cases hx
            rw [KeyedMerge.collect_cons, hins] at hkept
            cases hkept
      | some kept₁ =>
        rw [hins] at hspec
        rw [ih (n + 1) hspec]
        constructor
        · rintro ⟨xs, kept', hxs, hkept, hprepared⟩
          refine ⟨x :: xs, kept', List.Forall₂.cons hid hxs, ?_, hprepared⟩
          rw [KeyedMerge.collect_cons, hins]
          exact hkept
        · rintro ⟨xs, kept', hxs, hkept, hprepared⟩
          cases hxs with
          | cons hx hxs =>
            rw [hid] at hx
            cases hx
            rw [KeyedMerge.collect_cons, hins] at hkept
            exact ⟨_, kept', hxs, hkept, hprepared⟩

/-- The members of a FeatureCollection with these features. -/
structure IsCollection (members : List (String × Json)) (features : List Json) : Prop where
  type : members.lookup "type" = some (.str "FeatureCollection")
  features : members.lookup "features" = some (.arr features)

/-- The CRS that the features of a document inherit. -/
def inheritedCrs (members : List (String × Json)) : Json :=
  (members.lookup "coordRefSys").getD .null

/-- **A document is accepted when its features can be prepared and collected
under their identities.** -/
theorem prepareDocument_ok_iff {members : List (String × Json)} {features : List Json}
    (h : IsCollection members features) (prepared : List PreparedFeature) :
    prepareDocument env profile (.obj members) = .ok prepared ↔
      ∃ xs kept, PreparedTo env profile (inheritedCrs members) features xs ∧
        KeyedMerge.collect (mergeDuplicateFeature profile) [] xs = some kept ∧
        prepared = kept.map Prod.snd := by
  have hstart : Keeps {} [] := ⟨rfl, rfl, rfl⟩
  rw [← prepareSteps_ok_iff features 0 hstart prepared, prepareDocument]
  simp only [h.type, h.features]
  rw [Except.bind_eq_ok]
  refine exists_congr fun st => and_congr_right fun _ => ?_
  constructor
  · intro hst
    split at hst
    · cases hst
    · next herrors =>
      cases hst
      exact ⟨not_not.mp herrors, rfl⟩
  · rintro ⟨herrors, rfl⟩
    rw [if_neg (not_not.mpr herrors)]
    rfl

/-! ### Which features can be merged -/

/-- The properties of a prepared feature. -/
def PreparedFeature.properties (item : PreparedFeature) : List (String × Json) :=
  match item.geojson.getD "properties" with
  | .obj properties => properties
  | _ => []

/-- The feature has an object of properties and the parts of a multi-line. -/
def PreparedFeature.IsLines (item : PreparedFeature) : Prop :=
  ∃ properties geometry coordinates, item.geojson.getD "properties" = .obj properties ∧
    item.geojson.getD "geometry" = .obj geometry ∧
    geometry.lookup "type" = some (.str "MultiLineString") ∧
    geometry.lookup "coordinates" = some (.arr coordinates)

/-- The properties come from a dictionary. -/
def PreparedFeature.IsGood (item : PreparedFeature) : Prop := (Json.obj item.properties).Distinct

/-- What is compared of two features. -/
def PreparedFeature.comparable (item : PreparedFeature) : Json :=
  .obj (comparableProperties item.properties)

/-- What `_merge_duplicate_feature` asks for. -/
structure Mergeable (profile : ImportProfile) (existing incoming : PreparedFeature) : Prop where
  merges : profile.mergeDuplicateMultilinestrings = true
  collection : existing.collection = incoming.collection
  featureId : existing.featureId = incoming.featureId
  existingLines : existing.IsLines
  incomingLines : incoming.IsLines
  properties : jsonEq existing.comparable incoming.comparable = true

theorem mergeDuplicateFeature_eq_some {a b c : PreparedFeature}
    (h : mergeDuplicateFeature profile a b = some c) :
    Mergeable profile a b ∧ c.collection = a.collection ∧ c.featureId = a.featureId ∧
      c.properties = a.properties ∧ c.IsLines := by
  rw [mergeDuplicateFeature] at h
  split_ifs at h with hmerges hids
  rw [not_or, not_not, not_not] at hids
  split at h
  · next p p' g g' hp hp' hg hg' =>
    split at h
    · next htype htype' =>
      split_ifs at h with heq
      split at h
      · next xs xs' members hxs hxs' hmembers =>
        cases h
        rw [hmembers] at hp
        -- replacing the geometry leaves the properties
        have hne : "properties" ≠ "geometry" := by decide
        have hpkeep : Json.getD (.obj (dictSet members "geometry" (.obj
            [("type", .str "MultiLineString"), ("coordinates", .arr (xs ++ xs'))]))) "properties"
            = .obj p := by
          rw [← hp, Json.getD, Json.getD, Json.get?_obj, Json.get?_obj, lookup_dictSet_of_ne _ _ hne]
        have hgnew : Json.getD (.obj (dictSet members "geometry" (.obj
            [("type", .str "MultiLineString"), ("coordinates", .arr (xs ++ xs'))]))) "geometry"
            = .obj [("type", .str "MultiLineString"), ("coordinates", .arr (xs ++ xs'))] := by
          rw [Json.getD, Json.get?_obj, lookup_dictSet_self]
          rfl
        refine ⟨⟨by simpa using hmerges, hids.1, hids.2, ⟨p, g, xs, ?_, hg, htype, hxs⟩,
          ⟨p', g', xs', hp', hg', htype', hxs'⟩, ?_⟩, rfl, rfl, ?_, ?_⟩
        · rw [hmembers]
          exact hp
        · simp only [PreparedFeature.comparable, PreparedFeature.properties, hmembers, hp, hp']
          exact heq
        · simp only [PreparedFeature.properties, hmembers, hp, hpkeep]
        · exact ⟨p, _, xs ++ xs', hpkeep, hgnew, rfl, rfl⟩
      · cases h
    · cases h
  · cases h

theorem mergeDuplicateFeature_isSome {a b : PreparedFeature} :
    (mergeDuplicateFeature profile a b).isSome ↔ Mergeable profile a b := by
  constructor
  · intro h
    obtain ⟨c, hc⟩ := Option.isSome_iff_exists.mp h
    exact (mergeDuplicateFeature_eq_some hc).1
  · rintro ⟨hmerges, hcollection, hid, ⟨p, g, xs, hp, hg, htype, hxs⟩,
      ⟨p', g', xs', hp', hg', htype', hxs'⟩, heq⟩
    have hobj : ∃ members, a.geojson = .obj members := by
      cases hj : a.geojson with
      | obj members => exact ⟨members, rfl⟩
      | _ =>
        rw [hj] at hp
        cases hp
    obtain ⟨members, hmembers⟩ := hobj
    simp only [PreparedFeature.comparable, PreparedFeature.properties, hp, hp'] at heq
    rw [mergeDuplicateFeature, if_neg (by simp [hmerges]), if_neg (by simp [hcollection, hid])]
    rw [hmembers] at hp hg
    simp only [hmembers, hp, hp', hg, hg', htype, htype', heq, hxs, hxs', if_true]
    rfl

theorem comparable_distinct {item : PreparedFeature} (h : item.IsGood) : item.comparable.Distinct := by
  cases h with
  | obj hkeys hmembers =>
    refine Json.Distinct.obj ?_ fun m hm => hmembers m (List.mem_filter.mp hm).1
    exact hkeys.sublist (List.Sublist.map _ List.filter_sublist)

/-- Which features can be merged is a partial equivalence. -/
theorem mergeDuplicateFeature_lawful (profile : ImportProfile) :
    KeyedMerge.Lawful (mergeDuplicateFeature profile) PreparedFeature.IsGood where
  symm {a b} ha hb h := by
    rw [mergeDuplicateFeature_isSome] at h ⊢
    exact ⟨h.merges, h.collection.symm, h.featureId.symm, h.incomingLines, h.existingLines,
      jsonEq_symm (comparable_distinct ha) (comparable_distinct hb) h.properties⟩
  trans {a b c} ha _ _ h h' := by
    rw [mergeDuplicateFeature_isSome] at h h' ⊢
    exact ⟨h.merges, h.collection.trans h'.collection, h.featureId.trans h'.featureId,
      h.existingLines, h'.incomingLines,
      jsonEq_trans (comparable_distinct ha) h.properties h'.properties⟩
  good {a b c} ha _ h := by
    obtain ⟨-, -, -, hproperties, -⟩ := mergeDuplicateFeature_eq_some h
    rw [PreparedFeature.IsGood, hproperties]
    exact ha
  like {a b c} ha hb h := by
    obtain ⟨hm, hcollection, hid, hproperties, hlines⟩ := mergeDuplicateFeature_eq_some h
    rw [mergeDuplicateFeature_isSome]
    refine ⟨hm.merges, hcollection, hid, hlines, hm.existingLines, ?_⟩
    -- the properties of `a` are equal to themselves, as they are to those of `b`
    have hself : jsonEq a.comparable a.comparable = true :=
      jsonEq_trans (comparable_distinct ha) hm.properties
        (jsonEq_symm (comparable_distinct ha) (comparable_distinct hb) hm.properties)
    rw [PreparedFeature.comparable, hproperties]
    exact hself

/-! ### The properties of prepared features -/

/-- The property transform of the profile gives a dictionary for a dictionary. -/
def ImportProfile.TransformsDicts (profile : ImportProfile) : Prop :=
  ∀ transform, profile.propertyTransform = some transform → ∀ properties collection,
    (Json.obj properties).Distinct → (Json.obj (transform properties collection)).Distinct

/-- The properties of the feature, if it has any, come from a dictionary. -/
def HasDict (feature : Json) : Prop :=
  ∀ members properties, feature = .obj members →
    members.lookup "properties" = some (.obj properties) → (Json.obj properties).Distinct

theorem hasDict_of_distinct {feature : Json} (h : feature.Distinct) : HasDict feature := by
  rintro members properties rfl hlookup
  cases h with
  | obj _ hmembers => exact hmembers _ (mem_of_lookup hlookup)

/-- The features of a document of dictionaries have dictionaries. -/
theorem IsCollection.hasDict {members : List (String × Json)} {features : List Json}
    (h : IsCollection members features) (hdistinct : (Json.obj members).Distinct) :
    ∀ f ∈ features, HasDict f := by
  intro f hf
  cases hdistinct with
  | obj _ hmembers =>
    cases hmembers _ (mem_of_lookup h.features) with
    | arr hall => exact hasDict_of_distinct (hall f hf)

theorem bygningProfile_transformsDicts : bygningProfile.TransformsDicts := by
  intro transform h
  cases h

theorem distinct_nil : (Json.obj []).Distinct :=
  Json.Distinct.obj List.nodup_nil fun _ h => absurd h List.not_mem_nil

theorem distinct_dictSet {d : List (String × Json)} {v : Json} (hd : (Json.obj d).Distinct)
    (hv : v.Distinct) (k : String) : (Json.obj (dictSet d k v)).Distinct := by
  cases hd with
  | obj hkeys hmembers =>
    refine Json.Distinct.obj (nodup_dictSet hkeys k v) fun m hm => ?_
    rcases mem_dictSet hm with rfl | hm
    · exact hv
    · exact hmembers m hm

theorem prepareFeature_isGood (hprofile : profile.TransformsDicts) {feature inheritedCrs : Json}
    {item : PreparedFeature} (hfeature : HasDict feature)
    (h : prepareFeature env profile feature inheritedCrs = .ok item) : item.IsGood := by
  cases feature with
  | obj members =>
    simp only [prepareFeature] at h
    obtain ⟨placement, -, h⟩ := Except.bind_eq_ok.mp h
    have hproperties : (Json.obj (featureProperties members).1).Distinct := by
      rw [featureProperties]
      split
      · next properties hlookup => exact hfeature members properties rfl hlookup
      · exact distinct_nil
    rw [finishFeature.eq_def] at h
    split at h
    · cases h
    · split at h
      · cases h
      · cases h
        show (Json.obj (profile.propertiesForUpstream env _ placement.collection)).Distinct
        rw [ImportProfile.propertiesForUpstream]
        split
        · exact hproperties
        · next transform htransform => exact hprofile transform htransform _ _ hproperties
  | _ => cases h

theorem identifiedFeature_isGood (hprofile : profile.TransformsDicts) {feature inheritedCrs : Json}
    {x : List String × PreparedFeature} (hfeature : HasDict feature)
    (h : identifiedFeature env profile inheritedCrs feature = .ok x) : x.2.IsGood := by
  rw [identifiedFeature] at h
  obtain ⟨item, hitem, h⟩ := Except.bind_eq_ok.mp h
  obtain ⟨identity, -, h⟩ := Except.bind_eq_ok.mp h
  cases h
  exact prepareFeature_isGood hprofile hfeature hitem

theorem normalizeProperties_distinct {properties : List (String × Json)}
    (h : (Json.obj properties).Distinct) : (Json.obj (normalizeProperties properties)).Distinct := by
  rw [normalizeProperties]
  generalize propertyAliases = aliases
  induction aliases generalizing properties with
  | nil => exact h
  | cons e aliases ih =>
    rw [List.foldl_cons]
    refine ih ?_
    split
    · exact h
    · split
      · next value hvalue =>
        refine distinct_dictSet h ?_ e.2
        cases h with
        | obj _ hmembers => exact hmembers _ (mem_of_lookup hvalue)
      · exact h

/-- A converted feature has the properties of the classic one, renamed. -/
theorem convertFeature_hasDict {feature converted : Json} {index : ℕ} (hfeature : HasDict feature)
    (h : convertFeature env profile feature index = .ok converted) : HasDict converted := by
  rw [convertFeature.eq_def] at h
  split at h
  · next members =>
    split at h
    · split at h
      · next properties hlookup =>
        have hproperties := normalizeProperties_distinct (hfeature members properties rfl hlookup)
        simp only at h
        split at h
        · cases h
        · cases h
        · split at h
          · obtain ⟨geometry, -, h⟩ := Except.bind_eq_ok.mp h
            rw [convertedFeature] at h
            split at h
            · obtain ⟨geometryType, -, h⟩ := Except.bind_eq_ok.mp h
              simp only at h
              split at h
              · cases h
                rintro members' properties' ⟨⟩ hlookup'
                cases hlookup'
                exact hproperties
              · cases h
                rintro members' properties' ⟨⟩ hlookup'
                cases hlookup'
                exact hproperties
            · cases h
          · cases h
      · cases h
    · cases h
  · cases h

end Gcimport
