/-
Merging duplicates (`gcimport/importer.py`: `prepare_document` and
`_merge_duplicate_feature`).

The loop goes on after an error, so that all features are looked at.  What it
holds is what `KeyedMerge.gather` leaves of the features that can be prepared.

* `lineParts_merge` — a merge has the line parts of both;
* `prepareSteps_progress` — what the loop holds after some features, and which of
  them its errors name;
* `prepareDocument_merges` — when a document is accepted, what is returned then,
  and what is raised otherwise.
-/
import Topogdb.Gcimport.Collisions
import Topogdb.Lib.Identifiers
import Topogdb.Lib.Related

namespace Gcimport

open Python Sql

variable {env : Env} {profile : ImportProfile} {crs : Json}

/-! ### Line parts -/

/-- The parts of a multi-line; other geometries have none. -/
def PreparedFeature.lineParts (item : PreparedFeature) : List Json :=
  match item.geojson.getD "geometry" with
  | .obj geometry =>
    match geometry.lookup "type", geometry.lookup "coordinates" with
    | some (.str "MultiLineString"), some (.arr parts) => parts
    | _, _ => []
  | _ => []

/-- **A merge has the line parts of both**, in this order. -/
theorem lineParts_merge (a b c : PreparedFeature) (h : mergeDuplicateFeature profile a b = some c) :
    c.lineParts = a.lineParts ++ b.lineParts := by
  rw [mergeDuplicateFeature] at h
  split_ifs at h
  split at h
  · next p p' g g' hp hp' hg hg' =>
    split at h
    · next htype htype' =>
      split_ifs at h
      split at h
      · next xs xs' members hxs hxs' hmembers =>
        cases h
        have hgeometry : Json.getD (.obj (dictSet members "geometry" (.obj
            [("type", .str "MultiLineString"), ("coordinates", .arr (xs ++ xs'))]))) "geometry"
            = .obj [("type", .str "MultiLineString"), ("coordinates", .arr (xs ++ xs'))] := by
          rw [Json.getD, Json.get?_obj, lookup_dictSet_self]
          rfl
        rw [PreparedFeature.lineParts, PreparedFeature.lineParts, PreparedFeature.lineParts,
          hg, hg']
        simp only [hgeometry, htype, htype', hxs, hxs']
        rfl
      · cases h
    · cases h
  · cases h

/-- What a merge has of its first part. -/
def PreparedFeature.head (item : PreparedFeature) : String × String × List (String × Json) :=
  (item.collection, item.featureId, item.properties)

theorem head_merge (a b c : PreparedFeature) (h : mergeDuplicateFeature profile a b = some c) :
    c.head = a.head := by
  obtain ⟨-, hcollection, hid, hproperties, -⟩ := mergeDuplicateFeature_eq_some h
  rw [PreparedFeature.head, PreparedFeature.head, hcollection, hid, hproperties]

/-! ### Messages -/

/-- The errors name the feature of this index. -/
def Names (errors : List String) (i : ℕ) : Prop :=
  ∃ message : String, s!"features[{i}]: {message}" ∈ errors

/-- The index can be read from a message. -/
theorem index_of_message {i j : ℕ} {message other : String}
    (h : s!"features[{i}]: {message}" = s!"features[{j}]: {other}") : i = j := by
  have hbracket : ∀ n : ℕ, ']' ∉ (Nat.repr n).toList := by
    intro n hn
    rw [Nat.toList_repr] at hn
    have hdigit := Nat.isDigit_of_mem_toDigits (by omega) (by omega) hn
    exact absurd hdigit (by decide)
  have hlist : ∀ (n : ℕ) (m : String), (s!"features[{n}]: {m}").toList =
      "features[".toList ++ ((Nat.repr n).toList ++ ']' :: (": ".toList ++ m.toList)) := by
    intro n m
    have hclose : "]: ".toList = ']' :: ": ".toList := by decide +kernel
    show ("features[" ++ Nat.repr n ++ "]: " ++ m).toList = _
    rw [String.toList_append, String.toList_append, String.toList_append, hclose,
      List.append_assoc, List.append_assoc]
    rfl
  have hcancel := List.append_cancel_left ((hlist i message).symm.trans
    ((congrArg String.toList h).trans (hlist j other)))
  exact repr_injective (String.toList_inj.mp (append_cons_inj (hbracket i) (hbracket j) hcancel).1)

theorem names_append {errors errors' : List String} {i : ℕ} :
    Names (errors ++ errors') i ↔ Names errors i ∨ Names errors' i := by
  simp only [Names, ← exists_or, List.mem_append]

/-- The messages of one feature name it, if there are any. -/
theorem names_messages {messages : List String} {n i : ℕ} :
    Names (messages.map fun message => s!"features[{n}]: {message}") i ↔ i = n ∧ messages ≠ [] := by
  constructor
  · rintro ⟨message, hmessage⟩
    obtain ⟨message', hmem, heq⟩ := List.mem_map.mp hmessage
    exact ⟨(index_of_message heq).symm, List.ne_nil_of_mem hmem⟩
  · rintro ⟨rfl, hne⟩
    obtain ⟨message, hmem⟩ := List.exists_mem_of_ne_nil messages hne
    exact ⟨message, List.mem_map.mpr ⟨message, hmem, rfl⟩⟩

theorem names_duplicateMessage {n i : ℕ} : Names [duplicateMessage profile n] i ↔ i = n := by
  have hmessage : [duplicateMessage profile n] =
      ["duplicate (" ++ ", ".intercalate profile.identityFields ++ ")"].map fun message =>
        s!"features[{n}]: {message}" := by
    have hopen : "]: duplicate (" = "]: " ++ "duplicate (" := by decide +kernel
    rw [duplicateMessage, List.map_singleton]
    show ["features[" ++ Nat.repr n ++ "]: duplicate (" ++
      ", ".intercalate profile.identityFields ++ ")"] = _
    rw [hopen]
    simp only [String.append_assoc]
    rfl
  rw [hmessage, names_messages]
  simp

/-! ### The features that can be prepared -/

/-- The features that can be prepared, with their identities. -/
def itemsOf (env : Env) (profile : ImportProfile) (crs : Json) (features : List Json) :
    List (List String × PreparedFeature) :=
  features.filterMap fun feature => (identifiedFeature env profile crs feature).toOption

theorem itemsOf_of_preparedTo {features : List Json} {xs : List (List String × PreparedFeature)}
    (h : PreparedTo env profile crs features xs) : itemsOf env profile crs features = xs := by
  induction h with
  | nil => rfl
  | cons hx _ ih =>
    rw [itemsOf, List.filterMap_cons, hx]
    exact congrArg _ ih

/-- With a profile that fits together, a feature is prepared with its identity or
is refused with messages. -/
theorem identifiedFeature_cases (hprofile : profile.WellFormed) (crs feature : Json) :
    (∃ x, identifiedFeature env profile crs feature = .ok x ∧
      prepareFeature env profile feature crs = .ok x.2) ∨
    ∃ messages, identifiedFeature env profile crs feature = .error (.documentValidation messages) ∧
      prepareFeature env profile feature crs = .error (.documentValidation messages) ∧
        messages ≠ [] := by
  obtain ⟨hraises, hspec⟩ := prepareFeature_spec env hprofile feature crs
  rw [identifiedFeature]
  cases hitem : prepareFeature env profile feature crs with
  | ok item =>
    cases hidentity : identityOf env profile item with
    | ok identity =>
      refine .inl ⟨(identity, item), ?_, rfl⟩
      rw [Except.ok_bind, hidentity]
      rfl
    | error e => exact (identityOf_raises (hspec item hitem) e hidentity).elim
  | error e =>
    obtain ⟨messages, rfl⟩ := hraises e hitem
    refine .inr ⟨messages, rfl, rfl, fun hnil => ?_⟩
    exact prepareFeature_message feature crs _ hitem (congrArg _ hnil)

section Loop

variable (env profile crs)

/-- The feature cannot be prepared. -/
def FailsToPrepare (feature : Json) : Prop :=
  ∀ item, prepareFeature env profile feature crs ≠ .ok item

/-- The first feature of its identity cannot be merged with the feature. -/
def FailsToMerge (before : List Json) (feature : Json) : Prop :=
  ∃ x, identifiedFeature env profile crs feature = .ok x ∧
    ∃ first, (KeyedMerge.ofKey x.1 (itemsOf env profile crs before)).head? = some first ∧
      ¬ Mergeable profile first x.2

/-- The feature of this index fails. -/
def Fails (features : List Json) (i : ℕ) : Prop :=
  ∃ feature, features[i]? = some feature ∧
    (FailsToPrepare env profile crs feature ∨
      FailsToMerge env profile crs (features.take i) feature)

variable {env profile crs}

/-- One feature more. -/
theorem fails_concat {features : List Json} {feature : Json} {i : ℕ} :
    Fails env profile crs (features ++ [feature]) i ↔
      Fails env profile crs features i ∨ (i = features.length ∧
        (FailsToPrepare env profile crs feature ∨
          FailsToMerge env profile crs features feature)) := by
  rcases Nat.lt_trichotomy i features.length with hlt | rfl | hgt
  · have hget : (features ++ [feature])[i]? = features[i]? := List.getElem?_append_left hlt
    have htake : (features ++ [feature]).take i = features.take i :=
      List.take_append_of_le_length (by omega)
    rw [Fails, hget, htake]
    exact (or_iff_left fun h => by omega).symm
  · have hnone : ¬ Fails env profile crs features features.length := by
      rintro ⟨f, hf, -⟩
      simp at hf
    rw [or_iff_right hnone, Fails]
    simp
  · have hnone : ¬ Fails env profile crs features i := by
      rintro ⟨f, hf, -⟩
      rw [List.getElem?_eq_none (by omega)] at hf
      cases hf
    rw [or_iff_right hnone, Fails, List.getElem?_eq_none (by simp; omega)]
    simp only [reduceCtorEq, false_and, exists_false, false_iff]
    omega

/-- What the loop of `prepare_document` holds after some features, and which of
them its errors name. -/
structure Progress (env : Env) (profile : ImportProfile) (crs : Json) (features : List Json)
    (st : PrepareState) : Prop where
  holds : Holds st (KeyedMerge.gather (mergeDuplicateFeature profile) []
    (itemsOf env profile crs features))
  names : ∀ i, Names st.errors i ↔ Fails env profile crs features i

theorem itemsOf_concat (features : List Json) (feature : Json) :
    itemsOf env profile crs (features ++ [feature]) =
      itemsOf env profile crs features ++
        (identifiedFeature env profile crs feature).toOption.toList := by
  rw [itemsOf, List.filterMap_append]
  refine congrArg _ ?_
  rw [List.filterMap_cons, List.filterMap_nil]
  cases (identifiedFeature env profile crs feature).toOption <;> rfl

/-- The properties of the features that are prepared are dictionaries. -/
theorem itemsOf_isGood (htransform : profile.TransformsDicts) {features : List Json}
    (hdicts : ∀ f ∈ features, HasDict f) :
    ∀ x ∈ itemsOf env profile crs features, x.2.IsGood := by
  intro x hx
  obtain ⟨feature, hfeature, hx⟩ := List.mem_filterMap.mp hx
  exact identifiedFeature_isGood htransform (hdicts feature hfeature) (Except.toOption_eq_some.mp hx)

/-- **One iteration.** -/
theorem prepareStep_progress (hprofile : profile.WellFormed) (htransform : profile.TransformsDicts)
    {features : List Json} {feature : Json} (hdicts : ∀ f ∈ features, HasDict f)
    (hdict : HasDict feature) {st : PrepareState} (hst : Progress env profile crs features st) :
    ∃ st', prepareStep env profile crs st (feature, features.length) = .ok st' ∧
      Progress env profile crs (features ++ [feature]) st' := by
  obtain ⟨x, hx, hprepared⟩ | ⟨messages, hx, hrefused, hne⟩ :=
    (identifiedFeature_cases hprofile crs feature : _ ∨ ∃ messages,
      identifiedFeature env profile crs feature = .error (.documentValidation messages) ∧ _)
  · have hprepares : ¬ FailsToPrepare env profile crs feature := fun h => h x.2 hprepared
    have hgood := identifiedFeature_isGood htransform hdict hx
    have hgoods : ∀ y ∈ itemsOf env profile crs features, y.2.IsGood :=
      itemsOf_isGood htransform hdicts
    have hmerges := KeyedMerge.gather_insert_isSome_iff (mergeDuplicateFeature_lawful profile)
      hgoods hgood
    obtain ⟨st', hnote, hspec⟩ := noteItem_holds hst.holds features.length x
    refine ⟨st', prepareStep_of_note hx hnote, ?_⟩
    have hitems : itemsOf env profile crs (features ++ [feature]) =
        itemsOf env profile crs features ++ [x] := by
      rw [itemsOf_concat, hx]
      rfl
    -- it fails to merge where the table of the earlier ones refuses it
    have hfails : FailsToMerge env profile crs features feature ↔
        KeyedMerge.insert (mergeDuplicateFeature profile) (KeyedMerge.gather
          (mergeDuplicateFeature profile) [] (itemsOf env profile crs features)) x = none := by
      rw [← Option.not_isSome_iff_eq_none, hmerges]
      simp only [mergeDuplicateFeature_isSome, Option.mem_def, not_forall, exists_prop]
      constructor
      · rintro ⟨x', hx', hfirst⟩
        rw [hx] at hx'
        cases hx'
        exact hfirst
      · exact fun hfirst => ⟨x, hx, hfirst⟩
    cases hins : KeyedMerge.insert (mergeDuplicateFeature profile) (KeyedMerge.gather
        (mergeDuplicateFeature profile) [] (itemsOf env profile crs features)) x with
    | some kept =>
      rw [hins] at hspec hfails
      refine ⟨?_, fun i => ?_⟩
      · rw [hitems, KeyedMerge.gather_concat, hins]
        exact hspec.1
      · rw [hspec.2, hst.names, fails_concat, hfails]
        simp [hprepares]
    | none =>
      rw [hins] at hspec hfails
      refine ⟨?_, fun i => ?_⟩
      · rw [hitems, KeyedMerge.gather_concat, hins]
        exact hspec.1
      · rw [hspec.2, names_append, hst.names, names_duplicateMessage, fails_concat, hfails]
        simp
  · -- a feature that is refused is no duplicate
    have hprepares : FailsToPrepare env profile crs feature := by
      intro item hitem
      rw [hrefused] at hitem
      cases hitem
    refine ⟨{ st with errors := st.errors ++ messages.map fun message =>
      s!"features[{features.length}]: {message}" }, ?_, ?_, fun i => ?_⟩
    · rw [prepareStep]
      simp only [prepareItem_of_error hx]
    · rw [itemsOf_concat, hx]
      show Holds _ (KeyedMerge.gather _ [] (itemsOf env profile crs features ++ []))
      rw [List.append_nil]
      exact ⟨hst.holds.prepared, hst.holds.indexes⟩
    · rw [names_append, hst.names, names_messages, fails_concat]
      simp [hprepares, hne]

/-- **The loop goes through all features.** -/
theorem prepareSteps_progress (hprofile : profile.WellFormed)
    (htransform : profile.TransformsDicts) {features : List Json}
    (hdicts : ∀ f ∈ features, HasDict f) :
    ∃ st, features.zipIdx.foldlM (prepareStep env profile crs) {} = .ok st ∧
      Progress env profile crs features st := by
  induction features using List.reverseRecOn with
  | nil =>
    refine ⟨{}, rfl, ⟨⟨rfl, rfl⟩, fun i => ?_⟩⟩
    simp [Names, Fails]
  | append_singleton features feature ih =>
    obtain ⟨st, hfold, hst⟩ := ih fun f hf => hdicts f (List.mem_append_left _ hf)
    obtain ⟨st', hstep, hst'⟩ := prepareStep_progress hprofile htransform
      (fun f hf => hdicts f (List.mem_append_left _ hf))
      (hdicts feature (List.mem_append_right _ (List.mem_singleton_self feature))) hst
    refine ⟨st', ?_, hst'⟩
    rw [List.zipIdx_append, List.foldlM_append, hfold, Except.ok_bind, Nat.zero_add,
      List.zipIdx_singleton, List.foldlM_cons, hstep]
    rfl

end Loop

/-! ### The document -/

theorem prepares_iff (hprofile : profile.WellFormed) (feature : Json) :
    (∃ item, prepareFeature env profile feature crs = .ok item) ↔
      ∃ x, identifiedFeature env profile crs feature = .ok x := by
  rcases identifiedFeature_cases hprofile crs feature with
    ⟨x, hx, hprepared⟩ | ⟨messages, hx, hrefused, -⟩
  · exact ⟨fun _ => ⟨x, hx⟩, fun _ => ⟨x.2, hprepared⟩⟩
  · rw [hx, hrefused]
    simp

theorem preparedTo_exists_iff {features : List Json} :
    (∃ xs, PreparedTo env profile crs features xs) ↔
      ∀ f ∈ features, ∃ x, identifiedFeature env profile crs f = .ok x := by
  constructor
  · rintro ⟨xs, hxs⟩ f hf
    obtain ⟨x, -, hx⟩ := hxs.exists_of_mem_left hf
    exact ⟨x, hx⟩
  · intro h
    induction features with
    | nil => exact ⟨[], List.Forall₂.nil⟩
    | cons f features ih =>
      obtain ⟨x, hx⟩ := h f List.mem_cons_self
      obtain ⟨xs, hxs⟩ := ih fun g hg => h g (List.mem_cons_of_mem f hg)
      exact ⟨x :: xs, List.Forall₂.cons hx hxs⟩

/-- A later feature with the identity of an earlier one can be merged with it. -/
def MergesIfSame (env : Env) (profile : ImportProfile) (crs earlier later : Json) : Prop :=
  ∀ x y, identifiedFeature env profile crs earlier = .ok x →
    identifiedFeature env profile crs later = .ok y → x.1 = y.1 → Mergeable profile x.2 y.2

theorem collects_iff (htransform : profile.TransformsDicts) {features : List Json}
    (hdicts : ∀ f ∈ features, HasDict f) {xs : List (List String × PreparedFeature)}
    (hxs : PreparedTo env profile crs features xs) :
    (∃ kept, KeyedMerge.collect (mergeDuplicateFeature profile) [] xs = some kept) ↔
      features.Pairwise (MergesIfSame env profile crs) := by
  have hgood : ∀ x ∈ xs, x.2.IsGood := by
    rw [← itemsOf_of_preparedTo hxs]
    exact itemsOf_isGood htransform hdicts
  rw [← Option.isSome_iff_exists,
    KeyedMerge.collect_isSome_iff (mergeDuplicateFeature_lawful profile) hgood]
  refine (hxs.pairwise_iff fun f x g y hx hy => ?_).symm
  rw [mergeDuplicateFeature_isSome]
  constructor
  · exact fun h => h x y hx hy
  · intro h x' y' hx' hy'
    rw [hx] at hx'
    rw [hy] at hy'
    cases hx'
    cases hy'
    exact h

/-- What is returned for the features of one identity. -/
structure MergedFrom (values : List PreparedFeature) (item : PreparedFeature) : Prop where
  lineParts : item.lineParts = values.flatMap PreparedFeature.lineParts
  head : values.head?.map PreparedFeature.head = some item.head
  single : ∀ value, values = [value] → item = value

/-- One feature is kept for each identity, put together of all features with it. -/
theorem mergedFrom_collect {xs kept : List (List String × PreparedFeature)}
    (h : KeyedMerge.collect (mergeDuplicateFeature profile) [] xs = some kept) :
    List.Forall₂ (fun identity item => MergedFrom (KeyedMerge.ofKey identity xs) item)
      (KeyedMerge.firstKeys xs) (kept.map Prod.snd) := by
  rw [← KeyedMerge.keys_collect h, List.forall₂_map_left_iff, List.forall₂_map_right_iff,
    List.forall₂_same]
  intro e he
  exact ⟨KeyedMerge.flatMap_collect lineParts_merge h he, KeyedMerge.first_collect head_merge h he,
    fun value hvalue => KeyedMerge.single_collect h he hvalue⟩

/-- **Merging duplicates loses no geometry**, and a document is accepted as a whole:
when all of its features can be prepared and merged.  Otherwise the errors name
those that cannot. -/
theorem prepareDocument_merges (env : Env) (profile : ImportProfile)
    (hprofile : profile.WellFormed) (htransform : profile.TransformsDicts)
    (members : List (String × Json)) (hdistinct : (Json.obj members).Distinct)
    (features : List Json) (hcollection : IsCollection members features) :
    let crs := inheritedCrs members
    let items := itemsOf env profile crs features
    ((∃ prepared, prepareDocument env profile (.obj members) = .ok prepared) ↔
      (∀ f ∈ features, ∃ item, prepareFeature env profile f crs = .ok item) ∧
        features.Pairwise (MergesIfSame env profile crs)) ∧
    (∀ prepared, prepareDocument env profile (.obj members) = .ok prepared →
      List.Forall₂ (fun identity item => MergedFrom (KeyedMerge.ofKey identity items) item)
        (KeyedMerge.firstKeys items) prepared) ∧
    ((¬ ∃ prepared, prepareDocument env profile (.obj members) = .ok prepared) →
      ∃ errors, prepareDocument env profile (.obj members) = .error (.documentValidation errors) ∧
        ∀ i, Names errors i ↔ Fails env profile crs features i) := by
  intro crs items
  have hdicts : ∀ f ∈ features, HasDict f := hcollection.hasDict hdistinct
  refine ⟨?_, fun prepared hok => ?_, fun hrefused => ?_⟩
  · simp only [prepares_iff hprofile, ← preparedTo_exists_iff, prepareDocument_ok_iff hcollection]
    constructor
    · rintro ⟨prepared, xs, kept, hxs, hkept, -⟩
      exact ⟨⟨xs, hxs⟩, (collects_iff htransform hdicts hxs).mp ⟨kept, hkept⟩⟩
    · rintro ⟨⟨xs, hxs⟩, hmerges⟩
      obtain ⟨kept, hkept⟩ := (collects_iff htransform hdicts hxs).mpr hmerges
      exact ⟨_, xs, kept, hxs, hkept, rfl⟩
  · obtain ⟨xs, kept, hxs, hkept, rfl⟩ := (prepareDocument_ok_iff hcollection prepared).mp hok
    obtain rfl : items = xs := itemsOf_of_preparedTo hxs
    exact mergedFrom_collect hkept
  · obtain ⟨st, hfold, hst⟩ : ∃ st, features.zipIdx.foldlM (prepareStep env profile crs) {} = .ok st ∧
        Progress env profile crs features st := prepareSteps_progress hprofile htransform hdicts
    have hdocument : prepareDocument env profile (.obj members) =
        if st.errors ≠ [] then .error (.documentValidation st.errors) else .ok st.prepared := by
      rw [prepareDocument]
      simp only [hcollection.type, hcollection.features]
      show (features.zipIdx.foldlM (prepareStep env profile crs) {} >>= _) = _
      rw [hfold, Except.ok_bind]
      rfl
    by_cases herrors : st.errors = []
    · rw [if_neg (not_not.mpr herrors)] at hdocument
      exact absurd ⟨_, hdocument⟩ hrefused
    · rw [if_pos herrors] at hdocument
      exact ⟨st.errors, hdocument, hst.names⟩

/-- Three parts of two lines: the parts of the one line become its two lines. -/
theorem prepareDocument_merges_pieces :
    let items := itemsOf twoLinesEnv bygningProfile (.str "EPSG:5972") piecesFeatures
    prepareDocument twoLinesEnv bygningProfile (.obj (collectionMembers piecesFeatures)) =
        .ok [tileItem false [0, 1], tileItem true [1]] ∧
      List.Forall₂ (fun identity item => MergedFrom (KeyedMerge.ofKey identity items) item)
        (KeyedMerge.firstKeys items) [tileItem false [0, 1], tileItem true [1]] := by
  have haccepted := prepareDocument_pieces twoLinesEnv.loads
  refine ⟨haccepted, (prepareDocument_merges twoLinesEnv bygningProfile bygningProfile_wellFormed
    bygningProfile_transformsDicts _ (collectionMembers_distinct fun f hf => ?_) _
    ⟨rfl, rfl⟩).2.1 _ haccepted⟩
  obtain ⟨p, -, rfl⟩ := List.mem_map.mp hf
  exact tileFeature_distinct p.1 p.2

section Dropping

/-- A profile whose transform drops the identity of a feature. -/
def droppingProfile : ImportProfile :=
  { bygningProfile with propertyTransform := some fun _ _ => [] }

def droppedItem : PreparedFeature :=
  { collection := "bygning_posisjon"
    featureId := "1"
    geojson := .obj
      [("type", .str "Feature"), ("id", .str "1"), ("geometry", .obj positionGeometry),
        ("properties", .obj [])] }

theorem prepareFeature_dropping (second : Bool) :
    prepareFeature positionsEnv droppingProfile (.obj (positionMembers second)) .null =
      .ok droppedItem := by
  have hidentity : identityValues droppingProfile (positionProperties second) =
      (["1", navnerom second], []) := by
    cases second <;> decide +kernel
  have htype : (positionMembers second).lookup "type" = some (.str "Feature") := rfl
  have hproperties : featureProperties (positionMembers second) =
      (positionProperties second, []) := rfl
  have hplace : placeFeature positionsEnv droppingProfile (positionMembers second)
      (positionProperties second) .null [] =
        .ok ⟨[], "bygning_posisjon", .obj positionGeometry⟩ :=
    placeFeature_position second
  rw [prepareFeature]
  simp only [htype, hproperties, hidentity, List.append_nil, hplace, Except.ok_bind]
  rfl

/-- With it a document of one position, which can be prepared, ends in a lookup that fails. -/
theorem dropping_raises :
    prepareFeature positionsEnv droppingProfile (.obj (positionMembers true)) .null =
      .ok droppedItem ∧
    prepareDocument positionsEnv droppingProfile (positions [true]) =
      .error (.keyError "lokalid") ∧
    ¬ ((∃ prepared, prepareDocument positionsEnv droppingProfile (positions [true]) =
        .ok prepared) ↔
      (∀ f ∈ [Json.obj (positionMembers true)],
        ∃ item, prepareFeature positionsEnv droppingProfile f .null = .ok item) ∧
      [Json.obj (positionMembers true)].Pairwise (MergesIfSame positionsEnv droppingProfile .null)) := by
  have hprepare := prepareFeature_dropping true
  have hidentified : identifiedFeature positionsEnv droppingProfile .null
      (.obj (positionMembers true)) = .error (.keyError "lokalid") := by
    rw [identifiedFeature, hprepare, Except.ok_bind]
    rfl
  have hraises : prepareDocument positionsEnv droppingProfile (positions [true]) =
      .error (.keyError "lokalid") := by
    have hstep : prepareStep positionsEnv droppingProfile .null {}
        (.obj (positionMembers true), 0) = .error (.keyError "lokalid") := by
      rw [prepareStep]
      simp only [prepareItem_of_error hidentified]
    show ([(Json.obj (positionMembers true), 0)].foldlM
      (prepareStep positionsEnv droppingProfile .null) {} >>= _) = _
    rw [List.foldlM_cons, hstep]
    rfl
  refine ⟨hprepare, hraises, fun hiff => ?_⟩
  obtain ⟨prepared, hok⟩ := hiff.mpr ⟨by simp [hprepare], List.pairwise_singleton _ _⟩
  rw [hraises] at hok
  cases hok

end Dropping

end Gcimport
