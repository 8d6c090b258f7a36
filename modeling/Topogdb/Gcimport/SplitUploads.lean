/-
Imports that are split over several files.

The request handler prepares its files one by one and appends what they give,
so the features of one identity are merged or rejected within a file only.

* `prepareUpload_ok_iff` — what a file gives by itself, JSON-FG or classic;
* `items_joined` — the features of one document for all files;
* `uploads_ok_iff` — what several uploads give;
* `preparedSeparately_agrees_iff` — when splitting an import changes nothing.
-/
import Topogdb.Lib.Related
import Topogdb.Lib.Uuid
import Topogdb.Gcimport.Collecting
import Topogdb.Gcimport.Collisions
import Topogdb.Gcimport.EventProtocol

namespace Gcimport

open Python Effects

variable {env : Env} {profile : ImportProfile}

/-! ### The index of a feature only goes into messages -/

theorem coordinateArray_index {geometry : List (String × Json)} {coordinates : List Json} {i : ℕ}
    (j : ℕ) (h : coordinateArray geometry i = .ok coordinates) :
    coordinateArray geometry j = .ok coordinates := by
  rw [coordinateArray] at h ⊢
  split at h
  · exact h
  · cases h

theorem normalizeGeometry_index {geometry normalized : List (String × Json)} {collection : String}
    {i : ℕ} (j : ℕ)
    (h : normalizeGeometryForProfile env profile geometry collection i = .ok normalized) :
    normalizeGeometryForProfile env profile geometry collection j = .ok normalized := by
  simp only [normalizeGeometryForProfile] at h ⊢
  obtain ⟨target, htarget, h⟩ := Except.bind_eq_ok.mp h
  rw [htarget, Except.ok_bind]
  cases htype : (geometry.lookup "type").getD .null with
  | str geometryType =>
    rw [htype] at h
    simp only at h ⊢
    -- the index occurs in the errors alone
    split_ifs at h ⊢
    · exact h
    · obtain ⟨coordinates, hcoordinates, h⟩ := Except.bind_eq_ok.mp h
      rw [coordinateArray_index j hcoordinates]
      exact h
    · obtain ⟨coordinates, hcoordinates, h⟩ := Except.bind_eq_ok.mp h
      rw [coordinateArray_index j hcoordinates, Except.ok_bind]
      split at h
      · exact h
      · cases h
      · cases h
    · obtain ⟨coordinates, hcoordinates, h⟩ := Except.bind_eq_ok.mp h
      rw [coordinateArray_index j hcoordinates, Except.ok_bind]
      split_ifs at h ⊢
      · cases h
      · split at h
        · cases h
        · exact h
    · cases h
  | _ =>
    rw [htype] at h
    cases h

theorem convertFeature_index {feature converted : Json} {i : ℕ} (j : ℕ)
    (h : convertFeature env profile feature i = .ok converted) :
    convertFeature env profile feature j = .ok converted := by
  -- every branch that is left has no error in it
  rw [convertFeature.eq_def] at h ⊢
  split at h
  · next members =>
    split at h
    · next htype =>
      split at h
      · next properties hproperties =>
        simp only at h ⊢
        split at h
        · cases h
        · cases h
        · split at h
          · next geometry hgeometry =>
            obtain ⟨normalized, hnormalized, h⟩ := Except.bind_eq_ok.mp h
            rw [normalizeGeometry_index j hnormalized, Except.ok_bind]
            rw [convertedFeature] at h ⊢
            split at h
            · exact h
            · cases h
          · cases h
      · cases h
    · cases h
  · cases h

/-! ### Files -/

/-- An uploaded FeatureCollection, as the decoder reads it. -/
structure ImportFile (env : Env) where
  upload : UploadedImportFile
  members : List (String × Json)
  features : List Json
  loads : env.loads upload.body = some (.obj members)
  isCollection : IsCollection members features
  distinct : (Json.obj members).Distinct

/-- The CRS that a collection declares, as its kind does: nothing for classic
GeoJSON without one, and the decoder's error for a malformed one. -/
def declaredCrs (env : Env) (classic : Bool) (members : List (String × Json)) :
    Except PyError (Option Json) :=
  if classic then (crsFromGeojson env members).map (Option.map Json.str)
  else .ok (some (inheritedCrs members))

/-- What a feature becomes before `prepare_document` reads it. -/
def Normalizes (env : Env) (profile : ImportProfile) (classic : Bool) (feature normalized : Json) :
    Prop :=
  if classic then convertFeature env profile feature 0 = .ok normalized else normalized = feature

/-- `_normalize_upload`, once the kind of the file is known. -/
def normalizeDocument (env : Env) (profile : ImportProfile) (classic : Bool) (document : Json) :
    Except PyError Json :=
  if classic then convertDocument env profile document else .ok document

/-- What one upload gives by itself. -/
def prepareUpload (env : Env) (profile : ImportProfile) (classic : Bool) (document : Json) :
    Except PyError (List PreparedFeature) := do
  let normalizedDocument ← normalizeDocument env profile classic document
  prepareDocument env profile normalizedDocument

/-- A feature of a document in this CRS is prepared to `x`. -/
def Item (env : Env) (profile : ImportProfile) (classic : Bool) (crs feature : Json)
    (x : List String × PreparedFeature) : Prop :=
  ∃ normalized, Normalizes env profile classic feature normalized ∧
    identifiedFeature env profile crs normalized = .ok x

/-- The features of a document are prepared to `xs`. -/
def Items (env : Env) (profile : ImportProfile) (classic : Bool) (members : List (String × Json))
    (features : List Json) (xs : List (List String × PreparedFeature)) : Prop :=
  ∃ crs, declaredCrs env classic members = .ok (some crs) ∧
    List.Forall₂ (Item env profile classic crs) features xs

theorem items_iff {classic : Bool} {members : List (String × Json)} {features : List Json}
    {xs : List (List String × PreparedFeature)} :
    Items env profile classic members features xs ↔
      ∃ crs normalized, declaredCrs env classic members = .ok (some crs) ∧
        List.Forall₂ (Normalizes env profile classic) features normalized ∧
        PreparedTo env profile crs normalized xs := by
  refine exists_congr fun crs => ?_
  rw [exists_and_left]
  exact and_congr_right fun _ => List.forall₂_exists

theorem normalizes_classic : Normalizes env profile true
    = fun feature normalized => convertFeature env profile feature 0 = .ok normalized := by
  funext feature normalized
  exact if_pos rfl

/-- A loop over numbered elements that does not look at the numbers. -/
theorem mapM_zipIdx_eq_ok {α β : Type} {f : α → ℕ → Except PyError β}
    (hf : ∀ {a b i} (j), f a i = .ok b → f a j = .ok b) (as : List α) (n : ℕ) (bs : List β) :
    ((as.zipIdx n).mapM fun x => f x.1 x.2) = .ok bs ↔
      List.Forall₂ (fun a b => f a 0 = .ok b) as bs := by
  have hindex : ∀ (x : α × ℕ) b, f x.1 x.2 = .ok b ↔ f x.1 0 = .ok b := fun x b => ⟨hf 0, hf x.2⟩
  rw [Except.mapM_eq_ok_iff]
  simp only [hindex]
  rw [← List.forall₂_map_left_iff (f := Prod.fst) (R := fun a b => f a 0 = Except.ok b),
    List.zipIdx_map_fst]

/-- **What an upload gives by itself.** -/
theorem prepareUpload_ok_iff {classic : Bool} {members : List (String × Json)}
    {features : List Json} (h : IsCollection members features) (prepared : List PreparedFeature) :
    prepareUpload env profile classic (.obj members) = .ok prepared ↔
      ∃ xs kept, Items env profile classic members features xs ∧
        KeyedMerge.collect (mergeDuplicateFeature profile) [] xs = some kept ∧
        prepared = kept.map Prod.snd := by
  cases classic with
  | false =>
    -- JSON-FG is taken as it is
    rw [prepareUpload, normalizeDocument, if_neg Bool.false_ne_true, Except.ok_bind,
      prepareDocument_ok_iff h]
    have hitems : ∀ xs, Items env profile false members features xs ↔
        PreparedTo env profile (inheritedCrs members) features xs := by
      intro xs
      rw [items_iff]
      constructor
      · rintro ⟨crs, normalized, hcrs, hnorm, hxs⟩
        cases hcrs
        cases List.forall₂_eq.mp hnorm
        exact hxs
      · intro hxs
        exact ⟨_, features, rfl, List.forall₂_eq.mpr rfl, hxs⟩
    simp only [hitems]
  | true =>
    -- classic GeoJSON is converted first, feature by feature
    rw [prepareUpload, normalizeDocument, if_pos rfl, Except.bind_eq_ok]
    constructor
    · rintro ⟨document, hdocument, hprepared⟩
      rw [convertDocument] at hdocument
      simp only [h.type, h.features] at hdocument
      obtain ⟨crs, hcrs, hdocument⟩ := Except.bind_eq_ok.mp hdocument
      cases crs with
      | none => cases hdocument
      | some crs =>
        obtain ⟨converted, hconverted, hdocument⟩ := Except.bind_eq_ok.mp hdocument
        cases hdocument
        obtain ⟨xs, kept, hxs, hkept⟩ := (prepareDocument_ok_iff ⟨rfl, rfl⟩ prepared).mp hprepared
        refine ⟨xs, kept, items_iff.mpr ⟨.str crs, converted, ?_, ?_, hxs⟩, hkept⟩
        · rw [declaredCrs, if_pos rfl, hcrs]
          rfl
        · rw [normalizes_classic]
          exact (mapM_zipIdx_eq_ok (f := convertFeature env profile) convertFeature_index features 0
            converted).mp hconverted
    · rintro ⟨xs, kept, hitems, hkept⟩
      obtain ⟨crs, normalized, hcrs, hnorm, hxs⟩ := items_iff.mp hitems
      rw [declaredCrs, if_pos rfl] at hcrs
      obtain ⟨crs?, hcrs?, heq⟩ := Except.map_eq_ok.mp hcrs
      cases crs? with
      | none => cases heq
      | some name =>
        cases heq
        rw [normalizes_classic] at hnorm
        have hconverted := (mapM_zipIdx_eq_ok (f := convertFeature env profile)
          convertFeature_index features 0 normalized).mpr hnorm
        refine ⟨.obj [("type", .str "FeatureCollection"), ("coordRefSys", .str name),
          ("features", .arr normalized)], ?_, ?_⟩
        · rw [convertDocument]
          simp only [h.type, h.features, hcrs?]
          rw [Except.ok_bind, hconverted]
          rfl
        · exact (prepareDocument_ok_iff ⟨rfl, rfl⟩ prepared).mpr ⟨xs, kept, hxs, hkept⟩

/-! ### One document for several files -/

/-- The document of the first file with the features of all of them. -/
def joinedMembers (first : List (String × Json)) (features : List Json) : List (String × Json) :=
  dictSet first "features" (.arr features)

theorem joined_isCollection {first : List (String × Json)} {features : List Json}
    (h : IsCollection first features) (all : List Json) :
    IsCollection (joinedMembers first all) all where
  type := by
    rw [joinedMembers, lookup_dictSet_of_ne _ _ (by decide)]
    exact h.type
  features := lookup_dictSet_self _ _ _

theorem declaredCrs_joined (classic : Bool) (first : List (String × Json)) (all : List Json) :
    declaredCrs env classic (joinedMembers first all) = declaredCrs env classic first := by
  have hcrs : (joinedMembers first all).lookup "crs" = first.lookup "crs" :=
    lookup_dictSet_of_ne _ _ (by decide)
  have hinherited : (joinedMembers first all).lookup "coordRefSys" = first.lookup "coordRefSys" :=
    lookup_dictSet_of_ne _ _ (by decide)
  rw [declaredCrs, declaredCrs, crsFromGeojson, crsFromGeojson, inheritedCrs, inheritedCrs, hcrs,
    hinherited]

/-- The features of all files are prepared as those of each file. -/
theorem items_joined {classic : Bool} {files : List (ImportFile env)} {first : ImportFile env}
    (hfirst : first ∈ files)
    (hcrs : ∀ file ∈ files, declaredCrs env classic file.members
      = declaredCrs env classic first.members)
    (ys : List (List String × PreparedFeature)) :
    Items env profile classic (joinedMembers first.members (files.map (·.features)).flatten)
        (files.map (·.features)).flatten ys ↔
      ∃ xss, List.Forall₂ (fun file xs => Items env profile classic file.members file.features xs)
        files xss ∧ ys = xss.flatten := by
  constructor
  · rintro ⟨crs, hdeclared, hitems⟩
    rw [declaredCrs_joined] at hdeclared
    obtain ⟨xss, hxss, rfl⟩ := List.forall₂_flatten.mp hitems
    refine ⟨xss, ?_, rfl⟩
    rw [List.forall₂_map_left_iff] at hxss
    have hfiles := (List.forall₂_and_left _ _).mpr ⟨fun file hfile => hcrs file hfile, hxss⟩
    exact hfiles.imp fun file xs h => ⟨crs, h.1.trans hdeclared, h.2⟩
  · rintro ⟨xss, hxss, rfl⟩
    -- there is a first file, and it declares the CRS of all
    have hdeclared : ∃ crs, declaredCrs env classic first.members = .ok (some crs) := by
      have hall := (List.forall₂_and_left _ _).mpr ⟨fun file hfile => hcrs file hfile, hxss⟩
      cases hall with
      | nil => exact absurd hfirst List.not_mem_nil
      | cons h _ =>
        obtain ⟨heq, crs, hdeclared, -⟩ := h
        exact ⟨crs, heq.symm.trans hdeclared⟩
    obtain ⟨crs, hdeclared⟩ := hdeclared
    refine ⟨crs, (declaredCrs_joined _ _ _).trans hdeclared, ?_⟩
    refine List.forall₂_flatten.mpr ⟨xss, ?_, rfl⟩
    rw [List.forall₂_map_left_iff]
    have hfiles := (List.forall₂_and_left _ _).mpr ⟨fun file hfile => hcrs file hfile, hxss⟩
    refine hfiles.imp fun file xs h => ?_
    obtain ⟨heq, crs', hdeclared', hitems⟩ := h
    rw [heq, hdeclared] at hdeclared'
    cases hdeclared'
    exact hitems

/-! ### Several uploads -/

/-- What a file gives by itself. -/
def ImportFile.prepared (profile : ImportProfile) (classic : Bool) (file : ImportFile env) :
    Except PyError (List PreparedFeature) :=
  prepareUpload env profile classic (.obj file.members)

variable (env profile) in
/-- Preparing an upload is what it gives by itself, or an HTTP error. -/
theorem exec_prepareImportFeatures (document : Json) (filename : Option String) (base : Event)
    (w : World PyError Event Request PostResult) (log : Log Event Request) :
    match prepareUpload env profile (isClassicGeojsonFilename env filename) document with
    | .ok prepared =>
      exec (prepareImportFeatures env document filename profile base) w log = (.ok prepared, log)
    | .error _ =>
      ∃ e, (exec (prepareImportFeatures env document filename profile base) w log).1 = .error e := by
  have hlift : exec (lift (prepareUpload env profile (isClassicGeojsonFilename env filename)
      document) : ImportTask (List PreparedFeature)) w log
      = (prepareUpload env profile (isClassicGeojsonFilename env filename) document, log) := rfl
  have hsame : prepareImportFeatures env document filename profile base
      = handle (lift (prepareUpload env profile (isClassicGeojsonFilename env filename) document))
        _ := rfl
  rw [hsame, exec_handle, hlift]
  cases prepareUpload env profile (isClassicGeojsonFilename env filename) document with
  | ok prepared => rfl
  | error e =>
    have hfail : ∀ (phase : String) (extra : Event → Event) (statusCode : ℕ) (detail : Json),
        ∃ e', (exec (failImport base phase extra statusCode detail :
          ImportTask (List PreparedFeature)) w log).1 = .error e' := by
      intro phase extra statusCode detail
      obtain ⟨raises, answer⟩ := w
      exact ⟨_, (yields_failImport base phase extra statusCode detail _ raises log rfl).1⟩
    cases e with
    | conversion message => exact hfail _ _ _ _
    | documentValidation errors => exact hfail _ _ _ _
    | _ => exact ⟨_, rfl⟩

/-- **What several uploads give is what each gives by itself, in order.** -/
theorem uploads_ok_iff {classic : Bool} (files : List (ImportFile env))
    (hkind : ∀ file ∈ files, isClassicGeojsonFilename env file.upload.filename = classic)
    (base : Event) (w : World PyError Event Request PostResult) (log : Log Event Request)
    (prepared : List PreparedFeature) :
    (exec (prepareImportFeaturesFromUploads env (files.map (·.upload)) profile base) w log).1
        = .ok prepared ↔
      ∃ parts, List.Forall₂ (fun file part => file.prepared profile classic = .ok part) files parts ∧
        prepared = parts.flatten := by
  rw [prepareImportFeaturesFromUploads]
  -- the loop carries the features so far
  suffices h : ∀ acc : List PreparedFeature,
      (exec ((files.map (·.upload)).foldlM (fun features upload => do
        let document ← loadImportDocument env upload.body base
        let prepared ← prepareImportFeatures env document upload.filename profile base
        pure (features ++ prepared)) acc : ImportTask (List PreparedFeature)) w log).1
        = .ok prepared ↔
      ∃ parts, List.Forall₂ (fun file part => file.prepared profile classic = .ok part) files parts ∧
        prepared = acc ++ parts.flatten from h []
  induction files with
  | nil =>
    intro acc
    constructor
    · intro h
      cases h
      exact ⟨[], List.Forall₂.nil, (List.append_nil _).symm⟩
    · rintro ⟨parts, hparts, rfl⟩
      cases hparts
      rw [List.flatten_nil, List.append_nil]
      rfl
  | cons file files ih =>
    intro acc
    have hloads : loadImportDocument env file.upload.body base = pure (.obj file.members) := by
      rw [loadImportDocument]
      simp only [file.loads]
    have hone := exec_prepareImportFeatures env profile (.obj file.members) file.upload.filename
      base w log
    rw [hkind file List.mem_cons_self] at hone
    rw [List.map_cons, List.foldlM_cons, hloads, pure_bind, exec_bind, exec_bind]
    have hpart : file.prepared profile classic
        = prepareUpload env profile classic (.obj file.members) := rfl
    cases hfile : prepareUpload env profile classic (.obj file.members) with
    | error e =>
      rw [hfile] at hone
      obtain ⟨e', he'⟩ := hone
      simp only [he']
      constructor
      · intro h
        cases h
      · rintro ⟨parts, hparts, -⟩
        cases hparts with
        | cons h _ =>
          rw [hpart, hfile] at h
          cases h
    | ok part =>
      rw [hfile] at hone
      simp only at hone
      have hpure : exec (pure (acc ++ part) : ImportTask (List PreparedFeature)) w log
          = (.ok (acc ++ part), log) := rfl
      simp only [hone, hpure]
      rw [ih (fun file hfile => hkind file (List.mem_cons_of_mem _ hfile)) (acc ++ part)]
      constructor
      · rintro ⟨parts, hparts, rfl⟩
        refine ⟨part :: parts, List.Forall₂.cons hfile hparts, ?_⟩
        rw [List.flatten_cons, List.append_assoc]
      · rintro ⟨parts, hparts, rfl⟩
        cases hparts with
        | cons h hparts =>
          rw [hpart, hfile] at h
          cases h
          refine ⟨_, hparts, ?_⟩
          rw [List.flatten_cons, List.append_assoc]

/-! ### Splitting an import -/

/-- The row that the upsert writes for a feature. -/
def upsertRow (item : PreparedFeature) : Option (String × Uuid) :=
  (Uuid.uuidIn item.featureId).map fun id => (item.collection, id)

/-- A feature of the file is prepared to `x`. -/
def ImportFile.Gives (profile : ImportProfile) (classic : Bool) (file : ImportFile env)
    (x : List String × PreparedFeature) : Prop :=
  ∃ crs, declaredCrs env classic file.members = .ok (some crs) ∧
    ∃ feature ∈ file.features, Item env profile classic crs feature x

/-- No feature of one file has the identity of one of the other, or its row. -/
def ImportFile.Apart (profile : ImportProfile) (classic : Bool) (a b : ImportFile env) : Prop :=
  ∀ x y, a.Gives profile classic x → b.Gives profile classic y →
    x.1 ≠ y.1 ∧ (upsertRow x.2 = upsertRow y.2 → upsertRow x.2 = none)

theorem item_functional (classic : Bool) (crs : Json) :
    Relator.RightUnique (Item env profile classic crs) := by
  rintro feature x x' ⟨n, hn, hx⟩ ⟨n', hn', hx'⟩
  have heq : n = n' := by
    rw [Normalizes] at hn hn'
    split_ifs at hn hn'
    · rw [hn] at hn'
      exact Except.ok.inj hn'
    · rw [hn, hn']
  subst heq
  rw [hx] at hx'
  exact Except.ok.inj hx'

theorem items_functional {classic : Bool} {members : List (String × Json)} {features : List Json}
    {xs xs' : List (List String × PreparedFeature)}
    (h : Items env profile classic members features xs)
    (h' : Items env profile classic members features xs') : xs = xs' := by
  obtain ⟨crs, hcrs, hxs⟩ := h
  obtain ⟨crs', hcrs', hxs'⟩ := h'
  rw [hcrs] at hcrs'
  cases hcrs'
  exact List.right_unique_forall₂' (item_functional classic crs) hxs hxs'

theorem gives_iff {classic : Bool} {file : ImportFile env}
    {xs : List (List String × PreparedFeature)}
    (h : Items env profile classic file.members file.features xs)
    (x : List String × PreparedFeature) : file.Gives profile classic x ↔ x ∈ xs := by
  obtain ⟨crs, hcrs, hxs⟩ := h
  rw [← hxs.mem_iff (item_functional classic crs)]
  constructor
  · rintro ⟨crs', hcrs', hx⟩
    rw [hcrs] at hcrs'
    cases hcrs'
    exact hx
  · exact fun hx => ⟨crs, hcrs, hx⟩

theorem items_isGood (hprofile : profile.TransformsDicts) {classic : Bool} {file : ImportFile env}
    {xs : List (List String × PreparedFeature)}
    (h : Items env profile classic file.members file.features xs) : ∀ x ∈ xs, x.2.IsGood := by
  intro x hx
  obtain ⟨crs, -, feature, hfeature, normalized, hnorm, hid⟩ := (gives_iff h x).mpr hx
  have hdict : HasDict feature := file.isCollection.hasDict file.distinct feature hfeature
  refine identifiedFeature_isGood hprofile ?_ hid
  rw [Normalizes] at hnorm
  split_ifs at hnorm
  · exact convertFeature_hasDict hdict hnorm
  · rw [hnorm]
    exact hdict

/-- What a file gives by itself, as a collection. -/
theorem file_prepared_iff {classic : Bool} (file : ImportFile env) (part : List PreparedFeature) :
    file.prepared profile classic = .ok part ↔
      ∃ xs kept, Items env profile classic file.members file.features xs ∧
        KeyedMerge.collect (mergeDuplicateFeature profile) [] xs = some kept ∧
        part = kept.map Prod.snd :=
  prepareUpload_ok_iff file.isCollection part

/-- A merge goes to the row of its parts. -/
theorem upsertRow_merge (a b c : PreparedFeature) (h : mergeDuplicateFeature profile a b = some c) :
    upsertRow c = upsertRow a ∧ upsertRow c = upsertRow b := by
  obtain ⟨hm, hcollection, hid, -, -⟩ := mergeDuplicateFeature_eq_some h
  rw [upsertRow, upsertRow, upsertRow, hcollection, hid, ← hm.collection, ← hm.featureId]
  exact ⟨rfl, rfl⟩

/-- The rows that a file writes are those of its features. -/
theorem file_rows {classic : Bool} {file : ImportFile env} {part : List PreparedFeature}
    (h : file.prepared profile classic = .ok part) (row : Option (String × Uuid)) :
    (∃ item ∈ part, upsertRow item = row) ↔
      ∃ x, file.Gives profile classic x ∧ upsertRow x.2 = row := by
  obtain ⟨xs, kept, hxs, hkept, rfl⟩ := (file_prepared_iff file part).mp h
  have hrows : (∃ e ∈ kept, upsertRow e.2 = row) ↔
      (∃ e ∈ ([] : List (List String × PreparedFeature)), upsertRow e.2 = row) ∨
        ∃ x ∈ xs, upsertRow x.2 = row :=
    KeyedMerge.exists_collect_iff (fun _ a b c hc => upsertRow_merge a b c hc) hkept row
  simp only [gives_iff hxs]
  constructor
  · rintro ⟨item, hitem, hrow⟩
    obtain ⟨e, he, rfl⟩ := List.mem_map.mp hitem
    exact (hrows.mp ⟨e, he, hrow⟩).resolve_left (by simp)
  · intro hx
    obtain ⟨e, he, hrow⟩ := hrows.mpr (Or.inr hx)
    exact ⟨e.2, List.mem_map_of_mem he, hrow⟩

section Split

variable (profile) (classic : Bool) (files : List (ImportFile env)) (first : ImportFile env)

/-- Preparing all features as one document. -/
def preparedTogether : Except PyError (List PreparedFeature) :=
  prepareUpload env profile classic
    (.obj (joinedMembers first.members (files.map (·.features)).flatten))

/-- Preparing the files as uploads of one request. -/
def preparedSeparately (base : Event) (w : World PyError Event Request PostResult)
    (log : Log Event Request) : Except PyError (List PreparedFeature) :=
  (exec (prepareImportFeaturesFromUploads env (files.map (·.upload)) profile base) w log).1

/-- Splitting changes nothing: the files are accepted when the one document is
and give the same features, and no file writes a row of an earlier one. -/
structure SplitAgrees (separately : Except PyError (List PreparedFeature)) : Prop where
  accepts : (∃ prepared, separately = .ok prepared) ↔
    ∃ prepared, preparedTogether profile classic files first = .ok prepared
  same : ∀ prepared, separately = .ok prepared →
    preparedTogether profile classic files first = .ok prepared
  overwrites : ∀ prepared, separately = .ok prepared → files.Pairwise fun a b =>
    ∀ as bs, a.prepared profile classic = .ok as → b.prepared profile classic = .ok bs →
      ∀ x ∈ as, ∀ y ∈ bs, upsertRow x = upsertRow y → upsertRow x = none

variable {profile classic files first}

/-- Every file that is accepted by itself, as a collection. -/
theorem collections_of_prepared
    (hall : ∀ file ∈ files, ∃ part, file.prepared profile classic = .ok part) :
    ∃ xss keptss,
      List.Forall₂ (fun file xs => Items env profile classic file.members file.features xs)
        files xss ∧
      xss.mapM (KeyedMerge.collect (mergeDuplicateFeature profile) []) = some keptss ∧
      List.Forall₂ (fun file part => file.prepared profile classic = .ok part) files
        (keptss.map (List.map Prod.snd)) := by
  induction files with
  | nil => exact ⟨[], [], List.Forall₂.nil, rfl, List.Forall₂.nil⟩
  | cons file files ih =>
    obtain ⟨part, hpart⟩ := hall file List.mem_cons_self
    obtain ⟨xs, kept, hxs, hkept, rfl⟩ := (file_prepared_iff file part).mp hpart
    obtain ⟨xss, keptss, hxss, hkeptss, hparts⟩ :=
      ih fun file hfile => hall file (List.mem_cons_of_mem _ hfile)
    refine ⟨xs :: xss, kept :: keptss, List.Forall₂.cons hxs hxss, ?_,
      List.Forall₂.cons hpart hparts⟩
    rw [List.mapM_cons, hkept, hkeptss]
    rfl

/-- A document whose features can be collected leaves no file that cannot. -/
theorem prepared_of_together (hprofile : profile.TransformsDicts) (hfirst : first ∈ files)
    (hcrs : ∀ file ∈ files, declaredCrs env classic file.members
      = declaredCrs env classic first.members)
    {prepared : List PreparedFeature}
    (h : preparedTogether profile classic files first = .ok prepared) :
    ∀ file ∈ files, ∃ part, file.prepared profile classic = .ok part := by
  obtain ⟨ys, kept, hys, hkept, -⟩ :=
    (prepareUpload_ok_iff (joined_isCollection first.isCollection _) prepared).mp h
  obtain ⟨xss, hxss, rfl⟩ := (items_joined hfirst hcrs ys).mp hys
  have hgood : ∀ x ∈ xss.flatten, x.2.IsGood := by
    intro x hx
    obtain ⟨xs, hxs, hx⟩ := List.mem_flatten.mp hx
    obtain ⟨file, -, hitems⟩ := hxss.exists_of_mem_right hxs
    exact items_isGood hprofile hitems x hx
  intro file hfile
  obtain ⟨xs, hxs, hitems⟩ := hxss.exists_of_mem_left hfile
  have hpart := KeyedMerge.collect_isSome_of_sublist (mergeDuplicateFeature_lawful profile) hgood
    (List.sublist_flatten_of_mem hxs) (Option.isSome_of_mem hkept)
  obtain ⟨kept', hkept'⟩ := Option.isSome_iff_exists.mp hpart
  exact ⟨_, (file_prepared_iff file _).mpr ⟨xs, kept', hitems, hkept', rfl⟩⟩

/-- Files that are accepted by themselves. -/
theorem splitAgrees_iff_apart (hfirst : first ∈ files)
    (hkind : ∀ file ∈ files, isClassicGeojsonFilename env file.upload.filename = classic)
    (hcrs : ∀ file ∈ files, declaredCrs env classic file.members
      = declaredCrs env classic first.members)
    (hall : ∀ file ∈ files, ∃ part, file.prepared profile classic = .ok part)
    (base : Event) (w : World PyError Event Request PostResult) (log : Log Event Request) :
    SplitAgrees profile classic files first (preparedSeparately profile files base w log) ↔
      files.Pairwise (ImportFile.Apart profile classic) := by
  obtain ⟨xss, keptss, hxss, hkeptss, hparts⟩ := collections_of_prepared hall
  -- one by one the files give what is kept of each
  have hok : ∀ prepared, preparedSeparately profile files base w log = .ok prepared ↔
      prepared = keptss.flatten.map Prod.snd := by
    intro prepared
    rw [preparedSeparately, uploads_ok_iff files hkind base w log, List.map_flatten]
    constructor
    · rintro ⟨parts, hparts', rfl⟩
      have hunique : Relator.RightUnique fun (file : ImportFile env) part =>
          file.prepared profile classic = .ok part := by
        intro file part part' h h'
        rw [h] at h'
        exact Except.ok.inj h'
      rw [List.right_unique_forall₂' hunique hparts' hparts]
    · exact fun h => ⟨_, hparts, h⟩
  -- as one document they give what is kept of all
  have htogether : ∀ prepared, preparedTogether profile classic files first = .ok prepared ↔
      ∃ kept, KeyedMerge.collect (mergeDuplicateFeature profile) [] xss.flatten = some kept ∧
        prepared = kept.map Prod.snd := by
    intro prepared
    rw [preparedTogether, prepareUpload_ok_iff (joined_isCollection first.isCollection _) prepared]
    constructor
    · rintro ⟨ys, kept, hys, hkept, rfl⟩
      obtain ⟨xss', hxss', rfl⟩ := (items_joined hfirst hcrs ys).mp hys
      have hunique : Relator.RightUnique fun (file : ImportFile env) xs =>
          Items env profile classic file.members file.features xs :=
        fun _ _ _ => items_functional
      rw [List.right_unique_forall₂' hunique hxss hxss']
      exact ⟨kept, hkept, rfl⟩
    · rintro ⟨kept, hkept, rfl⟩
      exact ⟨_, kept, (items_joined hfirst hcrs _).mpr ⟨xss, hxss, rfl⟩, hkept, rfl⟩
  -- files apart are tables of keys apart
  have hdisjoint : files.Pairwise (fun a b => ∀ x y, a.Gives profile classic x →
      b.Gives profile classic y → x.1 ≠ y.1) ↔ xss.Pairwise KeyedMerge.Disjoint := by
    refine List.Forall₂.pairwise_iff (fun a xs b ys hxs hys => ?_) hxss
    simp only [gives_iff hxs, gives_iff hys]
    exact ⟨fun h x hx y hy => h x y hx hy, fun h x y hx hy => h x hx y hy⟩
  have hcollect := KeyedMerge.collect_flatten_iff hkeptss
  constructor
  · intro hsplit
    have hsame := hsplit.same _ ((hok _).mpr rfl)
    obtain ⟨kept, hkept, heq⟩ := (htogether _).mp hsame
    -- nothing may merge, and no row may be overwritten
    have hids := hdisjoint.mpr (hcollect.mp ⟨kept, hkept, heq.symm⟩)
    have hrows := hsplit.overwrites _ ((hok _).mpr rfl)
    refine (hids.and hrows).imp_of_mem ?_
    rintro a b ha hb ⟨hid, hrow⟩ x y hx hy
    refine ⟨hid x y hx hy, fun heq => ?_⟩
    obtain ⟨as, has⟩ := hall a ha
    obtain ⟨bs, hbs⟩ := hall b hb
    obtain ⟨p, hp, hpx⟩ := (file_rows has _).mpr ⟨x, hx, rfl⟩
    obtain ⟨q, hq, hqy⟩ := (file_rows hbs _).mpr ⟨y, hy, rfl⟩
    rw [← hpx]
    exact hrow as bs has hbs p hp q hq (hpx.trans (heq.trans hqy.symm))
  · intro hapart
    have hids : files.Pairwise (fun a b => ∀ x y, a.Gives profile classic x →
        b.Gives profile classic y → x.1 ≠ y.1) :=
      hapart.imp fun h x y hx hy => (h x y hx hy).1
    obtain ⟨kept, hkept, heq⟩ := hcollect.mpr (hdisjoint.mp hids)
    have hone := (htogether _).mpr ⟨kept, hkept, heq.symm⟩
    refine ⟨⟨fun _ => ⟨_, hone⟩, fun _ => ⟨_, (hok _).mpr rfl⟩⟩, ?_, ?_⟩
    · intro prepared h
      rw [(hok _).mp h]
      exact hone
    · intro _ _
      refine hapart.imp fun h as bs has hbs x hx y hy hrow => ?_
      obtain ⟨x', hx', hrowx⟩ := (file_rows has _).mp ⟨x, hx, rfl⟩
      obtain ⟨y', hy', hrowy⟩ := (file_rows hbs _).mp ⟨y, hy, rfl⟩
      rw [← hrowx]
      exact (h x' y' hx' hy').2 (hrowx.trans (hrow.trans hrowy.symm))

end Split

/-! ### Two tiles of one line -/

section Tiles

theorem tileMembers_distinct (second : Bool) (x : ℚ) :
    (Json.obj (collectionMembers [.obj (tileFeature second x)])).Distinct :=
  collectionMembers_distinct fun _ h => by
    rw [List.mem_singleton.mp h]
    exact tileFeature_distinct second x

/-- A text with `"1"` in one place and `"0"` there. -/
theorem texts_ne (p q r r' t t' : String) :
    (p ++ (q ++ "1" ++ r) ++ t).toUTF8 ≠ (p ++ (q ++ "0" ++ r') ++ t').toUTF8 := by
  intro h
  have hchars := congrArg String.toList (String.toByteArray_inj.mp h)
  simp only [String.toList_append, List.append_assoc, List.append_cancel_left_eq] at hchars
  exact absurd (List.cons.inj hchars).1 (by decide)

/-- The body of a tile: the later one has the same line, or a second one. -/
def tileBody (second later : Bool) : ByteArray :=
  (collectionText (tileText (second && later) later)).toUTF8

def tileMembers (second later : Bool) : List (String × Json) :=
  collectionMembers [.obj (tileFeature (second && later) (if later then 1 else 0))]

/-- A JSON reader for the two tiles. -/
def tileEnv (second : Bool) : Env :=
  tilesEnv fun body =>
    if body.data = (tileBody second true).data then some (.obj (tileMembers second true))
    else if body.data = (tileBody second false).data then some (.obj (tileMembers second false))
    else none

theorem loads_tile (second later : Bool) :
    (tileEnv second).loads (tileBody second later) = some (.obj (tileMembers second later)) := by
  have hne : (tileBody second false).data ≠ (tileBody second true).data :=
    fun h => (texts_ne _ _ _ _ _ _).symm (ByteArray.ext h)
  cases later with
  | true => exact if_pos rfl
  | false => exact (if_neg hne).trans (if_pos rfl)

/-- The two files. -/
def tile (second later : Bool) : ImportFile (tileEnv second) where
  upload := ⟨some "tile.json", tileBody second later⟩
  members := tileMembers second later
  features := [.obj (tileFeature (second && later) (if later then 1 else 0))]
  loads := loads_tile second later
  isCollection := ⟨rfl, rfl⟩
  distinct := tileMembers_distinct _ _

theorem items_tile (second later : Bool) :
    Items (tileEnv second) bygningProfile false (tile second later).members
      (tile second later).features
      [([tileId (second && later), "fkb"],
        tileItem (second && later) [if later then 1 else 0])] :=
  ⟨.str "EPSG:5972", rfl, List.Forall₂.cons ⟨_, rfl, identifiedFeature_tile _ _ _⟩ List.Forall₂.nil⟩

theorem prepared_tile (second later : Bool) :
    ∃ part, (tile second later).prepared bygningProfile false = .ok part :=
  ⟨_, (file_prepared_iff _ _).mpr ⟨_, _, items_tile second later, rfl, rfl⟩⟩

def tileBase : Event := baseEvent bygningProfile "7f3a" []

/-- A publisher that never raises, and no upstream. -/
def quietWorld : World PyError Event Request PostResult :=
  ⟨fun _ _ => none, fun _ _ => .httpError ""⟩

theorem tiles_declared (second : Bool) (file : ImportFile (tileEnv second))
    (h : file ∈ [tile second false, tile second true]) :
    isClassicGeojsonFilename (tileEnv second) file.upload.filename = false ∧
      declaredCrs (tileEnv second) false file.members
        = declaredCrs (tileEnv second) false (tile second false).members ∧
      ∃ part, file.prepared bygningProfile false = .ok part := by
  have hfile : ∃ later, file = tile second later := by
    rcases List.mem_cons.mp h with rfl | h
    · exact ⟨false, rfl⟩
    · exact ⟨true, List.mem_singleton.mp h⟩
  obtain ⟨later, rfl⟩ := hfile
  refine ⟨?_, rfl, prepared_tile second later⟩
  cases second <;> cases later <;> decide +kernel

variable {classic : Bool} {files : List (ImportFile env)} {first : ImportFile env}

/-- **Splitting an import over several files changes nothing exactly when one of
them is rejected by itself, or no two of them have features of one identity or
for one row.** -/
theorem preparedSeparately_agrees_iff (hprofile : profile.TransformsDicts) (hfirst : first ∈ files)
    (hkind : ∀ file ∈ files, isClassicGeojsonFilename env file.upload.filename = classic)
    (hcrs : ∀ file ∈ files, declaredCrs env classic file.members
      = declaredCrs env classic first.members)
    (base : Event) (w : World PyError Event Request PostResult) (log : Log Event Request) :
    SplitAgrees profile classic files first (preparedSeparately profile files base w log) ↔
      (∃ file ∈ files, ∀ part, file.prepared profile classic ≠ .ok part) ∨
        files.Pairwise (ImportFile.Apart profile classic) := by
  by_cases hall : ∀ file ∈ files, ∃ part, file.prepared profile classic = .ok part
  · have hnone : ¬ ∃ file ∈ files, ∀ part, file.prepared profile classic ≠ .ok part := by
      rintro ⟨file, hfile, hrejected⟩
      obtain ⟨part, hpart⟩ := hall file hfile
      exact hrejected part hpart
    rw [or_iff_right hnone]
    exact splitAgrees_iff_apart hfirst hkind hcrs hall base w log
  · -- a file that is rejected by itself is rejected either way
    have hrejected : ∃ file ∈ files, ∀ part, file.prepared profile classic ≠ .ok part := by
      push Not at hall
      exact hall
    have hnone : ∀ prepared, preparedSeparately profile files base w log ≠ .ok prepared := by
      intro prepared h
      obtain ⟨parts, hparts, -⟩ := (uploads_ok_iff files hkind base w log prepared).mp h
      obtain ⟨file, hfile, hfails⟩ := hrejected
      obtain ⟨part, -, hpart⟩ := hparts.exists_of_mem_left hfile
      exact hfails part hpart
    have hnone' : ∀ prepared, preparedTogether profile classic files first ≠ .ok prepared :=
      fun prepared h => hall (prepared_of_together hprofile hfirst hcrs h)
    refine ⟨fun _ => Or.inl hrejected, fun _ => ⟨⟨?_, ?_⟩, ?_, ?_⟩⟩
    · rintro ⟨prepared, h⟩
      exact absurd h (hnone prepared)
    · rintro ⟨prepared, h⟩
      exact absurd h (hnone' prepared)
    · intro prepared h
      exact absurd h (hnone prepared)
    · intro prepared h
      exact absurd h (hnone prepared)

/-- Two files with different lines. -/
theorem preparedSeparately_agrees_iff_lines :
    SplitAgrees bygningProfile false [tile true false, tile true true] (tile true false)
      (preparedSeparately bygningProfile [tile true false, tile true true] tileBase quietWorld {}) := by
  refine (preparedSeparately_agrees_iff bygningProfile_transformsDicts List.mem_cons_self
    (fun file h => (tiles_declared true file h).1) (fun file h => (tiles_declared true file h).2.1)
    tileBase quietWorld {}).mpr (Or.inr ?_)
  refine List.pairwise_pair.mpr fun x y hx hy => ?_
  rw [gives_iff (items_tile true false), List.mem_singleton] at hx
  rw [gives_iff (items_tile true true), List.mem_singleton] at hy
  subst hx hy
  have hrows : Uuid.uuidIn (tileId false) = some 1 ∧ Uuid.uuidIn (tileId true) = some 2 := by
    decide +kernel
  refine ⟨by decide, fun h => ?_⟩
  simp [upsertRow, tileItem, hrows.1, hrows.2] at h

/-- Two files with parts of one line: each is accepted, the upsert of the second
replaces the part of the first, and one document would merge the two. -/
theorem preparedSeparately_agrees_duplicate :
    (∀ file ∈ [tile false false, tile false true],
      declaredCrs (tileEnv false) false file.members
        = declaredCrs (tileEnv false) false (tile false false).members) ∧
    ¬ SplitAgrees bygningProfile false [tile false false, tile false true] (tile false false)
      (preparedSeparately bygningProfile [tile false false, tile false true] tileBase quietWorld
        {}) := by
  have hfiles := tiles_declared false
  refine ⟨fun file h => (hfiles file h).2.1, ?_⟩
  rw [splitAgrees_iff_apart List.mem_cons_self (fun file h => (hfiles file h).1)
    (fun file h => (hfiles file h).2.1) (fun file h => (hfiles file h).2.2), List.pairwise_pair]
  intro hapart
  have hfirst := (gives_iff (items_tile false false) _).mpr (List.mem_singleton_self _)
  have hlater := (gives_iff (items_tile false true) _).mpr (List.mem_singleton_self _)
  exact (hapart _ _ hfirst hlater).1 rfl

end Tiles

end Gcimport
