/-
The declared dot paths of a collection, under the accepted writes and the readers.

* `PathsWork` — the server's values stand at the declared paths, stored and shown,
  the rest is as it was sent, and the id is taken from there;
* `paths_work_iff` — they work exactly when the paths have two parts and do not
  meet.
-/
import Topogdb.Geocomponents.Listing
import Topogdb.Geocomponents.ManagedPaths
import Topogdb.Geocomponents.OutwardIdentifiers

namespace Geocomponents

open Prog Sql

variable {Geometry : Type}

/-- `j -> 'a' -> 'b' -> …`. -/
def arrows (j : Option Json) (path : List String) : Option Json := path.foldl arrow j

@[simp] theorem arrows_none (path : List String) : arrows none path = none := by
  induction path with
  | nil => rfl
  | cons key path ih => exact ih

theorem arrows_cons (j : Option Json) (key : String) (path : List String) :
    arrows j (key :: path) = arrows (arrow j key) path := rfl

/-- What is stored at a path of the properties. -/
def storedAt (rd : Reader Geometry) (row : Row Geometry) : List String → Option Json
  | [] => none
  | column :: path => arrows ((row.columns column).map (Datum.toJson rd)) path

/-- What the server stores at a path: nothing, or its time. -/
def ServerManagedToken.stored (env : Env) : ServerManagedToken → Option Json
  | outwardIdentifier => none
  | timestampIso => some (.str env.nowText)

/-- The text that is shown at a path. -/
def ServerManagedToken.shown (env : Env) (id : Uuid) : ServerManagedToken → String
  | outwardIdentifier => id.text
  | timestampIso => env.nowText

/-- Whether a write sets the column of a path. -/
def WriteOp.setsPath (op : WriteOp) (feature : Option Json) (path : String) : Bool :=
  !op.guardedByPresence || (hasKey (properties feature) (pathColumn path)).holds

/-- The managed paths of the columns that the write set do what they are for, in the
row that it left. -/
structure PathsWork (rd : Reader Geometry) (env : Env) (rc : ResolvedCollection)
    (coll : CollectionPlan) (feature : Option Json) (op : WriteOp) (db : Db Geometry) (id : Uuid)
    (row : Row Geometry) : Prop where
  stored : ∀ e ∈ rc.managedPaths, op.setsPath feature e.1 = true →
    storedAt rd row (segments e.1) = e.2.stored env
  replaced : ∀ e ∈ rc.managedPaths, op.setsPath feature e.1 = true →
    ∀ v, arrows (properties feature) (segments e.1) = some v →
      storedAt rd row (segments e.1) ≠ some v
  others : ∀ e ∈ rc.managedPaths, op.setsPath feature e.1 = true →
    ∀ path : List String, path.head? = some (pathColumn e.1) →
      (∀ e' ∈ rc.managedPaths, ¬ segments e'.1 <+: path ∧ ¬ path <+: segments e'.1) →
        storedAt rd row path = arrows (properties feature) path
  shown : ∀ e ∈ rc.managedPaths, op.setsPath feature e.1 = true →
    ∀ shown, Shows rd db coll id shown →
      arrows (shown.get? "properties") (segments e.1) = some (.str (e.2.shown env id))
  named : op.namesRow = false → featureId env feature = none →
    ∀ e ∈ rc.managedPaths, e.2 = .outwardIdentifier →
      ∀ t, textAt env feature (segments e.1) = some t →
        ∃ u, Uuid.uuidIn t = some u ∧ givenId env coll feature = some u

/-- Two-part paths that do not meet, into objects that are sent. -/
structure PathsApart (env : Env) (rc : ResolvedCollection) (coll : CollectionPlan)
    (feature : Option Json) (op : WriteOp) : Prop where
  parts : ∀ e ∈ rc.managedPaths, op.setsPath feature e.1 = true → (segments e.1).length = 2
  sent : ∀ e ∈ rc.managedPaths, op.setsPath feature e.1 = true →
    ∃ ms, arrow (properties feature) (pathColumn e.1) = some (.obj ms)
  /-- An object has one identifier path, and no timestamp there. -/
  apart : ∀ e ∈ rc.managedPaths, op.setsPath feature e.1 = true → e.2 = .outwardIdentifier →
    ∀ e' ∈ rc.managedPaths, pathColumn e'.1 = pathColumn e.1 →
      (e'.2 = .outwardIdentifier ↔ segments e'.1 = segments e.1)
  /-- The document has not the server's time already. -/
  fresh : ∀ e ∈ rc.managedPaths, op.setsPath feature e.1 = true → e.2 = .timestampIso →
    arrows (properties feature) (segments e.1) ≠ some (.str env.nowText)
  /-- The identifiers of the document are one uuid. -/
  agree : op.namesRow = false → featureId env feature = none →
    ∀ e ∈ rc.managedPaths, e.2 = .outwardIdentifier →
      ∀ t, textAt env feature (segments e.1) = some t →
        ∃ u, Uuid.uuidIn t = some u ∧ (oiRaw env coll feature).bind Uuid.uuidIn = some u

theorem segments_eq_cons (path : String) : ∃ rest, segments path = pathColumn path :: rest := by
  obtain ⟨part, parts, hsegments⟩ : ∃ part parts, segments path = part :: parts := by
    refine List.exists_cons_of_ne_nil ?_
    rw [segments]
    simp
  exact ⟨parts, by rw [pathColumn, hsegments]; rfl⟩

/-- Only the outward identifier can be a column of its own. -/
theorem token_of_single {rc : ResolvedCollection} {e : String × ServerManagedToken}
    (he : e ∈ rc.managedPaths) {column : String} (h : segments e.1 = [column]) :
    e.2 = .outwardIdentifier := by
  rcases List.mem_append.mp he with hserver | houtward
  · have hlen := (List.mem_filter.mp hserver).2
    rw [h] at hlen
    simp at hlen
  · obtain ⟨path, -, rfl⟩ := List.mem_map.mp houtward
    rfl

section Written

variable {rd : Reader Geometry} {gis : PostGIS Geometry} {env : Env} {rc : ResolvedCollection}
  {coll : CollectionPlan} {feature : Option Json} {op : WriteOp} {old : Option (Row Geometry)}
  {db : Db Geometry} {id : Uuid} {row : Row Geometry} {e : String × ServerManagedToken}

/-- The loader found the fields of the managed paths. -/
def FindsFields (rc : ResolvedCollection) : Prop :=
  ∀ e ∈ rc.managedPaths, ∃ f ∈ rc.fields, f.name = pathColumn e.1 ∧
    (2 ≤ (segments e.1).length → f.subFields ≠ [])

/-- The column of a path. -/
theorem column_of_path (hb : Builds rc coll) (hfields : FindsFields rc)
    (he : e ∈ rc.managedPaths) : ∃ col ∈ coll.columns, col.name = pathColumn e.1 ∧
      (2 ≤ (segments e.1).length → ∃ f, col = jsonbColumn rc f ∧ col.sqlType = "jsonb") := by
  obtain ⟨f, hf, hname, hsub⟩ := hfields e he
  obtain ⟨col, hcol, hbuild⟩ := hb.columns.exists_of_mem_left hf
  refine ⟨col, hcol, (name_buildColumn hbuild).trans hname, fun hlen => ?_⟩
  obtain ⟨-, -, hobject, -⟩ := hb.regular f hf
  have hjson := hobject (hsub hlen)
  rw [buildColumn, if_pos hjson] at hbuild
  obtain rfl := Except.ok.inj hbuild
  exact ⟨f, rfl, hjson⟩

/-- A row that an accepted write left, of the plan of a description. -/
structure WrittenRow (gis : PostGIS Geometry) (env : Env) (rc : ResolvedCollection)
    (coll : CollectionPlan) (feature : Option Json) (op : WriteOp) (db : Db Geometry) (id : Uuid)
    (row : Row Geometry) : Prop where
  builds : Builds rc coll
  fields : FindsFields rc
  row_eq : db.row? ⟨coll.collectionName, id⟩ = some row
  written : ∃ old, Written gis env coll feature op old id row

namespace WrittenRow

variable (h : WrittenRow gis env rc coll feature op db id row)

include h

/-- The object of a path, stored as it was sent but for the managed keys. -/
theorem stored_object (he : e ∈ rc.managedPaths) (hlen : 2 ≤ (segments e.1).length)
    (hsets : op.setsPath feature e.1 = true) {ms : List (String × Json)}
    (hms : arrow (properties feature) (pathColumn e.1) = some (.obj ms)) :
    ∃ col ∈ coll.columns, col.name = pathColumn e.1 ∧
      (∃ f : ResolvedField, f.name = pathColumn e.1 ∧ col = jsonbColumn rc f) ∧
      ∃ ms', row.columns (pathColumn e.1) = some (.json (.obj ms')) ∧ ∀ key, ms'.lookup key =
        if key ∈ col.writeInject then some (.str env.nowText)
        else if key ∈ col.stripKeys then none else ms.lookup key := by
  obtain ⟨col, hcol, hname, hobject⟩ := column_of_path h.builds h.fields he
  obtain ⟨f, rfl, hjson⟩ := hobject hlen
  obtain ⟨old, hwritten⟩ := h.written
  rw [← hname] at hms
  have hcolumn : op.sets feature (jsonbColumn rc f) = true := by
    rw [← hsets, WriteOp.setsPath, ← hname]
    rfl
  obtain ⟨ms', hms', hlookup⟩ := hwritten.stored_object (mem_writableColumns.mpr ⟨hcol, rfl, rfl⟩)
    hjson hcolumn hms
  exact ⟨_, hcol, hname, ⟨f, hname, rfl⟩, ms', hname ▸ hms', hlookup⟩

/-- An object that is stored was sent. -/
theorem sent_object (he : e ∈ rc.managedPaths) (hlen : 2 ≤ (segments e.1).length)
    (hsets : op.setsPath feature e.1 = true) {ms : List (String × Json)}
    (hms : (row.columns (pathColumn e.1)).map (Datum.toJson rd) = some (.obj ms)) :
    ∃ ms, arrow (properties feature) (pathColumn e.1) = some (.obj ms) := by
  obtain ⟨col, hcol, hname, hobject⟩ := column_of_path h.builds h.fields he
  obtain ⟨f, rfl, hjson⟩ := hobject hlen
  obtain ⟨old, hwritten⟩ := h.written
  have hcolumn : op.sets feature (jsonbColumn rc f) = true := by
    rw [← hsets, WriteOp.setsPath, ← hname]
    rfl
  have hread := hwritten.set _ (mem_writableColumns.mpr ⟨hcol, rfl, rfl⟩) hcolumn
  rw [← hname] at hms ⊢
  -- a jsonb column has json
  have hdatum : ∃ j, row.columns (jsonbColumn rc f).name = some (.json j) := by
    obtain ⟨d, hd, -⟩ := Option.map_eq_some_iff.mp hms
    rw [hd, propRead, if_pos hjson] at hread
    cases harrow : arrow (properties feature) (jsonbColumn rc f).name with
    | none =>
      rw [harrow] at hread
      cases hread
    | some v =>
      rw [harrow] at hread
      obtain ⟨w, -, hread⟩ := Except.bind_eq_ok.mp hread
      exact ⟨_, hd.trans (Except.ok.inj hread).symm⟩
  obtain ⟨j, hj⟩ := hdatum
  rw [hj, Option.map_some, Datum.toJson, Option.some.injEq] at hms
  rw [hj, hms] at hread
  exact object_of_propRead hjson hread

/-- What is shown inside a property, against what is stored. -/
theorem shown_member (he : e ∈ rc.managedPaths) {shown : Json} (hshown : Shows rd db coll id shown)
    {key : String} {v : Json}
    (hv : arrow (arrow (shown.get? "properties") (pathColumn e.1)) key = some v) :
    ∃ col ∈ coll.columns, col.name = pathColumn e.1 ∧ ∃ ms,
      (row.columns (pathColumn e.1)).map (Datum.toJson rd) = some (.obj ms) ∧
      some v = if col.idInjectKey = some key then some (.str id.text) else ms.lookup key := by
  obtain ⟨col, hcol, hname, -⟩ := column_of_path h.builds h.fields he
  rw [← hname] at hv
  obtain ⟨ms, hms, hmember⟩ := stored_of_shown h.builds.nodup hcol h.row_eq hshown.item_eq hv
  exact ⟨col, hcol, hname, ms, hname ▸ hms, hmember⟩

/-- The object of a path, shown with the id put into it. -/
theorem shown_object (he : e ∈ rc.managedPaths) (hlen : 2 ≤ (segments e.1).length)
    (hsets : op.setsPath feature e.1 = true) {ms : List (String × Json)}
    (hms : arrow (properties feature) (pathColumn e.1) = some (.obj ms)) {shown : Json}
    (hshown : Shows rd db coll id shown) :
    ∃ ms' ms'', row.columns (pathColumn e.1) = some (.json (.obj ms')) ∧
      arrow (shown.get? "properties") (pathColumn e.1) = some (.obj ms'') ∧
      ∀ key, ms''.lookup key =
        if (injectedKeys rc (pathColumn e.1)).idInjectKey = some key then some (.str id.text)
        else ms'.lookup key := by
  obtain ⟨_, hcol, hname, ⟨f, hf, rfl⟩, ms', hms', -⟩ := h.stored_object he hlen hsets hms
  obtain ⟨old, hwritten⟩ := h.written
  have hroles := hwritten.ne_of_object (hname ▸ hms)
  obtain ⟨ms'', hms'', hlookup⟩ := Geocomponents.shown_object h.builds.nodup hcol hroles h.row_eq
    (hname ▸ hms') hshown.item_eq
  exact ⟨ms', ms'', hms', hname ▸ hms'', hf ▸ hlookup⟩

/-- A row is shown. -/
theorem exists_shown (rd : Reader Geometry) : ∃ shown, Shows rd db coll id shown := by
  obtain ⟨shown, hitem, -⟩ := item_members rd h.row_eq
  exact ⟨shown, .item hitem⟩

/-- A text is not shown in the place of a column that is NULL. -/
theorem not_shown_column (he : e ∈ rc.managedPaths) {shown : Json}
    (hshown : Shows rd db coll id shown) (hnull : row.columns (pathColumn e.1) = none) (t : String) :
    arrow (shown.get? "properties") (pathColumn e.1) ≠ some (.str t) := by
  obtain ⟨col, hcol, hname, -⟩ := column_of_path h.builds h.fields he
  intro htext
  rw [properties_of_item h.row_eq hshown.item_eq, ← hname] at htext
  have hproperty : arrow (some (propertiesObject rd coll id row
      (some (associationPropertiesObject db coll id)))) col.name = _ :=
    shown_property_cases h.builds.nodup hcol
  rw [hproperty] at htext
  cases hlinks : (coll.roles.filterMap (linkProperty db coll id)).reverse.lookup col.name with
  | some links =>
    rw [hlinks, Option.some_or] at htext
    obtain ⟨-, elems, helems⟩ := array_of_linkProperty
      (List.mem_reverse.mp (Python.mem_of_lookup hlinks))
    rw [show links = .arr elems from helems] at htext
    cases htext
  | none =>
    rw [hlinks, Option.none_or, columnProperty, hname, hnull] at htext
    cases hinject : col.idInjectKey with
    | none =>
      rw [hinject] at htext
      cases htext
    | some key =>
      rw [hinject] at htext
      cases htext

end WrittenRow

/-! ### What follows from paths that work -/

/-- A path that works has two parts. -/
theorem PathsWork.length_eq (hworks : PathsWork rd env rc coll feature op db id row)
    (h : WrittenRow gis env rc coll feature op db id row) (he : e ∈ rc.managedPaths)
    (hsets : op.setsPath feature e.1 = true) : (segments e.1).length = 2 := by
  obtain ⟨shown, hshown⟩ := h.exists_shown rd
  obtain ⟨rest, hsegments⟩ := segments_eq_cons e.1
  have htext := hworks.shown e he hsets shown hshown
  rw [hsegments, arrows_cons] at htext
  cases rest with
  | nil =>
    -- the identifier is removed, so its column is shown as null
    have hstored := hworks.stored e he hsets
    rw [token_of_single he hsegments, hsegments] at hstored
    have hnull : row.columns (pathColumn e.1) = none := Option.map_eq_none_iff.mp hstored
    exact absurd htext (h.not_shown_column he hshown hnull _)
  | cons key rest =>
    cases rest with
    | nil =>
      rw [hsegments]
      rfl
    | cons key' rest =>
      exfalso
      have hlen : 2 ≤ (segments e.1).length := by
        rw [hsegments]
        simp
      rw [arrows_cons] at htext
      cases hv : arrow (arrow (shown.get? "properties") (pathColumn e.1)) key with
      | none =>
        rw [hv, arrows_none] at htext
        cases htext
      | some v =>
        rw [hv] at htext
        have hobject : ∀ s, v ≠ .str s := by
          rintro s rfl
          rw [arrows_cons, show arrow (some (.str s)) key' = none from rfl, arrows_none] at htext
          cases htext
        -- the object with the rest of the path is stored as it was sent
        obtain ⟨col, -, -, ms, hms, hmember⟩ := h.shown_member he hshown hv
        have hlookup : ms.lookup key = some v := by
          split at hmember
          · exact absurd (Option.some.inj hmember) (hobject _)
          · exact hmember.symm
        obtain ⟨sent, hsent⟩ := h.sent_object he hlen hsets hms
        obtain ⟨col', -, -, -, ms', hms', hmembers⟩ := h.stored_object he hlen hsets hsent
        rw [hms', Option.map_some, Option.some.injEq] at hms
        cases hms
        have hsentMember : sent.lookup key = some v := by
          have hkey := hmembers key
          rw [hlookup] at hkey
          split at hkey
          · exact absurd (Option.some.inj hkey) (hobject _)
          · split at hkey
            · cases hkey
            · exact hkey.symm
        refine hworks.replaced e he hsets (.str (e.2.shown env id)) ?_ ?_
        · rw [hsegments, arrows_cons, arrows_cons, hsent]
          show arrows (sent.lookup key) _ = _
          rw [hsentMember, htext]
        · rw [hsegments, storedAt, hms', arrows_cons]
          show arrows (ms.lookup key) _ = _
          rw [hlookup, htext]

/-- The parts of a path that works. -/
theorem PathsWork.segments_eq (hworks : PathsWork rd env rc coll feature op db id row)
    (h : WrittenRow gis env rc coll feature op db id row) (he : e ∈ rc.managedPaths)
    (hsets : op.setsPath feature e.1 = true) : ∃ key, segments e.1 = [pathColumn e.1, key] := by
  have hlen := hworks.length_eq h he hsets
  obtain ⟨rest, hsegments⟩ := segments_eq_cons e.1
  rw [hsegments, List.length_cons, Nat.succ.injEq, List.length_eq_one_iff] at hlen
  obtain ⟨key, rfl⟩ := hlen
  exact ⟨key, hsegments⟩

/-- The key of an identifier that works is the one that shows the id. -/
theorem PathsWork.idInjectKey_eq (hworks : PathsWork rd env rc coll feature op db id row)
    (h : WrittenRow gis env rc coll feature op db id row) (he : e ∈ rc.managedPaths)
    (hsets : op.setsPath feature e.1 = true) (htoken : e.2 = .outwardIdentifier) :
    ∃ col ∈ coll.columns, col.name = pathColumn e.1 ∧
      ∃ key, segments e.1 = [pathColumn e.1, key] ∧ col.idInjectKey = some key := by
  obtain ⟨key, hsegments⟩ := hworks.segments_eq h he hsets
  obtain ⟨shown, hshown⟩ := h.exists_shown rd
  have htext := hworks.shown e he hsets shown hshown
  rw [hsegments] at htext
  obtain ⟨col, hcol, hname, ms, hms, hmember⟩ := h.shown_member he hshown htext
  refine ⟨col, hcol, hname, key, hsegments, ?_⟩
  by_contra hkey
  rw [if_neg hkey] at hmember
  -- it is removed from what is stored
  have hstored := hworks.stored e he hsets
  rw [hsegments, storedAt, hms, htoken] at hstored
  have hnone : ms.lookup key = none := hstored
  rw [hnone] at hmember
  cases hmember

theorem setsPath_congr {path path' : String} (hcolumn : pathColumn path' = pathColumn path) :
    op.setsPath feature path' = op.setsPath feature path := by
  rw [WriteOp.setsPath, WriteOp.setsPath, hcolumn]

theorem givenId_of_featureId_none (hid : featureId env feature = none) :
    givenId env coll feature = (oiRaw env coll feature).bind Uuid.uuidIn := by
  rw [givenId, hid]
  rfl

/-- **Only two-part paths that do not meet work.** -/
theorem PathsWork.apart (hworks : PathsWork rd env rc coll feature op db id row)
    (h : WrittenRow gis env rc coll feature op db id row) :
    PathsApart env rc coll feature op := by
  refine ⟨fun e he hsets => hworks.length_eq h he hsets, fun e he hsets => ?_,
    fun e he hsets htoken e' he' hcolumn => ?_, fun e he hsets htoken hsent => ?_,
    fun hnames hid e he htoken t ht => ?_⟩
  · obtain ⟨key, hsegments⟩ := hworks.segments_eq h he hsets
    obtain ⟨shown, hshown⟩ := h.exists_shown rd
    have htext := hworks.shown e he hsets shown hshown
    rw [hsegments] at htext
    obtain ⟨_, -, -, ms, hms, -⟩ := h.shown_member he hshown htext
    exact h.sent_object he (hworks.length_eq h he hsets).ge hsets hms
  · have hsets' : op.setsPath feature e'.1 = true := (setsPath_congr hcolumn).trans hsets
    constructor
    · intro htoken'
      obtain ⟨col, hcol, hname, key, hsegments, hkey⟩ := hworks.idInjectKey_eq h he hsets htoken
      obtain ⟨col', hcol', hname', key', hsegments', hkey'⟩ :=
        hworks.idInjectKey_eq h he' hsets' htoken'
      have hsame : col' = col := List.inj_on_of_nodup_map h.builds.nodup hcol' hcol
        (by rw [hname', hname, hcolumn])
      rw [hsame, hkey, Option.some.injEq] at hkey'
      rw [hsegments, hsegments', hcolumn, hkey']
    · intro hsegments
      have hstored := hworks.stored e he hsets
      have hstored' := hworks.stored e' he' hsets'
      rw [hsegments, hstored, htoken] at hstored'
      cases htoken' : e'.2 with
      | outwardIdentifier => rfl
      | timestampIso =>
        rw [htoken'] at hstored'
        cases hstored'
  · have hstored := hworks.stored e he hsets
    rw [htoken] at hstored
    exact hworks.replaced e he hsets _ hsent hstored
  · obtain ⟨u, hu, hgiven⟩ := hworks.named hnames hid e he htoken t ht
    exact ⟨u, hu, givenId_of_featureId_none hid ▸ hgiven⟩

/-! ### What makes paths work -/

/-- The parts of a path, and its key in the plan. -/
theorem PathsApart.segments_eq (hapart : PathsApart env rc coll feature op)
    (he : e ∈ rc.managedPaths) (hsets : op.setsPath feature e.1 = true) :
    ∃ key, segments e.1 = [pathColumn e.1, key] ∧
      splitFirst e.1 = some (pathColumn e.1, key) := by
  have hlen := hapart.parts e he hsets
  obtain ⟨rest, hsegments⟩ := segments_eq_cons e.1
  rw [hsegments, List.length_cons, Nat.succ.injEq, List.length_eq_one_iff] at hlen
  obtain ⟨key, rfl⟩ := hlen
  exact ⟨key, hsegments, splitFirst_of_segments hsegments⟩

/-- The path of a key of the same column. -/
theorem PathsApart.segments_of_key (hapart : PathsApart env rc coll feature op)
    (hsets : op.setsPath feature e.1 = true) {e' : String × ServerManagedToken}
    (he' : e' ∈ rc.managedPaths) {key : String}
    (hsplit : splitFirst e'.1 = some (pathColumn e.1, key)) :
    segments e'.1 = [pathColumn e.1, key] ∧ op.setsPath feature e'.1 = true ∧
      pathColumn e'.1 = pathColumn e.1 := by
  have hcolumn := pathColumn_of_splitFirst hsplit
  have hsets' := (setsPath_congr hcolumn).trans hsets
  exact ⟨segments_of_length hsplit (hapart.parts e' he' hsets'), hsets', hcolumn⟩

/-- The keys of a path in the plan of its column. -/
theorem PathsApart.keys (hapart : PathsApart env rc coll feature op)
    (he : e ∈ rc.managedPaths) (hsets : op.setsPath feature e.1 = true) :
    ∃ key, segments e.1 = [pathColumn e.1, key] ∧
      key ∈ (injectedKeys rc (pathColumn e.1)).stripKeys ∧
      (key ∈ (injectedKeys rc (pathColumn e.1)).writeInject ↔ e.2 = .timestampIso) ∧
      ((injectedKeys rc (pathColumn e.1)).idInjectKey = some key ↔ e.2 = .outwardIdentifier) := by
  obtain ⟨key, hsegments, hsplit⟩ := hapart.segments_eq he hsets
  have hinjects := injects_injectedKeys rc (pathColumn e.1)
  refine ⟨key, hsegments, (hinjects.strip key).mpr ⟨e, he, hsplit⟩, ⟨fun hwrite => ?_, fun h => ?_⟩,
    fun hkey => ?_, fun h => ?_⟩
  · obtain ⟨e', he', htoken', hsplit'⟩ := (hinjects.write key).mp hwrite
    obtain ⟨hsegments', -, hcolumn⟩ := hapart.segments_of_key hsets he' hsplit'
    cases htoken : e.2 with
    | timestampIso => rfl
    | outwardIdentifier =>
      -- no timestamp is at the path of an identifier
      have hid := (hapart.apart e he hsets htoken e' he' hcolumn).mpr
        (hsegments'.trans hsegments.symm)
      rw [htoken'] at hid
      cases hid
  · exact (hinjects.write key).mpr ⟨e, he, h, hsplit⟩
  · obtain ⟨e', he', htoken', hsplit'⟩ := hinjects.id key hkey
    obtain ⟨hsegments', hsets', hcolumn⟩ := hapart.segments_of_key hsets he' hsplit'
    exact (hapart.apart e' he' hsets' htoken' e he hcolumn.symm).mpr
      (hsegments.trans hsegments'.symm)
  · cases hkey : (injectedKeys rc (pathColumn e.1)).idInjectKey with
    | none => exact absurd hsplit (hinjects.noId hkey e he h key)
    | some key' =>
      obtain ⟨e', he', htoken', hsplit'⟩ := hinjects.id key' hkey
      obtain ⟨hsegments', -, hcolumn⟩ := hapart.segments_of_key hsets he' hsplit'
      have hsame := (hapart.apart e he hsets h e' he' hcolumn).mp htoken'
      rw [hsegments, hsegments', List.cons.injEq, List.cons.injEq] at hsame
      rw [hsame.2.1]

/-- **Two-part paths that do not meet work.** -/
theorem PathsApart.works (hapart : PathsApart env rc coll feature op)
    (h : WrittenRow gis env rc coll feature op db id row) (rd : Reader Geometry) :
    PathsWork rd env rc coll feature op db id row := by
  have hstored : ∀ e ∈ rc.managedPaths, op.setsPath feature e.1 = true →
      storedAt rd row (segments e.1) = e.2.stored env := by
    intro e he hsets
    obtain ⟨key, hsegments, hstrip, hwrite, -⟩ := hapart.keys he hsets
    obtain ⟨ms, hms⟩ := hapart.sent e he hsets
    obtain ⟨_, -, -, ⟨f, hf, rfl⟩, ms', hms', hlookup⟩ :=
      h.stored_object he (hapart.parts e he hsets).ge hsets hms
    have hmember : storedAt rd row (segments e.1) = ms'.lookup key := by
      rw [hsegments, storedAt, hms']
      rfl
    rw [hmember, hlookup key]
    show (if key ∈ (injectedKeys rc f.name).writeInject then some (Json.str env.nowText)
      else if key ∈ (injectedKeys rc f.name).stripKeys then none else ms.lookup key) = _
    rw [hf, if_pos hstrip]
    cases htoken : e.2 with
    | timestampIso => rw [if_pos (hwrite.mpr htoken), ServerManagedToken.stored]
    | outwardIdentifier =>
      have hnot : key ∉ (injectedKeys rc (pathColumn e.1)).writeInject := by
        intro hmem
        rw [hwrite.mp hmem] at htoken
        cases htoken
      rw [if_neg hnot, ServerManagedToken.stored]
  refine ⟨hstored, fun e he hsets v hv hsame => ?_, fun e he hsets path hhead hother => ?_,
    fun e he hsets shown hshown => ?_, fun hnames hid e he htoken t ht => ?_⟩
  · rw [hstored e he hsets] at hsame
    cases htoken : e.2 with
    | outwardIdentifier =>
      rw [htoken] at hsame
      cases hsame
    | timestampIso =>
      rw [htoken, ServerManagedToken.stored] at hsame
      exact hapart.fresh e he hsets htoken (hv.trans hsame.symm)
  · obtain ⟨ms, hms⟩ := hapart.sent e he hsets
    obtain ⟨_, -, -, ⟨f, hf, rfl⟩, ms', hms', hlookup⟩ :=
      h.stored_object he (hapart.parts e he hsets).ge hsets hms
    obtain ⟨column, path, rfl⟩ := List.exists_cons_of_ne_nil
      (show path ≠ [] by rintro rfl; cases hhead)
    rw [List.head?_cons, Option.some.injEq] at hhead
    subst hhead
    cases path with
    | nil =>
      obtain ⟨rest, hsegments⟩ := segments_eq_cons e.1
      exact absurd ⟨rest, by rw [hsegments]; rfl⟩ (hother e he).2
    | cons key path =>
      -- the member is not a key of the plan
      have hnot : ∀ e' ∈ rc.managedPaths, splitFirst e'.1 ≠ some (pathColumn e.1, key) := by
        intro e' he' hsplit
        obtain ⟨hsegments, -⟩ := hapart.segments_of_key hsets he' hsplit
        exact (hother e' he').1 ⟨path, by rw [hsegments]; rfl⟩
      have hinjects := injects_injectedKeys rc (pathColumn e.1)
      have hstrip : key ∉ (injectedKeys rc (pathColumn e.1)).stripKeys := by
        rw [hinjects.strip key]
        rintro ⟨e', he', hsplit⟩
        exact hnot e' he' hsplit
      have hwrite : key ∉ (injectedKeys rc (pathColumn e.1)).writeInject := by
        rw [hinjects.write key]
        rintro ⟨e', he', -, hsplit⟩
        exact hnot e' he' hsplit
      have hmember : ms'.lookup key = ms.lookup key := by
        refine (hlookup key).trans ?_
        show (if key ∈ (injectedKeys rc f.name).writeInject then some (Json.str env.nowText)
          else if key ∈ (injectedKeys rc f.name).stripKeys then none else ms.lookup key) = _
        rw [hf, if_neg hwrite, if_neg hstrip]
      rw [storedAt, hms', arrows_cons, arrows_cons, arrows_cons, hms]
      show arrows (ms'.lookup key) path = arrows (ms.lookup key) path
      rw [hmember]
  · obtain ⟨key, hsegments, hstrip, hwrite, hinject⟩ := hapart.keys he hsets
    obtain ⟨ms, hms⟩ := hapart.sent e he hsets
    obtain ⟨ms', ms'', hms', hms'', hlookup⟩ :=
      h.shown_object he (hapart.parts e he hsets).ge hsets hms hshown
    have hmember : storedAt rd row (segments e.1) = ms'.lookup key := by
      rw [hsegments, storedAt, hms']
      rfl
    rw [hsegments, arrows_cons, hms'']
    show ms''.lookup key = _
    rw [hlookup key, ← hmember, hstored e he hsets]
    cases htoken : e.2 with
    | outwardIdentifier => rw [if_pos (hinject.mpr htoken), ServerManagedToken.shown]
    | timestampIso =>
      have hnot : (injectedKeys rc (pathColumn e.1)).idInjectKey ≠ some key := by
        intro hkey
        rw [hinject.mp hkey] at htoken
        cases htoken
      rw [if_neg hnot, ServerManagedToken.stored, ServerManagedToken.shown]
  · obtain ⟨u, hu, hraw⟩ := hapart.agree hnames hid e he htoken t ht
    exact ⟨u, hu, (givenId_of_featureId_none hid).trans hraw⟩

end Written

namespace Sample

/-- Identifiers at two depths, and a timestamp. -/
def metadata : FieldDef :=
  { name := ⟨"metadata", by decide⟩, type := some "object"
    fields := [
      textField ⟨"lokal", by decide⟩,
      textField ⟨"endret", by decide⟩,
      { name := ⟨"identitet", by decide⟩, type := some "object"
        fields := [textField ⟨"nummer", by decide⟩] }] }

theorem metadata_valid : metadata.Valid := by
  refine .intro rfl (List.forall_mem_cons.mpr ⟨textField_valid _, ?_⟩)
  refine List.forall_mem_cons.mpr ⟨textField_valid _, List.forall_mem_singleton.mpr ?_⟩
  exact .intro rfl (List.forall_mem_singleton.mpr (textField_valid _))

theorem endret_nodup :
    ([("metadata.endret", ServerManagedToken.timestampIso)].map Prod.fst).Nodup :=
  List.nodup_singleton _

/-- Places with an outward identifier. -/
def placeNames (outward : String) : DatasetDef where
  name := ⟨"stedsnavn", by decide⟩
  collections := [
    { name := ⟨"sted", by decide⟩
      bounds := none
      geometry := { type := .point, derived := none, derived_type := no_derived }
      fields := [metadata]
      outwardIdentifier := some outward
      serverManaged := [("metadata.endret", .timestampIso)]
      bounds_value := no_bounds
      fields_valid := List.forall_mem_singleton.mpr metadata_valid
      serverManaged_nodup := endret_nodup }]

def sted (outward : String) : ResolvedCollection :=
  { name := "sted", featureModel := .simple, geometryType := .point, srid := 4326
    fields := [
      { name := "metadata", sqlType := "jsonb"
        subFields := [
          { name := "lokal", sqlType := "text" },
          { name := "endret", sqlType := "text" },
          { name := "identitet", sqlType := "jsonb"
            subFields := [{ name := "nummer", sqlType := "text" }] }] }]
    relationships := []
    upsertField := some outward
    outwardIdentifierPath := some outward
    serverManagedPaths := [("metadata.endret", .timestampIso)] }

def stedsnavn (outward : String) : ResolvedDataset := ⟨"stedsnavn", [], [sted outward]⟩

/-- The plan of the places, with the key and the path of the identifier. -/
def place (key : String) (lokal nummer : Bool) : CollectionPlan :=
  { collectionName := "sted", featureModel := .simple
    columns := [{ name := "metadata", sqlType := "jsonb"
                  stripKeys := ["endret", key], idInjectKey := some key, writeInject := ["endret"]
                  nestedFields := [
                    .mk "lokal" "text" false lokal [] [],
                    .mk "endret" "text" false true [] [],
                    .mk "identitet" "jsonb" false false []
                      [.mk "nummer" "text" false nummer [] []]] }]
    geometry := ⟨"Point", 4326, false, false⟩
    supportsUpsert := true }

def shallow : CollectionPlan := place "lokal" true false

def deep : CollectionPlan := place "identitet.nummer" false true

/-- A place with an identifier at both depths. -/
def namedPlace : Json :=
  .obj [("geometry", .obj []), ("properties", .obj [("metadata", .obj
    [("lokal", .str lower), ("endret", .str "2020"),
      ("identitet", .obj [("nummer", .str lower)])])])]

theorem managedPaths_shallow : (sted "metadata.lokal").managedPaths =
    [("metadata.endret", .timestampIso), ("metadata.lokal", .outwardIdentifier)] := by
  decide +kernel

theorem segments_shallow : segments "metadata.endret" = ["metadata", "endret"] ∧
    segments "metadata.lokal" = ["metadata", "lokal"] := by
  decide +kernel

theorem pathsApart_shallow :
    PathsApart env (sted "metadata.lokal") shallow (some namedPlace) (.create 0) := by
  obtain ⟨hendret, hlokal⟩ := segments_shallow
  have hcases : ∀ e ∈ (sted "metadata.lokal").managedPaths,
      e = ("metadata.endret", .timestampIso) ∨ e = ("metadata.lokal", .outwardIdentifier) := by
    intro e he
    rw [managedPaths_shallow] at he
    simpa using he
  refine ⟨fun e he _ => ?_, fun e he _ => ?_, fun e he _ htoken e' he' _ => ?_,
    fun e he _ htoken => ?_, fun _ _ e he htoken t ht => ?_⟩
  · rcases hcases e he with rfl | rfl
    · rw [hendret]
      rfl
    · rw [hlokal]
      rfl
  · rcases hcases e he with rfl | rfl
    · rw [pathColumn, hendret]
      exact ⟨_, rfl⟩
    · rw [pathColumn, hlokal]
      exact ⟨_, rfl⟩
  · rcases hcases e he with rfl | rfl
    · cases htoken
    · rcases hcases e' he' with rfl | rfl
      · rw [hendret, hlokal]
        simp
      · simp
  · rcases hcases e he with rfl | rfl
    · intro h
      rw [hendret] at h
      have htext : some (Json.str "2020") = some (.str env.nowText) := h
      simp [env] at htext
    · cases htoken
  · rcases hcases e he with rfl | rfl
    · cases htoken
    · rw [hlokal] at ht
      have hlower : some lower = some t := ht
      cases hlower
      exact ⟨10, by decide, by decide⟩

end Sample

end Geocomponents
