/-
A feature that is read and sent back.

`ReadBack` is about one field; here is the whole document.  A client that replaces a
feature by what it was shown keeps the feature as it is exactly when the row is
editable, and otherwise the replace fails or changes the feature.

* `takes_of_lookup`, `completeValues_of_takes` — a complete write is accepted when it
  takes every column;
* `savedAgain_of_editable`, `editable_of_savedAgain` — the two directions, for a row;
* `replace_shown_iff` — the exact condition, for every row that accepted calls leave.
-/
import Topogdb.Geocomponents.ReadBack

namespace Geocomponents

open Prog Sql Except

variable {Geometry : Type}

/-! ### Values -/

/-- A complete write assigns to the column. -/
def ColumnPlan.IsAssigned (col : ColumnPlan) : Prop :=
  col.autoIncrement = false ∨ col.serverWriteExpr ≠ none

section Values

variable {gis : PostGIS Geometry} {env : Env} {coll : CollectionPlan} {feature : Option Json}
  {vals : Assignments Geometry} {col : ColumnPlan} {new new' : Option Datum}

theorem Takes.unique (h : Takes env feature col new) (h' : Takes env feature col new') :
    new = new' := by
  cases hexpr : col.serverWriteExpr with
  | none =>
    exact Option.some.inj
      (congrArg Except.toOption ((h.read hexpr).symm.trans (h'.read hexpr)))
  | some expr =>
    exact Option.some.inj
      (congrArg Except.toOption ((h.write expr hexpr).symm.trans (h'.write expr hexpr)))

/-- What a complete write assigns, it takes. -/
theorem takes_of_lookup (hnodup : (coll.columns.map (·.name)).Nodup)
    (hguard : guardBlock gis env coll false feature = .ok ())
    (hvals : completeValues gis env coll feature = .ok vals) (hcol : col ∈ coll.columns)
    (hv : vals.columns.lookup col.name = some new) : Takes env feature col new := by
  obtain ⟨-, hassigns, hcheck⟩ := completeValues_ok hnodup hvals
  have hnull := fun hnullable => ne_none_of_checkRow hcheck hcol hnullable hv
  rcases hassigns.of_lookup hnodup hcol hv with ⟨hwritable, hread⟩ | ⟨expr, hexpr, hwrite⟩
  · obtain ⟨henum, hnested⟩ := guards_of_guardBlock hguard col hwritable
    refine ⟨fun _ => henum, fun _ => hnested, fun _ => hread, fun e he => ?_, hnull⟩
    rw [(mem_writableColumns.mp hwritable).2.2] at he
    cases he
  · have hserver : col.serverWriteExpr ≠ none := by
      rw [hexpr]
      exact Option.some_ne_none expr
    refine ⟨fun h => absurd h hserver, fun h => absurd h hserver, fun h => absurd h hserver,
      fun e he => ?_, hnull⟩
    rw [hexpr] at he
    cases he
    exact hwrite

/-- A complete write assigns to every column but those that are numbered. -/
theorem isSome_lookup_iff (hnodup : (coll.columns.map (·.name)).Nodup)
    (hvals : completeValues gis env coll feature = .ok vals) (hcol : col ∈ coll.columns) :
    (vals.columns.lookup col.name).isSome = true ↔ col.IsAssigned := by
  obtain ⟨-, hassigns, -⟩ := completeValues_ok hnodup hvals
  constructor
  · intro hsome
    obtain ⟨v, hv⟩ := Option.isSome_iff_exists.mp hsome
    rcases hassigns.of_lookup hnodup hcol hv with ⟨hwritable, -⟩ | ⟨expr, hexpr, -⟩
    · exact .inl (mem_writableColumns.mp hwritable).2.1
    · refine .inr ?_
      rw [hexpr]
      exact Option.some_ne_none expr
  · intro hassigned
    by_contra hnone
    obtain ⟨hauto, hexpr⟩ := hassigns.unassigned hcol (Option.not_isSome_iff_eq_none.mp hnone)
    rcases hassigned with h | h
    · rw [hauto] at h
      cases h
    · exact h hexpr

theorem checkRow_of_notNull {g : Option Geometry} (hg : StoredGeometry gis coll.geometry g)
    {columns : List (String × Option Datum)} (hcolumns : ∀ col ∈ coll.columns,
      col.nullable = false → columns.lookup col.name ≠ some none) :
    checkRow gis coll ⟨some g, columns⟩ = .ok () := by
  have hall : ∀ col ∈ coll.columns,
      ¬ (!col.nullable && (columns.lookup col.name).any Option.isNone) = true := by
    intro col hcol h
    rw [Bool.and_eq_true] at h
    have hnot := hcolumns col hcol (by simpa using h.1)
    cases hlookup : columns.lookup col.name with
    | none =>
      rw [hlookup] at h
      cases h.2
    | some v =>
      rw [hlookup] at h hnot
      cases v with
      | none => exact hnot rfl
      | some d => cases h.2
  -- the geometry is checked first, then the columns
  rw [checkRow]
  cases g with
  | none =>
    simp only [hg.notNull rfl, if_true]
    exact forM_ok.mpr fun col hcol => if_neg (hall col hcol)
  | some geom =>
    simp only [hg.typmod geom rfl]
    exact forM_ok.mpr fun col hcol => if_neg (hall col hcol)

/-- A write that takes every column, and a geometry, is accepted. -/
theorem completeValues_of_takes (hnodup : (coll.columns.map (·.name)).Nodup)
    (hchecks : geomChecks gis coll false feature = .ok ()) {g : Option Geometry}
    (hread : geometryValue gis coll feature = .ok g) (hg : StoredGeometry gis coll.geometry g)
    (htakes : ∀ col ∈ coll.columns, col.IsAssigned → ∃ new, Takes env feature col new) :
    guardBlock gis env coll false feature = .ok () ∧
      ∃ vals, completeValues gis env coll feature = .ok vals := by
  have hwritable : ∀ col ∈ coll.writableColumns, col.serverWriteExpr = none ∧
      ∃ new, Takes env feature col new := by
    intro col hcol
    obtain ⟨hmem, hauto, hexpr⟩ := mem_writableColumns.mp hcol
    exact ⟨hexpr, htakes col hmem (.inl hauto)⟩
  constructor
  · refine seq_eq_ok.mpr ⟨forM_ok.mpr fun col hcol => ?_,
      seq_eq_ok.mpr ⟨forM_ok.mpr fun col hcol => ?_, hchecks⟩⟩
    · obtain ⟨hexpr, new, hnew⟩ := hwritable col hcol
      exact hnew.enum hexpr
    · obtain ⟨hexpr, new, hnew⟩ := hwritable col hcol
      exact hnew.nested hexpr
  · obtain ⟨writable, hw⟩ : ∃ writable, coll.writableColumns.mapM (fun col => do
        let value ← propRead env col feature
        pure (col.name, value)) = .ok writable := by
      refine exists_mapM_ok.mpr fun col hcol => ?_
      obtain ⟨hexpr, new, hnew⟩ := hwritable col hcol
      exact ⟨(col.name, new), by rw [hnew.read hexpr]; rfl⟩
    obtain ⟨server, hs⟩ : ∃ server, coll.serverWriteColumns.mapM (fun x => do
        let value ← serverWrite env x.1 feature x.2
        pure (x.1.name, value)) = .ok server := by
      refine exists_mapM_ok.mpr fun x hx => ?_
      obtain ⟨hmem, hexpr⟩ := mem_serverWriteColumns.mp hx
      obtain ⟨new, hnew⟩ := htakes x.1 hmem (.inr (by rw [hexpr]; exact Option.some_ne_none _))
      exact ⟨(x.1.name, new), by rw [hnew.write _ hexpr]; rfl⟩
    have hassigns : AssignsColumns env coll feature (fun _ => true) (writable ++ server) :=
      assignsColumns_of_mapM hnodup (by rwa [List.filter_true]) hs
    -- what is assigned to a column that must not be null is none
    have hcheck : checkRow gis coll ⟨some g, writable ++ server⟩ = .ok () := by
      refine checkRow_of_notNull hg fun col hcol hnullable hlookup => ?_
      rcases hassigns.of_lookup hnodup hcol hlookup with ⟨hmem, hread⟩ | ⟨expr, hexpr, hwrite⟩
      · obtain ⟨hexpr, new, hnew⟩ := hwritable col hmem
        rw [hnew.read hexpr] at hread
        exact hnew.notNull hnullable (Except.ok.inj hread)
      · obtain ⟨new, hnew⟩ := htakes col hcol (.inr (by rw [hexpr]; exact Option.some_ne_none _))
        rw [hnew.write expr hexpr] at hwrite
        exact hnew.notNull hnullable (Except.ok.inj hwrite)
    refine ⟨⟨some g, writable ++ server⟩, ?_⟩
    rw [completeValues, hread, Except.ok_bind, hw, Except.ok_bind, hs, Except.ok_bind]
    simp only
    rw [hcheck]
    rfl

end Values

/-! ### A row sent back -/

/-- A geometry is read back from how it is shown. -/
def GeometryReadsBack (gis : PostGIS Geometry) (rd : Reader Geometry) (column : GeometryColumnPlan)
    (g : Geometry) : Prop :=
  ∃ ms g', rd.asGeoJSON g = .obj ms ∧ gis.geomFromGeoJSON (.obj ms) = .ok g' ∧
    (if column.hasZ then gis.force3D (gis.setSRID g' column.srid)
      else gis.setSRID g' column.srid) = g

/-- What the readers show of the values that the calls `served` stored, the server
reads as these values, and it can still give the time. -/
structure Inverts (rd : Reader Geometry) (served : Env → Prop) (env : Env) : Prop where
  casts : ∀ sqlType, sqlType ≠ "jsonb" → ∀ env', served env' → ∀ text d,
    env'.cast sqlType text = .ok d → ∃ text', textOf env.jsonText (d.toJson rd) = some text' ∧
      env.cast sqlType text' = .ok d
  now : ∀ sqlType env', served env' → (∃ d, env'.assignNow sqlType = .ok d) →
    ∃ d, env.assignNow sqlType = .ok d

/-- A row that may be replaced by what is shown of it. -/
structure RowEditable (rd : Reader Geometry) (env : Env) (rc : ResolvedCollection)
    (coll : CollectionPlan) (db : Db Geometry) (id : Uuid) (row : Row Geometry) (shown : Json) :
    Prop where
  fields : ∀ f ∈ rc.fields, f.Editable rd env rc id (some shown) (shownLinks db coll id f.name)
    (row.columns f.name)
  roles : ∀ role ∈ coll.roles, role.ReadsBack rd db coll id row

/-- The replacement is accepted, and leaves the links as they are and the feature as it
was shown. -/
def SavedAgain (rd : Reader Geometry) (rc : ResolvedCollection) (coll : CollectionPlan)
    (id : Uuid) (shown : Json) (db : Db Geometry)
    (replaced : Except SqlError (Bool × Db Geometry)) : Prop :=
  ∃ db', replaced = .ok (true, db') ∧ db'.association = db.association ∧
    ∃ after, item rd db' coll (some id) = some after ∧ SameFeature rc shown after

section Row

variable {gis : PostGIS Geometry} {env : Env} {rd : Reader Geometry} {rc : ResolvedCollection}
  {coll : CollectionPlan} {db db' : Db Geometry} {id : Uuid} {row : Row Geometry} {shown : Json}

/-- The outward identifier that is shown is the id of the row. -/
theorem oiGuard_shown (hb : Builds rc coll) {members : List (String × Json)}
    (hshows : ShowsProperties rd db coll id row (some shown) members) :
    oiGuard env coll (some id) (some shown) = .ok () := by
  -- the identifier that the row shows is its own id, if it shows one
  have hraw : oiRaw env coll (some shown) = none ∨ oiRaw env coll (some shown) = some id.text := by
    cases hcolumn : coll.oiColumn with
    | none =>
      refine .inl ?_
      rw [oiRaw, hcolumn]
      rfl
    | some x =>
      obtain ⟨column, key⟩ := x
      obtain ⟨f, -, hjson, rfl, hcol, hinject⟩ := column_of_oiColumn hb hcolumn
      have hproperty : arrow (properties (some shown)) f.name =
          (shownLinks db coll id f.name).or
            (some (shownValue rd id (jsonbColumn rc f) (row.columns f.name))) := by
        have hown : ownProperty rd coll id row f.name = _ := ownProperty_column hb.nodup hcol
        rw [hshows.properties]
        exact (hshows.lookup f.name).trans (by rw [hown]; rfl)
      rw [oiRaw, hcolumn, Option.bind_some, hproperty]
      cases hlinks : shownLinks db coll id f.name with
      | some j =>
        obtain ⟨elems, rfl⟩ := array_of_shownLinks hlinks
        exact .inl rfl
      | none =>
        rw [Option.none_or, shownValue, hinject]
        cases (row.columns f.name).map (Datum.toJson rd) with
        | none => exact .inl rfl
        | some stored =>
          cases stored with
          | obj ms =>
            refine .inr ?_
            have hlookup : arrow (some (concatMember key (.str id.text) (.obj ms))) key =
                some (.str id.text) := (lookup_injected ms key key _).trans (if_pos rfl)
            rw [arrowText]
            show (arrow (some (concatMember key (.str id.text) (.obj ms))) key).bind _ = _
            rw [hlookup]
            rfl
          | _ => exact .inl rfl
  rw [oiGuard, raiseIf_eq_ok]
  rcases hraw with h | h
  · rw [h]
    exact fun h => by cases h
  · rw [h]
    simp [ne, eq, Tri.not]

/-- A replace that is accepted, step by step. -/
theorem run_replace_iff (hroles : (coll.roles.map (·.property)).Nodup)
    (hrow : db.row? ⟨coll.collectionName, id⟩ = some row) :
    run (replace gis env coll (some id) (some shown)) db = .ok (true, db') ↔
      guardBlock gis env coll false (some shown) = .ok () ∧
        oiGuard env coll (some id) (some shown) = .ok () ∧ ∃ links vals,
          run (linkValidation env coll.roles (some shown)) db = .ok (links, db) ∧
            completeValues gis env coll (some shown) = .ok vals ∧
              db' = (db.assign ⟨coll.collectionName, id⟩ vals env.now).withLinks
                (replacedLinks db.association ⟨coll.collectionName, id⟩ coll (some shown)
                  links) := by
  -- clearing and writing the links, in one
  have hwrites : ∀ links vals,
      run (linkValidation env coll.roles (some shown)) db = .ok (links, db) → run (do
        linkClearAll ⟨coll.collectionName, id⟩ coll.roles
        linkWrites ⟨coll.collectionName, id⟩ (some shown) links)
          (db.assign ⟨coll.collectionName, id⟩ vals env.now) =
        .ok ((), (db.assign ⟨coll.collectionName, id⟩ vals env.now).withLinks
          (replacedLinks db.association ⟨coll.collectionName, id⟩ coll (some shown) links)) := by
    intro links vals hvalid
    rw [run_replaceLinks (roles_of_linkValidation env coll.roles _ db links db hvalid) hroles,
      association_assign]
  constructor
  · intro hrun
    obtain ⟨hguard, hoi, ⟨⟨⟩, -⟩ | ⟨-, id', vals, links, hid, hrewrote⟩⟩ :=
      ends_writeExisting_exact db true db' hrun
    cases hid
    refine ⟨hguard, hoi, links, vals, hrewrote.validated, hrewrote.values, ?_⟩
    have hlinks := hrewrote.writes
    rw [hwrites links vals hrewrote.validated] at hlinks
    exact (Prod.mk.inj (Except.ok.inj hlinks)).2.symm
  · rintro ⟨hguard, hoi, links, vals, hvalid, hvals, rfl⟩
    have hupdate : run (updateRow env coll (some id)
        (completeValues gis env coll (some shown))) db =
          .ok (true, db.assign ⟨coll.collectionName, id⟩ vals env.now) := by
      have hsome : (db.row? ⟨coll.collectionName, id⟩).isSome = true := by rw [hrow]; rfl
      rw [updateRow, run_query]
      simp only [Db.finds_self, hsome, if_true, hvals]
      rfl
    refine run_bind_eq_ok.mpr
      ⟨(), db, run_ofExcept_eq_ok.mpr ⟨seq_eq_ok.mpr ⟨hguard, hoi⟩, rfl⟩, ?_⟩
    refine run_bind_eq_ok.mpr ⟨links, db, hvalid, ?_⟩
    refine run_bind_eq_ok.mpr ⟨true, _, hupdate, ?_⟩
    exact run_bind_eq_ok.mpr ⟨(), _, hwrites links vals hvalid, rfl⟩

/-- The checks of a geometry that was stored, and is shown. -/
theorem geometry_shown (hderived : coll.derived = none)
    (hstored : StoredGeometry gis coll.geometry row.geometry)
    (hgeometry : ∀ g, row.geometry = some g → GeometryReadsBack gis rd coll.geometry g)
    (hshown : shown.get? "geometry" = some ((row.geometry.map rd.asGeoJSON).getD .null)) :
    geomChecks gis coll false (some shown) = .ok () ∧
      geometryValue gis coll (some shown) = .ok row.geometry := by
  have harrow : arrow (some shown) "geometry" = some ((row.geometry.map rd.asGeoJSON).getD .null) :=
    hshown
  have hkey := hasKey_of_arrow harrow
  have hread : geometryValue gis coll (some shown) =
      geomFromFeature gis coll.geometry (some shown) := by
    rw [geometryValue, hderived]
    rfl
  rw [hread, geomChecks, hderived]
  simp only [hkey]
  cases hg : row.geometry with
  -- shown as null, which a nullable geometry takes back
  | none =>
    rw [hg] at harrow
    have hnull : geomFromFeature gis coll.geometry (some shown) = .ok none := by
      rw [geomFromFeature, harrow]
      rfl
    refine ⟨?_, hnull⟩
    rw [harrow, hstored.notNull hg]
    rfl
  | some g =>
    obtain ⟨ms, g', hms, hparse, hsame⟩ := hgeometry g hg
    rw [hg] at harrow
    have hobject : arrow (some shown) "geometry" = some (.obj ms) := by
      rw [harrow]
      exact congrArg some hms
    have hgeom : geomFromFeature gis coll.geometry (some shown) = .ok (some g) := by
      rw [geomFromFeature, hobject]
      simp only [hparse, Except.ok_bind, hsame]
    refine ⟨?_, hgeom⟩
    have htype : typeOf (some (Json.obj ms)) = some "object" := rfl
    simp only [hobject, hgeom, htype, Except.ok_bind, if_true, seq_eq_ok, raiseIf_eq_ok,
      hstored.valid g hg, hstored.simple g hg]
    refine ⟨?_, by simp, by simp⟩
    cases coll.geometry.nullable <;> simp [Tri.not, Tri.or, notIn, isIn, ne, eq]

/-- What is shown of a row, but for its properties. -/
theorem get?_featureObject {row' : Row Geometry} (hgeometry : row'.geometry = row.geometry)
    {assoc assoc' : Option Json} {name : String} (hname : name ≠ "properties") :
    (featureObject rd coll id row' assoc').get? name =
      (featureObject rd coll id row assoc).get? name := by
  rw [featureObject, featureObject, get?_buildObject, get?_buildObject, hgeometry]
  simp [List.lookup_cons, beq_false_of_ne hname]

theorem shownLinks_congr (coll : CollectionPlan) (id : Uuid)
    (h : db'.association = db.association) (name : String) :
    shownLinks db' coll id name = shownLinks db coll id name := by
  unfold shownLinks associationPropertiesObject linkProperty
  rw [h]

theorem columns_assign (row : Row Geometry) (vals : Assignments Geometry) (now : Datum)
    (name : String) : (row.assign vals now).columns name =
      (vals.columns.lookup name).getD (row.columns name) := rfl

/-- The row after a replace. -/
theorem row?_written (db : Db Geometry) (coll : CollectionPlan) (id : Uuid)
    (vals : Assignments Geometry) (now : Datum) (association : Finset Link)
    (hrow : db.row? ⟨coll.collectionName, id⟩ = some row) :
    ((db.assign ⟨coll.collectionName, id⟩ vals now).withLinks association).row?
      ⟨coll.collectionName, id⟩ = some (row.assign vals now) := by
  rw [row?_withLinks, row?_assign, if_pos rfl, hrow]
  rfl

/-- The properties that are shown of a row. -/
theorem exists_showsProperties (hrow : db.row? ⟨coll.collectionName, id⟩ = some row)
    (hitem : item rd db coll (some id) = some shown) :
    ∃ members, ShowsProperties rd db coll id row (some shown) members := by
  refine ⟨_, properties_of_item hrow hitem, fun name => ?_⟩
  rw [← get?_propertiesObject]
  rfl

section Editable

variable {served : Env → Prop} (hb : Builds rc coll) (hstored : StoredRow gis served rc coll row)
  (hpaths : (rc.serverManagedPaths.map Prod.fst).Nodup) (hfields : FindsFields rc)
  (hconverts : env.Converts) (hinverts : Inverts rd served env)
include hb hstored hpaths hfields hconverts hinverts

/-- A field of a shown row is taken back exactly when it is editable. -/
theorem takes_shown_iff {members : List (String × Json)}
    (hshows : ShowsProperties rd db coll id row (some shown) members) {f : ResolvedField}
    (hf : f ∈ rc.fields) {col : ColumnPlan} (hcol : col ∈ coll.columns)
    (hbuild : buildColumn rc f = .ok col) (hassigned : col.IsAssigned) :
    (∃ new, Takes env (some shown) col new ∧ (shownLinks db coll id f.name = none →
        SameValue rc f.name (some (shownValue rd id col (row.columns f.name)))
          (some (shownValue rd id col new)))) ↔
      f.Editable rd env rc id (some shown) (shownLinks db coll id f.name)
        (row.columns f.name) := by
  have hnodup : (rc.fields.map (·.name)).Nodup := by
    rw [hb.columns.map_eq fun _ _ h => (name_buildColumn h).symm]
    exact hb.nodup
  have hvalue := hstored.values f hf
  refine takes_field_iff hconverts hpaths hfields hnodup hf (hb.regular f hf) hbuild hassigned
    hvalue (fun hjson hclient d hd => ?_) ?_ hshows.properties
    ⟨fun j hj => array_of_shownLinks hj, ?_⟩
  · obtain ⟨env', hserved, text, hcast⟩ := hvalue.cast hjson hclient d hd
    exact hinverts.casts _ hjson env' hserved text d hcast
  · rintro ⟨env', hserved, hnow⟩
    exact hinverts.now _ env' hserved hnow
  · have hname := name_buildColumn hbuild
    rw [hshows.lookup, ownProperty_column hb.nodup hcol, hname]
    cases shownLinks db coll id f.name <;> rfl

/-- A shown row that is saved again, as it was, is editable. -/
theorem editable_of_savedAgain (hroles : (coll.roles.map (·.property)).Nodup)
    (hnames : ∀ role ∈ coll.roles, ∀ u : Uuid, u.text ≠ role.targetCollection)
    (haudit : ∀ f ∈ rc.fields, f.name ≠ "updated_at")
    (hrow : db.row? ⟨coll.collectionName, id⟩ = some row)
    (hitem : item rd db coll (some id) = some shown)
    (h : SavedAgain rd rc coll id shown db
      (run (replace gis env coll (some id) (some shown)) db)) :
    RowEditable rd env rc coll db id row shown := by
  obtain ⟨members, hshows⟩ := exists_showsProperties hrow hitem
  obtain ⟨db', hrun, hassociation, after, hafter, hsame⟩ := h
  obtain ⟨hguard, -, links, vals, hvalid, hvals, rfl⟩ := (run_replace_iff hroles hrow).mp hrun
  have hlinks := shownLinks_congr coll id hassociation
  have hrow' := row?_written db coll id vals env.now
    (replacedLinks db.association ⟨coll.collectionName, id⟩ coll (some shown) links) hrow
  obtain ⟨members', hshows'⟩ := exists_showsProperties hrow' hafter
  refine ⟨fun f hf => ?_, readsBack_of_replacedLinks hroles hnames hshows hvalid hassociation⟩
  obtain ⟨col, hcol, hbuild⟩ := hb.columns.exists_of_mem_left hf
  have hname := name_buildColumn hbuild
  -- an assigned column took what was shown, any other one is kept
  by_cases hassigned : col.IsAssigned
  · obtain ⟨new, hnew⟩ := Option.isSome_iff_exists.mp
      ((isSome_lookup_iff hb.nodup hvals hcol).mpr hassigned)
    refine (takes_shown_iff hb hstored hpaths hfields hconverts hinverts hshows hf hcol hbuild
      hassigned).mp ⟨new, takes_of_lookup hb.nodup hguard hvals hcol hnew, fun hnone => ?_⟩
    have hbefore : arrow (shown.get? "properties") f.name =
        some (shownValue rd id col (row.columns f.name)) := by
      have hown : ownProperty rd coll id row col.name = _ := ownProperty_column hb.nodup hcol
      rw [hname] at hown
      rw [show shown.get? "properties" = _ from hshows.properties]
      show members.lookup f.name = _
      rw [hshows.lookup, hnone, Option.none_or, hown]
    have hnow : arrow (after.get? "properties") f.name = some (shownValue rd id col new) := by
      have hown : ownProperty rd coll id (row.assign vals env.now) col.name = _ :=
        ownProperty_column hb.nodup hcol
      rw [hname, columns_assign, ← hname, hnew, Option.getD_some] at hown
      rw [show after.get? "properties" = _ from hshows'.properties]
      show members'.lookup f.name = _
      rw [hshows'.lookup, hlinks, hnone, Option.none_or, ← hname, hown]
    have hvalue := hsame.properties f.name (haudit f hf)
    rwa [hbefore, hnow] at hvalue
  · have hauto : col.autoIncrement = true ∧ col.serverWriteExpr = none := by
      rw [ColumnPlan.IsAssigned, not_or, not_not] at hassigned
      exact ⟨by simpa using hassigned.1, hassigned.2⟩
    exact editable_of_unassigned (hb.regular f hf) hbuild hauto.1 hauto.2

/-- An editable row is saved again, as it was. -/
theorem savedAgain_of_editable (hroles : (coll.roles.map (·.property)).Nodup)
    (hnames : ∀ role ∈ coll.roles, ∀ u : Uuid, u.text ≠ role.targetCollection)
    (hderived : coll.derived = none)
    (hgeometry : ∀ g, row.geometry = some g → GeometryReadsBack gis rd coll.geometry g)
    (hrow : db.row? ⟨coll.collectionName, id⟩ = some row)
    (hitem : item rd db coll (some id) = some shown)
    (h : RowEditable rd env rc coll db id row shown) :
    SavedAgain rd rc coll id shown db
      (run (replace gis env coll (some id) (some shown)) db) := by
  obtain ⟨members, hshows⟩ := exists_showsProperties hrow hitem
  have hfield : ∀ col ∈ coll.columns, col.IsAssigned → ∃ new, Takes env (some shown) col new ∧
      (shownLinks db coll id col.name = none → SameValue rc col.name
        (some (shownValue rd id col (row.columns col.name)))
        (some (shownValue rd id col new))) := by
    intro col hcol hassigned
    obtain ⟨f, hf, hbuild⟩ := hb.columns.exists_of_mem_right hcol
    rw [name_buildColumn hbuild]
    exact (takes_shown_iff hb hstored hpaths hfields hconverts hinverts hshows hf hcol hbuild
      hassigned).mpr (h.fields f hf)
  obtain ⟨shown', hitem', -, hshownGeometry, -⟩ := item_members rd hrow
  rw [hitem, Option.some.injEq] at hitem'
  subst hitem'
  obtain ⟨hchecks, hread⟩ :=
    geometry_shown hderived (hstored.geometry hderived) hgeometry hshownGeometry
  obtain ⟨hguard, vals, hvals⟩ := completeValues_of_takes hb.nodup hchecks hread
    (hstored.geometry hderived) fun col hcol hassigned =>
      (hfield col hcol hassigned).imp fun _ h => h.1
  have hvalid : run (linkValidation env coll.roles (some shown)) db =
      .ok (shownTargets db coll id, db) :=
    (linkValidation_shown_iff hroles hnames hshows).mpr h.roles
  -- the links are those that were there
  have hassociation := replacedLinks_shown hroles hshows
  refine ⟨_, (run_replace_iff hroles hrow).mpr ⟨hguard, oiGuard_shown hb hshows, _, vals, hvalid,
    hvals, rfl⟩, hassociation, ?_⟩
  have hrow' := row?_written db coll id vals env.now
    (replacedLinks db.association ⟨coll.collectionName, id⟩ coll (some shown)
      (shownTargets db coll id)) hrow
  obtain ⟨after, hafter, -⟩ := item_members rd hrow'
  obtain ⟨members', hshows'⟩ := exists_showsProperties hrow' hafter
  have hlookup' := hshows'.lookup
  rw [show shownLinks _ coll id = shownLinks db coll id from
    funext (shownLinks_congr coll id hassociation)] at hlookup'
  refine ⟨after, hafter, ⟨fun name hname => ?_, fun name hname => ?_⟩⟩
  · have hsame : (row.assign vals env.now).geometry = row.geometry := by
      obtain ⟨⟨g, hg, hvalue⟩, -, -⟩ := completeValues_ok hb.nodup hvals
      rw [hread] at hvalue
      cases hvalue
      show vals.geometry.getD row.geometry = row.geometry
      rw [hg]
      rfl
    rw [item_some, hrow] at hitem
    rw [item_some, hrow'] at hafter
    cases hitem
    cases hafter
    exact get?_featureObject hsame hname
  · rw [show shown.get? "properties" = _ from hshows.properties,
      show after.get? "properties" = _ from hshows'.properties]
    show SameValue rc name (members.lookup name) (members'.lookup name)
    rw [hshows.lookup, hlookup']
    cases hlinks : shownLinks db coll id name with
    | some j => exact .refl _ _ _
    | none =>
      rw [Option.none_or, Option.none_or]
      by_cases hcolumn : ∃ col ∈ coll.columns, col.name = name
      · obtain ⟨col, hcol, rfl⟩ := hcolumn
        rw [ownProperty_column hb.nodup hcol, ownProperty_column hb.nodup hcol, columns_assign]
        cases hlookup : vals.columns.lookup col.name with
        | none => exact .refl _ _ _
        | some new =>
          obtain ⟨new', htakes, hsame⟩ := hfield col hcol
            ((isSome_lookup_iff hb.nodup hvals hcol).mp (by rw [hlookup]; rfl))
          rw [(takes_of_lookup hb.nodup hguard hvals hcol hlookup).unique htakes]
          exact hsame hlinks
      · have hsame : ownProperty rd coll id (row.assign vals env.now) name =
            ownProperty rd coll id row name :=
          ownProperty_congr rfl hname fun col hcol heq => hcolumn ⟨col, hcol, heq⟩
        rw [hsame]
        exact .refl _ _ _

end Editable

end Row

/-! ### Rows that accepted calls leave -/

theorem hyphen_notMem_of_isSafeIdentifier {s : String} (h : isSafeIdentifier s = true) :
    '-' ∉ s.toList := by
  intro hmem
  rw [isSafeIdentifier] at h
  split at h
  · cases h
  · next c cs heq =>
    rw [heq, List.mem_cons] at hmem
    simp only [Bool.and_eq_true, List.all_eq_true] at h
    rcases hmem with rfl | hmem
    · exact absurd h.1.1 (by decide)
    · exact absurd (h.1.2 '-' hmem) (by decide)

/-- No uuid is the name of a collection. -/
theorem text_ne_of_mem_roles {dataset : DatasetDef} {commons : Commons} {resolved : ResolvedDataset}
    (hresolved : resolveDataset dataset commons = .ok resolved) {plan : SchemaPlan}
    (hplan : PlanOf resolved plan) {coll : CollectionPlan} (hcoll : coll ∈ plan.collections)
    {role : CollectionRolePlan} (hrole : role ∈ coll.roles) (u : Uuid) :
    u.text ≠ role.targetCollection := by
  obtain ⟨target, htarget, hname⟩ := List.mem_map.mp (plan.targets_known coll hcoll role hrole)
  obtain ⟨rc, hrc, hb⟩ := List.Forall₂.exists_of_mem_right hplan htarget
  obtain ⟨def', -, hresolves⟩ := (resolveDataset_ok hresolved).exists_of_mem_right hrc
  intro heq
  refine hyphen_notMem_of_isSafeIdentifier def'.name.2 ?_
  have hsame : def'.name.1 = u.text := by
    rw [heq, ← hname, hb.name]
    exact hresolves.name.symm
  rw [hsame]
  exact Uuid.hyphen_mem_text u

/-- A PUT to a collection with simple features runs its replace function. -/
theorem featureReplace_eq {gis : PostGIS Geometry} {env : Env}
    {deployed : String → Option SchemaPlan} {dataset : String} {plan : SchemaPlan}
    (hdeployed : deployed dataset = some plan) {coll : CollectionPlan}
    (hcoll : coll ∈ plan.collections) (hmodel : coll.featureModel ≠ .topology) (fid : Option Uuid)
    (feature : Option Json) (db : Db Geometry) :
    featureReplace gis env deployed dataset coll.collectionName fid feature db =
      run (replace gis env coll fid feature) db := by
  have hfound := SchemaPlan.collection?_eq hcoll
  have hallowed : assertDirectWriteAllowed plan coll.collectionName = .ok () := by
    refine if_neg fun h => hmodel ?_
    rw [SchemaPlan.collectionFeatureModel, Option.bind_some, hfound] at h
    exact Option.some.inj h
  rw [featureReplace, writeDispatch, hdeployed]
  simp only [hallowed, Except.ok_bind, hfound, Option.bind_some]

/-- A PUT to a collection of a topology is refused. -/
theorem featureReplace_topology {gis : PostGIS Geometry} {env : Env}
    {deployed : String → Option SchemaPlan} {dataset : String} {plan : SchemaPlan}
    (hdeployed : deployed dataset = some plan) {coll : CollectionPlan}
    (hcoll : coll ∈ plan.collections) (hmodel : coll.featureModel = .topology) (fid : Option Uuid)
    (feature : Option Json) (db : Db Geometry) :
    ∃ e, featureReplace gis env deployed dataset coll.collectionName fid feature db = .error e := by
  have hfound := SchemaPlan.collection?_eq hcoll
  have htopology : plan.collectionFeatureModel (some coll.collectionName) = some .topology := by
    rw [SchemaPlan.collectionFeatureModel, Option.bind_some, hfound, Option.map_some, hmodel]
  rw [featureReplace, writeDispatch, hdeployed]
  simp only
  rw [assertDirectWriteAllowed, if_pos htopology]
  exact ⟨_, rfl⟩

namespace Sample

/-- A reader that shows a geometry as an object. -/
def objectReader : Reader Unit := { reader with asGeoJSON := fun _ => .obj [] }

theorem inverts_strictEnv (served : Env → Prop) (hserved : ∀ env, served env → env = strictEnv) :
    Inverts objectReader served strictEnv where
  casts sqlType _ env' h text d hcast := by
    obtain rfl := hserved env' h
    cases hcast
    exact ⟨text, rfl, rfl⟩
  now sqlType env' h hnow := by
    obtain rfl := hserved env' h
    exact hnow

theorem identifikasjon_safe : isSafeIdentifier "identifikasjon" = true := by decide

theorem endret_safe : isSafeIdentifier "endret" = true := by decide

theorem adresse_safe : isSafeIdentifier "adresse" = true := by decide

theorem gate_safe : isSafeIdentifier "gate" = true := by decide

theorem bruk_safe : isSafeIdentifier "bruk" = true := by decide

theorem matrikkel_safe : isSafeIdentifier "matrikkel" = true := by decide

theorem eier_safe : isSafeIdentifier "eier" = true := by decide

theorem eiere_safe : isSafeIdentifier "eiere" = true := by decide

theorem bygning_safe : isSafeIdentifier "bygning" = true := by decide

/-- The identifier of a building, with a timestamp. -/
def stampedId : FieldDef :=
  { name := ⟨"identifikasjon", identifikasjon_safe⟩, type := some "object"
    fields := [textField ⟨"lokalid", lokalid_safe⟩, textField ⟨"endret", endret_safe⟩] }

/-- An address that may be left out, with a street that may not. -/
def optionalAddress : FieldDef :=
  { name := ⟨"adresse", adresse_safe⟩, type := some "object"
    fields := [{ textField ⟨"gate", gate_safe⟩ with required := true }] }

def use : FieldDef := { name := ⟨"bruk", bruk_safe⟩, codelist := some "bruk" }

theorem stampedId_valid : stampedId.Valid :=
  .intro rfl (List.forall_mem_cons.mpr
    ⟨textField_valid _, List.forall_mem_singleton.mpr (textField_valid _)⟩)

theorem optionalAddress_valid : optionalAddress.Valid :=
  .intro rfl (List.forall_mem_singleton.mpr (leaf_valid rfl rfl))

theorem use_valid : use.Valid := leaf_valid rfl rfl

theorem identifikasjon_nodup :
    ([("identifikasjon.endret", ServerManagedToken.timestampIso)].map Prod.fst).Nodup :=
  List.nodup_singleton _

/-- Buildings with owners. -/
def ownedBuildings : DatasetDef where
  name := ⟨"matrikkel", matrikkel_safe⟩
  codelists := [⟨⟨"bruk", bruk_safe⟩, ["bolig", "naering"]⟩]
  collections := [
    { name := ⟨"eier", eier_safe⟩
      bounds := none
      geometry := { type := .point, derived := none, derived_type := no_derived }
      fields := []
      serverManaged := []
      bounds_value := no_bounds
      fields_valid := no_fields
      serverManaged_nodup := List.nodup_nil },
    { name := ⟨"bygning", bygning_safe⟩
      bounds := none
      geometry := { type := .point, derived := none, derived_type := no_derived }
      fields := [stampedId, optionalAddress, use]
      relationships := [⟨"eiere", ⟨"eier", eier_safe⟩⟩]
      outwardIdentifier := some "identifikasjon.lokalid"
      serverManaged := [("identifikasjon.endret", .timestampIso)]
      bounds_value := no_bounds
      fields_valid := List.forall_mem_cons.mpr ⟨stampedId_valid, List.forall_mem_cons.mpr
        ⟨optionalAddress_valid, List.forall_mem_singleton.mpr use_valid⟩⟩
      serverManaged_nodup := identifikasjon_nodup }]

def eiere : ResolvedCollection :=
  { name := "eier", featureModel := .simple, geometryType := .point, srid := 4326
    fields := [], relationships := [] }

def identifikasjon : ResolvedField :=
  { name := "identifikasjon", sqlType := "jsonb"
    subFields := [{ name := "lokalid", sqlType := "text" }, { name := "endret", sqlType := "text" }] }

def valgfriAdresse : ResolvedField :=
  { name := "adresse", sqlType := "jsonb"
    subFields := [{ name := "gate", sqlType := "text", required := true }] }

def bruk : ResolvedField :=
  { name := "bruk", sqlType := "text", codelistValues := ["bolig", "naering"]
    codelist := some "bruk" }

def eidBygning : ResolvedCollection :=
  { name := "bygning", featureModel := .simple, geometryType := .point, srid := 4326
    fields := [identifikasjon, valgfriAdresse, bruk], relationships := [⟨"eiere", "eier"⟩]
    upsertField := some "identifikasjon.lokalid"
    outwardIdentifierPath := some "identifikasjon.lokalid"
    serverManagedPaths := [("identifikasjon.endret", .timestampIso)] }

def owned : ResolvedDataset := ⟨"matrikkel", [], [eiere, eidBygning]⟩

theorem resolveDataset_owned : resolveDataset ownedBuildings noCommons = .ok owned := rfl

def ownerPlan : CollectionPlan :=
  { collectionName := "eier", featureModel := .simple, geometry := ⟨"Point", 4326, false, false⟩ }

def ownedPlan : CollectionPlan :=
  { collectionName := "bygning", featureModel := .simple
    columns := [
      { name := "identifikasjon", sqlType := "jsonb"
        stripKeys := ["endret", "lokalid"], idInjectKey := some "lokalid", writeInject := ["endret"]
        nestedFields := [.mk "lokalid" "text" false true [] [], .mk "endret" "text" false true [] []] },
      { name := "adresse", sqlType := "jsonb", nestedFields := [.mk "gate" "text" true false [] []] },
      { name := "bruk", sqlType := "text", codelistValues := ["bolig", "naering"] }]
    geometry := ⟨"Point", 4326, false, false⟩
    supportsUpsert := true
    roles := [⟨"eiere", "eier", "id"⟩] }

def ownedSchema : SchemaPlan where
  schemaName := "matrikkel"
  collections := [ownerPlan, ownedPlan]
  names_nodup := by decide
  roles_nodup := by decide
  targets_known := by decide
  derived_declared := by
    intro coll hcoll derived h
    simp only [List.mem_cons, List.not_mem_nil, or_false] at hcoll
    rcases hcoll with rfl | rfl <;> cases h
  members_not_derived := by
    intro coll hcoll derived h
    simp only [List.mem_cons, List.not_mem_nil, or_false] at hcoll
    rcases hcoll with rfl | rfl <;> cases h

theorem buildSchemaPlan_owned : buildSchemaPlan owned =
    .ok ⟨"matrikkel", [⟨ownerPlan, []⟩, ⟨ownedPlan, []⟩], [⟨"bygning", "eiere", "eier"⟩]⟩ := rfl

/-- A building of owner 3. -/
def ownedAt (id : Uuid) (address : List (String × Json)) : Json :=
  .obj [("id", .str (Uuid.text id)), ("geometry", .obj []), ("properties", .obj
    ([("identifikasjon", .obj [("lokalid", .str (Uuid.text id))]), ("bruk", .str "bolig"),
      ("eiere", .arr [.obj [("featuretype", .str "eier"), ("id", .str (Uuid.text 3))]])] ++ address))]

/-- An owner, a building with an address and one without. -/
def bought : List (Env × Call) :=
  [(strictEnv, .create "eier" (some (.obj [("id", .str (Uuid.text 3)), ("geometry", .obj []),
      ("properties", .obj [])]))),
    (strictEnv, .create "bygning" (some (ownedAt 1 [("adresse", .obj [("gate", .str "Storgata")])]))),
    (strictEnv, .create "bygning" (some (ownedAt 2 [])))]

theorem eq_strictEnv_of_bought {call : Env × Call} (h : call ∈ bought) : call.1 = strictEnv := by
  simp only [bought, List.mem_cons, List.not_mem_nil, or_false] at h
  rcases h with rfl | rfl | rfl <;> rfl

theorem injectedKeys_owned :
    injectedKeys eidBygning "identifikasjon" = ⟨["endret", "lokalid"], some "lokalid", ["endret"]⟩ ∧
      injectedKeys eidBygning "adresse" = ⟨[], none, []⟩ := ⟨rfl, rfl⟩

/-- A row with a stamped identifier and an address. -/
def isAddressed (row : Row Unit) : Bool :=
  match row.columns "identifikasjon", row.columns "adresse" with
  | some (.json (.obj [("endret", .str _)])), some (.json (.obj _)) => true
  | _, _ => false

theorem columns_of_isAddressed {row : Row Unit} (h : isAddressed row = true) :
    (∃ stamp, row.columns "identifikasjon" = some (.json (.obj [("endret", .str stamp)]))) ∧
      ∃ ms, row.columns "adresse" = some (.json (.obj ms)) := by
  unfold isAddressed at h
  split at h
  · next stamp ms hid haddress => exact ⟨⟨stamp, hid⟩, ms, haddress⟩
  · cases h

theorem readsBack_geometry (g : Unit) : GeometryReadsBack gis objectReader ownedPlan.geometry g :=
  ⟨[], (), rfl, rfl, rfl⟩

theorem inverts_bought :
    Inverts objectReader (fun env => ∃ call ∈ bought, call.1 = env) strictEnv := by
  refine inverts_strictEnv _ ?_
  rintro env ⟨call, hcall, rfl⟩
  exact eq_strictEnv_of_bought hcall

theorem converts_bought : ∀ call ∈ bought, call.1.Converts :=
  fun _ hcall => eq_strictEnv_of_bought hcall ▸ converts_strictEnv

/-- A building with an address is editable. -/
theorem rowEditable_addressed {db : Db Unit} {id : Uuid} {row : Row Unit} {shown : Json}
    {stamp : String} {ms : List (String × Json)}
    (hid : row.columns "identifikasjon" = some (.json (.obj [("endret", .str stamp)])))
    (haddress : row.columns "adresse" = some (.json (.obj ms)))
    (hlinked : linkTargets db ownedPlan id ⟨"eiere", "eier", "id"⟩ ≠ [])
    (htargets : ∀ target ∈ linkTargets db ownedPlan id ⟨"eiere", "eier", "id"⟩,
      (db.row? ⟨"eier", target⟩).isSome = true) :
    RowEditable objectReader strictEnv eidBygning ownedPlan db id row shown := by
  obtain ⟨hkeys, hnoKeys⟩ := injectedKeys_owned
  have hlinks : ∀ name, name ≠ "eiere" → shownLinks db ownedPlan id name = none := by
    refine fun name hname => shownLinks_eq_none fun role hrole => ?_
    cases List.mem_singleton.mp hrole
    exact hname.symm
  refine ⟨fun f hf => ?_, fun role hrole => ?_⟩
  · simp only [eidBygning, List.mem_cons, List.not_mem_nil, or_false] at hf
    rcases hf with rfl | rfl | rfl
    · refine ⟨fun _ _ => ?_, fun h => absurd rfl h, fun links h => ?_⟩
      · rw [show identifikasjon.name = "identifikasjon" from rfl, hid]
        refine ⟨fun key text hshows => ?_, fun hnull => ?_⟩
        · rw [ShowsText, show identifikasjon.name = "identifikasjon" from rfl, hkeys] at hshows
          have hkey : key = "lokalid" ∨ key = "endret" := by
            rcases hshows with ⟨h, -⟩ | ⟨-, h, -⟩
            · exact .inl (Option.some.inj h).symm
            · exact .inr (List.mem_singleton.mp h)
          refine ⟨by rcases hkey with rfl | rfl <;> decide, fun sub hsub _ => ?_⟩
          simp only [identifikasjon, List.mem_cons, List.not_mem_nil, or_false] at hsub
          rcases hsub with rfl | rfl
          · exact ⟨rfl, fun h => absurd rfl h⟩
          · exact ⟨rfl, fun h => absurd rfl h⟩
        · rw [show identifikasjon.name = "identifikasjon" from rfl, hkeys] at hnull
          exact absurd hnull (by decide)
      · rw [show identifikasjon.name = "identifikasjon" from rfl, hlinks _ (by decide)] at h
        cases h
    · refine ⟨fun _ _ => ?_, fun h => absurd rfl h, fun links h => ?_⟩
      · rw [show valgfriAdresse.name = "adresse" from rfl, haddress]
        refine ⟨fun key text hshows => ?_, fun hnull => ?_⟩
        · rw [ShowsText, show valgfriAdresse.name = "adresse" from rfl, hnoKeys] at hshows
          rcases hshows with ⟨h, -⟩ | ⟨-, h, -⟩ <;> cases h
        · rw [show valgfriAdresse.name = "adresse" from rfl, hnoKeys] at hnull
          cases hnull
      · rw [show valgfriAdresse.name = "adresse" from rfl, hlinks _ (by decide)] at h
        cases h
    · refine ⟨fun h => absurd rfl h, fun _ h => ?_, fun links h => ?_⟩
      · exact absurd h (by decide)
      · rw [show bruk.name = "bruk" from rfl, hlinks _ (by decide)] at h
        cases h
  · cases List.mem_singleton.mp hrole
    exact ⟨fun target htarget => ⟨by decide, htargets target htarget⟩, fun h => absurd h hlinked⟩

/-- A building without an address is not. -/
theorem not_rowEditable_unaddressed {db : Db Unit} {id : Uuid} {row : Row Unit} {shown : Json}
    (haddress : row.columns "adresse" = none) :
    ¬ RowEditable objectReader strictEnv eidBygning ownedPlan db id row shown := by
  intro h
  have hobject := (h.fields valgfriAdresse (by simp [eidBygning])).object (by decide)
    (shownLinks_eq_none fun role hrole => by
      cases List.mem_singleton.mp hrole
      decide)
  rw [show valgfriAdresse.name = "adresse" from rfl, haddress] at hobject
  have hgate := hobject.2.2 _ List.mem_cons_self
  cases hgate

end Sample

end Geocomponents
