/-
PATCH beside PUT (`geocomponents/schema/functions.py`: `_fn_update`, `_fn_replace`).

* `featureUpdate_eq_featureReplace` — a PATCH that names everything is a PUT:
  its guards, its values and its links are the same.
-/
import Topogdb.Geocomponents.Dispatch
import Topogdb.Geocomponents.WriteExact

namespace Geocomponents

open Prog Sql

variable {Geometry : Type} (gis : PostGIS Geometry) (env : Env) {plan : SchemaPlan}
  {coll : CollectionPlan}

/-! ### A complete document -/

/-- The document names the geometry, and its properties object every writable and
every link property; an object-typed property is not null. -/
structure CompleteDocument (coll : CollectionPlan) (feature : Option Json) : Prop where
  geometry : hasKey feature "geometry" = some true
  properties : ∃ members, properties feature = some (.obj members)
  writable : ∀ col ∈ coll.writableColumns, hasKey (Geocomponents.properties feature) col.name =
    some true
  links : ∀ role ∈ coll.roles, hasKey (Geocomponents.properties feature) role.property = some true
  objects : ∀ col ∈ coll.writableColumns, col.nestedFields ≠ [] →
    arrow (Geocomponents.properties feature) col.name ≠ some .null

section Complete

variable {feature : Option Json}

theorem enumCheck_of_named {col : ColumnPlan}
    (h : hasKey (properties feature) col.name = some true) :
    enumCheck env true feature col = enumCheck env false feature col := by
  unfold enumCheck
  simp only [h, Tri.true_and, if_true, Bool.false_eq_true, if_false]

/-- A named member of the properties object is there. -/
theorem arrow_of_named {members : List (String × Json)} {name : String}
    (hproperties : properties feature = some (.obj members))
    (h : hasKey (properties feature) name = some true) :
    ∃ j, arrow (properties feature) name = some j := by
  rw [hproperties] at h ⊢
  have hlookup : (members.lookup name).isSome = true := Option.some.inj h
  exact Option.isSome_iff_exists.mp hlookup

theorem typeOf_ne_null {j : Json} (h : j ≠ .null) : eq (typeOf (some j)) (some "null") = some false := by
  cases j with
  | null => exact absurd rfl h
  | _ => rfl

/-- An object that is named and not null passes the check of a required one. -/
theorem nestedCheck_of_named {col : ColumnPlan} {members : List (String × Json)}
    (hproperties : properties feature = some (.obj members))
    (h : hasKey (properties feature) col.name = some true)
    (hobject : col.nestedFields ≠ [] → arrow (properties feature) col.name ≠ some .null) :
    nestedCheck env true feature col = nestedCheck env false feature col := by
  unfold nestedCheck
  split
  · rfl
  · next hnested =>
    obtain ⟨j, hj⟩ := arrow_of_named hproperties h
    have hnull : j ≠ .null := fun heq => hobject hnested (heq ▸ hj)
    have hrequired : raiseIf (Tri.or (Tri.not (some true)) (eq (typeOf (some j)) (some "null")))
        s!"field {col.name}: required value is missing" = .ok () := by
      rw [typeOf_ne_null hnull]
      rfl
    simp only [h, hj, Tri.true_and, hrequired]
    cases col.nullable <;> rfl

theorem geomChecks_of_named (hd : coll.derived = none) (h : hasKey feature "geometry" = some true) :
    geomChecks gis coll true feature = geomChecks gis coll false feature := by
  unfold geomChecks
  rw [hd]
  have hnot : Tri.not (some true) = some false := rfl
  simp only [h, Tri.true_and, hnot, Tri.false_or, if_true, Bool.false_eq_true, if_false]

theorem forM_congr {α : Type} {l : List α} {f g : α → Except SqlError Unit}
    (h : ∀ a ∈ l, f a = g a) : l.forM f = l.forM g := by
  induction l with
  | nil => rfl
  | cons a l ih =>
    show (f a >>= fun _ => l.forM f) = (g a >>= fun _ => l.forM g)
    rw [h a List.mem_cons_self, ih fun b hb => h b (List.mem_cons_of_mem a hb)]

namespace CompleteDocument

variable (h : CompleteDocument coll feature)
include h

/-- Nothing hides behind the presence guards. -/
theorem guardBlock_eq (hd : coll.derived = none) :
    guardBlock gis env coll true feature = guardBlock gis env coll false feature := by
  obtain ⟨members, hproperties⟩ := h.properties
  have henum : enumChecks env coll.writableColumns true feature =
      enumChecks env coll.writableColumns false feature :=
    forM_congr fun col hcol => enumCheck_of_named env (h.writable col hcol)
  have hnested : nestedChecks env coll.writableColumns true feature =
      nestedChecks env coll.writableColumns false feature :=
    forM_congr fun col hcol =>
      nestedCheck_of_named env hproperties (h.writable col hcol) (h.objects col hcol)
  unfold guardBlock
  rw [henum, hnested, geomChecks_of_named gis hd h.geometry]

/-- The values of all columns. -/
theorem partialValues_eq : partialValues gis env coll feature = completeValues gis env coll feature := by
  have hnamed : coll.writableColumns.filter (fun col =>
      (hasKey (Geocomponents.properties feature) col.name).holds) = coll.writableColumns := by
    rw [List.filter_eq_self]
    intro col hcol
    rw [h.writable col hcol]
    rfl
  have hgeometry : (hasKey feature "geometry").holds = true := by
    rw [h.geometry]
    rfl
  unfold partialValues completeValues
  rw [hnamed, hgeometry]
  simp only [Bool.or_true, if_true]
  cases geometryValue gis coll feature <;> rfl

/-- The same links go, and the same come. -/
theorem links_eq (hcoll : coll ∈ plan.collections) {db₀ : Db Geometry}
    {links : List (CollectionRolePlan × List Uuid)}
    (hlinks : run (linkValidation env coll.roles feature) db₀ = .ok (links, db₀)) (source : Ref)
    (db : Db Geometry) :
    run (linkWritesPatch source feature links) db =
      run (linkClearAll source coll.roles >>= fun _ => linkWrites source feature links) db := by
  obtain ⟨hproperties, hnodup⟩ := properties_of_linkValidation hcoll hlinks
  have hroles : ∀ property, (coll.roles.any fun role => role.property = property) =
      (links.any fun x => x.1.property = property) := by
    intro property
    have hmem := congrArg (fun l => l.any fun p => decide (p = property)) hproperties
    simpa only [List.any_map, Function.comp_def] using hmem.symm
  have hall : isNamedLink feature links = fun property =>
      coll.roles.any fun role => role.property = property := by
    funext property
    unfold isNamedLink
    rw [← hroles property, Bool.and_eq_right_iff_imp]
    intro hany
    obtain ⟨role, hrole, hproperty⟩ := List.any_eq_true.mp hany
    rw [← of_decide_eq_true hproperty, h.links role hrole]
    rfl
  rw [run_linkWritesPatch source feature hnodup, run_bind, linkClearAll, run_deleteLinks]
  simp only
  rw [run_linkWrites source feature hnodup, withLinks_withLinks, association_withLinks, hall]
  -- what is inserted has a declared property, and these are cleared
  intro l hl hmem
  obtain ⟨hsource, x, hx, -, hproperty, -⟩ := mem_namedLinks.mp hl
  refine (Finset.mem_sdiff.mp hmem).2 (mem_sourceLinks.mpr ⟨(Finset.mem_sdiff.mp hmem).1,
    hsource, ?_⟩)
  rw [hroles, List.any_eq_true]
  exact ⟨x, hx, decide_eq_true hproperty.symm⟩

end CompleteDocument

theorem run_update_eq (hcoll : coll ∈ plan.collections) (hd : coll.derived = none)
    (h : CompleteDocument coll feature) (fid : Option Uuid) (db : Db Geometry) :
    run (update gis env coll fid feature) db = run (replace gis env coll fid feature) db := by
  unfold update replace writeExisting
  rw [h.guardBlock_eq gis env hd, h.partialValues_eq gis env]
  refine run_bind_congr fun _ db₁ _ => ?_
  refine run_bind_congr fun links db₂ hlinks => ?_
  obtain ⟨rfl, -⟩ := ends_linkValidation env coll.roles feature db₁ links db₂ hlinks
  refine run_bind_congr fun found db₃ _ => ?_
  cases found with
  | false => rfl
  | true =>
    cases fid with
    | none => rfl
    | some id =>
      simp only
      rw [run_bind, run_bind, h.links_eq env hcoll hlinks ⟨coll.collectionName, id⟩ db₃]

end Complete

/-- The document names the property. -/
def namesProperty (feature : Option Json) (name : String) : Bool :=
  (hasKey (properties feature) name).holds

/-- A PATCH of the row `ref` changed what its document names, `updated_at` and the
timestamps of the server, and nothing else. -/
structure PatchFrame (coll : CollectionPlan) (feature : Option Json) (ref : Ref)
    (row : Row Geometry) (db db' : Db Geometry) : Prop where
  row : ∃ row', db'.row? ref = some row' ∧ row'.createdAt = row.createdAt ∧
    ((hasKey feature "geometry").holds = false → row'.geometry = row.geometry) ∧
    ∀ name, namesProperty feature name = false →
      (∀ col ∈ coll.columns, col.name = name → col.serverWriteExpr ≠ some .now) →
        row'.columns name = row.columns name
  links : ∀ l : Link, (l.source = ref → (∃ role ∈ coll.roles, role.property = l.property) →
    namesProperty feature l.property = false) → (l ∈ db'.association ↔ l ∈ db.association)
  rows : ∀ r, r ≠ ref → db'.row? r = db.row? r

/-- What a PATCH writes without being asked is what the row has: no geometry where
it is derived, and the outward identifier of the document in its copies. -/
structure PatchQuiet (env : Env) (coll : CollectionPlan) (feature : Option Json)
    (row : Row Geometry) : Prop where
  geometry : coll.derived = none ∨ (hasKey feature "geometry").holds = true ∨ row.geometry = none
  columns : ∀ col ∈ coll.columns, ∀ path, col.serverWriteExpr = some (.featurePropertyText path) →
    namesProperty feature col.name = false →
      serverWrite env col feature (.featurePropertyText path) = .ok (row.columns col.name)

section Frame

variable {gis env} {feature : Option Json}

/-- The links after the link statements of a PATCH. -/
theorem links_of_patch (hcoll : coll ∈ plan.collections) {db₀ db db' : Db Geometry}
    {links : List (CollectionRolePlan × List Uuid)}
    (hlinks : run (linkValidation env coll.roles feature) db₀ = .ok (links, db₀)) {source : Ref}
    (hrun : run (linkWritesPatch source feature links) db = .ok ((), db')) :
    (∀ r, db'.row? r = db.row? r) ∧
      ∀ l : Link, (l.source = source → (∃ role ∈ coll.roles, role.property = l.property) →
        namesProperty feature l.property = false) → (l ∈ db'.association ↔ l ∈ db.association) := by
  obtain ⟨hproperties, hnodup⟩ := properties_of_linkValidation hcoll hlinks
  rw [run_linkWritesPatch source feature hnodup] at hrun
  cases hrun
  refine ⟨fun r => rfl, fun l hother => ?_⟩
  have hdeclared : (∃ x ∈ links, x.1.property = l.property) →
      ∃ role ∈ coll.roles, role.property = l.property := by
    rintro ⟨x, hx, hproperty⟩
    have hmem : l.property ∈ coll.roles.map (·.property) := by
      rw [← hproperties, ← hproperty]
      exact List.mem_map_of_mem hx
    exact List.mem_map.mp hmem
  have hnotDeleted : l ∉ sourceLinks db.association source (isNamedLink feature links) := by
    intro hmem
    obtain ⟨-, hsource, hnamed⟩ := mem_sourceLinks.mp hmem
    obtain ⟨hnamed, hany⟩ := Bool.and_eq_true_iff.mp hnamed
    obtain ⟨x, hx, hproperty⟩ := List.any_eq_true.mp hany
    have hfalse := hother hsource (hdeclared ⟨x, hx, of_decide_eq_true hproperty⟩)
    exact Bool.false_ne_true (hfalse.symm.trans hnamed)
  have hnotInserted : l ∉ namedLinks source feature links := by
    intro hmem
    obtain ⟨hsource, x, hx, hnamed, hproperty, -⟩ := mem_namedLinks.mp hmem
    have hfalse := hother hsource (hdeclared ⟨x, hx, hproperty.symm⟩)
    rw [hproperty] at hfalse
    exact Bool.false_ne_true (hfalse.symm.trans hnamed)
  rw [association_withLinks, Finset.mem_union, Finset.mem_sdiff, List.mem_toFinset]
  tauto

/-- **A PATCH changes only what its document names, `updated_at` and timestamps
exactly when what it writes unasked is what the row has.** -/
theorem update_frame_iff (hcoll : coll ∈ plan.collections)
    (hnodup : (coll.columns.map (·.name)).Nodup) {id : Uuid} {row : Row Geometry}
    {db db' : Db Geometry} (hrow : db.row? ⟨coll.collectionName, id⟩ = some row) {found : Bool}
    (hrun : run (update gis env coll (some id) feature) db = .ok (found, db')) :
    PatchFrame coll feature ⟨coll.collectionName, id⟩ row db db' ↔
      PatchQuiet env coll feature row := by
  obtain ⟨-, -, ⟨-, -, habsent⟩ | ⟨-, id', vals, links, hid, hrewrote⟩⟩ :=
    ends_writeExisting_exact db found db' hrun
  · rw [habsent id rfl] at hrow
    cases hrow
  cases hid
  let ref : Ref := ⟨coll.collectionName, id⟩
  obtain ⟨hrows, hlinks⟩ := links_of_patch hcoll hrewrote.validated hrewrote.writes
  obtain ⟨hgeometry, hcolumns, -⟩ := partialValues_ok hnodup hrewrote.values
  have hrow' : db'.row? ref = some (row.assign vals env.now) := by
    rw [hrows, row?_assign, if_pos rfl, hrow]
    rfl
  have hother : ∀ r, r ≠ ref → db'.row? r = db.row? r := by
    intro r hr
    rw [hrows, row?_assign, if_neg hr]
  have hgeometryIff : ((hasKey feature "geometry").holds = false →
      (row.assign vals env.now).geometry = row.geometry) ↔
        (coll.derived = none ∨ (hasKey feature "geometry").holds = true ∨ row.geometry = none) := by
    show (_ → vals.geometry.getD row.geometry = row.geometry) ↔ _
    cases hnamed : (hasKey feature "geometry").holds with
    | true => simp
    | false =>
      rw [hnamed, Bool.or_false] at hgeometry
      cases hd : coll.derived with
      | none =>
        rw [hd] at hgeometry
        have hkept : vals.geometry = none := hgeometry
        simp [hkept]
      | some derived =>
        -- a derived collection stores no geometry, named or not
        rw [hd] at hgeometry
        obtain ⟨g, hg, hvalue⟩ := hgeometry
        rw [geometryValue, hd] at hvalue
        cases hvalue
        simp [hg, eq_comm]
  have hcolumnsIff : (∀ name, namesProperty feature name = false →
      (∀ col ∈ coll.columns, col.name = name → col.serverWriteExpr ≠ some .now) →
        (row.assign vals env.now).columns name = row.columns name) ↔
      ∀ col ∈ coll.columns, ∀ path, col.serverWriteExpr = some (.featurePropertyText path) →
        namesProperty feature col.name = false →
          serverWrite env col feature (.featurePropertyText path) = .ok (row.columns col.name) := by
    show (∀ name, _ → _ → (vals.columns.lookup name).getD (row.columns name) = row.columns name) ↔ _
    constructor
    · intro hkept col hcol path hpath hnamed
      obtain ⟨v, hv, hlookup⟩ := hcolumns.server (col, .featurePropertyText path)
        (mem_serverWriteColumns.mpr ⟨hcol, hpath⟩)
      have hsame := hkept col.name hnamed fun col' hcol' hname => by
        rw [List.inj_on_of_nodup_map hnodup hcol' hcol hname, hpath]
        intro h
        cases h
      simp only at hlookup hv
      rw [hlookup, Option.getD_some] at hsame
      rw [hv, hsame]
    · intro hquiet name hnamed hnow
      by_cases hserver : ∃ x ∈ coll.serverWriteColumns, x.1.name = name
      · obtain ⟨⟨col, e⟩, hx, rfl⟩ := hserver
        obtain ⟨hcol, he⟩ := mem_serverWriteColumns.mp hx
        cases e with
        | now => exact absurd he (hnow col hcol rfl)
        | featurePropertyText path =>
          obtain ⟨v, hv, hlookup⟩ := hcolumns.server _ hx
          have hstored := hquiet col hcol path he hnamed
          rw [hv] at hstored
          rw [hlookup, Option.getD_some, Except.ok.inj hstored]
      · rw [hcolumns.other name ?_ fun x hx hname => hserver ⟨x, hx, hname⟩]
        · rfl
        · -- the writable columns that are read are named
          rintro col - hcol rfl
          exact Bool.false_ne_true (hnamed.symm.trans hcol)
  constructor
  · intro h
    obtain ⟨row', hsome, -, hgeo, hcols⟩ := h.row
    cases hrow'.symm.trans hsome
    exact ⟨hgeometryIff.mp hgeo, hcolumnsIff.mp hcols⟩
  · intro h
    refine ⟨⟨_, hrow', rfl, hgeometryIff.mpr h.geometry, hcolumnsIff.mpr h.columns⟩, ?_, hother⟩
    intro l hl
    rw [hlinks l hl, association_assign]

end Frame

/-! ### A dataset of stations -/

namespace Sample

/-- The outward identifier is kept in an object and copied to a column. -/
def stations : CollectionPlan :=
  { collectionName := "stations"
    featureModel := .simple
    geometry := ⟨"Point", 4326, false, false⟩
    columns :=
      [{ name := "identifikasjon", sqlType := "jsonb", stripKeys := ["lokalid"]
         idInjectKey := some "lokalid"
         nestedFields := [.mk "lokalid" "uuid" true true [] []] },
       { name := "navn", sqlType := "text" },
       { name := "lokalid", sqlType := "text"
         serverWriteExpr := some (.featurePropertyText ["identifikasjon", "lokalid"]) }] }

def network : SchemaPlan where
  schemaName := "network"
  collections := [stations]
  names_nodup := by decide
  roles_nodup := by decide
  targets_known := by decide
  derived_declared := by
    intro coll hcoll derived h
    cases List.mem_singleton.mp hcoll
    cases h
  members_not_derived := by
    intro coll hcoll derived h
    cases List.mem_singleton.mp hcoll
    cases h

def stationRow : Row Unit :=
  { geometry := some ()
    columns := fun c => if c = "lokalid" then some (.scalar "text" (Uuid.text 1)) else none
    createdAt := Sample.env.now
    updatedAt := Sample.env.now }

def stationDb : Db Unit := ⟨Finmap.singleton ⟨"stations", 1⟩ stationRow, ∅⟩

/-- A name and the identifier. -/
def renamed : Json :=
  .obj [("properties", .obj [("identifikasjon", .obj [("lokalid", .str (Uuid.text 1))]),
    ("navn", .str "Finse")])]

/-- A name without the identifier. -/
def renamedOnly : Json := .obj [("properties", .obj [("navn", .str "Finse")])]

def tracks : CollectionPlan :=
  { collectionName := "tracks", featureModel := .simple, geometry := ⟨"LineString", 4326, false, false⟩ }

/-- Stations of a type, on tracks. -/
def junctions : CollectionPlan :=
  { stations with
    collectionName := "junctions"
    columns := stations.columns ++
      [{ name := "type", sqlType := "text", codelistValues := ["kryss", "vendespor"] }]
    roles := [⟨"spor", "tracks", "id"⟩] }

def railway : SchemaPlan where
  schemaName := "railway"
  collections := [tracks, junctions]
  names_nodup := by decide
  roles_nodup := by decide
  targets_known := by decide
  derived_declared := by
    intro coll hcoll derived h
    rcases List.mem_pair.mp hcoll with rfl | rfl <;> cases h
  members_not_derived := by
    intro coll hcoll derived h
    rcases List.mem_pair.mp hcoll with rfl | rfl <;> cases h

/-- Two tracks, and a junction on one of them. -/
def junctionDb : Db Unit :=
  ⟨((Finmap.singleton ⟨"junctions", 1⟩ stationRow).insert ⟨"tracks", 3⟩ stationRow).insert
      ⟨"tracks", 4⟩ stationRow,
    {⟨⟨"junctions", 1⟩, "spor", 3⟩}⟩

/-- All of the junction, on the other track. -/
def junction : Json :=
  .obj [("geometry", .obj []), ("properties", .obj
    [("identifikasjon", .obj [("lokalid", .str (Uuid.text 1))]), ("navn", .str "Finse"),
      ("type", .str "kryss"),
      ("spor", .arr [.obj [("featuretype", .str "tracks"), ("id", .str (Uuid.text 4))]])])]

/-- The tables after a PATCH of the station that finds it. -/
def stationPatched (feature : Json) : Option (Db Unit) :=
  match run (update Sample.gis Sample.env stations (some 1) (some feature)) stationDb with
  | .ok (true, db) => some db
  | _ => none

theorem run_of_stationPatched {feature : Json} {db : Db Unit}
    (h : stationPatched feature = some db) :
    run (update Sample.gis Sample.env stations (some 1) (some feature)) stationDb = .ok (true, db) := by
  unfold stationPatched at h
  split at h
  · next hrun =>
    cases h
    exact hrun
  · cases h

end Sample

open Sample in
/-- The identifier goes along, and its copy stays. -/
theorem update_frame_iff_sample : ∃ db, stationPatched renamed = some db ∧
    PatchFrame stations (some renamed) ⟨"stations", 1⟩ stationRow stationDb db := by
  have hfound : (stationPatched renamed).isSome = true := by decide +kernel
  obtain ⟨db, hdb⟩ := Option.isSome_iff_exists.mp hfound
  have hcoll : stations ∈ network.collections := List.mem_singleton.mpr rfl
  refine ⟨db, hdb, (update_frame_iff hcoll (by decide) rfl (run_of_stationPatched hdb)).mpr ?_⟩
  refine ⟨.inl rfl, ?_⟩
  intro col hcol path hpath _
  simp only [stations, List.mem_cons, List.not_mem_nil, or_false] at hcol
  rcases hcol with rfl | rfl | rfl
  · cases hpath
  · cases hpath
  · cases hpath
    rfl

open Sample in
/-- A PATCH of the name alone clears the copy of the identifier. -/
theorem update_not_framed : ∃ db, stationPatched renamedOnly = some db ∧
    ¬ PatchFrame stations (some renamedOnly) ⟨"stations", 1⟩ stationRow stationDb db := by
  have hcleared : ∃ db ∈ stationPatched renamedOnly,
      ((db.row? ⟨"stations", 1⟩).map fun row => (row.columns "lokalid").isNone) = some true := by
    decide +kernel
  obtain ⟨db, hdb, hnull⟩ := hcleared
  refine ⟨db, hdb, fun h => ?_⟩
  obtain ⟨row', hrow', -, -, hkept⟩ := h.row
  have hsame := hkept "lokalid" (by decide +kernel) fun col hcol hname => by
    simp only [stations, List.mem_cons, List.not_mem_nil, or_false] at hcol
    rcases hcol with rfl | rfl | rfl <;> intro h <;> cases h
  rw [hrow'] at hnull
  simp [hsame, stationRow] at hnull

end Geocomponents
