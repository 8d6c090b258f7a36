/-
An upsert as create-or-replace (`geocomponents/schema/functions.py`: `_fn_upsert`
beside `_fn_create` and `_fn_replace`; `descriptions/loader.py`:
`_resolved_upsert_field`).

The row of an upsert is found by its id.  The loader promises more: the path of
the outward identifier, or else a field `lokalid`.

* `run_upsert_eq_ok` — what an upsert checks and writes;
* `createsOrReplaces_iff` — it is an idempotent create-or-replace exactly when its
  id is given and the row with the identifier is the one of that id.
-/
import Topogdb.Geocomponents.OutwardIdentifiers

namespace Geocomponents

open Prog Sql

variable {Geometry : Type}

/-! ### Identifiers of rows -/

/-- Whether a row has the identifier of a document at a path.  A key that shows the
id has it for an identifier; elsewhere a row has what it stores. -/
def SameIdentifier (env : Env) (coll : CollectionPlan) (feature : Option Json) (ref : Ref)
    (row : Row Geometry) : List String → Prop
  | [] => False
  | [column] => ∃ col ∈ coll.columns, col.name = column ∧
      propRead env col feature = .ok (row.columns column)
  | column :: key :: keys =>
    if keys = [] ∧ ∃ col ∈ coll.columns, col.name = column ∧ col.idInjectKey = some key then
      (textAt env feature [column, key]).bind Uuid.uuidIn = some ref.id
    else
      ∃ v, row.columns column = some (.json v) ∧
        (key :: keys).foldl arrow (some v) =
          (column :: key :: keys).foldl arrow (properties feature)

/-- A row of the collection with the upsert identifier of a document. -/
def HasIdentifier (env : Env) (rc : ResolvedCollection) (coll : CollectionPlan)
    (feature : Option Json) (ref : Ref) (row : Row Geometry) : Prop :=
  ref.collection = coll.collectionName ∧ ∃ path, rc.upsertField = some path ∧
    SameIdentifier env coll feature ref row (segments path)

/-- What an accepted upsert is to be, from a state `db` to a state `db₁`. -/
structure CreatesOrReplaces (gis : PostGIS Geometry) (env : Env) (n : ℕ) (rc : ResolvedCollection)
    (coll : CollectionPlan) (feature : Option Json) (db : Db Geometry) (id : Uuid)
    (db₁ : Db Geometry) : Prop where
  /-- It is accepted again. -/
  accepted : ∀ n', ∃ id' db', run (upsert gis env n' coll feature) db₁ = .ok (id', db')
  /-- Again, also at a later time, it is the same row. -/
  again : ∀ (env' : Env) (n' : ℕ) (id' : Uuid) (db' : Db Geometry),
    env'.jsonText = env.jsonText → run (upsert gis env' n' coll feature) db₁ = .ok (id', db') →
      id' = id ∧ ∀ r, (db'.row? r).isSome = (db₁.row? r).isSome
  creates : (∀ r row, db.row? r = some row → ¬ HasIdentifier env rc coll feature r row) →
    ∃ db', run (create gis env n coll feature) db = .ok (id, db') ∧
      db'.row? ⟨coll.collectionName, id⟩ = db₁.row? ⟨coll.collectionName, id⟩
  replaces : ∀ r row, db.row? r = some row → HasIdentifier env rc coll feature r row →
    r.id = id ∧
      (∃ vals, completeValues gis env coll feature = .ok vals ∧
        db₁.row? r = some (row.assign vals env.now)) ∧
      ∀ db', run (replace gis env coll (some id) feature) db = .ok (true, db') →
        db'.row? r = db₁.row? r
  others : ∀ r, r ≠ ⟨coll.collectionName, id⟩ → db₁.row? r = db.row? r
  association : db₁.association = db.association

/-- The document gives the id, and the row with its identifier is the one of that id. -/
def IdentifiesById (env : Env) (rc : ResolvedCollection) (coll : CollectionPlan)
    (feature : Option Json) (db : Db Geometry) : Prop :=
  ∃ u, givenId env coll feature = some u ∧ ∀ r row, db.row? r = some row →
    (HasIdentifier env rc coll feature r row ↔ r = ⟨coll.collectionName, u⟩)

/-! ### Runs -/

section Run

variable {gis : PostGIS Geometry} {env : Env} {n : ℕ} {coll : CollectionPlan}
  {feature : Option Json} {db db₁ : Db Geometry} {id : Uuid}

/-- The checks of an upsert. -/
structure UpsertChecked (gis : PostGIS Geometry) (env : Env) (coll : CollectionPlan)
    (feature : Option Json) : Prop where
  links : linkUpsertGuards coll.roles feature = .ok ()
  ids : idChecks env coll feature = .ok ()
  guards : guardBlock gis env coll false feature = .ok ()
  identified : coll.oiColumn.isSome = true → (givenId env coll feature).isSome = true
  agrees : idsDisagree env coll feature = .ok ()

/-- The write of an upsert. -/
def upsertWrite (env : Env) (n : ℕ) (coll : CollectionPlan) (vals : Assignments Geometry)
    (id : Uuid) (db : Db Geometry) : Write Geometry :=
  if (db.row? ⟨coll.collectionName, id⟩).isSome then
    .updateRow ⟨coll.collectionName, id⟩ fun row => row.assign vals env.now
  else .insertRow ⟨coll.collectionName, id⟩ (newRow env n coll vals)

/-- **An upsert that is accepted**: no check looks at the tables. -/
theorem run_upsert_eq_ok {db' : Db Geometry} :
    run (upsert gis env n coll feature) db = .ok (id, db') ↔
      UpsertChecked gis env coll feature ∧ id = (givenId env coll feature).getD (env.genRandomUuid n) ∧
        ∃ vals, completeValues gis env coll feature = .ok vals ∧
          db' = Store.apply (upsertWrite env n coll vals id db) db := by
  rw [upsert, run_bind, run_ofExcept]
  set checks : Except SqlError Unit := do
    linkUpsertGuards coll.roles feature
    idChecks env coll feature
    guardBlock gis env coll false feature
    if coll.oiColumn.isSome && (givenId env coll feature).isNone then
      .error (.p0001 "upsert requires an identifier")
    idsDisagree env coll feature with hchecks
  have hiff : checks = .ok () ↔ UpsertChecked gis env coll feature := by
    rw [hchecks, Except.seq_eq_ok, Except.seq_eq_ok, Except.seq_eq_ok]
    constructor
    · rintro ⟨hlinks, hids, hguards, h⟩
      split at h
      · cases h
      · next hid =>
        refine ⟨hlinks, hids, hguards, fun hoi => ?_, h⟩
        rw [hoi, Bool.true_and, Option.isNone_iff_eq_none] at hid
        exact Option.isSome_iff_ne_none.mpr hid
    · rintro ⟨hlinks, hids, hguards, hidentified, hagrees⟩
      refine ⟨hlinks, hids, hguards, ?_⟩
      split
      · next hid =>
        rw [Bool.and_eq_true, Option.isNone_iff_eq_none] at hid
        have hsome := hidentified hid.1
        rw [hid.2] at hsome
        cases hsome
      · exact hagrees
  cases hok : checks with
  | error e =>
    have hnot : ¬ UpsertChecked gis env coll feature := fun h => by
      rw [hiff.mpr h] at hok
      cases hok
    refine ⟨fun h => ?_, fun h => absurd h.1 hnot⟩
    cases h
  | ok u =>
    have hchecked := hiff.mp hok
    simp only [Except.map, run_query]
    cases hvalues : completeValues gis env coll feature with
    | error e =>
      constructor
      · intro h
        cases h
      · rintro ⟨-, -, vals, h, -⟩
        cases h
    | ok vals =>
      constructor
      · intro h
        cases h
        exact ⟨hchecked, rfl, vals, rfl, rfl⟩
      · rintro ⟨-, rfl, vals', h, rfl⟩
        cases h
        rfl

/-- Unnamed link properties are not looked up. -/
theorem run_linkValidation_unnamed {roles : List CollectionRolePlan}
    (h : ∀ role ∈ roles, (hasKey (properties feature) role.property).holds = false)
    (db : Db Geometry) : run (linkValidation env roles feature) db =
      .ok (roles.map fun role => (role, []), db) := by
  induction roles with
  | nil => rfl
  | cons role roles ih =>
    rw [List.forall_mem_cons] at h
    have hunfold : (linkValidation env (role :: roles) feature :
        SqlProg Geometry SqlError (List (CollectionRolePlan × List Uuid))) =
        (do
          let ids ← linkIds env feature role
          Pure.pure (role, ids)) >>= fun x => linkValidation env roles feature >>= fun xs =>
            Pure.pure (x :: xs) := List.mapM_cons
    have hone : (linkIds env feature role : SqlProg Geometry SqlError (List Uuid)) =
        Pure.pure [] := by
      rw [linkIds, h.1]
      rfl
    rw [hunfold, hone, pure_bind, pure_bind, run_bind, ih h.2]
    rfl

/-- And nothing is written for them. -/
theorem run_linkWrites_unnamed (source : Ref) {links : List (CollectionRolePlan × List Uuid)}
    (h : ∀ x ∈ links, (hasKey (properties feature) x.1.property).holds = false)
    (db : Db Geometry) : run (linkWrites source feature links) db = .ok ((), db) := by
  induction links with
  | nil => rfl
  | cons x links ih =>
    rw [List.forall_mem_cons] at h
    have hunfold : (linkWrites source feature (x :: links) : SqlProg Geometry SqlError Unit) =
        (if (hasKey (properties feature) x.1.property).holds then
          insertLinks source x.1.property x.2 else Pure.pure ()) >>=
            fun _ => linkWrites source feature links := rfl
    rw [hunfold, h.1, if_neg Bool.false_ne_true, pure_bind]
    exact ih h.2

/-- A document that an upsert accepts names no link. -/
theorem UpsertChecked.unnamed (h : UpsertChecked gis env coll feature) :
    ∀ role ∈ coll.roles, (hasKey (properties feature) role.property).holds = false := by
  intro role hrole
  have hnot := raiseIf_eq_ok.mp (Except.forM_ok.mp h.links role hrole)
  rw [Tri.holds, decide_eq_false hnot]

/-- Where an upsert inserts, a create does the same. -/
theorem run_create_of_upsert (h : UpsertChecked gis env coll feature) {vals : Assignments Geometry}
    (hvals : completeValues gis env coll feature = .ok vals)
    (hid : id = (givenId env coll feature).getD (env.genRandomUuid n))
    (habsent : db.row? ⟨coll.collectionName, id⟩ = none) :
    run (create gis env n coll feature) db =
      .ok (id, Store.apply (Write.insertRow ⟨coll.collectionName, id⟩ (newRow env n coll vals)) db) := by
  have hchecks : (do
      idChecks env coll feature
      guardBlock gis env coll false feature : Except SqlError Unit) = .ok () := by
    rw [h.ids]
    exact h.guards
  have hinsert : run (insertRow gis env n coll id feature) db =
      .ok ((), Store.apply (Write.insertRow ⟨coll.collectionName, id⟩ (newRow env n coll vals)) db) := by
    rw [insertRow, run_query, hvals, Except.ok_bind, habsent]
    rfl
  rw [create, hchecks, run_bind, run_ofExcept]
  simp only [Except.map]
  rw [run_bind, run_linkValidation_unnamed h.unnamed]
  simp only
  rw [h.agrees, run_bind, run_ofExcept]
  simp only [Except.map]
  rw [← hid, run_bind, run_mapError, hinsert]
  simp only [Except.mapError]
  rw [run_bind, run_linkWrites_unnamed]
  · rfl
  · intro x hx
    obtain ⟨role, hrole, rfl⟩ := List.mem_map.mp hx
    exact h.unnamed role hrole

/-- The rows after an upsert. -/
theorem row?_upsertWrite (vals : Assignments Geometry) (r : Ref) :
    (Store.apply (upsertWrite env n coll vals id db) db).row? r =
      if r = ⟨coll.collectionName, id⟩ then
        some (((db.row? ⟨coll.collectionName, id⟩).map fun row => row.assign vals env.now).getD
          (newRow env n coll vals))
      else db.row? r := by
  rw [upsertWrite]
  split
  · next hrow =>
    obtain ⟨row, hrow⟩ := Option.isSome_iff_exists.mp hrow
    rw [row?_updateRow, hrow]
    rfl
  · next hrow =>
    rw [row?_insertRow, Option.not_isSome_iff_eq_none.mp hrow]
    rfl

theorem association_upsertWrite (vals : Assignments Geometry) :
    (Store.apply (upsertWrite env n coll vals id db) db).association = db.association := by
  rw [upsertWrite]
  split
  · exact association_updateRow _ _ db
  · rfl

/-- The identifiers are read the same at another time. -/
theorem givenId_congr {env' : Env} (h : env'.jsonText = env.jsonText) :
    givenId env' coll feature = givenId env coll feature := by
  rw [givenId, givenId, featureId, featureId, oiRaw, oiRaw, h]

end Run

/-! ### The result -/

section Result

variable {gis : PostGIS Geometry} {env : Env} {n : ℕ} {rc : ResolvedCollection}
  {coll : CollectionPlan} {feature : Option Json} {db db₁ : Db Geometry} {id : Uuid}

/-- The row of the identifier is the one of the id that the document gives. -/
theorem CreatesOrReplaces.identifiesById
    (h : CreatesOrReplaces gis env n rc coll feature db id db₁)
    (hdrawn : ∃ n', env.genRandomUuid n' ≠ env.genRandomUuid n)
    (hrun : run (upsert gis env n coll feature) db = .ok (id, db₁)) :
    IdentifiesById env rc coll feature db := by
  obtain ⟨hchecked, hid, vals, hvals, hdb₁⟩ := run_upsert_eq_ok.mp hrun
  cases hgiven : givenId env coll feature with
  | none =>
    -- the second call draws another id
    obtain ⟨n', hne⟩ := hdrawn
    obtain ⟨id', db', hrun'⟩ := h.accepted n'
    obtain ⟨-, hid', -⟩ := run_upsert_eq_ok.mp hrun'
    rw [hgiven, Option.getD_none] at hid hid'
    have hsame := (h.again env n' id' db' rfl hrun').1
    rw [hid, hid'] at hsame
    exact absurd hsame hne
  | some u =>
    rw [hgiven, Option.getD_some] at hid
    subst hid
    have hreplaced : ∀ r row, db.row? r = some row → HasIdentifier env rc coll feature r row →
        r = ⟨coll.collectionName, id⟩ := by
      intro r row hrow hhas
      obtain ⟨hsame, -⟩ := h.replaces r row hrow hhas
      exact Ref.ext hhas.1 hsame
    refine ⟨id, hgiven, fun r row hrow => ⟨hreplaced r row hrow, ?_⟩⟩
    rintro rfl
    by_contra hnot
    -- no row has the identifier, so the id would be free
    obtain ⟨db', hcreate, -⟩ := h.creates fun r row' hrow' hhas => by
      obtain rfl := hreplaced r row' hrow' hhas
      rw [hrow] at hrow'
      cases hrow'
      exact hnot hhas
    obtain ⟨_, _, hcreated⟩ := ends_create_exact n feature db id db' hcreate
    rw [hcreated.absent] at hrow
    cases hrow

/-- Such an upsert is an idempotent create-or-replace. -/
theorem IdentifiesById.createsOrReplaces (h : IdentifiesById env rc coll feature db)
    (hrun : run (upsert gis env n coll feature) db = .ok (id, db₁)) :
    CreatesOrReplaces gis env n rc coll feature db id db₁ := by
  obtain ⟨u, hgiven, hrows⟩ := h
  obtain ⟨hchecked, hid, vals, hvals, rfl⟩ := run_upsert_eq_ok.mp hrun
  have hid' := hid
  rw [hgiven, Option.getD_some] at hid
  subst hid
  refine ⟨fun n' => ⟨id, _, run_upsert_eq_ok.mpr ⟨hchecked, by rw [hgiven]; rfl, vals, hvals, rfl⟩⟩,
    ?_, fun hnone => ?_, ?_, fun r hr => ?_, association_upsertWrite vals⟩
  · intro env' n' id' db' htext hrun'
    obtain ⟨-, hid'', vals', -, rfl⟩ := run_upsert_eq_ok.mp hrun'
    rw [givenId_congr htext, hgiven, Option.getD_some] at hid''
    subst hid''
    refine ⟨rfl, fun r => ?_⟩
    rw [row?_upsertWrite]
    split
    · next hr => rw [hr, row?_upsertWrite, if_pos rfl, Option.isSome_some, Option.isSome_some]
    · rfl
  · have habsent : db.row? ⟨coll.collectionName, id⟩ = none := by
      cases hrow : db.row? ⟨coll.collectionName, id⟩ with
      | none => rfl
      | some row => exact absurd ((hrows _ row hrow).mpr rfl) (hnone _ row hrow)
    refine ⟨_, run_create_of_upsert hchecked hvals hid' habsent, ?_⟩
    rw [row?_insertRow, if_pos rfl, row?_upsertWrite, if_pos rfl, habsent]
    rfl
  · intro r row hrow hhas
    obtain rfl := (hrows r row hrow).mp hhas
    have hupserted : (Store.apply (upsertWrite env n coll vals id db) db).row?
        ⟨coll.collectionName, id⟩ = some (row.assign vals env.now) := by
      rw [row?_upsertWrite, if_pos rfl, hrow]
      rfl
    refine ⟨rfl, ⟨vals, hvals, hupserted⟩, fun db' hreplace => ?_⟩
    obtain ⟨-, -, ⟨hfalse, -⟩ | ⟨-, id', vals', links, hid'', hrewrote⟩⟩ :=
      ends_writeExisting_exact db true db' hreplace
    · cases hfalse
    · cases hid''
      obtain rfl : vals' = vals := Except.ok.inj (hrewrote.values.symm.trans hvals)
      have hframe : ∀ ref links db, Ends (do
          linkClearAll ref coll.roles
          linkWrites ref feature links : SqlProg Geometry SqlError Unit) db
          fun _ db' => ∀ r, db'.row? r = db.row? r := by
        intro ref links db
        refine (deleteLinks_frame ref _ (LinkedBy ref links) db).bind fun _ db₁ h₁ => ?_
        refine (linkWrites_frame ref feature links db₁).mono fun _ db₂ h₂ r => ?_
        rw [h₂.1.rows, h₁.rows]
      rw [hupserted, hframe _ _ _ () db' hrewrote.writes, row?_assign, if_pos rfl, hrow]
      rfl
  · rw [row?_upsertWrite, if_neg hr]

/-- An identifier that the plan shows the id at is the id of its row. -/
theorem identifiesById_of_outward {column key path t : String}
    (hoiColumn : coll.oiColumn = some (column, key)) (hpath : rc.upsertField = some path)
    (hsegments : segments path = [column, key])
    (hcarries : textAt env feature [column, key] = some t)
    (hchecked : UpsertChecked gis env coll feature) (db : Db Geometry) :
    IdentifiesById env rc coll feature db := by
  have hoi : oiRaw env coll feature = some t := by
    rw [oiRaw, hoiColumn]
    exact hcarries
  obtain ⟨col, hcol, hfound⟩ := List.exists_of_findSome?_eq_some hoiColumn
  obtain ⟨key', hkey, hnames⟩ := Option.map_eq_some_iff.mp hfound
  obtain ⟨rfl, rfl⟩ := Prod.mk.inj hnames
  -- both identifiers are checked, and agree
  have hids := hchecked.ids
  rw [idChecks, Except.seq_eq_ok, hoiColumn] at hids
  obtain ⟨hidCheck, hoiCheck⟩ := hids
  have huuid : ∀ {text path : String}, uuidCheck (some text) path = .ok () →
      ∃ u, Uuid.uuidIn text = some u := by
    intro text path h
    rw [uuidCheck, raiseIf_eq_ok] at h
    cases hread : Uuid.uuidIn text with
    | some u => exact ⟨u, rfl⟩
    | none => exact absurd (by simp [isNotNull, hread, Tri.and]) h
  rw [hoi] at hoiCheck
  obtain ⟨u, hu⟩ := huuid hoiCheck
  have hgiven : givenId env coll feature = some u := by
    rw [givenId, hoi, Option.bind_some, hu]
    cases hid : featureId env feature with
    | none => rfl
    | some a =>
      have hsame : a = t := by
        have hagrees := hchecked.agrees
        rw [idsDisagree, raiseIf_eq_ok, hid, hoi] at hagrees
        by_contra hne
        exact hagrees (by simp [ne, eq, Tri.not, hne])
      rw [hsame, Option.bind_some, hu]
      rfl
  refine ⟨u, hgiven, fun r row hrow => ?_⟩
  have hsame : SameIdentifier env coll feature r row (segments path) ↔ r.id = u := by
    rw [hsegments, SameIdentifier, if_pos ⟨rfl, col, hcol, rfl, hkey⟩, hcarries, Option.bind_some,
      hu, Option.some.injEq, eq_comm]
  constructor
  · rintro ⟨hcollection, path', hpath', hidentifier⟩
    rw [hpath] at hpath'
    cases hpath'
    exact Ref.ext hcollection (hsame.mp hidentifier)
  · rintro rfl
    exact ⟨rfl, path, hpath, hsame.mpr rfl⟩

end Result

/-- **An upsert is an idempotent create-or-replace exactly when its document gives the
id and the row with the upsert identifier is the one of that id**, for every
description, plan and state. -/
theorem createsOrReplaces_iff (gis : PostGIS Geometry) {env : Env} {n : ℕ}
    (hdrawn : ∃ n', env.genRandomUuid n' ≠ env.genRandomUuid n) (rc : ResolvedCollection)
    {coll : CollectionPlan} {feature : Option Json} {db db₁ : Db Geometry} {id : Uuid}
    (hrun : run (upsert gis env n coll feature) db = .ok (id, db₁)) :
    CreatesOrReplaces gis env n rc coll feature db id db₁ ↔
      IdentifiesById env rc coll feature db :=
  ⟨fun h => h.identifiesById hdrawn hrun, fun h => h.createsOrReplaces hrun⟩

namespace Sample

/-- Signs with a text `lokalid`. -/
def signs : DatasetDef where
  name := ⟨"skiltplan", by decide⟩
  collections := [
    { name := ⟨"skilt", by decide⟩
      bounds := none
      geometry := { type := .point, derived := none, derived_type := no_derived }
      fields := [textField ⟨"lokalid", lokalid_safe⟩]
      serverManaged := []
      bounds_value := no_bounds
      fields_valid := List.forall_mem_singleton.mpr (textField_valid _)
      serverManaged_nodup := List.nodup_nil }]

def skilt : ResolvedCollection :=
  { name := "skilt", featureModel := .simple, geometryType := .point, srid := 4326
    fields := [{ name := "lokalid", sqlType := "text" }]
    relationships := []
    upsertField := some "lokalid" }

def skiltplan : ResolvedDataset := ⟨"skiltplan", [], [skilt]⟩

def sign : CollectionPlan :=
  { collectionName := "skilt", featureModel := .simple
    columns := [{ name := "lokalid", sqlType := "text" }]
    geometry := ⟨"Point", 4326, false, false⟩
    supportsUpsert := true }

/-- A sign that is sent with its local id. -/
def stopSign : Json :=
  .obj [("geometry", .obj []), ("properties", .obj [("lokalid", .str "stopp")])]

/-- A zone by its outward identifier alone. -/
def zoneWithoutId : Json :=
  .obj [("geometry", .obj []), ("properties", .obj
    [("identifikasjon", .obj [("lokalid", .str lower)])])]

theorem draws : ∃ n', env.genRandomUuid n' ≠ env.genRandomUuid 0 := ⟨1, by decide⟩

end Sample

open Sample in
/-- A zone is created, and replaced by its outward identifier. -/
theorem createsOrReplaces_iff_sample : ∃ db₁ db₂,
    run (upsert gis env 0 zone (some (zoneNamed lower lower))) Db.empty = .ok (10, db₁) ∧
      CreatesOrReplaces gis env 0 omrade zone (some (zoneNamed lower lower)) Db.empty 10 db₁ ∧
      (db₁.row? ⟨"omrade", 10⟩).isSome = true ∧
      run (upsert gis env 1 zone (some zoneWithoutId)) db₁ = .ok (10, db₂) ∧
      CreatesOrReplaces gis env 1 omrade zone (some zoneWithoutId) db₁ 10 db₂ := by
  obtain ⟨⟨id, db₁⟩, hok, rfl, hrow, ⟨id', db₂⟩, hok', rfl⟩ :
      ∃ x, run (upsert gis env 0 zone (some (zoneNamed lower lower))) Db.empty = .ok x ∧
        x.1 = 10 ∧ (x.2.row? ⟨"omrade", 10⟩).isSome = true ∧
          ∃ y, run (upsert gis env 1 zone (some zoneWithoutId)) x.2 = .ok y ∧ y.1 = 10 := by
    decide +kernel
  have hsegments : segments "identifikasjon.lokalid" = ["identifikasjon", "lokalid"] := by
    decide +kernel
  have hdrawn : ∃ n', env.genRandomUuid n' ≠ env.genRandomUuid 1 := ⟨0, by decide⟩
  refine ⟨db₁, db₂, hok, (createsOrReplaces_iff gis draws omrade hok).mpr ?_, hrow, hok',
    (createsOrReplaces_iff gis hdrawn omrade hok').mpr ?_⟩
  · exact identifiesById_of_outward rfl rfl hsegments rfl (run_upsert_eq_ok.mp hok).1 Db.empty
  · exact identifiesById_of_outward rfl rfl hsegments rfl (run_upsert_eq_ok.mp hok').1 db₁

open Sample in
/-- A sign sent twice is stored twice. -/
theorem lokalid_duplicates : resolveDataset signs noCommons = .ok skiltplan ∧
    buildSchemaPlan skiltplan = .ok ⟨"skiltplan", [⟨sign, []⟩], []⟩ ∧
    ∃ db₁, run (upsert gis env 0 sign (some stopSign)) Db.empty = .ok (0, db₁) ∧
      ¬ CreatesOrReplaces gis env 0 skilt sign (some stopSign) Db.empty 0 db₁ := by
  refine ⟨rfl, rfl, ?_⟩
  have haccepted : (run (upsert gis env 0 sign (some stopSign)) Db.empty).toOption.map
      (fun x => (x.1, (run (upsert gis env 1 sign (some stopSign)) x.2).toOption.map Prod.fst)) =
        some (0, some 1) := by decide +kernel
  obtain ⟨⟨id, db₁⟩, hrun, hagain⟩ := Option.map_eq_some_iff.mp haccepted
  obtain ⟨rfl, hagain⟩ := Prod.mk.inj hagain
  obtain ⟨⟨id', db'⟩, hrun', rfl⟩ := Option.map_eq_some_iff.mp hagain
  refine ⟨db₁, Except.toOption_eq_some.mp hrun, fun h => ?_⟩
  obtain ⟨hsame, -⟩ := h.again env 1 1 db' rfl (Except.toOption_eq_some.mp hrun')
  exact absurd hsame (by decide)

end Geocomponents
