/-
Derived geometry under direct writes.

Only `ogc.transaction` measures footprints.  A direct write to a derived
collection stores NULL, and a direct write to a member or to a link measures
nothing, so a stored geometry is right exactly as long as no derived row has a
member that counts.

* `CountsNothing` — a call makes no member of a derived row count;
* `directWrites_footprints` — every run of such direct writes keeps every derived
  row right.
-/
import Topogdb.Geocomponents.Dispatch
import Topogdb.Geocomponents.FreshFootprints
import Topogdb.Geocomponents.WriteExact

namespace Geocomponents

open Prog Sql

variable {Geometry : Type}

/-! ### What a document links and sets -/

section Document

variable (env : Env) (coll : CollectionPlan) (feature : Option Json)

/-- The document links the property to the row of an id. -/
def NamesTarget (property : String) (id : Uuid) : Prop :=
  ∃ role ∈ coll.roles, role.property = property ∧
    ∃ elems, arrow (properties feature) property = some (.arr elems) ∧
      ∃ elem ∈ elems, (arrowText env.jsonText (some elem) role.oiLeaf).bind Uuid.uuidIn = some id

/-- What the document gives to a column. -/
def columnValue (col : ColumnPlan) : Except SqlError (Option Datum) :=
  match col.serverWriteExpr with
  | some e => serverWrite env col feature e
  | none => propRead env col feature

/-- The document gives true to a column. -/
def GivesTrue (name : String) : Prop :=
  ∃ col ∈ coll.columns, col.name = name ∧ columnValue env feature col = .ok (some (.bool true))

end Document

/-- The validated links are named by the document. -/
theorem named_of_linkValidation (env : Env) (roles : List CollectionRolePlan)
    (feature : Option Json) (db : Db Geometry) :
    Ends (linkValidation env roles feature) db fun links _ => ∀ x ∈ links, ∀ id ∈ x.2,
      ∃ elems, arrow (properties feature) x.1.property = some (.arr elems) ∧
        ∃ elem ∈ elems,
          (arrowText env.jsonText (some elem) x.1.oiLeaf).bind Uuid.uuidIn = some id := by
  -- the rows of a target are looked up by the identifier that its element names
  have htarget : ∀ (role : CollectionRolePlan) (elem : Json) (db : Db Geometry),
      Ends (linkTarget env role elem) db fun id db' => db' = db ∧
        (arrowText env.jsonText (some elem) role.oiLeaf).bind Uuid.uuidIn = some id := by
    intro role elem db
    refine (ends_ofExcept (Q := fun _ db' => db' = db) fun _ _ => rfl).bind ?_
    rintro _ db' rfl
    cases hid : ((arrowText env.jsonText (some elem) role.oiLeaf).bind Uuid.uuidIn) with
    | none => exact ends_raise
    | some id =>
      refine (ends_select (Q := fun _ db'' => db'' = db') fun _ _ => rfl).bind ?_
      rintro found db'' rfl
      split
      · exact ends_pure ⟨rfl, rfl⟩
      · exact ends_raise
  -- no identifier without an element; a property that is no array has none
  have hids : ∀ role : CollectionRolePlan, Ends (linkIds env feature role) db fun ids db' =>
      db' = db ∧ ∀ id ∈ ids,
        ∃ elems, arrow (properties feature) role.property = some (.arr elems) ∧
          ∃ elem ∈ elems,
            (arrowText env.jsonText (some elem) role.oiLeaf).bind Uuid.uuidIn = some id := by
    intro role
    unfold linkIds
    simp only
    split
    · split
      · exact ends_pure ⟨rfl, fun id hid => absurd hid List.not_mem_nil⟩
      · next elems helems =>
        have hmapM := ends_mapM (P := fun id => ∃ elem ∈ elems,
            (arrowText env.jsonText (some elem) role.oiLeaf).bind Uuid.uuidIn = some id)
          (fun elem helem => (htarget role elem db).mono fun id db' h =>
            ⟨h.1, elem, helem, h.2⟩)
        refine hmapM.bind ?_
        rintro ids db' ⟨rfl, hids⟩
        split
        · exact ends_pure ⟨rfl, fun id hid => ⟨elems, helems, hids id hid⟩⟩
        · exact ends_raise
      · exact ends_raise
    · exact ends_pure ⟨rfl, fun id hid => absurd hid List.not_mem_nil⟩
  have hall : Ends (linkValidation env roles feature) db fun links db' => db' = db ∧
      ∀ x ∈ links, ∀ id ∈ x.2,
        ∃ elems, arrow (properties feature) x.1.property = some (.arr elems) ∧
          ∃ elem ∈ elems,
            (arrowText env.jsonText (some elem) x.1.oiLeaf).bind Uuid.uuidIn = some id := by
    refine ends_mapM (P := fun x : CollectionRolePlan × List Uuid => ∀ id ∈ x.2,
      ∃ elems, arrow (properties feature) x.1.property = some (.arr elems) ∧
        ∃ elem ∈ elems,
          (arrowText env.jsonText (some elem) x.1.oiLeaf).bind Uuid.uuidIn = some id)
      fun role _ => ?_
    refine (hids role).bind ?_
    rintro ids db' ⟨rfl, h⟩
    exact ends_pure ⟨rfl, h⟩
  exact hall.mono fun links db' h => h.2

/-! ### One direct write -/

/-- The columns of a plan as the loader declares them: names are distinct, and a
`when` field is no identity column. -/
structure ColumnsDeclared (plan : SchemaPlan) : Prop where
  distinct : ∀ coll ∈ plan.collections, (coll.columns.map (·.name)).Nodup
  when_not_identity : ∀ coll ∈ plan.collections, ∀ derived, coll.derived = some derived →
    ∀ role ∈ derivedRoles derived, ∀ field, role.whenField = some field →
      ∀ target ∈ plan.collections, target.collectionName = role.targetCollection →
        ∀ col ∈ target.columns, col.name = field → col.autoIncrement = false

/-- What a direct write of `feature` to a row does to what footprints count. -/
structure DirectlyWrote (env : Env) (coll : CollectionPlan) (feature : Option Json) (id : Uuid)
    (db db' : Db Geometry) : Prop where
  rows : ∀ r, r ≠ ⟨coll.collectionName, id⟩ → db'.row? r = db.row? r
  geometry : coll.derived.isSome →
    (db'.row? ⟨coll.collectionName, id⟩).bind (·.geometry) = none
  flag : ∀ field, (∀ col ∈ coll.columns, col.name = field → col.autoIncrement = false) →
    (db'.row? ⟨coll.collectionName, id⟩).any (·.included (some field)) = true →
      GivesTrue env coll feature field ∨
        (db.row? ⟨coll.collectionName, id⟩).any (·.included (some field)) = true
  links : ∀ l ∈ db'.association, l ∈ db.association ∨
    (l.source = ⟨coll.collectionName, id⟩ ∧ NamesTarget env coll feature l.property l.targetId)

section Write

variable {gis : PostGIS Geometry} {env : Env} {plan : SchemaPlan} {coll : CollectionPlan}
  {feature : Option Json}

theorem geometryValue_derived (hd : coll.derived.isSome) :
    geometryValue gis coll feature = .ok none := by
  rw [geometryValue, if_pos hd]

/-- A flag that an assignment turns on is given by the document. -/
theorem included_assign {named : ColumnPlan → Bool} {values : Assignments Geometry}
    (h : AssignsColumns env coll feature named values.columns) {row : Row Geometry} {now : Datum}
    {field : String}
    (hincluded : (row.assign values now).included (some field) = true) :
    GivesTrue env coll feature field ∨ row.included (some field) = true := by
  have hcolumns : (row.assign values now).columns field =
      (values.columns.lookup field).getD (row.columns field) := rfl
  unfold Row.included at hincluded ⊢
  simp only [hcolumns] at hincluded
  -- a flag is written from the document, by the server, or not at all
  by_cases hwritable : ∃ col ∈ coll.writableColumns, named col = true ∧ col.name = field
  · obtain ⟨col, hcol, hnamed, rfl⟩ := hwritable
    obtain ⟨v, hv, hlookup⟩ := h.writable col hcol hnamed
    rw [hlookup, Option.getD_some] at hincluded
    obtain ⟨hmem, -, hnone⟩ := mem_writableColumns.mp hcol
    split at hincluded
    · subst hincluded
      refine .inl ⟨col, hmem, rfl, ?_⟩
      rw [columnValue, hnone]
      exact hv
    · cases hincluded
  by_cases hserver : ∃ x ∈ coll.serverWriteColumns, x.1.name = field
  · obtain ⟨x, hx, rfl⟩ := hserver
    obtain ⟨v, hv, hlookup⟩ := h.server x hx
    rw [hlookup, Option.getD_some] at hincluded
    obtain ⟨hmem, hsome⟩ := mem_serverWriteColumns.mp hx
    split at hincluded
    · subst hincluded
      refine .inl ⟨x.1, hmem, rfl, ?_⟩
      rw [columnValue, hsome]
      exact hv
    · cases hincluded
  · rw [h.other field (fun col hcol hnamed hname => hwritable ⟨col, hcol, hnamed, hname⟩)
      fun x hx hname => hserver ⟨x, hx, hname⟩, Option.getD_none] at hincluded
    exact .inr hincluded

/-- So is a flag of a new row, unless it is an identity column. -/
theorem included_newRow {n : ℕ} {values : Assignments Geometry}
    (h : AssignsColumns env coll feature (fun _ => true) values.columns) {field : String}
    (hidentity : ∀ col ∈ coll.columns, col.name = field → col.autoIncrement = false)
    (hincluded : (newRow env n coll values).included (some field) = true) :
    GivesTrue env coll feature field := by
  rcases included_assign h hincluded with hgives | hdefault
  · exact hgives
  · have hnone : (coll.columns.any fun col => col.name = field && col.autoIncrement) = false := by
      rw [List.any_eq_false]
      intro col hcol
      simp only [Bool.and_eq_true, decide_eq_true_eq, not_and, Bool.not_eq_true]
      exact hidentity col hcol
    simp [Row.included, hnone] at hdefault

/-- The links that a write of validated links may add. -/
theorem named_of_linkedBy {db : Db Geometry} {id : Uuid}
    {links : List (CollectionRolePlan × List Uuid)}
    (hlinks : run (linkValidation env coll.roles feature) db = .ok (links, db)) {l : Link}
    (h : LinkedBy ⟨coll.collectionName, id⟩ links l) :
    l.source = ⟨coll.collectionName, id⟩ ∧
      NamesTarget env coll feature l.property l.targetId := by
  obtain ⟨hsource, x, hx, hproperty, hid⟩ := h
  have hrole := ((ends_linkValidation env coll.roles feature db) links db hlinks).2 x hx
  have hnamed := named_of_linkValidation env coll.roles feature db links db hlinks x hx l.targetId hid
  rw [hproperty]
  exact ⟨hsource, x.1, hrole.1, rfl, hnamed⟩

theorem DirectlyWrote.of_created {n : ℕ} {db db' : Db Geometry} {id : Uuid}
    {vals : Assignments Geometry} {links : List (CollectionRolePlan × List Uuid)}
    (hnodup : (coll.columns.map (·.name)).Nodup)
    (h : Created gis env n coll feature db id vals links db') :
    DirectlyWrote env coll feature id db db' := by
  let ref : Ref := ⟨coll.collectionName, id⟩
  obtain ⟨hframe, -⟩ := linkWrites_frame ref feature links _ () db' h.writes
  obtain ⟨⟨g, hg, hvalue⟩, hcolumns, -⟩ := completeValues_ok hnodup h.values
  have hrow : db'.row? ref = some (newRow env n coll vals) := by
    rw [hframe.rows, row?_insertRow, if_pos rfl]
  refine ⟨fun r hr => ?_, fun hd => ?_, fun field hidentity hincluded => ?_, fun l hl => ?_⟩
  · rw [hframe.rows, row?_insertRow, if_neg hr]
  · rw [geometryValue_derived hd] at hvalue
    cases hvalue
    rw [hrow]
    show vals.geometry.getD none = none
    rw [hg]
    rfl
  · rw [hrow] at hincluded
    exact .inl (included_newRow hcolumns hidentity hincluded)
  · rcases hframe.new l hl with hold | hnew
    · exact .inl hold
    · exact .inr (named_of_linkedBy h.validated hnew)

theorem DirectlyWrote.of_rewrote {db db' : Db Geometry} {id : Uuid}
    {values : Except SqlError (Assignments Geometry)} {vals : Assignments Geometry}
    {named : ColumnPlan → Bool} {links : List (CollectionRolePlan × List Uuid)}
    {writeLinks : Ref → List (CollectionRolePlan × List Uuid) → SqlProg Geometry SqlError Unit}
    (hwrite : ∀ ref links db, Ends (writeLinks ref links) db fun _ db' =>
      LinkFrame ref (LinkedBy ref links) db db')
    (hgeometry : coll.derived.isSome → vals.geometry = some none)
    (hcolumns : AssignsColumns env coll feature named vals.columns)
    (h : Rewrote env coll feature values writeLinks db id vals links db') :
    DirectlyWrote env coll feature id db db' := by
  let ref : Ref := ⟨coll.collectionName, id⟩
  -- the links are written after the row and leave it as it is
  have hframe : LinkFrame ref (LinkedBy ref links) (db.assign ref vals env.now) db' :=
    hwrite ref links _ () db' h.writes
  obtain ⟨row, hrow⟩ := Option.isSome_iff_exists.mp h.present
  have hrow' : db'.row? ref = some (row.assign vals env.now) := by
    rw [hframe.rows, row?_assign, if_pos rfl, hrow]
    rfl
  refine ⟨fun r hr => ?_, fun hd => ?_, fun field _ hincluded => ?_, fun l hl => ?_⟩
  · rw [hframe.rows, row?_assign, if_neg hr]
  · rw [hrow']
    show vals.geometry.getD row.geometry = none
    rw [hgeometry hd]
    rfl
  · rw [hrow'] at hincluded
    rw [hrow]
    exact included_assign hcolumns hincluded
  · rcases hframe.new l hl with hold | hnew
    · exact .inl (association_assign db ref vals env.now ▸ hold)
    · exact .inr (named_of_linkedBy h.validated hnew)

/-- What a direct replace or update has done, if it found the row. -/
def DirectlyWroteIfFound (env : Env) (coll : CollectionPlan) (feature : Option Json)
    (fid : Option Uuid) (db db' : Db Geometry) : Prop :=
  db' = db ∨ ∃ id, fid = some id ∧ DirectlyWrote env coll feature id db db'

theorem ends_create_direct (hnodup : (coll.columns.map (·.name)).Nodup) (db : Db Geometry) :
    Ends (create gis env 0 coll feature) db fun _ db' =>
      DirectlyWrote env coll feature ((givenId env coll feature).getD (env.genRandomUuid 0)) db db' := by
  refine (ends_create_exact 0 feature db).mono ?_
  rintro id db' ⟨vals, links, h⟩
  have hwrote := DirectlyWrote.of_created hnodup h
  rwa [h.id_eq] at hwrote

theorem ends_replace_direct (hnodup : (coll.columns.map (·.name)).Nodup) (fid : Option Uuid)
    (db : Db Geometry) :
    Ends (replace gis env coll fid feature) db fun _ db' =>
      DirectlyWroteIfFound env coll feature fid db db' := by
  refine (ends_writeExisting_exact db).mono ?_
  rintro found db' ⟨-, -, ⟨-, rfl, -⟩ | ⟨-, id, vals, links, rfl, h⟩⟩
  · exact .inl rfl
  · obtain ⟨⟨g, hg, hvalue⟩, hcolumns, -⟩ := completeValues_ok hnodup h.values
    refine .inr ⟨id, rfl, .of_rewrote (fun ref links db => ?_) (fun hd => ?_) hcolumns h⟩
    · refine (deleteLinks_frame ref _ (LinkedBy ref links) db).bind fun _ db₁ h₁ => ?_
      exact (linkWrites_frame ref feature links db₁).mono fun _ db₂ h₂ => h₁.trans h₂.1
    · rw [geometryValue_derived hd] at hvalue
      cases hvalue
      exact hg

theorem ends_update_direct (hnodup : (coll.columns.map (·.name)).Nodup) (fid : Option Uuid)
    (db : Db Geometry) :
    Ends (update gis env coll fid feature) db fun _ db' =>
      DirectlyWroteIfFound env coll feature fid db db' := by
  refine (ends_writeExisting_exact db).mono ?_
  rintro found db' ⟨-, -, ⟨-, rfl, -⟩ | ⟨-, id, vals, links, rfl, h⟩⟩
  · exact .inl rfl
  · obtain ⟨hgeometry, hcolumns, -⟩ := partialValues_ok hnodup h.values
    refine .inr ⟨id, rfl, .of_rewrote
      (fun ref links db => linkWritesPatch_frame ref feature links db) (fun hd => ?_) hcolumns h⟩
    rw [hd, Bool.true_or, if_pos rfl] at hgeometry
    obtain ⟨g, hg, hvalue⟩ := hgeometry
    rw [geometryValue_derived hd] at hvalue
    cases hvalue
    exact hg

theorem ends_upsert_direct (hnodup : (coll.columns.map (·.name)).Nodup) (db : Db Geometry) :
    Ends (upsert gis env 0 coll feature) db fun _ db' =>
      DirectlyWrote env coll feature ((givenId env coll feature).getD (env.genRandomUuid 0)) db db' := by
  refine (ends_upsert_exact 0 feature db).mono ?_
  rintro id db' ⟨vals, h⟩
  rw [← h.id_eq]
  obtain ⟨⟨g, hg, hvalue⟩, hcolumns, -⟩ := completeValues_ok hnodup h.values
  refine ⟨fun r hr => ?_, fun hd => ?_, fun field hidentity hincluded => ?_, fun l hl => ?_⟩
  · rw [h.rows, if_neg hr]
  · rw [geometryValue_derived hd] at hvalue
    cases hvalue
    rw [h.rows, if_pos rfl]
    cases db.row? ⟨coll.collectionName, id⟩ <;>
      · show vals.geometry.getD _ = none
        rw [hg]
        rfl
  · rw [h.rows, if_pos rfl] at hincluded
    -- a new row, or the old one with every column written
    cases hrow : db.row? ⟨coll.collectionName, id⟩ with
    | none =>
      rw [hrow] at hincluded
      exact .inl (included_newRow hcolumns hidentity hincluded)
    | some row =>
      rw [hrow] at hincluded
      exact included_assign hcolumns hincluded
  · exact .inl (h.association ▸ hl)

end Write

/-! ### Members that count -/

/-- The role that a link has in the footprint of its source. -/
def derivedRole? (plan : SchemaPlan) (l : Link) : Option DerivedRolePlan :=
  (plan.collection? l.source.collection).bind fun coll => coll.derived.bind fun derived =>
    (derivedRoles derived).find? fun role => role.property = l.property

/-- Whether the row of an id counts in a role. -/
def counts (db : Db Geometry) (role : DerivedRolePlan) (id : Uuid) : Bool :=
  match role.whenField with
  | none => true
  | some field => (db.row? ⟨role.targetCollection, id⟩).any fun row => row.included (some field)

/-- No member counts, and no derived geometry is stored. -/
structure NothingCounts (plan : SchemaPlan) (db : Db Geometry) : Prop where
  links : ∀ l ∈ db.association, ∀ role, derivedRole? plan l = some role →
    counts db role l.targetId = false
  geometry : ∀ ref coll, plan.collection? ref.collection = some coll → coll.derived.isSome →
    (db.row? ref).bind (·.geometry) = none

/-- Every derived row stores the footprint of its included members, NULL exactly
when there are none. -/
def FootprintsRight (gis : PostGIS Geometry) (plan : SchemaPlan) (db : Db Geometry) : Prop :=
  ∀ ref coll derived row, plan.collection? ref.collection = some coll →
    coll.derived = some derived → db.row? ref = some row →
      ∃ measure, footprintMeasure gis db derived ref = .ok (some measure) ∧
        row.geometry = measure.footprint ∧ (row.geometry = none ↔ measure.included = 0)

theorem nothingCounts_empty (plan : SchemaPlan) :
    NothingCounts plan (Db.empty : Db Geometry) :=
  ⟨fun l hl => absurd hl (Finset.notMem_empty l), fun _ _ _ _ => rfl⟩

section Counting

variable {gis : PostGIS Geometry} {env : Env} {plan : SchemaPlan} {coll : CollectionPlan}
  {feature : Option Json} {db db' : Db Geometry}

theorem NothingCounts.right (h : NothingCounts plan db) : FootprintsRight gis plan db := by
  intro ref coll derived row hcoll hderived hrow
  have hmembers : (footprintMembers db derived ref).filter (·.included) = [] := by
    rw [List.filter_eq_nil_iff]
    intro m hm
    obtain ⟨x, hx, rfl⟩ := List.mem_map.mp hm
    obtain ⟨l, hl, hfind⟩ := List.mem_filterMap.mp hx
    obtain ⟨role, hrole, rfl⟩ := Option.map_eq_some_iff.mp hfind
    obtain ⟨hmem, hsource⟩ := Finset.mem_filter.mp (Ordered.mem_list.mp hl)
    have hderivedRole : derivedRole? plan l = some role := by
      rw [derivedRole?, hsource, hcoll, Option.bind_some, hderived]
      exact hrole
    -- a member that is included would count
    have hcounts := h.links l hmem role hderivedRole
    rw [counts] at hcounts
    cases hwhen : role.whenField with
    | none =>
      rw [hwhen] at hcounts
      cases hcounts
    | some field =>
      rw [hwhen] at hcounts
      simpa [hwhen] using hcounts
  have hgeometry : row.geometry = none := by
    have hnone := h.geometry ref coll hcoll (by rw [hderived]; rfl)
    rwa [hrow] at hnone
  refine ⟨{ members := (footprintMembers db derived ref).length, included := 0 }, ?_, hgeometry,
    iff_of_true hgeometry rfl⟩
  rw [footprintMeasure_eq hrow, measureMembers, hmembers]
  rfl

/-! ### What a call makes count -/

/-- The document names no target that counts. -/
def LinksNothing (env : Env) (db : Db Geometry) (coll : CollectionPlan) (feature : Option Json) :
    Prop :=
  ∀ derived, coll.derived = some derived → ∀ role ∈ derivedRoles derived, ∀ id,
    NamesTarget env coll feature role.property id → counts db role id = false

/-- The document gives true to no `when` field for which the row is a member. -/
def TurnsNothingOn (env : Env) (plan : SchemaPlan) (db : Db Geometry) (coll : CollectionPlan)
    (feature : Option Json) (id : Uuid) : Prop :=
  ∀ l ∈ db.association, l.targetId = id → ∀ role, derivedRole? plan l = some role →
    role.targetCollection = coll.collectionName → ∀ field, role.whenField = some field →
      ¬ GivesTrue env coll feature field

theorem derivedRole?_cases {l : Link} {role : DerivedRolePlan}
    (h : derivedRole? plan l = some role) :
    ∃ source ∈ plan.collections, source.collectionName = l.source.collection ∧
      ∃ derived, source.derived = some derived ∧ role ∈ derivedRoles derived ∧
        role.property = l.property := by
  obtain ⟨source, hsource, h⟩ := Option.bind_eq_some_iff.mp h
  obtain ⟨derived, hderived, h⟩ := Option.bind_eq_some_iff.mp h
  obtain ⟨hmem, hname⟩ := SchemaPlan.mem_of_collection? hsource
  have hproperty := List.find?_some h
  exact ⟨source, hmem, hname, derived, hderived, List.mem_of_find?_eq_some h,
    of_decide_eq_true hproperty⟩

theorem counts_congr {role : DerivedRolePlan} {id : Uuid}
    (h : db'.row? ⟨role.targetCollection, id⟩ = db.row? ⟨role.targetCollection, id⟩) :
    counts db' role id = counts db role id := by
  unfold counts
  rw [h]

/-- A direct write that makes nothing count: what it links does not, or it links
nothing new. -/
theorem NothingCounts.of_directlyWrote (hcolumns : ColumnsDeclared plan)
    (hcoll : coll ∈ plan.collections) {id : Uuid} (h : NothingCounts plan db)
    (hwrote : DirectlyWrote env coll feature id db db')
    (hlinks : db'.association ⊆ db.association ∨ LinksNothing env db coll feature)
    (hturns : TurnsNothingOn env plan db coll feature id) : NothingCounts plan db' := by
  let ref : Ref := ⟨coll.collectionName, id⟩
  refine ⟨fun l hl role hrole => ?_, fun r coll' hcoll' hd => ?_⟩
  · obtain ⟨source, hsource, hname, derived, hderived, hmem, hproperty⟩ := derivedRole?_cases hrole
    have hcases : l ∈ db.association ∨ (l.source = ref ∧
        NamesTarget env coll feature l.property l.targetId ∧
          LinksNothing env db coll feature) := by
      rcases hlinks with hsub | hlinks
      · exact .inl (hsub hl)
      · exact (hwrote.links l hl).imp_right fun hnew => ⟨hnew.1, hnew.2, hlinks⟩
    rcases hcases with hold | ⟨hsourceRef, hnamed, hlinks⟩
    · -- a link that was there: only the flag of its target may change
      have hbefore := h.links l hold role hrole
      by_cases htarget : (⟨role.targetCollection, l.targetId⟩ : Ref) = ref
      · obtain ⟨hcollection, hid⟩ := Ref.mk.inj htarget
        cases hwhen : role.whenField with
        | none =>
          rw [counts, hwhen] at hbefore
          cases hbefore
        | some field =>
          simp only [counts, hwhen] at hbefore ⊢
          by_contra hafter
          rw [Bool.not_eq_false, htarget] at hafter
          rw [htarget] at hbefore
          have hidentity := hcolumns.when_not_identity source hsource derived hderived role hmem
            field hwhen coll hcoll hcollection.symm
          rcases hwrote.flag field hidentity hafter with hgives | hon
          · exact hturns l hold hid role hrole hcollection field hwhen hgives
          · exact Bool.false_ne_true (hbefore.symm.trans hon)
      · rw [counts_congr (hwrote.rows _ htarget)]
        exact hbefore
    · -- a new link: its target is of another collection, for that is not derived
      have hsame : source = coll := by
        have hnames : source.collectionName = coll.collectionName := by
          rw [hname, hsourceRef]
        have hfound := SchemaPlan.collection?_eq hsource
        rw [hnames, SchemaPlan.collection?_eq hcoll] at hfound
        exact (Option.some.inj hfound).symm
      subst hsame
      have htarget : (⟨role.targetCollection, l.targetId⟩ : Ref) ≠ ref := by
        intro heq
        have hnone := plan.members_not_derived source hsource derived hderived role
          (mem_oneOf_of_mem_derivedRoles hmem) source hsource (congrArg Ref.collection heq).symm
        rw [hderived] at hnone
        cases hnone
      rw [counts_congr (hwrote.rows _ htarget)]
      rw [← hproperty] at hnamed
      exact hlinks derived hderived role hmem l.targetId hnamed
  · by_cases hr : r = ref
    · subst hr
      have hsame : coll' = coll :=
        Option.some.inj (hcoll'.symm.trans (SchemaPlan.collection?_eq hcoll))
      exact hwrote.geometry (hsame ▸ hd)
    · rw [hwrote.rows r hr]
      exact h.geometry r coll' hcoll' hd

/-- A delete makes nothing count. -/
theorem NothingCounts.of_deleted {ref : Ref} (h : NothingCounts plan db)
    (hdeleted : Deleted coll ref db db') : NothingCounts plan db' := by
  refine ⟨fun l hl role hrole => ?_, fun r coll' hcoll' hd => ?_⟩
  · have hbefore := h.links l ((hdeleted.links l).mp hl).1 role hrole
    unfold counts at hbefore ⊢
    cases hwhen : role.whenField with
    | none =>
      rw [hwhen] at hbefore
      cases hbefore
    | some field =>
      simp only [hwhen] at hbefore ⊢
      rw [hdeleted.rows]
      split
      · rfl
      · exact hbefore
  · rw [hdeleted.rows]
    split
    · rfl
    · exact h.geometry r coll' hcoll' hd

end Counting

/-! ### Runs of direct writes -/

/-- A condition on the collection that a direct write goes to, if it is allowed. -/
def OnSimple (plan : SchemaPlan) (collection : String) (P : CollectionPlan → Prop) : Prop :=
  plan.collectionFeatureModel (some collection) ≠ some .topology →
    ∀ coll ∈ plan.collections, coll.collectionName = collection → P coll

/-- The id that a create or an upsert writes to. -/
def writtenId (env : Env) (coll : CollectionPlan) (feature : Option Json) : Uuid :=
  (givenId env coll feature).getD (env.genRandomUuid 0)

/-- A direct write makes no member of a derived row count: it links no target that
counts, and turns no member on. -/
def CountsNothing (plan : SchemaPlan) (db : Db Geometry) : Env × Call → Prop
  | (env, .create collection feature) => OnSimple plan collection fun coll =>
      LinksNothing env db coll feature ∧
        TurnsNothingOn env plan db coll feature (writtenId env coll feature)
  | (env, .replace collection fid feature) => OnSimple plan collection fun coll =>
      ∀ id, fid = some id → LinksNothing env db coll feature ∧
        TurnsNothingOn env plan db coll feature id
  | (env, .update collection fid feature) => OnSimple plan collection fun coll =>
      ∀ id, fid = some id → LinksNothing env db coll feature ∧
        TurnsNothingOn env plan db coll feature id
  | (env, .upsert collection feature) => OnSimple plan collection fun coll =>
      TurnsNothingOn env plan db coll feature (writtenId env coll feature)
  | (_, .delete _ _) => True
  | (_, .transaction _) => True

section Runs

variable {gis : PostGIS Geometry} {deployed : String → Option SchemaPlan} {dataset : String}
  {plan : SchemaPlan} {db db' : Db Geometry}

/-- An upsert writes no link. -/
theorem ends_upsert_unlinked {env : Env} {coll : CollectionPlan} {feature : Option Json}
    (db : Db Geometry) : Ends (upsert gis env 0 coll feature) db fun _ db' =>
      db'.association = db.association := by
  refine (ends_upsert_exact 0 feature db).mono ?_
  rintro id db' ⟨vals, h⟩
  exact h.association

theorem NothingCounts.of_ifFound {env : Env} {coll : CollectionPlan} {feature : Option Json}
    {fid : Option Uuid} (hcolumns : ColumnsDeclared plan) (hcoll : coll ∈ plan.collections)
    (h : NothingCounts plan db) (hwrote : DirectlyWroteIfFound env coll feature fid db db')
    (hcall : ∀ id, fid = some id → LinksNothing env db coll feature ∧
      TurnsNothingOn env plan db coll feature id) : NothingCounts plan db' := by
  rcases hwrote with rfl | ⟨id, hid, hwrote⟩
  · exact h
  · obtain ⟨hlinks, hturns⟩ := hcall id hid
    exact h.of_directlyWrote hcolumns hcoll hwrote (.inr hlinks) hturns

/-- One direct write that makes nothing count. -/
theorem nothingCounts_callStep (hplan : deployed dataset = some plan)
    (hcolumns : ColumnsDeclared plan) {call : Env × Call}
    (hdirect : ∀ document, call.2 ≠ .transaction document) (h : NothingCounts plan db)
    (hcall : CountsNothing plan db call)
    (hstep : callStep gis deployed dataset db call = some db') : NothingCounts plan db' := by
  obtain ⟨env, call⟩ := call
  cases call with
  | create collection feature =>
    cases hstep
    refine writeDispatch_post hplan h fun hmodel coll hmem hname body hbody => ?_
    cases hbody
    obtain ⟨hlinks, hturns⟩ := hcall hmodel coll hmem hname
    exact (ends_create_direct (hcolumns.distinct coll hmem) db).mono fun _ db' hwrote =>
      h.of_directlyWrote hcolumns hmem hwrote (.inr hlinks) hturns
  | replace collection fid feature =>
    cases hstep
    refine writeDispatch_post hplan h fun hmodel coll hmem hname body hbody => ?_
    cases hbody
    exact (ends_replace_direct (hcolumns.distinct coll hmem) fid db).mono fun _ db' hwrote =>
      h.of_ifFound hcolumns hmem hwrote (hcall hmodel coll hmem hname)
  | update collection fid feature =>
    cases hstep
    refine writeDispatch_post hplan h fun hmodel coll hmem hname body hbody => ?_
    cases hbody
    exact (ends_update_direct (hcolumns.distinct coll hmem) fid db).mono fun _ db' hwrote =>
      h.of_ifFound hcolumns hmem hwrote (hcall hmodel coll hmem hname)
  | delete collection fid =>
    cases hstep
    refine writeDispatch_post hplan h fun _ coll hmem hname body hbody => ?_
    cases hbody
    refine (ends_delete fid db).mono ?_
    rintro found db' (⟨-, -, rfl⟩ | ⟨id, -, -, hdeleted⟩)
    · exact h
    · exact h.of_deleted hdeleted
  | upsert collection feature =>
    cases hstep
    refine writeDispatch_post hplan h fun hmodel coll hmem hname body hbody => ?_
    split at hbody
    · cases hbody
      -- an upsert links nothing, so only flags matter
      have hturns := hcall hmodel coll hmem hname
      refine ((ends_upsert_direct (hcolumns.distinct coll hmem) db).and
        (ends_upsert_unlinked db)).mono ?_
      rintro id db' ⟨hwrote, hlinks⟩
      exact h.of_directlyWrote hcolumns hmem hwrote (.inl hlinks.subset) hturns
    · cases hbody
  | transaction document => exact absurd rfl (hdirect document)

end Runs

/-- **Derived geometry under direct writes.**  In every run of direct writes from
the empty tables in which no call that changes them makes a member count, every
derived row is right after every call. -/
theorem directWrites_footprints (gis : PostGIS Geometry) (deployed : String → Option SchemaPlan)
    (dataset : String) (plan : SchemaPlan) (hplan : deployed dataset = some plan)
    (hcolumns : ColumnsDeclared plan) (calls : List (Env × Call))
    (hdirect : ∀ call ∈ calls, ∀ document, call.2 ≠ .transaction document)
    (hcalls : Runs.Along (callStep gis deployed dataset)
      (fun db call db' => db' ≠ db → CountsNothing plan db call) Db.empty calls) :
    Runs.Along (callStep gis deployed dataset) (fun _ _ db' => FootprintsRight gis plan db')
      Db.empty calls := by
  refine hcalls.imp (I := NothingCounts plan) (fun db call hcall db' h hcounts hstep => ?_)
    (nothingCounts_empty plan)
  have hafter : NothingCounts plan db' := by
    by_cases hsame : db' = db
    · exact hsame ▸ h
    · exact nothingCounts_callStep hplan hcolumns (hdirect call hcall) h (hcounts hsame) hstep
  exact ⟨hafter.right, hafter⟩

/-! ### A dataset of borders and plots -/

namespace Sample

/-- A border bounds a plot if its flag says so. -/
def borders : CollectionPlan :=
  { collectionName := "borders"
    featureModel := .simple
    geometry := ⟨"LineString", 4326, false, false⟩
    columns := [{ name := "avgrenser", sqlType := "boolean" }] }

def plots : CollectionPlan :=
  { collectionName := "plots"
    featureModel := .simple
    geometry := ⟨"MultiPolygon", 4326, false, true⟩
    roles := [⟨"grense", "borders", "id"⟩]
    derived := some ⟨"footprint", false, .many, .allowed,
      [[⟨"grense", "borders", some "avgrenser"⟩]]⟩ }

def estates : SchemaPlan where
  schemaName := "estates"
  collections := [borders, plots]
  names_nodup := by decide
  roles_nodup := by decide
  targets_known := by decide
  derived_declared := by
    intro coll hcoll derived h
    simp only [List.mem_cons, List.not_mem_nil, or_false] at hcoll
    rcases hcoll with rfl | rfl
    · cases h
    · cases h
      decide
  members_not_derived := by
    intro coll hcoll derived h role hrole target htarget hname
    simp only [List.mem_cons, List.not_mem_nil, or_false] at hcoll htarget
    rcases hcoll with rfl | rfl
    · cases h
    · cases h
      rcases htarget with rfl | rfl
      · rfl
      · simp only [List.flatten_cons, List.flatten_nil, List.append_nil, List.mem_singleton] at hrole
        subst hrole
        exact absurd hname (by decide)

theorem columnsDeclared_estates : ColumnsDeclared estates where
  distinct := by decide
  when_not_identity := by
    intro coll hcoll derived h role _ field _ target htarget _ col hcol _
    simp only [estates, List.mem_cons, List.not_mem_nil, or_false] at htarget
    rcases htarget with rfl | rfl
    · cases List.mem_singleton.mp hcol
      rfl
    · exact absurd hcol List.not_mem_nil

/-- A server that reads booleans. -/
def booleanEnv : Env :=
  { env with
    cast := fun sqlType text =>
      .ok (if sqlType = "boolean" then .bool (text = "true") else .scalar sqlType text) }

def border (id : Uuid) (avgrenser : Bool) : Json :=
  .obj [("id", .str (Uuid.text id)), ("geometry", .obj []),
    ("properties", .obj [("avgrenser", .bool avgrenser)])]

def plot (id border : Uuid) : Json :=
  .obj [("id", .str (Uuid.text id)), ("geometry", .null), ("properties", .obj
    [("grense", .arr [.obj
      [("featuretype", .str "borders"), ("id", .str (Uuid.text border))]])])]

/-- A border, and a plot on it. -/
def parcelled (avgrenser : Bool) : List (Env × Call) :=
  [(booleanEnv, .create "borders" (some (border 1 avgrenser))),
    (booleanEnv, .create "plots" (some (plot 2 1)))]

/-- A plot that comes with a geometry. -/
def shaped (id border : Uuid) : Json :=
  .obj [("id", .str (Uuid.text id)), ("geometry", .obj []), ("properties", .obj
    [("grense", .arr [.obj
      [("featuretype", .str "borders"), ("id", .str (Uuid.text border))]])])]

/-- A plot on a border that bounds nothing, and one that is refused on a border
that would bound it. -/
def parcelledApart : List (Env × Call) :=
  [(booleanEnv, .create "borders" (some (border 1 false))),
    (booleanEnv, .create "borders" (some (border 3 true))),
    (booleanEnv, .create "plots" (some (plot 2 1))),
    (booleanEnv, .create "plots" (some (shaped 4 3)))]

/-- A border that nothing is linked to makes nothing count. -/
theorem countsNothing_border {db : Db Unit} (hlinks : db.association = ∅) (id : Uuid)
    (avgrenser : Bool) :
    CountsNothing estates db (booleanEnv, .create "borders" (some (border id avgrenser))) := by
  refine fun _ coll hcoll hname => ⟨fun derived hd => ?_, fun l hl => ?_⟩
  · simp only [estates, List.mem_cons, List.not_mem_nil, or_false] at hcoll
    rcases hcoll with rfl | rfl
    · cases hd
    · exact absurd hname (by decide)
  · rw [hlinks] at hl
    exact absurd hl (Finset.notMem_empty l)

/-- A plot whose border has its flag off makes nothing count. -/
theorem countsNothing_plot {db : Db Unit} (hlinks : db.association = ∅) {target : Uuid}
    (hcounts : counts db ⟨"grense", "borders", some "avgrenser"⟩ target = false) (id : Uuid) :
    CountsNothing estates db (booleanEnv, .create "plots" (some (plot id target))) := by
  refine fun _ coll hcoll hname => ⟨fun derived hd role hrole id' hnamed => ?_, fun l hl => ?_⟩
  · simp only [estates, List.mem_cons, List.not_mem_nil, or_false] at hcoll
    rcases hcoll with rfl | rfl
    · cases hd
    · cases hd
      cases List.mem_singleton.mp hrole
      obtain ⟨r, hr, -, elems, helems, elem, helem, hid⟩ := hnamed
      cases List.mem_singleton.mp hr
      cases helems
      cases List.mem_singleton.mp helem
      have hone : Uuid.uuidIn (Uuid.text target) = some id' := hid
      rw [Uuid.uuidIn_text] at hone
      cases hone
      exact hcounts
  · rw [hlinks] at hl
    exact absurd hl (Finset.notMem_empty l)

end Sample

open Sample in
theorem directWrites_footprints_sample :
    Runs.Along (callStep gis (fun _ => some estates) "estates")
      (fun _ _ db' => FootprintsRight gis estates db') Db.empty parcelledApart := by
  refine directWrites_footprints gis (fun _ => some estates) "estates" estates rfl
    columnsDeclared_estates parcelledApart (by simp [parcelledApart]) ?_
  have hfirst : ∀ db ∈ callStep gis (fun _ => some estates) "estates" Db.empty
      (booleanEnv, .create "borders" (some (border 1 false))), db.association = ∅ := by
    decide +kernel
  have hsecond : ∀ db ∈ callStep gis (fun _ => some estates) "estates" Db.empty
      (booleanEnv, .create "borders" (some (border 1 false))),
      ∀ db' ∈ callStep gis (fun _ => some estates) "estates" db
        (booleanEnv, .create "borders" (some (border 3 true))), db'.association = ∅ ∧
          counts db' ⟨"grense", "borders", some "avgrenser"⟩ 1 = false := by
    decide +kernel
  -- the geometry is refused before the tables are looked at
  have hrefused : ∀ db : Db Unit, callStep gis (fun _ => some estates) "estates" db
      (booleanEnv, .create "plots" (some (shaped 4 3))) = some db := fun db => rfl
  refine fun db₁ h₁ => ⟨fun _ => countsNothing_border rfl 1 false, ?_⟩
  refine fun db₂ h₂ => ⟨fun _ => countsNothing_border (hfirst db₁ h₁) 3 true, ?_⟩
  obtain ⟨hlinks, hcounts⟩ := hsecond db₁ h₁ db₂ h₂
  refine fun db₃ h₃ => ⟨fun _ => countsNothing_plot hlinks hcounts 2, ?_⟩
  refine fun db₄ h₄ => ⟨fun hchanged => ?_, trivial⟩
  rw [hrefused db₃, Option.some.injEq] at h₄
  exact absurd h₄.symm hchanged

open Sample in
/-- A plot on a border that bounds it stores no geometry. -/
theorem directWrites_stale : ∃ db, Runs.run (callStep gis (fun _ => some estates) "estates")
    Db.empty (parcelled true) = some db ∧ ¬ FootprintsRight gis estates db := by
  have hplot : ∃ db ∈ Runs.run (callStep gis (fun _ => some estates) "estates") Db.empty
      (parcelled true), ∃ row ∈ db.row? ⟨"plots", 2⟩, row.geometry = none ∧
        ∃ derived ∈ plots.derived, ∃ m ∈ (footprintMeasure gis db derived ⟨"plots", 2⟩).toOption,
          m.map (·.footprint) = some (some ()) := by decide +kernel
  obtain ⟨db, hrun, row, hrow, hnull, derived, hderived, m, hm, hmeasured⟩ := hplot
  refine ⟨db, hrun, fun hright => ?_⟩
  obtain ⟨measure, hmeasure, hstored, -⟩ :=
    hright ⟨"plots", 2⟩ plots derived row rfl hderived hrow
  -- the row has no geometry, and the measure has one
  rw [hmeasure] at hm
  cases hm
  rw [Option.map_some, ← hstored, hnull] at hmeasured
  cases hmeasured

end Geocomponents
