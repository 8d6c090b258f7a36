/-
What a transaction document touches.

* `touches` — the rows that the items of a document name, and those that its
  links name;
* `Touches.written`, `Touches.read`, `Touches.checked` — with the links that are
  stored, the rows that the call may write, the rows that it reads, and those
  whose incoming links it reads;
* `Touches.Alike` — tables that are the same as far as the call looks;
* `local_create`, `local_writeExisting`, `local_delete` — the writers of a
  collection look no further.
-/
import Topogdb.Geocomponents.CallWrites
import Topogdb.Geocomponents.Items
import Topogdb.Lib.Locality

namespace Geocomponents

open Prog Sql

variable {Geometry : Type}

/-! ### What a document names -/

/-- The row that an item writes, by its action. -/
def itemRow (env : Env) (plan : SchemaPlan) (x : Json × ℕ) : Option Ref :=
  let vars := readItem env {} x.1 x.2
  (vars.currentCollection.bind plan.collection?).bind fun coll =>
    (if vars.currentAction = some "insert" then
      some ((givenId env coll vars.currentFeature).getD (env.genRandomUuid x.2))
    else vars.currentId.bind Uuid.uuidIn).map fun id => ⟨coll.collectionName, id⟩

/-- The rows that a link property of a feature names. -/
def namedRows (env : Env) (feature : Option Json) (role : CollectionRolePlan) : List Ref :=
  match arrow (properties feature) role.property with
  | some (.arr elems) =>
    elems.filterMap fun elem =>
      (namedTarget env role elem).map fun id => ⟨role.targetCollection, id⟩
  | _ => []

/-- The rows that the links of an item name; a delete has none. -/
def itemLinks (env : Env) (plan : SchemaPlan) (x : Json × ℕ) : List Ref :=
  let vars := readItem env {} x.1 x.2
  if vars.currentAction = some "delete" then []
  else
    ((vars.currentCollection.bind plan.collection?).map fun coll =>
      coll.roles.flatMap (namedRows env vars.currentFeature)).getD []

/-- The rows that a document names: as those to write, and as targets of links. -/
structure Touches where
  rows : Finset Ref
  linked : Finset Ref

/-- The items of a document with their numbers. -/
def numberedItems (document : Option Json) : List (Json × ℕ) :=
  match txItems document with
  | .arr items => items.zipIdx
  | _ => []

/-- What a document touches. -/
def touches (env : Env) (plan : SchemaPlan) (document : Option Json) : Touches where
  rows := ((numberedItems document).filterMap (itemRow env plan)).toFinset
  linked := ((numberedItems document).flatMap (itemLinks env plan)).toFinset

/-! ### What a call reads and writes -/

/-- A row with a derived footprint. -/
def SchemaPlan.isDerived (plan : SchemaPlan) (ref : Ref) : Bool :=
  ((plan.collection? ref.collection).bind (·.derived)).isSome

/-- A row with a number of owners. -/
def SchemaPlan.isBounded (plan : SchemaPlan) (ref : Ref) : Bool :=
  ((plan.collection? ref.collection).bind (·.bounds)).isSome

/-- The rows that links from some rows go to. -/
def targetRows (plan : SchemaPlan) (db : Db Geometry) (sources : Finset Ref) : Finset Ref :=
  (db.association.filter fun l => l.source ∈ sources).biUnion fun l => (plan.target? l).toFinset

namespace Touches

variable (x : Touches) (plan : SchemaPlan) (db : Db Geometry)

/-- The derived rows with a link to a row to write. -/
def surfaces : Finset Ref :=
  (db.association.filter fun l =>
    plan.isDerived l.source && (plan.target? l).any fun t => t ∈ x.rows).image (·.source)

/-- The rows that the call may write: those it names, and the footprints over them. -/
def written : Finset Ref := x.rows ∪ x.surfaces plan db

/-- The rows to which a link may come or go. -/
def relinked : Finset Ref := x.linked ∪ targetRows plan db x.rows

/-- The members of the footprints that the call measures. -/
def members : Finset Ref :=
  targetRows plan db ((x.written plan db).filter fun r => plan.isDerived r)

/-- The rows whose owners the call counts. -/
def bounded : Finset Ref := (x.relinked plan db).filter fun r => plan.isBounded r

/-- The rows whose incoming links the call reads. -/
def checked : Finset Ref := x.rows ∪ x.bounded plan db

/-- The rows that the call reads. -/
def read : Finset Ref :=
  x.written plan db ∪ x.linked ∪ x.bounded plan db ∪ x.members plan db

end Touches

/-! ### Membership -/

theorem mem_targetRows {plan : SchemaPlan} {db : Db Geometry} {sources : Finset Ref} {r : Ref} :
    r ∈ targetRows plan db sources ↔
      ∃ l ∈ db.association, l.source ∈ sources ∧ plan.target? l = some r := by
  simp only [targetRows, Finset.mem_biUnion, Finset.mem_filter, Option.mem_toFinset,
    Option.mem_def, and_assoc]

namespace Touches

variable {x : Touches} {plan : SchemaPlan} {db : Db Geometry} {r : Ref} {l : Link}

theorem mem_surfaces : r ∈ x.surfaces plan db ↔
    ∃ l ∈ db.association, plan.isDerived l.source = true ∧
      (∃ t ∈ x.rows, plan.target? l = some t) ∧ l.source = r := by
  simp only [surfaces, Finset.mem_image, Finset.mem_filter, Bool.and_eq_true, Option.any_eq_true,
    decide_eq_true_eq, and_assoc]
  refine exists_congr fun l => and_congr_right fun _ => and_congr_right fun _ =>
    and_congr_left fun _ => ?_
  exact exists_congr fun t => and_comm

theorem rows_subset_written : x.rows ⊆ x.written plan db := Finset.subset_union_left

theorem written_subset_read : x.written plan db ⊆ x.read plan db := by
  intro r hr
  simp only [read, Finset.mem_union, hr, true_or]

theorem linked_subset_read : x.linked ⊆ x.read plan db := by
  intro r hr
  simp only [read, Finset.mem_union, hr, true_or, or_true]

theorem members_subset_read : x.members plan db ⊆ x.read plan db := Finset.subset_union_right

theorem rows_subset_read : x.rows ⊆ x.read plan db :=
  rows_subset_written.trans written_subset_read

theorem checked_subset_read : x.checked plan db ⊆ x.read plan db := by
  intro r hr
  rcases Finset.mem_union.mp hr with hr | hr
  · exact rows_subset_read hr
  · simp only [read, Finset.mem_union, hr, true_or, or_true]

end Touches

/-! ### Tables that look the same -/

namespace Touches

variable (x : Touches) (plan : SchemaPlan) (base : Db Geometry)

/-- The call reads the links from the rows that it may write, and those to the
rows that it checks. -/
def Sees (l : Link) : Prop :=
  l.source ∈ x.written plan base ∨ ∃ r ∈ x.checked plan base, plan.target? l = some r

/-- A link that the document names. -/
def Names (l : Link) : Prop := l.source ∈ x.rows ∧ ∃ r ∈ x.linked, plan.target? l = some r

/-- The same rows and links as far as the call looks, where it started on `base`:
every link that it sees is stored there, or the document names it. -/
structure Alike (s t : Db Geometry) : Prop where
  rows : ∀ r ∈ x.read plan base, s.row? r = t.row? r
  links : ∀ l, x.Sees plan base l → (l ∈ s.association ↔ l ∈ t.association)
  known : ∀ l ∈ t.association, x.Sees plan base l → l ∈ base.association ∨ x.Names plan l

/-- The writes that the call may make. -/
def Writes : Write Geometry → Prop
  | .insertRow ref _ => ref ∈ x.rows
  | .updateRow ref _ => ref ∈ x.written plan base
  | .deleteRow ref => ref ∈ x.rows
  | .link l => x.Names plan l
  | .unlink l => l.source ∈ x.rows

variable {x plan base} {s t : Db Geometry}

/-- A row that is the same on both sides stays so. -/
theorem Alike.row?_apply (h : x.Alike plan base s t) {w : Write Geometry}
    (hw : x.Writes plan base w) {r : Ref} (hr : r ∈ x.read plan base) :
    (Store.apply w s).row? r = (Store.apply w t).row? r := by
  cases w with
  | insertRow ref row => rw [row?_insertRow, row?_insertRow, h.rows r hr]
  | updateRow ref set =>
    rw [row?_updateRow, row?_updateRow, h.rows r hr, h.rows ref (written_subset_read hw)]
  | deleteRow ref => rw [row?_deleteRow, row?_deleteRow, h.rows r hr]
  | link l => rw [row?_link, row?_link, h.rows r hr]
  | unlink l => rw [row?_unlink, row?_unlink, h.rows r hr]

/-- **A write of the call keeps the tables alike.** -/
theorem Alike.apply {w : Write Geometry} (hw : x.Writes plan base w) (h : x.Alike plan base s t) :
    x.Alike plan base (Store.apply w s) (Store.apply w t) := by
  -- a write that both sides make keeps them alike, whatever its kind
  refine ⟨fun r hr => h.row?_apply hw hr, ?_, ?_⟩
  · intro l hl
    cases w with
    | insertRow ref row => exact h.links l hl
    | updateRow ref set =>
      rw [association_updateRow, association_updateRow]
      exact h.links l hl
    | deleteRow ref => exact h.links l hl
    | link l' =>
      rw [association_link, association_link, Finset.mem_insert, Finset.mem_insert, h.links l hl]
    | unlink l' =>
      rw [association_unlink, association_unlink, Finset.mem_erase, Finset.mem_erase, h.links l hl]
  · intro l hl hsees
    cases w with
    | insertRow ref row => exact h.known l hl hsees
    | updateRow ref set =>
      rw [association_updateRow] at hl
      exact h.known l hl hsees
    | deleteRow ref => exact h.known l hl hsees
    | link l' =>
      rw [association_link, Finset.mem_insert] at hl
      rcases hl with rfl | hl
      · exact Or.inr hw
      · exact h.known l hl hsees
    | unlink l' =>
      rw [association_unlink, Finset.mem_erase] at hl
      exact h.known l hl.2 hsees

theorem sees_of_source {l : Link} (h : l.source ∈ x.rows) : x.Sees plan base l :=
  Or.inl (rows_subset_written h)

/-- The links from a row of the document are the same on both sides. -/
theorem Alike.links_of_source (h : x.Alike plan base s t) {l : Link} (hl : l.source ∈ x.rows) :
    l ∈ s.association ↔ l ∈ t.association := h.links l (sees_of_source hl)

/-- A row of the document goes only to rows that the call may relink. -/
theorem Alike.relinked_of_mem (h : x.Alike plan base s t) {l : Link} (hl : l ∈ t.association)
    (hsource : l.source ∈ x.rows) {r : Ref} (hr : plan.target? l = some r) :
    r ∈ x.relinked plan base := by
  rcases h.known l hl (sees_of_source hsource) with hbase | ⟨-, r', hr', htarget⟩
  · exact Finset.mem_union_right _ (mem_targetRows.mpr ⟨l, hbase, hsource, hr⟩)
  · cases hr.symm.trans htarget
    exact Finset.mem_union_left _ hr'

end Touches

/-! ### The writers -/

/-- A program that looks only at what the document touches. -/
abbrev LocalTo {ε α : Type} (x : Touches) (plan : SchemaPlan) (base : Db Geometry)
    (p : SqlProg Geometry ε α) (Q : α → Prop) : Prop :=
  Prog.Local (x.Alike plan base) (x.Writes plan base) p Q

section Writers

variable {gis : PostGIS Geometry} {env : Env} {x : Touches} {plan : SchemaPlan}
  {base : Db Geometry} {coll : CollectionPlan} {feature : Option Json}

/-- The validated links of a feature, over the roles of its collection. -/
def ValidLinks (x : Touches) (coll : CollectionPlan)
    (links : List (CollectionRolePlan × List Uuid)) : Prop :=
  ∀ y ∈ links, y.1 ∈ coll.roles ∧ ∀ id ∈ y.2, (⟨y.1.targetCollection, id⟩ : Ref) ∈ x.linked

theorem local_linkTarget {role : CollectionRolePlan} {elem : Json}
    (hlinked : ∀ id, namedTarget env role elem = some id →
      (⟨role.targetCollection, id⟩ : Ref) ∈ x.linked) :
    LocalTo x plan base (linkTarget env role elem) fun id =>
      (⟨role.targetCollection, id⟩ : Ref) ∈ x.linked := by
  rw [linkTarget]
  refine (local_ofExcept (Q := fun _ => namedTarget env role elem =
    (arrowText env.jsonText (some elem) role.oiLeaf).bind Uuid.uuidIn) ?_).bind ?_
  · rintro ⟨⟩ hchecks
    rw [namedTarget, if_neg]
    simpa only [Except.seq_eq_ok, raiseIf_eq_ok, Tri.holds, decide_eq_true_eq, not_or,
      Option.some.injEq, ne_eq] using hchecks
  rintro - hnamed
  rw [hnamed] at hlinked
  split
  · exact local_raise
  · next id hid =>
    have hid := hlinked id hid
    refine (local_select (Q := fun _ => True) fun seen s hseen => ⟨?_, fun _ _ => trivial⟩).bind ?_
    · rw [hseen.rows _ (Touches.linked_subset_read hid)]
    · rintro found -
      split
      · exact local_pure hid
      · exact local_raise

theorem local_linkIds {role : CollectionRolePlan}
    (hlinked : ∀ r ∈ namedRows env feature role, r ∈ x.linked) :
    LocalTo x plan base (linkIds env feature role) fun ids =>
      ∀ id ∈ ids, (⟨role.targetCollection, id⟩ : Ref) ∈ x.linked := by
  rw [linkIds]
  split
  · split
    · exact local_pure fun id hid => absurd hid List.not_mem_nil
    · next elems harray =>
      have helems : ∀ elem ∈ elems, LocalTo x plan base (linkTarget env role elem) fun id =>
          (⟨role.targetCollection, id⟩ : Ref) ∈ x.linked := by
        intro elem helem
        refine local_linkTarget fun id hid => hlinked _ ?_
        rw [namedRows, harray]
        exact List.mem_filterMap.mpr ⟨elem, helem, by rw [hid]; rfl⟩
      refine (local_mapM helems).bind fun ids hids => ?_
      split
      · exact local_pure hids
      · exact local_raise
    · exact local_raise
  · exact local_pure fun id hid => absurd hid List.not_mem_nil

theorem local_linkValidation
    (hlinked : ∀ role ∈ coll.roles, ∀ r ∈ namedRows env feature role, r ∈ x.linked) :
    LocalTo x plan base (linkValidation env coll.roles feature) (ValidLinks x coll) := by
  refine local_mapM fun role hrole => ?_
  exact (local_linkIds (hlinked role hrole)).bind fun ids hids => local_pure ⟨hrole, hids⟩

/-- A validated link of a row of the document is one that the document names. -/
theorem ValidLinks.names (hcoll : coll ∈ plan.collections)
    {links : List (CollectionRolePlan × List Uuid)} (h : ValidLinks x coll links)
    {id : Uuid} (hrow : (⟨coll.collectionName, id⟩ : Ref) ∈ x.rows)
    {y : CollectionRolePlan × List Uuid} (hy : y ∈ links) {target : Uuid} (htarget : target ∈ y.2) :
    x.Names plan ⟨⟨coll.collectionName, id⟩, y.1.property, target⟩ := by
  refine ⟨hrow, _, (h y hy).2 target htarget, ?_⟩
  rw [SchemaPlan.target?, SchemaPlan.targetCollection?_eq hcoll (h y hy).1]
  rfl

theorem local_insertLinks {source : Ref} {property : String} {ids : List Uuid}
    (hrow : source ∈ x.rows) (hnames : ∀ id ∈ ids, x.Names plan ⟨source, property, id⟩) :
    LocalTo x plan base (insertLinks source property ids) fun _ => True := by
  refine local_query fun seen latest s _ hlatest => ?_
  have hsame : ∀ id, ((⟨source, property, id⟩ : Link) ∈ latest.association) =
      ((⟨source, property, id⟩ : Link) ∈ s.association) :=
    fun id => propext (hlatest.links_of_source hrow)
  simp only [hsame, true_and]
  intro _ ws hok
  split at hok
  · cases hok
  · cases hok
    refine ⟨fun w hw => ?_, trivial⟩
    obtain ⟨id, hid, rfl⟩ := List.mem_map.mp hw
    exact hnames id hid

theorem local_deleteLinks {source : Ref} {hasProperty : String → Bool} (hrow : source ∈ x.rows) :
    LocalTo x plan base (deleteLinks source hasProperty) fun _ => True := by
  refine local_query fun seen latest s hseen _ => ?_
  have hsame : seen.association.filter (fun l => l.source = source ∧ hasProperty l.property) =
      s.association.filter fun l => l.source = source ∧ hasProperty l.property := by
    ext l
    rw [Finset.mem_filter, Finset.mem_filter]
    exact and_congr_left fun hl => hseen.links_of_source (hl.1 ▸ hrow)
  refine ⟨by rw [hsame], fun _ ws hok => ?_⟩
  cases hok
  refine ⟨fun w hw => ?_, trivial⟩
  obtain ⟨l, hl, rfl⟩ := List.mem_map.mp hw
  rw [Ordered.mem_list, Finset.mem_filter] at hl
  show l.source ∈ x.rows
  rw [hl.2.1]
  exact hrow

theorem local_linkWrites (hcoll : coll ∈ plan.collections) {id : Uuid}
    (hrow : (⟨coll.collectionName, id⟩ : Ref) ∈ x.rows)
    {links : List (CollectionRolePlan × List Uuid)} (hlinks : ValidLinks x coll links) :
    LocalTo x plan base (linkWrites ⟨coll.collectionName, id⟩ feature links) fun _ => True := by
  refine local_forM fun y hy => ?_
  split
  · exact local_insertLinks hrow fun target htarget => hlinks.names hcoll hrow hy htarget
  · exact local_pure trivial

theorem local_linkWritesPatch (hcoll : coll ∈ plan.collections) {id : Uuid}
    (hrow : (⟨coll.collectionName, id⟩ : Ref) ∈ x.rows)
    {links : List (CollectionRolePlan × List Uuid)} (hlinks : ValidLinks x coll links) :
    LocalTo x plan base (linkWritesPatch ⟨coll.collectionName, id⟩ feature links)
      fun _ => True := by
  refine local_forM fun y hy => ?_
  split
  · refine (local_deleteLinks hrow).bind fun _ _ => ?_
    exact local_insertLinks hrow fun target htarget => hlinks.names hcoll hrow hy htarget
  · exact local_pure trivial

/-- **A create looks only at its row and at the targets of its links.** -/
theorem local_create (hcoll : coll ∈ plan.collections) {n : ℕ}
    (hrow : (⟨coll.collectionName, (givenId env coll feature).getD (env.genRandomUuid n)⟩ : Ref) ∈
      x.rows)
    (hlinked : ∀ role ∈ coll.roles, ∀ r ∈ namedRows env feature role, r ∈ x.linked) :
    LocalTo x plan base (create gis env n coll feature) fun id =>
      (⟨coll.collectionName, id⟩ : Ref) ∈ x.rows := by
  rw [create]
  refine (local_ofExcept (Q := fun _ => True) fun _ _ => trivial).bind fun _ _ => ?_
  refine (local_linkValidation hlinked).bind fun links hlinks => ?_
  refine (local_ofExcept (Q := fun _ => True) fun _ _ => trivial).bind fun _ _ => ?_
  refine Local.bind (R := fun _ => True) (Local.mapError _ (local_query ?_)) fun _ _ => ?_
  · intro seen latest s _ hlatest
    dsimp only
    rw [hlatest.rows _ (Touches.rows_subset_read hrow)]
    refine ⟨rfl, fun _ ws hok => ?_⟩
    obtain ⟨values, -, hok⟩ := Except.bind_eq_ok.mp hok
    split at hok
    · cases hok
    · cases hok
      exact ⟨fun w hw => List.mem_singleton.mp hw ▸ hrow, trivial⟩
  · exact (local_linkWrites hcoll hrow hlinks).bind fun _ _ => local_pure hrow

/-- An update or a delete finds the same row on both sides. -/
theorem Touches.Alike.finds_eq {seen latest s : Db Geometry} (hseen : x.Alike plan base seen s)
    (hlatest : x.Alike plan base latest s) {r : Ref} (hr : r ∈ x.rows) :
    seen.finds latest r = s.finds s r := by
  rw [Db.finds, Db.finds, hseen.rows r (Touches.rows_subset_read hr),
    hlatest.rows r (Touches.rows_subset_read hr)]

theorem local_updateRow {fid : Option Uuid}
    (hrow : ∀ id, fid = some id → (⟨coll.collectionName, id⟩ : Ref) ∈ x.rows)
    {values : Except SqlError (Assignments Geometry)} :
    LocalTo x plan base (updateRow env coll fid values) fun _ => True := by
  refine local_query fun seen latest s hseen hlatest => ?_
  cases fid with
  | none =>
    refine ⟨rfl, fun _ ws hok => ?_⟩
    cases hok
    exact ⟨fun w hw => absurd hw List.not_mem_nil, trivial⟩
  | some id =>
    have hrow := hrow id rfl
    simp only [hseen.finds_eq hlatest hrow, true_and]
    intro _ ws hok
    split at hok
    · obtain ⟨vals, -, hok⟩ := Except.bind_eq_ok.mp hok
      cases hok
      exact ⟨fun w hw => List.mem_singleton.mp hw ▸ Touches.rows_subset_written hrow, trivial⟩
    · cases hok
      exact ⟨fun w hw => absurd hw List.not_mem_nil, trivial⟩

/-- **A replace and an update look only at their row and at the targets of their
links.** -/
theorem local_writeExisting {fid : Option Uuid}
    (hrow : ∀ id, fid = some id → (⟨coll.collectionName, id⟩ : Ref) ∈ x.rows)
    (hlinked : ∀ role ∈ coll.roles, ∀ r ∈ namedRows env feature role, r ∈ x.linked)
    {guarded : Bool} {values : Except SqlError (Assignments Geometry)}
    {writeLinks : Ref → List (CollectionRolePlan × List Uuid) → SqlProg Geometry SqlError Unit}
    (hwrite : ∀ id, (⟨coll.collectionName, id⟩ : Ref) ∈ x.rows → ∀ links, ValidLinks x coll links →
      LocalTo x plan base (writeLinks ⟨coll.collectionName, id⟩ links) fun _ => True) :
    LocalTo x plan base (writeExisting gis env guarded coll fid feature values writeLinks)
      fun _ => True := by
  rw [writeExisting]
  refine (local_ofExcept (Q := fun _ => True) fun _ _ => trivial).bind fun _ _ => ?_
  refine (local_linkValidation hlinked).bind fun links hlinks => ?_
  refine (local_updateRow hrow).bind fun found _ => ?_
  split
  · next id => exact (hwrite id (hrow id rfl) links hlinks).bind fun _ _ => local_pure trivial
  · exact local_pure trivial

/-- **A delete looks only at its row.** -/
theorem local_delete {fid : Option Uuid}
    (hrow : ∀ id, fid = some id → (⟨coll.collectionName, id⟩ : Ref) ∈ x.rows) :
    LocalTo x plan base (delete coll fid) fun _ => True := by
  cases fid with
  | none => exact local_pure trivial
  | some id =>
    have hrow := hrow id rfl
    rw [delete]
    refine Local.ite_bind (R := fun _ => True) (q := Pure.pure ()) (fun _ => local_deleteLinks hrow)
      (fun _ => local_pure trivial) fun _ _ => ?_
    refine local_query fun seen latest s hseen hlatest => ?_
    simp only [hseen.finds_eq hlatest hrow, true_and]
    intro _ ws hok
    split at hok
    · cases hok
      exact ⟨fun w hw => List.mem_singleton.mp hw ▸ hrow, trivial⟩
    · cases hok
      exact ⟨fun w hw => absurd hw List.not_mem_nil, trivial⟩

end Writers

end Geocomponents
