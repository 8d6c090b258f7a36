/-
A transaction looks no further than its document touches.

* `local_transactionBlock` — what the whole call reads, finds and writes depends
  on the touched rows, on their neighbours and on the links between them;
* `Touches.Changed`, `ends_transactionBlock_changed` — what it changes;
* `Apart` — two documents of which one writes nothing that the other one reads;
* `Touches.Changed.unseen` — the call of the second then cannot tell whether that
  of the first has run.
-/
import Topogdb.Geocomponents.FreshFootprints
import Topogdb.Geocomponents.Touches
import Topogdb.Lib.Interleaving

namespace Geocomponents

open Prog

variable {Geometry : Type} {gis : PostGIS Geometry} {env : Env} {x y : Touches}
  {plan : SchemaPlan} {base s t : Db Geometry}

/-! ### Recordsets -/

theorem refOf_of_castRef {collection : String} {id : Option String} {r : Ref}
    (h : castRef collection id = .ok (some r)) : refOf collection id = some r := by
  obtain ⟨fid, hfid, hr⟩ := Except.map_eq_ok.mp h
  exact Except.ok.inj ((castRef_eq (castable_of_castUuid hfid)).symm.trans h)

/-- A row of a recordset comes from a row of the variable. -/
theorem exists_of_mem_recordset {α β : Type} {cast : α → Except SqlError (Option β)}
    {rows : List α} {bs : List β} (h : recordset cast rows = .ok bs) {b : β} (hb : b ∈ bs) :
    ∃ a ∈ rows, cast a = .ok (some b) := by
  obtain ⟨found, hfound, rfl⟩ := Except.map_eq_ok.mp h
  obtain ⟨o, ho, rfl⟩ := List.mem_filterMap.mp hb
  exact (Except.forall₂_of_mapM hfound).exists_of_mem_right ho

/-- A query that starts with a recordset is local if it is local in its rows. -/
theorem recordset_bind_congr {β γ : Type} {refs : Except SqlError (List β)} {P : β → Prop}
    (hrefs : ∀ bs, refs = .ok bs → ∀ b ∈ bs, P b) {f g : List β → Except SqlError γ}
    (hsame : ∀ bs : List β, (∀ b ∈ bs, P b) → f bs = g bs) : refs >>= f = refs >>= g := by
  cases refs with
  | error e => rfl
  | ok bs => exact hsame bs (hrefs bs rfl)

/-! ### Variables -/

/-- The variables name only what the document touches. -/
structure Touches.Known (x : Touches) (plan : SchemaPlan) (base : Db Geometry) (vars : TxVars) :
    Prop where
  touched : ∀ e ∈ vars.touchedFeatures, ∀ r, refOf e.collection e.id = some r → r ∈ x.rows
  dirty : ∀ d ∈ vars.dirtyMemberCurves, ∀ r, refOf d.collection d.id = some r →
    r ∈ x.rows ∪ x.relinked plan base

namespace Touches.Known

variable {vars : TxVars}

theorem nothing : x.Known plan base {} :=
  ⟨fun _ he => absurd he List.not_mem_nil, fun _ hd => absurd hd List.not_mem_nil⟩

theorem touchedRows (h : x.Known plan base vars) {refs : List Ref}
    (hrefs : Geocomponents.touchedRows vars.touchedFeatures = .ok refs) : ∀ r ∈ refs, r ∈ x.rows := by
  intro r hr
  obtain ⟨e, he, hcast⟩ := exists_of_mem_recordset hrefs hr
  exact h.touched e he r (refOf_of_castRef hcast)

theorem deletedRows (h : x.Known plan base vars) {deleted : List (ℕ × Ref)}
    (hdeleted : Geocomponents.deletedRows vars.touchedFeatures = .ok deleted) :
    ∀ r ∈ deleted, r.2 ∈ x.rows := by
  intro r hr
  obtain ⟨e, he, hcast⟩ := exists_of_mem_recordset hdeleted hr
  obtain ⟨ref, href, hr⟩ := Except.map_eq_ok.mp hcast
  obtain ⟨ref, rfl, rfl⟩ := Option.map_eq_some_iff.mp hr
  exact h.touched e (List.mem_of_mem_filter he) ref (refOf_of_castRef href)

theorem dirtyRows (h : x.Known plan base vars) {refs : List Ref}
    (hrefs : Geocomponents.dirtyRows vars.dirtyMemberCurves = .ok refs) :
    ∀ r ∈ refs, r ∈ x.rows ∪ x.relinked plan base := by
  intro r hr
  obtain ⟨d, hd, hcast⟩ := exists_of_mem_recordset hrefs hr
  exact h.dirty d hd r (refOf_of_castRef hcast)

end Touches.Known

/-! ### Items -/

section Items

variable {coll : CollectionPlan}

theorem Touches.Alike.targetsFromSources_eq (h : x.Alike plan base s t) {fid : Option Uuid}
    (hrow : ∀ id, fid = some id → (⟨coll.collectionName, id⟩ : Ref) ∈ x.rows) :
    targetsFromSources plan s coll.collectionName fid.toList =
      targetsFromSources plan t coll.collectionName fid.toList := by
  rw [targetsFromSources, targetsFromSources]
  congr 2
  ext l
  rw [Finset.mem_filter, Finset.mem_filter]
  refine and_congr_left fun hl => h.links_of_source ?_
  have hsource := hrow l.source.id (Option.mem_toList.mp hl.2)
  rwa [← hl.1] at hsource

/-- The targets of a row of the document are looked up in its own links. -/
theorem local_currentTargets {id : Option String}
    (hrow : ∀ u, id.bind Uuid.uuidIn = some u → (⟨coll.collectionName, u⟩ : Ref) ∈ x.rows) :
    LocalTo x plan base (currentTargets plan coll id) fun curves =>
      ∀ d ∈ curves, ∀ r, refOf d.collection d.id = some r → r ∈ x.rows ∪ x.relinked plan base := by
  refine (local_ofExcept (Q := fun fid => fid = id.bind Uuid.uuidIn) ?_).bind ?_
  · intro fid hfid
    exact (Except.ok.inj ((castUuid_eq (castable_of_castUuid hfid)).symm.trans hfid)).symm
  -- the id that was cast is the one the document names
  rintro _ rfl
  refine (local_select (Q := fun targets => ∀ r ∈ targets, r ∈ x.relinked plan base) ?_).bind ?_
  · intro seen s hseen
    refine ⟨by rw [hseen.targetsFromSources_eq hrow], ?_⟩
    rintro _ ⟨⟩ r hr
    rw [List.mem_insertionSort] at hr
    obtain ⟨l, hl, htarget⟩ := List.mem_filterMap.mp hr
    rw [Ordered.mem_list, Finset.mem_filter] at hl
    have hsource := hrow l.source.id (Option.mem_toList.mp hl.2.2)
    rw [← hl.2.1] at hsource
    exact hseen.relinked_of_mem hl.1 hsource htarget
  · intro targets htargets
    refine local_pure fun d hd r hr => ?_
    obtain ⟨r', hr', rfl⟩ := List.mem_map.mp hd
    cases (refOf_text r').symm.trans hr
    exact Finset.mem_union_right _ (htargets _ hr')

/-- What an item names is among what the document touches. -/
structure Touches.Covers (x : Touches) (env : Env) (n : ℕ) (coll : CollectionPlan)
    (action id : Option String) (feature : Option Json) : Prop where
  created : action = some "insert" →
    (⟨coll.collectionName, (givenId env coll feature).getD (env.genRandomUuid n)⟩ : Ref) ∈ x.rows
  found : action ≠ some "insert" → ∀ u, id.bind Uuid.uuidIn = some u →
    (⟨coll.collectionName, u⟩ : Ref) ∈ x.rows
  linked : action ≠ some "delete" → ∀ role ∈ coll.roles, ∀ r ∈ namedRows env feature role,
    r ∈ x.linked

theorem local_writeFound {action : String} {id : Option String}
    (hrow : ∀ u, id.bind Uuid.uuidIn = some u → (⟨coll.collectionName, u⟩ : Ref) ∈ x.rows)
    {write : CollectionPlan → Option Uuid → SqlProg Geometry SqlError Bool}
    (hwrite : ∀ fid, (∀ u, fid = some u → (⟨coll.collectionName, u⟩ : Ref) ∈ x.rows) →
      LocalTo x plan base (write coll fid) fun _ => True) :
    LocalTo x plan base (writeFound coll action id write) fun written =>
      ∀ u, written.1.bind Uuid.uuidIn = some u → (⟨coll.collectionName, u⟩ : Ref) ∈ x.rows := by
  refine (local_ofExcept (Q := fun fid => fid = id.bind Uuid.uuidIn) ?_).bind ?_
  · intro fid hfid
    exact (Except.ok.inj ((castUuid_eq (castable_of_castUuid hfid)).symm.trans hfid)).symm
  rintro _ rfl
  refine (hwrite _ hrow).bind fun wrote _ => ?_
  split
  · exact local_pure hrow
  · exact local_raise

/-- **An item looks no further than its row and the targets of its links.** -/
theorem local_writeItem (hcoll : coll ∈ plan.collections) {n : ℕ} {action id : Option String}
    {feature : Option Json} (hcovers : x.Covers env n coll action id feature) :
    LocalTo x plan base (writeItem gis env n coll action id feature) fun written =>
      ∀ u, written.1.bind Uuid.uuidIn = some u → (⟨coll.collectionName, u⟩ : Ref) ∈ x.rows := by
  unfold writeItem
  split
  · refine (local_create hcoll (hcovers.created rfl) (hcovers.linked (by decide))).bind ?_
    intro u hu
    refine local_pure fun u' hu' => ?_
    cases (Uuid.uuidIn_text u).symm.trans hu'
    exact hu
  · refine local_writeFound (hcovers.found (by decide)) fun fid hrow => ?_
    refine local_writeExisting hrow (hcovers.linked (by decide)) fun u hu links hlinks => ?_
    exact (local_deleteLinks hu).bind fun _ _ => local_linkWrites hcoll hu hlinks
  · refine local_writeFound (hcovers.found (by decide)) fun fid hrow => ?_
    exact local_writeExisting hrow (hcovers.linked (by decide)) fun u hu links hlinks =>
      local_linkWritesPatch hcoll hu hlinks
  · exact local_writeFound (hcovers.found (by decide)) fun fid hrow => local_delete hrow
  · exact local_raise

/-- The items of the document are covered by what it touches. -/
theorem covers_of_item {vars : TxVars} {item : Json × ℕ}
    (hrow : ∀ r, itemRow env plan item = some r → r ∈ x.rows)
    (hlinks : ∀ r ∈ itemLinks env plan item, r ∈ x.linked)
    (hcoll : currentCollection plan (readItem env vars item.1 item.2).currentCollection = .ok coll) :
    x.Covers env item.2 coll (readItem env vars item.1 item.2).currentAction
      (readItem env vars item.1 item.2).currentId
      (readItem env vars item.1 item.2).currentFeature := by
  have hfound : (readItem env {} item.1 item.2).currentCollection.bind plan.collection? = some coll :=
    currentCollection_eq_ok hcoll
  -- what is read of the item does not depend on the other variables
  suffices h : x.Covers env item.2 coll (readItem env {} item.1 item.2).currentAction
      (readItem env {} item.1 item.2).currentId (readItem env {} item.1 item.2).currentFeature from h
  -- an insert names its new row, every other action the row of its id
  refine ⟨fun hinsert => hrow _ ?_, fun hother u hu => hrow _ ?_, fun hother role hrole r hr => ?_⟩
  · rw [itemRow, hfound, Option.bind_some, if_pos hinsert]
    rfl
  · rw [itemRow, hfound, Option.bind_some, if_neg hother]
    exact congrArg (Option.map _) hu
  · refine hlinks r ?_
    rw [itemLinks, if_neg hother, hfound]
    exact List.mem_flatMap.mpr ⟨role, hrole, hr⟩

/-- **A turn of the loop looks no further either, and its variables name nothing
else.** -/
theorem local_transactionItem {vars : TxVars} (hknown : x.Known plan base vars) {item : Json × ℕ}
    (hrow : ∀ r, itemRow env plan item = some r → r ∈ x.rows)
    (hlinks : ∀ r ∈ itemLinks env plan item, r ∈ x.linked) :
    LocalTo x plan base (transactionItem gis env plan vars item) (x.Known plan base) := by
  rw [transactionItem]
  simp only
  refine ((local_ofExcept (Q := fun coll => currentCollection plan
    (readItem env vars item.1 item.2).currentCollection = .ok coll)
    fun coll hcoll => hcoll).mapError _).bind fun coll hcoll => ?_
  have hcovers := covers_of_item hrow hlinks hcoll
  -- the targets before the write
  refine Local.ite_bind (R := fun before => ∀ d ∈ before, ∀ r, refOf d.collection d.id = some r →
    r ∈ x.rows ∪ x.relinked plan base) (fun hother => ?_) (fun _ => ?_) fun before hbefore => ?_
  · exact (local_currentTargets (hcovers.found hother.2)).mapError _
  · exact local_pure fun d hd => absurd hd List.not_mem_nil
  -- the write, and the targets after it
  refine ((local_writeItem (mem_of_currentCollection hcoll) hcovers).mapError _).bind
    fun written hwritten => ?_
  refine Local.ite_bind (R := fun after => ∀ d ∈ after, ∀ r, refOf d.collection d.id = some r →
    r ∈ x.rows ∪ x.relinked plan base) (fun _ => ?_) (fun _ => ?_) fun after hafter => ?_
  · exact (local_currentTargets hwritten).mapError _
  · exact local_pure fun d hd => absurd hd List.not_mem_nil
  -- what the variables gain are the row and its targets
  have hrefOf : ∀ r, refOf coll.collectionName written.1 = some r → r ∈ x.rows := by
    intro r hr
    obtain ⟨u, hu, rfl⟩ := Option.map_eq_some_iff.mp hr
    exact hwritten u hu
  refine local_pure ⟨fun e he r hr => ?_, fun d hd r hr => ?_⟩
  · rcases List.mem_append.mp he with he | he
    · exact hknown.touched e he r hr
    · cases List.mem_singleton.mp he
      exact hrefOf r hr
  · simp only [List.mem_append, List.mem_singleton] at hd
    rcases hd with ((hd | hd) | rfl) | hd
    · exact hknown.dirty d hd r hr
    · exact hbefore d hd r hr
    · exact Finset.mem_union_left _ (hrefOf r hr)
    · exact hafter d hd r hr

end Items

/-! ### Findings -/

theorem footprintStructureVerdict_of_not_derived {r : Ref}
    (h : (plan.collection? r.collection).bind (·.derived) = none) :
    footprintStructureVerdict plan s r = none := by
  rw [footprintStructureVerdict]
  cases hcoll : plan.collection? r.collection with
  | none => rfl
  | some coll =>
    rw [hcoll, Option.bind_some] at h
    simp only [Option.bind_eq_bind, Option.bind_some, h, Option.bind_none]

theorem boundsFinding_of_not_bounded {r : Ref}
    (h : (plan.collection? r.collection).bind (·.bounds) = none) :
    boundsFinding plan s r = none := by
  rw [boundsFinding]
  cases hcoll : plan.collection? r.collection with
  | none => rfl
  | some coll =>
    rw [hcoll, Option.bind_some] at h
    simp only [Option.bind_eq_bind, Option.bind_some, h, Option.bind_none]

namespace Touches.Alike

/-- A link to a row of the document is the same on both sides. -/
theorem links_of_target (h : x.Alike plan base s t) {l : Link} {r : Ref}
    (hr : r ∈ x.checked plan base) (hl : plan.target? l = some r) :
    l ∈ s.association ↔ l ∈ t.association := h.links l (Or.inr ⟨r, hr, hl⟩)

theorem missingFindings_eq (h : x.Alike plan base s t) {deleted : List (ℕ × Ref)}
    (hdeleted : ∀ r ∈ deleted, r.2 ∈ x.rows) :
    missingFindings plan s deleted = missingFindings plan t deleted := by
  have hsources : ∀ collection, sourcesUsing plan s collection
      (idsOf (deleted.map Prod.snd) collection) =
        sourcesUsing plan t collection (idsOf (deleted.map Prod.snd) collection) := by
    intro collection
    rw [sourcesUsing, sourcesUsing]
    congr 1
    ext l
    rw [Finset.mem_filter, Finset.mem_filter]
    refine and_congr_left fun hl => ?_
    obtain ⟨r, hr, hid⟩ := List.mem_map.mp hl.2
    obtain ⟨hr, hcollection⟩ := List.mem_filter.mp hr
    obtain ⟨d, hd, rfl⟩ := List.mem_map.mp hr
    refine h.links_of_target (Finset.mem_union_left _ (hdeleted d hd)) ?_
    rw [SchemaPlan.target?, hl.1, ← hid, ← of_decide_eq_true hcollection]
    rfl
  simp only [missingFindings, hsources]

theorem dirtySurfaces_eq (h : x.Alike plan base s t) {refs : List Ref}
    (hrefs : ∀ r ∈ refs, r ∈ x.rows) : dirtySurfaces plan s refs = dirtySurfaces plan t refs := by
  rw [dirtySurfaces, dirtySurfaces]
  congr 1
  ext r
  rw [mem_reverseSurfaces, mem_reverseSurfaces]
  refine exists_congr fun l => ?_
  constructor
  · rintro ⟨hl, hsource, r', hr', htarget⟩
    exact ⟨(h.links_of_target (Finset.mem_union_left _ (hrefs r' hr')) htarget).mp hl, hsource, r',
      hr', htarget⟩
  · rintro ⟨hl, hsource, r', hr', htarget⟩
    exact ⟨(h.links_of_target (Finset.mem_union_left _ (hrefs r' hr')) htarget).mpr hl, hsource, r',
      hr', htarget⟩

/-- The derived dirty surfaces are rows that the call may write. -/
theorem written_of_dirtySurfaces (h : x.Alike plan base s t) {refs : List Ref}
    (hrefs : ∀ r ∈ refs, r ∈ x.rows) {r : Ref} (hr : r ∈ dirtySurfaces plan t refs)
    (hderived : plan.isDerived r = true) : r ∈ x.written plan base := by
  rcases Finset.mem_union.mp hr with hr | hr
  · exact rows_subset_written (hrefs r (List.mem_toFinset.mp hr))
  · obtain ⟨l, hl, rfl, r', hr', htarget⟩ := mem_reverseSurfaces.mp hr
    have hsees : x.Sees plan base l :=
      Or.inr ⟨r', Finset.mem_union_left _ (hrefs r' hr'), htarget⟩
    rcases h.known l hl hsees with hbase | ⟨hsource, -⟩
    · exact Finset.mem_union_right _
        (mem_surfaces.mpr ⟨l, hbase, hderived, ⟨r', hrefs r' hr', htarget⟩, rfl⟩)
    · exact rows_subset_written hsource

/-- The members of a surface that the call may write are rows that it reads. -/
theorem read_of_member (h : x.Alike plan base s t) {l : Link} (hl : l ∈ t.association)
    (hsource : l.source ∈ x.written plan base) (hderived : plan.isDerived l.source = true) {r : Ref}
    (hr : plan.target? l = some r) : r ∈ x.read plan base := by
  rcases h.known l hl (Or.inl hsource) with hbase | ⟨-, r', hr', htarget⟩
  · exact members_subset_read (mem_targetRows.mpr
      ⟨l, hbase, Finset.mem_filter.mpr ⟨hsource, hderived⟩, hr⟩)
  · cases hr.symm.trans htarget
    exact linked_subset_read hr'

/-- **The structure of a dirty surface is the same on both sides.** -/
theorem structureVerdict_eq (h : x.Alike plan base s t) {refs : List Ref}
    (hrefs : ∀ r ∈ refs, r ∈ x.rows) {r : Ref} (hr : r ∈ dirtySurfaces plan t refs) :
    footprintStructureVerdict plan s r = footprintStructureVerdict plan t r := by
  cases hderived : plan.isDerived r with
  | false =>
    rw [SchemaPlan.isDerived, Option.isSome_eq_false_iff, Option.isNone_iff_eq_none] at hderived
    rw [footprintStructureVerdict_of_not_derived hderived,
      footprintStructureVerdict_of_not_derived hderived]
  | true =>
    have hwritten := h.written_of_dirtySurfaces hrefs hr hderived
    refine footprintStructureVerdict_congr ?_ ?_ ?_
    · rw [h.rows r (written_subset_read hwritten)]
    · exact fun l hl => h.links l (Or.inl (hl ▸ hwritten))
    · rintro l hl rfl m hm
      rw [Db.columns?, Db.columns?, h.rows m (h.read_of_member hl hwritten hderived hm)]

/-- **So are its verdict and its footprint.** -/
theorem geometryVerdict_eq (h : x.Alike plan base s t) {refs : List Ref}
    (hrefs : ∀ r ∈ refs, r ∈ x.rows) {r : Ref} (hr : r ∈ dirtySurfaces plan t refs) :
    footprintGeometryVerdict gis plan s r = footprintGeometryVerdict gis plan t r := by
  cases hderived : plan.isDerived r with
  | false =>
    rw [SchemaPlan.isDerived, Option.isSome_eq_false_iff, Option.isNone_iff_eq_none] at hderived
    rw [footprintGeometryVerdict_of_not_derived hderived,
      footprintGeometryVerdict_of_not_derived hderived]
  | true =>
    have hwritten := h.written_of_dirtySurfaces hrefs hr hderived
    refine footprintGeometryVerdict_congr ?_ ?_ ?_
    · rw [h.rows r (written_subset_read hwritten)]
    · exact fun l hl => h.links l (Or.inl (hl ▸ hwritten))
    · intro coll hcoll hname derived hd m hm
      obtain ⟨hl, hsource, -, htarget⟩ := target?_of_mem_footprintLinks hcoll hname hd hm
      subst hsource
      exact h.rows _ (h.read_of_member hl hwritten hderived htarget)

theorem footprintFindings_eq (h : x.Alike plan base s t) {refs : List Ref}
    (hrefs : ∀ r ∈ refs, r ∈ x.rows) :
    footprintFindings plan s refs = footprintFindings plan t refs := by
  rw [footprintFindings, footprintFindings, h.dirtySurfaces_eq hrefs]
  congr 1
  exact List.filterMap_congr fun r hr => h.structureVerdict_eq hrefs (Ordered.mem_list.mp hr)

/-- **The owners of a dirty row are the same on both sides.** -/
theorem boundsFinding_eq (h : x.Alike plan base s t) {r : Ref}
    (hr : r ∈ x.rows ∪ x.relinked plan base) :
    boundsFinding plan s r = boundsFinding plan t r := by
  cases hbounded : plan.isBounded r with
  | false =>
    rw [SchemaPlan.isBounded, Option.isSome_eq_false_iff, Option.isNone_iff_eq_none] at hbounded
    rw [boundsFinding_of_not_bounded hbounded, boundsFinding_of_not_bounded hbounded]
  | true =>
    have hchecked : r ∈ x.checked plan base := by
      rcases Finset.mem_union.mp hr with hr | hr
      · exact Finset.mem_union_left _ hr
      · exact Finset.mem_union_right _ (Finset.mem_filter.mpr ⟨hr, hbounded⟩)
    refine boundsFinding_congr ?_ fun l hl => h.links_of_target hchecked hl
    rw [Db.columns?, Db.columns?, h.rows r (checked_subset_read hchecked)]

theorem boundsFindings_eq (h : x.Alike plan base s t) {refs : List Ref}
    (hrefs : ∀ r ∈ refs, r ∈ x.rows ∪ x.relinked plan base) :
    boundsFindings plan s refs = boundsFindings plan t refs := by
  rw [Geocomponents.boundsFindings_eq, Geocomponents.boundsFindings_eq]
  refine List.filterMap_congr fun r hr => h.boundsFinding_eq (hrefs r ?_)
  exact List.mem_toFinset.mp (Ordered.mem_list.mp hr)

theorem measureSurfaces_eq (h : x.Alike plan base s t) {refs : List Ref}
    (hrefs : ∀ r ∈ refs, r ∈ x.rows) :
    measureSurfaces gis plan s refs = measureSurfaces gis plan t refs := by
  rw [measureSurfaces, measureSurfaces, h.dirtySurfaces_eq hrefs]
  congr 1
  refine List.mapM_congr_left fun r hr => ?_
  rw [h.geometryVerdict_eq hrefs (Ordered.mem_list.mp hr)]

end Touches.Alike

/-! ### The phases -/

section Phases

variable {vars : TxVars}

/-- The structure phase finds the same on both sides. -/
theorem local_structurePhase (hknown : x.Known plan base vars) :
    LocalTo x plan base (structurePhase plan vars) (x.Known plan base) := by
  rw [structurePhase]
  split
  · exact local_pure hknown
  -- the three findings read links and rows that both sides share
  have hmissing : ∀ s t : Db Geometry, x.Alike plan base s t →
      (deletedRows vars.touchedFeatures >>= fun deleted =>
        Except.ok (missingFindings plan s deleted)) =
      deletedRows vars.touchedFeatures >>= fun deleted =>
        Except.ok (missingFindings plan t deleted) := fun s t h =>
    recordset_bind_congr (fun _ => hknown.deletedRows) fun deleted hdeleted => by
      rw [h.missingFindings_eq hdeleted]
  have hfootprints : ∀ s t : Db Geometry, x.Alike plan base s t →
      (touchedRows vars.touchedFeatures >>= fun refs =>
        Except.ok (footprintFindings plan s refs)) =
      touchedRows vars.touchedFeatures >>= fun refs =>
        Except.ok (footprintFindings plan t refs) := fun s t h =>
    recordset_bind_congr (fun _ => hknown.touchedRows) fun refs hrefs => by
      rw [h.footprintFindings_eq hrefs]
  have hbounds : ∀ s t : Db Geometry, x.Alike plan base s t →
      (dirtyRows vars.dirtyMemberCurves >>= fun refs =>
        Except.ok (boundsFindings plan s refs)) =
      dirtyRows vars.dirtyMemberCurves >>= fun refs =>
        Except.ok (boundsFindings plan t refs) := fun s t h =>
    recordset_bind_congr (fun _ => hknown.dirtyRows) fun refs hrefs => by
      rw [h.boundsFindings_eq hrefs]
  refine ((local_select (Q := fun _ => True) fun seen s h =>
    ⟨hmissing seen s h, fun _ _ => trivial⟩).mapError _).bind fun _ _ => ?_
  refine ((local_select (Q := fun _ => True) fun seen s h =>
    ⟨hfootprints seen s h, fun _ _ => trivial⟩).mapError _).bind fun _ _ => ?_
  refine ((local_select (Q := fun _ => True) fun seen s h =>
    ⟨hbounds seen s h, fun _ _ => trivial⟩).mapError _).bind fun _ _ => ?_
  exact local_pure ⟨hknown.touched, hknown.dirty⟩

/-- A measured surface is a derived dirty one. -/
theorem derived_of_mem_measureSurfaces {refs : List Ref} {measured : List (Measured Geometry)}
    (h : measureSurfaces gis plan s refs = .ok measured) {m : Measured Geometry}
    (hm : m ∈ measured) : m.ref ∈ dirtySurfaces plan s refs ∧ plan.isDerived m.ref = true := by
  obtain ⟨rfl, -⟩ := measureSurfaces_eq_ok h
  obtain ⟨r, hr, hmeasured⟩ := List.mem_filterMap.mp hm
  rw [ref_of_measuredOf hmeasured]
  refine ⟨Ordered.mem_list.mp hr, ?_⟩
  by_contra hnot
  have hnone : (plan.collection? r.collection).bind (·.derived) = none :=
    Option.not_isSome_iff_eq_none.mp hnot
  rw [measuredOf, footprintGeometryVerdict_of_not_derived hnone] at hmeasured
  cases hmeasured

/-- **The geometry phase measures the same and writes to the measured rows.** -/
theorem local_applyDirtyFootprints (hknown : x.Known plan base vars) :
    LocalTo x plan base (applyDirtyFootprints gis plan vars.touchedFeatures) fun _ => True := by
  refine local_query fun seen latest s hseen _ => ⟨?_, fun findings ws hok => ⟨?_, trivial⟩⟩
  · exact recordset_bind_congr (fun _ => hknown.touchedRows) fun refs hrefs => by
      rw [hseen.measureSurfaces_eq hrefs]
  · -- only measured surfaces are written
    obtain ⟨refs, hrefs, hok⟩ := Except.bind_eq_ok.mp hok
    obtain ⟨measured, hmeasured, hok⟩ := Except.bind_eq_ok.mp hok
    have hwritten : ∀ m ∈ measured, m.ref ∈ x.written plan base := fun m hm => by
      obtain ⟨hdirty, hderived⟩ := derived_of_mem_measureSurfaces hmeasured hm
      exact hseen.written_of_dirtySurfaces (hknown.touchedRows hrefs) hdirty hderived
    simp only at hok
    split at hok
    · obtain ⟨writes, hwrites, hok⟩ := Except.bind_eq_ok.mp hok
      cases hok
      obtain ⟨rfl, -⟩ := Except.mapM_eq_ok storeFootprint_eq_ok hwrites
      intro w hw
      obtain ⟨m, hm, rfl⟩ := List.mem_map.mp hw
      exact hwritten m hm
    · cases hok
      exact fun w hw => absurd hw List.not_mem_nil

theorem local_geometryPhase (hknown : x.Known plan base vars) :
    LocalTo x plan base (geometryPhase gis plan vars) fun _ => True := by
  rw [geometryPhase]
  split
  · exact local_pure trivial
  · exact ((local_applyDirtyFootprints hknown).mapError _).bind fun _ _ => local_pure trivial

end Phases

/-! ### The call -/

/-- **A call of `ogc.transaction` looks and writes only where its document
touches.** -/
theorem local_transactionBlock (gis : PostGIS Geometry) (env : Env) (plan : SchemaPlan)
    (document : Option Json) (base : Db Geometry) :
    LocalTo (touches env plan document) plan base (transactionBlock gis env plan document)
      fun _ => True := by
  rw [transactionBlock]
  simp only
  split
  · exact local_raise
  split
  · next items hitems =>
    have hnumbered : numberedItems document = items.zipIdx := by rw [numberedItems, hitems]
    -- the loop over the items carries `Known`, the phases start from it
    refine Local.bind (R := (touches env plan document).Known plan base) ?_ fun vars hknown => ?_
    · refine local_foldlM (fun item hitem vars hknown => ?_) Touches.Known.nothing
      rw [← hnumbered] at hitem
      exact local_transactionItem hknown
        (fun r hr => List.mem_toFinset.mpr (List.mem_filterMap.mpr ⟨item, hitem, hr⟩))
        fun r hr => List.mem_toFinset.mpr (List.mem_flatMap.mpr ⟨item, hitem, hr⟩)
    · refine (local_structurePhase hknown).bind fun vars hknown => ?_
      split
      · exact local_raise
      · refine (local_geometryPhase hknown).bind fun vars _ => ?_
        split
        · exact local_raise
        · exact local_pure trivial
  · exact local_raise

/-! ### What a call changes -/

/-- Nothing changes but the rows that the call may write and the links from the
rows of its document, and a new link is one that the document names. -/
structure Touches.Changed (x : Touches) (plan : SchemaPlan) (base s : Db Geometry) : Prop where
  rows : ∀ r, r ∉ x.written plan base → s.row? r = base.row? r
  links : ∀ l : Link, l.source ∉ x.rows → (l ∈ s.association ↔ l ∈ base.association)
  added : ∀ l ∈ s.association, l ∈ base.association ∨ x.Names plan l

namespace Touches.Changed

theorem refl : x.Changed plan base base :=
  ⟨fun _ _ => rfl, fun _ _ => Iff.rfl, fun _ hl => Or.inl hl⟩

/-- The call sees the changed tables as they are. -/
theorem alike_self (h : x.Changed plan base s) : x.Alike plan base s s :=
  ⟨fun _ _ => rfl, fun _ _ => Iff.rfl, fun l hl _ => h.added l hl⟩

theorem apply (h : x.Changed plan base s) {w : Write Geometry} (hw : x.Writes plan base w) :
    x.Changed plan base (Store.apply w s) := by
  cases w with
  | insertRow ref row =>
    refine ⟨fun r hr => ?_, h.links, h.added⟩
    have hne : r ≠ ref := fun heq => hr (heq ▸ rows_subset_written hw)
    rw [row?_insertRow, if_neg hne, h.rows r hr]
  | updateRow ref set =>
    refine ⟨fun r hr => ?_, fun l hl => ?_, fun l hl => ?_⟩
    · have hne : r ≠ ref := fun heq => hr (heq ▸ hw)
      rw [row?_updateRow, if_neg hne, h.rows r hr]
    · rw [association_updateRow]
      exact h.links l hl
    · rw [association_updateRow] at hl
      exact h.added l hl
  | deleteRow ref =>
    refine ⟨fun r hr => ?_, h.links, h.added⟩
    have hne : r ≠ ref := fun heq => hr (heq ▸ rows_subset_written hw)
    rw [row?_deleteRow, if_neg hne, h.rows r hr]
  | link l' =>
    refine ⟨h.rows, fun l hl => ?_, fun l hl => ?_⟩
    · have hne : l ≠ l' := fun heq => hl (heq ▸ hw.1)
      rw [association_link, Finset.mem_insert, or_iff_right hne]
      exact h.links l hl
    · rw [association_link, Finset.mem_insert] at hl
      rcases hl with rfl | hl
      · exact Or.inr hw
      · exact h.added l hl
  | unlink l' =>
    refine ⟨h.rows, fun l hl => ?_, fun l hl => ?_⟩
    · have hne : l ≠ l' := fun heq => hl (heq ▸ hw)
      rw [association_unlink, Finset.mem_erase, and_iff_right hne]
      exact h.links l hl
    · rw [association_unlink, Finset.mem_erase] at hl
      exact h.added l hl.2

end Touches.Changed

theorem ends_transactionBlock_changed (gis : PostGIS Geometry) (env : Env) (plan : SchemaPlan)
    (document : Option Json) (base : Db Geometry) :
    Ends (transactionBlock gis env plan document) base fun _ s =>
      (touches env plan document).Changed plan base s := by
  have hlocal := local_transactionBlock gis env plan document base
  exact (hlocal.ends (fun s hs => hs.alike_self) (fun w s hw hs => hs.apply hw)
    Touches.Changed.refl).mono fun _ _ h => h.2

/-! ### Documents apart -/

/-- The first document writes no row that the second one reads, and a link that
may come or go with it does not end at a row whose incoming links the second one
reads. -/
structure Apart (plan : SchemaPlan) (base : Db Geometry) (x y : Touches) : Prop where
  rows : Disjoint (x.written plan base) (y.read plan base)
  links : Disjoint (x.relinked plan base) (y.checked plan base)

instance (plan : SchemaPlan) (base : Db Geometry) (x y : Touches) :
    Decidable (Apart plan base x y) :=
  decidable_of_iff (Disjoint (x.written plan base) (y.read plan base) ∧
    Disjoint (x.relinked plan base) (y.checked plan base))
    ⟨fun h => ⟨h.1, h.2⟩, fun h => ⟨h.rows, h.links⟩⟩

/-- A link that the second document sees is none that the first one changes. -/
theorem Touches.Changed.mem_iff_of_sees (h : x.Changed plan base s) (hapart : Apart plan base x y)
    {l : Link} (hsees : y.Sees plan base l) : l ∈ s.association ↔ l ∈ base.association := by
  by_cases hsource : l.source ∈ x.rows
  · rcases hsees with hwritten | ⟨r, hr, htarget⟩
    · exact absurd (Touches.written_subset_read hwritten)
        (Finset.disjoint_left.mp hapart.rows (Touches.rows_subset_written hsource))
    · have hnot : r ∉ x.relinked plan base := Finset.disjoint_right.mp hapart.links hr
      have hbase : l ∉ base.association := fun hl => hnot
        (Finset.mem_union_right _ (mem_targetRows.mpr ⟨l, hl, hsource, htarget⟩))
      refine iff_of_false (fun hl => ?_) hbase
      rcases h.added l hl with hl | ⟨-, r', hr', htarget'⟩
      · exact hbase hl
      · cases htarget.symm.trans htarget'
        exact hnot (Finset.mem_union_left _ hr')
  · exact h.links l hsource

/-- **What the first document changes is not seen by the call of the second.** -/
theorem Touches.Changed.unseen (h : x.Changed plan base s) (hapart : Apart plan base x y) :
    Interleaving.Unseen (y.Alike plan base) (y.Writes plan base) base s := by
  have hknown : ∀ l ∈ s.association, y.Sees plan base l →
      l ∈ base.association ∨ y.Names plan l :=
    fun l hl hsees => Or.inl ((h.mem_iff_of_sees hapart hsees).mp hl)
  refine ⟨⟨fun r hr => ?_, fun l hl => ?_, hknown⟩, ⟨fun _ _ => rfl, fun _ _ => Iff.rfl, hknown⟩,
    fun _ _ _ hw hst => hst.apply hw⟩
  · exact (h.rows r (Finset.disjoint_right.mp hapart.rows hr)).symm
  · exact (h.mem_iff_of_sees hapart hl).symm

end Geocomponents
