/-
What the loop over the items of a transaction does.

* `Applied` — what one item does to the tables, by action;
* `ItemRan` — one turn of the loop: the writer it ran and the variables after it;
* `Tracks` — what the variables of the loop know of the changes since its start:
  no row or link outside the touched ones has changed, and the target of every
  link that came or went is dirty;
* `tracks_transactionItems` — every run of the loop keeps track.
-/
import Topogdb.Geocomponents.Transaction
import Topogdb.Geocomponents.WriteSpec

namespace Geocomponents

open Prog

variable {Geometry : Type}

/-! ### References in the variables -/

/-- The row that a collection and a text name. -/
def refOf (collection : String) (id : Option String) : Option Ref :=
  (id.bind Uuid.uuidIn).map fun id => ⟨collection, id⟩

theorem refOf_eq {collection : String} {id : Option String} {u : Uuid}
    (h : id.bind Uuid.uuidIn = some u) : refOf collection id = some ⟨collection, u⟩ := by
  rw [refOf, h]
  rfl

theorem refOf_text (t : Ref) : refOf t.collection (some (Uuid.text t.id)) = some t :=
  refOf_eq (Uuid.uuidIn_text t.id)

/-- NULL, or the text of a uuid. -/
def Castable (id : Option String) : Prop := ∀ s, id = some s → (Uuid.uuidIn s).isSome

theorem castUuid_eq {id : Option String} (h : Castable id) :
    castUuid id = .ok (id.bind Uuid.uuidIn) := by
  cases id with
  | none => rfl
  | some s =>
    obtain ⟨u, hu⟩ := Option.isSome_iff_exists.mp (h s rfl)
    rw [Option.bind_some, castUuid, hu]

theorem castable_of_castUuid {id : Option String} {fid : Option Uuid}
    (h : castUuid id = .ok fid) : Castable id := by
  rintro s rfl
  cases hs : Uuid.uuidIn s with
  | none =>
    rw [castUuid, hs] at h
    cases h
  | some u => rfl

theorem castable_text (id : Uuid) : Castable (some (Uuid.text id)) := by
  rintro _ ⟨⟩
  rw [Uuid.uuidIn_text]
  rfl

theorem castable_of_uuid {id : Option String} {u : Uuid} (h : id.bind Uuid.uuidIn = some u) :
    Castable id := by
  rintro s rfl
  rw [Option.bind_some] at h
  rw [h]
  rfl

theorem castRef_eq {collection : String} {id : Option String} (h : Castable id) :
    castRef collection id = .ok (refOf collection id) := by
  rw [castRef, refOf, castUuid_eq h]
  rfl

theorem recordset_eq {α β : Type} {cast : α → Except SqlError (Option β)} {f : α → Option β}
    {rows : List α} (h : ∀ a ∈ rows, cast a = .ok (f a)) :
    recordset cast rows = .ok (rows.filterMap f) := by
  rw [recordset, Except.mapM_ok h]
  show Except.ok ((rows.map f).filterMap id) = _
  rw [List.filterMap_map]
  rfl

/-- The rows that the items so far wrote. -/
def TxVars.touched (vars : TxVars) : List Ref :=
  vars.touchedFeatures.filterMap fun t => refOf t.collection t.id

/-- The rows that the items so far deleted, each with its item. -/
def TxVars.deleted (vars : TxVars) : List (ℕ × Ref) :=
  (vars.touchedFeatures.filter fun t => t.action = some "delete").filterMap fun t =>
    (refOf t.collection t.id).map fun ref => (t.itemIndex, ref)

/-- The rows whose bounds the items so far may have changed. -/
def TxVars.dirty (vars : TxVars) : List Ref :=
  vars.dirtyMemberCurves.filterMap fun d => refOf d.collection d.id

/-! ### One item -/

/-- What an item does to the row `ref`, by its action. -/
inductive Applied (plan : SchemaPlan) (coll : CollectionPlan) (ref : Ref) (db db' : Db Geometry) :
    Option String → ItemStatus → Prop where
  | insert (habsent : db.row? ref = none) (hwrote : Wrote plan ref db db')
      (hgrows : db.association ⊆ db'.association) : Applied plan coll ref db db' (some "insert") .created
  | replace (hpresent : (db.row? ref).isSome) (hwrote : Wrote plan ref db db') :
      Applied plan coll ref db db' (some "replace") .updated
  | update (hpresent : (db.row? ref).isSome) (hwrote : Wrote plan ref db db') :
      Applied plan coll ref db db' (some "update") .updated
  | delete (hpresent : (db.row? ref).isSome) (hdeleted : Deleted coll ref db db') :
      Applied plan coll ref db db' (some "delete") .deleted

namespace Applied

variable {plan : SchemaPlan} {coll : CollectionPlan} {ref : Ref} {db db' : Db Geometry}
  {action : Option String} {status : ItemStatus}

theorem rows (h : Applied plan coll ref db db' action status) {r : Ref} (hr : r ≠ ref) :
    db'.row? r = db.row? r := by
  cases h with
  | insert _ hwrote _ => exact hwrote.rows r hr
  | replace _ hwrote => exact hwrote.rows r hr
  | update _ hwrote => exact hwrote.rows r hr
  | delete _ hdeleted => rw [hdeleted.rows, if_neg hr]

theorem links (h : Applied plan coll ref db db' action status) {l : Link} (hl : l.source ≠ ref) :
    l ∈ db'.association ↔ l ∈ db.association := by
  cases h with
  | insert _ hwrote _ => exact hwrote.kept l hl
  | replace _ hwrote => exact hwrote.kept l hl
  | update _ hwrote => exact hwrote.kept l hl
  | delete _ hdeleted =>
    rw [hdeleted.links]
    exact and_iff_left fun h => hl h.2

/-- An item that is not an insert names its row, and only such an item drops a
link. -/
theorem of_dropped (h : Applied plan coll ref db db' action status) {l : Link}
    (hl : l ∈ db.association) (hl' : l ∉ db'.association) :
    action ≠ none ∧ action ≠ some "insert" := by
  cases h with
  | insert _ _ hgrows => exact absurd (hgrows hl) hl'
  | replace => decide
  | update => decide
  | delete => decide

/-- A delete adds no link. -/
theorem of_added (h : Applied plan coll ref db db' action status) {l : Link}
    (hl : l ∉ db.association) (hl' : l ∈ db'.association) : action ≠ some "delete" := by
  cases h with
  | insert => decide
  | replace => decide
  | update => decide
  | delete _ hdeleted => exact absurd ((hdeleted.links l).mp hl').1 hl

end Applied

section Item

variable (gis : PostGIS Geometry) (env : Env) {plan : SchemaPlan} {coll : CollectionPlan}

theorem ends_writeFound (action : String) (id : Option String) (db : Db Geometry)
    {write : CollectionPlan → Option Uuid → SqlProg Geometry SqlError Bool}
    {Q : Option Uuid → Bool → Db Geometry → Prop}
    (hwrite : ∀ fid, Ends (write coll fid) db (Q fid)) :
    Ends (writeFound coll action id write) db fun written db' =>
      written.1 = id ∧ written.2 = (if action = "delete" then .deleted else .updated) ∧
        Q (id.bind Uuid.uuidIn) true db' := by
  refine (ends_ofExcept (Q := fun fid db' => db' = db ∧ fid = id.bind Uuid.uuidIn) ?_).bind ?_
  · intro fid hfid
    have := (castUuid_eq (castable_of_castUuid hfid)).symm.trans hfid
    exact ⟨rfl, (Except.ok.inj this).symm⟩
  · rintro _ db ⟨rfl, rfl⟩
    refine (hwrite _).bind fun wrote db' hQ => ?_
    cases wrote with
    | true => exact ends_pure ⟨rfl, rfl, hQ⟩
    | false => exact ends_raise

/-- **Every item that applies does what its action says.** -/
theorem ends_writeItem (hcoll : coll ∈ plan.collections) (n : ℕ) (action id : Option String)
    (feature : Option Json) (db : Db Geometry) :
    Ends (writeItem gis env n coll action id feature) db fun written db' =>
      ∃ u, written.1.bind Uuid.uuidIn = some u ∧ (action ≠ some "insert" → written.1 = id) ∧
        Applied plan coll ⟨coll.collectionName, u⟩ db db' action written.2 := by
  unfold writeItem
  split
  · refine (ends_create gis env hcoll n feature db).bind ?_
    rintro u db' ⟨habsent, hwrote, hgrows⟩
    refine ends_pure ⟨u, Uuid.uuidIn_text u, fun h => absurd rfl h, ?_⟩
    exact .insert habsent hwrote hgrows
  · refine (ends_writeFound "replace" id db fun fid => ends_replace gis env hcoll fid feature db).mono ?_
    rintro ⟨_, _⟩ db' ⟨rfl, rfl, ⟨⟨⟩, -⟩ | ⟨-, u, hu, hpresent, hwrote⟩⟩
    exact ⟨u, hu, fun _ => rfl, .replace hpresent hwrote⟩
  · refine (ends_writeFound "update" id db fun fid => ends_update gis env hcoll fid feature db).mono ?_
    rintro ⟨_, _⟩ db' ⟨rfl, rfl, ⟨⟨⟩, -⟩ | ⟨-, u, hu, hpresent, hwrote⟩⟩
    exact ⟨u, hu, fun _ => rfl, .update hpresent hwrote⟩
  · refine (ends_writeFound "delete" id db fun fid => ends_delete fid db).mono ?_
    rintro ⟨_, _⟩ db' ⟨rfl, rfl, ⟨-, ⟨⟩, -⟩ | ⟨u, hu, hpresent, hdeleted⟩⟩
    exact ⟨u, hu, fun _ => rfl, .delete hpresent.symm hdeleted⟩
  · exact ends_raise

/-! ### One turn of the loop -/

theorem currentCollection_eq_ok {name : Option String} (h : currentCollection plan name = .ok coll) :
    name.bind plan.collection? = some coll := by
  rw [currentCollection] at h
  split at h
  · next c hc =>
    cases h
    exact hc
  · cases h

theorem mem_of_currentCollection {name : Option String} (h : currentCollection plan name = .ok coll) :
    coll ∈ plan.collections := by
  obtain ⟨name, -, hname⟩ := Option.bind_eq_some_iff.mp (currentCollection_eq_ok h)
  exact (SchemaPlan.mem_of_collection? hname).1

theorem name_of_currentCollection {name : Option String}
    (h : currentCollection plan name = .ok coll) : name = some coll.collectionName := by
  obtain ⟨name, rfl, hname⟩ := Option.bind_eq_some_iff.mp (currentCollection_eq_ok h)
  rw [(SchemaPlan.mem_of_collection? hname).2]

/-- The dirty rows that `currentTargets` answers. -/
def targetCurves (plan : SchemaPlan) (db : Db Geometry) (collection : String)
    (id : Option String) : List DirtyCurve :=
  ((targetsFromSources plan db collection (id.bind Uuid.uuidIn).toList).insertionSort (· ≤ ·)).map
    fun r => ⟨r.collection, some (Uuid.text r.id)⟩

theorem ends_currentTargets (id : Option String) (db : Db Geometry) :
    Ends (currentTargets plan coll id) db fun curves db' =>
      db' = db ∧ curves = targetCurves plan db coll.collectionName id := by
  refine (ends_ofExcept (Q := fun fid db' => db' = db ∧ fid = id.bind Uuid.uuidIn) ?_).bind ?_
  · intro fid hfid
    have := (castUuid_eq (castable_of_castUuid hfid)).symm.trans hfid
    exact ⟨rfl, (Except.ok.inj this).symm⟩
  · rintro _ db ⟨rfl, rfl⟩
    refine (ends_select (Q := fun targets db' => db' = db ∧ targets =
      (targetsFromSources plan db coll.collectionName
        (id.bind Uuid.uuidIn).toList).insertionSort (· ≤ ·)) ?_).bind ?_
    · rintro _ ⟨⟩
      exact ⟨rfl, rfl⟩
    · rintro _ db ⟨rfl, rfl⟩
      exact ends_pure ⟨rfl, rfl⟩

/-- The rows marked dirty before the item: those that the row links to, unless
the item is an insert. -/
def beforeCurves (plan : SchemaPlan) (coll : CollectionPlan) (db : Db Geometry)
    (action id : Option String) : List DirtyCurve :=
  if action ≠ none ∧ action ≠ some "insert" then targetCurves plan db coll.collectionName id
  else []

/-- The rows marked dirty after the item, unless it is a delete. -/
def afterCurves (plan : SchemaPlan) (coll : CollectionPlan) (db : Db Geometry)
    (action id : Option String) : List DirtyCurve :=
  if action ≠ some "delete" then targetCurves plan db coll.collectionName id else []

/-- One turn of the loop ran the writer of its item and noted what it did. -/
structure ItemRan (gis : PostGIS Geometry) (env : Env) (plan : SchemaPlan) (x : Json × ℕ)
    (coll : CollectionPlan) (written : Option String × ItemStatus) (vars : TxVars)
    (db : Db Geometry) (vars' : TxVars) (db' : Db Geometry) : Prop where
  collection : currentCollection plan (readItem env vars x.1 x.2).currentCollection = .ok coll
  writer : run (writeItem gis env x.2 coll (readItem env vars x.1 x.2).currentAction
    (readItem env vars x.1 x.2).currentId (readItem env vars x.1 x.2).currentFeature) db
      = .ok (written, db')
  vars_eq : vars' = { readItem env vars x.1 x.2 with
    currentId := written.1
    reportItems := vars.reportItems ++
      [{ index := x.2
         action := (readItem env vars x.1 x.2).currentAction
         collection := (readItem env vars x.1 x.2).currentCollection
         id := written.1
         status := written.2 }]
    touchedFeatures := vars.touchedFeatures ++
      [⟨x.2, (readItem env vars x.1 x.2).currentAction, coll.collectionName, written.1⟩]
    dirtyMemberCurves := vars.dirtyMemberCurves ++
      beforeCurves plan coll db (readItem env vars x.1 x.2).currentAction
        (readItem env vars x.1 x.2).currentId ++ [⟨coll.collectionName, written.1⟩] ++
      afterCurves plan coll db' (readItem env vars x.1 x.2).currentAction written.1 }

theorem ends_transactionItem (plan : SchemaPlan) (vars : TxVars) (x : Json × ℕ)
    (db : Db Geometry) :
    Ends (transactionItem gis env plan vars x) db fun vars' db' =>
      ∃ coll written, ItemRan gis env plan x coll written vars db vars' db' := by
  rw [transactionItem]
  simp only
  refine ((ends_ofExcept (Q := fun coll db' => db' = db ∧
    currentCollection plan (readItem env vars x.1 x.2).currentCollection = .ok coll)
    fun coll hcoll => ⟨rfl, hcoll⟩).mapError _).bind ?_
  rintro coll db ⟨rfl, hcoll⟩
  refine Ends.ite_bind (R := fun before db' => db' = db ∧ before =
    beforeCurves plan coll db (readItem env vars x.1 x.2).currentAction
      (readItem env vars x.1 x.2).currentId) (fun h => ?_) (fun h => ?_) ?_
  · rw [beforeCurves, if_pos h]
    exact (ends_currentTargets _ db).mapError _
  · rw [beforeCurves, if_neg h]
    exact ends_pure ⟨rfl, rfl⟩
  rintro before db ⟨rfl, rfl⟩
  refine ((ends_run _ db).mapError _).bind fun written db' hwriter => ?_
  refine Ends.ite_bind (R := fun after db'' => db'' = db' ∧ after =
    afterCurves plan coll db' (readItem env vars x.1 x.2).currentAction written.1)
    (fun h => ?_) (fun h => ?_) ?_
  · rw [afterCurves, if_pos h]
    exact (ends_currentTargets _ db').mapError _
  · rw [afterCurves, if_neg h]
    exact ends_pure ⟨rfl, rfl⟩
  rintro after db' ⟨rfl, rfl⟩
  exact ends_pure ⟨coll, written, hcoll, hwriter, rfl⟩

end Item

/-! ### Keeping track of the changes -/

theorem mem_targetsFromSources {plan : SchemaPlan} {db : Db Geometry} {collection : String}
    {id : Uuid} {t : Ref} :
    t ∈ targetsFromSources plan db collection [id] ↔
      ∃ l ∈ db.association, l.source = ⟨collection, id⟩ ∧ plan.target? l = some t := by
  simp only [targetsFromSources, List.mem_filterMap, Ordered.mem_list, Finset.mem_filter,
    List.mem_singleton, and_assoc, Ref.ext_iff]

/-- A target of the row is among its dirty rows. -/
theorem mem_targetCurves {plan : SchemaPlan} {db : Db Geometry} {collection : String}
    {id : Option String} {u : Uuid} (hid : id.bind Uuid.uuidIn = some u) {l : Link}
    (hl : l ∈ db.association) (hsource : l.source = ⟨collection, u⟩) {t : Ref}
    (ht : plan.target? l = some t) :
    (⟨t.collection, some (Uuid.text t.id)⟩ : DirtyCurve) ∈ targetCurves plan db collection id := by
  rw [targetCurves, hid, List.mem_map]
  refine ⟨t, ?_, rfl⟩
  rw [List.mem_insertionSort]
  exact mem_targetsFromSources.mpr ⟨l, hl, hsource, ht⟩

theorem castable_of_mem_targetCurves {plan : SchemaPlan} {db : Db Geometry} {collection : String}
    {id : Option String} {d : DirtyCurve} (hd : d ∈ targetCurves plan db collection id) :
    Castable d.id := by
  obtain ⟨r, -, rfl⟩ := List.mem_map.mp hd
  exact castable_text r.id

/-- What the variables of the loop know about the changes since its start. -/
structure Tracks (plan : SchemaPlan) (db₀ : Db Geometry) (vars : TxVars) (db : Db Geometry) :
    Prop where
  castable_touched : ∀ t ∈ vars.touchedFeatures, Castable t.id
  castable_dirty : ∀ d ∈ vars.dirtyMemberCurves, Castable d.id
  rows : ∀ r, r ∉ vars.touched → db.row? r = db₀.row? r
  links : ∀ l : Link, l.source ∉ vars.touched → (l ∈ db.association ↔ l ∈ db₀.association)
  targets : ∀ l t, plan.target? l = some t → t ∉ vars.dirty →
    (l ∈ db.association ↔ l ∈ db₀.association)
  touched_dirty : ∀ r ∈ vars.touched, r ∈ vars.dirty
  /-- Nothing is noted before the first item. -/
  fresh : vars.touchedFeatures = [] → vars = {}
  /-- No phase after the items has begun. -/
  findings : vars.structureFindings = [] ∧ vars.geometryFindings = [] ∧
    vars.structureFailed = false ∧ vars.geometryFailed = false

theorem tracks_init (plan : SchemaPlan) (db : Db Geometry) : Tracks plan db {} db where
  castable_touched _ ht := absurd ht List.not_mem_nil
  castable_dirty _ hd := absurd hd List.not_mem_nil
  rows _ _ := rfl
  links _ _ := Iff.rfl
  targets _ _ _ _ := Iff.rfl
  touched_dirty _ hr := absurd hr List.not_mem_nil
  fresh _ := rfl
  findings := ⟨rfl, rfl, rfl, rfl⟩

namespace ItemRan

variable {gis : PostGIS Geometry} {env : Env} {plan : SchemaPlan} {x : Json × ℕ}
  {coll : CollectionPlan} {written : Option String × ItemStatus} {vars vars' : TxVars}
  {db db' : Db Geometry}

theorem coll_mem (h : ItemRan gis env plan x coll written vars db vars' db') :
    coll ∈ plan.collections :=
  mem_of_currentCollection h.collection

/-- The row of the item, and what happened to it. -/
theorem applied (h : ItemRan gis env plan x coll written vars db vars' db') :
    ∃ u, written.1.bind Uuid.uuidIn = some u ∧
      ((readItem env vars x.1 x.2).currentAction ≠ some "insert" →
        written.1 = (readItem env vars x.1 x.2).currentId) ∧
      Applied plan coll ⟨coll.collectionName, u⟩ db db'
        (readItem env vars x.1 x.2).currentAction written.2 :=
  ends_writeItem gis env h.coll_mem x.2 _ _ _ db written db' h.writer

theorem touched_eq (h : ItemRan gis env plan x coll written vars db vars' db') {u : Uuid}
    (hu : written.1.bind Uuid.uuidIn = some u) :
    vars'.touched = vars.touched ++ [⟨coll.collectionName, u⟩] := by
  rw [h.vars_eq]
  simp only [TxVars.touched, List.filterMap_append, List.filterMap_cons, List.filterMap_nil,
    refOf_eq hu]

theorem deleted_eq (h : ItemRan gis env plan x coll written vars db vars' db') {u : Uuid}
    (hu : written.1.bind Uuid.uuidIn = some u) :
    vars'.deleted = vars.deleted ++
      if (readItem env vars x.1 x.2).currentAction = some "delete" then
        [(x.2, ⟨coll.collectionName, u⟩)]
      else [] := by
  rw [h.vars_eq]
  simp only [TxVars.deleted, List.filter_append, List.filterMap_append]
  congr 1
  split
  · next hdelete => simp [hdelete, refOf_eq hu]
  · next hdelete => simp [hdelete]

/-- A row is dirty if it was, if it is the row of the item, or if the row linked
to it before or links to it after. -/
theorem mem_dirty (h : ItemRan gis env plan x coll written vars db vars' db') {u : Uuid}
    (hu : written.1.bind Uuid.uuidIn = some u) :
    (∀ r ∈ vars.dirty, r ∈ vars'.dirty) ∧ (⟨coll.collectionName, u⟩ : Ref) ∈ vars'.dirty ∧
      ∀ l : Link, l.source = ⟨coll.collectionName, u⟩ → ∀ t, plan.target? l = some t →
        (l ∈ db'.association ↔ l ∈ db.association) ∨ t ∈ vars'.dirty := by
  obtain ⟨u', hu', hid, happlied⟩ := h.applied
  cases Option.some.inj (hu.symm.trans hu')
  rw [h.vars_eq]
  simp only [TxVars.dirty, List.filterMap_append, List.mem_append]
  refine ⟨fun r hr => Or.inl (Or.inl (Or.inl hr)), Or.inl (Or.inr ?_), fun l hl t ht => ?_⟩
  · exact List.mem_filterMap.mpr ⟨_, List.mem_singleton_self _, refOf_eq hu⟩
  · by_cases hsame : l ∈ db'.association ↔ l ∈ db.association
    · exact Or.inl hsame
    · by_cases hold : l ∈ db.association
      · -- a dropped link was among those before
        have hnew : l ∉ db'.association := fun hnew => hsame ⟨fun _ => hold, fun _ => hnew⟩
        have haction := happlied.of_dropped hold hnew
        refine Or.inr (Or.inl (Or.inl (Or.inr (List.mem_filterMap.mpr
          ⟨⟨t.collection, some (Uuid.text t.id)⟩, ?_, refOf_text t⟩))))
        rw [beforeCurves, if_pos haction, ← hid haction.2]
        exact mem_targetCurves hu hold hl ht
      · -- an added link is among those after
        have hnew : l ∈ db'.association := by
          by_contra hnew
          exact hsame ⟨fun h => absurd h hnew, fun h => absurd h hold⟩
        refine Or.inr (Or.inr (List.mem_filterMap.mpr
          ⟨⟨t.collection, some (Uuid.text t.id)⟩, ?_, refOf_text t⟩))
        rw [afterCurves, if_pos (happlied.of_added hold hnew)]
        exact mem_targetCurves hu hnew hl ht

theorem castable (h : ItemRan gis env plan x coll written vars db vars' db') :
    (∀ t ∈ vars'.touchedFeatures, t ∈ vars.touchedFeatures ∨ Castable t.id) ∧
      ∀ d ∈ vars'.dirtyMemberCurves, d ∈ vars.dirtyMemberCurves ∨ Castable d.id := by
  obtain ⟨u, hu, -, -⟩ := h.applied
  have hwritten : Castable written.1 := castable_of_uuid hu
  rw [h.vars_eq]
  constructor
  · intro t ht
    rcases List.mem_append.mp ht with hold | hnew
    · exact Or.inl hold
    · cases List.mem_singleton.mp hnew
      exact Or.inr hwritten
  · intro d hd
    simp only [List.mem_append, List.mem_singleton, beforeCurves, afterCurves] at hd
    rcases hd with ((hold | hbefore) | rfl) | hafter
    · exact Or.inl hold
    · split at hbefore
      · exact Or.inr (castable_of_mem_targetCurves hbefore)
      · exact absurd hbefore List.not_mem_nil
    · exact Or.inr hwritten
    · split at hafter
      · exact Or.inr (castable_of_mem_targetCurves hafter)
      · exact absurd hafter List.not_mem_nil

/-- One turn keeps track. -/
theorem tracks {db₀ : Db Geometry} (h : ItemRan gis env plan x coll written vars db vars' db')
    (htracks : Tracks plan db₀ vars db) : Tracks plan db₀ vars' db' := by
  obtain ⟨u, hu, -, happlied⟩ := h.applied
  obtain ⟨hdirty, hself, hchanged⟩ := h.mem_dirty hu
  have htouched := h.touched_eq hu
  have hout : ∀ r, r ∉ vars'.touched → r ∉ vars.touched ∧ r ≠ ⟨coll.collectionName, u⟩ := by
    intro r hr
    rw [htouched, List.mem_append, List.mem_singleton, not_or] at hr
    exact hr
  refine ⟨fun t ht => ?_, fun d hd => ?_, fun r hr => ?_, fun l hl => ?_, fun l t ht hclean => ?_,
    fun r hr => ?_, fun hfresh => ?_, ?_⟩
  · exact (h.castable.1 t ht).elim (htracks.castable_touched t) id
  · exact (h.castable.2 d hd).elim (htracks.castable_dirty d) id
  · exact (happlied.rows (hout r hr).2).trans (htracks.rows r (hout r hr).1)
  · exact (happlied.links (hout l.source hl).2).trans (htracks.links l (hout l.source hl).1)
  · have hbefore := htracks.targets l t ht fun hmem => hclean (hdirty t hmem)
    by_cases hsource : l.source = ⟨coll.collectionName, u⟩
    · exact ((hchanged l hsource t ht).resolve_right hclean).trans hbefore
    · exact (happlied.links hsource).trans hbefore
  · rw [htouched, List.mem_append, List.mem_singleton] at hr
    rcases hr with hold | rfl
    · exact hdirty r (htracks.touched_dirty r hold)
    · exact hself
  · rw [h.vars_eq] at hfresh
    exact absurd hfresh (List.append_ne_nil_of_right_ne_nil _ (List.cons_ne_nil _ _))
  · rw [h.vars_eq]
    exact htracks.findings

end ItemRan

/-- **The variables keep track of every run of the loop.** -/
theorem tracks_transactionItems (gis : PostGIS Geometry) (env : Env) (plan : SchemaPlan)
    (items : List Json) (db : Db Geometry) :
    Ends (transactionItems gis env plan {} items) db fun vars' db' => Tracks plan db vars' db' := by
  refine ends_foldlM (I := fun _ vars' db' => Tracks plan db vars' db') ?_ _ (tracks_init plan db)
  intro x _ vars db' htracks
  refine (ends_transactionItem gis env plan vars x db').mono fun vars'' db'' h => ?_
  obtain ⟨coll, written, hran⟩ := h
  exact hran.tracks htracks

end Geocomponents
