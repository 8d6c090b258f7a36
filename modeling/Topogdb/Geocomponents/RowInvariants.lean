/-
What holds of every row of a dataset, under all accepted calls.

* `acceptedStep` — a call that is answered as a success;
* `KeptByWrites` — the values that the generated functions compute of their
  documents make rows with a property;
* `everyRow_acceptedStep` — so an accepted call keeps every row with the property,
  whichever of the functions it calls, a transaction included.
-/
import Topogdb.Geocomponents.Dispatch
import Topogdb.Geocomponents.FreshFootprints
import Topogdb.Geocomponents.WriteExact

namespace Geocomponents

open Prog Sql

variable {Geometry : Type}

/-! ### Accepted calls -/

/-- The tables after an answer that counts as a success. -/
def succeeded {α : Type} (success : α → Bool) :
    Except SqlError (α × Db Geometry) → Option (Db Geometry)
  | .ok (answer, db) => if success answer then some db else none
  | .error _ => none

/-- The tables after a call that is accepted: it raises nothing, finds its row, and
commits. -/
def acceptedStep (gis : PostGIS Geometry) (deployed : String → Option SchemaPlan) (dataset : String)
    (db : Db Geometry) (call : Env × Call) : Option (Db Geometry) :=
  match call with
  | (env, .create collection feature) =>
    succeeded (fun _ => true) (featureCreate gis env deployed dataset collection feature db)
  | (env, .replace collection fid feature) =>
    succeeded id (featureReplace gis env deployed dataset collection fid feature db)
  | (env, .update collection fid feature) =>
    succeeded id (featureUpdate gis env deployed dataset collection fid feature db)
  | (_, .delete collection fid) => succeeded id (featureDelete deployed dataset collection fid db)
  | (env, .upsert collection feature) =>
    succeeded (fun _ => true) (featureUpsert gis env deployed dataset collection feature db)
  | (env, .transaction document) =>
    succeeded (·.committed) (transaction gis env deployed dataset document db)

theorem succeeded_eq_some {α : Type} {db' : Db Geometry} {success : α → Bool}
    {answer : Except SqlError (α × Db Geometry)} (h : succeeded success answer = some db') :
    ∃ a, answer = .ok (a, db') ∧ success a = true := by
  cases answer with
  | error e => cases h
  | ok x =>
    obtain ⟨a, db⟩ := x
    rw [succeeded] at h
    split at h
    · next htrue =>
      cases h
      exact ⟨a, rfl, htrue⟩
    · cases h

/-! ### The rule -/

/-- Every row of every collection has the property. -/
def EveryRow (plan : SchemaPlan) (Q : CollectionPlan → Row Geometry → Prop) (db : Db Geometry) :
    Prop :=
  ∀ coll ∈ plan.collections, ∀ ref row, ref.collection = coll.collectionName →
    db.row? ref = some row → Q coll row

/-- The values that the generated functions compute of the documents they are given
make rows with the property. -/
structure KeptByWrites (gis : PostGIS Geometry) (plan : SchemaPlan)
    (Given : CollectionPlan → Env → Option Json → Prop)
    (Q : CollectionPlan → Row Geometry → Prop) : Prop where
  inserted : ∀ coll ∈ plan.collections, ∀ {env feature vals}, Given coll env feature →
    guardBlock gis env coll false feature = .ok () →
    completeValues gis env coll feature = .ok vals → ∀ n, Q coll (newRow env n coll vals)
  replaced : ∀ coll ∈ plan.collections, ∀ {env feature vals}, Given coll env feature →
    guardBlock gis env coll false feature = .ok () →
    completeValues gis env coll feature = .ok vals → ∀ row, Q coll row →
      Q coll (row.assign vals env.now)
  updated : ∀ coll ∈ plan.collections, ∀ {env feature vals}, Given coll env feature →
    guardBlock gis env coll true feature = .ok () →
    partialValues gis env coll feature = .ok vals → ∀ row, Q coll row →
      Q coll (row.assign vals env.now)
  measured : ∀ coll ∈ plan.collections, coll.derived.isSome = true → ∀ row geometry, Q coll row →
    Q coll { row with geometry := geometry }

section Writes

variable {gis : PostGIS Geometry} {env : Env} {plan : SchemaPlan} {coll : CollectionPlan}
  {feature : Option Json} {Given : CollectionPlan → Env → Option Json → Prop}
  {Q : CollectionPlan → Row Geometry → Prop} {db db' : Db Geometry}

theorem everyRow_empty : EveryRow plan Q (Db.empty : Db Geometry) := by
  intro coll _ ref row _ hrow
  have hnone : (Db.empty : Db Geometry).row? ref = none := Finmap.lookup_empty ref
  rw [hnone] at hrow
  cases hrow

/-- The row of the write has the property, and the others had it. -/
theorem EveryRow.of_row (h : EveryRow plan Q db) (hcoll : coll ∈ plan.collections) {ref : Ref}
    (hname : ref.collection = coll.collectionName) (hothers : ∀ r, r ≠ ref → db'.row? r = db.row? r)
    (hrow : ∀ row, db'.row? ref = some row → Q coll row) : EveryRow plan Q db' := by
  intro coll' hcoll' r row hcollection hr
  by_cases heq : r = ref
  · subst heq
    have hsame : coll' = coll :=
      List.inj_on_of_nodup_map plan.names_nodup hcoll' hcoll (hcollection.symm.trans hname)
    exact hsame ▸ hrow row hr
  · rw [hothers r heq] at hr
    exact h coll' hcoll' r row hcollection hr

section Kept

variable (hkept : KeptByWrites gis plan Given Q) (hcoll : coll ∈ plan.collections)
  (hgiven : Given coll env feature) (hdb : EveryRow plan Q db)
include hkept hcoll hgiven hdb

theorem everyRow_create (n : ℕ) :
    Ends (create gis env n coll feature) db fun _ db' => EveryRow plan Q db' := by
  refine (ends_create_exact n feature db).mono ?_
  rintro id db' ⟨vals, links, hcreated⟩
  have hframe := (linkWrites_frame _ feature links _ () db' hcreated.writes).1
  have hname : (⟨coll.collectionName, id⟩ : Ref).collection = coll.collectionName := rfl
  refine hdb.of_row hcoll hname (fun r hr => ?_) fun row hrow => ?_
  · rw [hframe.rows, row?_insertRow, if_neg hr]
  · rw [hframe.rows, row?_insertRow, if_pos rfl] at hrow
    cases hrow
    exact hkept.inserted coll hcoll hgiven hcreated.guards hcreated.values n

omit hkept hgiven in
/-- A replace or an update that found its row. -/
theorem everyRow_writeExisting {guarded : Bool} {fid : Option Uuid}
    {values : Except SqlError (Assignments Geometry)}
    {writeLinks : Ref → List (CollectionRolePlan × List Uuid) → SqlProg Geometry SqlError Unit}
    (hvalues : guardBlock gis env coll guarded feature = .ok () → ∀ vals, values = .ok vals →
      ∀ row, Q coll row → Q coll (row.assign vals env.now))
    (hlinks : ∀ ref links db, Ends (writeLinks ref links) db fun _ db' => ∀ r, db'.row? r = db.row? r) :
    Ends (writeExisting gis env guarded coll fid feature values writeLinks) db
      fun _ db' => EveryRow plan Q db' := by
  refine (ends_writeExisting_exact db).mono ?_
  rintro found db' ⟨hguard, -, ⟨-, rfl, -⟩ | ⟨-, id, vals, links, -, hrewrote⟩⟩
  · exact hdb
  · have hrows := hlinks _ _ _ () db' hrewrote.writes
    have hname : (⟨coll.collectionName, id⟩ : Ref).collection = coll.collectionName := rfl
    refine hdb.of_row hcoll hname (fun r hr => ?_) fun row hrow => ?_
    · rw [hrows, row?_assign, if_neg hr]
    · rw [hrows, row?_assign, if_pos rfl] at hrow
      obtain ⟨old, hold, rfl⟩ := Option.map_eq_some_iff.mp hrow
      exact hvalues hguard vals hrewrote.values old (hdb coll hcoll _ old rfl hold)

theorem everyRow_replace (fid : Option Uuid) :
    Ends (replace gis env coll fid feature) db fun _ db' => EveryRow plan Q db' := by
  refine everyRow_writeExisting hcoll hdb
    (fun hguard vals hvals => hkept.replaced coll hcoll hgiven hguard hvals) fun ref links db => ?_
  refine (deleteLinks_frame ref _ (LinkedBy ref links) db).bind fun _ db₁ h₁ => ?_
  refine (linkWrites_frame ref feature links db₁).mono fun _ db₂ h₂ r => ?_
  rw [h₂.1.rows, h₁.rows]

theorem everyRow_update (fid : Option Uuid) :
    Ends (update gis env coll fid feature) db fun _ db' => EveryRow plan Q db' := by
  refine everyRow_writeExisting hcoll hdb
    (fun hguard vals hvals => hkept.updated coll hcoll hgiven hguard hvals) fun ref links db => ?_
  exact (linkWritesPatch_frame ref feature links db).mono fun _ db' h => h.rows

theorem everyRow_upsert (n : ℕ) :
    Ends (upsert gis env n coll feature) db fun _ db' => EveryRow plan Q db' := by
  refine (ends_upsert_exact n feature db).mono ?_
  rintro id db' ⟨vals, hupserted⟩
  have hname : (⟨coll.collectionName, id⟩ : Ref).collection = coll.collectionName := rfl
  refine hdb.of_row hcoll hname (fun r hr => ?_) fun row hrow => ?_
  · rw [hupserted.rows, if_neg hr]
  · rw [hupserted.rows, if_pos rfl] at hrow
    cases hold : db.row? ⟨coll.collectionName, id⟩ with
    | none =>
      rw [hold] at hrow
      cases hrow
      exact hkept.inserted coll hcoll hgiven hupserted.guards hupserted.values n
    | some old =>
      rw [hold] at hrow
      cases hrow
      exact hkept.replaced coll hcoll hgiven hupserted.guards hupserted.values old
        (hdb coll hcoll _ old rfl hold)

end Kept

theorem everyRow_delete (hdb : EveryRow plan Q db) (fid : Option Uuid) :
    Ends (delete coll fid : SqlProg Geometry SqlError Bool) db fun _ db' => EveryRow plan Q db' := by
  refine (ends_delete fid db).mono ?_
  rintro found db' (⟨-, -, rfl⟩ | ⟨id, -, -, hdeleted⟩)
  · exact hdb
  · intro coll' hcoll' r row hcollection hrow
    rw [hdeleted.rows] at hrow
    split at hrow
    · cases hrow
    · exact hdb coll' hcoll' r row hcollection hrow

/-- The geometry phase gives derived rows a geometry. -/
theorem Refreshed.everyRow (hkept : KeptByWrites gis plan Given Q) {surfaces : Finset Ref}
    (h : Refreshed gis plan surfaces db db') (hdb : EveryRow plan Q db) : EveryRow plan Q db' := by
  intro coll hcoll ref row hcollection hrow
  have hplan : plan.collection? ref.collection = some coll := by
    rw [hcollection]
    exact SchemaPlan.collection?_eq hcoll
  by_cases href : ref ∈ surfaces
  · rcases h.measured ref href with ⟨-, hsame⟩ | ⟨verdict, footprint, hverdict, -, hmeasured⟩
    · rw [hsame] at hrow
      exact hdb coll hcoll ref row hcollection hrow
    · rw [hmeasured] at hrow
      obtain ⟨old, hold, rfl⟩ := Option.map_eq_some_iff.mp hrow
      refine hkept.measured coll hcoll ?_ old footprint (hdb coll hcoll ref old hcollection hold)
      -- a row of another collection has no verdict
      by_contra hderived
      rw [footprintGeometryVerdict_of_not_derived] at hverdict
      · cases hverdict
      · rw [hplan, Option.bind_some]
        exact Option.not_isSome_iff_eq_none.mp hderived
  · rw [h.others ref href] at hrow
    exact hdb coll hcoll ref row hcollection hrow

end Writes

/-! ### Calls -/

/-- The document is given to the collection of the name. -/
def GivenTo (plan : SchemaPlan) (Given : CollectionPlan → Env → Option Json → Prop) (env : Env)
    (collection : String) (feature : Option Json) : Prop :=
  ∀ coll ∈ plan.collections, coll.collectionName = collection → Given coll env feature

/-- The feature that an item of a transaction writes is given. -/
def ItemGives (plan : SchemaPlan) (Given : CollectionPlan → Env → Option Json → Prop) (env : Env)
    (item : Json) : Prop :=
  arrowText env.jsonText (some item) "action" ∈ [some "insert", some "replace", some "update"] →
    ∀ collection, arrowText env.jsonText (some item) "collection" = some collection →
      GivenTo plan Given env collection (arrow (some item) "feature")

/-- The documents that a call writes are given. -/
def CallGives (plan : SchemaPlan) (Given : CollectionPlan → Env → Option Json → Prop) :
    Env × Call → Prop
  | (env, .create collection feature) => GivenTo plan Given env collection feature
  | (env, .replace collection _ feature) => GivenTo plan Given env collection feature
  | (env, .update collection _ feature) => GivenTo plan Given env collection feature
  | (_, .delete _ _) => True
  | (env, .upsert collection feature) => GivenTo plan Given env collection feature
  | (env, .transaction document) =>
    ∀ items, txItems document = .arr items → ∀ item ∈ items, ItemGives plan Given env item

section Calls

variable {gis : PostGIS Geometry} {env : Env} {deployed : String → Option SchemaPlan}
  {dataset : String} {plan : SchemaPlan} {Given : CollectionPlan → Env → Option Json → Prop}
  {Q : CollectionPlan → Row Geometry → Prop} {db db' : Db Geometry}

/-- What the generated function keeps, the dispatch keeps. -/
theorem everyRow_writeDispatch {α : Type} {operation : String}
    {function : CollectionPlan → Option (SqlProg Geometry SqlError α)} {collection : String} {a : α}
    (hdeployed : deployed dataset = some plan)
    (hrun : writeDispatch deployed dataset operation function collection db = .ok (a, db'))
    (h : ∀ coll ∈ plan.collections, coll.collectionName = collection →
      ∀ body, function coll = some body → Ends body db fun _ db' => EveryRow plan Q db') :
    EveryRow plan Q db' := by
  rw [writeDispatch, hdeployed] at hrun
  obtain ⟨_, -, hrun⟩ := Except.bind_eq_ok.mp hrun
  split at hrun
  · cases hrun
  · next body hbody =>
    obtain ⟨coll, hcoll, hbody⟩ := Option.bind_eq_some_iff.mp hbody
    obtain ⟨hmem, hname⟩ := SchemaPlan.mem_of_collection? hcoll
    exact h coll hmem hname body hbody a db' hrun

/-- One item of a transaction. -/
theorem ItemRan.everyRow {x : Json × ℕ} {coll : CollectionPlan}
    {written : Option String × ItemStatus} {vars vars' : TxVars}
    (h : ItemRan gis env plan x coll written vars db vars' db') (hkept : KeptByWrites gis plan Given Q)
    (hgiven : ItemGives plan Given env x.1) (hdb : EveryRow plan Q db) : EveryRow plan Q db' := by
  have hcollection : arrowText env.jsonText (some x.1) "collection" = some coll.collectionName :=
    name_of_currentCollection h.collection
  have hfeature (haction : arrowText env.jsonText (some x.1) "action" ∈
      [some "insert", some "replace", some "update"]) :
      Given coll env (arrow (some x.1) "feature") :=
    hgiven haction _ hcollection coll h.coll_mem rfl
  have hwriter := h.writer
  have haction : (readItem env vars x.1 x.2).currentAction =
      arrowText env.jsonText (some x.1) "action" := rfl
  have hdocument : (readItem env vars x.1 x.2).currentFeature = arrow (some x.1) "feature" := rfl
  rw [haction, hdocument] at hwriter
  generalize (readItem env vars x.1 x.2).currentId = id at hwriter
  unfold writeItem at hwriter
  split at hwriter
  · next haction =>
    have hcreate : Ends (create gis env x.2 coll (arrow (some x.1) "feature")) db
        fun _ db' => EveryRow plan Q db' :=
      everyRow_create hkept h.coll_mem (hfeature (by rw [haction]; decide)) hdb x.2
    have hinsert := hcreate.bind (Q := fun _ db' => EveryRow plan Q db')
      fun createdId db' hdb' => ends_pure (a := (some createdId.text, ItemStatus.created)) hdb'
    exact hinsert written db' hwriter
  · next haction =>
    exact (ends_writeFound "replace" id db fun fid =>
      everyRow_replace hkept h.coll_mem (hfeature (by rw [haction]; decide)) hdb fid)
        written db' hwriter |>.2.2
  · next haction =>
    exact (ends_writeFound "update" id db fun fid =>
      everyRow_update hkept h.coll_mem (hfeature (by rw [haction]; decide)) hdb fid)
        written db' hwriter |>.2.2
  · exact (ends_writeFound "delete" id db fun fid => everyRow_delete hdb fid)
      written db' hwriter |>.2.2
  · cases hwriter

/-- All items of a transaction. -/
theorem everyRow_transactionItems (hkept : KeptByWrites gis plan Given Q) {items : List Json}
    (hgiven : ∀ item ∈ items, ItemGives plan Given env item) (hdb : EveryRow plan Q db) :
    Ends (transactionItems gis env plan {} items) db fun _ db' => EveryRow plan Q db' := by
  have hzip : ∀ x ∈ items.zipIdx, ItemGives plan Given env x.1 := by
    intro x hx
    refine hgiven x.1 ?_
    have hmem := List.mem_map_of_mem (f := Prod.fst) hx
    rwa [List.zipIdx_map_fst] at hmem
  refine (ends_foldlM (I := fun (xs : List (Json × ℕ)) (_ : TxVars) db' =>
    (∀ x ∈ xs, ItemGives plan Given env x.1) ∧ EveryRow plan Q db') ?_ _ ⟨hzip, hdb⟩).mono
      fun _ _ h => h.2
  rintro x xs vars db' ⟨hxs, hdb'⟩
  refine (ends_transactionItem gis env plan vars x db').mono ?_
  rintro vars' db'' ⟨coll, written, hran⟩
  rw [List.forall_mem_cons] at hxs
  exact ⟨hxs.2, hran.everyRow hkept hxs.1 hdb'⟩

/-- **An accepted call keeps what its values keep.** -/
theorem everyRow_acceptedStep (hkept : KeptByWrites gis plan Given Q)
    (hdeployed : deployed dataset = some plan) {call : Env × Call}
    (hgives : CallGives plan Given call) (hdb : EveryRow plan Q db)
    (hstep : acceptedStep gis deployed dataset db call = some db') : EveryRow plan Q db' := by
  obtain ⟨env, call⟩ := call
  cases call with
  | create collection feature =>
    obtain ⟨id, hrun, -⟩ := succeeded_eq_some hstep
    refine everyRow_writeDispatch hdeployed hrun fun coll hcoll hname body hbody => ?_
    cases hbody
    exact everyRow_create hkept hcoll (hgives coll hcoll hname) hdb 0
  | replace collection fid feature =>
    obtain ⟨found, hrun, -⟩ := succeeded_eq_some hstep
    refine everyRow_writeDispatch hdeployed hrun fun coll hcoll hname body hbody => ?_
    cases hbody
    exact everyRow_replace hkept hcoll (hgives coll hcoll hname) hdb fid
  | update collection fid feature =>
    obtain ⟨found, hrun, -⟩ := succeeded_eq_some hstep
    refine everyRow_writeDispatch hdeployed hrun fun coll hcoll hname body hbody => ?_
    cases hbody
    exact everyRow_update hkept hcoll (hgives coll hcoll hname) hdb fid
  | delete collection fid =>
    obtain ⟨found, hrun, -⟩ := succeeded_eq_some hstep
    refine everyRow_writeDispatch hdeployed hrun fun coll hcoll hname body hbody => ?_
    cases hbody
    exact everyRow_delete hdb fid
  | upsert collection feature =>
    obtain ⟨id, hrun, -⟩ := succeeded_eq_some hstep
    refine everyRow_writeDispatch hdeployed hrun fun coll hcoll hname body hbody => ?_
    split at hbody
    · cases hbody
      exact everyRow_upsert hkept hcoll (hgives coll hcoll hname) hdb 0
    · cases hbody
  | transaction document =>
    obtain ⟨report, hrun, hcommitted⟩ := succeeded_eq_some hstep
    obtain ⟨plan', items, vars, db₁, hplan', hitems, hdone, -⟩ := transaction_committed hrun hcommitted
    cases hdeployed.symm.trans hplan'
    have hrows := everyRow_transactionItems hkept (hgives items hitems) hdb vars db₁ hdone.items
    exact hdone.refreshed.everyRow hkept hrows

end Calls

end Geocomponents
