/-
In a dataset without topology, `ogc.transaction` is nothing but its items as direct
writes, one after another, that leave no link to a row they delete.

* `Plain` — no collection is derived, bounded or of the model `topology`;
* `itemCalls` — the direct writes that the items of a document stand for;
* `runs_itemCalls_iff` — the loop over the items accepts what these calls accept;
* `transaction_accepted_iff` — so does the whole call, but for the links to the rows
  that it deletes.
-/
import Topogdb.Geocomponents.RowInvariants
import Topogdb.Geocomponents.StructureCheck

namespace Geocomponents

open Prog Sql

variable {Geometry : Type}

/-! ### The draws of a call -/

/-- The environment after the draws of `n` items. -/
def Env.after (env : Env) (n : ℕ) : Env :=
  { env with
    genRandomUuid := fun k => env.genRandomUuid (n + k)
    identity := fun k => env.identity (n + k) }

section Draws

variable (gis : PostGIS Geometry) (env : Env) (n : ℕ) (coll : CollectionPlan)
  (feature : Option Json)

mutual

/-- The checks of a nested field draw nothing. -/
theorem nestedFieldChecks_after : ∀ (field : NestedFieldPlan) (parent : Option Json)
    (path : String), nestedFieldChecks (env.after n) parent path field
      = nestedFieldChecks env parent path field
  | .mk name sqlType required serverSupplied codes fields, parent, path => by
    rw [nestedFieldChecks.eq_def, nestedFieldChecks.eq_def]
    cases fields with
    | nil => rfl
    | cons field rest =>
      simp only [nestedFieldChecks_after field, nestedFieldsChecks_after rest]
      rfl

theorem nestedFieldsChecks_after : ∀ (fields : List NestedFieldPlan) (object : Option Json)
    (path : String), nestedFieldsChecks (env.after n) object path fields
      = nestedFieldsChecks env object path fields
  | [], _, _ => rfl
  | field :: fields, object, path => by
    rw [nestedFieldsChecks, nestedFieldsChecks, nestedFieldChecks_after field,
      nestedFieldsChecks_after fields]

end

theorem guardBlock_after (guarded : Bool) :
    guardBlock gis (env.after n) coll guarded feature =
      guardBlock gis env coll guarded feature := by
  have hnested : nestedCheck (env.after n) guarded feature = nestedCheck env guarded feature := by
    funext col
    simp only [nestedCheck, nestedObjectChecks, nestedFieldsChecks_after]
  rw [guardBlock, nestedChecks, hnested]
  rfl

/-- A create in the environment after `n` items draws what the n-th item draws. -/
theorem create_after : create gis (env.after n) 0 coll feature = create gis env n coll feature := by
  rw [create, guardBlock_after]
  rfl

end Draws

/-! ### Items as direct writes -/

/-- A dataset without topology. -/
structure Plain (plan : SchemaPlan) : Prop where
  derived : ∀ coll ∈ plan.collections, coll.derived = none
  bounds : ∀ coll ∈ plan.collections, coll.bounds = none
  model : ∀ coll ∈ plan.collections, coll.featureModel ≠ .topology

/-- The direct write for an action on a row of a collection. -/
def directCall (env : Env) (n : ℕ) (action id : Option String) (feature : Option Json)
    (collection : String) : Option (Env × Call) :=
  match action with
  | some "insert" => some (env.after n, .create collection feature)
  | some "replace" => (castUuid id).toOption.map fun fid => (env, .replace collection fid feature)
  | some "update" => (castUuid id).toOption.map fun fid => (env, .update collection fid feature)
  | some "delete" => (castUuid id).toOption.map fun fid => (env, .delete collection fid)
  | _ => none

/-- No direct write stands for another action. -/
theorem directCall_unknown {env : Env} {n : ℕ} {action id : Option String} {feature : Option Json}
    {collection : String} (hinsert : action ≠ some "insert") (hreplace : action ≠ some "replace")
    (hupdate : action ≠ some "update") (hdelete : action ≠ some "delete") :
    directCall env n action id feature collection = none := by
  unfold directCall
  split
  · exact absurd rfl hinsert
  · exact absurd rfl hreplace
  · exact absurd rfl hupdate
  · exact absurd rfl hdelete
  · rfl

/-- The direct write that an item stands for. -/
def itemCall (env : Env) (x : Json × ℕ) : Option (Env × Call) :=
  let vars := readItem env {} x.1 x.2
  vars.currentCollection.bind fun collection =>
    directCall env x.2 vars.currentAction vars.currentId vars.currentFeature collection

/-- The direct writes that the items stand for. -/
def itemCalls (env : Env) : List (Json × ℕ) → Option (List (Env × Call))
  | [] => some []
  | x :: xs => do
    let call ← itemCall env x
    let calls ← itemCalls env xs
    some (call :: calls)

section Items

variable {gis : PostGIS Geometry} {env : Env} {deployed : String → Option SchemaPlan}
  {dataset : String} {plan : SchemaPlan} {db db' : Db Geometry}

/-- The collection that a direct write goes to. -/
def directCollection (plan : SchemaPlan) (collection : String) : Option CollectionPlan :=
  (plan.collection? collection).filter fun coll => coll.featureModel ≠ .topology

theorem mem_of_directCollection {collection : String} {coll : CollectionPlan}
    (h : directCollection plan collection = some coll) :
    coll ∈ plan.collections ∧ coll.collectionName = collection ∧ coll.featureModel ≠ .topology := by
  obtain ⟨hcoll, hmodel⟩ := Option.filter_eq_some_iff.mp h
  obtain ⟨hmem, hname⟩ := SchemaPlan.mem_of_collection? hcoll
  exact ⟨hmem, hname, of_decide_eq_true hmodel⟩

theorem directCollection_eq {coll : CollectionPlan} (hcoll : coll ∈ plan.collections)
    (hmodel : coll.featureModel ≠ .topology) :
    directCollection plan coll.collectionName = some coll :=
  Option.filter_eq_some_iff.mpr ⟨SchemaPlan.collection?_eq hcoll, decide_eq_true hmodel⟩

/-- **A dispatch is accepted where the function of its collection is.** -/
theorem succeeded_writeDispatch_iff (hdeployed : deployed dataset = some plan) {α : Type}
    {success : α → Bool} {operation collection : String}
    {function : CollectionPlan → Option (SqlProg Geometry SqlError α)} :
    succeeded success (writeDispatch deployed dataset operation function collection db) = some db' ↔
      ∃ coll, directCollection plan collection = some coll ∧ ∃ body, function coll = some body ∧
        ∃ a, run body db = .ok (a, db') ∧ success a = true := by
  constructor
  · intro h
    obtain ⟨a, hrun, htrue⟩ := succeeded_eq_some h
    rw [writeDispatch, hdeployed] at hrun
    obtain ⟨_, hallowed, hrun⟩ := Except.bind_eq_ok.mp hrun
    split at hrun
    · cases hrun
    · next body hbody =>
      obtain ⟨coll, hcoll, hfunction⟩ := Option.bind_eq_some_iff.mp hbody
      refine ⟨coll, Option.filter_eq_some_iff.mpr ⟨hcoll, decide_eq_true ?_⟩, body, hfunction, a,
        hrun, htrue⟩
      intro hmodel
      rw [assertDirectWriteAllowed, SchemaPlan.collectionFeatureModel, Option.bind_some, hcoll,
        Option.map_some, hmodel, if_pos rfl] at hallowed
      cases hallowed
  · rintro ⟨coll, hdirect, body, hbody, a, hrun, htrue⟩
    obtain ⟨hmem, rfl, hmodel⟩ := mem_of_directCollection hdirect
    have hfound := SchemaPlan.collection?_eq hmem
    have hallowed : plan.collectionFeatureModel (some coll.collectionName) ≠ some .topology := by
      rw [SchemaPlan.collectionFeatureModel, Option.bind_some, hfound]
      exact fun h => hmodel (Option.some.inj h)
    rw [writeDispatch, hdeployed]
    simp only [assertDirectWriteAllowed, if_neg hallowed, hfound, Option.bind_some, hbody,
      Except.ok_bind, hrun]
    rw [succeeded, if_pos htrue]

/-- A dispatch finds no function for a collection that is not there. -/
theorem acceptedStep_unknown (hdeployed : deployed dataset = some plan) {collection : String}
    (hcoll : plan.collection? collection = none) {n : ℕ} {action id : Option String}
    {feature : Option Json} {call : Env × Call}
    (hcall : directCall env n action id feature collection = some call) :
    acceptedStep gis deployed dataset db call = none := by
  have hdispatch : ∀ {α : Type} (success : α → Bool) (operation : String)
      (function : CollectionPlan → Option (SqlProg Geometry SqlError α)),
      succeeded success (writeDispatch deployed dataset operation function collection db) =
        none := by
    intro α success operation function
    refine Option.eq_none_iff_forall_ne_some.mpr fun db' h => ?_
    obtain ⟨coll, hdirect, -⟩ := (succeeded_writeDispatch_iff hdeployed).mp h
    rw [directCollection, hcoll] at hdirect
    cases hdirect
  unfold directCall at hcall
  split at hcall
  · cases hcall
    exact hdispatch _ _ _
  · obtain ⟨fid, -, rfl⟩ := Option.map_eq_some_iff.mp hcall
    exact hdispatch _ _ _
  · obtain ⟨fid, -, rfl⟩ := Option.map_eq_some_iff.mp hcall
    exact hdispatch _ _ _
  · obtain ⟨fid, -, rfl⟩ := Option.map_eq_some_iff.mp hcall
    exact hdispatch _ _ _
  · cases hcall

/-- The writers that look for their row succeed where it is found. -/
theorem run_writeFound_iff {coll : CollectionPlan} {action : String} {id : Option String}
    {write : CollectionPlan → Option Uuid → SqlProg Geometry SqlError Bool} :
    (∃ written, run (writeFound coll action id write) db = .ok (written, db')) ↔
      ∃ fid, castUuid id = .ok fid ∧ run (write coll fid) db = .ok (true, db') := by
  constructor
  · rintro ⟨written, hrun⟩
    rw [writeFound] at hrun
    obtain ⟨fid, db₁, hid, hrest⟩ := run_bind_eq_ok.mp hrun
    obtain ⟨hcast, rfl⟩ := run_ofExcept_eq_ok.mp hid
    obtain ⟨found, db₂, hwrite, hanswer⟩ := run_bind_eq_ok.mp hrest
    cases found with
    | false => cases hanswer
    | true =>
      cases hanswer
      exact ⟨fid, hcast, hwrite⟩
  · rintro ⟨fid, hcast, hwrite⟩
    refine ⟨(id, if action = "delete" then .deleted else .updated), ?_⟩
    rw [writeFound]
    refine run_bind_eq_ok.mpr ⟨fid, db, run_ofExcept_eq_ok.mpr ⟨hcast, rfl⟩, ?_⟩
    exact run_bind_eq_ok.mpr ⟨true, db', hwrite, rfl⟩

/-- **An item is accepted exactly where its direct write is**, and both leave the same
tables. -/
theorem writeItem_accepted_iff (hplain : Plain plan) (hdeployed : deployed dataset = some plan)
    {n : ℕ} {coll : CollectionPlan} (hcoll : coll ∈ plan.collections)
    {action id : Option String} {feature : Option Json} :
    (∃ written, run (writeItem gis env n coll action id feature) db = .ok (written, db')) ↔
      ∃ call, directCall env n action id feature coll.collectionName = some call ∧
        acceptedStep gis deployed dataset db call = some db' := by
  -- replace, update and delete differ in the function that they call
  have hfound : ∀ (write : CollectionPlan → Option Uuid → SqlProg Geometry SqlError Bool)
      (action : String) (call : Option Uuid → Env × Call),
      (∀ fid, acceptedStep gis deployed dataset db (call fid) = some db' ↔
        run (write coll fid) db = .ok (true, db')) →
      ((∃ written, run (writeFound coll action id write) db = .ok (written, db')) ↔
        ∃ c, (castUuid id).toOption.map call = some c ∧
          acceptedStep gis deployed dataset db c = some db') := by
    intro write action call hcall
    rw [run_writeFound_iff]
    constructor
    · rintro ⟨fid, hcast, hwrite⟩
      refine ⟨call fid, ?_, (hcall fid).mpr hwrite⟩
      rw [hcast]
      rfl
    · rintro ⟨c, hc, haccepted⟩
      cases hcast : castUuid id with
      | error e =>
        rw [hcast] at hc
        cases hc
      | ok fid =>
        rw [hcast] at hc
        cases hc
        exact ⟨fid, rfl, (hcall fid).mp haccepted⟩
  have hdirect := directCollection_eq hcoll (hplain.model coll hcoll)
  -- without topology the dispatch runs the same function
  have hbody : ∀ (write : CollectionPlan → SqlProg Geometry SqlError Bool) (operation : String),
      succeeded (fun found => found) (writeDispatch deployed dataset operation
        (fun coll => some (write coll)) coll.collectionName db) = some db' ↔
          run (write coll) db = .ok (true, db') := by
    intro write operation
    rw [succeeded_writeDispatch_iff hdeployed]
    constructor
    · rintro ⟨coll', hdirect', _, ⟨⟩, found, hrun, rfl⟩
      cases hdirect.symm.trans hdirect'
      exact hrun
    · exact fun hrun => ⟨coll, hdirect, _, rfl, true, hrun, rfl⟩
  unfold writeItem
  split
  · constructor
    · rintro ⟨written, hrun⟩
      obtain ⟨u, db₁, hcreate, hrun⟩ := run_bind_eq_ok.mp hrun
      cases hrun
      refine ⟨_, rfl, (succeeded_writeDispatch_iff hdeployed).mpr
        ⟨coll, hdirect, _, rfl, u, ?_, rfl⟩⟩
      rw [create_after]
      exact hcreate
    · rintro ⟨call, hcall, haccepted⟩
      cases hcall
      obtain ⟨coll', hdirect', _, ⟨⟩, u, hcreate, -⟩ :=
        (succeeded_writeDispatch_iff hdeployed).mp haccepted
      cases hdirect.symm.trans hdirect'
      rw [create_after] at hcreate
      exact ⟨_, run_bind_eq_ok.mpr ⟨u, db', hcreate, rfl⟩⟩
  · exact hfound _ _ _ fun fid => hbody (fun coll => replace gis env coll fid feature) "replace"
  · exact hfound _ _ _ fun fid => hbody (fun coll => update gis env coll fid feature) "update"
  · exact hfound _ _ _ fun fid => hbody (fun coll => delete coll fid) "delete"
  · -- an action that is none of the four
    next hinsert hreplace hupdate hdelete =>
    constructor
    · rintro ⟨written, hrun⟩
      cases hrun
    · rintro ⟨call, hcall, -⟩
      rw [directCall_unknown hinsert hreplace hupdate hdelete] at hcall
      cases hcall

/-- An item of the loop is accepted exactly where its direct write is. -/
theorem applyItem_accepted_iff (hplain : Plain plan) (hdeployed : deployed dataset = some plan)
    {x : Json × ℕ} :
    (∃ written, applyItem gis env plan x db = .ok (written, db')) ↔
      ∃ call, itemCall env x = some call ∧
        acceptedStep gis deployed dataset db call = some db' := by
  simp only [applyItem, itemCall]
  cases hname : (readItem env {} x.1 x.2).currentCollection with
  | none =>
    constructor
    · rintro ⟨written, hrun⟩
      cases hrun
    · rintro ⟨call, hcall, -⟩
      cases hcall
  | some collection =>
    rw [Option.bind_some]
    cases hcoll : plan.collection? collection with
    | none =>
      constructor
      · rintro ⟨written, hrun⟩
        rw [currentCollection, Option.bind_some, hcoll] at hrun
        cases hrun
      · rintro ⟨call, hcall, haccepted⟩
        rw [acceptedStep_unknown hdeployed hcoll hcall] at haccepted
        cases haccepted
    | some coll =>
      obtain ⟨hmem, rfl⟩ := SchemaPlan.mem_of_collection? hcoll
      have hcurrent : currentCollection plan (some coll.collectionName) = .ok coll := by
        rw [currentCollection, Option.bind_some, hcoll]
      rw [← writeItem_accepted_iff hplain hdeployed hmem]
      simp only [hcurrent, Except.ok_bind]

/-- **The items one after another are accepted exactly where their direct writes are.** -/
theorem runs_itemCalls_iff (hplain : Plain plan) (hdeployed : deployed dataset = some plan)
    {xs : List (Json × ℕ)} {db : Db Geometry} :
    (∃ results, applyItems gis env plan xs db = .ok (results, db')) ↔
      ∃ calls, itemCalls env xs = some calls ∧
        Runs.run (acceptedStep gis deployed dataset) db calls = some db' := by
  induction xs generalizing db with
  | nil =>
    constructor
    · rintro ⟨results, hrun⟩
      cases hrun
      exact ⟨[], rfl, rfl⟩
    · rintro ⟨calls, hcalls, hrun⟩
      cases hcalls
      cases hrun
      exact ⟨[], rfl⟩
  | cons x xs ih =>
    constructor
    · rintro ⟨results, hrun⟩
      obtain ⟨⟨written, db₁⟩, hitem, hrest⟩ := Except.bind_eq_ok.mp hrun
      obtain ⟨⟨results', db₂⟩, hrest, hresults⟩ := Except.bind_eq_ok.mp hrest
      cases hresults
      obtain ⟨call, hcall, haccepted⟩ :=
        (applyItem_accepted_iff hplain hdeployed).mp ⟨written, hitem⟩
      obtain ⟨calls, hcalls, hruns⟩ := ih.mp ⟨results', hrest⟩
      refine ⟨call :: calls, ?_, ?_⟩
      · rw [itemCalls, hcall, hcalls]
        rfl
      · rw [Runs.run_cons, haccepted]
        exact hruns
    · rintro ⟨calls, hcalls, hrun⟩
      obtain ⟨call, hcall, hcalls⟩ := Option.bind_eq_some_iff.mp hcalls
      obtain ⟨calls', hcalls', hcons⟩ := Option.bind_eq_some_iff.mp hcalls
      cases hcons
      rw [Runs.run_cons] at hrun
      obtain ⟨db₁, haccepted, hrun⟩ := Option.bind_eq_some_iff.mp hrun
      obtain ⟨written, hitem⟩ :=
        (applyItem_accepted_iff hplain hdeployed).mpr ⟨call, hcall, haccepted⟩
      obtain ⟨results, hrest⟩ := ih.mpr ⟨calls', hcalls', hrun⟩
      refine ⟨appliedResult env x written :: results, ?_⟩
      simp only [applyItems, hitem, hrest, Except.ok_bind]

/-- The loop goes through where the items apply on their own. -/
theorem run_of_applyItems {xs : List (Json × ℕ)} (vars : TxVars) {results : List ItemResult}
    {db : Db Geometry} (h : applyItems gis env plan xs db = .ok (results, db')) :
    ∃ vars', run (xs.foldlM (transactionItem gis env plan) vars) db = .ok (vars', db') := by
  induction xs generalizing vars results db with
  | nil =>
    cases h
    exact ⟨vars, rfl⟩
  | cons x xs ih =>
    obtain ⟨⟨written, db₁⟩, hitem, hrest⟩ := Except.bind_eq_ok.mp h
    obtain ⟨⟨results', db₂⟩, hrest, hresults⟩ := Except.bind_eq_ok.mp hrest
    cases hresults
    cases hturn : run (transactionItem gis env plan vars x) db with
    | error failure =>
      obtain ⟨-, e, hfails⟩ := fails_transactionItem vars x db failure hturn
      cases hfails.symm.trans hitem
    | ok y =>
      obtain ⟨vars₁, db₁'⟩ := y
      obtain ⟨coll, written', hran⟩ := ends_transactionItem gis env plan vars x db vars₁ db₁' hturn
      cases hran.applyItem_eq.symm.trans hitem
      obtain ⟨vars', hloop⟩ := ih vars₁ hrest
      refine ⟨vars', ?_⟩
      rw [List.foldlM_cons]
      exact run_bind_eq_ok.mpr ⟨vars₁, db₁, hturn, hloop⟩

/-! ### The phases of a dataset without topology -/

theorem Plain.not_derived (hplain : Plain plan) (collection : String) :
    (plan.collection? collection).bind (·.derived) = none := by
  rw [Option.bind_eq_none_iff]
  intro coll hcoll
  exact hplain.derived coll (SchemaPlan.mem_of_collection? hcoll).1

/-- Nothing but the links to deleted rows is found. -/
theorem structureFindingsOf_plain (hplain : Plain plan) (vars : TxVars) (db : Db Geometry) :
    structureFindingsOf plan vars db = (missingFindings plan db vars.deleted).map .missing := by
  have hfootprints : footprintFindings plan db vars.touched = [] := by
    rw [footprintFindings_eq, Incremental.findings, List.filterMap_eq_nil_iff]
    intro ref _
    rw [invalidVerdict, footprintStructureVerdict]
    cases hcoll : plan.collection? ref.collection with
    | none => rfl
    | some coll =>
      have hderived := hplain.derived coll (SchemaPlan.mem_of_collection? hcoll).1
      simp [hderived]
  have hbounds : boundsFindings plan db vars.dirty = [] := by
    rw [boundsFindings_eq, Incremental.findings, List.filterMap_eq_nil_iff]
    intro ref _
    rw [boundsFinding]
    cases hcoll : plan.collection? ref.collection with
    | none => rfl
    | some coll =>
      have hbounds := hplain.bounds coll (SchemaPlan.mem_of_collection? hcoll).1
      simp [hbounds]
  rw [structureFindingsOf, hfootprints, hbounds, List.map_nil, List.map_nil, List.append_nil,
    List.append_nil]

/-- There is no surface to measure. -/
theorem measureSurfaces_plain (hplain : Plain plan) (refs : List Ref) :
    measureSurfaces gis plan db refs = .ok [] := by
  have hnone : ∀ ref, (do
      let verdict ← footprintGeometryVerdict gis plan db ref
      pure (verdict.map fun x => (⟨ref, x.1, x.2⟩ : Measured Geometry)) : Except SqlError _)
        = .ok none := by
    intro ref
    rw [footprintGeometryVerdict_of_not_derived (hplain.not_derived ref.collection)]
    rfl
  rw [measureSurfaces, Except.mapM_ok fun ref _ => hnone ref]
  simp

/-- The geometry phase after a clean structure phase finds nothing and leaves the
tables. -/
theorem run_geometryPhase_plain (hplain : Plain plan) {db₀ : Db Geometry} {vars vars₁ : TxVars}
    (htracks : Tracks plan db₀ vars db)
    (hstructure : run (structurePhase plan vars) db = .ok (vars₁, db)) :
    ∃ vars₂, run (geometryPhase gis plan vars₁) db = .ok (vars₂, db) ∧
      vars₂.geometryFindings = [] := by
  obtain ⟨vars₁', hphase, -, htouched, -⟩ := run_structurePhase htracks
  cases hstructure.symm.trans hphase
  rw [geometryPhase]
  split
  · next hnil =>
    -- then no item ran
    cases htracks.fresh (htouched ▸ hnil)
    cases hstructure
    exact ⟨{}, rfl, rfl⟩
  · have hrefs : touchedRows vars₁.touchedFeatures = .ok vars.touched :=
      htouched ▸ htracks.touchedRows_eq
    refine ⟨{ vars₁ with phase := .geometry, geometryFindings := [] }, ?_, rfl⟩
    simp only [failing, run_bind, run_mapError, applyDirtyFootprints, run_query, hrefs,
      Except.ok_bind, measureSurfaces_plain hplain]
    rfl

/-- No link is left to a row that an item deletes. -/
theorem missingFindings_eq_nil_iff {vars : TxVars} :
    missingFindings plan db vars.deleted = [] ↔
      ∀ ref ∈ vars.deletedRefs, ∀ l ∈ db.association, plan.target? l ≠ some ref := by
  rw [List.eq_nil_iff_forall_not_mem]
  constructor
  · intro hnone ref href l hl htarget
    obtain ⟨⟨i, t⟩, hmem, rfl⟩ := List.mem_map.mp href
    exact hnone ⟨l.source, l.property, t, i⟩
      (mem_missingFindings.mpr ⟨hmem, l, hl, rfl, rfl, htarget⟩)
  · intro hnone finding hfinding
    obtain ⟨hmem, l, hl, -, -, htarget⟩ := mem_missingFindings.mp hfinding
    exact hnone _ (List.mem_map.mpr ⟨_, hmem, rfl⟩) l hl htarget

/-- What the block does after its items. -/
def afterItems (gis : PostGIS Geometry) (plan : SchemaPlan) (vars : TxVars) :
    SqlProg Geometry Failure TxVars := do
  let vars ← structurePhase plan vars
  if vars.structureFindings ≠ [] then
    Prog.raise (.p0001 "transaction failed structure checks", { vars with structureFailed := true })
  else do
    let vars ← geometryPhase gis plan vars
    if vars.geometryFindings ≠ [] then
      Prog.raise (.p0001 "transaction failed geometry checks", { vars with geometryFailed := true })
    else return vars

/-- The phases after the items go through where no link is left to a deleted row. -/
theorem run_afterItems_iff (hplain : Plain plan) {items : List Json} {vars : TxVars}
    {db₁ : Db Geometry}
    (hitems : run (transactionItems gis env plan {} items) db = .ok (vars, db₁)) :
    (∃ vars', run (afterItems gis plan vars) db₁ = .ok (vars', db')) ↔
      db' = db₁ ∧
        ∀ ref ∈ deleteTargets env items, ∀ l ∈ db₁.association, plan.target? l ≠ some ref := by
  have htracks := tracks_transactionItems gis env plan items db vars db₁ hitems
  obtain ⟨vars₁, hstructure, hfindings, -⟩ := run_structurePhase htracks
  obtain ⟨vars₂, hgeometry, hvalid⟩ := run_geometryPhase_plain hplain htracks hstructure
  rw [structureFindingsOf_plain hplain] at hfindings
  have hclean : vars₁.structureFindings = [] ↔
      ∀ ref ∈ deleteTargets env items, ∀ l ∈ db₁.association, plan.target? l ≠ some ref := by
    rw [hfindings, List.map_eq_nil_iff, missingFindings_eq_nil_iff,
      deletedRefs_transactionItems items db vars db₁ hitems]
  rw [← hclean, afterItems, run_bind, hstructure]
  simp only
  split
  · next hfound =>
    refine iff_of_false ?_ fun h => hfound h.2
    rintro ⟨vars', h⟩
    cases h
  · next hnone =>
    rw [run_bind, hgeometry]
    simp only [hvalid, ne_eq, not_true_eq_false, if_false]
    constructor
    · rintro ⟨vars', h⟩
      cases h
      exact ⟨rfl, not_not.mp hnone⟩
    · rintro ⟨rfl, -⟩
      exact ⟨vars₂, rfl⟩

/-- The block goes through where its items do and leave no link to a deleted row. -/
theorem transactionBlock_ok_iff (hplain : Plain plan) {document : Option Json} :
    (∃ vars, run (transactionBlock gis env plan document) db = .ok (vars, db')) ↔
      arrowText env.jsonText document "semantic" = some "atomic" ∧
        ∃ items results, txItems document = .arr items ∧
          applyItems gis env plan items.zipIdx db = .ok (results, db') ∧
          ∀ ref ∈ deleteTargets env items, ∀ l ∈ db'.association, plan.target? l ≠ some ref := by
  have hatomic : (arrowText env.jsonText document "semantic").getD "" = "atomic" ↔
      arrowText env.jsonText document "semantic" = some "atomic" := by
    cases arrowText env.jsonText document "semantic" with
    | none => decide
    | some semantic => simp
  rw [← hatomic, transactionBlock]
  simp only
  split
  · next hsemantic =>
    refine iff_of_false ?_ fun h => hsemantic h.1
    rintro ⟨vars, h⟩
    cases h
  · next hsemantic =>
    split
    · next items hdocument =>
      constructor
      · rintro ⟨vars, hrun⟩
        obtain ⟨vars₀, db₁, hitems, hrest⟩ := run_bind_eq_ok.mp hrun
        have hrest : run (afterItems gis plan vars₀) db₁ = .ok (vars, db') := hrest
        obtain ⟨rfl, hclean⟩ := (run_afterItems_iff hplain hitems).mp ⟨vars, hrest⟩
        obtain ⟨results, hresults, -⟩ := applyItems_of_run _ hitems
        exact ⟨not_not.mp hsemantic, items, results, hdocument, hresults, hclean⟩
      · rintro ⟨-, items', results, hsame, hresults, hclean⟩
        cases hdocument.symm.trans hsame
        obtain ⟨vars₀, hitems⟩ := run_of_applyItems {} hresults
        obtain ⟨vars, hrest⟩ := (run_afterItems_iff hplain hitems).mpr ⟨rfl, hclean⟩
        exact ⟨vars, run_bind_eq_ok.mpr ⟨vars₀, db', hitems, hrest⟩⟩
    · next hdocument =>
      refine iff_of_false ?_ ?_
      · rintro ⟨vars, h⟩
        cases h
      · rintro ⟨-, items, results, hitems, -⟩
        exact hdocument items hitems

/-- A call is accepted where its block goes through. -/
theorem acceptedStep_transaction_iff (hdeployed : deployed dataset = some plan)
    {document : Option Json} :
    acceptedStep gis deployed dataset db (env, .transaction document) = some db' ↔
      ∃ vars, run (transactionBlock gis env plan document) db = .ok (vars, db') := by
  rw [acceptedStep, transaction, hdeployed]
  simp only
  cases hrun : run (transactionBlock gis env plan document) db with
  | ok x =>
    constructor
    · intro h
      cases h
      exact ⟨x.1, rfl⟩
    · rintro ⟨vars, h⟩
      cases h
      rfl
  | error failure =>
    refine iff_of_false (fun h => ?_) ?_
    · obtain ⟨report, hreport, hcommitted⟩ := succeeded_eq_some h
      obtain ⟨report', hhandler, hsame⟩ := Except.map_eq_ok.mp hreport
      cases hsame
      rw [exceptionHandler_not_committed hhandler] at hcommitted
      cases hcommitted
    · rintro ⟨vars, h⟩
      cases h

end Items

/-- **In a dataset without topology a transaction is accepted exactly where its items,
one after another, are accepted as direct writes and leave no link to a row that they
delete, and it leaves the tables that these writes leave.** -/
theorem transaction_accepted_iff (gis : PostGIS Geometry) (env : Env)
    (deployed : String → Option SchemaPlan) (dataset : String) {plan : SchemaPlan}
    (hdeployed : deployed dataset = some plan) (hplain : Plain plan) (document : Option Json)
    (db db' : Db Geometry) :
    acceptedStep gis deployed dataset db (env, .transaction document) = some db' ↔
      arrowText env.jsonText document "semantic" = some "atomic" ∧
        ∃ items calls, txItems document = .arr items ∧
          itemCalls env items.zipIdx = some calls ∧
          Runs.run (acceptedStep gis deployed dataset) db calls = some db' ∧
          ∀ ref ∈ deleteTargets env items, ∀ l ∈ db'.association, plan.target? l ≠ some ref := by
  rw [acceptedStep_transaction_iff hdeployed, transactionBlock_ok_iff hplain]
  constructor
  · rintro ⟨hatomic, items, results, hitems, hresults, hclean⟩
    obtain ⟨calls, hcalls, hrun⟩ := (runs_itemCalls_iff hplain hdeployed).mp ⟨results, hresults⟩
    exact ⟨hatomic, items, calls, hitems, hcalls, hrun, hclean⟩
  · rintro ⟨hatomic, items, calls, hitems, hcalls, hrun, hclean⟩
    obtain ⟨results, hresults⟩ :=
      (runs_itemCalls_iff hplain hdeployed).mpr ⟨calls, hcalls, hrun⟩
    exact ⟨hatomic, items, results, hitems, hresults, hclean⟩

/-- The building gone before its parcel, and another parcel. -/
def Sample.removed : List Json :=
  [Sample.delete "buildings" 2, Sample.delete "parcels" 1,
    Sample.insert "parcels" (Sample.parcel 3)]

theorem plain_cadastre : Plain Sample.cadastre :=
  ⟨by decide, by decide, by decide⟩

theorem transaction_accepted_iff_sample : ∃ db',
    acceptedStep Sample.gis (fun _ => some Sample.cadastre) "cadastre" Sample.built
        (Sample.env, .transaction (Sample.document Sample.removed)) = some db' ∧
      (db'.row? ⟨"parcels", 3⟩).isSome = true ∧ db'.association = ∅ := by
  obtain ⟨calls, hcalls, db', hrun, hclean, hdb'⟩ :
      ∃ calls ∈ itemCalls Sample.env Sample.removed.zipIdx,
        ∃ db' ∈ Runs.run (acceptedStep Sample.gis (fun _ => some Sample.cadastre) "cadastre")
            Sample.built calls,
          (∀ ref ∈ deleteTargets Sample.env Sample.removed, ∀ l ∈ db'.association,
              Sample.cadastre.target? l ≠ some ref) ∧
            (db'.row? ⟨"parcels", 3⟩).isSome = true ∧ db'.association = ∅ := by
    decide +kernel
  exact ⟨db', (transaction_accepted_iff Sample.gis Sample.env (fun _ => some Sample.cadastre)
    "cadastre" rfl plain_cadastre (Sample.document Sample.removed) Sample.built db').mpr
      ⟨rfl, Sample.removed, calls, rfl, hcalls, hrun, hclean⟩, hdb'⟩

end Geocomponents
