/-
A call of `ogc.transaction` applies all of its items or changes nothing, and its
report says which.

* `applyItems` — the items one after another, without the bookkeeping of the
  call;
* `BlockFailure` — the exits of the block: a bad document, an item that does not
  apply, structure findings, geometry findings, an error while measuring;
* `transaction_atomic` — the result.
-/
import Topogdb.Geocomponents.Phases

namespace Geocomponents

open Prog Sql

variable {Geometry : Type} {gis : PostGIS Geometry} {env : Env} {plan : SchemaPlan}

/-! ### The items on their own -/

/-- The writer of an item, with its number. -/
def applyItem (gis : PostGIS Geometry) (env : Env) (plan : SchemaPlan) (x : Json × ℕ)
    (db : Db Geometry) : Except SqlError ((Option String × ItemStatus) × Db Geometry) := do
  let vars := readItem env {} x.1 x.2
  let coll ← currentCollection plan vars.currentCollection
  run (writeItem gis env x.2 coll vars.currentAction vars.currentId vars.currentFeature) db

/-- The report item of an item that applied. -/
def appliedResult (env : Env) (x : Json × ℕ) (written : Option String × ItemStatus) : ItemResult :=
  { index := x.2
    action := arrowText env.jsonText (some x.1) "action"
    collection := arrowText env.jsonText (some x.1) "collection"
    id := written.1
    status := written.2 }

/-- The items one after another. -/
def applyItems (gis : PostGIS Geometry) (env : Env) (plan : SchemaPlan) :
    List (Json × ℕ) → Db Geometry → Except SqlError (List ItemResult × Db Geometry)
  | [], db => .ok ([], db)
  | x :: xs, db => do
    let (written, db) ← applyItem gis env plan x db
    let (results, db) ← applyItems gis env plan xs db
    .ok (appliedResult env x written :: results, db)

/-- A turn of the loop applies its item. -/
theorem ItemRan.applyItem_eq {x : Json × ℕ} {coll : CollectionPlan}
    {written : Option String × ItemStatus} {vars vars' : TxVars} {db db' : Db Geometry}
    (h : ItemRan gis env plan x coll written vars db vars' db') :
    applyItem gis env plan x db = .ok (written, db') := by
  have hcollection : currentCollection plan (readItem env {} x.1 x.2).currentCollection = .ok coll :=
    h.collection
  have hwriter := h.writer
  rw [applyItem]
  simp only [hcollection, Except.ok_bind]
  exact hwriter

/-- The loop applies the items and reports them. -/
theorem applyItems_of_run (items : List (Json × ℕ)) {vars vars' : TxVars} {db db' : Db Geometry}
    (h : run (items.foldlM (transactionItem gis env plan) vars) db = .ok (vars', db')) :
    ∃ results, applyItems gis env plan items db = .ok (results, db') ∧
      vars'.reportItems = vars.reportItems ++ results := by
  induction items generalizing vars db with
  | nil =>
    cases h
    exact ⟨[], rfl, (List.append_nil _).symm⟩
  | cons x xs ih =>
    rw [List.foldlM_cons, run_bind] at h
    cases hitem : run (transactionItem gis env plan vars x) db with
    | error e =>
      rw [hitem] at h
      cases h
    | ok y =>
      rw [hitem] at h
      obtain ⟨coll, written, hran⟩ := ends_transactionItem gis env plan vars x db y.1 y.2 hitem
      obtain ⟨results, hresults, hreport⟩ := ih h
      refine ⟨appliedResult env x written :: results, ?_, ?_⟩
      · simp only [applyItems, hran.applyItem_eq, hresults, Except.ok_bind]
      · rw [hreport, hran.vars_eq, List.append_assoc]
        rfl

/-! ### Items that do not apply -/

theorem fails_currentTargets {coll : CollectionPlan} (id : Option String) (db : Db Geometry) :
    Fails (currentTargets plan coll id) db fun e => castUuid id = .error e := by
  refine Fails.bind (fun e he => run_ofExcept_eq_error.mp he) fun fid db' _ => ?_
  refine Fails.bind (fun e he => ?_) fun _ _ _ => fails_pure
  rw [run_select] at he
  cases he

/-- Without a uuid there is no row to write. -/
theorem writeItem_of_not_castable {n : ℕ} {coll : CollectionPlan} {action id : Option String}
    {feature : Option Json} {db : Db Geometry} {e : SqlError} (hid : castUuid id = .error e)
    (haction : action ≠ some "insert") :
    ∃ e', run (writeItem gis env n coll action id feature) db = .error e' := by
  have hfound : ∀ action' write, run (writeFound coll action' id write : SqlProg Geometry _ _) db
      = .error e := by
    intro action' write
    rw [writeFound, run_bind, run_ofExcept, hid]
    rfl
  unfold writeItem
  split
  · exact absurd rfl haction
  · exact ⟨e, hfound _ _⟩
  · exact ⟨e, hfound _ _⟩
  · exact ⟨e, hfound _ _⟩
  · exact ⟨_, rfl⟩

/-- **A turn of the loop that fails has an item that does not apply**, and leaves
the variables of that item. -/
theorem fails_transactionItem (vars : TxVars) (x : Json × ℕ) (db : Db Geometry) :
    Fails (transactionItem gis env plan vars x) db fun failure =>
      (∃ curves, failure.2 = { readItem env vars x.1 x.2 with dirtyMemberCurves := curves }) ∧
        ∃ e, applyItem gis env plan x db = .error e := by
  rw [transactionItem]
  simp only
  refine Fails.bind (Fails.mapError _ fun e he => ⟨⟨_, rfl⟩, e, ?_⟩) fun coll db' hcoll => ?_
  · have hcollection :
        currentCollection plan (readItem env {} x.1 x.2).currentCollection = .error e :=
      run_ofExcept_eq_error.mp he
    rw [applyItem]
    simp only [hcollection, Except.error_bind]
  · obtain ⟨hcollection, rfl⟩ := run_ofExcept_eq_ok.mp (run_mapError_eq_ok.mp hcoll)
    have happly : applyItem gis env plan x db'
        = run (writeItem gis env x.2 coll (readItem env vars x.1 x.2).currentAction
            (readItem env vars x.1 x.2).currentId (readItem env vars x.1 x.2).currentFeature) db' := by
      have h : currentCollection plan (readItem env {} x.1 x.2).currentCollection = .ok coll :=
        hcollection
      rw [applyItem]
      simp only [h, Except.ok_bind]
      rfl
    rw [happly]
    refine Fails.ite_bind (R := fun _ db'' => db'' = db') (fun haction => ⟨?_, ?_⟩)
      (fun _ => ⟨fails_pure, ends_pure rfl⟩) ?_
    · refine Fails.mapError _ fun e he => ⟨⟨_, rfl⟩, ?_⟩
      exact writeItem_of_not_castable (fails_currentTargets _ db' e he) haction.2
    · exact ((ends_currentTargets _ db').mapError _).mono fun _ _ h => h.1
    rintro before db' rfl
    refine Fails.bind (Fails.mapError _ fun e he => ⟨⟨_, rfl⟩, e, he⟩) fun written db₂ hwriter => ?_
    have hwriter := run_mapError_eq_ok.mp hwriter
    -- the row that was written has a uuid, so the rest does not fail
    obtain ⟨u, hu, -⟩ :=
      ends_writeItem gis env (mem_of_currentCollection hcollection) x.2 _ _ _ db' written db₂ hwriter
    refine Fails.ite_bind (R := fun _ _ => True) (fun _ => ⟨?_, fun _ _ _ => trivial⟩)
      (fun _ => ⟨fails_pure, fun _ _ _ => trivial⟩) fun _ _ _ => fails_pure
    refine Fails.mapError _ fun e he => ?_
    have hcast := fails_currentTargets _ db₂ e he
    rw [castUuid_eq (castable_of_uuid hu)] at hcast
    cases hcast

/-! ### The exits of the block -/

/-- How the block can fail. -/
inductive BlockFailure (gis : PostGIS Geometry) (env : Env) (plan : SchemaPlan)
    (document : Option Json) (db : Db Geometry) : Failure → Prop where
  | document (message : String)
      (hbad : (arrowText env.jsonText document "semantic").getD "" ≠ "atomic" ∨
        ∀ items, txItems document ≠ .arr items) :
      BlockFailure gis env plan document db (.p0001 message, {})
  | item {before after : List Json} {item : Json} {results : List ItemResult} {dbᵢ : Db Geometry}
      {vars : TxVars} {e e' : SqlError} {curves : List DirtyCurve}
      (hitems : txItems document = .arr (before ++ item :: after))
      (hbefore : applyItems gis env plan before.zipIdx db = .ok (results, dbᵢ))
      (hitem : applyItem gis env plan (item, before.length) dbᵢ = .error e')
      (hrun : run (transactionItems gis env plan {} (before ++ item :: after)) db
        = .error (e, { readItem env vars item before.length with dirtyMemberCurves := curves }))
      (hvars : vars.structureFailed = false ∧ vars.geometryFailed = false) :
      BlockFailure gis env plan document db
        (e, { readItem env vars item before.length with dirtyMemberCurves := curves })
  | «structure» {items : List Json} {vars vars' : TxVars} {db₁ : Db Geometry} (message : String)
      (hitems : txItems document = .arr items)
      (hrun : run (transactionItems gis env plan {} items) db = .ok (vars, db₁))
      (hfound : structureFindingsOf plan vars db₁ ≠ [])
      (hfindings : vars'.structureFindings = structureFindingsOf plan vars db₁)
      (hvars : vars'.structureFailed = true) :
      BlockFailure gis env plan document db (.p0001 message, vars')
  | geometry {items : List Json} {vars vars' : TxVars} {db₁ : Db Geometry} (message : String)
      (hitems : txItems document = .arr items)
      (hrun : run (transactionItems gis env plan {} items) db = .ok (vars, db₁))
      (hclean : structureFindingsOf plan vars db₁ = []) (hfound : vars'.geometryFindings ≠ [])
      (hvars : vars'.structureFailed = false ∧ vars'.geometryFailed = true) :
      BlockFailure gis env plan document db (.p0001 message, vars')
  | measuring {items : List Json} {vars vars' : TxVars} {db₁ : Db Geometry} {e : SqlError}
      (hitems : txItems document = .arr items)
      (hrun : run (transactionItems gis env plan {} items) db = .ok (vars, db₁))
      (hclean : structureFindingsOf plan vars db₁ = []) (hphase : vars'.phase = .geometry)
      (hvars : vars'.structureFailed = false ∧ vars'.geometryFailed = false) :
      BlockFailure gis env plan document db (e, vars')

theorem fails_transactionItems {items : List Json} {document : Option Json} {db : Db Geometry}
    (hitems : txItems document = .arr items) :
    Fails (transactionItems gis env plan {} items) db (BlockFailure gis env plan document db) := by
  intro failure hrun
  obtain ⟨before, x, after, vars, dbᵢ, hsplit, hbefore, hfails⟩ := run_foldlM_error hrun
  obtain ⟨before, rest, rfl, rfl, hrest⟩ := List.zipIdx_eq_append_iff.mp hsplit
  obtain ⟨item, after, rfl, rfl, -⟩ := List.zipIdx_eq_cons_iff.mp hrest.symm
  rw [Nat.zero_add] at hfails
  obtain ⟨results, hresults, -⟩ := applyItems_of_run _ hbefore
  obtain ⟨⟨curves, hvars⟩, e, hitem⟩ := fails_transactionItem vars _ dbᵢ failure hfails
  have htracks : Tracks plan db vars dbᵢ :=
    tracks_transactionItems gis env plan before db vars dbᵢ hbefore
  obtain ⟨e', vars'⟩ := failure
  cases hvars
  exact .item hitems hresults hitem hrun htracks.findings.2.2

/-- **The block fails in one of five ways.** -/
theorem fails_transactionBlock (document : Option Json) (db : Db Geometry) :
    Fails (transactionBlock gis env plan document) db (BlockFailure gis env plan document db) := by
  rw [transactionBlock]
  simp only
  split
  · next hbad => exact fails_raise (.document _ (Or.inl hbad))
  · split
    · next items hitems =>
      refine (fails_transactionItems hitems).bind fun vars db₁ hrun => ?_
      have htracks := tracks_transactionItems gis env plan items db vars db₁ hrun
      obtain ⟨vars₁, hstructure, hfindings, htouched, -, hflags⟩ := run_structurePhase htracks
      refine Fails.bind (fun e he => ?_) fun vars₁' db₁' hrun₁ => ?_
      · rw [hstructure] at he
        cases he
      cases hstructure.symm.trans hrun₁
      split
      · next hfound => exact fails_raise (.structure _ hitems hrun (hfindings ▸ hfound) hfindings rfl)
      · next hclean =>
        have hclean : structureFindingsOf plan vars db₁ = [] := hfindings ▸ not_not.mp hclean
        have hgeometry : Fails (geometryPhase gis plan vars₁) db₁
            (BlockFailure gis env plan document db) := by
          rw [geometryPhase]
          split
          · exact fails_pure
          · refine Fails.bind (Fails.mapError _ fun e _ => ?_) fun _ _ _ => fails_pure
            exact .measuring hitems hrun hclean rfl hflags
        refine hgeometry.bind fun vars₂ db₂ hrun₂ => ?_
        split
        · next hfound =>
          obtain ⟨-, hflag, -⟩ := ends_geometryPhase gis htracks htouched vars₂ db₂ hrun₂
          exact fails_raise
            (.geometry _ hitems hrun hclean hfound ⟨hflag.trans hflags.1, rfl⟩)
        · exact fails_pure
    · next hitems => exact fails_raise (.document _ (Or.inr hitems))

/-! ### The report -/

/-- The tables after a call: a call that raises leaves them as they were. -/
def tablesAfter {α : Type} (db : Db Geometry) : Except SqlError (α × Db Geometry) → Db Geometry
  | .ok (_, db') => db'
  | .error _ => db

/-- The status that the report gives for an action. -/
def statusOf : Option String → Option ItemStatus
  | some "insert" => some .created
  | some "replace" => some .updated
  | some "update" => some .updated
  | some "delete" => some .deleted
  | _ => none

/-- The report item of an item that applied. -/
structure Reported (env : Env) (x : Json × ℕ) (r : ItemResult) : Prop where
  index : r.index = x.2
  action : r.action = arrowText env.jsonText (some x.1) "action"
  collection : r.collection = arrowText env.jsonText (some x.1) "collection"
  /-- The id of an insert is the one its writer answers. -/
  id : r.action ≠ some "insert" → r.id = arrowText env.jsonText (some x.1) "id"
  status : statusOf r.action = some r.status
  accepted : r.sqlstate = none ∧ r.reason = none

theorem reported_of_applyItem {x : Json × ℕ} {written : Option String × ItemStatus}
    {db db' : Db Geometry} (h : applyItem gis env plan x db = .ok (written, db')) :
    Reported env x (appliedResult env x written) := by
  obtain ⟨coll, hcoll, hwriter⟩ := Except.bind_eq_ok.mp h
  obtain ⟨u, -, hid, happlied⟩ :=
    ends_writeItem gis env (mem_of_currentCollection hcoll) x.2 _ _ _ db written db' hwriter
  refine ⟨rfl, rfl, rfl, fun haction => ?_, ?_, rfl, rfl⟩
  · exact (hid haction).trans (if_neg haction)
  · have hstatus : ∀ action, Applied plan coll ⟨coll.collectionName, u⟩ db db' action written.2 →
        statusOf action = some written.2 := by
      intro action happlied
      generalize written.2 = status at happlied
      cases happlied <;> rfl
    exact hstatus _ happlied

theorem reported_of_applyItems {xs : List (Json × ℕ)} {results : List ItemResult}
    {db db' : Db Geometry} (h : applyItems gis env plan xs db = .ok (results, db')) :
    List.Forall₂ (Reported env) xs results := by
  induction xs generalizing db results with
  | nil =>
    cases h
    exact .nil
  | cons x xs ih =>
    obtain ⟨⟨written, db₁⟩, hitem, h⟩ := Except.bind_eq_ok.mp h
    obtain ⟨⟨results', db₂⟩, hrest, h⟩ := Except.bind_eq_ok.mp h
    cases h
    exact .cons (reported_of_applyItem hitem) (ih hrest)

/-- Where a report can say what went wrong. -/
inductive Part where
  | reason
  | items
  | «structure»
  | geometry

/-- The parts of a report that are not empty. -/
def Report.parts (report : Report) : List Part :=
  (if report.reason.isSome then [.reason] else []) ++
    (if report.items ≠ [] then [.items] else []) ++
    (if report.structureFindings ≠ [] then [.structure] else []) ++
    (if report.geometryFindings ≠ [] then [.geometry] else [])

/-- The parts that speak of a failure in a phase; measuring can also fail with an
error. -/
def Phase.parts : Phase → List Part
  | .document => [.reason]
  | .items => [.items]
  | .structure => [.structure]
  | .geometry => [.geometry, .reason]

/-- The report item of the first item that does not apply. -/
def RejectedItem (gis : PostGIS Geometry) (env : Env) (plan : SchemaPlan)
    (document : Option Json) (db : Db Geometry) (r : ItemResult) : Prop :=
  ∃ before item after results dbᵢ e, txItems document = .arr (before ++ item :: after) ∧
    applyItems gis env plan before.zipIdx db = .ok (results, dbᵢ) ∧
    applyItem gis env plan (item, before.length) dbᵢ = .error e ∧
    r.index = before.length ∧ r.status = .rejected ∧
    r.action = arrowText env.jsonText (some item) "action" ∧
    r.collection = arrowText env.jsonText (some item) "collection"

/-- What a report says of a block that failed. -/
structure Rejected (gis : PostGIS Geometry) (env : Env) (plan : SchemaPlan)
    (document : Option Json) (db : Db Geometry) (report : Report) : Prop where
  committed : report.committed = false
  part : ∃ part ∈ report.phase.parts, report.parts = [part]
  item : report.phase = .items →
    ∃ r, report.items = [r] ∧ RejectedItem gis env plan document db r

/-- **The handler reports the exit that was taken.** -/
theorem rejected_of_failure {document : Option Json} {db : Db Geometry} {failure : Failure}
    {report : Report} (hfailure : BlockFailure gis env plan document db failure)
    (h : exceptionHandler failure = .ok report) :
    Rejected gis env plan document db report := by
  rw [exceptionHandler] at h
  cases hfailure with
  | document message hbad =>
    simp only [SqlError.syntaxErrorOrAccessRuleViolation_p0001] at h
    cases h
    exact ⟨rfl, ⟨.reason, List.mem_singleton_self _, rfl⟩, fun h => by cases h⟩
  | item hitems hbefore hitem hrun hvars =>
    simp only [readItem, hvars.1, hvars.2] at h
    split at h
    · cases h
    · cases h
      refine ⟨rfl, ⟨.items, List.mem_singleton_self _, rfl⟩, fun _ => ⟨_, rfl, ?_⟩⟩
      exact ⟨_, _, _, _, _, _, hitems, hbefore, hitem, rfl, rfl, rfl, rfl⟩
  | «structure» message hitems hrun hfound hfindings hvars =>
    simp only [SqlError.syntaxErrorOrAccessRuleViolation_p0001, hvars] at h
    cases h
    refine ⟨rfl, ⟨.structure, List.mem_singleton_self _, ?_⟩, fun h => by cases h⟩
    rw [← hfindings] at hfound
    simp [Report.parts, hfound]
  | geometry message hitems hrun hclean hfound hvars =>
    simp only [SqlError.syntaxErrorOrAccessRuleViolation_p0001, hvars] at h
    cases h
    refine ⟨rfl, ⟨.geometry, List.mem_cons_self, ?_⟩, fun h => by cases h⟩
    simp [Report.parts, hfound]
  | measuring hitems hrun hclean hphase hvars =>
    simp only [hvars.1, hvars.2, hphase] at h
    split at h
    · cases h
    · cases h
      refine ⟨rfl, ⟨.reason, List.mem_cons_of_mem _ (List.mem_singleton_self _), rfl⟩, ?_⟩
      intro h
      cases h

/-- The handler raises only errors of class 42. -/
theorem exceptionHandler_raises {failure : Failure} {e : SqlError}
    (h : exceptionHandler failure = .error e) : e.syntaxErrorOrAccessRuleViolation = true := by
  unfold exceptionHandler at h
  simp only at h
  split at h
  · next hclass =>
    cases h
    exact hclass
  · split at h
    · cases h
    · split at h
      · cases h
      · split at h <;> cases h

/-- What a report says of a block that ran: the items one after another, then
only refreshed footprints. -/
def Applies (gis : PostGIS Geometry) (env : Env) (plan : SchemaPlan) (document : Option Json)
    (db : Db Geometry) (report : Report) (db' : Db Geometry) : Prop :=
  ∃ items db₁ surfaces, txItems document = .arr items ∧
    applyItems gis env plan items.zipIdx db = .ok (report.items, db₁) ∧
    List.Forall₂ (Reported env) items.zipIdx report.items ∧
    Refreshed gis plan surfaces db₁ db'

/-- **A call applies its whole document or nothing, its report says which, and it
raises nothing but errors of class 42.** -/
theorem transaction_atomic (gis : PostGIS Geometry) (env : Env)
    (deployed : String → Option SchemaPlan) (dataset : String) (document : Option Json)
    (db : Db Geometry) :
    (∀ e, transaction gis env deployed dataset document db = .error e →
      e.syntaxErrorOrAccessRuleViolation = true ∧
        tablesAfter db (transaction gis env deployed dataset document db) = db) ∧
      ∀ report db', transaction gis env deployed dataset document db = .ok (report, db') →
        ∃ plan, deployed dataset = some plan ∧
          (report.committed = true → Applies gis env plan document db report db') ∧
          (report.committed = false →
            db' = db ∧ Rejected gis env plan document db report) := by
  constructor
  · intro e he
    refine ⟨?_, by rw [he]; rfl⟩
    -- what escapes the handler is of class 42, and the call changes nothing
    rw [transaction] at he
    split at he
    · cases he
      exact SqlError.syntaxErrorOrAccessRuleViolation_undefinedTable _
    · split at he
      · cases he
      · exact exceptionHandler_raises (Except.map_eq_error.mp he)
  · intro report db' hcall
    cases hcommitted : report.committed with
    | true =>
      obtain ⟨plan, items, vars, db₁, hplan, hitems, hdone, rfl⟩ :=
        transaction_committed hcall hcommitted
      -- the loop over the items is `applyItems`, and the report shows its results
      obtain ⟨results, hresults, hreport⟩ := applyItems_of_run items.zipIdx hdone.items
      rw [List.nil_append] at hreport
      have hitems' : (committedReport vars).items = results := hreport
      refine ⟨plan, hplan, fun _ => ⟨items, db₁, _, hitems, ?_, ?_, hdone.refreshed⟩, fun h => ?_⟩
      · rw [hitems', hresults]
      · rw [hitems']
        exact reported_of_applyItems hresults
      · cases h
    | false =>
      have htables := transaction_rejected hcall hcommitted
      rw [transaction] at hcall
      split at hcall
      · cases hcall
      · next plan hplan =>
        refine ⟨plan, hplan, fun h => (by cases h), fun _ => ⟨htables, ?_⟩⟩
        split at hcall
        · cases hcall
          cases hcommitted
        · next failure hfailure =>
          -- the block failed, so its writes are gone and the handler wrote the report
          obtain ⟨report', hhandler, heq⟩ := Except.map_eq_ok.mp hcall
          cases heq
          exact rejected_of_failure (fails_transactionBlock document db failure hfailure) hhandler

end Geocomponents
