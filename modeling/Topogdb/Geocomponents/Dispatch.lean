/-
The direct writes `ogc.feature_*` (`geocomponents/schema/functions.py`,
`_write_dispatch_statement`), and the links of a dataset under all writes.

A direct write goes to a collection with simple features only.  Of the seven
ways to write, a direct delete is the one that does not look at the links to the
row.

* `Call` — a direct write or a transaction, with its environment;
* `links_resolve_iff` — a run of calls never leaves a dangling link exactly when
  no direct delete takes a row away that another row links to.
-/
import Topogdb.Geocomponents.MissingMembers
import Topogdb.Lib.Runs

namespace Geocomponents

open Prog

variable {Geometry : Type} (gis : PostGIS Geometry) (env : Env)
  (deployed : String → Option SchemaPlan) (dataset : String)

/-! ### The dispatch functions -/

/-- `ogc._assert_direct_write_allowed`. -/
def assertDirectWriteAllowed (plan : SchemaPlan) (collection : String) : Except SqlError Unit :=
  if plan.collectionFeatureModel (some collection) = some .topology then
    .error (.p0001 s!"collection {collection} does not support direct write operations")
  else .ok ()

/-- `_write_dispatch_statement`: the generated function of the collection, found
by its name, as one statement. -/
def writeDispatch {α : Type} (operation : String)
    (function : CollectionPlan → Option (SqlProg Geometry SqlError α)) (collection : String)
    (db : Db Geometry) : Except SqlError (α × Db Geometry) :=
  match deployed dataset with
  | none => .error (.undefinedTable (dataset ++ ".collection_capability"))
  | some plan => do
    assertDirectWriteAllowed plan collection
    match (plan.collection? collection).bind function with
    | none => .error (.undefinedFunction s!"{dataset}._{collection}_{operation}")
    | some body => run body db

/-- `ogc.feature_create`. -/
def featureCreate (collection : String) (feature : Option Json) (db : Db Geometry) :
    Except SqlError (Uuid × Db Geometry) :=
  writeDispatch deployed dataset "create" (fun coll => some (create gis env 0 coll feature))
    collection db

/-- `ogc.feature_replace`. -/
def featureReplace (collection : String) (fid : Option Uuid) (feature : Option Json)
    (db : Db Geometry) : Except SqlError (Bool × Db Geometry) :=
  writeDispatch deployed dataset "replace" (fun coll => some (replace gis env coll fid feature))
    collection db

/-- `ogc.feature_update`. -/
def featureUpdate (collection : String) (fid : Option Uuid) (feature : Option Json)
    (db : Db Geometry) : Except SqlError (Bool × Db Geometry) :=
  writeDispatch deployed dataset "update" (fun coll => some (update gis env coll fid feature))
    collection db

/-- `ogc.feature_delete`. -/
def featureDelete (collection : String) (fid : Option Uuid) (db : Db Geometry) :
    Except SqlError (Bool × Db Geometry) :=
  writeDispatch deployed dataset "delete" (fun coll => some (delete coll fid)) collection db

/-- `ogc.feature_upsert`: not every collection has the function. -/
def featureUpsert (collection : String) (feature : Option Json) (db : Db Geometry) :
    Except SqlError (Uuid × Db Geometry) :=
  writeDispatch deployed dataset "upsert"
    (fun coll => if coll.supportsUpsert then some (upsert gis env 0 coll feature) else none)
    collection db

/-! ### Calls -/

/-- A call of one of the functions. -/
inductive Call where
  | create (collection : String) (feature : Option Json)
  | replace (collection : String) (fid : Option Uuid) (feature : Option Json)
  | update (collection : String) (fid : Option Uuid) (feature : Option Json)
  | delete (collection : String) (fid : Option Uuid)
  | upsert (collection : String) (feature : Option Json)
  | transaction (document : Option Json)

/-- The tables after a call. -/
def callStep (db : Db Geometry) (call : Env × Call) : Option (Db Geometry) :=
  match call with
  | (env, .create collection feature) =>
    tablesAfter db (featureCreate gis env deployed dataset collection feature db)
  | (env, .replace collection fid feature) =>
    tablesAfter db (featureReplace gis env deployed dataset collection fid feature db)
  | (env, .update collection fid feature) =>
    tablesAfter db (featureUpdate gis env deployed dataset collection fid feature db)
  | (_, .delete collection fid) => tablesAfter db (featureDelete deployed dataset collection fid db)
  | (env, .upsert collection feature) =>
    tablesAfter db (featureUpsert gis env deployed dataset collection feature db)
  | (env, .transaction document) =>
    tablesAfter db (transaction gis env deployed dataset document db)

/-! ### One call -/

section Step

variable {gis env deployed dataset} {plan : SchemaPlan} {db : Db Geometry}

/-- What holds of the tables after the function, and of the tables before, holds
after the dispatch. -/
theorem writeDispatch_post {α : Type} {operation : String}
    {function : CollectionPlan → Option (SqlProg Geometry SqlError α)} {collection : String}
    {P : Db Geometry → Prop} (hplan : deployed dataset = some plan) (hdb : P db)
    (h : plan.collectionFeatureModel (some collection) ≠ some .topology →
      ∀ coll ∈ plan.collections, coll.collectionName = collection →
      ∀ body, function coll = some body → Ends body db fun _ db' => P db') :
    P (tablesAfter db (writeDispatch deployed dataset operation function collection db)) := by
  rw [writeDispatch, hplan]
  simp only
  by_cases hmodel : plan.collectionFeatureModel (some collection) = some .topology
  · rw [assertDirectWriteAllowed, if_pos hmodel]
    exact hdb
  · rw [assertDirectWriteAllowed, if_neg hmodel, Except.ok_bind]
    split
    · exact hdb
    · next body hbody =>
      obtain ⟨coll, hcoll, hbody⟩ := Option.bind_eq_some_iff.mp hbody
      obtain ⟨hmem, hname⟩ := SchemaPlan.mem_of_collection? hcoll
      cases hrun : run body db with
      | error e => exact hdb
      | ok x => exact h hmodel coll hmem hname body hbody x.1 x.2 hrun

theorem Wrote.resolves {ref : Ref} {db' : Db Geometry} (h : Wrote plan ref db db')
    (hresolves : Resolves plan db) : Resolves plan db' :=
  resolvesBut_nil.mp (h.resolvesBut (resolvesBut_nil.mpr hresolves))

theorem WroteIfFound.resolves {coll : CollectionPlan} {fid : Option Uuid} {found : Bool}
    {db' : Db Geometry} (h : WroteIfFound plan coll fid db found db')
    (hresolves : Resolves plan db) : Resolves plan db' := by
  rcases h with ⟨-, rfl⟩ | ⟨-, id, -, -, hwrote⟩
  · exact hresolves
  · exact hwrote.resolves hresolves

/-- Every call but a direct delete keeps the links resolved. -/
theorem resolves_callStep (hplan : deployed dataset = some plan) {call : Env × Call}
    (hcall : ∀ collection fid, call.2 ≠ .delete collection fid) (hresolves : Resolves plan db)
    {db' : Db Geometry} (hstep : callStep gis deployed dataset db call = some db') :
    Resolves plan db' := by
  obtain ⟨env, call⟩ := call
  cases call with
  | create collection feature =>
    cases hstep
    refine writeDispatch_post hplan hresolves fun _ coll hmem _ body hbody => ?_
    cases hbody
    exact (ends_create gis env hmem 0 feature db).mono fun _ _ h => h.2.1.resolves hresolves
  | replace collection fid feature =>
    cases hstep
    refine writeDispatch_post hplan hresolves fun _ coll hmem _ body hbody => ?_
    cases hbody
    exact (ends_replace gis env hmem fid feature db).mono fun _ _ h => h.resolves hresolves
  | update collection fid feature =>
    cases hstep
    refine writeDispatch_post hplan hresolves fun _ coll hmem _ body hbody => ?_
    cases hbody
    exact (ends_update gis env hmem fid feature db).mono fun _ _ h => h.resolves hresolves
  | delete collection fid => exact absurd rfl (hcall collection fid)
  | upsert collection feature =>
    cases hstep
    refine writeDispatch_post hplan hresolves fun _ coll hmem _ body hbody => ?_
    split at hbody
    · cases hbody
      refine (ends_upsert gis env 0 feature db).mono fun id db' h => ?_
      -- an upsert writes a row and no link
      have hwrote : Wrote plan ⟨coll.collectionName, id⟩ db db' :=
        ⟨h.1, h.2.1, fun l _ => by rw [h.2.2], fun l hl => Or.inl (h.2.2 ▸ hl)⟩
      exact hwrote.resolves hresolves
    · cases hbody
  | transaction document =>
    cases hstep
    cases hrun : transaction gis env deployed dataset document db with
    | error e => exact hresolves
    | ok x =>
      obtain ⟨report, db'⟩ := x
      -- a committed call has found no missing member
      cases hcommitted : report.committed with
      | true =>
        obtain ⟨plan', items, vars, db₁, hplan', -, hdone, -⟩ :=
          transaction_committed hrun hcommitted
        cases hplan.symm.trans hplan'
        exact hdone.resolves hresolves
      | false =>
        rw [transaction_rejected hrun hcommitted]
        exact hresolves

/-- A direct delete takes no row away that another row links to. -/
def DeletesNoTarget (plan : SchemaPlan) (db : Db Geometry) : Call → Prop
  | .delete collection (some id) =>
    plan.collectionFeatureModel (some collection) ≠ some .topology →
      ∀ l ∈ db.association, l.source ≠ ⟨collection, id⟩ → plan.target? l ≠ some ⟨collection, id⟩
  | _ => True

theorem fails_delete {coll : CollectionPlan} {fid : Option Uuid} :
    Fails (delete coll fid) db fun _ => False := by
  cases fid with
  | none => exact fails_pure
  | some id =>
    have hrow : ∀ db : Db Geometry, Fails (query fun seen latest : Db Geometry =>
        if seen.finds latest ⟨coll.collectionName, id⟩ then
          (.ok (true, [Write.deleteRow ⟨coll.collectionName, id⟩]) :
            Except SqlError (Bool × List (Write Geometry)))
        else .ok (false, [])) db fun _ => False := by
      intro db e he
      rw [run_query] at he
      split at he <;> cases he
    rw [delete]
    simp only
    split
    · exact Fails.bind (fun e he => by cases he) fun _ db' _ => hrow db'
    · exact hrow db

/-- The target of a declared link is a known collection. -/
theorem collection?_of_target? {l : Link} {t : Ref} (h : plan.target? l = some t) :
    ∃ coll, plan.collection? t.collection = some coll := by
  obtain ⟨target, htarget, rfl⟩ := Option.map_eq_some_iff.mp h
  obtain ⟨coll, hcoll, -, role, hrole, -, rfl⟩ := SchemaPlan.targetCollection?_cases htarget
  obtain ⟨c, hc, hname⟩ := List.mem_map.mp (plan.targets_known coll hcoll role hrole)
  exact ⟨c, hname ▸ SchemaPlan.collection?_eq hc⟩

/-- After the row is gone, the links resolve if none of another row was to it. -/
theorem Deleted.resolves_iff {coll : CollectionPlan} (hcoll : coll ∈ plan.collections) {ref : Ref}
    (hname : ref.collection = coll.collectionName) {db' : Db Geometry}
    (h : Deleted coll ref db db') (hresolves : Resolves plan db) :
    Resolves plan db' ↔ ∀ l ∈ db.association, l.source ≠ ref → plan.target? l ≠ some ref := by
  constructor
  · intro hresolves' l hl hsource htarget
    have hkept : l ∈ db'.association := (h.links l).mpr ⟨hl, fun hgone => hsource hgone.2⟩
    obtain ⟨-, t, ht, hrow⟩ := hresolves' l hkept
    cases htarget.symm.trans ht
    rw [h.rows, if_pos rfl] at hrow
    cases hrow
  · intro hclean l hl
    have hbut := h.resolvesBut hcoll hname (resolvesBut_nil.mpr hresolves)
    obtain ⟨hsource, t, ht, hrow⟩ := hbut l hl
    refine ⟨hsource, t, ht, hrow.resolve_right fun hgone => ?_⟩
    cases List.mem_singleton.mp hgone
    refine hclean l ((h.links l).mp hl).1 (fun heq => ?_) ht
    -- the row itself is gone
    rw [heq, h.rows, if_pos rfl] at hsource
    cases hsource

/-- **A direct delete keeps the links resolved exactly when it takes no target
away.** -/
theorem resolves_delete_iff (hplan : deployed dataset = some plan) (hresolves : Resolves plan db)
    (collection : String) (fid : Option Uuid) :
    Resolves plan (tablesAfter db (featureDelete deployed dataset collection fid db)) ↔
      DeletesNoTarget plan db (.delete collection fid) := by
  rw [featureDelete, writeDispatch, hplan]
  simp only
  by_cases hmodel : plan.collectionFeatureModel (some collection) = some .topology
  · rw [assertDirectWriteAllowed, if_pos hmodel]
    refine iff_of_true hresolves ?_
    cases fid with
    | none => trivial
    | some id => exact fun h => absurd hmodel h
  · rw [assertDirectWriteAllowed, if_neg hmodel, Except.ok_bind]
    cases hcoll : plan.collection? collection with
    | none =>
      refine iff_of_true hresolves ?_
      cases fid with
      | none => trivial
      | some id =>
        intro _ l _ _ htarget
        obtain ⟨coll, hcoll'⟩ := collection?_of_target? htarget
        cases hcoll.symm.trans hcoll'
    | some coll =>
      obtain ⟨hmem, rfl⟩ := SchemaPlan.mem_of_collection? hcoll
      rw [Option.bind_some]
      simp only
      cases hrun : run (delete coll fid) db with
      | error e => exact (fails_delete e hrun).elim
      | ok x =>
        obtain ⟨found, db'⟩ := x
        rcases ends_delete fid db found db' hrun with ⟨rfl, -, rfl⟩ | ⟨id, rfl, -, hdeleted⟩
        · exact iff_of_true hresolves trivial
        · exact (hdeleted.resolves_iff hmem rfl hresolves).trans
            ⟨fun h _ => h, fun h => h hmodel⟩

end Step

/-! ### Runs of calls -/

/-- **Runs of calls leave no dangling link exactly when no direct delete takes a
row away that another row links to.** -/
theorem links_resolve_iff (gis : PostGIS Geometry) (deployed : String → Option SchemaPlan)
    (dataset : String) (plan : SchemaPlan) (hplan : deployed dataset = some plan)
    (calls : List (Env × Call)) :
    Runs.Along (callStep gis deployed dataset) (fun _ _ db' => Resolves plan db') Db.empty calls ↔
      Runs.Along (callStep gis deployed dataset) (fun db call _ => DeletesNoTarget plan db call.2)
        Db.empty calls := by
  refine Runs.along_congr (I := Resolves plan) (fun db call db' hresolves hstep => ?_)
    (fun _ _ _ _ _ h => h) (resolves_empty plan) calls
  by_cases hdelete : ∃ collection fid, call.2 = .delete collection fid
  · obtain ⟨env, call⟩ := call
    obtain ⟨collection, fid, rfl⟩ := hdelete
    cases hstep
    exact resolves_delete_iff hplan hresolves collection fid
  · have hcall : ∀ collection fid, call.2 ≠ .delete collection fid :=
      fun collection fid h => hdelete ⟨collection, fid, h⟩
    refine iff_of_true (resolves_callStep hplan hcall hresolves hstep) ?_
    obtain ⟨env, call⟩ := call
    cases call with
    | delete collection fid => exact absurd rfl (hcall collection fid)
    | create => trivial
    | replace => trivial
    | update => trivial
    | upsert => trivial
    | transaction => trivial

/-- A parcel with a building on it, both written directly. -/
def Sample.directly : List (Env × Call) :=
  [(Sample.env, .create "parcels" (some (Sample.parcel 1))),
    (Sample.env, .create "buildings" (some (Sample.building 2 1)))]

theorem links_resolve_iff_sample :
    Runs.Along (callStep Sample.gis (fun _ => some Sample.cadastre) "cadastre")
      (fun _ _ db' => Resolves Sample.cadastre db') Db.empty Sample.directly :=
  (links_resolve_iff Sample.gis (fun _ => some Sample.cadastre) "cadastre" Sample.cadastre rfl
    Sample.directly).mpr fun _ _ => ⟨trivial, fun _ _ => ⟨trivial, trivial⟩⟩

/-- Deleting the parcel leaves the link of the building dangling. -/
theorem links_not_resolved : ∃ db,
    Runs.run (callStep Sample.gis (fun _ => some Sample.cadastre) "cadastre") Db.empty
      (Sample.directly ++ [(Sample.env, .delete "parcels" (some 1))]) = some db ∧
    db.association.card = 1 ∧ ¬ Resolves Sample.cadastre db := by
  obtain ⟨db, hrun, hlink, hdangling⟩ : ∃ db ∈ Runs.run
      (callStep Sample.gis (fun _ => some Sample.cadastre) "cadastre") Db.empty
      (Sample.directly ++ [(Sample.env, .delete "parcels" (some 1))]),
      db.association.card = 1 ∧ ¬ Resolves Sample.cadastre db := by decide +kernel
  exact ⟨db, hrun, hlink, hdangling⟩

end Geocomponents
