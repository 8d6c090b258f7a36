/-
The missing-member check of `ogc.transaction`.

The check looks for links to the rows that some item deleted, and does not look
whether such a row is there again.

* `resolves_transactionItems` — after the items, a link without a target row has
  a target that some item deleted;
* `Committed.resolves` — so no committed call leaves a dangling link;
* `missing_exact_iff` — and the findings are exact unless a row that was deleted
  is there again with a link to it.
-/
import Topogdb.Geocomponents.Atomicity
import Topogdb.Geocomponents.StructureCheck

namespace Geocomponents

open Prog Sql

variable {Geometry : Type} {gis : PostGIS Geometry} {env : Env} {plan : SchemaPlan}

/-! ### Links and their rows -/

/-- Every association row has a source row, a declared target and a target row. -/
def Resolves (plan : SchemaPlan) (db : Db Geometry) : Prop :=
  ∀ l ∈ db.association, (db.row? l.source).isSome ∧
    ∃ t, plan.target? l = some t ∧ (db.row? t).isSome

instance (plan : SchemaPlan) (db : Db Geometry) : Decidable (Resolves plan db) :=
  decidable_of_iff (∀ l ∈ db.association, (db.row? l.source).isSome ∧
    (plan.target? l).any fun t => (db.row? t).isSome) <|
    forall₂_congr fun _ _ => and_congr_right fun _ => Option.any_eq_true _ _

theorem resolves_empty (plan : SchemaPlan) : Resolves plan (Db.empty : Db Geometry) :=
  fun l hl => absurd hl (Finset.notMem_empty l)

/-- The same, with the rows that may be gone. -/
def ResolvesBut (plan : SchemaPlan) (gone : List Ref) (db : Db Geometry) : Prop :=
  ∀ l ∈ db.association, (db.row? l.source).isSome ∧
    ∃ t, plan.target? l = some t ∧ ((db.row? t).isSome ∨ t ∈ gone)

theorem resolvesBut_nil {db : Db Geometry} : ResolvesBut plan [] db ↔ Resolves plan db := by
  simp [ResolvesBut, Resolves]

/-- A row with a declared link belongs to a collection with links. -/
theorem roles_ne_nil_of_target? {coll : CollectionPlan} (hcoll : coll ∈ plan.collections)
    {l : Link} {t : Ref} (ht : plan.target? l = some t)
    (hsource : l.source.collection = coll.collectionName) : coll.roles ≠ [] := by
  obtain ⟨target, htarget, -⟩ := Option.map_eq_some_iff.mp ht
  obtain ⟨c, hc, hname, role, hrole, -⟩ := SchemaPlan.targetCollection?_cases htarget
  have heq : c = coll := by
    have hfound := SchemaPlan.collection?_eq hc
    rw [hname, hsource, SchemaPlan.collection?_eq hcoll] at hfound
    exact (Option.some.inj hfound).symm
  rw [← heq]
  exact List.ne_nil_of_mem hrole

/-- A write keeps the links resolved. -/
theorem Wrote.resolvesBut {ref : Ref} {gone : List Ref} {db db' : Db Geometry}
    (hwrote : Wrote plan ref db db') (h : ResolvesBut plan gone db) :
    ResolvesBut plan gone db' := by
  have hkept : ∀ r, (db.row? r).isSome → (db'.row? r).isSome := by
    intro r hr
    by_cases heq : r = ref
    · exact heq ▸ hwrote.present
    · rw [hwrote.rows r heq]
      exact hr
  have hold : ∀ l ∈ db.association, (db'.row? l.source).isSome ∧
      ∃ t, plan.target? l = some t ∧ ((db'.row? t).isSome ∨ t ∈ gone) := by
    intro l hl
    obtain ⟨hsource, t, ht, htarget⟩ := h l hl
    exact ⟨hkept _ hsource, t, ht, htarget.imp_left (hkept t)⟩
  intro l hl
  by_cases hsource : l.source = ref
  · rcases hwrote.new l hl with hmem | ⟨t, ht, hrow⟩
    · exact hold l hmem
    · exact ⟨hsource ▸ hwrote.present, t, ht, Or.inl hrow⟩
  · exact hold l ((hwrote.kept l hsource).mp hl)

/-- A delete takes the links of the row along; those to the row are left. -/
theorem Deleted.resolvesBut {coll : CollectionPlan} (hcoll : coll ∈ plan.collections) {ref : Ref}
    (hname : ref.collection = coll.collectionName) {gone : List Ref} {db db' : Db Geometry}
    (hdeleted : Deleted coll ref db db') (h : ResolvesBut plan gone db) :
    ResolvesBut plan (gone ++ [ref]) db' := by
  intro l hl
  obtain ⟨hmem, hkept⟩ := (hdeleted.links l).mp hl
  obtain ⟨hsource, t, ht, htarget⟩ := h l hmem
  have hne : l.source ≠ ref := by
    intro heq
    exact hkept ⟨roles_ne_nil_of_target? hcoll ht (heq ▸ hname), heq⟩
  refine ⟨?_, t, ht, ?_⟩
  · rw [hdeleted.rows, if_neg hne]
    exact hsource
  · rw [hdeleted.rows, List.mem_append, List.mem_singleton]
    by_cases heq : t = ref
    · exact Or.inr (Or.inr heq)
    · rw [if_neg heq]
      exact htarget.imp_right Or.inl

/-! ### Over the items -/

/-- The rows that the items deleted. -/
def TxVars.deletedRefs (vars : TxVars) : List Ref := vars.deleted.map Prod.snd

theorem ItemRan.resolvesBut {x : Json × ℕ} {coll : CollectionPlan}
    {written : Option String × ItemStatus} {vars vars' : TxVars} {db db' : Db Geometry}
    (h : ItemRan gis env plan x coll written vars db vars' db')
    (hresolves : ResolvesBut plan vars.deletedRefs db) :
    ResolvesBut plan vars'.deletedRefs db' := by
  obtain ⟨u, hu, -, happlied⟩ := h.applied
  have hrefs : vars'.deletedRefs = vars.deletedRefs ++
      if (readItem env vars x.1 x.2).currentAction = some "delete" then
        [⟨coll.collectionName, u⟩]
      else [] := by
    rw [TxVars.deletedRefs, h.deleted_eq hu, List.map_append]
    split <;> rfl
  rw [hrefs]
  generalize (readItem env vars x.1 x.2).currentAction = action at happlied
  generalize written.2 = status at happlied
  have hwrote : action ≠ some "delete" → Wrote plan ⟨coll.collectionName, u⟩ db db' →
      ResolvesBut plan (vars.deletedRefs ++
        if action = some "delete" then [⟨coll.collectionName, u⟩] else []) db' := by
    intro haction hwrote
    rw [if_neg haction, List.append_nil]
    exact hwrote.resolvesBut hresolves
  cases happlied with
  | insert _ hinsert _ => exact hwrote (by decide) hinsert
  | replace _ hreplace => exact hwrote (by decide) hreplace
  | update _ hupdate => exact hwrote (by decide) hupdate
  | delete _ hdeleted => exact hdeleted.resolvesBut h.coll_mem rfl hresolves

/-- **After the items, only the targets that they deleted can be missing.** -/
theorem resolves_transactionItems {db : Db Geometry} (h : Resolves plan db) (items : List Json) :
    Ends (transactionItems gis env plan {} items) db fun vars db' =>
      ResolvesBut plan vars.deletedRefs db' := by
  refine ends_foldlM (I := fun _ (vars : TxVars) db' => ResolvesBut plan vars.deletedRefs db') ?_ _
    (resolvesBut_nil.mpr h)
  intro x _ vars db' hresolves
  refine (ends_transactionItem gis env plan vars x db').mono fun vars' db'' hran => ?_
  obtain ⟨coll, written, hran⟩ := hran
  exact hran.resolvesBut hresolves

/-! ### The findings -/

/-- A finding is a link whose target some item deleted. -/
theorem mem_missingFindings {db : Db Geometry} {deleted : List (ℕ × Ref)} {f : MissingFinding} :
    f ∈ missingFindings plan db deleted ↔ (f.deletedByItem, f.target) ∈ deleted ∧
      ∃ l ∈ db.association, l.source = f.source ∧ l.property = f.property ∧
        plan.target? l = some f.target := by
  rw [missingFindings]
  simp only [List.mem_insertionSort, List.mem_flatMap, List.mem_map, List.mem_filter]
  constructor
  · rintro ⟨collection, -, l, hl, ⟨i, t⟩, ⟨hmem, heq⟩, rfl⟩
    obtain ⟨hl, htarget, -⟩ := Finset.mem_filter.mp (Ordered.mem_list.mp hl)
    refine ⟨hmem, l, hl, rfl, rfl, ?_⟩
    rw [SchemaPlan.target?, htarget]
    exact congrArg some (of_decide_eq_true heq).symm
  · rintro ⟨hmem, l, hl, hsource, hproperty, ht⟩
    obtain ⟨collection, htarget, heq⟩ := Option.map_eq_some_iff.mp ht
    have hrefs : f.target ∈ deleted.map Prod.snd := List.mem_map.mpr ⟨_, hmem, rfl⟩
    refine ⟨f.target.collection, ?_, l, ?_, (f.deletedByItem, f.target), ⟨hmem, ?_⟩, ?_⟩
    · exact Ordered.mem_list.mpr (List.mem_toFinset.mpr (List.mem_map_of_mem hrefs))
    · refine Ordered.mem_list.mpr (Finset.mem_filter.mpr ⟨hl, ?_, ?_⟩)
      · rw [htarget, ← heq]
      · refine List.mem_map.mpr ⟨f.target, List.mem_filter.mpr ⟨hrefs, decide_eq_true rfl⟩, ?_⟩
        rw [← heq]
    · refine decide_eq_true (Ref.ext rfl ?_)
      rw [← heq]
    · obtain ⟨source, property, target, i⟩ := f
      cases hsource
      cases hproperty
      rfl

/-- **No committed call leaves a dangling link.** -/
theorem Committed.resolves {items : List Json} {db db₁ db' : Db Geometry} {vars : TxVars}
    (h : Committed gis env plan items db vars db₁ db') (hresolves : Resolves plan db) :
    Resolves plan db' := by
  obtain ⟨hfindings, -⟩ := List.append_eq_nil_iff.mp h.clean
  obtain ⟨hmissing, -⟩ := List.append_eq_nil_iff.mp hfindings
  rw [List.map_eq_nil_iff] at hmissing
  have hbut := resolves_transactionItems hresolves items vars db₁ h.items
  intro l hl
  rw [h.refreshed.association] at hl
  obtain ⟨hsource, t, ht, htarget⟩ := hbut l hl
  refine ⟨(h.refreshed.isSome_row? l.source).trans hsource, t, ht, ?_⟩
  rw [h.refreshed.isSome_row?]
  refine htarget.resolve_right fun hgone => ?_
  -- a deleted target would be a finding
  obtain ⟨⟨i, t⟩, hmem, rfl⟩ := List.mem_map.mp hgone
  have hfinding : (⟨l.source, l.property, t, i⟩ : MissingFinding) ∈
      missingFindings plan db₁ vars.deleted :=
    mem_missingFindings.mpr ⟨hmem, l, hl, rfl, rfl, ht⟩
  rw [hmissing] at hfinding
  exact List.not_mem_nil hfinding

/-! ### What a call reports -/

/-- The row that a delete item names. -/
def deleteTarget (env : Env) (item : Json) : Option Ref :=
  if arrowText env.jsonText (some item) "action" = some "delete" then do
    let collection ← arrowText env.jsonText (some item) "collection"
    refOf collection (arrowText env.jsonText (some item) "id")
  else none

/-- The rows that the delete items of a document name. -/
def deleteTargets (env : Env) (items : List Json) : List Ref := items.filterMap (deleteTarget env)

theorem ItemRan.deletedRefs_eq {x : Json × ℕ} {coll : CollectionPlan}
    {written : Option String × ItemStatus} {vars vars' : TxVars} {db db' : Db Geometry}
    (h : ItemRan gis env plan x coll written vars db vars' db') :
    vars'.deletedRefs = vars.deletedRefs ++ (deleteTarget env x.1).toList := by
  obtain ⟨u, hu, hid, -⟩ := h.applied
  have hcollection : arrowText env.jsonText (some x.1) "collection" = some coll.collectionName :=
    name_of_currentCollection h.collection
  rw [TxVars.deletedRefs, deleteTarget, h.deleted_eq hu, List.map_append]
  congr 1
  by_cases hdelete : arrowText env.jsonText (some x.1) "action" = some "delete"
  · have hinsert : arrowText env.jsonText (some x.1) "action" ≠ some "insert" := by
      rw [hdelete]
      decide
    have hwritten : written.1 = arrowText env.jsonText (some x.1) "id" :=
      (hid hinsert).trans (if_neg hinsert)
    rw [if_pos hdelete, hcollection, ← hwritten]
    show List.map Prod.snd (if arrowText env.jsonText (some x.1) "action" = some "delete" then
      [(x.2, (⟨coll.collectionName, u⟩ : Ref))] else []) = (refOf coll.collectionName written.1).toList
    rw [if_pos hdelete, refOf_eq hu]
    rfl
  · rw [if_neg hdelete]
    show List.map Prod.snd (if arrowText env.jsonText (some x.1) "action" = some "delete" then
      [(x.2, (⟨coll.collectionName, u⟩ : Ref))] else []) = []
    rw [if_neg hdelete]
    rfl

/-- The loop deletes what its delete items name. -/
theorem deletedRefs_transactionItems (items : List Json) (db : Db Geometry) :
    Ends (transactionItems gis env plan {} items) db fun vars _ =>
      vars.deletedRefs = deleteTargets env items := by
  have hloop : ∀ (xs : List (Json × ℕ)) (vars : TxVars) (db : Db Geometry),
      Ends (xs.foldlM (transactionItem gis env plan) vars) db fun vars' _ =>
        vars'.deletedRefs = vars.deletedRefs ++ (xs.map Prod.fst).filterMap (deleteTarget env) := by
    intro xs
    induction xs with
    | nil => exact fun vars db => ends_pure (List.append_nil _).symm
    | cons x xs ih =>
      intro vars db
      rw [List.foldlM_cons]
      refine (ends_transactionItem gis env plan vars x db).bind ?_
      rintro vars' db' ⟨coll, written, hran⟩
      refine (ih vars' db').mono fun vars'' _ h => ?_
      rw [h, hran.deletedRefs_eq, List.append_assoc, List.map_cons]
      cases hx : deleteTarget env x.1 with
      | none => rw [List.filterMap_cons_none hx, Option.toList_none, List.nil_append]
      | some t => rw [List.filterMap_cons_some hx, Option.toList_some, List.singleton_append]
  refine (hloop items.zipIdx {} db).mono fun vars _ h => ?_
  rw [h, List.zipIdx_map_fst]
  rfl

theorem structureFindings_of_exceptionHandler {failure : Failure} {report : Report}
    (h : exceptionHandler failure = .ok report) :
    report.structureFindings =
      if failure.2.structureFailed then failure.2.structureFindings else [] := by
  unfold exceptionHandler at h
  simp only at h
  split at h
  · cases h
  · split at h
    · next hstructure =>
      cases h
      rw [if_pos hstructure]
    · next hstructure =>
      rw [if_neg hstructure]
      split at h
      · cases h
        rfl
      · split at h
        · cases h
          rfl
        · cases h
          rfl

/-- When all items apply, the report has the findings of the structure phase. -/
theorem report_structureFindings {deployed : String → Option SchemaPlan} {dataset : String}
    {document : Option Json} {items : List Json} {db db₁ db' : Db Geometry} {vars : TxVars}
    {report : Report} (hplan : deployed dataset = some plan)
    (hatomic : arrowText env.jsonText document "semantic" = some "atomic")
    (hitems : txItems document = .arr items)
    (hrun : run (transactionItems gis env plan {} items) db = .ok (vars, db₁))
    (hcall : transaction gis env deployed dataset document db = .ok (report, db')) :
    report.structureFindings = structureFindingsOf plan vars db₁ := by
  rw [transaction, hplan] at hcall
  simp only at hcall
  split at hcall
  · next vars' _ hblock =>
    cases hcall
    obtain ⟨items', vars₀, db₀, hitems', hdone, -⟩ :=
      ends_transactionBlock gis env plan document db vars' _ hblock
    cases hitems.symm.trans hitems'
    cases hrun.symm.trans hdone.items
    exact hdone.clean.symm
  · next failure hblock =>
    obtain ⟨report', hhandler, heq⟩ := Except.map_eq_ok.mp hcall
    cases heq
    rw [structureFindings_of_exceptionHandler hhandler]
    cases fails_transactionBlock document db failure hblock with
    | document message hbad =>
      rcases hbad with hbad | hbad
      · rw [hatomic] at hbad
        exact absurd rfl hbad
      · exact absurd hitems (hbad items)
    | item hitems' hbefore hitem hrun' hvars =>
      cases hitems.symm.trans hitems'
      cases hrun.symm.trans hrun'
    | «structure» message hitems' hrun' hfound hfindings hvars =>
      cases hitems.symm.trans hitems'
      cases hrun.symm.trans hrun'
      rw [if_pos hvars, hfindings]
    | geometry message hitems' hrun' hclean hfound hvars =>
      cases hitems.symm.trans hitems'
      cases hrun.symm.trans hrun'
      rw [if_neg (by rw [hvars.1]; decide), hclean]
    | measuring hitems' hrun' hclean hphase hvars =>
      cases hitems.symm.trans hitems'
      cases hrun.symm.trans hrun'
      rw [if_neg (by rw [hvars.1]; decide), hclean]

/-! ### A dataset of parcels and buildings -/

namespace Sample

def parcels : CollectionPlan :=
  { collectionName := "parcels"
    featureModel := .simple
    geometry := ⟨"MultiPolygon", 4326, false, false⟩ }

def buildings : CollectionPlan :=
  { collectionName := "buildings"
    featureModel := .simple
    geometry := ⟨"MultiPolygon", 4326, false, false⟩
    roles := [⟨"parcel", "parcels", "id"⟩] }

def cadastre : SchemaPlan where
  schemaName := "cadastre"
  collections := [parcels, buildings]
  names_nodup := by decide
  roles_nodup := by decide
  targets_known := by decide
  derived_declared := by
    intro coll hcoll derived h
    simp only [List.mem_cons, List.not_mem_nil, or_false] at hcoll
    rcases hcoll with rfl | rfl <;> cases h
  members_not_derived := by
    intro coll hcoll derived h
    simp only [List.mem_cons, List.not_mem_nil, or_false] at hcoll
    rcases hcoll with rfl | rfl <;> cases h

def parcel (id : Uuid) : Json :=
  .obj [("id", .str (Uuid.text id)), ("geometry", .obj []), ("properties", .obj [])]

def building (id parcel : Uuid) : Json :=
  .obj [("id", .str (Uuid.text id)), ("geometry", .obj []), ("properties", .obj
    [("parcel", .arr [.obj
      [("featuretype", .str "parcels"), ("id", .str (Uuid.text parcel))]])])]

def insert (collection : String) (feature : Json) : Json :=
  .obj [("action", .str "insert"), ("collection", .str collection), ("feature", feature)]

def delete (collection : String) (id : Uuid) : Json :=
  .obj [("action", .str "delete"), ("collection", .str collection), ("id", .str (Uuid.text id))]

def row : Row Unit := ⟨some (), fun _ => none, Sample.env.now, Sample.env.now⟩

/-- A building on its parcel. -/
def built : Db Unit :=
  { rows := (Finmap.singleton ⟨"parcels", 1⟩ row).insert ⟨"buildings", 2⟩ row
    association := {⟨⟨"buildings", 2⟩, "parcel", 1⟩} }

theorem resolves_built : Resolves cadastre built := by decide +kernel

/-- The parcel deleted and inserted again. -/
def replaced : List Json := [delete "parcels" 1, insert "parcels" (parcel 1)]

end Sample

/-! ### The result -/

/-- The report has a missing-member finding. -/
def ReportsMissing (report : Report) (source : Ref) (property : String) (target : Ref) : Prop :=
  ∃ f, .missing f ∈ report.structureFindings ∧ f.source = source ∧ f.property = property ∧
    f.target = target

/-- The missing-member findings are the association rows whose target row does
not exist. -/
def MissingExact (plan : SchemaPlan) (report : Report) (db : Db Geometry) : Prop :=
  ∀ source property target, ReportsMissing report source property target ↔
    ∃ l ∈ db.association, l.source = source ∧ l.property = property ∧
      plan.target? l = some target ∧ db.row? target = none

/-- The findings are the links to rows that some item deleted. -/
theorem reportsMissing_iff {report : Report} {vars : TxVars} {db : Db Geometry}
    (h : report.structureFindings = structureFindingsOf plan vars db) {source : Ref}
    {property : String} {target : Ref} :
    ReportsMissing report source property target ↔ target ∈ vars.deletedRefs ∧
      ∃ l ∈ db.association, l.source = source ∧ l.property = property ∧
        plan.target? l = some target := by
  have hmem : ∀ f, .missing f ∈ report.structureFindings ↔
      f ∈ missingFindings plan db vars.deleted := by
    intro f
    rw [h]
    simp [structureFindingsOf]
  constructor
  · rintro ⟨f, hf, rfl, rfl, rfl⟩
    obtain ⟨hdeleted, hlink⟩ := mem_missingFindings.mp ((hmem f).mp hf)
    exact ⟨List.mem_map_of_mem hdeleted, hlink⟩
  · rintro ⟨hdeleted, hlink⟩
    obtain ⟨⟨i, t⟩, hi, rfl⟩ := List.mem_map.mp hdeleted
    exact ⟨⟨source, property, t, i⟩, (hmem _).mpr (mem_missingFindings.mpr ⟨hi, hlink⟩),
      rfl, rfl, rfl⟩

/-- **The missing-member check is exact unless a row that the document deletes is
there again after the last item, with a link to it.** -/
theorem missing_exact_iff (deployed : String → Option SchemaPlan) (dataset : String)
    (document : Option Json) {items : List Json} {db db₁ db' : Db Geometry} {vars : TxVars}
    {report : Report} (hplan : deployed dataset = some plan)
    (hatomic : arrowText env.jsonText document "semantic" = some "atomic")
    (hitems : txItems document = .arr items) (hresolves : Resolves plan db)
    (hrun : run (transactionItems gis env plan {} items) db = .ok (vars, db₁))
    (hcall : transaction gis env deployed dataset document db = .ok (report, db')) :
    MissingExact plan report db₁ ↔ ∀ t ∈ deleteTargets env items, (db₁.row? t).isSome →
      ∀ l ∈ db₁.association, plan.target? l ≠ some t := by
  have hreport := report_structureFindings hplan hatomic hitems hrun hcall
  have hdeleted : vars.deletedRefs = deleteTargets env items :=
    deletedRefs_transactionItems items db vars db₁ hrun
  constructor
  · intro hexact t ht hrow l hl htarget
    have hreported : ReportsMissing report l.source l.property t :=
      (reportsMissing_iff hreport).mpr ⟨hdeleted ▸ ht, l, hl, rfl, rfl, htarget⟩
    obtain ⟨-, -, -, -, -, hnone⟩ := (hexact l.source l.property t).mp hreported
    rw [hnone] at hrow
    cases hrow
  · intro hgone source property target
    rw [reportsMissing_iff hreport]
    constructor
    · rintro ⟨hmem, l, hl, rfl, rfl, htarget⟩
      refine ⟨l, hl, rfl, rfl, htarget, ?_⟩
      by_contra hne
      exact hgone target (hdeleted ▸ hmem) (Option.ne_none_iff_isSome.mp hne) l hl htarget
    · rintro ⟨l, hl, rfl, rfl, htarget, hnone⟩
      refine ⟨?_, l, hl, rfl, rfl, htarget⟩
      -- only a deleted target can be missing
      obtain ⟨-, t, ht, hrow⟩ := resolves_transactionItems hresolves items vars db₁ hrun l hl
      cases htarget.symm.trans ht
      refine hrow.resolve_left fun hsome => ?_
      rw [hnone] at hsome
      cases hsome

/-- Deleting a parcel under its building is judged exactly. -/
theorem missing_exact_iff_sample : ∃ report db' vars db₁,
    transaction Sample.gis Sample.env (fun _ => some Sample.cadastre) "cadastre"
      (Sample.document [Sample.delete "parcels" 1]) Sample.built = .ok (report, db') ∧
    run (transactionItems Sample.gis Sample.env Sample.cadastre {} [Sample.delete "parcels" 1])
      Sample.built = .ok (vars, db₁) ∧
    MissingExact Sample.cadastre report db₁ := by
  obtain ⟨⟨report, db'⟩, hcall, -⟩ : ∃ x, transaction Sample.gis Sample.env
      (fun _ => some Sample.cadastre) "cadastre" (Sample.document [Sample.delete "parcels" 1])
      Sample.built = .ok x ∧ True := by decide +kernel
  obtain ⟨⟨vars, db₁⟩, hrun, hgone⟩ : ∃ x, run (transactionItems Sample.gis Sample.env
      Sample.cadastre {} [Sample.delete "parcels" 1]) Sample.built = .ok x ∧
      ∀ t ∈ deleteTargets Sample.env [Sample.delete "parcels" 1], (x.2.row? t).isSome →
        ∀ l ∈ x.2.association, Sample.cadastre.target? l ≠ some t := by decide +kernel
  exact ⟨report, db', vars, db₁, hcall, hrun, (missing_exact_iff (fun _ => some Sample.cadastre)
    "cadastre" (Sample.document [Sample.delete "parcels" 1]) rfl rfl rfl Sample.resolves_built hrun
    hcall).mpr hgone⟩

/-- A parcel that is deleted and inserted again in one document is reported
missing, although it is there and its building is linked to it. -/
theorem missing_not_exact : ∃ report db' vars db₁,
    transaction Sample.gis Sample.env (fun _ => some Sample.cadastre) "cadastre"
      (Sample.document Sample.replaced) Sample.built = .ok (report, db') ∧
    Resolves Sample.cadastre Sample.built ∧
    run (transactionItems Sample.gis Sample.env Sample.cadastre {} Sample.replaced)
      Sample.built = .ok (vars, db₁) ∧
    report.committed = false ∧ Resolves Sample.cadastre db₁ ∧
    ¬ MissingExact Sample.cadastre report db₁ := by
  obtain ⟨⟨report, db'⟩, hcall, hcommitted, hfinding⟩ : ∃ x, transaction Sample.gis Sample.env
      (fun _ => some Sample.cadastre) "cadastre" (Sample.document Sample.replaced) Sample.built
        = .ok x ∧ x.1.committed = false ∧
      .missing ⟨⟨"buildings", 2⟩, "parcel", ⟨"parcels", 1⟩, 0⟩ ∈ x.1.structureFindings := by
    decide +kernel
  obtain ⟨⟨vars, db₁⟩, hrun, hresolves, hrow⟩ : ∃ x, run (transactionItems Sample.gis Sample.env
      Sample.cadastre {} Sample.replaced) Sample.built = .ok x ∧
      Resolves Sample.cadastre x.2 ∧ (x.2.row? ⟨"parcels", 1⟩).isSome := by
    decide +kernel
  refine ⟨report, db', vars, db₁, hcall, Sample.resolves_built, hrun, hcommitted, hresolves, ?_⟩
  intro hexact
  obtain ⟨-, -, -, -, -, hnone⟩ :=
    (hexact ⟨"buildings", 2⟩ "parcel" ⟨"parcels", 1⟩).mp ⟨_, hfinding, rfl, rfl, rfl⟩
  exact absurd hnone (Option.ne_none_iff_isSome.mpr hrow)

end Geocomponents
