/-
The accepted direct writes are writes to one row.

What a direct write does to the tables is settled by its document and its
environment; of the tables it only asks what a `RowWrite` asks.

* `documentLinks` — the links that a document names, without looking for their
  targets; `run_linkValidation_eq_ok_iff` — the validation accepts them exactly where
  all targets are there;
* `rowWrite` — the write that a call makes;
* `acceptedStep_eq` — the call is accepted where this write is, with the same tables.
-/
import Topogdb.Geocomponents.DirectWrites
import Topogdb.Geocomponents.RowWrites
import Topogdb.Geocomponents.ShownLinks
import Topogdb.Lib.Related

namespace Geocomponents

open Prog Sql

variable {Geometry : Type}

/-! ### The links that a document names -/

/-- The target that an element names. -/
def namedTarget (env : Env) (role : CollectionRolePlan) (elem : Json) : Option Uuid :=
  if (ne (typeOf (some elem)) (some "object")).holds ∨
      arrowText env.jsonText (some elem) "featuretype" ≠ some role.targetCollection ∨
      (hasKey (some elem) role.oiLeaf).not.holds then none
  else (arrowText env.jsonText (some elem) role.oiLeaf).bind Uuid.uuidIn

/-- The targets that a property names. -/
def namedTargets (env : Env) (feature : Option Json) (role : CollectionRolePlan) :
    Option (List Uuid) :=
  if (hasKey (properties feature) role.property).holds then
    match arrow (properties feature) role.property with
    | none => some []
    | some (.arr elems) => (elems.mapM (namedTarget env role)).filter fun ids => ids.Nodup
    | some _ => none
  else some []

/-- The targets that the properties of a document name. -/
def documentLinks (env : Env) (roles : List CollectionRolePlan) (feature : Option Json) :
    Option (List (CollectionRolePlan × List Uuid)) :=
  roles.mapM fun role => (namedTargets env feature role).map fun ids => (role, ids)

/-- The rows that links go to. -/
def linkedRows (links : List (CollectionRolePlan × List Uuid)) : List Ref :=
  links.flatMap fun x => x.2.map fun id => ⟨x.1.targetCollection, id⟩

section Links

variable {env : Env} {db db' : Db Geometry} {role : CollectionRolePlan} {feature : Option Json}

/-- An element passes where it names a target that is there. -/
theorem run_linkTarget_eq_ok_iff {elem : Json} {id : Uuid} :
    run (linkTarget env role elem) db = .ok (id, db) ↔ namedTarget env role elem = some id ∧
      (db.row? ⟨role.targetCollection, id⟩).isSome = true := by
  have hchecks : ∀ {a c : Tri} {b : Prop} [Decidable b] {ma mb mc : String}, (do
      raiseIf a ma
      raiseIf (some (decide b)) mb
      raiseIf c mc : Except SqlError Unit) = .ok () ↔
        ¬ (a.holds = true ∨ b ∨ c.holds = true) := by
    intro a c b _ ma mb mc
    simp only [Except.seq_eq_ok, raiseIf_eq_ok, Tri.holds, decide_eq_true_eq, not_or,
      Option.some.injEq, ne_eq]
  -- the target is looked up when its element has passed the checks
  have hfound : ∀ (target : Uuid) (missing : String), run (do
        let found ← Prog.select fun db => .ok (db.row? ⟨role.targetCollection, target⟩).isSome
        if found then Pure.pure target
        else Prog.raise (.p0001 missing) : SqlProg Geometry SqlError Uuid) db = .ok (id, db) ↔
      target = id ∧ (db.row? ⟨role.targetCollection, id⟩).isSome = true := by
    intro target missing
    rw [run_bind, run_select]
    simp only [Except.map]
    cases hrow : (db.row? ⟨role.targetCollection, target⟩).isSome with
    | true =>
      constructor
      · intro h
        cases h
        exact ⟨rfl, hrow⟩
      · rintro ⟨rfl, -⟩
        rfl
    | false =>
      refine iff_of_false (fun h => by cases h) ?_
      rintro ⟨rfl, hpresent⟩
      rw [hrow] at hpresent
      cases hpresent
  rw [linkTarget, namedTarget]
  simp only [run_bind_eq_ok, run_ofExcept_eq_ok]
  generalize (arrowText env.jsonText (some elem) role.oiLeaf).bind Uuid.uuidIn = value
  constructor
  · rintro ⟨_, _, ⟨hchecked, rfl⟩, hrest⟩
    rw [if_neg (hchecks.mp hchecked)]
    cases value with
    | none => cases hrest
    | some target =>
      obtain ⟨rfl, hpresent⟩ := (hfound _ _).mp hrest
      exact ⟨rfl, hpresent⟩
  · rintro ⟨hnamed, hrow⟩
    split at hnamed
    · cases hnamed
    · next hchecked =>
      subst hnamed
      exact ⟨(), db, ⟨hchecks.mpr hchecked, rfl⟩, (hfound _ _).mpr ⟨rfl, hrow⟩⟩

theorem namedTargets_array {elems : List Json}
    (hkey : (hasKey (properties feature) role.property).holds = true)
    (harray : arrow (properties feature) role.property = some (.arr elems)) :
    namedTargets env feature role =
      (elems.mapM (namedTarget env role)).filter fun ids => ids.Nodup := by
  rw [namedTargets, if_pos hkey, harray]

theorem namedTargets_other (hkey : (hasKey (properties feature) role.property).holds = true)
    {v : Json} (hvalue : arrow (properties feature) role.property = some v)
    (hother : ∀ elems, v = .arr elems → False) : namedTargets env feature role = none := by
  rw [namedTargets, if_pos hkey, hvalue]
  cases v with
  | arr elems => exact (hother elems rfl).elim
  | _ => rfl

theorem namedTargets_noMember (hnone : arrow (properties feature) role.property = none) :
    namedTargets env feature role = some [] := by
  rw [namedTargets, hnone]
  exact ite_self _

theorem namedTargets_absent
    (hkey : ¬ (hasKey (properties feature) role.property).holds = true) :
    namedTargets env feature role = some [] := by
  rw [namedTargets, if_neg hkey]

/-- A property passes where it names targets that are there. -/
theorem run_linkIds_eq_ok_iff {ids : List Uuid} :
    run (linkIds env feature role) db = .ok (ids, db) ↔
      namedTargets env feature role = some ids ∧
        ∀ id ∈ ids, (db.row? ⟨role.targetCollection, id⟩).isSome = true := by
  -- a property that is not named, or has no value, names no target
  have hnothing : run (Pure.pure [] : SqlProg Geometry SqlError (List Uuid)) db = .ok (ids, db) ↔
      some [] = some ids ∧ ∀ id ∈ ids, (db.row? ⟨role.targetCollection, id⟩).isSome = true := by
    constructor
    · intro h
      cases h
      exact ⟨rfl, fun id hid => absurd hid List.not_mem_nil⟩
    · rintro ⟨h, -⟩
      cases h
      rfl
  rw [linkIds]
  split
  · next hkey =>
    split
    · next hnone =>
      rw [namedTargets_noMember hnone]
      exact hnothing
    · next elems harray =>
      have hreads : ∀ elem ∈ elems, Ends (linkTarget env role elem) db fun _ db' => db' = db :=
        fun elem _ => linkTarget_reads env role elem db
      -- element by element: all targets are named, and all are there
      have hall : ∀ found, run (elems.mapM (linkTarget env role)) db = .ok (found, db) ↔
          elems.mapM (namedTarget env role) = some found ∧
            ∀ id ∈ found, (db.row? ⟨role.targetCollection, id⟩).isSome = true := by
        intro found
        rw [run_mapM_eq_ok hreads, List.mapM_eq_some_iff, ← List.forall₂_and_right]
        simp only [run_linkTarget_eq_ok_iff]
      rw [namedTargets_array hkey harray, run_bind_eq_ok, Option.filter_eq_some_iff]
      constructor
      · rintro ⟨found, db₁, hmap, hnodup⟩
        obtain ⟨rfl, -⟩ := ends_mapM (P := fun _ => True)
          (fun elem helem => (hreads elem helem).mono fun _ _ h => ⟨h, trivial⟩) _ _ hmap
        obtain ⟨hnamed, hrows⟩ := (hall found).mp hmap
        split at hnodup
        · next h =>
          cases hnodup
          exact ⟨⟨hnamed, decide_eq_true h⟩, hrows⟩
        · cases hnodup
      · rintro ⟨⟨hnamed, hnodup⟩, hrows⟩
        refine ⟨ids, db, (hall ids).mpr ⟨hnamed, hrows⟩, ?_⟩
        rw [if_pos (of_decide_eq_true hnodup)]
        rfl
    · next v hother hvalue =>
      rw [namedTargets_other hkey hvalue hother]
      exact iff_of_false (fun h => by cases h) (fun h => by cases h.1)
  · next hkey =>
    rw [namedTargets_absent hkey]
    exact hnothing

/-- **The links of a document pass where it names targets that are all there.** -/
theorem run_linkValidation_eq_ok_iff {roles : List CollectionRolePlan}
    {links : List (CollectionRolePlan × List Uuid)} :
    run (linkValidation env roles feature) db = .ok (links, db) ↔
      documentLinks env roles feature = some links ∧
        ∀ t ∈ linkedRows links, (db.row? t).isSome = true := by
  have hone : ∀ (role : CollectionRolePlan) (x : CollectionRolePlan × List Uuid),
      (x.1 = role ∧ run (linkIds env feature role) db = .ok (x.2, db)) ↔
        (namedTargets env feature role).map (fun ids => (role, ids)) = some x ∧
          ∀ id ∈ x.2, (db.row? ⟨x.1.targetCollection, id⟩).isSome = true := by
    rintro role ⟨role', ids⟩
    rw [run_linkIds_eq_ok_iff, Option.map_eq_some_iff]
    constructor
    · rintro ⟨rfl, hnamed, hrows⟩
      exact ⟨⟨ids, hnamed, rfl⟩, hrows⟩
    · rintro ⟨⟨ids', hnamed, h⟩, hrows⟩
      cases h
      exact ⟨rfl, hnamed, hrows⟩
  have hrows : (∀ t ∈ linkedRows links, (db.row? t).isSome = true) ↔
      ∀ x ∈ links, ∀ id ∈ x.2, (db.row? ⟨x.1.targetCollection, id⟩).isSome = true := by
    simp only [linkedRows, List.mem_flatMap, List.mem_map]
    constructor
    · exact fun h x hx id hid => h _ ⟨x, hx, id, hid, rfl⟩
    · rintro h _ ⟨x, hx, id, hid, rfl⟩
      exact h x hx id hid
  rw [run_linkValidation_iff, documentLinks, List.mapM_eq_some_iff, hrows, ← List.forall₂_and_right]
  simp only [hone]

theorem roles_of_documentLinks {roles : List CollectionRolePlan}
    {links : List (CollectionRolePlan × List Uuid)}
    (h : documentLinks env roles feature = some links) : links.map Prod.fst = roles := by
  rw [documentLinks, List.mapM_eq_some_iff] at h
  induction h with
  | nil => rfl
  | cons hx _ ih =>
    obtain ⟨ids, -, rfl⟩ := Option.map_eq_some_iff.mp hx
    rw [List.map_cons, ih]

end Links

/-! ### The writes of the functions -/

section Functions

variable (gis : PostGIS Geometry) (env : Env) (coll : CollectionPlan)

/-- The links of a source are its own. -/
theorem source_of_mem_namedLinks {source : Ref} {feature : Option Json}
    {links : List (CollectionRolePlan × List Uuid)} :
    ∀ l ∈ (namedLinks source feature links).toFinset, l.source = source :=
  fun _ hl => (mem_namedLinks.mp (List.mem_toFinset.mp hl)).1

/-- The write of `_fn_create`. -/
def createRowWrite (feature : Option Json) : Option (RowWrite Geometry) := do
  (idChecks env coll feature).toOption
  (guardBlock gis env coll false feature).toOption
  let links ← documentLinks env coll.roles feature
  (idsDisagree env coll feature).toOption
  let values ← (completeValues gis env coll feature).toOption
  let ref : Ref := ⟨coll.collectionName, (givenId env coll feature).getD (env.genRandomUuid 0)⟩
  some
    { ref := ref
      present := some false
      targets := linkedRows links
      row := fun _ => some (newRow env 0 coll values)
      clears := fun _ => false
      links := (namedLinks ref feature links).toFinset
      links_source := source_of_mem_namedLinks }

/-- The write of a row that is there, with the values that are computed for it. -/
def existingRowWrite (guardedByPresence : Bool) (id : Uuid) (feature : Option Json)
    (values : Except SqlError (Assignments Geometry))
    (clears : List (CollectionRolePlan × List Uuid) → String → Bool) :
    Option (RowWrite Geometry) := do
  (guardBlock gis env coll guardedByPresence feature).toOption
  (oiGuard env coll (some id) feature).toOption
  let links ← documentLinks env coll.roles feature
  let values ← values.toOption
  some
    { ref := ⟨coll.collectionName, id⟩
      present := some true
      targets := linkedRows links
      row := Option.map fun row => row.assign values env.now
      clears := clears links
      links := (namedLinks ⟨coll.collectionName, id⟩ feature links).toFinset
      links_source := source_of_mem_namedLinks }

/-- The write of `_fn_replace`. -/
def replaceRowWrite (id : Uuid) (feature : Option Json) : Option (RowWrite Geometry) :=
  existingRowWrite gis env coll false id feature (completeValues gis env coll feature)
    fun _ property => coll.roles.any fun role => role.property = property

/-- The write of `_fn_update`. -/
def updateRowWrite (id : Uuid) (feature : Option Json) : Option (RowWrite Geometry) :=
  existingRowWrite gis env coll true id feature (partialValues gis env coll feature)
    fun links => isNamedLink feature links

/-- The write of `_fn_delete`. -/
def deleteRowWrite (id : Uuid) : RowWrite Geometry where
  ref := ⟨coll.collectionName, id⟩
  present := some true
  targets := []
  row := fun _ => none
  clears := fun _ => coll.roles ≠ []
  links := ∅
  links_source := fun l hl => absurd hl (Finset.notMem_empty l)

/-- The write of `_fn_upsert`. -/
def upsertRowWrite (feature : Option Json) : Option (RowWrite Geometry) := do
  (linkUpsertGuards coll.roles feature).toOption
  (idChecks env coll feature).toOption
  (guardBlock gis env coll false feature).toOption
  if coll.oiColumn.isSome && (givenId env coll feature).isNone then none
  (idsDisagree env coll feature).toOption
  let values ← (completeValues gis env coll feature).toOption
  some
    { ref := ⟨coll.collectionName, (givenId env coll feature).getD (env.genRandomUuid 0)⟩
      present := none
      targets := []
      row := fun row => some ((row.map fun row => row.assign values env.now).getD
        (newRow env 0 coll values))
      clears := fun _ => false
      links := ∅
      links_source := fun l hl => absurd hl (Finset.notMem_empty l) }

end Functions

/-! ### What the functions do -/

section Refines

variable {gis : PostGIS Geometry} {env : Env} {plan : SchemaPlan} {coll : CollectionPlan}
  {feature : Option Json} {db db' : Db Geometry}

/-- A replace or an update, and what it found. -/
theorem run_writeExisting_iff {guarded : Bool} {id : Uuid}
    {values : Except SqlError (Assignments Geometry)}
    {writeLinks : Ref → List (CollectionRolePlan × List Uuid) → SqlProg Geometry SqlError Unit} :
    run (writeExisting gis env guarded coll (some id) feature values writeLinks) db =
        .ok (true, db') ↔
      guardBlock gis env coll guarded feature = .ok () ∧
        oiGuard env coll (some id) feature = .ok () ∧
        ∃ vals links, Rewrote env coll feature values writeLinks db id vals links db' := by
  constructor
  · intro hrun
    obtain ⟨hguard, hoi, ⟨hnot, -⟩ | ⟨-, id', vals, links, hid, hrewrote⟩⟩ :=
      ends_writeExisting_exact db true db' hrun
    · cases hnot
    · cases hid
      exact ⟨hguard, hoi, vals, links, hrewrote⟩
  · rintro ⟨hguard, hoi, vals, links, hpresent, hvalues, hvalid, hwrites⟩
    rw [writeExisting]
    refine run_bind_eq_ok.mpr ⟨(), db, run_ofExcept_eq_ok.mpr ⟨?_, rfl⟩, ?_⟩
    · rw [hguard]
      exact hoi
    refine run_bind_eq_ok.mpr ⟨links, db, hvalid, ?_⟩
    refine run_bind_eq_ok.mpr ⟨true, db.assign ⟨coll.collectionName, id⟩ vals env.now, ?_, ?_⟩
    · rw [updateRow, run_query]
      simp only [Db.finds_self, if_pos hpresent, hvalues]
      rfl
    · exact run_bind_eq_ok.mpr ⟨(), db', hwrites, rfl⟩

/-- The write of a row that is there, and what it is made of. -/
theorem existingRowWrite_eq_some {guarded : Bool} {id : Uuid}
    {values : Except SqlError (Assignments Geometry)}
    {clears : List (CollectionRolePlan × List Uuid) → String → Bool} {w : RowWrite Geometry} :
    existingRowWrite gis env coll guarded id feature values clears = some w ↔
      guardBlock gis env coll guarded feature = .ok () ∧
        oiGuard env coll (some id) feature = .ok () ∧
        ∃ links vals, documentLinks env coll.roles feature = some links ∧ values = .ok vals ∧
          w =
            { ref := ⟨coll.collectionName, id⟩
              present := some true
              targets := linkedRows links
              row := Option.map fun row => row.assign vals env.now
              clears := clears links
              links := (namedLinks ⟨coll.collectionName, id⟩ feature links).toFinset
              links_source := source_of_mem_namedLinks } := by
  rw [existingRowWrite]
  constructor
  · intro h
    obtain ⟨_, hguard, h⟩ := Option.bind_eq_some_iff.mp h
    obtain ⟨_, hoi, h⟩ := Option.bind_eq_some_iff.mp h
    obtain ⟨links, hlinks, h⟩ := Option.bind_eq_some_iff.mp h
    obtain ⟨vals, hvals, h⟩ := Option.bind_eq_some_iff.mp h
    cases h
    exact ⟨Except.toOption_eq_some.mp hguard, Except.toOption_eq_some.mp hoi, links, vals, hlinks,
      Except.toOption_eq_some.mp hvals, rfl⟩
  · rintro ⟨hguard, hoi, links, vals, hlinks, rfl, rfl⟩
    rw [hguard, hoi, hlinks]
    rfl

/-- A replace or an update does what its write does, if its link statements do. -/
theorem writeExisting_refines {guarded : Bool} {id : Uuid}
    {values : Except SqlError (Assignments Geometry)}
    {writeLinks : Ref → List (CollectionRolePlan × List Uuid) → SqlProg Geometry SqlError Unit}
    {clears : List (CollectionRolePlan × List Uuid) → String → Bool}
    (hwrite : ∀ (links : List (CollectionRolePlan × List Uuid)) (db : Db Geometry),
      links.map Prod.fst = coll.roles →
        run (writeLinks ⟨coll.collectionName, id⟩ links) db =
          .ok ((), db.withLinks (db.association \
            sourceLinks db.association ⟨coll.collectionName, id⟩ (clears links) ∪
              (namedLinks ⟨coll.collectionName, id⟩ feature links).toFinset)))
    (hclears : ∀ (links : List (CollectionRolePlan × List Uuid)), links.map Prod.fst = coll.roles →
      ∀ l ∈ namedLinks ⟨coll.collectionName, id⟩ feature links, clears links l.property = true) :
    run (writeExisting gis env guarded coll (some id) feature values writeLinks) db =
        .ok (true, db') ↔
      ∃ w, existingRowWrite gis env coll guarded id feature values clears = some w ∧
        w.step db = some db' := by
  -- the row is assigned and the links are written: the same tables as in one write
  have hafter : ∀ (links : List (CollectionRolePlan × List Uuid)) (vals : Assignments Geometry)
      (w : RowWrite Geometry), w.ref = ⟨coll.collectionName, id⟩ →
      (w.row = Option.map fun row => row.assign vals env.now) → w.clears = clears links →
      w.links = (namedLinks ⟨coll.collectionName, id⟩ feature links).toFinset →
      links.map Prod.fst = coll.roles → run (writeLinks ⟨coll.collectionName, id⟩ links)
        (db.assign ⟨coll.collectionName, id⟩ vals env.now) = .ok ((), w.apply db) := by
    intro links vals w href hrow hcl hl hroles
    rw [hwrite links _ hroles]
    congr 2
    refine Db.ext_row? (fun r => ?_) ?_
    · rw [row?_withLinks, row?_assign, RowWrite.row?_apply, href, hrow]
    · rw [association_withLinks, association_assign, RowWrite.association_apply, RowWrite.kept,
        href, hcl, hl]
  rw [run_writeExisting_iff]
  constructor
  · rintro ⟨hguard, hoi, vals, links, hpresent, hvalues, hvalid, hwrites⟩
    obtain ⟨hlinks, htargets⟩ := run_linkValidation_eq_ok_iff.mp hvalid
    have hroles := roles_of_documentLinks hlinks
    refine ⟨_, existingRowWrite_eq_some.mpr ⟨hguard, hoi, links, vals, hlinks, hvalues, rfl⟩,
      RowWrite.step_eq_some.mpr ⟨⟨?_, htargets, ?_⟩, ?_⟩⟩
    · rintro b hb
      cases hb
      exact hpresent
    · -- what comes is of a property whose links go
      rw [Finset.disjoint_right]
      intro l hl hkept
      have hl := List.mem_toFinset.mp hl
      exact (RowWrite.mem_kept.mp hkept).2 ⟨(mem_namedLinks.mp hl).1, hclears links hroles l hl⟩
    · exact (Prod.mk.inj (Except.ok.inj
        ((hafter links vals _ rfl rfl rfl rfl hroles).symm.trans hwrites))).2
  · rintro ⟨w, hw, hstep⟩
    obtain ⟨hguard, hoi, links, vals, hlinks, hvalues, rfl⟩ := existingRowWrite_eq_some.mp hw
    obtain ⟨⟨hpresent, htargets, -⟩, rfl⟩ := RowWrite.step_eq_some.mp hstep
    have hpresent := hpresent true rfl
    exact ⟨hguard, hoi, vals, links, hpresent, hvalues,
      run_linkValidation_eq_ok_iff.mpr ⟨hlinks, htargets⟩,
      hafter links vals _ rfl rfl rfl rfl (roles_of_documentLinks hlinks)⟩

/-- **A replace does what its write does.** -/
theorem replace_refines (hroles : (coll.roles.map (·.property)).Nodup) {id : Uuid} :
    run (replace gis env coll (some id) feature) db = .ok (true, db') ↔
      ∃ w, replaceRowWrite gis env coll id feature = some w ∧ w.step db = some db' := by
  rw [replace, replaceRowWrite]
  refine writeExisting_refines (fun links db hlinks => run_replaceLinks hlinks hroles db) ?_
  intro links hlinks l hl
  obtain ⟨-, x, hx, -, hproperty, -⟩ := mem_namedLinks.mp hl
  refine List.any_eq_true.mpr ⟨x.1, ?_, decide_eq_true hproperty.symm⟩
  rw [← hlinks]
  exact List.mem_map_of_mem hx

/-- **An update does what its write does.** -/
theorem update_refines (hroles : (coll.roles.map (·.property)).Nodup) {id : Uuid} :
    run (update gis env coll (some id) feature) db = .ok (true, db') ↔
      ∃ w, updateRowWrite gis env coll id feature = some w ∧ w.step db = some db' := by
  rw [update, updateRowWrite]
  refine writeExisting_refines (fun links db hlinks => run_linkWritesPatch _ feature ?_ db) ?_
  · rw [← hlinks, List.map_map] at hroles
    exact hroles
  · intro links _ l hl
    obtain ⟨-, x, hx, hnamed, hproperty, -⟩ := mem_namedLinks.mp hl
    rw [isNamedLink, hproperty, hnamed, Bool.true_and]
    exact List.any_eq_true.mpr ⟨x, hx, decide_eq_true rfl⟩

/-- **A delete does what its write does.** -/
theorem delete_refines {id : Uuid} :
    run (delete coll (some id)) db = .ok (true, db') ↔
      (deleteRowWrite coll id).step db = some db' := by
  have hafter : ∀ db', Deleted coll ⟨coll.collectionName, id⟩ db db' →
      (deleteRowWrite coll id).apply db = db' := by
    intro db' hdeleted
    refine Db.ext_row? (fun r => ?_) ?_
    · rw [RowWrite.row?_apply, hdeleted.rows]
      rfl
    · ext l
      rw [hdeleted.links, RowWrite.association_apply, Finset.mem_union, RowWrite.mem_kept]
      simp [deleteRowWrite, and_comm]
  constructor
  · intro hrun
    obtain ⟨hnone, -⟩ | ⟨id', hid, hpresent, hdeleted⟩ := ends_delete (some id) db true db' hrun
    · cases hnone
    · cases hid
      refine RowWrite.step_eq_some.mpr ⟨⟨?_, fun t ht => absurd ht List.not_mem_nil, ?_⟩,
        hafter db' hdeleted⟩
      · rintro b hb
        cases hb
        exact hpresent.symm
      · exact Finset.disjoint_empty_right _
  · intro hstep
    obtain ⟨⟨hpresent, -, -⟩, happly⟩ := RowWrite.step_eq_some.mp hstep
    have hpresent := hpresent true rfl
    cases hrun : run (delete coll (some id)) db with
    | error e => exact (fails_delete e hrun).elim
    | ok x =>
      obtain ⟨found, db₁⟩ := x
      obtain ⟨hnone, -⟩ | ⟨id', hid, hfound, hdeleted⟩ := ends_delete (some id) db found db₁ hrun
      · cases hnone
      · cases hid
        cases (hafter db₁ hdeleted).symm.trans happly
        rw [hfound, ← hpresent]
        rfl

/-- The links of a complete write are new ones. -/
theorem free_of_run_linkWrites {source : Ref} {links : List (CollectionRolePlan × List Uuid)}
    (hnodup : (links.map fun x => x.1.property).Nodup)
    (hrun : run (linkWrites source feature links) db = .ok ((), db')) :
    ∀ l ∈ namedLinks source feature links, l ∉ db.association := by
  induction links generalizing db with
  | nil => exact fun l hl => absurd hl List.not_mem_nil
  | cons x links ih =>
    have hunfold : (linkWrites source feature (x :: links) : SqlProg Geometry SqlError Unit) =
        (if (hasKey (properties feature) x.1.property).holds then
          insertLinks source x.1.property x.2 else Pure.pure ()) >>=
            fun _ => linkWrites source feature links := rfl
    rw [hunfold, run_bind_eq_ok] at hrun
    obtain ⟨_, db₁, hfirst, hrest⟩ := hrun
    -- later roles are free of links in tables that have only gained some
    have hlater := ih (List.nodup_cons.mp hnodup).2 hrest
    intro l hl
    rw [namedLinks_cons] at hl
    split at hfirst
    · next hnamed =>
      rw [if_pos hnamed] at hl
      rw [insertLinks, run_query] at hfirst
      split at hfirst
      · cases hfirst
      · next hfree =>
        rcases List.mem_append.mp hl with hl | hl
        · obtain ⟨id, hid, rfl⟩ := List.mem_map.mp hl
          intro hmem
          exact hfree (List.any_eq_true.mpr ⟨id, hid, decide_eq_true hmem⟩)
        · intro hmem
          refine hlater l hl ?_
          obtain ⟨x', hx', hsame⟩ := Except.map_eq_ok.mp hfirst
          cases hx'
          cases hsame
          simp only
          have happly := applyAll_links (x.2.map fun id => ⟨source, x.1.property, id⟩) db
          rw [List.map_map] at happly
          exact happly ▸ Finset.mem_union_left _ hmem
    · next hnamed =>
      rw [if_neg hnamed] at hl
      cases hfirst
      exact hlater l hl

/-- The write of a create, and what it is made of. -/
theorem createRowWrite_eq_some {w : RowWrite Geometry} :
    createRowWrite gis env coll feature = some w ↔
      idChecks env coll feature = .ok () ∧ guardBlock gis env coll false feature = .ok () ∧
        idsDisagree env coll feature = .ok () ∧
          ∃ links vals, documentLinks env coll.roles feature = some links ∧
            completeValues gis env coll feature = .ok vals ∧
              let ref : Ref :=
                ⟨coll.collectionName, (givenId env coll feature).getD (env.genRandomUuid 0)⟩
              w =
                { ref := ref
                  present := some false
                  targets := linkedRows links
                  row := fun _ => some (newRow env 0 coll vals)
                  clears := fun _ => false
                  links := (namedLinks ref feature links).toFinset
                  links_source := source_of_mem_namedLinks } := by
  rw [createRowWrite]
  constructor
  · intro h
    obtain ⟨_, hids, h⟩ := Option.bind_eq_some_iff.mp h
    obtain ⟨_, hguard, h⟩ := Option.bind_eq_some_iff.mp h
    obtain ⟨links, hlinks, h⟩ := Option.bind_eq_some_iff.mp h
    obtain ⟨_, hagrees, h⟩ := Option.bind_eq_some_iff.mp h
    obtain ⟨vals, hvals, h⟩ := Option.bind_eq_some_iff.mp h
    cases h
    exact ⟨Except.toOption_eq_some.mp hids, Except.toOption_eq_some.mp hguard, Except.toOption_eq_some.mp hagrees, links,
      vals, hlinks, Except.toOption_eq_some.mp hvals, rfl⟩
  · rintro ⟨hids, hguard, hagrees, links, vals, hlinks, hvals, rfl⟩
    rw [hids, hguard, hlinks, hagrees, hvals]
    rfl

/-- The write of an upsert, and what it is made of. -/
theorem upsertRowWrite_eq_some {w : RowWrite Geometry} :
    upsertRowWrite gis env coll feature = some w ↔
      linkUpsertGuards coll.roles feature = .ok () ∧ idChecks env coll feature = .ok () ∧
        guardBlock gis env coll false feature = .ok () ∧
        ¬ (coll.oiColumn.isSome && (givenId env coll feature).isNone) = true ∧
        idsDisagree env coll feature = .ok () ∧
          ∃ vals, completeValues gis env coll feature = .ok vals ∧
            w =
              { ref :=
                  ⟨coll.collectionName, (givenId env coll feature).getD (env.genRandomUuid 0)⟩
                present := none
                targets := []
                row := fun row => some ((row.map fun row => row.assign vals env.now).getD
                  (newRow env 0 coll vals))
                clears := fun _ => false
                links := ∅
                links_source := fun l hl => absurd hl (Finset.notMem_empty l) } := by
  rw [upsertRowWrite]
  constructor
  · intro h
    obtain ⟨_, hlinks, h⟩ := Option.bind_eq_some_iff.mp h
    obtain ⟨_, hids, h⟩ := Option.bind_eq_some_iff.mp h
    obtain ⟨_, hguard, h⟩ := Option.bind_eq_some_iff.mp h
    split at h
    · cases h
    · next hgiven =>
      obtain ⟨_, hagrees, h⟩ := Option.bind_eq_some_iff.mp h
      obtain ⟨vals, hvals, h⟩ := Option.bind_eq_some_iff.mp h
      cases h
      exact ⟨Except.toOption_eq_some.mp hlinks, Except.toOption_eq_some.mp hids, Except.toOption_eq_some.mp hguard,
        hgiven, Except.toOption_eq_some.mp hagrees, vals, Except.toOption_eq_some.mp hvals, rfl⟩
  · rintro ⟨hlinks, hids, hguard, hgiven, hagrees, vals, hvals, rfl⟩
    rw [hlinks, hids, hguard]
    show (if _ then _ else _) = _
    rw [if_neg hgiven, hagrees, hvals]
    rfl

/-- What a create asks of its document, and what it finds. -/
theorem run_create_iff {n : ℕ} {newId : Uuid} :
    run (create gis env n coll feature) db = .ok (newId, db') ↔
      idChecks env coll feature = .ok () ∧
        ∃ vals links, Created gis env n coll feature db newId vals links db' := by
  constructor
  · intro hrun
    obtain ⟨vals, links, hcreated⟩ := ends_create_exact n feature db newId db' hrun
    refine ⟨?_, vals, links, hcreated⟩
    rw [create] at hrun
    obtain ⟨_, _, hchecks, -⟩ := run_bind_eq_ok.mp hrun
    obtain ⟨_, hchecks, -⟩ := Except.bind_eq_ok.mp (run_ofExcept_eq_ok.mp hchecks).1
    exact hchecks
  · rintro ⟨hchecks, vals, links, hcreated⟩
    obtain ⟨hguard, hagrees, rfl, habsent, hvals, hvalid, hwrites⟩ := hcreated
    rw [create]
    refine run_bind_eq_ok.mpr ⟨(), db, run_ofExcept_eq_ok.mpr ⟨?_, rfl⟩, ?_⟩
    · rw [hchecks]
      exact hguard
    refine run_bind_eq_ok.mpr ⟨links, db, hvalid, ?_⟩
    refine run_bind_eq_ok.mpr ⟨(), db, run_ofExcept_eq_ok.mpr ⟨hagrees, rfl⟩, ?_⟩
    refine run_bind_eq_ok.mpr ⟨(), _, ?_, run_bind_eq_ok.mpr ⟨(), db', hwrites, rfl⟩⟩
    rw [run_mapError_eq_ok, insertRow, run_query]
    simp only [hvals, Except.ok_bind, habsent, Option.isSome_none, Bool.false_eq_true, if_false]
    rfl

/-- **A create does what its write does.** -/
theorem create_refines (hroles : (coll.roles.map (·.property)).Nodup) :
    (∃ id, run (create gis env 0 coll feature) db = .ok (id, db')) ↔
      ∃ w, createRowWrite gis env coll feature = some w ∧ w.step db = some db' := by
  have hafter : ∀ (links : List (CollectionRolePlan × List Uuid)) (vals : Assignments Geometry)
      (w : RowWrite Geometry), (w.row = fun _ => some (newRow env 0 coll vals)) →
      (w.clears = fun _ => false) → w.links = (namedLinks w.ref feature links).toFinset →
      links.map Prod.fst = coll.roles → Disjoint (w.kept db.association) w.links →
      run (linkWrites w.ref feature links)
        (Store.apply (Write.insertRow w.ref (newRow env 0 coll vals)) db) =
          .ok ((), w.apply db) := by
    intro links vals w hrow hclears hlinks hmap hfree
    -- a create clears no link
    have hkept : w.kept db.association = db.association := by
      ext l
      rw [RowWrite.mem_kept, hclears]
      simp
    rw [hkept, hlinks, Finset.disjoint_right] at hfree
    rw [run_linkWrites]
    · congr 2
      refine Db.ext_row? (fun r => ?_) ?_
      · rw [row?_withLinks, row?_insertRow, RowWrite.row?_apply, hrow]
      · rw [association_withLinks, association_insertRow, RowWrite.association_apply, hkept,
          hlinks]
    · rw [← hmap, List.map_map] at hroles
      exact hroles
    · exact fun l hl => hfree (List.mem_toFinset.mpr hl)
  constructor
  · rintro ⟨id, hrun⟩
    obtain ⟨hchecks, vals, links, hguard, hagrees, rfl, habsent, hvals, hvalid, hwrites⟩ :=
      run_create_iff.mp hrun
    obtain ⟨hlinks, htargets⟩ := run_linkValidation_eq_ok_iff.mp hvalid
    have hmap := roles_of_documentLinks hlinks
    have hnodup : (links.map fun x => x.1.property).Nodup := by
      rw [← hmap, List.map_map] at hroles
      exact hroles
    -- the insert fails on a link that is there
    have hfree := free_of_run_linkWrites hnodup hwrites
    have hdisjoint : ∀ w : RowWrite Geometry, (w.clears = fun _ => false) →
        w.ref = ⟨coll.collectionName, (givenId env coll feature).getD (env.genRandomUuid 0)⟩ →
        w.links = (namedLinks w.ref feature links).toFinset →
        Disjoint (w.kept db.association) w.links := by
      intro w hclears href hl
      rw [Finset.disjoint_right, hl, href]
      intro l hl hkept
      exact hfree l (List.mem_toFinset.mp hl) (RowWrite.mem_kept.mp hkept).1
    refine ⟨_, createRowWrite_eq_some.mpr
        ⟨hchecks, hguard, hagrees, links, vals, hlinks, hvals, rfl⟩,
      RowWrite.step_eq_some.mpr ⟨⟨?_, htargets, hdisjoint _ rfl rfl rfl⟩, ?_⟩⟩
    · rintro b hb
      cases hb
      rw [habsent]
      rfl
    · exact (Prod.mk.inj (Except.ok.inj
        ((hafter links vals _ rfl rfl rfl hmap (hdisjoint _ rfl rfl rfl)).symm.trans hwrites))).2
  · rintro ⟨w, hw, hstep⟩
    obtain ⟨hchecks, hguard, hagrees, links, vals, hlinks, hvals, rfl⟩ :=
      createRowWrite_eq_some.mp hw
    obtain ⟨⟨hpresent, htargets, hfree⟩, rfl⟩ := RowWrite.step_eq_some.mp hstep
    refine ⟨_, run_create_iff.mpr ⟨hchecks, vals, links, hguard, hagrees, rfl, ?_, hvals,
      run_linkValidation_eq_ok_iff.mpr ⟨hlinks, htargets⟩,
      hafter links vals _ rfl rfl rfl (roles_of_documentLinks hlinks) hfree⟩⟩
    exact Option.not_isSome_iff_eq_none.mp fun h => by
      rw [hpresent false rfl] at h
      cases h

/-- What an upsert asks of its document, and what it does. -/
theorem upsert_refines :
    (∃ id, run (upsert gis env 0 coll feature) db = .ok (id, db')) ↔
      ∃ w, upsertRowWrite gis env coll feature = some w ∧ w.step db = some db' := by
  have hafter : ∀ (vals : Assignments Geometry) (w : RowWrite Geometry),
      (w.row = fun row => some ((row.map fun row => row.assign vals env.now).getD
        (newRow env 0 coll vals))) → (w.clears = fun _ => false) → w.links = ∅ →
      Store.apply (if (db.row? w.ref).isSome then
          Write.updateRow w.ref fun row => row.assign vals env.now
        else .insertRow w.ref (newRow env 0 coll vals)) db = w.apply db := by
    intro vals w hrow hclears hlinks
    -- nor does an upsert, and it adds none
    have hkept : w.kept db.association = db.association := by
      ext l
      rw [RowWrite.mem_kept, hclears]
      simp
    refine Db.ext_row? (fun r => ?_) ?_
    · rw [RowWrite.row?_apply, hrow]
      cases hold : db.row? w.ref with
      | none => exact row?_insertRow w.ref _ db r
      | some row =>
        rw [Option.isSome_some, if_pos rfl, row?_updateRow, hold]
        rfl
    · rw [RowWrite.association_apply, hkept, hlinks, Finset.union_empty]
      split
      · exact association_updateRow _ _ db
      · rfl
  constructor
  · rintro ⟨id, hrun⟩
    rw [upsert] at hrun
    obtain ⟨_, db₁, hofExcept, hrest⟩ := run_bind_eq_ok.mp hrun
    obtain ⟨hall, rfl⟩ := run_ofExcept_eq_ok.mp hofExcept
    obtain ⟨_, hlinks, hall⟩ := Except.bind_eq_ok.mp hall
    obtain ⟨_, hids, hall⟩ := Except.bind_eq_ok.mp hall
    obtain ⟨_, hguard, hagrees⟩ := Except.bind_eq_ok.mp hall
    split at hagrees
    · cases hagrees
    · next hgiven =>
      rw [run_query] at hrest
      obtain ⟨⟨id', ws⟩, hquery, hsame⟩ := Except.map_eq_ok.mp hrest
      obtain ⟨vals, hvals, hquery⟩ := Except.bind_eq_ok.mp hquery
      cases hquery
      cases hsame
      refine ⟨_, upsertRowWrite_eq_some.mpr
          ⟨hlinks, hids, hguard, hgiven, hagrees, vals, hvals, rfl⟩,
        RowWrite.step_eq_some.mpr ⟨⟨fun b hb => (by cases hb), fun t ht => absurd ht
          List.not_mem_nil, Finset.disjoint_empty_right _⟩, ?_⟩⟩
      exact (hafter vals _ rfl rfl rfl).symm
  · rintro ⟨w, hw, hstep⟩
    obtain ⟨hlinks, hids, hguard, hgiven, hagrees, vals, hvals, hw⟩ := upsertRowWrite_eq_some.mp hw
    obtain ⟨-, rfl⟩ := RowWrite.step_eq_some.mp hstep
    have happly := hafter vals w (by rw [hw]) (by rw [hw]) (by rw [hw])
    have href : w.ref =
        ⟨coll.collectionName, (givenId env coll feature).getD (env.genRandomUuid 0)⟩ := by
      rw [hw]
    rw [href] at happly
    refine ⟨(givenId env coll feature).getD (env.genRandomUuid 0), ?_⟩
    rw [upsert]
    refine run_bind_eq_ok.mpr ⟨(), db, run_ofExcept_eq_ok.mpr ⟨?_, rfl⟩, ?_⟩
    · rw [hlinks, hids, hguard]
      simp only [Except.ok_bind, if_neg hgiven]
      exact hagrees
    · rw [run_query, hvals, Except.ok_bind]
      exact congrArg (fun db => Except.ok (_, db)) happly

end Refines

/-! ### The write of a call -/

/-- The write that a direct write makes, if its document passes. -/
def rowWrite (gis : PostGIS Geometry) (plan : SchemaPlan) :
    Env × Call → Option (RowWrite Geometry)
  | (env, .create collection feature) =>
    (directCollection plan collection).bind fun coll => createRowWrite gis env coll feature
  | (env, .replace collection fid feature) =>
    (directCollection plan collection).bind fun coll =>
      fid.bind fun id => replaceRowWrite gis env coll id feature
  | (env, .update collection fid feature) =>
    (directCollection plan collection).bind fun coll =>
      fid.bind fun id => updateRowWrite gis env coll id feature
  | (_, .delete collection fid) =>
    (directCollection plan collection).bind fun coll => fid.map fun id => deleteRowWrite coll id
  | (env, .upsert collection feature) =>
    (directCollection plan collection).bind fun coll =>
      if coll.supportsUpsert then upsertRowWrite gis env coll feature else none
  | (_, .transaction _) => none

/-- A call of one of the functions for one feature. -/
def Call.isDirect : Call → Bool
  | .transaction _ => false
  | _ => true

section Calls

variable {gis : PostGIS Geometry} {deployed : String → Option SchemaPlan} {dataset : String}
  {plan : SchemaPlan} {db db' : Db Geometry}

/-- Without an id there is no row. -/
theorem not_found_of_no_id {coll : CollectionPlan} {guarded : Bool} {env : Env}
    {feature : Option Json} {values : Except SqlError (Assignments Geometry)}
    {writeLinks : Ref → List (CollectionRolePlan × List Uuid) → SqlProg Geometry SqlError Unit} :
    run (writeExisting gis env guarded coll none feature values writeLinks) db ≠
      .ok (true, db') := by
  intro hrun
  obtain ⟨-, -, ⟨hfound, -⟩ | ⟨-, id, vals, links, hid, -⟩⟩ :=
    ends_writeExisting_exact db true db' hrun
  · cases hfound
  · cases hid

/-- A dispatch to a function that finds its row does what the write of its row does. -/
theorem found_dispatch_iff (hdeployed : deployed dataset = some plan)
    {operation collection : String} {fid : Option Uuid}
    (body : CollectionPlan → Option Uuid → SqlProg Geometry SqlError Bool)
    (write : CollectionPlan → Uuid → Option (RowWrite Geometry))
    (hbody : ∀ coll ∈ plan.collections, ∀ id, run (body coll (some id)) db = .ok (true, db') ↔
      ∃ w, write coll id = some w ∧ w.step db = some db')
    (hnone : ∀ coll, run (body coll none) db ≠ .ok (true, db')) :
    succeeded (fun found => found) (writeDispatch deployed dataset operation
        (fun coll => some (body coll fid)) collection db) = some db' ↔
      ∃ w, ((directCollection plan collection).bind fun coll => fid.bind fun id => write coll id)
        = some w ∧ w.step db = some db' := by
  rw [succeeded_writeDispatch_iff hdeployed]
  constructor
  · rintro ⟨coll, hdirect, _, ⟨⟩, found, hrun, rfl⟩
    cases fid with
    | none => exact absurd hrun (hnone coll)
    | some id =>
      obtain ⟨w, hw, hstep⟩ := (hbody coll (mem_of_directCollection hdirect).1 id).mp hrun
      refine ⟨w, ?_, hstep⟩
      rw [hdirect]
      exact hw
  · rintro ⟨w, hw, hstep⟩
    obtain ⟨coll, hdirect, hw⟩ := Option.bind_eq_some_iff.mp hw
    obtain ⟨id, rfl, hw⟩ := Option.bind_eq_some_iff.mp hw
    exact ⟨coll, hdirect, _, rfl, true,
      (hbody coll (mem_of_directCollection hdirect).1 id).mpr ⟨w, hw, hstep⟩, rfl⟩

/-- A dispatch to a function that makes its row does what the write of its row does. -/
theorem made_dispatch_iff (hdeployed : deployed dataset = some plan)
    {operation collection : String}
    {function : CollectionPlan → Option (SqlProg Geometry SqlError Uuid)}
    {write : CollectionPlan → Option (RowWrite Geometry)}
    (hbody : ∀ coll ∈ plan.collections,
      (∃ body, function coll = some body ∧ ∃ id, run body db = .ok (id, db')) ↔
        ∃ w, write coll = some w ∧ w.step db = some db') :
    succeeded (fun _ => true) (writeDispatch deployed dataset operation function collection db) =
        some db' ↔
      ∃ w, (directCollection plan collection).bind write = some w ∧ w.step db = some db' := by
  rw [succeeded_writeDispatch_iff hdeployed]
  constructor
  · rintro ⟨coll, hdirect, body, hfunction, id, hrun, -⟩
    obtain ⟨w, hw, hstep⟩ := (hbody coll (mem_of_directCollection hdirect).1).mp
      ⟨body, hfunction, id, hrun⟩
    refine ⟨w, ?_, hstep⟩
    rw [hdirect]
    exact hw
  · rintro ⟨w, hw, hstep⟩
    obtain ⟨coll, hdirect, hw⟩ := Option.bind_eq_some_iff.mp hw
    obtain ⟨body, hfunction, id, hrun⟩ :=
      (hbody coll (mem_of_directCollection hdirect).1).mpr ⟨w, hw, hstep⟩
    exact ⟨coll, hdirect, body, hfunction, id, hrun, rfl⟩

/-- **A direct write is accepted where the write to its row is, with the same
tables.** -/
theorem acceptedStep_eq (hdeployed : deployed dataset = some plan) {call : Env × Call}
    (hdirect : call.2.isDirect = true) : acceptedStep gis deployed dataset db call =
      (rowWrite gis plan call).bind fun w => w.step db := by
  refine Option.ext fun db' => ?_
  rw [Option.bind_eq_some_iff]
  obtain ⟨env, call⟩ := call
  cases call with
  | create collection feature =>
    refine made_dispatch_iff hdeployed fun coll hcoll => ?_
    rw [← create_refines (plan.roles_nodup coll hcoll)]
    constructor
    · rintro ⟨_, ⟨⟩, hrun⟩
      exact hrun
    · exact fun hrun => ⟨_, rfl, hrun⟩
  | replace collection fid feature =>
    exact found_dispatch_iff hdeployed (fun coll fid => replace gis env coll fid feature)
      (fun coll id => replaceRowWrite gis env coll id feature)
      (fun coll hcoll id => replace_refines (plan.roles_nodup coll hcoll))
      fun coll => not_found_of_no_id
  | update collection fid feature =>
    exact found_dispatch_iff hdeployed (fun coll fid => update gis env coll fid feature)
      (fun coll id => updateRowWrite gis env coll id feature)
      (fun coll hcoll id => update_refines (plan.roles_nodup coll hcoll))
      fun coll => not_found_of_no_id
  -- a delete has no document that could be refused
  | delete collection fid =>
    have hmap : (fun coll : CollectionPlan => fid.map fun id => deleteRowWrite coll id) =
        fun coll => fid.bind fun id => some (deleteRowWrite coll id : RowWrite Geometry) := by
      funext coll
      cases fid <;> rfl
    rw [rowWrite, hmap]
    refine found_dispatch_iff hdeployed (fun coll fid => delete coll fid)
      (fun coll id => some (deleteRowWrite coll id)) (fun coll _ id => ?_) fun coll h => ?_
    · rw [delete_refines]
      constructor
      · exact fun h => ⟨_, rfl, h⟩
      · rintro ⟨_, ⟨⟩, h⟩
        exact h
    · cases h
  | upsert collection feature =>
    refine made_dispatch_iff hdeployed fun coll _ => ?_
    split
    · rw [← upsert_refines]
      constructor
      · rintro ⟨_, ⟨⟩, hrun⟩
        exact hrun
      · exact fun hrun => ⟨_, rfl, hrun⟩
    · constructor
      · rintro ⟨_, ⟨⟩, -⟩
      · rintro ⟨_, ⟨⟩, -⟩
  | transaction document => cases hdirect

end Calls

end Geocomponents
