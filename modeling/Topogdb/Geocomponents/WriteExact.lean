/-
What one write leaves behind, exactly.

`WriteSpec` says what a write leaves alone; here the tables after it are written
out.

* `run_linkWrites`, `run_linkWritesPatch` — the links after the link statements;
* `writeExisting_ok` — a replace or an update that did not fail: its checks
  passed, and the row it found has the values it computed.
-/
import Topogdb.Geocomponents.WriteSpec

namespace Geocomponents

open Prog

variable {Geometry : Type}

/-! ### Links -/

/-- The tables with other links. -/
def Db.withLinks (db : Db Geometry) (association : Finset Link) : Db Geometry :=
  { db with association := association }

@[simp] theorem row?_withLinks (db : Db Geometry) (association : Finset Link) (r : Ref) :
    (db.withLinks association).row? r = db.row? r := rfl

@[simp] theorem association_withLinks (db : Db Geometry) (association : Finset Link) :
    (db.withLinks association).association = association := rfl

theorem withLinks_withLinks (db : Db Geometry) (a a' : Finset Link) :
    (db.withLinks a).withLinks a' = db.withLinks a' := rfl

theorem applyAll_links (ls : List Link) (db : Db Geometry) :
    Store.applyAll (ls.map fun l => (Write.link l : Write Geometry)) db =
      db.withLinks (db.association ∪ ls.toFinset) := by
  induction ls generalizing db with
  | nil =>
    rw [List.toFinset_nil, Finset.union_empty]
    rfl
  | cons l ls ih =>
    rw [List.map_cons, Store.applyAll_cons, ih, association_link]
    have hunion : insert l db.association ∪ ls.toFinset =
        db.association ∪ (l :: ls).toFinset := by
      rw [List.toFinset_cons, Finset.insert_union, Finset.union_insert]
    rw [hunion]
    rfl

theorem applyAll_unlinks (ls : List Link) (db : Db Geometry) :
    Store.applyAll (ls.map fun l => (Write.unlink l : Write Geometry)) db =
      db.withLinks (db.association \ ls.toFinset) := by
  induction ls generalizing db with
  | nil =>
    rw [List.toFinset_nil, Finset.sdiff_empty]
    rfl
  | cons l ls ih =>
    rw [List.map_cons, Store.applyAll_cons, ih, association_unlink]
    have hdiff : db.association.erase l \ ls.toFinset =
        db.association \ (l :: ls).toFinset := by
      ext l'
      simp only [Finset.mem_sdiff, Finset.mem_erase, List.mem_toFinset, List.mem_cons]
      tauto
    rw [hdiff]
    rfl

/-- The links of one property of a row. -/
def propertyLinks (source : Ref) (property : String) (ids : List Uuid) : List Link :=
  ids.map fun id => ⟨source, property, id⟩

theorem run_insertLinks {source : Ref} {property : String} {ids : List Uuid} {db : Db Geometry}
    (h : ∀ id ∈ ids, (⟨source, property, id⟩ : Link) ∉ db.association) :
    run (insertLinks source property ids) db =
      .ok ((), db.withLinks (db.association ∪ (propertyLinks source property ids).toFinset)) := by
  have hnone : (ids.any fun id => (⟨source, property, id⟩ : Link) ∈ db.association) = false := by
    rw [List.any_eq_false]
    intro id hid
    simpa using h id hid
  rw [insertLinks, run_query]
  simp only [hnone]
  rw [← applyAll_links, propertyLinks, List.map_map]
  rfl

/-- The links of a row with a property that the test holds of. -/
def sourceLinks (association : Finset Link) (source : Ref) (hasProperty : String → Bool) :
    Finset Link :=
  association.filter fun l => l.source = source ∧ hasProperty l.property = true

theorem mem_sourceLinks {association : Finset Link} {source : Ref} {hasProperty : String → Bool}
    {l : Link} : l ∈ sourceLinks association source hasProperty ↔
      l ∈ association ∧ l.source = source ∧ hasProperty l.property = true := Finset.mem_filter

theorem run_deleteLinks (source : Ref) (hasProperty : String → Bool) (db : Db Geometry) :
    run (deleteLinks source hasProperty) db =
      .ok ((), db.withLinks
        (db.association \ sourceLinks db.association source hasProperty)) := by
  have hlist : (Ordered.list (sourceLinks db.association source hasProperty)).toFinset =
      sourceLinks db.association source hasProperty := by
    ext l
    rw [List.mem_toFinset, Ordered.mem_list]
  rw [deleteLinks, run_query]
  show Except.ok ((), Store.applyAll ((Ordered.list (sourceLinks db.association source
    hasProperty)).map fun l => (Write.unlink l : Write Geometry)) db) = _
  rw [applyAll_unlinks, hlist]

/-- The links that the named properties of a feature make. -/
def namedLinks (source : Ref) (feature : Option Json)
    (links : List (CollectionRolePlan × List Uuid)) : List Link :=
  (links.filter fun x => (Sql.hasKey (properties feature) x.1.property).holds).flatMap fun x =>
    propertyLinks source x.1.property x.2

theorem mem_namedLinks {source : Ref} {feature : Option Json}
    {links : List (CollectionRolePlan × List Uuid)} {l : Link} :
    l ∈ namedLinks source feature links ↔ l.source = source ∧ ∃ x ∈ links,
      (Sql.hasKey (properties feature) x.1.property).holds = true ∧
        l.property = x.1.property ∧ l.targetId ∈ x.2 := by
  simp only [namedLinks, propertyLinks, List.mem_flatMap, List.mem_filter, List.mem_map]
  constructor
  · rintro ⟨x, ⟨hx, hnamed⟩, id, hid, rfl⟩
    exact ⟨rfl, x, hx, hnamed, rfl, hid⟩
  · rintro ⟨hsource, x, hx, hnamed, hproperty, hid⟩
    exact ⟨x, ⟨hx, hnamed⟩, l.targetId, hid, Link.ext hsource.symm hproperty.symm rfl⟩

theorem namedLinks_cons (source : Ref) (feature : Option Json)
    (x : CollectionRolePlan × List Uuid) (links : List (CollectionRolePlan × List Uuid)) :
    namedLinks source feature (x :: links) =
      (if (Sql.hasKey (properties feature) x.1.property).holds then
        propertyLinks source x.1.property x.2 else []) ++ namedLinks source feature links := by
  unfold namedLinks
  rw [List.filter_cons]
  split <;> rfl

theorem property_of_mem_propertyLinks {source : Ref} {property : String} {ids : List Uuid}
    {l : Link} (h : l ∈ propertyLinks source property ids) : l.property = property := by
  obtain ⟨id, -, rfl⟩ := List.mem_map.mp h
  rfl

/-- No property of the rest is the first one. -/
theorem property_ne_of_mem_namedLinks {source : Ref} {feature : Option Json}
    {x : CollectionRolePlan × List Uuid} {links : List (CollectionRolePlan × List Uuid)}
    (hnodup : ((x :: links).map fun y => y.1.property).Nodup) {l : Link}
    (h : l ∈ namedLinks source feature links) : l.property ≠ x.1.property := by
  obtain ⟨-, y, hy, -, hproperty, -⟩ := mem_namedLinks.mp h
  intro heq
  rw [List.map_cons, List.nodup_cons] at hnodup
  refine hnodup.1 ?_
  rw [← heq, hproperty]
  exact List.mem_map_of_mem hy

/-- The links of a complete write, over properties that have none. -/
theorem run_linkWrites (source : Ref) (feature : Option Json)
    {links : List (CollectionRolePlan × List Uuid)}
    (hnodup : (links.map fun x => x.1.property).Nodup) {db : Db Geometry}
    (hfree : ∀ l ∈ namedLinks source feature links, l ∉ db.association) :
    run (linkWrites source feature links) db =
      .ok ((), db.withLinks
        (db.association ∪ (namedLinks source feature links).toFinset)) := by
  induction links generalizing db with
  | nil =>
    show Except.ok ((), db) = .ok ((), db.withLinks (db.association ∪ ∅))
    rw [Finset.union_empty]
    rfl
  | cons x links ih =>
    have hrest : (links.map fun y => y.1.property).Nodup := (List.nodup_cons.mp hnodup).2
    rw [namedLinks_cons] at hfree ⊢
    have hunfold : (linkWrites source feature (x :: links) : SqlProg Geometry SqlError Unit) =
        (if (Sql.hasKey (properties feature) x.1.property).holds then
          insertLinks source x.1.property x.2 else Pure.pure ()) >>=
            fun _ => linkWrites source feature links := rfl
    rw [hunfold, run_bind]
    split at hfree
    · rw [if_pos ‹_›, if_pos ‹_›, run_insertLinks]
      · have hstill : ∀ l ∈ namedLinks source feature links, l ∉ (db.withLinks
            (db.association ∪ (propertyLinks source x.1.property x.2).toFinset)).association := by
          intro l hl hmem
          rcases Finset.mem_union.mp hmem with hold | hnew
          · exact hfree l (List.mem_append_right _ hl) hold
          · exact property_ne_of_mem_namedLinks hnodup hl
              (property_of_mem_propertyLinks (List.mem_toFinset.mp hnew))
        simp only
        rw [ih hrest hstill, withLinks_withLinks, association_withLinks, List.toFinset_append,
          Finset.union_assoc]
      · intro id hid
        exact hfree _ (List.mem_append_left _ (List.mem_map_of_mem hid))
    · rw [if_neg ‹_›, if_neg ‹_›]
      exact ih hrest hfree

/-- A property that the feature names and that is one of the links. -/
def isNamedLink (feature : Option Json) (links : List (CollectionRolePlan × List Uuid))
    (property : String) : Bool :=
  (Sql.hasKey (properties feature) property).holds && links.any fun x => x.1.property = property

/-- The links of a partial write. -/
theorem run_linkWritesPatch (source : Ref) (feature : Option Json)
    {links : List (CollectionRolePlan × List Uuid)}
    (hnodup : (links.map fun x => x.1.property).Nodup) (db : Db Geometry) :
    run (linkWritesPatch source feature links) db =
      .ok ((), db.withLinks
        ((db.association \ sourceLinks db.association source (isNamedLink feature links)) ∪
          (namedLinks source feature links).toFinset)) := by
  induction links generalizing db with
  | nil =>
    have hnone : sourceLinks db.association source (isNamedLink feature []) = ∅ := by
      simp [sourceLinks, isNamedLink]
    rw [hnone, Finset.sdiff_empty]
    show Except.ok ((), db) = .ok ((), db.withLinks (db.association ∪ ∅))
    rw [Finset.union_empty]
    rfl
  | cons x links ih =>
    have hrest : (links.map fun y => y.1.property).Nodup := (List.nodup_cons.mp hnodup).2
    have hfirst : x.1.property ∉ links.map fun y => y.1.property := (List.nodup_cons.mp hnodup).1
    have hunfold : (linkWritesPatch source feature (x :: links) : SqlProg Geometry SqlError Unit) =
        (if (Sql.hasKey (properties feature) x.1.property).holds then do
          deleteLinks source fun property => property = x.1.property
          insertLinks source x.1.property x.2
        else Pure.pure ()) >>= fun _ => linkWritesPatch source feature links := rfl
    have hlater (property : String) : isNamedLink feature (x :: links) property = true ↔
        (property = x.1.property ∧ (Sql.hasKey (properties feature) x.1.property).holds = true) ∨
          isNamedLink feature links property = true := by
      simp only [isNamedLink, List.any_cons, Bool.and_eq_true, Bool.or_eq_true, decide_eq_true_eq]
      constructor
      · rintro ⟨hnamed, rfl | hany⟩
        · exact .inl ⟨rfl, hnamed⟩
        · exact .inr ⟨hnamed, hany⟩
      · rintro (⟨rfl, hnamed⟩ | ⟨hnamed, hany⟩)
        · exact ⟨hnamed, .inl rfl⟩
        · exact ⟨hnamed, .inr hany⟩
    have hnotLater : ¬ isNamedLink feature links x.1.property = true := by
      simp only [isNamedLink, Bool.and_eq_true, List.any_eq_true, decide_eq_true_eq, not_and]
      rintro - ⟨y, hy, hyx⟩
      exact hfirst (List.mem_map.mpr ⟨y, hy, hyx⟩)
    rw [hunfold, run_bind, namedLinks_cons]
    by_cases hnamed : (Sql.hasKey (properties feature) x.1.property).holds = true
    · rw [if_pos hnamed, if_pos hnamed, run_bind, run_deleteLinks]
      simp only
      rw [run_insertLinks]
      · simp only
        rw [ih hrest]
        simp only [withLinks_withLinks, association_withLinks]
        congr 3
        ext l
        have hPL : l ∈ propertyLinks source x.1.property x.2 → l.property = x.1.property :=
          property_of_mem_propertyLinks
        simp only [Finset.mem_union, Finset.mem_sdiff, mem_sourceLinks, List.mem_toFinset,
          List.mem_append, decide_eq_true_eq, hlater]
        -- the property of the link tells which of the two steps counts
        by_cases hown : l.property = x.1.property
        · simp only [hown, hnotLater, hnamed, Bool.false_eq_true, and_true, and_false, or_false,
            not_false_eq_true, or_assoc]
        · have hnew : l ∉ propertyLinks source x.1.property x.2 := fun h => hown (hPL h)
          simp only [hown, hnew, and_false, false_and, or_false, false_or, not_false_eq_true,
            and_true]
      · intro id _ hmem
        have hkept := (Finset.mem_sdiff.mp hmem).2
        refine hkept (mem_sourceLinks.mpr ⟨(Finset.mem_sdiff.mp hmem).1, rfl, ?_⟩)
        simp
    · rw [if_neg hnamed, if_neg hnamed]
      have hsame : isNamedLink feature (x :: links) = isNamedLink feature links := by
        funext property
        rw [Bool.eq_iff_iff, hlater]
        tauto
      rw [hsame, List.nil_append]
      exact ih hrest db

/-! ### Validated links -/

/-- The validated links are those of the declared roles, in their order. -/
theorem roles_of_linkValidation (env : Env) (roles : List CollectionRolePlan)
    (feature : Option Json) (db : Db Geometry) :
    Ends (linkValidation env roles feature) db fun links _ => links.map Prod.fst = roles := by
  induction roles with
  | nil => exact ends_pure rfl
  | cons role roles ih =>
    unfold linkValidation at ih ⊢
    rw [List.mapM_cons]
    -- validation reads, so the rest sees the same tables
    have hone : Ends (do
        let ids ← linkIds env feature role
        Pure.pure (role, ids) : SqlProg Geometry SqlError _) db
          fun x db' => db' = db ∧ x.1 = role := by
      have hvalid := ends_linkValidation env [role] feature db
      intro x db' hrun
      have hsingle : run (linkValidation env [role] feature) db = .ok ([x], db') := by
        unfold linkValidation
        rw [List.mapM_cons, run_bind, hrun]
        rfl
      obtain ⟨hdb, hx⟩ := hvalid [x] db' hsingle
      have hmem := (hx x List.mem_cons_self).1
      exact ⟨hdb, List.mem_singleton.mp hmem⟩
    refine hone.bind ?_
    rintro x db ⟨rfl, rfl⟩
    refine ih.bind fun links db' hlinks => ends_pure ?_
    rw [List.map_cons, hlinks]

theorem properties_of_linkValidation {env : Env} {plan : SchemaPlan} {coll : CollectionPlan}
    (hcoll : coll ∈ plan.collections) {feature : Option Json} {db db' : Db Geometry}
    {links : List (CollectionRolePlan × List Uuid)}
    (h : run (linkValidation env coll.roles feature) db = .ok (links, db')) :
    links.map (fun x => x.1.property) = coll.roles.map (·.property) ∧
      (links.map fun x => x.1.property).Nodup := by
  have hroles := roles_of_linkValidation env coll.roles feature db links db' h
  have hmap : links.map (fun x => x.1.property) = coll.roles.map (·.property) := by
    rw [← hroles, List.map_map]
    rfl
  rw [hmap]
  exact ⟨rfl, plan.roles_nodup coll hcoll⟩

/-! ### Values -/

/-- The value of a name in a list made name by name. -/
theorem lookup_of_forall₂ {α β : Type} (name : α → String) (P : α → β → Prop) {xs : List α}
    {ys : List (String × β)} (h : List.Forall₂ (fun x y => y.1 = name x ∧ P x y.2) xs ys)
    (hnodup : (xs.map name).Nodup) :
    (∀ x ∈ xs, ∃ v, P x v ∧ ys.lookup (name x) = some v) ∧
      ∀ c, (∀ x ∈ xs, name x ≠ c) → ys.lookup c = none := by
  induction h with
  | nil => exact ⟨fun x hx => absurd hx List.not_mem_nil, fun _ _ => rfl⟩
  | @cons x y xs ys hxy _ ih =>
    obtain ⟨hname, hP⟩ := hxy
    rw [List.map_cons, List.nodup_cons] at hnodup
    obtain ⟨ihmem, ihnone⟩ := ih hnodup.2
    constructor
    · intro x' hx'
      rcases List.mem_cons.mp hx' with rfl | hx'
      · refine ⟨y.2, hP, ?_⟩
        rw [← hname, List.lookup_cons_self]
      · obtain ⟨v, hv, hlookup⟩ := ihmem x' hx'
        refine ⟨v, hv, ?_⟩
        have hne : name x' ≠ y.1 := by
          rw [hname]
          exact fun heq => hnodup.1 (heq ▸ List.mem_map_of_mem hx')
        rw [← hlookup, List.lookup_cons, beq_false_of_ne hne]
    · intro c hc
      have hne : c ≠ y.1 := by
        rw [hname]
        exact (hc x List.mem_cons_self).symm
      rw [List.lookup_cons, beq_false_of_ne hne]
      exact ihnone c fun x' hx' => hc x' (List.mem_cons_of_mem _ hx')

/-- The values that a write assigns to columns, of which `named` tells the writable
ones that it reads from the document. -/
structure AssignsColumns (env : Env) (coll : CollectionPlan) (feature : Option Json)
    (named : ColumnPlan → Bool) (columns : List (String × Option Datum)) : Prop where
  writable : ∀ col ∈ coll.writableColumns, named col = true →
    ∃ v, propRead env col feature = .ok v ∧ columns.lookup col.name = some v
  server : ∀ x ∈ coll.serverWriteColumns,
    ∃ v, serverWrite env x.1 feature x.2 = .ok v ∧ columns.lookup x.1.name = some v
  other : ∀ c, (∀ col ∈ coll.writableColumns, named col = true → col.name ≠ c) →
    (∀ x ∈ coll.serverWriteColumns, x.1.name ≠ c) → columns.lookup c = none

theorem mem_serverWriteColumns {coll : CollectionPlan} {x : ColumnPlan × ServerWriteExpr} :
    x ∈ coll.serverWriteColumns ↔ x.1 ∈ coll.columns ∧ x.1.serverWriteExpr = some x.2 := by
  obtain ⟨col, e⟩ := x
  simp only [CollectionPlan.serverWriteColumns, List.mem_filterMap, Option.map_eq_some_iff,
    Prod.mk.injEq]
  constructor
  · rintro ⟨col', hcol', e', he', rfl, rfl⟩
    exact ⟨hcol', he'⟩
  · rintro ⟨hcol, he⟩
    exact ⟨col, hcol, e, he, rfl, rfl⟩

theorem mem_writableColumns {coll : CollectionPlan} {col : ColumnPlan} :
    col ∈ coll.writableColumns ↔
      col ∈ coll.columns ∧ col.autoIncrement = false ∧ col.serverWriteExpr = none := by
  simp [CollectionPlan.writableColumns]

/-- A name is of one column only, so a writable name is not server-written. -/
theorem name_ne_of_server {coll : CollectionPlan} (hnodup : (coll.columns.map (·.name)).Nodup)
    {col : ColumnPlan} (hcol : col ∈ coll.writableColumns) {x : ColumnPlan × ServerWriteExpr}
    (hx : x ∈ coll.serverWriteColumns) : col.name ≠ x.1.name := by
  intro heq
  obtain ⟨hcol, -, hnone⟩ := mem_writableColumns.mp hcol
  obtain ⟨hx, hsome⟩ := mem_serverWriteColumns.mp hx
  rw [List.inj_on_of_nodup_map hnodup hcol hx heq, hsome] at hnone
  cases hnone

theorem nodup_serverWriteColumns {coll : CollectionPlan}
    (hnodup : (coll.columns.map (·.name)).Nodup) :
    (coll.serverWriteColumns.map fun x => x.1.name).Nodup := by
  have hsub : List.Sublist (coll.serverWriteColumns.map Prod.fst) coll.columns := by
    unfold CollectionPlan.serverWriteColumns
    induction coll.columns with
    | nil => exact List.Sublist.slnil
    | cons col cols ih =>
      cases he : col.serverWriteExpr with
      | none => simpa [he] using ih.cons col
      | some e => simpa [he] using ih
  have hmap := (hsub.map ColumnPlan.name).nodup hnodup
  rwa [List.map_map] at hmap

/-- The columns part of `completeValues` and of `partialValues`. -/
theorem assignsColumns_of_mapM {env : Env} {coll : CollectionPlan} {feature : Option Json}
    (hnodup : (coll.columns.map (·.name)).Nodup) {named : ColumnPlan → Bool}
    {writable server : List (String × Option Datum)}
    (hwritable : (coll.writableColumns.filter named).mapM (fun col => do
      let value ← propRead env col feature
      pure (col.name, value)) = .ok writable)
    (hserver : coll.serverWriteColumns.mapM (fun x => do
      let value ← serverWrite env x.1 feature x.2
      pure (x.1.name, value)) = .ok server) :
    AssignsColumns env coll feature named (writable ++ server) := by
  have hread : List.Forall₂ (fun (col : ColumnPlan) (y : String × Option Datum) =>
      y.1 = col.name ∧ propRead env col feature = .ok y.2)
      (coll.writableColumns.filter named) writable := by
    refine (Except.forall₂_of_mapM hwritable).imp fun col y h => ?_
    obtain ⟨v, hv, h⟩ := Except.bind_eq_ok.mp h
    cases h
    exact ⟨rfl, hv⟩
  have hwrite : List.Forall₂ (fun (x : ColumnPlan × ServerWriteExpr) (y : String × Option Datum) =>
      y.1 = x.1.name ∧ serverWrite env x.1 feature x.2 = .ok y.2)
      coll.serverWriteColumns server := by
    refine (Except.forall₂_of_mapM hserver).imp fun x y h => ?_
    obtain ⟨v, hv, h⟩ := Except.bind_eq_ok.mp h
    cases h
    exact ⟨rfl, hv⟩
  have hnodupRead : ((coll.writableColumns.filter named).map (·.name)).Nodup :=
    ((List.filter_sublist.trans List.filter_sublist).map ColumnPlan.name).nodup hnodup
  obtain ⟨hreadMem, hreadNone⟩ := lookup_of_forall₂ ColumnPlan.name
    (fun col v => propRead env col feature = .ok v) hread hnodupRead
  obtain ⟨hwriteMem, hwriteNone⟩ := lookup_of_forall₂
    (fun x : ColumnPlan × ServerWriteExpr => x.1.name)
    (fun x v => serverWrite env x.1 feature x.2 = .ok v) hwrite (nodup_serverWriteColumns hnodup)
  refine ⟨fun col hcol hnamed => ?_, fun x hx => ?_, fun c hc hc' => ?_⟩
  · obtain ⟨v, hv, hlookup⟩ := hreadMem col (List.mem_filter.mpr ⟨hcol, hnamed⟩)
    refine ⟨v, hv, ?_⟩
    rw [List.lookup_append, hlookup]
    rfl
  · obtain ⟨v, hv, hlookup⟩ := hwriteMem x hx
    refine ⟨v, hv, ?_⟩
    rw [List.lookup_append, hreadNone _ fun col hcol =>
      name_ne_of_server hnodup (List.mem_filter.mp hcol).1 hx, hlookup]
    rfl
  · rw [List.lookup_append, hreadNone c fun col hcol =>
      hc col (List.mem_filter.mp hcol).1 (List.mem_filter.mp hcol).2, hwriteNone c hc']
    rfl

section Values

variable {gis : PostGIS Geometry} {env : Env} {coll : CollectionPlan} {feature : Option Json}
  {vals : Assignments Geometry}

theorem completeValues_ok (hnodup : (coll.columns.map (·.name)).Nodup)
    (h : completeValues gis env coll feature = .ok vals) :
    (∃ g, vals.geometry = some g ∧ geometryValue gis coll feature = .ok g) ∧
      AssignsColumns env coll feature (fun _ => true) vals.columns ∧
      checkRow gis coll vals = .ok () := by
  obtain ⟨g, hg, h⟩ := Except.bind_eq_ok.mp h
  obtain ⟨writable, hwritable, h⟩ := Except.bind_eq_ok.mp h
  obtain ⟨server, hserver, h⟩ := Except.bind_eq_ok.mp h
  obtain ⟨⟨⟩, hcheck, h⟩ := Except.bind_eq_ok.mp h
  cases h
  rw [← List.filter_true coll.writableColumns] at hwritable
  exact ⟨⟨g, rfl, hg⟩, assignsColumns_of_mapM hnodup hwritable hserver, hcheck⟩

/-- The writable columns that a partial write reads. -/
def namesColumn (feature : Option Json) (col : ColumnPlan) : Bool :=
  (Sql.hasKey (properties feature) col.name).holds

theorem partialValues_ok (hnodup : (coll.columns.map (·.name)).Nodup)
    (h : partialValues gis env coll feature = .ok vals) :
    (if coll.derived.isSome || (Sql.hasKey feature "geometry").holds then
        ∃ g, vals.geometry = some g ∧ geometryValue gis coll feature = .ok g
      else vals.geometry = none) ∧
      AssignsColumns env coll feature (namesColumn feature) vals.columns ∧
      checkRow gis coll vals = .ok () := by
  unfold partialValues at h
  split at h
  · next hnamed =>
    rw [if_pos hnamed]
    obtain ⟨_, hg, h⟩ := Except.bind_eq_ok.mp h
    obtain ⟨writable, hwritable, h⟩ := Except.bind_eq_ok.mp h
    obtain ⟨server, hserver, h⟩ := Except.bind_eq_ok.mp h
    obtain ⟨⟨⟩, hcheck, h⟩ := Except.bind_eq_ok.mp h
    cases h
    obtain ⟨g, hvalue, rfl⟩ := Except.map_eq_ok.mp hg
    exact ⟨⟨g, rfl, hvalue⟩, assignsColumns_of_mapM hnodup hwritable hserver, hcheck⟩
  · next hnamed =>
    rw [if_neg hnamed]
    obtain ⟨_, ⟨⟩, h⟩ := Except.bind_eq_ok.mp h
    obtain ⟨writable, hwritable, h⟩ := Except.bind_eq_ok.mp h
    obtain ⟨server, hserver, h⟩ := Except.bind_eq_ok.mp h
    obtain ⟨⟨⟩, hcheck, h⟩ := Except.bind_eq_ok.mp h
    cases h
    exact ⟨rfl, assignsColumns_of_mapM hnodup hwritable hserver, hcheck⟩

end Values

/-! ### A row rewritten -/

section Existing

variable {gis : PostGIS Geometry} {env : Env} {coll : CollectionPlan}

/-- The tables with new values in a row. -/
def Db.assign (db : Db Geometry) (ref : Ref) (values : Assignments Geometry) (now : Datum) :
    Db Geometry :=
  Store.apply (Write.updateRow ref fun row => row.assign values now) db

theorem row?_assign (db : Db Geometry) (ref : Ref) (values : Assignments Geometry) (now : Datum)
    (r : Ref) :
    (db.assign ref values now).row? r =
      if r = ref then (db.row? ref).map fun row => row.assign values now else db.row? r :=
  row?_updateRow _ _ db r

@[simp] theorem association_assign (db : Db Geometry) (ref : Ref) (values : Assignments Geometry)
    (now : Datum) : (db.assign ref values now).association = db.association :=
  association_updateRow _ _ db

/-- What a replace or an update has done that found the row: its values are
computed, and its link statements ran over the tables with them. -/
structure Rewrote (env : Env) (coll : CollectionPlan) (feature : Option Json)
    (values : Except SqlError (Assignments Geometry))
    (writeLinks : Ref → List (CollectionRolePlan × List Uuid) → SqlProg Geometry SqlError Unit)
    (db : Db Geometry) (id : Uuid) (vals : Assignments Geometry)
    (links : List (CollectionRolePlan × List Uuid)) (db' : Db Geometry) : Prop where
  present : (db.row? ⟨coll.collectionName, id⟩).isSome
  values : values = .ok vals
  validated : run (linkValidation env coll.roles feature) db = .ok (links, db)
  writes : run (writeLinks ⟨coll.collectionName, id⟩ links)
    (db.assign ⟨coll.collectionName, id⟩ vals env.now) = .ok ((), db')

/-- A replace or an update that did not fail. -/
theorem ends_writeExisting_exact {guardedByPresence : Bool} {fid : Option Uuid}
    {feature : Option Json} {values : Except SqlError (Assignments Geometry)}
    {writeLinks : Ref → List (CollectionRolePlan × List Uuid) → SqlProg Geometry SqlError Unit}
    (db : Db Geometry) :
    Ends (writeExisting gis env guardedByPresence coll fid feature values writeLinks) db
      fun found db' =>
        guardBlock gis env coll guardedByPresence feature = .ok () ∧
          oiGuard env coll fid feature = .ok () ∧
          ((found = false ∧ db' = db ∧ ∀ id, fid = some id →
            db.row? ⟨coll.collectionName, id⟩ = none) ∨
          (found = true ∧ ∃ id vals links, fid = some id ∧
            Rewrote env coll feature values writeLinks db id vals links db')) := by
  refine (ends_ofExcept (Q := fun _ db' => db' = db ∧
    guardBlock gis env coll guardedByPresence feature = .ok () ∧
      oiGuard env coll fid feature = .ok ()) ?_).bind ?_
  · intro _ h
    obtain ⟨⟨⟩, hguard, hoi⟩ := Except.bind_eq_ok.mp h
    exact ⟨rfl, hguard, hoi⟩
  rintro _ db ⟨rfl, hguard, hoi⟩
  -- the guards have passed; the links are looked up in the same tables
  refine ((ends_linkValidation env coll.roles feature db).and (ends_run _ db)).bind ?_
  rintro links db ⟨⟨rfl, -⟩, hlinks⟩
  refine (ends_query (Q := fun found db₁ => (found = false ∧ db₁ = db ∧
      ∀ id, fid = some id → db.row? ⟨coll.collectionName, id⟩ = none) ∨
    (found = true ∧ ∃ id vals, fid = some id ∧ (db.row? ⟨coll.collectionName, id⟩).isSome ∧
      values = .ok vals ∧ db₁ = db.assign ⟨coll.collectionName, id⟩ vals env.now)) ?_).bind ?_
  · intro found ws h
    -- NULL finds no row, and neither does an id that is not there
    cases fid with
    | none =>
      cases h
      exact .inl ⟨rfl, rfl, fun id hid => nomatch hid⟩
    | some id =>
      simp only [Db.finds_self] at h
      split at h
      · next hrow =>
        obtain ⟨vals, hvals, h⟩ := Except.bind_eq_ok.mp h
        cases h
        exact .inr ⟨rfl, id, vals, rfl, hrow, hvals, rfl⟩
      · next hrow =>
        cases h
        refine .inl ⟨rfl, rfl, fun id' hid => ?_⟩
        cases hid
        exact Option.not_isSome_iff_eq_none.mp hrow
  · rintro found db₁ (⟨rfl, rfl, habsent⟩ | ⟨rfl, id, vals, rfl, hrow, hvals, rfl⟩)
    · exact ends_pure ⟨hguard, hoi, .inl ⟨rfl, rfl, habsent⟩⟩
    · refine (ends_run _ _).bind fun _ db₂ hwrites => ends_pure ?_
      exact ⟨hguard, hoi, .inr ⟨rfl, id, vals, links, rfl, ⟨hrow, hvals, hlinks, hwrites⟩⟩⟩

/-! ### A row written whole -/

/-- What a create has done: its id was free, its values are computed, and its link
statements ran over the tables with the new row. -/
structure Created (gis : PostGIS Geometry) (env : Env) (n : ℕ) (coll : CollectionPlan)
    (feature : Option Json) (db : Db Geometry) (id : Uuid) (vals : Assignments Geometry)
    (links : List (CollectionRolePlan × List Uuid)) (db' : Db Geometry) : Prop where
  guards : guardBlock gis env coll false feature = .ok ()
  agrees : idsDisagree env coll feature = .ok ()
  id_eq : id = (givenId env coll feature).getD (env.genRandomUuid n)
  absent : db.row? ⟨coll.collectionName, id⟩ = none
  values : completeValues gis env coll feature = .ok vals
  validated : run (linkValidation env coll.roles feature) db = .ok (links, db)
  writes : run (linkWrites ⟨coll.collectionName, id⟩ feature links)
    (Store.apply (Write.insertRow ⟨coll.collectionName, id⟩ (newRow env n coll vals)) db) =
      .ok ((), db')

theorem ends_create_exact (n : ℕ) (feature : Option Json) (db : Db Geometry) :
    Ends (create gis env n coll feature) db fun id db' =>
      ∃ vals links, Created gis env n coll feature db id vals links db' := by
  refine (ends_ofExcept (Q := fun _ db' => db' = db ∧
    guardBlock gis env coll false feature = .ok ()) ?_).bind ?_
  · intro _ h
    obtain ⟨⟨⟩, -, hguard⟩ := Except.bind_eq_ok.mp h
    exact ⟨rfl, hguard⟩
  rintro _ db ⟨rfl, hguard⟩
  refine ((ends_linkValidation env coll.roles feature db).and (ends_run _ db)).bind ?_
  rintro links db ⟨⟨rfl, -⟩, hlinks⟩
  refine (ends_ofExcept (Q := fun _ db' => db' = db ∧ idsDisagree env coll feature = .ok ())
    fun _ h => ⟨rfl, h⟩).bind ?_
  rintro _ db ⟨rfl, hagrees⟩
  let ref : Ref := ⟨coll.collectionName, (givenId env coll feature).getD (env.genRandomUuid n)⟩
  have hinsert : Ends ((insertRow gis env n coll ref.id feature).mapError
      (duplicateIdentifier env coll feature)) db fun _ db₁ =>
        db.row? ref = none ∧ ∃ vals, completeValues gis env coll feature = .ok vals ∧
          db₁ = Store.apply (Write.insertRow ref (newRow env n coll vals)) db := by
    refine Ends.mapError _ (ends_query fun _ ws h => ?_)
    obtain ⟨vals, hvals, h⟩ := Except.bind_eq_ok.mp h
    split at h
    · cases h
    · next habsent =>
      cases h
      exact ⟨Option.not_isSome_iff_eq_none.mp habsent, vals, hvals, rfl⟩
  refine hinsert.bind ?_
  rintro _ db₁ ⟨habsent, vals, hvals, rfl⟩
  refine (ends_run _ _).bind fun _ db₂ hwrites => ends_pure ?_
  exact ⟨vals, links, hguard, hagrees, rfl, habsent, hvals, hlinks, hwrites⟩

/-- What an upsert has done: it names no link, and it wrote the values of the
document to the row of its id, which it inserted if it was not there. -/
structure Upserted (gis : PostGIS Geometry) (env : Env) (n : ℕ) (coll : CollectionPlan)
    (feature : Option Json) (db : Db Geometry) (id : Uuid) (vals : Assignments Geometry)
    (db' : Db Geometry) : Prop where
  guards : guardBlock gis env coll false feature = .ok ()
  agrees : idsDisagree env coll feature = .ok ()
  id_eq : id = (givenId env coll feature).getD (env.genRandomUuid n)
  values : completeValues gis env coll feature = .ok vals
  rows : ∀ r, db'.row? r = if r = ⟨coll.collectionName, id⟩ then
      some (((db.row? ⟨coll.collectionName, id⟩).map fun row => row.assign vals env.now).getD
        (newRow env n coll vals))
    else db.row? r
  association : db'.association = db.association

theorem ends_upsert_exact (n : ℕ) (feature : Option Json) (db : Db Geometry) :
    Ends (upsert gis env n coll feature) db fun id db' =>
      ∃ vals, Upserted gis env n coll feature db id vals db' := by
  refine (ends_ofExcept (Q := fun _ db' => db' = db ∧
    guardBlock gis env coll false feature = .ok () ∧
      idsDisagree env coll feature = .ok ()) ?_).bind ?_
  · intro _ h
    obtain ⟨⟨⟩, -, h⟩ := Except.bind_eq_ok.mp h
    obtain ⟨⟨⟩, -, h⟩ := Except.bind_eq_ok.mp h
    obtain ⟨⟨⟩, hguard, h⟩ := Except.bind_eq_ok.mp h
    split at h
    · cases h
    · exact ⟨rfl, hguard, h⟩
  rintro _ db ⟨rfl, hguard, hagrees⟩
  refine ends_query fun id ws h => ?_
  obtain ⟨vals, hvals, h⟩ := Except.bind_eq_ok.mp h
  cases h
  refine ⟨vals, hguard, hagrees, rfl, hvals, fun r => ?_, ?_⟩
  · rw [Store.applyAll_cons, Store.applyAll_nil]
    split
    · next hrow =>
      obtain ⟨row, hrow⟩ := Option.isSome_iff_exists.mp hrow
      rw [row?_updateRow, hrow]
      rfl
    · next hrow =>
      rw [row?_insertRow, Option.not_isSome_iff_eq_none.mp hrow]
      rfl
  · rw [Store.applyAll_cons, Store.applyAll_nil]
    split
    · exact association_updateRow _ _ db
    · rfl

end Existing

end Geocomponents
