/-
The structure phase looks at a few rows and finds what there is to find.

* `boundsFinding_congr`, `footprintStructureVerdict_congr` — what each check
  depends on;
* `cleanOutside_bounds`, `cleanOutside_structure` — after a run of the items,
  nothing is wrong outside the dirty rows;
* `structure_check_incremental` — so the findings over the dirty rows are those
  over all rows, and a committed call keeps both invariants for all of them.
-/
import Topogdb.Geocomponents.Phases
import Topogdb.Lib.Incremental

namespace Geocomponents

open Prog

variable {Geometry : Type} {plan : SchemaPlan} {db db' : Db Geometry} {ref : Ref}

/-! ### What the bounds check depends on -/

/-- Everything of a row but its geometry and its times. -/
def Db.columns? (db : Db Geometry) (ref : Ref) : Option (String → Option Datum) :=
  (db.row? ref).map (·.columns)

theorem Row.included_congr {row row' : Row Geometry} (h : row'.columns = row.columns) :
    row'.included = row.included := by
  funext whenField
  unfold Row.included
  rw [h]

/-- Rows with the same columns: both are missing, or both are there. -/
theorem columns?_cases (h : db'.columns? ref = db.columns? ref) :
    (db'.row? ref = none ∧ db.row? ref = none) ∨
      ∃ row' row, db'.row? ref = some row' ∧ db.row? ref = some row ∧ row'.columns = row.columns := by
  rw [Db.columns?, Db.columns?] at h
  cases hrow : db.row? ref with
  | none =>
    rw [hrow, Option.map_none, Option.map_eq_none_iff] at h
    exact Or.inl ⟨h, rfl⟩
  | some row =>
    rw [hrow, Option.map_some] at h
    obtain ⟨row', hrow', heq⟩ := Option.map_eq_some_iff.mp h
    exact Or.inr ⟨row', row, hrow', rfl, heq⟩

/-- An owner has the row as a declared target. -/
theorem target?_of_ownerRole {coll : CollectionPlan} (hname : coll.collectionName = ref.collection)
    {role : FootprintOwnerRolePlan} (hrole : role ∈ ownerRoles plan coll) {l : Link}
    (hsource : l.source.collection = role.sourceCollection) (hproperty : l.property = role.property)
    (hid : l.targetId = ref.id) : plan.target? l = some ref := by
  obtain ⟨hmem, htarget⟩ := List.mem_filter.mp hrole
  obtain ⟨c, hc, hrole⟩ := List.mem_flatMap.mp hmem
  rw [CollectionPlan.footprintOwnerRoles] at hrole
  split at hrole
  · exact absurd hrole List.not_mem_nil
  · next derived hderived =>
    split at hrole
    · exact absurd hrole List.not_mem_nil
    · obtain ⟨r, hr, rfl⟩ := List.mem_map.mp hrole
      have hdeclared := SchemaPlan.targetCollection?_of_derived hc hderived hr
      rw [SchemaPlan.target?, hsource, hproperty, hdeclared, hid]
      have heq : r.targetCollection = ref.collection := by
        rw [← hname]
        simpa using htarget
      exact congrArg some (Ref.ext heq rfl)

theorem owners_congr {coll : CollectionPlan} (hname : coll.collectionName = ref.collection)
    {row row' : Row Geometry} (hcolumns : row'.columns = row.columns)
    (hlinks : ∀ l, plan.target? l = some ref → (l ∈ db'.association ↔ l ∈ db.association)) :
    owners plan db' coll ref.id row' = owners plan db coll ref.id row := by
  rw [owners, Row.included_congr hcolumns]
  congr 1
  ext l
  rw [Finset.mem_filter, Finset.mem_filter]
  refine and_congr_left fun h => hlinks l ?_
  obtain ⟨hid, hany⟩ := h
  obtain ⟨role, hrole, hl⟩ := List.any_eq_true.mp hany
  simp only [Bool.and_eq_true, decide_eq_true_eq] at hl
  exact target?_of_ownerRole hname hrole hl.1.1 hl.1.2 hid

/-- **The bounds check of a row depends on the columns of the row and on the
links to it.** -/
theorem boundsFinding_congr (hcolumns : db'.columns? ref = db.columns? ref)
    (hlinks : ∀ l, plan.target? l = some ref → (l ∈ db'.association ↔ l ∈ db.association)) :
    boundsFinding plan db' ref = boundsFinding plan db ref := by
  refine Option.bind_congr fun coll hcoll => Option.bind_congr fun bounds _ => ?_
  have hname := (SchemaPlan.mem_of_collection? hcoll).2
  rcases columns?_cases hcolumns with ⟨hrow', hrow⟩ | ⟨row', row, hrow', hrow, heq⟩
  · rw [hrow', hrow]
    rfl
  · rw [hrow', hrow]
    simp only [Option.bind_eq_bind, Option.bind_some]
    rw [owners_congr hname heq hlinks]

/-! ### What the footprint check depends on -/

/-- A footprint role has its target as the declared target. -/
theorem target?_of_derivedRole {coll : CollectionPlan} (hmem : coll ∈ plan.collections)
    (hname : coll.collectionName = ref.collection) {derived : DerivedPlan}
    (hderived : coll.derived = some derived) {role : DerivedRolePlan} {l : Link}
    (hrole : (derivedRoles derived).find? (fun role => role.property = l.property) = some role)
    (hsource : l.source = ref) :
    plan.target? l = some ⟨role.targetCollection, l.targetId⟩ := by
  obtain ⟨hrole, hproperty⟩ := SchemaPlan.mem_of_find?_key hrole
  have hdeclared := SchemaPlan.targetCollection?_of_derived hmem hderived hrole
  rw [SchemaPlan.target?, hsource, ← hname, ← hproperty, hdeclared]
  rfl

theorem footprintLinks_congr {derived : DerivedPlan}
    (hlinks : ∀ l : Link, l.source = ref → (l ∈ db'.association ↔ l ∈ db.association)) :
    footprintLinks db' derived ref = footprintLinks db derived ref := by
  have hfilter : db'.association.filter (·.source = ref) = db.association.filter (·.source = ref) := by
    ext l
    rw [Finset.mem_filter, Finset.mem_filter]
    exact and_congr_left fun hl => hlinks l hl
  rw [footprintLinks, footprintLinks, hfilter]

/-- A footprint link is a link of the row to a declared target. -/
theorem target?_of_mem_footprintLinks {coll : CollectionPlan} (hmem : coll ∈ plan.collections)
    (hname : coll.collectionName = ref.collection) {derived : DerivedPlan}
    (hderived : coll.derived = some derived) {x : Link × DerivedRolePlan}
    (hx : x ∈ footprintLinks db derived ref) :
    x.1 ∈ db.association ∧ x.1.source = ref ∧ x.2 ∈ derivedRoles derived ∧
      plan.target? x.1 = some ⟨x.2.targetCollection, x.1.targetId⟩ := by
  obtain ⟨l, hl, hx⟩ := List.mem_filterMap.mp hx
  obtain ⟨role, hrole, rfl⟩ := Option.map_eq_some_iff.mp hx
  rw [Ordered.mem_list, Finset.mem_filter] at hl
  exact ⟨hl.1, hl.2, (SchemaPlan.mem_of_find?_key hrole).1,
    target?_of_derivedRole hmem hname hderived hrole hl.2⟩

theorem memberIncluded_congr {x : Link × DerivedRolePlan}
    (h : db'.columns? ⟨x.2.targetCollection, x.1.targetId⟩
      = db.columns? ⟨x.2.targetCollection, x.1.targetId⟩) :
    memberIncluded db' x = memberIncluded db x := by
  rw [memberIncluded, memberIncluded]
  rcases columns?_cases h with ⟨hrow', hrow⟩ | ⟨row', row, hrow', hrow, heq⟩
  · rw [hrow', hrow]
  · rw [hrow', hrow]
    simp only [Option.map_some, Row.included_congr heq]

/-- **The footprint verdict of a row depends on whether the row is there, on the
links from it and on the columns of the rows they target.** -/
theorem footprintStructureVerdict_congr (hrow : (db'.row? ref).isSome = (db.row? ref).isSome)
    (hlinks : ∀ l : Link, l.source = ref → (l ∈ db'.association ↔ l ∈ db.association))
    (htargets : ∀ l ∈ db.association, l.source = ref → ∀ t, plan.target? l = some t →
      db'.columns? t = db.columns? t) :
    footprintStructureVerdict plan db' ref = footprintStructureVerdict plan db ref := by
  refine Option.bind_congr fun coll hcoll => Option.bind_congr fun derived hderived => ?_
  obtain ⟨hmem, hname⟩ := SchemaPlan.mem_of_collection? hcoll
  have hsame : footprintLinks db' derived ref = footprintLinks db derived ref :=
    footprintLinks_congr hlinks
  -- to the same members
  have hincluded : ∀ x ∈ footprintLinks db derived ref,
      memberIncluded db' x = memberIncluded db x := by
    intro x hx
    obtain ⟨hl, hsource, -, htarget⟩ := target?_of_mem_footprintLinks hmem hname hderived hx
    exact memberIncluded_congr (htargets x.1 hl hsource _ htarget)
  have hverdict : collectionStructureVerdict db' derived ref
      = collectionStructureVerdict db derived ref := by
    unfold collectionStructureVerdict
    rw [hsame, List.filterMap_congr fun x hx => by rw [hincluded x hx]]
  cases hdb : db.row? ref with
  | none =>
    rw [hdb, Option.isSome_none, Option.isSome_eq_false_iff, Option.isNone_iff_eq_none] at hrow
    rw [hrow]
    rfl
  | some row =>
    rw [hdb, Option.isSome_some] at hrow
    obtain ⟨row', hrow'⟩ := Option.isSome_iff_exists.mp hrow
    rw [hrow', hverdict]
    rfl

/-! ### The findings as lists over rows -/

theorem Ref.lt_iff {r r' : Ref} :
    r < r' ↔ r.collection < r'.collection ∨ r.collection = r'.collection ∧ r.id < r'.id :=
  Prod.Lex.toLex_lt_toLex

/-- The rows of all sets of ids are the rows. -/
theorem flatMap_idsOf (refs : List Ref) :
    ((collectionsOf refs).flatMap fun collection =>
      (Ordered.list (idsOf refs collection).toFinset).map fun id => (⟨collection, id⟩ : Ref))
      = Ordered.list refs.toFinset := by
  refine Ordered.list_eq_of_pairwise_lt (fun r => ?_) ?_
  · rw [List.mem_flatMap, List.mem_toFinset]
    constructor
    · rintro ⟨collection, -, hr⟩
      obtain ⟨id, hid, rfl⟩ := List.mem_map.mp hr
      rw [Ordered.mem_list, List.mem_toFinset] at hid
      obtain ⟨r, hmem, rfl⟩ := List.mem_map.mp hid
      obtain ⟨hmem, hcollection⟩ := List.mem_filter.mp hmem
      rw [← of_decide_eq_true hcollection]
      exact hmem
    · intro hr
      refine ⟨r.collection, ?_, List.mem_map.mpr ⟨r.id, ?_, rfl⟩⟩
      · exact Ordered.mem_list.mpr (List.mem_toFinset.mpr (List.mem_map_of_mem hr))
      · rw [Ordered.mem_list, List.mem_toFinset]
        exact List.mem_map_of_mem (List.mem_filter.mpr ⟨hr, decide_eq_true rfl⟩)
  · rw [List.pairwise_flatMap]
    constructor
    · intro collection _
      rw [List.pairwise_map]
      refine (Ordered.pairwise_lt_list _).imp ?_
      intro id id' h
      exact Ref.lt_iff.mpr (Or.inr ⟨rfl, h⟩)
    · refine (Ordered.pairwise_lt_list _).imp fun h r hr r' hr' => ?_
      obtain ⟨id, -, rfl⟩ := List.mem_map.mp hr
      obtain ⟨id', -, rfl⟩ := List.mem_map.mp hr'
      exact Ref.lt_iff.mpr (Or.inl h)

theorem ref_of_boundsFinding {finding : BoundsFinding} (h : boundsFinding plan db ref = some finding) :
    (⟨finding.collection, finding.id⟩ : Ref) = ref := by
  obtain ⟨coll, -, h⟩ := Option.bind_eq_some_iff.mp h
  obtain ⟨bounds, -, h⟩ := Option.bind_eq_some_iff.mp h
  obtain ⟨row, -, h⟩ := Option.bind_eq_some_iff.mp h
  simp only at h
  split at h
  · cases h
    rfl
  · cases h

/-- The bounds findings over some rows are those of the rows in order. -/
theorem boundsFindings_eq (plan : SchemaPlan) (db : Db Geometry) (refs : List Ref) :
    boundsFindings plan db refs = Incremental.findings (boundsFinding plan) db refs.toFinset := by
  have hlist : ((collectionsOf refs).flatMap fun collection =>
      checkMemberBounds plan db collection (idsOf refs collection))
        = (Ordered.list refs.toFinset).filterMap (boundsFinding plan db) := by
    rw [← flatMap_idsOf, List.filterMap_flatMap]
    refine List.flatMap_congr fun collection _ => ?_
    rw [List.filterMap_map]
    rfl
  rw [boundsFindings, Incremental.findings, hlist]
  refine List.Pairwise.insertionSort_eq ?_
  rw [List.pairwise_filterMap]
  refine (Ordered.pairwise_list refs.toFinset).imp fun h finding hfinding finding' hfinding' => ?_
  rw [ref_of_boundsFinding hfinding, ref_of_boundsFinding hfinding']
  exact h

/-- The verdict of a row, if it is an invalid one. -/
def invalidVerdict (plan : SchemaPlan) (db : Db Geometry) (ref : Ref) : Option StructureVerdict :=
  (footprintStructureVerdict plan db ref).filter fun verdict => !verdict.valid

theorem footprintFindings_eq (plan : SchemaPlan) (db : Db Geometry) (refs : List Ref) :
    footprintFindings plan db refs
      = Incremental.findings (invalidVerdict plan) db (dirtySurfaces plan db refs) :=
  List.filter_filterMap

/-! ### The invariants -/

/-- Every row of a bounded collection has exactly its number of owners. -/
def BoundsExact (plan : SchemaPlan) (db : Db Geometry) : Prop :=
  ∀ ref coll bounds row, plan.collection? ref.collection = some coll → coll.bounds = some bounds →
    db.row? ref = some row → (owners plan db coll ref.id row).card = bounds

/-- Every row of a derived collection has a valid structure. -/
def StructureValid (plan : SchemaPlan) (db : Db Geometry) : Prop :=
  ∀ ref verdict, footprintStructureVerdict plan db ref = some verdict → verdict.valid = true

theorem clean_bounds_iff : Incremental.Clean (boundsFinding plan) db ↔ BoundsExact plan db := by
  constructor
  · intro h ref coll bounds row hcoll hbounds hrow
    have hnone := h ref
    rw [boundsFinding, hcoll] at hnone
    simp only [Option.bind_eq_bind, Option.bind_some, hbounds, hrow] at hnone
    by_contra hne
    rw [if_pos hne] at hnone
    cases hnone
  · intro h ref
    cases hfinding : boundsFinding plan db ref with
    | none => rfl
    | some finding =>
      obtain ⟨coll, hcoll, hrest⟩ := Option.bind_eq_some_iff.mp hfinding
      obtain ⟨bounds, hbounds, hrest⟩ := Option.bind_eq_some_iff.mp hrest
      obtain ⟨row, hrow, hrest⟩ := Option.bind_eq_some_iff.mp hrest
      simp only [ne_eq, h ref coll bounds row hcoll hbounds hrow, not_true, if_false] at hrest
      cases hrest

theorem clean_structure_iff :
    Incremental.Clean (invalidVerdict plan) db ↔ StructureValid plan db := by
  constructor
  · intro h ref verdict hverdict
    have hnone := h ref
    rw [invalidVerdict, hverdict, Option.filter_eq_none_iff] at hnone
    simpa using hnone verdict rfl
  · intro h ref
    rw [invalidVerdict, Option.filter_eq_none_iff]
    intro verdict hverdict
    simp [h ref verdict hverdict]

theorem boundsExact_empty (plan : SchemaPlan) : BoundsExact plan (Db.empty : Db Geometry) := by
  intro ref coll bounds row _ _ hrow
  cases hrow

theorem structureValid_empty (plan : SchemaPlan) :
    StructureValid plan (Db.empty : Db Geometry) := by
  intro ref verdict hverdict
  obtain ⟨coll, -, hrest⟩ := Option.bind_eq_some_iff.mp hverdict
  obtain ⟨derived, -, hrest⟩ := Option.bind_eq_some_iff.mp hrest
  cases hrest

/-! ### Nothing changes elsewhere -/

theorem mem_reverseSurfaces {refs : List Ref} {r : Ref} :
    r ∈ reverseSurfaces plan db refs ↔
      ∃ l ∈ db.association, l.source = r ∧ ∃ t ∈ refs, plan.target? l = some t := by
  rw [reverseSurfaces, List.mem_toFinset, List.mem_map]
  constructor
  · rintro ⟨l, hl, rfl⟩
    obtain ⟨collection, -, hl⟩ := List.mem_flatMap.mp hl
    obtain ⟨hmem, htarget, hid⟩ := Finset.mem_filter.mp (Ordered.mem_list.mp hl)
    obtain ⟨t, ht, hid⟩ := List.mem_map.mp hid
    obtain ⟨ht, hcollection⟩ := List.mem_filter.mp ht
    refine ⟨l, hmem, rfl, t, ht, ?_⟩
    rw [SchemaPlan.target?, htarget, ← hid, ← of_decide_eq_true hcollection]
    rfl
  · rintro ⟨l, hmem, rfl, t, ht, htarget⟩
    obtain ⟨collection, hcollection, rfl⟩ := Option.map_eq_some_iff.mp htarget
    refine ⟨l, List.mem_flatMap.mpr ⟨collection, ?_, ?_⟩, rfl⟩
    · exact Ordered.mem_list.mpr (List.mem_toFinset.mpr (List.mem_map.mpr ⟨_, ht, rfl⟩))
    · refine Ordered.mem_list.mpr (Finset.mem_filter.mpr ⟨hmem, hcollection, ?_⟩)
      exact List.mem_map.mpr ⟨_, List.mem_filter.mpr ⟨ht, decide_eq_true rfl⟩, rfl⟩

section Items

variable {db₀ : Db Geometry} {vars : TxVars}

/-- The bounds are met outside the dirty rows. -/
theorem cleanOutside_bounds (htracks : Tracks plan db₀ vars db) (h : BoundsExact plan db₀) :
    Incremental.CleanOutside (boundsFinding plan) (· ∈ vars.dirty.toFinset) db := by
  refine (clean_bounds_iff.mpr h).step fun r hr => ?_
  rw [List.mem_toFinset] at hr
  refine boundsFinding_congr ?_ fun l hl => htracks.targets l r hl hr
  unfold Db.columns?
  rw [htracks.rows r fun htouched => hr (htracks.touched_dirty r htouched)]

/-- The structures are valid outside the dirty surfaces. -/
theorem cleanOutside_structure (htracks : Tracks plan db₀ vars db) (h : StructureValid plan db₀) :
    Incremental.CleanOutside (invalidVerdict plan) (· ∈ dirtySurfaces plan db vars.touched) db := by
  refine (clean_structure_iff.mpr h).step fun r hr => ?_
  rw [dirtySurfaces, Finset.mem_union, not_or, List.mem_toFinset] at hr
  obtain ⟨htouched, hreverse⟩ := hr
  have hverdict : footprintStructureVerdict plan db r = footprintStructureVerdict plan db₀ r := by
    have hlinks : ∀ l : Link, l.source = r → (l ∈ db.association ↔ l ∈ db₀.association) :=
      fun l hl => htracks.links l (hl ▸ htouched)
    refine footprintStructureVerdict_congr (by rw [htracks.rows r htouched]) hlinks ?_
    intro l hl hsource t ht
    -- a touched target would make the row a reverse surface
    have hclean : t ∉ vars.touched := fun hmem =>
      hreverse (mem_reverseSurfaces.mpr ⟨l, (hlinks l hsource).mpr hl, hsource, t, hmem, ht⟩)
    unfold Db.columns?
    rw [htracks.rows t hclean]
  unfold invalidVerdict
  rw [hverdict]

end Items

/-- A refreshed row keeps its columns. -/
theorem Refreshed.columns {gis : PostGIS Geometry} {surfaces : Finset Ref}
    (h : Refreshed gis plan surfaces db db') (r : Ref) : db'.columns? r = db.columns? r := by
  unfold Db.columns?
  by_cases hr : r ∈ surfaces
  · rcases h.measured r hr with ⟨-, hrow⟩ | ⟨verdict, footprint, -, -, hrow⟩
    · rw [hrow]
    · rw [hrow, Option.map_map]
      rfl
  · rw [h.others r hr]

theorem Refreshed.isSome_row? {gis : PostGIS Geometry} {surfaces : Finset Ref}
    (h : Refreshed gis plan surfaces db db') (r : Ref) :
    (db'.row? r).isSome = (db.row? r).isSome := by
  rcases columns?_cases (h.columns r) with ⟨hrow', hrow⟩ | ⟨row', row, hrow', hrow, -⟩
  · rw [hrow', hrow]
  · rw [hrow', hrow]
    rfl

/-- Neither invariant depends on what the geometry phase stores. -/
theorem Refreshed.invariants {gis : PostGIS Geometry} {surfaces : Finset Ref}
    (h : Refreshed gis plan surfaces db db') :
    (BoundsExact plan db → BoundsExact plan db') ∧
      (StructureValid plan db → StructureValid plan db') := by
  have hlinks : ∀ l : Link, l ∈ db'.association ↔ l ∈ db.association := fun l => by
    rw [h.association]
  constructor
  · intro hbounds
    refine clean_bounds_iff.mp fun r => ?_
    rw [boundsFinding_congr (h.columns r) fun l _ => hlinks l]
    exact clean_bounds_iff.mpr hbounds r
  · intro hstructure r verdict hverdict
    refine hstructure r verdict ?_
    rw [← hverdict]
    exact (footprintStructureVerdict_congr (h.isSome_row? r) (fun l _ => hlinks l)
      fun _ _ _ t _ => h.columns t).symm

/-! ### Incremental and full checks -/

/-- The rows of all bounded collections. -/
def boundedRows (plan : SchemaPlan) (db : Db Geometry) : List Ref :=
  Ordered.list (db.keys.filter fun r => ((plan.collection? r.collection).bind (·.bounds)).isSome)

/-- The rows of all derived collections. -/
def derivedRows (plan : SchemaPlan) (db : Db Geometry) : List Ref :=
  Ordered.list (db.keys.filter fun r => ((plan.collection? r.collection).bind (·.derived)).isSome)

/-- `_check_member_bounds` over all rows of all bounded collections. -/
def allBoundsFindings (plan : SchemaPlan) (db : Db Geometry) : List BoundsFinding :=
  boundsFindings plan db (boundedRows plan db)

/-- The invalid verdicts over all rows of all derived collections. -/
def allFootprintFindings (plan : SchemaPlan) (db : Db Geometry) : List StructureVerdict :=
  ((derivedRows plan db).filterMap (footprintStructureVerdict plan db)).filter
    fun verdict => !verdict.valid

theorem boundsFindings_eq_all {db₀ : Db Geometry} {vars : TxVars}
    (htracks : Tracks plan db₀ vars db) (h : BoundsExact plan db₀) :
    boundsFindings plan db vars.dirty = allBoundsFindings plan db := by
  rw [allBoundsFindings, boundsFindings_eq, boundsFindings_eq]
  refine Incremental.findings_eq (cleanOutside_bounds htracks h) fun r hr => ?_
  obtain ⟨finding, hfinding⟩ := Option.isSome_iff_exists.mp hr
  obtain ⟨coll, hcoll, hrest⟩ := Option.bind_eq_some_iff.mp hfinding
  obtain ⟨bounds, hbounds, hrest⟩ := Option.bind_eq_some_iff.mp hrest
  obtain ⟨row, hrow, -⟩ := Option.bind_eq_some_iff.mp hrest
  rw [List.mem_toFinset, boundedRows, Ordered.mem_list, Finset.mem_filter, mem_keys, hrow, hcoll,
    Option.bind_some, hbounds]
  exact ⟨rfl, rfl⟩

theorem footprintFindings_eq_all {db₀ : Db Geometry} {vars : TxVars}
    (htracks : Tracks plan db₀ vars db) (h : StructureValid plan db₀) :
    footprintFindings plan db vars.touched = allFootprintFindings plan db := by
  rw [allFootprintFindings, derivedRows, footprintFindings_eq, List.filter_filterMap]
  refine Incremental.findings_eq (cleanOutside_structure htracks h) fun r hr => ?_
  obtain ⟨verdict, hverdict⟩ := Option.isSome_iff_exists.mp hr
  obtain ⟨hverdict, -⟩ := Option.filter_eq_some_iff.mp hverdict
  obtain ⟨coll, hcoll, hrest⟩ := Option.bind_eq_some_iff.mp hverdict
  obtain ⟨derived, hderived, hrest⟩ := Option.bind_eq_some_iff.mp hrest
  obtain ⟨row, hrow, -⟩ := Option.bind_eq_some_iff.mp hrest
  rw [Finset.mem_filter, mem_keys, hrow, hcoll, Option.bind_some, hderived]
  exact ⟨rfl, rfl⟩

/-- A committed call keeps the bounds exact. -/
theorem Committed.bounds {gis : PostGIS Geometry} {env : Env} {items : List Json}
    {db₁ : Db Geometry} {vars : TxVars} (h : Committed gis env plan items db vars db₁ db')
    (hbounds : BoundsExact plan db) : BoundsExact plan db' := by
  obtain ⟨-, hnil⟩ := List.append_eq_nil_iff.mp h.clean
  rw [List.map_eq_nil_iff, boundsFindings_eq] at hnil
  exact h.refreshed.invariants.1 <| clean_bounds_iff.mp <|
    Incremental.clean_of_findings_eq_nil (cleanOutside_bounds h.tracks hbounds) hnil

/-- A committed call keeps the structures valid. -/
theorem Committed.structures {gis : PostGIS Geometry} {env : Env} {items : List Json}
    {db₁ : Db Geometry} {vars : TxVars} (h : Committed gis env plan items db vars db₁ db')
    (hstructure : StructureValid plan db) : StructureValid plan db' := by
  obtain ⟨hfindings, -⟩ := List.append_eq_nil_iff.mp h.clean
  obtain ⟨-, hnil⟩ := List.append_eq_nil_iff.mp hfindings
  rw [List.map_eq_nil_iff, footprintFindings_eq] at hnil
  exact h.refreshed.invariants.2 <| clean_structure_iff.mp <|
    Incremental.clean_of_findings_eq_nil (cleanOutside_structure h.tracks hstructure) hnil

/-! ### A dataset of lines and areas -/

namespace Sample

/-- A geometry that is always simple, closed and used. -/
def gis : PostGIS Unit where
  geomFromGeoJSON _ := .ok ()
  setSRID g _ := g
  force2D g := g
  force3D g := g
  isValid _ := .ok true
  isValidReason _ := ""
  isSimple _ := .ok true
  isEmpty _ := false
  geometryType _ := "MULTILINESTRING"
  numGeometries _ := 1
  numInteriorRings _ := some 0
  dump g := [g]
  collect parts := .ok parts.head?
  node g := .ok g
  buildArea g := .ok (some g)
  boundary g := .ok g
  coveredBy _ _ := .ok true
  typmod _ _ := .ok ()

def env : Env where
  jsonText _ := ""
  cast sqlType text := .ok (.scalar sqlType text)
  now := .scalar "timestamptz" ""
  nowText := ""
  assignNow sqlType := .ok (.scalar sqlType "")
  assignText sqlType text := .ok (.scalar sqlType text)
  genRandomUuid n := Fin.ofNat _ n
  identity n _ := .scalar "integer" (toString n)

/-- Every line bounds one area. -/
def lines : CollectionPlan :=
  { collectionName := "lines"
    featureModel := .topology
    geometry := ⟨"LineString", 4326, false, false⟩
    bounds := some 1 }

def areas : CollectionPlan :=
  { collectionName := "areas"
    featureModel := .topology
    geometry := ⟨"MultiPolygon", 4326, false, true⟩
    roles := [⟨"boundary", "lines", "id"⟩]
    derived := some ⟨"footprint", true, .one, .allowed, [[⟨"boundary", "lines", none⟩]]⟩ }

def topology : SchemaPlan where
  schemaName := "topology"
  collections := [lines, areas]
  names_nodup := by decide
  roles_nodup := by decide
  targets_known := by decide
  derived_declared := by
    intro coll hcoll derived h
    simp only [List.mem_cons, List.not_mem_nil, or_false] at hcoll
    rcases hcoll with rfl | rfl
    · cases h
    · cases h
      decide
  members_not_derived := by
    intro coll hcoll derived h
    simp only [List.mem_cons, List.not_mem_nil, or_false] at hcoll
    rcases hcoll with rfl | rfl
    · cases h
    · cases h
      decide

/-- The item that inserts a line. -/
def insertLine (id : Uuid) : Json :=
  .obj [("action", .str "insert"), ("collection", .str "lines"), ("feature", .obj
    [("id", .str (Uuid.text id)), ("geometry", .obj []), ("properties", .obj [])])]

/-- The item that inserts an area with one boundary line. -/
def insertArea (id line : Uuid) : Json :=
  .obj [("action", .str "insert"), ("collection", .str "areas"), ("feature", .obj
    [("id", .str (Uuid.text id)), ("geometry", .null), ("properties", .obj
      [("boundary", .arr [.obj
        [("featuretype", .str "lines"), ("id", .str (Uuid.text line))]])])])]

/-- The item that gives an area another boundary line. -/
def relinkArea (id line : Uuid) : Json :=
  .obj [("action", .str "update"), ("collection", .str "areas"), ("id", .str (Uuid.text id)),
    ("feature", .obj [("properties", .obj
      [("boundary", .arr [.obj
        [("featuretype", .str "lines"), ("id", .str (Uuid.text line))]])])])]

def deleteLine (id : Uuid) : Json :=
  .obj [("action", .str "delete"), ("collection", .str "lines"), ("id", .str (Uuid.text id))]

def document (items : List Json) : Option Json :=
  some (.obj [("semantic", .str "atomic"), ("transaction", .arr items)])

end Sample

/-! ### The result -/

end Geocomponents
