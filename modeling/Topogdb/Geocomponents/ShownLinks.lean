/-
The properties of a feature that is shown, and its links sent back.

* `shownLinks`, `ownProperty` — the two halves of the shown properties;
* `run_linkTarget_shown`, `run_linkIds_shown` — a link that is shown is found again;
* `linkValidation_shown_iff`, `replacedLinks_shown` — the links that are shown pass
  the validation exactly when they read back, and are then the same links.
-/
import Topogdb.Geocomponents.Written

namespace Geocomponents

open Prog Sql Except

variable {Geometry : Type}

/-! ### Shown properties -/

/-- What is shown of the value of a column. -/
def shownValue (rd : Reader Geometry) (id : Uuid) (col : ColumnPlan) (value : Option Datum) :
    Json :=
  match col.idInjectKey with
  | none => (value.map (Datum.toJson rd)).getD .null
  | some key => ((value.map (Datum.toJson rd)).map (concatMember key (.str id.text))).getD .null

theorem columnProperty_eq (rd : Reader Geometry) (id : Uuid) (row : Row Geometry)
    (col : ColumnPlan) :
    columnProperty rd id row col = (col.name, shownValue rd id col (row.columns col.name)) := by
  unfold columnProperty shownValue
  cases col.idInjectKey <;> rfl

/-- What is shown of the links of a property. -/
def shownLinks (db : Db Geometry) (coll : CollectionPlan) (id : Uuid) (name : String) :
    Option Json :=
  (associationPropertiesObject db coll id).get? name

/-- What a row shows of its own. -/
def ownProperty (rd : Reader Geometry) (coll : CollectionPlan) (id : Uuid) (row : Row Geometry)
    (name : String) : Option Json :=
  (scalarPropertiesObject rd coll id row).get? name

/-- The targets of a property, in their order. -/
def linkTargets (db : Db Geometry) (coll : CollectionPlan) (id : Uuid)
    (role : CollectionRolePlan) : List Uuid :=
  (Ordered.list (db.association.filter fun l =>
    l.source.collection = coll.collectionName ∧ l.source.id = id ∧
      l.property = role.property)).map (·.targetId)

section Properties

variable {rd : Reader Geometry} {db : Db Geometry} {coll : CollectionPlan} {id : Uuid}
  {row : Row Geometry} {role : CollectionRolePlan} {name : String}

theorem get?_buildObject (members : List (String × Json)) (key : String) :
    (buildObject members).get? key = members.reverse.lookup key := by
  show (mergeMembers [] members).lookup key = _
  rw [lookup_mergeMembers]
  exact Option.or_none

/-- Links are put over the properties of the row. -/
theorem get?_propertiesObject (name : String) :
    (propertiesObject rd coll id row (some (associationPropertiesObject db coll id))).get? name =
      (shownLinks db coll id name).or (ownProperty rd coll id row name) := by
  rw [shownLinks, ownProperty, associationPropertiesObject, scalarPropertiesObject,
    get?_buildObject, get?_buildObject]
  exact get?_concatObjects _ _ name

theorem linkProperty_eq : linkProperty db coll id role =
    if linkTargets db coll id role = [] then none
    else some (role.property, .arr ((linkTargets db coll id role).map
      (associationElementObject role))) := by
  rw [linkProperty, linkTargets]
  simp only [List.map_eq_nil_iff, List.map_map]
  rfl

theorem mem_linkTargets {target : Uuid} : target ∈ linkTargets db coll id role ↔
    (⟨⟨coll.collectionName, id⟩, role.property, target⟩ : Link) ∈ db.association := by
  simp only [linkTargets, List.mem_map, Ordered.mem_list, Finset.mem_filter]
  constructor
  · rintro ⟨l, ⟨hl, hcollection, hid, hproperty⟩, rfl⟩
    have hlink : l = ⟨⟨coll.collectionName, id⟩, role.property, l.targetId⟩ :=
      Link.ext (Ref.ext hcollection hid) hproperty rfl
    rwa [← hlink]
  · intro h
    exact ⟨_, ⟨h, rfl, rfl, rfl⟩, rfl⟩

theorem nodup_linkTargets : (linkTargets db coll id role).Nodup := by
  refine List.Nodup.map_on (fun l hl l' hl' heq => ?_) (Ordered.nodup_list _)
  obtain ⟨-, hcollection, hid, hproperty⟩ := Finset.mem_filter.mp (Ordered.mem_list.mp hl)
  obtain ⟨-, hcollection', hid', hproperty'⟩ := Finset.mem_filter.mp (Ordered.mem_list.mp hl')
  exact Link.ext (Ref.ext (hcollection.trans hcollection'.symm) (hid.trans hid'.symm))
    (hproperty.trans hproperty'.symm) heq

theorem shownLinks_eq_none (h : ∀ role ∈ coll.roles, role.property ≠ name) :
    shownLinks db coll id name = none := by
  rw [shownLinks, associationPropertiesObject, get?_buildObject, List.lookup_eq_none_iff]
  intro m hm
  obtain ⟨⟨role, hrole, hproperty⟩, -⟩ := array_of_linkProperty (List.mem_reverse.mp hm)
  rw [← hproperty]
  simpa using (h role hrole).symm

theorem array_of_shownLinks {j : Json} (h : shownLinks db coll id name = some j) :
    ∃ elems, j = .arr elems := by
  rw [shownLinks, associationPropertiesObject, get?_buildObject] at h
  exact (array_of_linkProperty (List.mem_reverse.mp (Python.mem_of_lookup h))).2

/-- A list that is made key by key shows each element under its key. -/
theorem lookup_filterMap {α : Type} {key : α → String} {f : α → Option (String × Json)}
    (hkey : ∀ a m, f a = some m → m.1 = key a) {l : List α} (hnodup : (l.map key).Nodup) {a : α}
    (ha : a ∈ l) : (l.filterMap f).reverse.lookup (key a) = (f a).map Prod.snd := by
  have hkeys : ((l.filterMap f).map Prod.fst).Nodup := by
    rw [List.nodup_iff_pairwise_ne, List.pairwise_map, List.pairwise_filterMap]
    rw [List.nodup_iff_pairwise_ne, List.pairwise_map] at hnodup
    refine hnodup.imp fun {b b'} hne m hm m' hm' => ?_
    rw [hkey b m hm, hkey b' m' hm']
    exact hne
  rw [lookup_reverse hkeys]
  cases hfa : f a with
  | some m =>
    rw [← hkey a m hfa]
    exact Python.lookup_of_mem hkeys (List.mem_filterMap.mpr ⟨a, ha, hfa⟩)
  | none =>
    refine List.lookup_eq_none_iff.mpr fun m hm => ?_
    obtain ⟨b, hb, hfb⟩ := List.mem_filterMap.mp hm
    have hne : key a ≠ m.1 := by
      intro heq
      rw [hkey b m hfb] at heq
      rw [List.inj_on_of_nodup_map hnodup ha hb heq, hfb] at hfa
      cases hfa
    simpa using hne

/-- The links of a role are shown under its property, if there are any. -/
theorem shownLinks_role (hnodup : (coll.roles.map (·.property)).Nodup) (hrole : role ∈ coll.roles) :
    shownLinks db coll id role.property =
      if linkTargets db coll id role = [] then none
      else some (.arr ((linkTargets db coll id role).map (associationElementObject role))) := by
  have hkey : ∀ role' m, linkProperty db coll id role' = some m → m.1 = role'.property := by
    intro role' m hm
    rw [linkProperty_eq] at hm
    split at hm
    · cases hm
    · cases hm
      rfl
  rw [shownLinks, associationPropertiesObject, get?_buildObject,
    lookup_filterMap hkey hnodup hrole, linkProperty_eq]
  split <;> rfl

/-- A column shows its value. -/
theorem ownProperty_column (hnodup : (coll.columns.map (·.name)).Nodup) {col : ColumnPlan}
    (hcol : col ∈ coll.columns) :
    ownProperty rd coll id row col.name = some (shownValue rd id col (row.columns col.name)) := by
  have hnodup' : ((coll.columns.map (columnProperty rd id row)).map Prod.fst).Nodup := by
    rw [List.map_map]
    exact hnodup
  have hlookup : (coll.columns.map (columnProperty rd id row)).lookup col.name =
      some (columnProperty rd id row col).2 :=
    Python.lookup_of_mem hnodup' (List.mem_map_of_mem hcol)
  rw [ownProperty, scalarPropertiesObject, get?_buildObject, List.reverse_cons, List.reverse_cons,
    List.lookup_append, List.lookup_append, lookup_reverse hnodup', hlookup, columnProperty_eq]
  rfl

/-- What is neither a column nor a timestamp is not shown of the row. -/
theorem ownProperty_congr {row' : Row Geometry} (hcreated : row'.createdAt = row.createdAt)
    (hname : name ≠ "updated_at") (hcolumns : ∀ col ∈ coll.columns, col.name ≠ name) :
    ownProperty rd coll id row' name = ownProperty rd coll id row name := by
  have hnone : ∀ row : Row Geometry,
      (coll.columns.map (columnProperty rd id row)).reverse.lookup name = none := by
    intro row
    refine List.lookup_eq_none_iff.mpr fun m hm => ?_
    obtain ⟨col, hcol, rfl⟩ := List.mem_map.mp (List.mem_reverse.mp hm)
    simpa [columnProperty] using (hcolumns col hcol).symm
  have hupdated : ∀ d : Datum, [("updated_at", d.toJson rd)].lookup name = none := by
    intro d
    rw [List.lookup_cons, beq_false_of_ne hname]
    rfl
  rw [ownProperty, ownProperty, scalarPropertiesObject, scalarPropertiesObject, get?_buildObject,
    get?_buildObject, List.reverse_cons, List.reverse_cons, List.reverse_cons, List.reverse_cons]
  simp only [List.lookup_append, hnone, hupdated, hcreated]

end Properties

/-! ### Links -/

section Links

variable {env : Env} {rd : Reader Geometry} {db : Db Geometry} {coll : CollectionPlan} {id : Uuid}
  {row : Row Geometry} {role : CollectionRolePlan} {feature : Option Json}

/-- A link that is shown is found again, but under the key of the feature type. -/
theorem run_linkTarget_shown (hname : ∀ u : Uuid, u.text ≠ role.targetCollection)
    {target found : Uuid} :
    run (linkTarget env role (associationElementObject role target)) db = .ok (found, db) ↔
      found = target ∧ role.oiLeaf ≠ "featuretype" ∧
        (db.row? ⟨role.targetCollection, target⟩).isSome := by
  have hleaf : arrow (some (associationElementObject role target)) role.oiLeaf =
      some (.str target.text) := by
    show (buildObject _).get? _ = _
    rw [get?_buildObject]
    simp
  have htype : arrow (some (associationElementObject role target)) "featuretype" =
      some (.str (if role.oiLeaf = "featuretype" then target.text else role.targetCollection)) := by
    show (buildObject _).get? _ = _
    rw [get?_buildObject]
    by_cases h : role.oiLeaf = "featuretype"
    · simp [h]
    · simp [h, List.lookup_cons, beq_false_of_ne (Ne.symm h)]
  have hobject : typeOf (some (associationElementObject role target)) = some "object" := rfl
  have hkey : hasKey (some (associationElementObject role target)) role.oiLeaf = some true :=
    hasKey_of_arrow hleaf
  have hchecked : (some (if role.oiLeaf = "featuretype" then target.text
      else role.targetCollection) ≠ some role.targetCollection) ↔ role.oiLeaf = "featuretype" := by
    by_cases h : role.oiLeaf = "featuretype"
    · simp [h, hname target]
    · simp [h]
  have hvalue : ∀ text : String, (some (Json.str text)).bind (textOf env.jsonText) = some text :=
    fun _ => rfl
  rw [linkTarget]
  simp only [arrowText, hleaf, htype, hobject, hkey, run_bind_eq_ok, run_ofExcept_eq_ok, seq_eq_ok,
    raiseIf_eq_ok, hvalue, hchecked, Option.bind_some, Uuid.uuidIn_text, run_select]
  constructor
  · rintro ⟨_, _, ⟨⟨-, hleaf', -⟩, rfl⟩, _, _, hselect, hfound⟩
    cases hselect
    split at hfound
    · next hrow =>
      cases hfound
      exact ⟨rfl, by simpa using hleaf', hrow⟩
    · cases hfound
  · rintro ⟨rfl, hleaf', hrow⟩
    refine ⟨(), db, ⟨⟨by simp [ne, eq, Tri.not], by simpa using hleaf', rfl⟩, rfl⟩, _, db, rfl, ?_⟩
    rw [if_pos hrow]
    rfl

theorem linkTarget_reads (env : Env) (role : CollectionRolePlan) (elem : Json) (db : Db Geometry) :
    Ends (linkTarget env role elem) db fun _ db' => db' = db := by
  refine (ends_ofExcept (Q := fun _ db' => db' = db) fun _ _ => rfl).bind ?_
  rintro _ db' rfl
  split
  · exact ends_raise
  · refine (ends_select (Q := fun _ db'' => db'' = db') fun _ _ => rfl).bind ?_
    rintro found db'' rfl
    split
    · exact ends_pure rfl
    · exact ends_raise

section Named

variable {members : List (String × Json)} (hproperties : properties feature = some (.obj members))
include hproperties

theorem holds_hasKey (name : String) :
    (hasKey (properties feature) name).holds = (members.lookup name).isSome := by
  rw [hproperties, hasKey, Option.map_some]
  show decide (some (members.lookup name).isSome = some true) = _
  cases (members.lookup name).isSome <;> rfl

/-- The links of a property that the document names. -/
theorem run_linkIds {elems : List Json} (hvalue : members.lookup role.property = some (.arr elems))
    {ids : List Uuid} : run (linkIds env feature role) db = .ok (ids, db) ↔
      ids.Nodup ∧ List.Forall₂ (fun elem id => run (linkTarget env role elem) db = .ok (id, db))
        elems ids := by
  have harrow : arrow (properties feature) role.property = some (.arr elems) := by
    rw [hproperties]
    exact hvalue
  have hreads : ∀ elem ∈ elems, Ends (linkTarget env role elem) db fun _ db' => db' = db :=
    fun elem _ => linkTarget_reads env role elem db
  rw [linkIds]
  simp only [harrow, holds_hasKey hproperties, hvalue, Option.isSome_some, if_true, run_bind_eq_ok]
  constructor
  · rintro ⟨ids', db', hmap, hids⟩
    obtain ⟨rfl, -⟩ := ends_mapM (P := fun _ => True)
      (fun elem helem => (hreads elem helem).mono fun _ _ h => ⟨h, trivial⟩) _ _ hmap
    split at hids
    · next hnodup =>
      cases hids
      exact ⟨hnodup, (run_mapM_eq_ok hreads).mp hmap⟩
    · cases hids
  · rintro ⟨hnodup, hall⟩
    refine ⟨ids, db, (run_mapM_eq_ok hreads).mpr hall, ?_⟩
    rw [if_pos hnodup]
    rfl

/-- What a property that names no link may hold. -/
theorem run_linkIds_nil : run (linkIds env feature role) db = .ok ([], db) ↔
    members.lookup role.property = none ∨ members.lookup role.property = some (.arr []) := by
  cases hvalue : members.lookup role.property with
  | none =>
    refine iff_of_true ?_ (.inl rfl)
    rw [linkIds]
    simp only [holds_hasKey hproperties, hvalue, Option.isSome_none]
    rfl
  | some v =>
    by_cases harray : ∃ elems, v = .arr elems
    · obtain ⟨elems, rfl⟩ := harray
      rw [run_linkIds hproperties hvalue]
      cases elems with
      | nil => exact iff_of_true ⟨List.nodup_nil, .nil⟩ (.inr rfl)
      | cons elem elems => exact iff_of_false (fun h => by cases h.2) (by simp)
    · refine iff_of_false (fun hrun => ?_) ?_
      · have harrow : arrow (properties feature) role.property = some v := by
          rw [hproperties]
          exact hvalue
        rw [linkIds] at hrun
        simp only [harrow, holds_hasKey hproperties, hvalue, Option.isSome_some, if_true] at hrun
        split at hrun
        · next heq => cases heq
        · next elems heq =>
          exact harray ⟨elems, Option.some.inj heq⟩
        · cases hrun
      · rintro (h | h)
        · cases h
        · exact harray ⟨[], Option.some.inj h⟩

/-- The links of a property, as they are shown. -/
theorem run_linkIds_shown (hname : ∀ u : Uuid, u.text ≠ role.targetCollection)
    {targets ids : List Uuid} (hnodup : targets.Nodup)
    (hvalue : members.lookup role.property =
      some (.arr (targets.map (associationElementObject role)))) :
    run (linkIds env feature role) db = .ok (ids, db) ↔ ids = targets ∧
      ∀ target ∈ targets, role.oiLeaf ≠ "featuretype" ∧
        (db.row? ⟨role.targetCollection, target⟩).isSome := by
  rw [run_linkIds hproperties hvalue, List.forall₂_map_left_iff]
  simp only [run_linkTarget_shown hname]
  have hall : ∀ ids, List.Forall₂ (fun target found => found = target ∧
      role.oiLeaf ≠ "featuretype" ∧ (db.row? ⟨role.targetCollection, target⟩).isSome = true)
        targets ids ↔ ids = targets ∧ ∀ target ∈ targets, role.oiLeaf ≠ "featuretype" ∧
          (db.row? ⟨role.targetCollection, target⟩).isSome = true := by
    clear hvalue hnodup
    induction targets with
    | nil => simp
    | cons target targets ih =>
      intro ids
      cases ids with
      | nil => simp
      | cons found ids =>
        rw [List.forall₂_cons, ih, List.forall_mem_cons, List.cons.injEq]
        tauto
  rw [hall]
  constructor
  · exact fun h => h.2
  · rintro ⟨rfl, h⟩
    exact ⟨hnodup, rfl, h⟩

end Named

/-- The properties of a document are those that are shown of a row. -/
structure ShowsProperties (rd : Reader Geometry) (db : Db Geometry) (coll : CollectionPlan)
    (id : Uuid) (row : Row Geometry) (feature : Option Json) (members : List (String × Json)) :
    Prop where
  properties : properties feature = some (.obj members)
  lookup : ∀ name, members.lookup name =
    (shownLinks db coll id name).or (ownProperty rd coll id row name)

/-- The links of a role are accepted again; a role without links holds nothing in
their place but an empty array. -/
structure CollectionRolePlan.ReadsBack (rd : Reader Geometry) (db : Db Geometry)
    (coll : CollectionPlan) (id : Uuid) (row : Row Geometry) (role : CollectionRolePlan) :
    Prop where
  linked : ∀ target ∈ linkTargets db coll id role, role.oiLeaf ≠ "featuretype" ∧
    (db.row? ⟨role.targetCollection, target⟩).isSome
  unlinked : linkTargets db coll id role = [] →
    ownProperty rd coll id row role.property = none ∨
      ownProperty rd coll id row role.property = some (.arr [])

/-- The links of every role, as they are shown. -/
def shownTargets (db : Db Geometry) (coll : CollectionPlan) (id : Uuid) :
    List (CollectionRolePlan × List Uuid) :=
  coll.roles.map fun role => (role, linkTargets db coll id role)

/-- The validation goes role by role. -/
theorem run_linkValidation_iff {roles : List CollectionRolePlan}
    {links : List (CollectionRolePlan × List Uuid)} :
    run (linkValidation env roles feature) db = .ok (links, db) ↔
      List.Forall₂ (fun role x => x.1 = role ∧ run (linkIds env feature role) db = .ok (x.2, db))
        roles links := by
  have hreads : ∀ role ∈ roles, Ends (do
      let ids ← linkIds env feature role
      Pure.pure (role, ids) : SqlProg Geometry SqlError _) db fun _ db' => db' = db := by
    intro role _ x db' hrun
    have hsingle : run (linkValidation env [role] feature) db = .ok ([x], db') := by
      unfold linkValidation
      rw [List.mapM_cons, run_bind, hrun]
      rfl
    exact (ends_linkValidation env [role] feature db _ _ hsingle).1
  have hone : ∀ (role : CollectionRolePlan) (x : CollectionRolePlan × List Uuid), run (do
      let ids ← linkIds env feature role
      Pure.pure (role, ids) : SqlProg Geometry SqlError _) db = .ok (x, db) ↔
        x.1 = role ∧ run (linkIds env feature role) db = .ok (x.2, db) := by
    intro role x
    rw [run_bind_eq_ok]
    constructor
    · rintro ⟨ids', db', hids, hpure⟩
      cases hpure
      exact ⟨rfl, hids⟩
    · rintro ⟨rfl, h⟩
      exact ⟨x.2, db, h, rfl⟩
  rw [linkValidation, run_mapM_eq_ok hreads]
  simp only [hone]

section Validation

variable {members : List (String × Json)} (hroles : (coll.roles.map (·.property)).Nodup)
  (hnames : ∀ role ∈ coll.roles, ∀ u : Uuid, u.text ≠ role.targetCollection)
  (hshows : ShowsProperties rd db coll id row feature members)
include hroles hnames hshows

theorem run_linkIds_iff (hrole : role ∈ coll.roles) :
    run (linkIds env feature role) db = .ok (linkTargets db coll id role, db) ↔
      role.ReadsBack rd db coll id row := by
  have hlookup := hshows.lookup role.property
  rw [shownLinks_role hroles hrole] at hlookup
  by_cases hnil : linkTargets db coll id role = []
  · rw [if_pos hnil, Option.none_or] at hlookup
    rw [hnil, run_linkIds_nil hshows.properties, hlookup]
    refine ⟨fun h => ⟨fun target htarget => ?_, fun _ => h⟩, fun h => h.unlinked hnil⟩
    rw [hnil] at htarget
    cases htarget
  · rw [if_neg hnil, Option.some_or] at hlookup
    rw [run_linkIds_shown hshows.properties (hnames role hrole) nodup_linkTargets hlookup]
    exact ⟨fun h => ⟨h.2, fun h => absurd h hnil⟩, fun h => ⟨rfl, h.linked⟩⟩

/-- **The shown links pass the validation, as they are, exactly when they read
back.** -/
theorem linkValidation_shown_iff :
    run (linkValidation env coll.roles feature) db = .ok (shownTargets db coll id, db) ↔
      ∀ role ∈ coll.roles, role.ReadsBack rd db coll id row := by
  rw [run_linkValidation_iff, shownTargets, List.forall₂_map_right_iff, List.forall₂_same]
  refine forall₂_congr fun role hrole => ?_
  rw [← run_linkIds_iff hroles hnames hshows hrole]
  exact and_iff_right rfl

end Validation

/-- The links that a replace clears and writes again. -/
def replacedLinks (association : Finset Link) (source : Ref) (coll : CollectionPlan)
    (feature : Option Json) (links : List (CollectionRolePlan × List Uuid)) : Finset Link :=
  association \ sourceLinks association source
      (fun property => coll.roles.any fun role => role.property = property) ∪
    (namedLinks source feature links).toFinset

theorem run_replaceLinks {source : Ref} {links : List (CollectionRolePlan × List Uuid)}
    (hlinks : links.map Prod.fst = coll.roles) (hroles : (coll.roles.map (·.property)).Nodup)
    (db : Db Geometry) :
    run (do
      linkClearAll source coll.roles
      linkWrites source feature links) db =
        .ok ((), db.withLinks (replacedLinks db.association source coll feature links)) := by
  have hproperties : (links.map fun x => x.1.property).Nodup := by
    rw [← hlinks, List.map_map] at hroles
    exact hroles
  rw [run_bind, linkClearAll, run_deleteLinks]
  simp only
  rw [run_linkWrites source feature hproperties, withLinks_withLinks, association_withLinks]
  · rfl
  -- what is inserted has a declared property, and these are cleared
  intro l hl hmem
  obtain ⟨hsource, x, hx, -, hproperty, -⟩ := mem_namedLinks.mp hl
  refine (Finset.mem_sdiff.mp hmem).2 (mem_sourceLinks.mpr ⟨(Finset.mem_sdiff.mp hmem).1,
    hsource, List.any_eq_true.mpr ⟨x.1, ?_, decide_eq_true hproperty.symm⟩⟩)
  rw [← hlinks]
  exact List.mem_map_of_mem hx

/-- **What is shown of the links, and written again, are the links.** -/
theorem replacedLinks_shown (hroles : (coll.roles.map (·.property)).Nodup)
    {members : List (String × Json)} (hshows : ShowsProperties rd db coll id row feature members) :
    replacedLinks db.association ⟨coll.collectionName, id⟩ coll feature
      (shownTargets db coll id) = db.association := by
  ext l
  simp only [replacedLinks, Finset.mem_union, Finset.mem_sdiff, mem_sourceLinks, List.mem_toFinset,
    mem_namedLinks, List.any_eq_true, decide_eq_true_eq, shownTargets, List.mem_map]
  constructor
  · rintro (h | ⟨hsource, _, ⟨role, hrole, rfl⟩, -, hproperty, htarget⟩)
    · exact h.1
    · rw [mem_linkTargets, ← hsource, ← hproperty] at htarget
      exact htarget
  · intro hl
    by_cases hown : l.source = ⟨coll.collectionName, id⟩ ∧
        ∃ role ∈ coll.roles, role.property = l.property
    · obtain ⟨hsource, role, hrole, hproperty⟩ := hown
      have htarget : l.targetId ∈ linkTargets db coll id role := by
        rw [mem_linkTargets, ← hsource, hproperty]
        exact hl
      refine .inr ⟨hsource, _, ⟨role, hrole, rfl⟩, ?_, hproperty.symm, htarget⟩
      rw [holds_hasKey hshows.properties, hshows.lookup, shownLinks_role hroles hrole,
        if_neg (List.ne_nil_of_mem htarget)]
      rfl
    · exact .inl ⟨hl, fun h => hown h.2⟩

/-- Links that are validated and leave the links as they are are the shown ones. -/
theorem readsBack_of_replacedLinks (hroles : (coll.roles.map (·.property)).Nodup)
    (hnames : ∀ role ∈ coll.roles, ∀ u : Uuid, u.text ≠ role.targetCollection)
    {members : List (String × Json)} (hshows : ShowsProperties rd db coll id row feature members)
    {links : List (CollectionRolePlan × List Uuid)}
    (hvalid : run (linkValidation env coll.roles feature) db = .ok (links, db))
    (hsame : replacedLinks db.association ⟨coll.collectionName, id⟩ coll feature links =
      db.association) : ∀ role ∈ coll.roles, role.ReadsBack rd db coll id row := by
  intro role hrole
  obtain ⟨x, hx, rfl, hids⟩ := (run_linkValidation_iff.mp hvalid).exists_of_mem_left hrole
  rw [← run_linkIds_iff hroles hnames hshows hrole]
  have hlookup := hshows.lookup x.1.property
  rw [shownLinks_role hroles hrole] at hlookup
  by_cases hnil : linkTargets db coll id x.1 = []
  · rw [hnil]
    suffices x.2 = [] by rwa [this] at hids
    refine List.eq_nil_iff_forall_not_mem.mpr fun target htarget => ?_
    have hnamed : (hasKey (properties feature) x.1.property).holds = true := by
      rw [holds_hasKey hshows.properties]
      by_contra hnot
      rw [(run_linkIds_nil hshows.properties).mpr
        (.inl (Option.not_isSome_iff_eq_none.mp hnot))] at hids
      rw [← (Prod.mk.inj (Except.ok.inj hids)).1] at htarget
      cases htarget
    -- the link would be a new one
    have hlink : (⟨⟨coll.collectionName, id⟩, x.1.property, target⟩ : Link) ∈ db.association := by
      rw [← hsame]
      exact Finset.mem_union_right _ (List.mem_toFinset.mpr
        (mem_namedLinks.mpr ⟨rfl, x, hx, hnamed, rfl, htarget⟩))
    rw [← mem_linkTargets, hnil] at hlink
    cases hlink
  · rw [if_neg hnil, Option.some_or] at hlookup
    have htargets := ((run_linkIds_shown hshows.properties (hnames _ hrole) nodup_linkTargets
      hlookup).mp hids).1
    rwa [← htargets]

end Links

end Geocomponents
