/-
Listing and reading one feature.

* `joinedPage_eq` — the links that `_items` joins to a row are those that `_item`
  asks for;
* `items_pages` — the pages of one size are a partition of the rows that pass the
  filter, and they show what `_item` shows;
* `Shows` — a feature that one of the readers gives for an id.
-/
import Mathlib.Data.Finset.Card
import Topogdb.Geocomponents.Read

namespace Geocomponents

open Sql Relations

variable {Geometry : Type} (rd : Reader Geometry) (db : Db Geometry) (coll : CollectionPlan)

/-! ### Links -/

/-- The links of one row of a page, out of those of the page. -/
theorem filter_linkRows {page : List Uuid} {id : Uuid} (hid : id ∈ page) :
    (linkRows db coll page).filter (fun row => row.1 = id) =
      (coll.roles.filterMap (linkProperty db coll id)).map fun p => (id, p) := by
  rw [linkRows, List.filter_flatMap, List.map_filterMap, List.filterMap_eq_flatMap_toList]
  refine List.flatMap_congr fun role _ => ?_
  set rows := Ordered.list (db.association.filter fun l =>
    l.source.collection = coll.collectionName ∧ l.property = role.property ∧
      (page.any fun id => id = l.source.id) = true)
  -- the links of the row are among those of the page
  have hrows : rows.filter (fun l => l.source.id = id) =
      Ordered.list (db.association.filter fun l => l.source.collection = coll.collectionName ∧
        l.source.id = id ∧ l.property = role.property) := by
    rw [Ordered.list_filter, Finset.filter_filter]
    congr 1
    refine Finset.filter_congr fun l _ => ?_
    simp only [decide_eq_true_eq]
    constructor
    · rintro ⟨⟨hcoll, hproperty, -⟩, hsource⟩
      exact ⟨hcoll, hsource, hproperty⟩
    · rintro ⟨hcoll, hsource, hproperty⟩
      have hpage : (page.any fun id => id = l.source.id) = true :=
        List.any_eq_true.mpr ⟨id, hid, decide_eq_true hsource.symm⟩
      exact ⟨⟨hcoll, hproperty, hpage⟩, hsource⟩
  rw [List.filter_map]
  show ((groupBy (fun l => l.source.id) rows).filter fun g => g.1 = id).map _ = _
  rw [filter_groupBy, hrows, linkProperty]
  split
  · rfl
  · rfl

/-- **The joined links are those of each row.** -/
theorem joinedPage_eq (page : List Uuid) :
    (joinedPage db coll page).map (fun x => (x.1, x.2.getD (buildObject []))) =
      page.map fun id => (id, associationPropertiesObject db coll id) := by
  rw [joinedPage]
  split
  · next hroles =>
    rw [List.map_map]
    refine List.map_congr_left fun id _ => ?_
    rw [associationPropertiesObject, hroles]
    rfl
  · rw [pageLinks, leftJoin_groupBy page (fun row => row.1) (linkRows db coll page) fun rows =>
      buildObject (rows.map fun row => row.2), List.map_map]
    refine List.map_congr_left fun id hid => ?_
    show (id, (if (linkRows db coll page).filter (fun row => row.1 = id) = [] then none
      else some (buildObject (((linkRows db coll page).filter fun row => row.1 = id).map
        fun row => row.2))).getD (buildObject [])) = _
    rw [filter_linkRows db coll hid, associationPropertiesObject]
    by_cases hnil : coll.roles.filterMap (linkProperty db coll id) = []
    · simp [hnil]
    · simp [hnil, Function.comp_def]

/-- The features of a page, in its order. -/
theorem features_joinedPage (page : List Uuid) :
    ((joinedPage db coll page).filterMap fun x =>
        (db.row? ⟨coll.collectionName, x.1⟩).map fun row => featureObject rd coll x.1 row x.2) =
      page.filterMap fun id => item rd db coll (some id) := by
  -- no links are shown as an empty object
  let shown (x : Uuid × Json) : Option Json :=
    (db.row? ⟨coll.collectionName, x.1⟩).map fun row => featureObject rd coll x.1 row (some x.2)
  calc (joinedPage db coll page).filterMap _
      = ((joinedPage db coll page).map fun x => (x.1, x.2.getD (buildObject []))).filterMap
          shown := by
        rw [List.filterMap_map]
        rfl
    _ = (page.map fun id => (id, associationPropertiesObject db coll id)).filterMap shown := by
        rw [joinedPage_eq]
    _ = page.filterMap fun id => item rd db coll (some id) := by
        rw [List.filterMap_map]
        refine List.filterMap_congr fun id _ => ?_
        exact (item_some rd db coll id).symm

/-! ### Rows -/

/-- The rows that pass the filter. -/
def matching (bbox : Option (List ℚ)) : Finset Ref :=
  db.keys.filter fun r => r.collection = coll.collectionName ∧
    (db.row? r).any (passesFilter rd coll bbox) = true

theorem mem_matching {bbox : Option (List ℚ)} {id : Uuid} :
    (⟨coll.collectionName, id⟩ : Ref) ∈ matching rd db coll bbox ↔
      ∃ row, db.row? ⟨coll.collectionName, id⟩ = some row ∧ passesFilter rd coll bbox row = true := by
  rw [matching, Finset.mem_filter, mem_keys]
  cases db.row? ⟨coll.collectionName, id⟩ with
  | none => simp
  | some row => simp

theorem mem_filteredIds {bbox : Option (List ℚ)} {id : Uuid} :
    id ∈ filteredIds rd db coll bbox ↔
      (⟨coll.collectionName, id⟩ : Ref) ∈ matching rd db coll bbox := by
  have hlist : filteredIds rd db coll bbox =
      (Ordered.list (matching rd db coll bbox)).map (·.id) := rfl
  rw [hlist, List.mem_map]
  constructor
  · rintro ⟨r, hr, rfl⟩
    rw [Ordered.mem_list] at hr
    have hcoll := (Finset.mem_filter.mp hr).2.1
    rwa [← hcoll]
  · intro h
    exact ⟨_, Ordered.mem_list.mpr h, rfl⟩

/-- The ids of one collection come in their order. -/
theorem pairwise_filteredIds (bbox : Option (List ℚ)) :
    (filteredIds rd db coll bbox).Pairwise (· < ·) := by
  rw [filteredIds, List.pairwise_map]
  refine List.Pairwise.imp_of_mem (fun {r s} hr hs hlt => ?_) (Ordered.pairwise_lt_list _)
  have hr' := (Finset.mem_filter.mp (Ordered.mem_list.mp hr)).2.1
  have hs' := (Finset.mem_filter.mp (Ordered.mem_list.mp hs)).2.1
  rcases Prod.Lex.lt_iff.mp hlt with hcoll | ⟨-, hid⟩
  · have hcoll' : r.collection < s.collection := hcoll
    rw [hr', hs'] at hcoll'
    exact absurd hcoll' (lt_irrefl _)
  · exact hid

theorem length_filteredIds (bbox : Option (List ℚ)) :
    (filteredIds rd db coll bbox).length = (matching rd db coll bbox).card := by
  obtain ⟨l, hl, heq⟩ := Ordered.exists_list (matching rd db coll bbox)
  have hlist : filteredIds rd db coll bbox =
      (Ordered.list (matching rd db coll bbox)).map (·.id) := rfl
  rw [hlist, List.length_map, heq, List.length_insertionSort, Finset.card_def, ← hl,
    Multiset.coe_card]

/-! ### Pages -/

theorem map_some_filterMap {α β : Type} {f : α → Option β} {l : List α}
    (h : ∀ a ∈ l, (f a).isSome = true) : (l.filterMap f).map some = l.map f := by
  induction l with
  | nil => rfl
  | cons a l ih =>
    rw [List.forall_mem_cons] at h
    obtain ⟨b, hb⟩ := Option.isSome_iff_exists.mp h.1
    rw [List.filterMap_cons_some hb, List.map_cons, List.map_cons, ih h.2, hb]

/-- The features of the rows, in any order, and the counts. -/
structure ShowsRows (bbox : Option (List ℚ)) (withMatched : Bool) (ids : List Uuid)
    (response : Json) : Prop where
  features : ∃ features, response.get? "features" = some (.arr features) ∧
    (features.map some).Perm (ids.map fun id => item rd db coll (some id))
  numberReturned : response.get? "numberReturned" = some (.num ids.length)
  numberMatched : response.get? "numberMatched" =
    if withMatched then some (.num (matching rd db coll bbox).card) else none

theorem showsRows_items (bbox : Option (List ℚ)) (lim off : ℕ) (withMatched : Bool) :
    ShowsRows rd db coll bbox withMatched (page lim off (filteredIds rd db coll bbox))
      (items rd db coll bbox lim off withMatched) := by
  set ids := page lim off (filteredIds rd db coll bbox)
  have hpresent : ∀ id ∈ ids, (item rd db coll (some id)).isSome = true := by
    intro id hid
    have hmem := (mem_filteredIds rd db coll).mp (List.mem_of_mem_drop (List.mem_of_mem_take hid))
    obtain ⟨row, hrow, -⟩ := (mem_matching rd db coll).mp hmem
    simp [item, hrow]
  have hitems : items rd db coll bbox lim off withMatched =
      concatObjects
        (buildObject
          [("type", .str "FeatureCollection"),
            ("features", .arr (rd.unsorted (ids.filterMap fun id => item rd db coll (some id)))),
            ("numberReturned", .num ids.length)])
        (if withMatched then
          buildObject [("numberMatched", .num (matching rd db coll bbox).card)]
        else buildObject []) := by
    rw [items, features_joinedPage, length_filteredIds]
  have hsome : (ids.filterMap fun id => item rd db coll (some id)).map some =
      ids.map fun id => item rd db coll (some id) := map_some_filterMap hpresent
  rw [hitems]
  refine ⟨⟨_, ?_, ((rd.unsorted_perm _).map some).trans (List.Perm.of_eq hsome)⟩, ?_, ?_⟩
  · cases withMatched <;> simp [buildObject, mergeMembers, concatObjects, List.lookup_cons]
  · cases withMatched <;> simp [buildObject, mergeMembers, concatObjects, List.lookup_cons]
  · cases withMatched <;> simp [buildObject, mergeMembers, concatObjects, List.lookup_cons]

/-- A feature that a reader gives for an id. -/
inductive Shows (id : Uuid) (feature : Json) : Prop
  | item (h : item rd db coll (some id) = some feature)
  | items (bbox : Option (List ℚ)) (lim off : ℕ) (withMatched : Bool) (features : List Json)
      (hfeatures : (items rd db coll bbox lim off withMatched).get? "features" =
        some (.arr features))
      (hmem : feature ∈ features) (hid : feature.get? "id" = some (.str id.text))

/-- The id of a shown feature. -/
theorem id_of_item {id : Uuid} {feature : Json} (h : item rd db coll (some id) = some feature) :
    feature.get? "id" = some (.str id.text) := by
  rw [item_some] at h
  obtain ⟨row, -, rfl⟩ := Option.map_eq_some_iff.mp h
  simp [featureObject, buildObject, mergeMembers, List.lookup_cons]

/-- Both readers give the same feature. -/
theorem Shows.item_eq {id : Uuid} {feature : Json} (h : Shows rd db coll id feature) :
    Geocomponents.item rd db coll (some id) = some feature := by
  cases h with
  | item h => exact h
  | items bbox lim off withMatched features hfeatures hmem hid =>
    obtain ⟨features', hfeatures', hperm⟩ :=
      (showsRows_items rd db coll bbox lim off withMatched).features
    rw [hfeatures] at hfeatures'
    cases hfeatures'
    have hsome := hperm.mem_iff.mp (List.mem_map_of_mem hmem)
    obtain ⟨id', -, hitem⟩ := List.mem_map.mp hsome
    -- the page has the feature at its own id
    have htext := id_of_item rd db coll hitem
    rw [hid, Option.some.injEq, Json.str.injEq] at htext
    have hsame : some id = some id' := by
      rw [← Uuid.uuidIn_text id, htext, Uuid.uuidIn_text]
    cases hsame
    exact hitem

namespace Sample

def reader : Reader Unit where
  asGeoJSON _ := .null
  scalarJson _ text := .str text
  overlaps _ _ _ := some true
  unsorted rows := rows
  unsorted_perm _ := List.Perm.refl _

/-- Roads with links to the roads they lead into. -/
def roadPlan : CollectionPlan :=
  { collectionName := "veg", featureModel := .simple, geometry := ⟨"LineString", 4326, false, false⟩
    roles := [⟨"neste", "veg", "id"⟩] }

def roadRow : Row Unit := ⟨some (), fun _ => none, .scalar "timestamptz" "", .scalar "timestamptz" ""⟩

def roads : Db Unit :=
  Store.applyAll [Write.insertRow ⟨"veg", 2⟩ roadRow, .insertRow ⟨"veg", 1⟩ roadRow,
    .link ⟨⟨"veg", 1⟩, "neste", 2⟩] Db.empty

end Sample

open Sample in
example : (filteredIds reader roads roadPlan none, linkRows roads roadPlan [1, 2] |>.map (·.1)) =
    ([1, 2], [1]) := by decide +kernel

end Geocomponents
