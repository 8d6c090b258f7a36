/-
Heights through an edit that moves nothing.

A stored geometry is written as GeoJSON, loaded by the map client, committed with
the positions it was loaded with, and stored again by `feature_replace`.  Two
things happen to it on the way: `sanitizeMissingHeightFeature` drops the height
that marks a missing one, which `ST_Force3D` stores as 0, and
`normalizeClosedPositions` copies the first position of every sequence closed in
XY over its last.

* **`featureWithUpdatedPositions_unmoved`** — a commit of the positions of a
  feature sends it with its sequences closed;
* **`storedAfterEditing_iff`** — the stored coordinates survive exactly when no
  height is the marker and the ends that agree in XY agree in Z.
-/
import Topogdb.Gcmapview.Positions

namespace Gcmapview

/-! ### Positions in the plane -/

@[simp] theorem sanitizeMissingHeightPosition_xy (p : Position) :
    (sanitizeMissingHeightPosition p).xy = p.xy := by
  unfold sanitizeMissingHeightPosition
  split <;> rfl

/-! ### Closing a sequence -/

/-- The sequence with its last position the first one, if these agree in XY. -/
def closeRing (sequence : List Position) : List Position :=
  match sequence.head?, sequence.getLast? with
  | some first, some last =>
    if sequence.length > 1 && positionsEqualXY first last then sequence.dropLast ++ [first]
    else sequence
  | _, _ => sequence

theorem closeRing_cases (first : Position) (inner : List Position) (last : Position) :
    closeRing (first :: inner ++ [last]) =
      if positionsEqualXY first last then first :: inner ++ [first]
      else first :: inner ++ [last] := by
  have hlast : (first :: inner ++ [last]).getLast? = some last := List.getLast?_concat
  have hdrop : (first :: inner ++ [last]).dropLast = first :: inner := List.dropLast_concat
  unfold closeRing
  rw [hlast, hdrop]
  simp

theorem closeRing_xy (sequence : List Position) :
    (closeRing sequence).map Position.xy = sequence.map Position.xy := by
  rcases sequence_cases sequence with rfl | ⟨p, rfl⟩ | ⟨first, inner, last, rfl⟩
  · rfl
  · simp [closeRing, positionsEqualXY]
  · rw [closeRing_cases]
    split
    · rename_i h
      have hxy : first.xy = last.xy := positionsEqualXY_iff.mp h
      simp [hxy]
    · rfl

theorem closeRing_map {f : Position → Position} (hf : ∀ p, (f p).xy = p.xy)
    (sequence : List Position) : closeRing (sequence.map f) = (closeRing sequence).map f := by
  rcases sequence_cases sequence with rfl | ⟨p, rfl⟩ | ⟨first, inner, last, rfl⟩
  · rfl
  · simp [closeRing, positionsEqualXY]
  · have hm : (first :: inner ++ [last]).map f = f first :: inner.map f ++ [f last] := by simp
    rw [hm, closeRing_cases, closeRing_cases, positionsEqualXY_congr (hf first) (hf last)]
    split <;> simp

theorem mem_of_mem_closeRing {sequence : List Position} {p : Position}
    (h : p ∈ closeRing sequence) : p ∈ sequence := by
  rcases sequence_cases sequence with rfl | ⟨q, rfl⟩ | ⟨first, inner, last, rfl⟩
  · simp [closeRing] at h
  · simpa [closeRing, positionsEqualXY] using h
  · rw [closeRing_cases] at h
    split at h
    · simp only [List.cons_append, List.mem_cons, List.mem_append, List.not_mem_nil,
        or_false] at h ⊢
      tauto
    · exact h

/-- The ends that agree in XY agree. -/
def EndsAgree (sequence : List Position) : Prop :=
  ∀ first last, sequence.head? = some first → sequence.getLast? = some last →
    positionsEqualXY first last → first.rest = last.rest

theorem closeRing_eq_self_iff (sequence : List Position) :
    closeRing sequence = sequence ↔ EndsAgree sequence := by
  rcases sequence_cases sequence with rfl | ⟨p, rfl⟩ | ⟨first, inner, last, rfl⟩
  · simp [closeRing, EndsAgree]
  · simp +contextual [closeRing, EndsAgree]
  · have hends : EndsAgree (first :: inner ++ [last]) ↔
        (positionsEqualXY first last → first.rest = last.rest) := by
      have hlast : (first :: inner ++ [last]).getLast? = some last := List.getLast?_concat
      unfold EndsAgree
      rw [hlast]
      simp
    rw [closeRing_cases, hends]
    split
    · rename_i h
      have hxy := positionsEqualXY_iff.mp h
      have hext : first = last ↔ first.rest = last.rest := by
        constructor
        · exact congrArg Position.rest
        · intro hr
          cases first
          cases last
          simp_all [Position.xy]
      simp [hext, h]
    · simp [*]

/-! ### Closing every sequence -/

/-- The positions of an array of positions. -/
def sequenceOf (children : List Coordinates) : List Position := children.flatMap Nested.leaves

theorem sequenceOf_leaves (as : List Position) : sequenceOf (as.map Nested.leaf) = as := by
  induction as with
  | nil => rfl
  | cons a as ih => exact congrArg (a :: ·) ih

/-- The array with its own sequence closed; an array of arrays has none. -/
def closeChildren (children closed : List Coordinates) : List Coordinates :=
  match children with
  | .leaf _ :: _ => (closeRing (sequenceOf children)).map Nested.leaf
  | _ => closed

mutual

/-- Every array of positions closed with `closeRing`. -/
def closeSequences : Coordinates → Coordinates
  | .leaf p => .leaf p
  | .node children => .node (closeChildren children (closeSequencesAll children))

def closeSequencesAll : List Coordinates → List Coordinates
  | [] => []
  | c :: cs => closeSequences c :: closeSequencesAll cs

end

theorem closeSequencesAll_eq (cs : List Coordinates) :
    closeSequencesAll cs = cs.map closeSequences := by
  induction cs with
  | nil => rfl
  | cons c cs ih => rw [closeSequencesAll, ih, List.map_cons]

theorem closeSequences_sequence (as : List Position) :
    closeSequences (.node (as.map .leaf)) = .node ((closeRing as).map .leaf) := by
  cases as with
  | nil => rfl
  | cons a as =>
    show Nested.node ((closeRing (sequenceOf ((a :: as).map .leaf))).map .leaf) = _
    rw [sequenceOf_leaves]

theorem closeSequences_arrays (css : List (List Coordinates)) :
    closeSequences (.node (css.map .node)) =
      .node ((css.map .node).map closeSequences) := by
  rw [← closeSequencesAll_eq]
  cases css <;> rfl

theorem closeSequences_xy {c : Coordinates} (h : c.Uniform) :
    (closeSequences c).map Position.xy = c.map Position.xy := by
  refine Nested.Uniform.induction h ?leaf ?sequence ?arrays
  case leaf =>
    intro a
    rfl
  case sequence =>
    intro as
    rw [closeSequences_sequence, Nested.map_node, Nested.map_node, Nested.node.injEq]
    have hxy := congrArg (List.map Nested.leaf) (closeRing_xy as)
    simpa only [List.map_map, Function.comp_def, Nested.map_leaf] using hxy
  case arrays =>
    intro css _ ih
    rw [closeSequences_arrays, Nested.map_node, Nested.map_node, List.map_map, List.map_map,
      List.map_map, Nested.node.injEq]
    exact List.map_congr_left ih

theorem closeSequences_shape {c : Coordinates} (h : c.Uniform) :
    (closeSequences c).shape = c.shape := by
  rw [← Nested.shape_map Position.xy, closeSequences_xy h, Nested.shape_map]

theorem closeSequences_map {f : Position → Position} (hf : ∀ p, (f p).xy = p.xy)
    {c : Coordinates} (h : c.Uniform) :
    closeSequences (c.map f) = (closeSequences c).map f := by
  refine Nested.Uniform.induction h ?leaf ?sequence ?arrays
  case leaf =>
    intro a
    rfl
  case sequence =>
    intro as
    have hm : (Nested.node (as.map Nested.leaf)).map f = .node ((as.map f).map .leaf) := by
      simp
    rw [hm, closeSequences_sequence, closeSequences_sequence, closeRing_map hf]
    simp
  case arrays =>
    intro css _ ih
    have hm : (Nested.node (css.map Nested.node)).map f =
        .node ((css.map fun cs => cs.map (Nested.map f)).map .node) := by
      simp
    rw [hm, closeSequences_arrays, closeSequences_arrays, Nested.map_node, Nested.node.injEq]
    simp only [List.map_map, Function.comp_def]
    refine List.map_congr_left fun cs hcs => ?_
    rw [← Nested.map_node]
    exact ih cs hcs

theorem mem_of_mem_closeSequences {c : Coordinates} (h : c.Uniform) {p : Position}
    (hp : p ∈ (closeSequences c).leaves) : p ∈ c.leaves := by
  revert hp
  refine Nested.Uniform.induction h ?leaf ?sequence ?arrays
  case leaf =>
    intro a hp
    exact hp
  case sequence =>
    intro as hp
    rw [closeSequences_sequence] at hp
    have hleaves (l : List Position) : (Nested.node (l.map Nested.leaf)).leaves = l := by
      rw [Nested.leaves_node]
      exact sequenceOf_leaves l
    rw [hleaves] at hp ⊢
    exact mem_of_mem_closeRing hp
  case arrays =>
    intro css _ ih hp
    rw [closeSequences_arrays, Nested.leaves_node] at hp
    rw [Nested.leaves_node]
    simp only [List.mem_flatMap, List.mem_map, exists_exists_and_eq_and] at hp ⊢
    obtain ⟨cs, hcs, hp⟩ := hp
    exact ⟨cs, hcs, ih cs hcs hp⟩

/-- In every sequence the ends that agree in XY agree. -/
def AllEndsAgree (c : Coordinates) : Prop :=
  ∀ as : List Position, as.map Nested.leaf ∈ c.nodes → EndsAgree as

theorem closeSequences_eq_self_iff {c : Coordinates} (h : c.Uniform) :
    closeSequences c = c ↔ AllEndsAgree c := by
  refine Nested.Uniform.induction h ?leaf ?sequence ?arrays
  case leaf =>
    intro a
    simp [closeSequences, AllEndsAgree]
  case sequence =>
    intro as
    rw [closeSequences_sequence, Nested.node.injEq]
    -- an array of positions has one sequence, itself
    have hinj : Function.Injective (List.map (Nested.leaf : Position → Coordinates)) :=
      List.map_injective_iff.mpr fun a b hab => Nested.leaf.inj hab
    have hnone : (as.map Nested.leaf).flatMap Nested.nodes = ([] : List (List Coordinates)) := by
      simp [List.flatMap_map]
    rw [hinj.eq_iff, closeRing_eq_self_iff]
    unfold AllEndsAgree
    rw [Nested.nodes_node, hnone]
    constructor
    · intro has bs hbs
      rwa [hinj (List.mem_singleton.mp hbs)]
    · intro hall
      exact hall as List.mem_cons_self
  case arrays =>
    intro css _ ih
    rw [closeSequences_arrays, Nested.node.injEq, List.map_map]
    -- the sequences of an array of arrays are those of its children
    have hown : AllEndsAgree (.node (css.map .node)) ↔ ∀ cs ∈ css, AllEndsAgree (.node cs) := by
      constructor
      · intro hall cs hcs as has
        refine hall as ?_
        rw [Nested.nodes_node]
        refine List.mem_cons_of_mem _ (List.mem_flatMap.mpr ?_)
        exact ⟨.node cs, List.mem_map_of_mem hcs, has⟩
      · intro hall as has
        rw [Nested.nodes_node, List.mem_cons, List.flatMap_map, List.mem_flatMap] at has
        rcases has with has | ⟨cs, hcs, has⟩
        · -- no sequence of positions is an array of arrays
          cases as with
          | nil => simp [EndsAgree]
          | cons a as => cases css <;> simp at has
        · exact hall cs hcs as has
    rw [hown]
    have hself : (css.map .node).map closeSequences = css.map Nested.node ↔
        ∀ cs ∈ css, closeSequences (.node cs) = .node cs := by
      rw [List.map_map]
      exact List.map_inj_left
    rw [← List.map_map, hself]
    exact forall₂_congr ih

/-! ### Committing what was loaded -/

/-- An end that has not moved in XY is copied over the other one. -/
theorem normalizePair_unmoved {originals next : List Position} {i j : ℕ} {p q : Position}
    (hxy : originals.map Position.xy = next.map Position.xy) (hp : next[i]? = some p)
    (hq : next[j]? = some q) : normalizePair originals next (i, j) = .ok (next.set j p) := by
  have horiginal {k : ℕ} {r : Position} (hr : next[k]? = some r) :
      ∃ r', originals[k]? = some r' ∧ r'.xy = r.xy := by
    have hk := congrArg (fun l => l[k]?) hxy
    simp only [List.getElem?_map, hr, Option.map_some, Option.map_eq_some_iff] at hk
    exact hk
  obtain ⟨p', hp', hpxy⟩ := horiginal hp
  obtain ⟨q', hq', hqxy⟩ := horiginal hq
  have hfirst : positionsEqualXY p p' = true := positionsEqualXY_iff.mpr hpxy.symm
  have hlast : positionsEqualXY q q' = true := positionsEqualXY_iff.mpr hqxy.symm
  -- both ends are where they were, so the first is taken
  simp [normalizePair, hp, hq, hp', hq', hfirst, hlast]

/-- The sequences of one part of the positions, whatever stands around it. -/
theorem normalize_unmoved {c : Coordinates} (h : c.Uniform) :
    ∀ (originals pre post : List Position),
      originals.map Position.xy = (pre ++ c.leaves ++ post).map Position.xy →
      (closedPairs c pre.length).foldlM (normalizePair originals) (pre ++ c.leaves ++ post) =
        .ok (pre ++ (closeSequences c).leaves ++ post) := by
  refine Nested.Uniform.induction h ?leaf ?sequence ?arrays
  case leaf =>
    intro a originals pre post _
    rfl
  case sequence =>
    intro as originals pre post hxy
    have hleaves (l : List Position) : (Nested.node (l.map Nested.leaf)).leaves = l := by
      rw [Nested.leaves_node]
      exact sequenceOf_leaves l
    rw [closeSequences_sequence, hleaves, hleaves, closedPairs, closedPairsAll_leaves,
      List.append_nil]
    rw [hleaves] at hxy
    rcases sequence_cases as with rfl | ⟨p, rfl⟩ | ⟨first, inner, last, rfl⟩
    · rfl
    · simp [closedPair, closeRing, positionsEqualXY, pure, Except.pure]
    · rw [closedPair_ends, closeRing_cases]
      split
      · -- the last position stands right after `left`
        have hsplit (p : Position) : pre ++ (first :: inner ++ [p]) ++ post =
            (pre ++ first :: inner) ++ p :: post := by simp
        have hlen : pre.length + inner.length + 1 = (pre ++ first :: inner).length := by
          rw [List.length_append, List.length_cons]
          omega
        rw [hsplit, hsplit, hlen]
        rw [hsplit] at hxy
        have hfirst : ((pre ++ first :: inner) ++ last :: post)[pre.length]? = some first := by
          simp
        have hlast : ((pre ++ first :: inner) ++ last :: post)[(pre ++ first :: inner).length]? =
            some last := by
          simp
        rw [List.foldlM_cons, normalizePair_unmoved hxy hfirst hlast, List.set_append_right _ _ le_rfl,
          Nat.sub_self, List.set_cons_zero]
        rfl
      · rfl
  case arrays =>
    intro css huniform ih originals pre post hxy
    rw [closeSequences_arrays, closedPairs, closedPair_arrays, List.nil_append,
      Nested.leaves_node, Nested.leaves_node]
    rw [Nested.leaves_node] at hxy
    -- child by child: what stands before moves into `pre`, what follows into `post`
    induction css generalizing pre with
    | nil => simp [closedPairsAll, pure, Except.pure]
    | cons cs css ihc =>
      have hchild : Nested.Uniform (.node cs) := huniform cs List.mem_cons_self
      have hleavesxy : (closeSequences (.node cs)).leaves.map Position.xy =
          (Nested.node cs).leaves.map Position.xy := by
        rw [← Nested.leaves_map, closeSequences_xy hchild, Nested.leaves_map]
      have hlength : (closeSequences (.node cs)).leaves.length = (Nested.node cs).leaves.length :=
        Nested.length_leaves_of_shape (closeSequences_shape hchild)
      rw [List.map_cons, List.flatMap_cons] at hxy
      have hhere := ih cs List.mem_cons_self originals pre
        ((css.map Nested.node).flatMap Nested.leaves ++ post)
        (by simpa only [List.append_assoc] using hxy)
      have hrest := ihc (fun ds hds => huniform ds (List.mem_cons_of_mem _ hds))
        (fun ds hds => ih ds (List.mem_cons_of_mem _ hds))
        (pre ++ (closeSequences (.node cs)).leaves)
        (by simpa only [List.map_append, hleavesxy, List.append_assoc] using hxy)
      rw [List.length_append, hlength] at hrest
      rw [List.map_cons, closedPairsAll, List.foldlM_append, List.flatMap_cons,
        List.map_cons, List.flatMap_cons]
      simp only [List.append_assoc] at hhere hrest ⊢
      rw [hhere]
      exact hrest

/-- A commit of the positions that a feature was loaded with. -/
theorem featureWithUpdatedPositions_unmoved {geometry : FeatureGeometry} {c : Coordinates}
    (members : List (String × Json)) (hc : geometry.coordinates = some c) (h : c.Uniform) :
    featureWithUpdatedPositions ⟨some geometry, members⟩
        (sourcePositions ⟨some geometry, members⟩) =
      .ok ⟨some { geometry with coordinates := some (closeSequences c) }, members⟩ := by
  have hcoordinates : Feature.coordinates ⟨some geometry, members⟩ = some c := hc
  have hsource : sourcePositions ⟨some geometry, members⟩ = c.leaves := by
    rw [sourcePositions, hcoordinates]
  have hnormalized : normalizeClosedPositions ⟨some geometry, members⟩ c.leaves =
      .ok (closeSequences c).leaves := by
    have hall := normalize_unmoved h c.leaves [] [] (by simp)
    rw [normalizeClosedPositions, hcoordinates, hsource]
    simpa [collectClosedPositionPairs_eq] using hall
  have hreplaced := replaceCoordinatesFromPositions_leaves (closeSequences_shape h)
  rw [hsource]
  unfold featureWithUpdatedPositions
  rw [hcoordinates]
  simp only [hnormalized, hreplaced, bind, Except.bind, ne_eq, not_true_eq_false, if_false]

/-! ### Storing it again -/

open Geocomponents

section Stored

variable {Geometry : Type} {gis : PostGIS Geometry} {asGeoJSON : Geometry → FeatureGeometry}

/-- A missing height is 0. -/
def fillHeight (p : Position) : Position := { p with rest := [p.rest.headD 0] }

/-- What PostGIS keeps of the coordinates of a geometry. -/
structure KeepsCoordinates (gis : PostGIS Geometry) (asGeoJSON : Geometry → FeatureGeometry) :
    Prop where
  /-- What `ST_AsGeoJSON` writes is read back, also with other heights; one that is
  left out counts as 0. -/
  geomFromGeoJSON : ∀ (g : Geometry) (c c' : Coordinates), (asGeoJSON g).coordinates = some c →
    c'.map Position.xy = c.map Position.xy →
    ∃ g', gis.geomFromGeoJSON { asGeoJSON g with coordinates := some c' }.json = .ok g' ∧
      (asGeoJSON g').coordinates.map (·.map fillHeight) = some (c'.map fillHeight) ∧
      gis.force2D g' = gis.force2D g
  setSRID : ∀ g srid, (asGeoJSON (gis.setSRID g srid)).coordinates = (asGeoJSON g).coordinates
  force3D : ∀ g, (asGeoJSON (gis.force3D g)).coordinates =
    (asGeoJSON g).coordinates.map (·.map fillHeight)
  force2D_setSRID : ∀ g srid, gis.force2D (gis.setSRID g srid) = gis.setSRID (gis.force2D g) srid
  force2D_force3D : ∀ g, gis.force2D (gis.force3D g) = gis.force2D g
  /-- Validity and simplicity are of the plane. -/
  isValid : ∀ g, gis.isValid (gis.force2D g) = gis.isValid g
  isSimple : ∀ g, gis.isSimple (gis.force2D g) = gis.isSimple g

/-- A geometry in the table of a collection with heights: it passed the checks of
the write that stored it, which a derived geometry does not go through. -/
structure StoredWithHeights (gis : PostGIS Geometry) (asGeoJSON : Geometry → FeatureGeometry)
    (coll : CollectionPlan) (g : Geometry) : Prop where
  uniform : ∀ c, (asGeoJSON g).coordinates = some c → c.Uniform
  heights : ∀ c, (asGeoJSON g).coordinates = some c → ∀ p ∈ c.leaves, p.rest.length = 1
  srid : gis.setSRID g coll.geometry.srid = g
  checked : coll.derived = none → gis.isValid g = .ok true ∧ gis.isSimple g = .ok true

/-- No height is the marker, and the ends of a sequence that agree in XY agree. -/
def HeightsSurvive (c : Coordinates) : Prop :=
  (∀ p ∈ c.leaves, p.rest.head? ≠ some missingHeightZ) ∧ AllEndsAgree c

/-- The height of a position that was loaded and stored again. -/
theorem fillHeight_sanitize_eq_self_iff {p : Position} (h : p.rest.length = 1) :
    fillHeight (sanitizeMissingHeightPosition p) = p ↔ p.rest.head? ≠ some missingHeightZ := by
  obtain ⟨x, y, rest⟩ := p
  obtain ⟨z, rfl⟩ := List.length_eq_one_iff.mp h
  by_cases hz : z = missingHeightZ
  · subst hz
    simp [fillHeight, sanitizeMissingHeightPosition, missingHeightZ]
  · simp [fillHeight, sanitizeMissingHeightPosition, hz]

/-- The coordinates that are stored again. -/
theorem closed_sanitized_eq_self_iff {c : Coordinates} (hu : c.Uniform)
    (hz : ∀ p ∈ c.leaves, p.rest.length = 1) :
    (closeSequences (c.map sanitizeMissingHeightPosition)).map fillHeight = c ↔
      HeightsSurvive c := by
  rw [closeSequences_map sanitizeMissingHeightPosition_xy hu, Nested.map_map]
  unfold HeightsSurvive
  rw [← closeSequences_eq_self_iff hu]
  have hself (d : Coordinates) (hd : ∀ p ∈ d.leaves, p ∈ c.leaves) :
      d.map (fun p => fillHeight (sanitizeMissingHeightPosition p)) = d ↔
        ∀ p ∈ d.leaves, p.rest.head? ≠ some missingHeightZ := by
    rw [Nested.map_eq_self_iff]
    exact forall₂_congr fun p hp => fillHeight_sanitize_eq_self_iff (hz p (hd p hp))
  constructor
  · intro h
    -- every position is one that was filled in, and none of these has the marker
    have hmarker : ∀ p ∈ c.leaves, p.rest.head? ≠ some missingHeightZ := by
      rw [← h, Nested.leaves_map]
      intro p hp
      obtain ⟨q, -, rfl⟩ := List.mem_map.mp hp
      unfold fillHeight sanitizeMissingHeightPosition
      split
      · simp [missingHeightZ]
      · rename_i hq
        cases hrest : q.rest with
        | nil => simp [missingHeightZ]
        | cons z zs => simpa [hrest] using hq
    have hclosed := (hself (closeSequences c) fun p => mem_of_mem_closeSequences hu).mpr
      fun p hp => hmarker p (mem_of_mem_closeSequences hu hp)
    exact ⟨hmarker, hclosed.symm.trans h⟩
  · rintro ⟨hmarker, hclosed⟩
    rw [hclosed]
    exact (hself c fun p hp => hp).mpr hmarker

/-- The body's geometry is an object, so `_geom_from_feature` reads it. -/
theorem arrow_geometry (feature : Feature) {geometry : FeatureGeometry}
    (h : feature.geometry = some geometry) :
    Sql.arrow (some feature.json) "geometry" = some geometry.json := by
  simp [Sql.arrow, Feature.json, h]

theorem hasKey_geometry (feature : Feature) :
    Sql.hasKey (some feature.json) "geometry" = some true := by
  simp [Sql.hasKey, Feature.json]

/-- The PUT of a geometry that differs from a stored one in its heights only. -/
theorem putGeometry_ok (h : KeepsCoordinates gis asGeoJSON) {coll : CollectionPlan}
    (hd : coll.derived = none) (hz : coll.geometry.hasZ = true) {g : Geometry}
    (hs : StoredWithHeights gis asGeoJSON coll g) {c c' : Coordinates}
    (hc : (asGeoJSON g).coordinates = some c)
    (hxy : c'.map Position.xy = c.map Position.xy) (members : List (String × Json)) :
    ∃ g'', putGeometry gis coll
        (some (Feature.json ⟨some { asGeoJSON g with coordinates := some c' }, members⟩)) =
          .ok (some g'') ∧
      (asGeoJSON g'').coordinates = some (c'.map fillHeight) := by
  obtain ⟨g', hread, hcoordinates, hplane⟩ := h.geomFromGeoJSON g c c' hc hxy
  let body : Feature := ⟨some { asGeoJSON g with coordinates := some c' }, members⟩
  let stored := gis.force3D (gis.setSRID g' coll.geometry.srid)
  have hfrom : geomFromFeature gis coll.geometry (some body.json) = .ok (some stored) := by
    unfold geomFromFeature
    rw [arrow_geometry body rfl]
    simp only [FeatureGeometry.json] at hread ⊢
    simp only [hread, hz, bind, Except.bind, if_true, stored]
  -- the checks look at the plane geometry, which is the stored one
  have hforce : gis.force2D stored = gis.force2D g := by
    rw [h.force2D_force3D, h.force2D_setSRID, hplane, ← h.force2D_setSRID, hs.srid]
  have hvalid : gis.isValid stored = .ok true := by
    rw [← h.isValid, hforce, h.isValid]
    exact (hs.checked hd).1
  have hsimple : gis.isSimple stored = .ok true := by
    rw [← h.isSimple, hforce, h.isSimple]
    exact (hs.checked hd).2
  have htype : Sql.typeOf (Sql.arrow (some body.json) "geometry") = some "object" := by
    rw [arrow_geometry body rfl]
    rfl
  -- so they pass, as they did when it was stored
  have hchecks : geomChecks gis coll false (some body.json) = .ok () := by
    unfold geomChecks
    rw [hd]
    simp only [hasKey_geometry, htype]
    have htypes : (if coll.geometry.nullable then Sql.notIn (some "object") ["object", "null"]
        else Sql.ne (some "object") (some "object")) = some false := by
      cases coll.geometry.nullable <;> rfl
    rw [htypes]
    simp only [hfrom, hvalid, hsimple, Sql.raiseIf, Sql.Tri.holds, bind, Except.bind, pure,
      Except.pure]
    rfl
  refine ⟨stored, ?_, ?_⟩
  · show putGeometry gis coll (some body.json) = _
    unfold putGeometry geometryValue
    rw [hchecks, hd]
    exact hfrom
  · show (asGeoJSON (gis.force3D _)).coordinates = _
    rw [h.force3D, h.setSRID, hcoordinates]

/-- The derived geometry of a feature cannot be put. -/
theorem putGeometry_derived {coll : CollectionPlan} {derived : DerivedPlan}
    (hd : coll.derived = some derived) (feature : Feature) {geometry : FeatureGeometry}
    (hg : feature.geometry = some geometry) :
    ∃ e, putGeometry gis coll (some feature.json) = .error e := by
  have htype : Sql.typeOf (Sql.arrow (some feature.json) "geometry") = some "object" := by
    rw [arrow_geometry feature hg]
    unfold FeatureGeometry.json
    split <;> rfl
  -- the guard refuses before the geometry is read
  unfold putGeometry geomChecks derivedGeometryGuard
  rw [hd]
  simp only [hasKey_geometry, htype]
  exact ⟨_, rfl⟩

/-- The coordinates of a stored geometry. -/
def storedCoordinates (asGeoJSON : Geometry → FeatureGeometry) (stored : Option Geometry) :
    Option Coordinates :=
  stored.bind fun g => (asGeoJSON g).coordinates

/-- Editing a feature without moving anything leaves its stored coordinates as they
were exactly when, in a collection whose geometry is not derived, their heights
survive. -/
theorem storedAfterEditing_iff (h : KeepsCoordinates gis asGeoJSON) {coll : CollectionPlan}
    (hz : coll.geometry.hasZ = true) (members : List (String × Json)) (stored : Option Geometry)
    (hs : ∀ g ∈ stored, StoredWithHeights gis asGeoJSON coll g) :
    storedCoordinates asGeoJSON (storedAfterEditing gis asGeoJSON coll members stored) =
        storedCoordinates asGeoJSON stored ↔
      (coll.derived = none → ∀ c ∈ storedCoordinates asGeoJSON stored, HeightsSurvive c) := by
  cases stored with
  | none => simp [storedAfterEditing, storedCoordinates, getFeature, sanitizeMissingHeightFeature,
      featureWithUpdatedPositions]
  | some g =>
    have hg := hs g rfl
    cases hc : (asGeoJSON g).coordinates with
    | none =>
      -- a geometry without coordinates cannot be edited
      simp [storedAfterEditing, storedCoordinates, getFeature, sanitizeMissingHeightFeature,
        featureWithUpdatedPositions, Feature.coordinates, hc]
    | some c =>
      have hu := hg.uniform c hc
      have hbefore : storedCoordinates asGeoJSON (some g) = some c := hc
      let loaded : Coordinates := c.map sanitizeMissingHeightPosition
      have hloadedxy : loaded.map Position.xy = c.map Position.xy := by
        rw [Nested.map_map]
        exact (Nested.map_eq_map_iff c).mpr fun p _ => sanitizeMissingHeightPosition_xy p
      have hloaded : loaded.Uniform := hu.map _
      let geometry : FeatureGeometry := { asGeoJSON g with coordinates := some loaded }
      have hfeature : getFeature ⟨(some g).map asGeoJSON, members⟩ = ⟨some geometry, members⟩ := by
        simp [getFeature, sanitizeMissingHeightFeature, hc, geometry, loaded,
          sanitizeMissingHeightCoordinates]
      have hcommit := @featureWithUpdatedPositions_unmoved geometry loaded members rfl hloaded
      unfold storedAfterEditing
      rw [hfeature]
      simp only [hcommit]
      cases hd : coll.derived with
      -- refused: the stored geometry stays
      | some derived =>
        let body : Feature :=
          ⟨some { geometry with coordinates := some (closeSequences loaded) }, members⟩
        have hrefused : ∃ e, putGeometry gis coll (some body.json) = .error e :=
          putGeometry_derived hd body rfl
        obtain ⟨e, he⟩ := hrefused
        simp only [body] at he
        simp [he]
      | none =>
        -- accepted: what is stored is what the map closed, with heights filled in
        have hclosedxy : (closeSequences loaded).map Position.xy = c.map Position.xy := by
          rw [closeSequences_xy hloaded, hloadedxy]
        obtain ⟨g'', hput, hstored⟩ := putGeometry_ok h hd hz hg hc hclosedxy members
        have hafter : storedCoordinates asGeoJSON (some g'') =
            some ((closeSequences loaded).map fillHeight) := hstored
        have hiff := closed_sanitized_eq_self_iff hu (hg.heights c hc)
        simp only [geometry, hput, hafter, hbefore, Option.some.injEq, Option.mem_def]
        simpa using hiff

end Stored

/-! ### Geometries that are their coordinates -/

namespace Shapes

/-- The numbers in an array of numbers. -/
def numbers : List Json → Option (List ℚ)
  | [] => some []
  | .num q :: js => (numbers js).map (q :: ·)
  | _ => none

mutual

/-- The coordinates that are written as this JSON. -/
def readCoordinates : Json → Option Coordinates
  | .arr (.num x :: .num y :: rest) => (numbers rest).map fun rest => .leaf ⟨x, y, rest⟩
  | .arr items => (readAll items).map .node
  | _ => none

def readAll : List Json → Option (List Coordinates)
  | [] => some []
  | j :: js => (readCoordinates j).bind fun c => (readAll js).map (c :: ·)

end

theorem numbers_json (qs : List ℚ) : numbers (qs.map .num) = some qs := by
  induction qs with
  | nil => rfl
  | cons q qs ih => rw [List.map_cons, numbers, ih, Option.map_some]

/-- No coordinates are written as a number. -/
theorem coordinatesJson_ne_num (c : Coordinates) (q : ℚ) : coordinatesJson c ≠ .num q := by
  cases c with
  | leaf p => exact fun h => Json.noConfusion h
  | node cs => exact fun h => Json.noConfusion h

theorem readCoordinates_json (c : Coordinates) : readCoordinates (coordinatesJson c) = some c := by
  induction c using Nested.induction with
  | leaf p =>
    show (numbers (p.rest.map .num)).map _ = _
    rw [numbers_json]
    rfl
  | node cs ih =>
    have hall : readAll (coordinatesJsonAll cs) = some cs := by
      induction cs with
      | nil => rfl
      | cons c cs ihs =>
        rw [coordinatesJsonAll, readAll, ih c List.mem_cons_self, Option.bind_some,
          ihs fun d hd => ih d (List.mem_cons_of_mem c hd)]
        rfl
    rw [coordinatesJson]
    cases cs with
    | nil => rfl
    | cons c cs =>
      rw [coordinatesJsonAll] at hall ⊢
      rw [readCoordinates, hall]
      · rfl
      · intro x y rest hx
        exact absurd (List.cons.inj hx).1 (coordinatesJson_ne_num c x)

/-- A position is a point, an array of arrays of positions a polygon. -/
def geometryType : Coordinates → String
  | .leaf _ => "Point"
  | .node _ => "Polygon"

def asGeoJSON (c : Coordinates) : FeatureGeometry := ⟨some c, [("type", .str (geometryType c))]⟩

def geomFromGeoJSON (geometry : Json) : Except SqlError Coordinates :=
  match (geometry.get? "coordinates").bind readCoordinates with
  | some c => .ok c
  | none => .error ⟨"XX000", "Unable to find 'coordinates' in GeoJSON string"⟩

def gis : PostGIS Coordinates where
  geomFromGeoJSON := geomFromGeoJSON
  setSRID := fun c _ => c
  force2D := fun c => c.map fun p => { p with rest := [] }
  force3D := fun c => c.map fillHeight
  isValid := fun _ => .ok true
  isValidReason := fun _ => "Valid Geometry"
  isSimple := fun _ => .ok true
  isEmpty := fun _ => false
  geometryType := fun c => (geometryType c).toUpper
  numGeometries := fun _ => 1
  numInteriorRings := fun _ => none
  dump := fun c => [c]
  collect := fun cs => .ok cs.head?
  node := .ok
  buildArea := fun _ => .ok none
  boundary := .ok
  coveredBy := fun _ _ => .ok true
  typmod := fun _ _ => .ok ()

theorem keepsCoordinates : KeepsCoordinates gis asGeoJSON where
  geomFromGeoJSON := by
    intro g c c' hc hxy
    cases hc
    have hmember : Json.get? (FeatureGeometry.json { asGeoJSON g with coordinates := some c' })
        "coordinates" = some (coordinatesJson c') := rfl
    have hplane : ∀ d : Coordinates,
        gis.force2D d = (d.map Position.xy).map fun p => ⟨p.1, p.2, []⟩ := by
      intro d
      rw [Nested.map_map]
      rfl
    refine ⟨c', ?_, rfl, by rw [hplane, hplane, hxy]⟩
    show geomFromGeoJSON _ = _
    rw [geomFromGeoJSON, hmember, Option.bind_some, readCoordinates_json]
  setSRID := fun _ _ => rfl
  force3D := fun c => rfl
  force2D_setSRID := fun _ _ => rfl
  force2D_force3D := fun c => by
    simp [gis, Nested.map_map, fillHeight]
  isValid := fun _ => rfl
  isSimple := fun _ => rfl

/-- A collection of surfaces with heights. -/
def roofs : CollectionPlan where
  collectionName := "roofs"
  featureModel := .simple
  geometry := { geometryType := "GeometryZ", srid := 25833, hasZ := true }

theorem storedWithHeights {c : Coordinates} (huniform : c.Uniform)
    (hheights : ∀ p ∈ c.leaves, p.rest.length = 1) : StoredWithHeights gis asGeoJSON roofs c where
  uniform := by
    intro d hd
    cases hd
    exact huniform
  heights := by
    intro d hd
    cases hd
    exact hheights
  srid := rfl
  checked := fun _ => ⟨rfl, rfl⟩

/-- The coordinates of a polygon. -/
def polygon (rings : List (List Position)) : Coordinates :=
  .node (rings.map fun ring => .node (ring.map .leaf))

theorem polygon_uniform (rings : List (List Position)) : (polygon rings).Uniform := by
  intro cs hcs
  rw [polygon, Nested.nodes_node, List.mem_cons, List.flatMap_map] at hcs
  rcases hcs with rfl | hcs
  · exact .inr ⟨rings.map (List.map .leaf), by rw [List.map_map]; rfl⟩
  · obtain ⟨ring, -, hring⟩ := List.mem_flatMap.mp hcs
    rw [Nested.nodes_node, List.flatMap_map] at hring
    refine .inl ⟨ring, ?_⟩
    simpa using hring

/-- A sloping roof with a hole. -/
def roof : Coordinates :=
  polygon
    [[⟨0, 0, [3]⟩, ⟨8, 0, [3]⟩, ⟨8, 8, [5]⟩, ⟨0, 0, [3]⟩],
      [⟨4, 1, [3]⟩, ⟨6, 1, [3]⟩, ⟨6, 3, [4]⟩, ⟨4, 1, [3]⟩]]

end Shapes

open Shapes in
/-- A roof keeps its heights. -/
theorem storedAfterEditing_iff_roof :
    storedCoordinates asGeoJSON (storedAfterEditing gis asGeoJSON roofs [] (some roof)) =
      storedCoordinates asGeoJSON (some roof) := by
  have huniform : roof.Uniform := polygon_uniform _
  have hheights : ∀ p ∈ roof.leaves, p.rest.length = 1 ∧ p.rest.head? ≠ some missingHeightZ := by
    decide
  refine (storedAfterEditing_iff keepsCoordinates rfl [] (some roof) ?_).mpr ?_
  · intro g hg
    cases hg
    exact storedWithHeights huniform fun p hp => (hheights p hp).1
  · intro _ c hc
    cases hc
    exact ⟨fun p hp => (hheights p hp).2, (closeSequences_eq_self_iff huniform).mp rfl⟩

open Shapes in
/-- The marker of a missing height is stored as 0. -/
theorem storedAfterEditing_marker :
    StoredWithHeights gis asGeoJSON roofs (.leaf ⟨1, 2, [-99999]⟩) ∧
      storedAfterEditing gis asGeoJSON roofs [] (some (.leaf ⟨1, 2, [-99999]⟩)) =
        some (.leaf ⟨1, 2, [0]⟩) ∧
      storedCoordinates asGeoJSON
          (storedAfterEditing gis asGeoJSON roofs [] (some (.leaf ⟨1, 2, [-99999]⟩))) ≠
        storedCoordinates asGeoJSON (some (.leaf ⟨1, 2, [-99999]⟩)) := by
  have hafter : storedAfterEditing gis asGeoJSON roofs [] (some (.leaf ⟨1, 2, [-99999]⟩)) =
      some (.leaf ⟨1, 2, [0]⟩) := rfl
  refine ⟨storedWithHeights (by simp [Nested.Uniform]) (by simp), hafter, ?_⟩
  rw [hafter]
  simp [storedCoordinates, asGeoJSON]

end Gcmapview
