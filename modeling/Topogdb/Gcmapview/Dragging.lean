/-
Dragging the vertices of a feature (`gcmapview/useFeatureEditing.ts`).

Every pointer move writes one position, closes the rings again against the
unchanged source feature, and shows the result.  A ring counts as moved by
comparing it with the source, so its ends follow each other once only.

* `handlePointerMove` — one move, with the projection between the storage and the
  display CRS;
* `wantedPositions` — what the moves ask for: the vertex and its closing twin hold
  the last value;
* **`dragAll_exact_iff`** — the runs in which every state holds what was asked for.
-/
import Mathlib.Data.Prod.Basic
import Mathlib.Logic.Equiv.Defs
import Topogdb.Lib.Raises
import Topogdb.Gcmapview.Positions

namespace Gcmapview

variable {R : Type}

/-! ### The editor -/

/-- A pointer move: to a place on the map, or (with Ctrl in 3D) to a height. -/
inductive Move (R : Type) where
  | horizontal (lng lat : R)
  | vertical (nextZ : R)

/-- A move of one vertex. -/
structure Drag (R : Type) where
  index : ℕ
  move : Move R

/-- The selected feature as the editor has it, and the feature that the map shows. -/
structure Selection (R : Type) where
  sourceFeature : Feature R
  positions : List (Position R)
  mapPositions : List (Position R)
  renderedFeature : Feature R

section Editor

-- proj4 from the storage CRS to the display CRS and back; nothing when the storage
-- CRS is unknown or is the display CRS
variable (projection : Option (R × R ≃ R × R))

/-- The place on the map. -/
def displayXY (xy : R × R) : R × R :=
  match projection with
  | some proj4 => proj4 xy
  | none => xy

/-- The place in the storage CRS. -/
def storageXY (xy : R × R) : R × R :=
  match projection with
  | some proj4 => proj4.symm xy
  | none => xy

/-- `transformPosition`. -/
def transformPosition (p : Position R) : Position R :=
  { p with
    x := (displayXY projection p.xy).1
    y := (displayXY projection p.xy).2 }

/-- `featureInDisplayCrs`. -/
def featureInDisplayCrs (feature : Feature R) : Feature R :=
  match projection with
  | none => feature
  | some _ =>
    { feature with
      geometry := feature.geometry.map fun g =>
        { g with coordinates := g.coordinates.map (Nested.map (transformPosition projection)) } }

/-- `positionsFromMapPositions`. -/
def positionsFromMapPositions (mapPositions referencePositions : List (Position R)) :
    List (Position R) :=
  mapPositions.mapIdx fun index position =>
    let xy := storageXY projection position.xy
    let referencePosition := referencePositions[index]?.getD position
    match position.rest, referencePosition.rest with
    | [], [] => ⟨xy.1, xy.2, []⟩
    | z :: _, [] => ⟨xy.1, xy.2, [z]⟩
    | _, z :: rest => ⟨xy.1, xy.2, z :: rest⟩

/-- `updateDraggedPosition` up to its call of the preview; every marker has a
position. -/
def updateDraggedPosition (selected : Selection R) (index : ℕ) (lng lat : R) :
    List (Position R) :=
  let draggedPosition : Position R :=
    match selected.mapPositions[index]? with
    | none => ⟨lng, lat, []⟩
    | some referencePosition => ⟨lng, lat, referencePosition.rest⟩
  let nextMapPositions := selected.mapPositions.set index draggedPosition
  positionsFromMapPositions projection nextMapPositions selected.positions

variable [DecidableEq R]

/-- `previewSelectedFeaturePositionChanges`. -/
def previewSelectedFeaturePositionChanges (selected : Selection R) (positions : List (Position R)) :
    Except String (Selection R) := do
  let normalizedPositions ← normalizeClosedPositions selected.sourceFeature positions
  let updatedSourceFeature ←
    featureWithUpdatedPositions selected.sourceFeature normalizedPositions
  let updatedRenderedFeature := featureInDisplayCrs projection updatedSourceFeature
  .ok
    { selected with
      positions := normalizedPositions
      mapPositions := sourcePositions updatedRenderedFeature
      renderedFeature := updatedRenderedFeature }

/-- `handlePointerMove`. -/
def handlePointerMove (selected : Selection R) (drag : Drag R) : Except String (Selection R) :=
  match drag.move with
  | .horizontal lng lat =>
    previewSelectedFeaturePositionChanges projection selected
      (updateDraggedPosition projection selected drag.index lng lat)
  | .vertical nextZ =>
    match selected.positions[drag.index]? with
    | none => .ok selected
    | some referencePosition =>
      let nextPosition : Position R :=
        { referencePosition with rest := nextZ :: referencePosition.rest.drop 1 }
      previewSelectedFeaturePositionChanges projection selected
        (selected.positions.set drag.index nextPosition)

/-- The feature selected, before any move. -/
def select (sourceFeature : Feature R) : Selection R :=
  { sourceFeature := sourceFeature
    positions := sourcePositions sourceFeature
    mapPositions := sourcePositions (featureInDisplayCrs projection sourceFeature)
    renderedFeature := featureInDisplayCrs projection sourceFeature }

/-- The moves one after the other. -/
def dragAll (sourceFeature : Feature R) (drags : List (Drag R)) : Except String (Selection R) :=
  drags.foldlM (handlePointerMove projection) (select projection sourceFeature)

end Editor

/-! ### What the moves ask for -/

section Wanted

variable (projection : Option (R × R ≃ R × R)) (pairs : List (ℕ × ℕ))

/-- Where a move takes a position. -/
def Move.target (move : Move R) (p : Position R) : Position R :=
  match move with
  | .horizontal lng lat =>
    { p with
      x := (storageXY projection (lng, lat)).1
      y := (storageXY projection (lng, lat)).2 }
  | .vertical nextZ => { p with rest := nextZ :: p.rest.drop 1 }

/-- A vertex goes where it is dragged, and where its closing twin is dragged. -/
def Follows (i j : ℕ) : Prop := j = i ∨ (i, j) ∈ pairs ∨ (j, i) ∈ pairs

instance (i j : ℕ) : Decidable (Follows pairs i j) := inferInstanceAs (Decidable (_ ∨ _ ∨ _))

/-- The positions that one move asks for. -/
def wantedMove (positions : List (Position R)) (drag : Drag R) : List (Position R) :=
  match positions[drag.index]? with
  | none => positions
  | some p => positions.mapIdx fun j q =>
      if Follows pairs drag.index j then drag.move.target projection p else q

/-- The positions that the moves ask for. -/
def wantedPositions (positions : List (Position R)) (drags : List (Drag R)) :
    List (Position R) :=
  drags.foldl (wantedMove projection pairs) positions

/-- The move does not hit a ring that the editor gets wrong: it leaves the position
where it is, or does not touch the end of a closed sequence, or moves an end over the
map that is still at its place in the source, or moves the height of a first end. -/
def MovesFreely (source positions : List (Position R)) (drag : Drag R) : Prop :=
  ∀ pair ∈ pairs, drag.index = pair.1 ∨ drag.index = pair.2 →
    ∀ p, positions[drag.index]? = some p →
      drag.move.target projection p = p ∨
        match drag.move with
        | .horizontal _ _ => ∀ q, source[drag.index]? = some q → p.xy = q.xy
        | .vertical _ => drag.index = pair.1

end Wanted

/-! ### Closing the rings -/

section Rings

variable [DecidableEq R] {source next : List (Position R)} {pair : ℕ × ℕ}

omit [DecidableEq R] in
theorem set_of_getElem? {i : ℕ} {p : Position R} (h : next[i]? = some p) : next.set i p = next := by
  obtain ⟨hi, rfl⟩ := List.getElem?_eq_some_iff.mp h
  exact List.set_getElem_self hi

/-- The pair reads and writes its own places only. -/
theorem normalizePair_frame {normalized : List (Position R)}
    (h : normalizePair source next pair = .ok normalized) :
    normalized.length = next.length ∧
      ∀ j, j ≠ pair.1 → j ≠ pair.2 → normalized[j]? = next[j]? := by
  have hset (i : ℕ) (p : Position R) (hi : i = pair.1 ∨ i = pair.2) :
      (next.set i p).length = next.length ∧
        ∀ j, j ≠ pair.1 → j ≠ pair.2 → (next.set i p)[j]? = next[j]? := by
    refine ⟨List.length_set, ?_⟩
    intro j hfirst hlast
    exact List.getElem?_set_ne (by rcases hi with rfl | rfl <;> omega)
  unfold normalizePair at h
  split at h
  · simp only at h
    split_ifs at h
    all_goals cases h
    · exact hset _ _ (.inr rfl)
    · exact hset _ _ (.inl rfl)
    · exact hset _ _ (.inr rfl)
  · cases h

/-- A pair whose ends agree is left as it is. -/
theorem normalizePair_agree (hends : Ends source 0 pair) (hlength : next.length = source.length)
    (hagree : next[pair.1]? = next[pair.2]?) : normalizePair source next pair = .ok next := by
  obtain ⟨p, q, -, hlt, hp, hq, hxy⟩ := hends
  have hlast : pair.2 < next.length := by
    rw [hlength]
    exact (List.getElem?_eq_some_iff.mp hq).1
  have hnext : next[pair.2]? = some next[pair.2] := List.getElem?_eq_getElem hlast
  have hsame : positionsEqualXY next[pair.2] p = positionsEqualXY next[pair.2] q :=
    positionsEqualXY_congr rfl hxy
  unfold normalizePair
  rw [hagree, hnext, show source[pair.1]? = some p from hp, show source[pair.2]? = some q from hq]
  simp only [hsame]
  cases positionsEqualXY next[pair.2] q <;> simp [positionsEqualXY]

/-- The pairs that agree are left as they are. -/
theorem foldlM_normalizePair_agree {pairs : List (ℕ × ℕ)} (hends : ∀ pair ∈ pairs, Ends source 0 pair)
    (hlength : next.length = source.length)
    (hagree : ∀ pair ∈ pairs, next[pair.1]? = next[pair.2]?) :
    pairs.foldlM (normalizePair source) next = .ok next := by
  induction pairs with
  | nil => rfl
  | cons pair pairs ih =>
    rw [List.foldlM_cons, normalizePair_agree (hends pair List.mem_cons_self) hlength
      (hagree pair List.mem_cons_self)]
    exact ih (fun pair hpair => hends pair (List.mem_cons_of_mem _ hpair))
      fun pair hpair => hagree pair (List.mem_cons_of_mem _ hpair)

/-- One pair that does not agree is all there is to do. -/
theorem foldlM_normalizePair_one {pairs : List (ℕ × ℕ)} (hends : ∀ pair ∈ pairs, Ends source 0 pair)
    (hapart : pairs.Pairwise Apart) (hlength : next.length = source.length) (hpair : pair ∈ pairs)
    (hagree : ∀ other ∈ pairs, other ≠ pair → next[other.1]? = next[other.2]?) :
    pairs.foldlM (normalizePair source) next = normalizePair source next pair := by
  obtain ⟨before, after, rfl⟩ := List.append_of_mem hpair
  obtain ⟨-, hafter, hbefore⟩ := List.pairwise_append.mp hapart
  have hne {other : ℕ × ℕ} (h : Apart other pair ∨ Apart pair other) : other ≠ pair := by
    rintro rfl
    exact h.elim (fun h => h.1 rfl) fun h => h.1 rfl
  have hfirst : before.foldlM (normalizePair source) next = .ok next := by
    refine foldlM_normalizePair_agree (fun other h => hends other (List.mem_append_left _ h)) hlength ?_
    intro other h
    exact hagree other (List.mem_append_left _ h)
      (hne (.inl (hbefore other h pair List.mem_cons_self)))
  rw [List.foldlM_append, hfirst, Except.ok_bind, List.foldlM_cons]
  cases hresult : normalizePair source next pair with
  | error message => rfl
  | ok normalized =>
    obtain ⟨hsame, hframe⟩ := normalizePair_frame hresult
    refine foldlM_normalizePair_agree (fun other h => hends other
      (List.mem_append_right _ (List.mem_cons_of_mem _ h))) (hsame.trans hlength) ?_
    -- the pairs that follow do not see what this one wrote
    intro other h
    have hother : Apart pair other := (List.pairwise_cons.mp hafter).1 other h
    rw [hframe other.1 hother.1.symm hother.2.2.1.symm, hframe other.2 hother.2.1.symm hother.2.2.2.symm]
    exact hagree other (List.mem_append_right _ (List.mem_cons_of_mem _ h)) (hne (.inr hother))

/-- The pair, by where its ends are. -/
theorem normalizePair_eq {first last p q : Position R} (hfirst : next[pair.1]? = some first)
    (hlast : next[pair.2]? = some last) (hp : source[pair.1]? = some p)
    (hq : source[pair.2]? = some q) (hxy : p.xy = q.xy) :
    normalizePair source next pair =
      if first.xy = p.xy then
        if last.xy = p.xy then .ok (next.set pair.2 first) else .ok (next.set pair.1 last)
      else if last.xy = p.xy ∨ first.xy = last.xy then .ok (next.set pair.2 first)
      else .error "Lukkede ringer må beholde samme første og siste punkt." := by
  unfold normalizePair
  rw [hfirst, hlast, hp, hq]
  simp only [← Bool.not_eq_true, Bool.and_eq_true, Bool.not_eq_true', ← Bool.not_eq_true,
    positionsEqualXY_iff, ← hxy]
  by_cases hf : first.xy = p.xy
  · by_cases hl : last.xy = p.xy
    · simp [hf, hl]
    · simp [hf, hl]
  · by_cases hl : last.xy = p.xy
    · simp [hf, hl]
    · by_cases hfl : first.xy = last.xy
      · simp [hl, hfl]
      · simp [hf, hl, hfl]

/-- Dragging the first end of a pair: the last one follows while the pair is at its
place in the source, and in height. -/
theorem normalizePair_first {p target : Position R} (hends : Ends source 0 pair)
    (hfirst : next[pair.1]? = some p) (hlast : next[pair.2]? = some p) :
    normalizePair source (next.set pair.1 target) pair =
        .ok ((next.set pair.1 target).set pair.2 target) ↔
      target.xy = p.xy ∨ ∀ q, source[pair.1]? = some q → p.xy = q.xy := by
  obtain ⟨q, q', -, hlt, hq, hq', hxy⟩ := hends
  have hbound : pair.1 < next.length := (List.getElem?_eq_some_iff.mp hfirst).1
  have hq : source[pair.1]? = some q := hq
  have hfirst' : (next.set pair.1 target)[pair.1]? = some target :=
    List.getElem?_set_self hbound
  have hlast' : (next.set pair.1 target)[pair.2]? = some p := by
    rw [List.getElem?_set_ne (by omega), hlast]
  rw [normalizePair_eq hfirst' hlast' hq hq' hxy]
  have hsource : (∀ r, source[pair.1]? = some r → p.xy = r.xy) ↔ p.xy = q.xy := by
    rw [hq]
    simp
  rw [hsource]
  by_cases hunmoved : p.xy = q.xy
  · by_cases htarget : target.xy = q.xy
    · simp [hunmoved, htarget]
    · simp [hunmoved, htarget]
  · by_cases htarget : target.xy = q.xy
    · -- the end is back at its place, and the other one undoes it
      rw [if_pos htarget, if_neg hunmoved]
      have hne : target.xy ≠ p.xy := by
        rw [htarget]
        exact fun h => hunmoved h.symm
      refine iff_of_false ?_ (by simp [hne, hunmoved])
      intro heq
      have hget := congrArg (fun l => l[pair.1]?) (Except.ok.inj heq)
      rw [List.getElem?_set_self (by rwa [List.length_set]), List.getElem?_set_ne (by omega),
        hfirst'] at hget
      exact hne (congrArg Position.xy (Option.some.inj hget)).symm
    · by_cases hsame : target.xy = p.xy
      · simp [hunmoved, hsame]
      · simp [hunmoved, htarget, hsame]

/-- Dragging the last end of a pair: the first one follows over the map while the pair is
at its place in the source, and never in height. -/
theorem normalizePair_last {p target : Position R} (hends : Ends source 0 pair)
    (hfirst : next[pair.1]? = some p) (hlast : next[pair.2]? = some p) :
    normalizePair source (next.set pair.2 target) pair =
        .ok ((next.set pair.1 target).set pair.2 target) ↔
      target = p ∨ target.xy ≠ p.xy ∧ ∀ q, source[pair.2]? = some q → p.xy = q.xy := by
  obtain ⟨q, q', -, hlt, hq, hq', hxy⟩ := hends
  have hbound : pair.2 < next.length := (List.getElem?_eq_some_iff.mp hlast).1
  have hq' : source[pair.2]? = some q' := hq'
  have hfirst' : (next.set pair.2 target)[pair.1]? = some p := by
    rw [List.getElem?_set_ne (by omega), hfirst]
  have hlast' : (next.set pair.2 target)[pair.2]? = some target :=
    List.getElem?_set_self hbound
  -- copying the first end back is what was asked for only if nothing was
  have hback : (Except.ok ((next.set pair.2 target).set pair.2 p) : Except String _) =
      .ok ((next.set pair.1 target).set pair.2 target) ↔ target = p := by
    rw [Except.ok.injEq, List.set_set]
    constructor
    · intro heq
      have hget := congrArg (fun l => l[pair.2]?) heq
      rw [List.getElem?_set_self hbound, List.getElem?_set_self (by rwa [List.length_set])] at hget
      exact (Option.some.inj hget).symm
    · rintro rfl
      rw [set_of_getElem? hfirst]
  rw [normalizePair_eq hfirst' hlast' hq hq' hxy]
  have hsource : (∀ r, source[pair.2]? = some r → p.xy = r.xy) ↔ p.xy = q.xy := by
    rw [hq', hxy]
    simp
  rw [hsource]
  by_cases hunmoved : p.xy = q.xy
  · rw [if_pos hunmoved]
    by_cases htarget : target.xy = q.xy
    · rw [if_pos htarget, hback]
      simp [hunmoved, htarget]
    · rw [if_neg htarget]
      refine iff_of_true ?_ (.inr ⟨by rwa [hunmoved], hunmoved⟩)
      rw [List.set_comm _ _ (by omega)]
  · rw [if_neg hunmoved]
    by_cases htarget : target.xy = q.xy ∨ p.xy = target.xy
    · rw [if_pos htarget, hback]
      simp [hunmoved]
    · rw [if_neg htarget]
      rw [not_or] at htarget
      refine iff_of_false (by simp) ?_
      rintro (rfl | ⟨-, h⟩)
      · exact htarget.2 rfl
      · exact hunmoved h

end Rings

/-! ### One move -/

/-- Pairs of ends in the source, each with places of its own. -/
structure PairsOf (source : List (Position R)) (pairs : List (ℕ × ℕ)) : Prop where
  ends : ∀ pair ∈ pairs, Ends source 0 pair
  apart : pairs.Pairwise Apart

/-- The ends of the pairs agree. -/
def Closed (pairs : List (ℕ × ℕ)) (positions : List (Position R)) : Prop :=
  ∀ pair ∈ pairs, positions[pair.1]? = positions[pair.2]?

section Wanted

variable {projection : Option (R × R ≃ R × R)} {source positions : List (Position R)}
  {pairs : List (ℕ × ℕ)} {pair : ℕ × ℕ} {drag : Drag R} {p : Position R}

instance : Std.Symm Apart where
  symm a b h := by
    unfold Apart at h ⊢
    omega

/-- A move over the map goes nowhere exactly when it stays in XY. -/
theorem horizontal_xy_iff {lng lat : R} :
    (Move.target projection (.horizontal lng lat) p).xy = p.xy ↔
      Move.target projection (.horizontal lng lat) p = p := by
  constructor
  · intro h
    obtain ⟨hx, hy⟩ := Prod.mk.inj h
    rw [Move.target] at hx hy ⊢
    cases p
    simp_all
  · exact congrArg Position.xy

/-- A place is in one pair only. -/
theorem PairsOf.eq_of_common (hpairs : PairsOf source pairs) {other : ℕ × ℕ} (hpair : pair ∈ pairs)
    (hother : other ∈ pairs) {i : ℕ} (hi : i = pair.1 ∨ i = pair.2)
    (hi' : i = other.1 ∨ i = other.2) : other = pair := by
  by_contra hne
  have happart : Apart other pair := hpairs.apart.forall hother hpair hne
  unfold Apart at happart
  omega

/-- Who follows an end of a pair. -/
theorem PairsOf.follows_iff (hpairs : PairsOf source pairs) (hpair : pair ∈ pairs) {i j : ℕ}
    (hi : i = pair.1 ∨ i = pair.2) : Follows pairs i j ↔ j = pair.1 ∨ j = pair.2 := by
  constructor
  · rintro (rfl | hmem | hmem)
    · exact hi
    · have heq := hpairs.eq_of_common hpair hmem hi (.inl rfl)
      exact .inr (congrArg Prod.snd heq)
    · have heq := hpairs.eq_of_common hpair hmem hi (.inr rfl)
      exact .inl (congrArg Prod.fst heq)
  · intro hj
    rcases hi with rfl | rfl <;> rcases hj with rfl | rfl
    · exact .inl rfl
    · exact .inr (.inl hpair)
    · exact .inr (.inr hpair)
    · exact .inl rfl

theorem follows_of_no_pair {i j : ℕ} (hi : ∀ pair ∈ pairs, i ≠ pair.1 ∧ i ≠ pair.2) :
    Follows pairs i j ↔ j = i := by
  constructor
  · rintro (rfl | hmem | hmem)
    · rfl
    · exact absurd rfl (hi _ hmem).1
    · exact absurd rfl (hi _ hmem).2
  · exact .inl

theorem wantedMove_getElem? (hp : positions[drag.index]? = some p) (j : ℕ) :
    (wantedMove projection pairs positions drag)[j]? =
      if Follows pairs drag.index j then positions[j]?.map fun _ => drag.move.target projection p
      else positions[j]? := by
  rw [wantedMove, hp]
  simp only [List.getElem?_mapIdx]
  split
  · simp
  · simp

theorem length_wantedMove : (wantedMove projection pairs positions drag).length = positions.length := by
  rw [wantedMove]
  split
  · rfl
  · exact List.length_mapIdx

/-- Both ends of a pair hold what one is dragged to. -/
theorem wantedMove_of_mem (hpairs : PairsOf source pairs) (hlength : positions.length = source.length)
    (hp : positions[drag.index]? = some p) (hpair : pair ∈ pairs)
    (hi : drag.index = pair.1 ∨ drag.index = pair.2) :
    wantedMove projection pairs positions drag =
      (positions.set pair.1 (drag.move.target projection p)).set pair.2
        (drag.move.target projection p) := by
  have hlt := (hpairs.ends pair hpair).lt
  obtain ⟨-, -, -, horder, -⟩ := hpairs.ends pair hpair
  refine List.ext_getElem? fun j => ?_
  rw [wantedMove_getElem? hp, List.getElem?_set, List.getElem?_set, List.length_set]
  simp only [hpairs.follows_iff hpair hi]
  by_cases hlast : j = pair.2
  · subst hlast
    rw [if_pos (.inr rfl), if_pos rfl, if_pos (by omega), List.getElem?_eq_getElem (by omega)]
    rfl
  by_cases hfirst : j = pair.1
  · subst hfirst
    rw [if_pos (.inl rfl), if_neg (Ne.symm hlast), if_pos rfl, if_pos (by omega),
      List.getElem?_eq_getElem (by omega)]
    rfl
  · rw [if_neg (by omega), if_neg (Ne.symm hlast), if_neg (Ne.symm hfirst)]

theorem wantedMove_of_no_pair (hp : positions[drag.index]? = some p)
    (hi : ∀ pair ∈ pairs, drag.index ≠ pair.1 ∧ drag.index ≠ pair.2) :
    wantedMove projection pairs positions drag =
      positions.set drag.index (drag.move.target projection p) := by
  have hlt : drag.index < positions.length := (List.getElem?_eq_some_iff.mp hp).1
  refine List.ext_getElem? fun j => ?_
  rw [wantedMove_getElem? hp, List.getElem?_set]
  simp only [follows_of_no_pair hi]
  by_cases hj : j = drag.index
  · subst hj
    rw [if_pos rfl, if_pos rfl, if_pos hlt, hp]
    rfl
  · rw [if_neg hj, if_neg (Ne.symm hj)]

/-- What is asked for keeps the pairs closed. -/
theorem Closed.wantedMove (hpairs : PairsOf source pairs) (h : Closed pairs positions) :
    Closed pairs (wantedMove projection pairs positions drag) := by
  intro pair hpair
  cases hp : positions[drag.index]? with
  | none =>
    rw [Gcmapview.wantedMove, hp]
    exact h pair hpair
  | some p =>
    rw [wantedMove_getElem? hp, wantedMove_getElem? hp, h pair hpair]
    by_cases hi : drag.index = pair.1 ∨ drag.index = pair.2
    · rw [if_pos ((hpairs.follows_iff hpair hi).mpr (.inl rfl)),
        if_pos ((hpairs.follows_iff hpair hi).mpr (.inr rfl))]
    · have hnot (j : ℕ) (hj : j = pair.1 ∨ j = pair.2) : ¬ Follows pairs drag.index j := by
        rintro (rfl | hmem | hmem)
        · exact hi hj
        · have heq := hpairs.eq_of_common hpair hmem hj (.inr rfl)
          exact hi (.inl (congrArg Prod.fst heq))
        · have heq := hpairs.eq_of_common hpair hmem hj (.inl rfl)
          exact hi (.inr (congrArg Prod.snd heq))
      rw [if_neg (hnot _ (.inl rfl)), if_neg (hnot _ (.inr rfl))]

variable [DecidableEq R]

/-- Closing the rings again after a move gives what was asked for exactly when the move
is free. -/
theorem foldlM_normalizePair_move (hpairs : PairsOf source pairs)
    (hlength : positions.length = source.length) (hclosed : Closed pairs positions)
    (hp : positions[drag.index]? = some p) :
    pairs.foldlM (normalizePair source)
        (positions.set drag.index (drag.move.target projection p)) =
        .ok (wantedMove projection pairs positions drag) ↔
      MovesFreely projection pairs source positions drag := by
  -- a drag of a ring end meets one pair, any other drag meets none
  by_cases hend : ∃ pair ∈ pairs, drag.index = pair.1 ∨ drag.index = pair.2
  · obtain ⟨pair, hpair, hi⟩ := hend
    have hother : ∀ other ∈ pairs, other ≠ pair →
        (positions.set drag.index (drag.move.target projection p))[other.1]? =
          (positions.set drag.index (drag.move.target projection p))[other.2]? := by
      intro other hmem hne
      have hnot : ¬ (drag.index = other.1 ∨ drag.index = other.2) :=
        fun hi' => hne (hpairs.eq_of_common hpair hmem hi hi')
      rw [not_or] at hnot
      rw [List.getElem?_set_ne hnot.1, List.getElem?_set_ne hnot.2]
      exact hclosed other hmem
    rw [foldlM_normalizePair_one hpairs.ends hpairs.apart (by rwa [List.length_set]) hpair hother,
      wantedMove_of_mem hpairs hlength hp hpair hi]
    have hfirst : positions[pair.1]? = some p := by
      rcases hi with hi | hi
      · rw [← hi, hp]
      · rw [hclosed pair hpair, ← hi, hp]
    have hlast : positions[pair.2]? = some p := by
      rw [← hclosed pair hpair, hfirst]
    have hfree : MovesFreely projection pairs source positions drag ↔
        drag.move.target projection p = p ∨
          match drag.move with
          | .horizontal _ _ => ∀ q, source[drag.index]? = some q → p.xy = q.xy
          | .vertical _ => drag.index = pair.1 := by
      constructor
      · exact fun h => h pair hpair hi p hp
      · intro h other hmem hi' p' hp'
        obtain rfl : other = pair := hpairs.eq_of_common hpair hmem hi hi'
        obtain rfl : p = p' := Option.some.inj (hp.symm.trans hp')
        exact h
    obtain ⟨-, -, -, horder, -⟩ := hpairs.ends pair hpair
    rw [hfree]
    -- the first end is copied over the last one, unless only the last one moved in XY
    rcases hi with hi | hi
    · rw [hi, normalizePair_first (hpairs.ends pair hpair) hfirst hlast]
      cases hmove : drag.move with
      | horizontal lng lat =>
        rw [← horizontal_xy_iff]
      | vertical nextZ => exact iff_of_true (.inl rfl) (.inr rfl)
    · rw [hi, normalizePair_last (hpairs.ends pair hpair) hfirst hlast]
      cases hmove : drag.move with
      | horizontal lng lat =>
        rw [ne_eq, horizontal_xy_iff]
        show _ ∨ _ ↔ _ ∨ ∀ q, source[pair.2]? = some q → p.xy = q.xy
        tauto
      | vertical nextZ =>
        have hsame : (Move.target projection (.vertical nextZ) p).xy = p.xy := rfl
        have hne : pair.2 ≠ pair.1 := by omega
        simp [hsame, hne]
  · have hno : ∀ pair ∈ pairs, drag.index ≠ pair.1 ∧ drag.index ≠ pair.2 :=
      fun pair hpair => not_or.mp fun hi => hend ⟨pair, hpair, hi⟩
    refine iff_of_true ?_ fun pair hpair hi => (hend ⟨pair, hpair, hi⟩).elim
    rw [wantedMove_of_no_pair hp hno]
    refine foldlM_normalizePair_agree hpairs.ends (by rwa [List.length_set]) ?_
    intro pair hpair
    rw [List.getElem?_set_ne (hno pair hpair).1, List.getElem?_set_ne (hno pair hpair).2]
    exact hclosed pair hpair

end Wanted

/-! ### Through the map and back -/

section Projection

variable {projection : Option (R × R ≃ R × R)}

theorem storageXY_displayXY (xy : R × R) :
    storageXY projection (displayXY projection xy) = xy := by
  cases projection with
  | none => rfl
  | some proj4 => exact proj4.symm_apply_apply xy

theorem sourcePositions_featureInDisplayCrs (feature : Feature R) :
    sourcePositions (featureInDisplayCrs projection feature) =
      (sourcePositions feature).map (transformPosition projection) := by
  cases projection with
  | none =>
    have hid : transformPosition (none : Option (R × R ≃ R × R)) = id := rfl
    rw [hid, List.map_id]
    rfl
  | some proj4 =>
    obtain ⟨geometry, members⟩ := feature
    rcases geometry with - | ⟨- | c, others⟩
    · rfl
    · rfl
    · exact Nested.leaves_map _ c

/-- Dragging a marker writes one position and leaves the others. -/
theorem updateDraggedPosition_eq {selected : Selection R} {index : ℕ} {p : Position R}
    (hmap : selected.mapPositions = selected.positions.map (transformPosition projection))
    (hp : selected.positions[index]? = some p) (lng lat : R) :
    updateDraggedPosition projection selected index lng lat =
      selected.positions.set index (Move.target projection (.horizontal lng lat) p) := by
  have hback (xy : R × R) (rest : List R) :
      (match rest, rest with
        | [], [] => (⟨xy.1, xy.2, []⟩ : Position R)
        | z :: _, [] => ⟨xy.1, xy.2, [z]⟩
        | _, z :: rest => ⟨xy.1, xy.2, z :: rest⟩) = ⟨xy.1, xy.2, rest⟩ := by
    cases rest <;> rfl
  have hlt : index < selected.positions.length := (List.getElem?_eq_some_iff.mp hp).1
  have hmarker : selected.mapPositions[index]? = some (transformPosition projection p) := by
    rw [hmap, List.getElem?_map, hp]
    rfl
  rw [updateDraggedPosition, hmarker]
  simp only [positionsFromMapPositions]
  refine List.ext_getElem? fun j => ?_
  rw [List.getElem?_mapIdx, List.getElem?_set, List.getElem?_set, hmap, List.length_map]
  by_cases hj : index = j
  · subst hj
    rw [if_pos rfl, if_pos hlt, if_pos rfl, if_pos hlt, Option.map_some, hp]
    exact congrArg some (hback _ p.rest)
  · rw [if_neg hj, if_neg hj, List.getElem?_map]
    cases hq : selected.positions[j]? with
    | none => rfl
    | some q =>
      have hxy : storageXY projection (transformPosition projection q).xy = q.xy :=
        storageXY_displayXY q.xy
      rw [Option.map_some, Option.map_some, Option.getD_some, hxy]
      exact congrArg some (hback q.xy q.rest)

variable [DecidableEq R]

/-- Either way a move writes one position. -/
theorem handlePointerMove_eq {selected : Selection R} {drag : Drag R} {p : Position R}
    (hmap : selected.mapPositions = selected.positions.map (transformPosition projection))
    (hp : selected.positions[drag.index]? = some p) :
    handlePointerMove projection selected drag =
      previewSelectedFeaturePositionChanges projection selected
        (selected.positions.set drag.index (drag.move.target projection p)) := by
  rw [handlePointerMove]
  cases hmove : drag.move with
  | horizontal lng lat =>
    simp only
    rw [updateDraggedPosition_eq hmap hp]
  | vertical nextZ =>
    simp only
    rw [hp]
    rfl

end Projection

/-! ### Whole runs -/

section Runs

variable [DecidableEq R] (projection : Option (R × R ≃ R × R)) (source : Feature R)
  (c : Coordinates R)

/-- The selection holds what the moves ask for: dragged vertices and their twins the
last value, the others what they had; the sequences closed in the source are closed, and a
commit sends the feature that the map shows, in the nesting of the source. -/
structure HoldsDrags (drags : List (Drag R)) (selected : Selection R) : Prop where
  positions : selected.positions =
    wantedPositions projection (closedPairs c 0) c.leaves drags
  closed : Closed (closedPairs c 0) selected.positions
  committed : ∃ feature d, featureWithUpdatedPositions source selected.positions = .ok feature ∧
    feature.coordinates = some d ∧ d.shape = c.shape ∧ d.leaves = selected.positions ∧
    selected.renderedFeature = featureInDisplayCrs projection feature

variable {projection source c}

omit [DecidableEq R] in
theorem wantedPositions_concat (pairs : List (ℕ × ℕ)) (positions : List (Position R))
    (drags : List (Drag R)) (drag : Drag R) :
    wantedPositions projection pairs positions (drags ++ [drag]) =
      wantedMove projection pairs (wantedPositions projection pairs positions drags) drag :=
  List.foldl_concat _ _ _ _

omit [DecidableEq R] in
theorem length_wantedPositions (pairs : List (ℕ × ℕ)) (positions : List (Position R))
    (drags : List (Drag R)) :
    (wantedPositions projection pairs positions drags).length = positions.length := by
  induction drags using List.reverseRecOn with
  | nil => rfl
  | append_singleton drags drag ih => rw [wantedPositions_concat, length_wantedMove, ih]

omit [DecidableEq R] in
/-- A vertex that neither is dragged nor has a twin that is stays. -/
theorem wantedPositions_undragged {pairs : List (ℕ × ℕ)} {positions : List (Position R)} {j : ℕ}
    {drags : List (Drag R)} (h : ∀ drag ∈ drags, ¬ Follows pairs drag.index j) :
    (wantedPositions projection pairs positions drags)[j]? = positions[j]? := by
  induction drags using List.reverseRecOn with
  | nil => rfl
  | append_singleton drags drag ih =>
    rw [wantedPositions_concat]
    have hlast : ¬ Follows pairs drag.index j := h drag (by simp)
    cases hp : (wantedPositions projection pairs positions drags)[drag.index]? with
    | none =>
      rw [wantedMove, hp]
      exact ih fun drag hdrag => h drag (List.mem_append_left _ hdrag)
    | some p =>
      rw [wantedMove_getElem? hp, if_neg hlast]
      exact ih fun drag hdrag => h drag (List.mem_append_left _ hdrag)

theorem pairsOf_closedPairs (hu : c.Uniform) : PairsOf c.leaves (closedPairs c 0) where
  ends := (closedPairs_spec hu 0).1
  apart := (closedPairs_spec hu 0).2

theorem normalizeClosedPositions_eq (hc : source.coordinates = some c)
    (edited : List (Position R)) :
    normalizeClosedPositions source edited =
      (closedPairs c 0).foldlM (normalizePair c.leaves) edited := by
  rw [normalizeClosedPositions, hc]
  simp only [sourcePositions, hc, collectClosedPositionPairs_eq, List.nil_append]

/-- Closed positions are committed as they are. -/
theorem committed_of_closed (hc : source.coordinates = some c) (hu : c.Uniform)
    {positions : List (Position R)} (hlength : positions.length = c.leaves.length)
    (hclosed : Closed (closedPairs c 0) positions) :
    normalizeClosedPositions source positions = .ok positions ∧
      ∃ feature d, featureWithUpdatedPositions source positions = .ok feature ∧
        feature.coordinates = some d ∧ d.shape = c.shape ∧ d.leaves = positions := by
  have hnormalized : normalizeClosedPositions source positions = .ok positions := by
    rw [normalizeClosedPositions_eq hc]
    exact foldlM_normalizePair_agree (pairsOf_closedPairs hu).ends hlength hclosed
  obtain ⟨geometry, d, -, hshape, hleaves, hok⟩ :=
    featureWithUpdatedPositions_ok hc hnormalized hlength
  exact ⟨hnormalized, _, d, hok, rfl, hshape, hleaves⟩

/-- Every selection shows the map positions of its feature, and keeps the source. -/
theorem dragAll_inv {drags : List (Drag R)} {selected : Selection R}
    (h : dragAll projection source drags = .ok selected) :
    selected.sourceFeature = source ∧
      selected.mapPositions = sourcePositions selected.renderedFeature := by
  induction drags using List.reverseRecOn generalizing selected with
  | nil =>
    cases h
    exact ⟨rfl, rfl⟩
  | append_singleton drags drag ih =>
    rw [dragAll, List.foldlM_append] at h
    obtain ⟨before, hbefore, h⟩ := Except.bind_eq_ok.mp h
    rw [List.foldlM_cons] at h
    obtain ⟨after, hafter, h⟩ := Except.bind_eq_ok.mp h
    cases h
    have hpreview {edited : List (Position R)} (hp : previewSelectedFeaturePositionChanges projection
        before edited = .ok selected) : selected.sourceFeature = source ∧
          selected.mapPositions = sourcePositions selected.renderedFeature := by
      obtain ⟨normalized, -, hp⟩ := Except.bind_eq_ok.mp hp
      obtain ⟨updated, -, hp⟩ := Except.bind_eq_ok.mp hp
      cases hp
      exact ⟨(ih hbefore).1, rfl⟩
    rw [handlePointerMove] at hafter
    split at hafter
    · exact hpreview hafter
    · split at hafter
      · cases hafter
        exact ih hbefore
      · exact hpreview hafter

theorem dragAll_concat (drags : List (Drag R)) (drag : Drag R) :
    dragAll projection source (drags ++ [drag]) =
      dragAll projection source drags >>= fun selected => handlePointerMove projection selected drag := by
  rw [dragAll, List.foldlM_append]
  refine congrArg (dragAll projection source drags >>= ·) (funext fun selected => ?_)
  rw [List.foldlM_cons]
  cases handlePointerMove projection selected drag <;> rfl

/-- A state that holds the moves so far shows every position on the map. -/
theorem HoldsDrags.mapPositions {drags : List (Drag R)} {selected : Selection R}
    (h : HoldsDrags projection source c drags selected)
    (hrun : dragAll projection source drags = .ok selected) :
    selected.mapPositions = selected.positions.map (transformPosition projection) := by
  obtain ⟨feature, d, -, hd, -, hleaves, hrendered⟩ := h.committed
  rw [(dragAll_inv hrun).2, hrendered, sourcePositions_featureInDisplayCrs, ← hleaves]
  simp only [sourcePositions, hd]

/-- A move from a state that holds the moves so far reaches one that holds this move too
exactly when it is free. -/
theorem HoldsDrags.step_iff (hc : source.coordinates = some c) (hu : c.Uniform)
    {drags : List (Drag R)} {selected : Selection R} {drag : Drag R}
    (h : HoldsDrags projection source c drags selected)
    (hrun : dragAll projection source drags = .ok selected)
    (hindex : drag.index < c.leaves.length) :
    (∃ next, dragAll projection source (drags ++ [drag]) = .ok next ∧
        HoldsDrags projection source c (drags ++ [drag]) next) ↔
      MovesFreely projection (closedPairs c 0) c.leaves
        (wantedPositions projection (closedPairs c 0) c.leaves drags) drag := by
  have hlength : selected.positions.length = c.leaves.length := by
    rw [h.positions, length_wantedPositions]
  obtain ⟨p, hp⟩ : ∃ p, selected.positions[drag.index]? = some p :=
    ⟨_, List.getElem?_eq_getElem (by omega)⟩
  have hpairs : PairsOf c.leaves (closedPairs c 0) := pairsOf_closedPairs hu
  have hsource : selected.sourceFeature = source := (dragAll_inv hrun).1
  -- the pointer moves one position, the preview closes the rings again
  have hmove : dragAll projection source (drags ++ [drag]) =
      previewSelectedFeaturePositionChanges projection selected
        (selected.positions.set drag.index (drag.move.target projection p)) := by
    rw [dragAll_concat, hrun]
    exact handlePointerMove_eq (h.mapPositions hrun) hp
  have hnormalize : normalizeClosedPositions source
      (selected.positions.set drag.index (drag.move.target projection p)) =
        .ok (wantedMove projection (closedPairs c 0) selected.positions drag) ↔
      MovesFreely projection (closedPairs c 0) c.leaves selected.positions drag := by
    rw [normalizeClosedPositions_eq hc]
    exact foldlM_normalizePair_move hpairs hlength h.closed hp
  have hwanted : wantedMove projection (closedPairs c 0) selected.positions drag =
      wantedPositions projection (closedPairs c 0) c.leaves (drags ++ [drag]) := by
    rw [wantedPositions_concat, h.positions]
  rw [← h.positions, ← hnormalize, hmove, previewSelectedFeaturePositionChanges, hsource, hwanted]
  constructor
  · rintro ⟨next, hok, hnext⟩
    obtain ⟨normalized, hnormalized, hok⟩ := Except.bind_eq_ok.mp hok
    obtain ⟨updated, -, hok⟩ := Except.bind_eq_ok.mp hok
    cases hok
    rw [hnormalized, ← hnext.positions]
  · intro hnormalized
    rw [hnormalized]
    have hclosed : Closed (closedPairs c 0)
        (wantedPositions projection (closedPairs c 0) c.leaves (drags ++ [drag])) := by
      rw [← hwanted]
      exact h.closed.wantedMove hpairs
    obtain ⟨-, feature, d, hfeature, hd, hshape, hleaves⟩ :=
      committed_of_closed hc hu (length_wantedPositions _ _ _) hclosed
    rw [Except.ok_bind, hfeature]
    exact ⟨_, rfl, rfl, hclosed, feature, d, hfeature, hd, hshape, hleaves, rfl⟩

/-- Before any move: the selection holds when the closed sequences of the source close in
all coordinates. -/
theorem holdsDrags_select_iff (hc : source.coordinates = some c) (hu : c.Uniform) :
    HoldsDrags projection source c [] (select projection source) ↔
      Closed (closedPairs c 0) c.leaves := by
  have hpositions : (select projection source).positions = c.leaves := by
    simp only [select, sourcePositions, hc]
  constructor
  · intro h
    rw [← hpositions]
    exact h.closed
  · intro hclosed
    obtain ⟨hnormalized, feature, d, hfeature, hd, hshape, hleaves⟩ :=
      committed_of_closed hc hu rfl hclosed
    refine ⟨hpositions, by rwa [hpositions], feature, d, ?_, hd, hshape, ?_, ?_⟩
    · rw [hpositions, hfeature]
    · rw [hpositions, hleaves]
    · -- committing the positions of the source gives the source
      obtain ⟨geometry, e, hgeometry, heshape, heleaves, hok⟩ :=
        featureWithUpdatedPositions_ok hc hnormalized rfl
      have hsame : feature = source := by
        obtain rfl := Except.ok.inj (hfeature.symm.trans hok)
        have he : e = c := Nested.eq_of_shape_of_leaves heshape heleaves
        have hcoordinates : geometry.coordinates = some c := by
          rw [Feature.coordinates, hgeometry] at hc
          exact hc
        rw [he, ← hcoordinates, ← hgeometry]
      rw [hsame]
      rfl

/-- The runs in which every state holds what the moves so far asked for: the closed
sequences of the source close in all coordinates, and no move hits a ring that the editor
gets wrong. -/
theorem dragAll_exact_iff (projection : Option (R × R ≃ R × R)) {source : Feature R}
    {c : Coordinates R} (hc : source.coordinates = some c) (hu : c.Uniform)
    {drags : List (Drag R)} (hindex : ∀ drag ∈ drags, drag.index < c.leaves.length) :
    (∀ done, done <+: drags → ∃ selected, dragAll projection source done = .ok selected ∧
        HoldsDrags projection source c done selected) ↔
      Closed (closedPairs c 0) c.leaves ∧
        ∀ done drag, done ++ [drag] <+: drags →
          MovesFreely projection (closedPairs c 0) c.leaves
            (wantedPositions projection (closedPairs c 0) c.leaves done) drag := by
  have hmem {done : List (Drag R)} {drag : Drag R} (h : done ++ [drag] <+: drags) :
      drag.index < c.leaves.length := hindex drag (h.subset (by simp))
  constructor
  · intro h
    constructor
    · obtain ⟨selected, hrun, hholds⟩ := h [] List.nil_prefix
      cases hrun
      exact (holdsDrags_select_iff hc hu).mp hholds
    · intro done drag hprefix
      obtain ⟨selected, hrun, hholds⟩ := h done ((List.prefix_append _ _).trans hprefix)
      exact (hholds.step_iff hc hu hrun (hmem hprefix)).mp (h _ hprefix)
  · rintro ⟨hclosed, hfree⟩ done hdone
    induction done using List.reverseRecOn with
    | nil => exact ⟨_, rfl, (holdsDrags_select_iff hc hu).mpr hclosed⟩
    | append_singleton done drag ih =>
      obtain ⟨selected, hrun, hholds⟩ := ih ((List.prefix_append _ _).trans hdone)
      exact (hholds.step_iff hc hu hrun (hmem hdone)).mpr (hfree done drag hdone)

end Runs

/-- A ring of three corners. -/
def triangleCoordinates : Coordinates ℚ :=
  .node [.node ([⟨0, 0, []⟩, ⟨4, 0, []⟩, ⟨0, 4, []⟩, ⟨0, 0, []⟩].map .leaf)]

def triangle : Feature ℚ :=
  { geometry := some
      { coordinates := some triangleCoordinates
        members := [("type", .str "Polygon")] }
    members := [("id", .str "t1")] }

/-- The corner where the ring closes is dragged twice, and the second move is refused. -/
theorem dragAll_corner_refused :
    dragAll none triangle [⟨0, .horizontal 1 1⟩, ⟨0, .horizontal 2 2⟩] =
      .error "Lukkede ringer må beholde samme første og siste punkt." :=
  rfl

/-- The same ring with heights. -/
def slopeCoordinates : Coordinates ℚ :=
  .node [.node ([⟨0, 0, [2]⟩, ⟨4, 0, [2]⟩, ⟨0, 4, [3]⟩, ⟨0, 0, [2]⟩].map .leaf)]

def slope : Feature ℚ :=
  { geometry := some
      { coordinates := some slopeCoordinates
        members := [("type", .str "Polygon")] }
    members := [("id", .str "s1")] }

/-- The corner where the ring closes, over the map and up, and another corner twice. -/
def slopeDrags : List (Drag ℚ) :=
  [⟨0, .horizontal 1 1⟩, ⟨0, .vertical 7⟩, ⟨1, .horizontal 5 1⟩, ⟨1, .horizontal 6 2⟩]

/-- They are accepted, and the ring stays closed. -/
theorem dragAll_exact_iff_slope :
    ∃ selected, dragAll none slope slopeDrags = .ok selected ∧
      selected.positions = [⟨1, 1, [7]⟩, ⟨6, 2, [2]⟩, ⟨0, 4, [3]⟩, ⟨1, 1, [7]⟩] ∧
      HoldsDrags none slope slopeCoordinates slopeDrags selected := by
  have hpairs : closedPairs slopeCoordinates 0 = [(0, 3)] := rfl
  have huniform : slopeCoordinates.Uniform := by
    rintro cs (- | ⟨-, - | ⟨-, hcs⟩⟩)
    · exact .inr ⟨[_], rfl⟩
    · exact .inl ⟨_, rfl⟩
    · cases hcs
  have hsource : slope.coordinates = some slopeCoordinates := rfl
  have hindex : ∀ drag ∈ slopeDrags, drag.index < slopeCoordinates.leaves.length := by
    decide
  have hclosed : Closed (closedPairs slopeCoordinates 0) slopeCoordinates.leaves := by
    rw [hpairs]
    intro pair hpair
    obtain rfl := List.mem_singleton.mp hpair
    rfl
  refine Exists.imp (fun selected h => ⟨h.1, h.2.positions, h.2⟩)
    ((dragAll_exact_iff none hsource huniform hindex).mpr ⟨hclosed, ?_⟩ slopeDrags List.prefix_rfl)
  rw [hpairs]
  intro done drag hprefix pair hpair hi p hp
  obtain rfl := List.mem_singleton.mp hpair
  rcases done with _ | ⟨d, _ | ⟨d', done⟩⟩
  · -- over the map, from its place in the source
    obtain rfl : drag = ⟨0, .horizontal 1 1⟩ := (List.cons_prefix_cons.mp hprefix).1
    refine .inr fun q hq => ?_
    cases hp
    cases hq
    rfl
  · obtain rfl : drag = ⟨0, .vertical 7⟩ :=
      (List.cons_prefix_cons.mp (List.cons_prefix_cons.mp hprefix).2).1
    exact .inr rfl
  · have hother : drag ∈ [⟨1, .horizontal 5 1⟩, ⟨1, .horizontal 6 2⟩] :=
      (List.cons_prefix_cons.mp (List.cons_prefix_cons.mp hprefix).2).2.subset (by simp)
    have hone : drag.index = 1 := by
      rcases List.mem_pair.mp hother with rfl | rfl <;> rfl
    omega

end Gcmapview
