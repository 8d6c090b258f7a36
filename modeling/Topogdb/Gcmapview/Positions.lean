/-
The positions of a feature and their closed sequences.

* `closedPairs` — the ends that `collectClosedPositionPairs` finds, and
  `closedPairs_spec`: they are apart from each other and agree in XY;
* `featureWithUpdatedPositions_ok` — the feature that a commit sends has the
  nesting of the source and the normalised positions.
-/
import Topogdb.Gcmapview.Editing

namespace Gcmapview

variable {R : Type}

/-! ### Positions in the plane -/

/-- The position without what follows x and y. -/
def Position.xy (p : Position R) : R × R := (p.x, p.y)

/-! ### Putting coordinates back together -/

mutual

/-- With enough positions left, the same nesting over the next of them. -/
theorem replaceCoordinatesFromPositions_ok (positions : List (Position R)) (c : Coordinates R) (n : ℕ)
    (h : n + c.leaves.length ≤ positions.length) :
    ∃ d : Coordinates R, replaceCoordinatesFromPositions positions c n =
        .ok (d, n + c.leaves.length) ∧
      d.shape = c.shape ∧ d.leaves = (positions.drop n).take c.leaves.length := by
  cases c with
  | leaf p =>
    have hn : n < positions.length := h
    refine ⟨.leaf positions[n], ?_, rfl, ?_⟩
    · simp [replaceCoordinatesFromPositions, hn]
    · rw [List.drop_eq_getElem_cons hn]
      rfl
  | node children =>
    rw [Nested.leaves_node] at h ⊢
    obtain ⟨ds, hds, hshape, hleaves⟩ := replaceChildren_ok positions children n h
    refine ⟨.node ds, ?_, ?_, ?_⟩
    · simp [replaceCoordinatesFromPositions, hds, bind, Except.bind]
    · unfold Nested.shape at hshape ⊢
      rw [Nested.map_node, Nested.map_node]
      exact congrArg Nested.node hshape
    · rw [Nested.leaves_node, hleaves]

theorem replaceChildren_ok (positions : List (Position R)) (cs : List (Coordinates R)) (n : ℕ)
    (h : n + (cs.flatMap Nested.leaves).length ≤ positions.length) :
    ∃ ds : List (Coordinates R), replaceChildren positions cs n =
        .ok (ds, n + (cs.flatMap Nested.leaves).length) ∧
      ds.map Nested.shape = cs.map Nested.shape ∧
      ds.flatMap Nested.leaves = (positions.drop n).take (cs.flatMap Nested.leaves).length := by
  cases cs with
  | nil => exact ⟨[], rfl, rfl, by simp⟩
  | cons c cs =>
    rw [List.flatMap_cons, List.length_append] at h ⊢
    obtain ⟨d, hd, hdshape, hdleaves⟩ := replaceCoordinatesFromPositions_ok positions c n (by omega)
    obtain ⟨ds, hds, hdsshape, hdsleaves⟩ :=
      replaceChildren_ok positions cs (n + c.leaves.length) (by omega)
    refine ⟨d :: ds, ?_, ?_, ?_⟩
    · rw [replaceChildren]
      simp only [hd, hds, bind, Except.bind, Nat.add_assoc]
    · rw [List.map_cons, List.map_cons, hdshape, hdsshape]
    · rw [List.flatMap_cons, hdleaves, hdsleaves, ← List.drop_drop, ← List.take_add]

end

/-- The coordinates put back together from positions of the same nesting. -/
theorem replaceCoordinatesFromPositions_leaves {c d : Coordinates R} (h : d.shape = c.shape) :
    replaceCoordinatesFromPositions d.leaves c 0 = .ok (d, d.leaves.length) := by
  have hlength : d.leaves.length = c.leaves.length := Nested.length_leaves_of_shape h
  obtain ⟨e, he, heshape, heleaves⟩ :=
    replaceCoordinatesFromPositions_ok d.leaves c 0 (by omega)
  rw [List.drop_zero, ← hlength, List.take_length] at heleaves
  have hed : e = d := Nested.eq_of_shape_of_leaves (heshape.trans h.symm) heleaves
  rw [he, hed, hlength, Nat.zero_add]

variable [DecidableEq R]

theorem positionsEqualXY_iff {p q : Position R} : positionsEqualXY p q = true ↔ p.xy = q.xy := by
  simp [positionsEqualXY, Position.xy]

theorem positionsEqualXY_congr {p q p' q' : Position R} (hp : p'.xy = p.xy) (hq : q'.xy = q.xy) :
    positionsEqualXY p' q' = positionsEqualXY p q := by
  rw [Bool.eq_iff_iff, positionsEqualXY_iff, positionsEqualXY_iff, hp, hq]

/-! ### The closed pairs -/

/-- A sequence is empty, one position, or has two ends. -/
theorem sequence_cases {α : Type} (sequence : List α) :
    sequence = [] ∨ (∃ p, sequence = [p]) ∨
      ∃ first inner last, sequence = first :: inner ++ [last] := by
  cases sequence with
  | nil => exact .inl rfl
  | cons first rest =>
    rcases List.eq_nil_or_concat rest with rfl | ⟨inner, last, rfl⟩
    · exact .inr (.inl ⟨first, rfl⟩)
    · exact .inr (.inr ⟨first, inner, last, by simp⟩)

mutual

/-- What `collectClosedPositionPairs` adds from an index on. -/
def closedPairs : Coordinates R → ℕ → List (ℕ × ℕ)
  | .leaf _, _ => []
  | .node children, start => closedPair children start ++ closedPairsAll children start

def closedPairsAll : List (Coordinates R) → ℕ → List (ℕ × ℕ)
  | [], _ => []
  | c :: cs, start => closedPairs c start ++ closedPairsAll cs (start + c.leaves.length)

end

mutual

theorem collectClosedPositionPairs_eq (c : Coordinates R) (start : ℕ) (pairs : List (ℕ × ℕ)) :
    collectClosedPositionPairs c start pairs =
      (start + c.leaves.length, pairs ++ closedPairs c start) := by
  cases c with
  | leaf p => simp [collectClosedPositionPairs, closedPairs]
  | node children =>
    rw [collectClosedPositionPairs, collectChildPairs_eq children, closedPairs,
      Nested.leaves_node, List.append_assoc]

theorem collectChildPairs_eq (cs : List (Coordinates R)) (start : ℕ) (pairs : List (ℕ × ℕ)) :
    collectChildPairs cs start pairs =
      (start + (cs.flatMap Nested.leaves).length, pairs ++ closedPairsAll cs start) := by
  cases cs with
  | nil => simp [collectChildPairs, closedPairsAll]
  | cons c cs =>
    rw [collectChildPairs, collectClosedPositionPairs_eq c, collectChildPairs_eq cs,
      closedPairsAll, List.flatMap_cons, List.length_append, List.append_assoc, Nat.add_assoc]

end

theorem closedPairsAll_leaves (as : List (Position R)) (start : ℕ) :
    closedPairsAll (as.map .leaf) start = [] := by
  induction as generalizing start with
  | nil => rfl
  | cons a as ih => exact ih (start + 1)

theorem closedPair_ends (first : Position R) (inner : List (Position R)) (last : Position R)
    (start : ℕ) :
    closedPair ((first :: inner ++ [last]).map .leaf) start =
      if positionsEqualXY first last then [(start, start + inner.length + 1)] else [] := by
  have hlast : ((first :: inner ++ [last]).map Nested.leaf).getLast? = some (.leaf last) := by
    rw [List.map_append]
    exact List.getLast?_concat
  unfold closedPair
  rw [hlast]
  simp [Nat.add_assoc]

theorem closedPair_arrays (css : List (List (Coordinates R))) (start : ℕ) :
    closedPair (css.map .node) start = [] := by
  cases css <;> rfl

/-- The pair holds two places of a list that starts at an index, in their order, with
positions that agree in XY. -/
def Ends (leaves : List (Position R)) (start : ℕ) (pair : ℕ × ℕ) : Prop :=
  ∃ p q, start ≤ pair.1 ∧ pair.1 < pair.2 ∧ leaves[pair.1 - start]? = some p ∧
    leaves[pair.2 - start]? = some q ∧ p.xy = q.xy

omit [DecidableEq R] in
theorem Ends.lt {leaves : List (Position R)} {start : ℕ} {pair : ℕ × ℕ}
    (h : Ends leaves start pair) : pair.2 < start + leaves.length := by
  obtain ⟨p, q, hstart, hlt, -, hq, -⟩ := h
  obtain ⟨hbound, -⟩ := List.getElem?_eq_some_iff.mp hq
  omega

omit [DecidableEq R] in
theorem Ends.append {leaves : List (Position R)} {start : ℕ} {pair : ℕ × ℕ}
    (h : Ends leaves start pair) (others : List (Position R)) : Ends (leaves ++ others) start pair := by
  obtain ⟨p, q, hstart, hlt, hp, hq, hxy⟩ := h
  exact ⟨p, q, hstart, hlt, List.getElem?_append_left (List.getElem?_eq_some_iff.mp hp).1 ▸ hp,
    List.getElem?_append_left (List.getElem?_eq_some_iff.mp hq).1 ▸ hq, hxy⟩

omit [DecidableEq R] in
theorem Ends.after {leaves others : List (Position R)} {start : ℕ} {pair : ℕ × ℕ}
    (h : Ends others (start + leaves.length) pair) : Ends (leaves ++ others) start pair := by
  obtain ⟨p, q, hstart, hlt, hp, hq, hxy⟩ := h
  refine ⟨p, q, by omega, hlt, ?_, ?_, hxy⟩
  · rw [List.getElem?_append_right (by omega), Nat.sub_sub, hp]
  · rw [List.getElem?_append_right (by omega), Nat.sub_sub, hq]

/-- The pairs have no place in common. -/
def Apart (a b : ℕ × ℕ) : Prop := a.1 ≠ b.1 ∧ a.1 ≠ b.2 ∧ a.2 ≠ b.1 ∧ a.2 ≠ b.2

/-- The closed pairs are ends of sequences, each of its own. -/
theorem closedPairs_spec {c : Coordinates R} (h : c.Uniform) :
    ∀ start, (∀ pair ∈ closedPairs c start, Ends c.leaves start pair) ∧
      (closedPairs c start).Pairwise Apart := by
  refine Nested.Uniform.induction h ?leaf ?sequence ?arrays
  case leaf =>
    intro a start
    exact ⟨by simp [closedPairs], List.Pairwise.nil⟩
  case sequence =>
    intro as start
    have hleaves : (Nested.node (as.map Nested.leaf)).leaves = as := by
      rw [Nested.leaves_node, List.flatMap_map]
      exact List.flatMap_singleton' as
    rw [hleaves, closedPairs, closedPairsAll_leaves, List.append_nil]
    rcases sequence_cases as with rfl | ⟨p, rfl⟩ | ⟨first, inner, last, rfl⟩
    · exact ⟨by simp [closedPair], List.Pairwise.nil⟩
    · have hnone : closedPair ([p].map Nested.leaf) start = [] := by simp [closedPair]
      rw [hnone]
      exact ⟨by simp, List.Pairwise.nil⟩
    · rw [closedPair_ends]
      split
      · next hxy =>
        refine ⟨?_, List.pairwise_singleton _ _⟩
        intro pair hpair
        obtain rfl := List.mem_singleton.mp hpair
        refine ⟨first, last, le_rfl, by omega, by simp, ?_, positionsEqualXY_iff.mp hxy⟩
        show (first :: inner ++ [last])[start + inner.length + 1 - start]? = some last
        rw [show start + inner.length + 1 - start = (first :: inner).length by
          rw [List.length_cons]; omega]
        exact List.getElem?_concat_length
      · exact ⟨by simp, List.Pairwise.nil⟩
  case arrays =>
    intro css huniform ih start
    rw [closedPairs, closedPair_arrays, List.nil_append, Nested.leaves_node]
    -- the pairs of a child end before those of the next one begin
    induction css generalizing start with
    | nil => exact ⟨by simp [closedPairsAll], List.Pairwise.nil⟩
    | cons cs css ihc =>
      obtain ⟨hends, hapart⟩ := ih cs List.mem_cons_self start
      obtain ⟨hends', hapart'⟩ := ihc (fun ds hds => huniform ds (List.mem_cons_of_mem _ hds))
        (fun ds hds => ih ds (List.mem_cons_of_mem _ hds)) (start + (Nested.node cs).leaves.length)
      rw [List.map_cons, closedPairsAll, List.flatMap_cons]
      constructor
      · intro pair hpair
        rcases List.mem_append.mp hpair with hpair | hpair
        · exact (hends pair hpair).append _
        · exact (hends' pair hpair).after
      · refine List.pairwise_append.mpr ⟨hapart, hapart', ?_⟩
        intro a ha b hb
        have hlt := (hends a ha).lt
        obtain ⟨-, -, -, ha', -⟩ := hends a ha
        obtain ⟨-, -, hb, hb', -⟩ := hends' b hb
        unfold Apart
        omega

/-! ### Committing -/

/-- The source with the edited positions in the nesting of its own. -/
theorem featureWithUpdatedPositions_ok {feature : Feature R} {c : Coordinates R}
    (hc : feature.coordinates = some c) {edited normalized : List (Position R)}
    (hnormalized : normalizeClosedPositions feature edited = .ok normalized)
    (hlength : normalized.length = c.leaves.length) :
    ∃ (geometry : FeatureGeometry R) (d : Coordinates R), feature.geometry = some geometry ∧
      d.shape = c.shape ∧ d.leaves = normalized ∧
      featureWithUpdatedPositions feature edited =
        .ok { feature with geometry := some { geometry with coordinates := some d } } := by
  obtain ⟨geometry, hgeometry, -⟩ := Option.bind_eq_some_iff.mp hc
  obtain ⟨d, hd, hshape, hleaves⟩ :=
    replaceCoordinatesFromPositions_ok normalized c 0 (by omega)
  rw [List.drop_zero, ← hlength, List.take_length] at hleaves
  refine ⟨geometry, d, hgeometry, hshape, hleaves, ?_⟩
  unfold featureWithUpdatedPositions
  rw [hgeometry, hc]
  simp only [hnormalized, hd, bind, Except.bind, Nat.zero_add, hlength, ne_eq, not_true_eq_false,
    if_false]

end Gcmapview
