/-
Values in arrays of any nesting.

`Nested α` is a leaf or an array of nested values; `leaves` reads it from left to
right.  The lemmas say how `leaves` follows `map`, and `Nested.induction` is the
induction that a proof about every child uses.
-/
import Mathlib.Data.List.Basic

universe u v

inductive Nested (α : Type u) where
  | leaf (a : α)
  | node (children : List (Nested α))

namespace Nested

variable {α : Type u} {β : Type v}

/-- Induction with the hypothesis at every child. -/
@[elab_as_elim]
theorem induction {P : Nested α → Prop} (leaf : ∀ a, P (.leaf a))
    (node : ∀ children : List (Nested α), (∀ c ∈ children, P c) → P (.node children)) :
    ∀ c, P c
  | .leaf a => leaf a
  | .node children => node children fun c _ => induction leaf node c

mutual

/-- The leaves, from left to right. -/
def leaves : Nested α → List α
  | .leaf a => [a]
  | .node children => leavesAll children

def leavesAll : List (Nested α) → List α
  | [] => []
  | c :: cs => leaves c ++ leavesAll cs

end

mutual

/-- The same nesting over other leaves. -/
def map (f : α → β) : Nested α → Nested β
  | .leaf a => .leaf (f a)
  | .node children => .node (mapAll f children)

def mapAll (f : α → β) : List (Nested α) → List (Nested β)
  | [] => []
  | c :: cs => map f c :: mapAll f cs

end

mutual

/-- The children of every array. -/
def nodes : Nested α → List (List (Nested α))
  | .leaf _ => []
  | .node children => children :: nodesAll children

def nodesAll : List (Nested α) → List (List (Nested α))
  | [] => []
  | c :: cs => nodes c ++ nodesAll cs

end

theorem leavesAll_eq (cs : List (Nested α)) : leavesAll cs = cs.flatMap leaves := by
  induction cs with
  | nil => rfl
  | cons c cs ih => rw [leavesAll, ih, List.flatMap_cons]

theorem mapAll_eq (f : α → β) (cs : List (Nested α)) : mapAll f cs = cs.map (map f) := by
  induction cs with
  | nil => rfl
  | cons c cs ih => rw [mapAll, ih, List.map_cons]

theorem nodesAll_eq (cs : List (Nested α)) : nodesAll cs = cs.flatMap nodes := by
  induction cs with
  | nil => rfl
  | cons c cs ih => rw [nodesAll, ih, List.flatMap_cons]

@[simp] theorem leaves_leaf (a : α) : (leaf a).leaves = [a] := rfl

@[simp] theorem leaves_node (cs : List (Nested α)) :
    (node cs).leaves = cs.flatMap leaves := leavesAll_eq cs

@[simp] theorem map_leaf (f : α → β) (a : α) : (leaf a).map f = leaf (f a) := rfl

@[simp] theorem map_node (f : α → β) (cs : List (Nested α)) :
    (node cs).map f = node (cs.map (map f)) := congrArg node (mapAll_eq f cs)

@[simp] theorem nodes_leaf (a : α) : (leaf a).nodes = [] := rfl

@[simp] theorem nodes_node (cs : List (Nested α)) :
    (node cs).nodes = cs :: cs.flatMap nodes := congrArg (cs :: ·) (nodesAll_eq cs)

theorem leaves_map (f : α → β) (c : Nested α) : (c.map f).leaves = c.leaves.map f := by
  induction c using Nested.induction with
  | leaf a => rfl
  | node cs ih =>
    rw [map_node, leaves_node, leaves_node, List.flatMap_map, List.map_flatMap]
    exact List.flatMap_congr ih

/-- Two maps agree on a nested value exactly when they agree on its leaves. -/
theorem map_eq_map_iff {f g : α → β} (c : Nested α) :
    c.map f = c.map g ↔ ∀ a ∈ c.leaves, f a = g a := by
  constructor
  · intro h
    have hl : c.leaves.map f = c.leaves.map g := by rw [← leaves_map, h, leaves_map]
    exact List.map_inj_left.mp hl
  · intro h
    induction c using Nested.induction with
    | leaf a => rw [map_leaf, map_leaf, h a (by simp)]
    | node cs ih =>
      rw [map_node, map_node, node.injEq]
      refine List.map_congr_left fun c hc => ih c hc fun a ha => h a ?_
      rw [leaves_node]
      exact List.mem_flatMap.mpr ⟨c, hc, ha⟩

theorem map_id' (c : Nested α) : c.map (fun a => a) = c := by
  induction c using Nested.induction with
  | leaf a => rfl
  | node cs ih =>
    rw [map_node, List.map_congr_left ih, List.map_id']

theorem map_eq_self_iff {f : α → α} (c : Nested α) :
    c.map f = c ↔ ∀ a ∈ c.leaves, f a = a := by
  have h := map_eq_map_iff (f := f) (g := fun a => a) c
  rwa [map_id'] at h

theorem map_map {γ : Type*} (f : α → β) (g : β → γ) (c : Nested α) :
    (c.map f).map g = c.map fun a => g (f a) := by
  induction c using Nested.induction with
  | leaf a => rfl
  | node cs ih =>
    rw [map_node, map_node, map_node, List.map_map, node.injEq]
    exact List.map_congr_left ih

/-! ### Shape -/

/-- The nesting without the leaves. -/
def shape (c : Nested α) : Nested Unit := c.map fun _ => ()

theorem shape_map (f : α → β) (c : Nested α) : (c.map f).shape = c.shape := map_map f _ c

theorem length_leaves_of_shape {c : Nested α} {d : Nested β} (h : c.shape = d.shape) :
    c.leaves.length = d.leaves.length := by
  have hl := congrArg (fun s => s.leaves.length) h
  simpa only [shape, leaves_map, List.length_map] using hl

/-- The shape and the leaves make the value. -/
theorem eq_of_shape_of_leaves {c d : Nested α} (hs : c.shape = d.shape)
    (hl : c.leaves = d.leaves) : c = d := by
  induction c using Nested.induction generalizing d with
  | leaf a =>
    cases d with
    | leaf b => simpa using hl
    | node ds => simp [shape] at hs
  | node cs ih =>
    cases d with
    | leaf b => simp [shape] at hs
    | node ds =>
      simp only [shape, map_node, node.injEq] at hs
      rw [leaves_node, leaves_node] at hl
      rw [node.injEq]
      induction cs generalizing ds with
      | nil => exact (List.map_eq_nil_iff.mp hs.symm).symm
      | cons c cs ihs =>
        cases ds with
        | nil => simp at hs
        | cons d ds =>
          rw [List.map_cons, List.map_cons, List.cons.injEq] at hs
          rw [List.flatMap_cons, List.flatMap_cons] at hl
          -- the first children take equally many leaves
          obtain ⟨hl₁, hl₂⟩ := List.append_inj hl (length_leaves_of_shape hs.1)
          have h₁ : c = d := ih c List.mem_cons_self hs.1 hl₁
          have h₂ : cs = ds :=
            ihs (fun c hc => ih c (List.mem_cons_of_mem _ hc)) ds hl₂ hs.2
          rw [h₁, h₂]

/-! ### Arrays of one kind -/

/-- The children of every array are all leaves or all arrays. -/
def Uniform (c : Nested α) : Prop :=
  ∀ cs ∈ c.nodes, (∃ as : List α, cs = as.map leaf) ∨ ∃ css : List (List (Nested α)), cs = css.map node

theorem Uniform.child {cs : List (Nested α)} (h : (node cs).Uniform) {c : Nested α}
    (hc : c ∈ cs) : c.Uniform := by
  intro ds hds
  refine h ds ?_
  rw [nodes_node]
  exact List.mem_cons_of_mem _ (List.mem_flatMap.mpr ⟨c, hc, hds⟩)

theorem Uniform.children {cs : List (Nested α)} (h : (node cs).Uniform) :
    (∃ as : List α, cs = as.map leaf) ∨ ∃ css : List (List (Nested α)), cs = css.map node :=
  h cs (by rw [nodes_node]; exact List.mem_cons_self)

theorem nodes_map (f : α → β) (c : Nested α) :
    (c.map f).nodes = c.nodes.map (List.map (Nested.map f)) := by
  induction c using Nested.induction with
  | leaf a => rfl
  | node cs ih =>
    rw [map_node, nodes_node, nodes_node, List.map_cons, List.flatMap_map, List.map_flatMap,
      List.flatMap_congr ih]

theorem Uniform.map {c : Nested α} (h : c.Uniform) (f : α → β) : (c.map f).Uniform := by
  intro cs hcs
  rw [nodes_map] at hcs
  obtain ⟨ds, hds, rfl⟩ := List.mem_map.mp hcs
  rcases h ds hds with ⟨as, rfl⟩ | ⟨css, rfl⟩
  · exact .inl ⟨as.map f, by simp⟩
  · exact .inr ⟨css.map (List.map (Nested.map f)), by simp⟩

/-- Induction over uniform values: a leaf, a sequence of leaves, an array of
arrays. -/
@[elab_as_elim]
theorem Uniform.induction {P : Nested α → Prop} {c : Nested α} (h : c.Uniform)
    (leaf : ∀ a, P (.leaf a)) (sequence : ∀ as : List α, P (.node (as.map .leaf)))
    (arrays : ∀ css : List (List (Nested α)),
      (∀ cs ∈ css, Uniform (.node cs)) → (∀ cs ∈ css, P (.node cs)) →
        P (.node (css.map .node))) : P c := by
  induction c using Nested.induction with
  | leaf a => exact leaf a
  | node cs ih =>
    rcases h.children with ⟨as, rfl⟩ | ⟨css, rfl⟩
    · exact sequence as
    · have hmem {cs : List (Nested α)} (hcs : cs ∈ css) :
          Nested.node cs ∈ css.map Nested.node := List.mem_map_of_mem hcs
      refine arrays css (fun cs hcs => h.child (hmem hcs)) fun cs hcs => ?_
      exact ih _ (hmem hcs) (h.child (hmem hcs))

end Nested
