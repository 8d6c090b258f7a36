/-
The batches of `import_features` (`gcimport/importer.py`): grouping by
collection and `_chunked`.

* `flatten_chunked` — the chunks of a list are the list;
* `groupByCollection_eq` — the groups are those of the collections;
* `mem_batches` — what one batch is like;
* `perm_batches`, `filter_batches` — the batches hold every feature once, those
  of one collection in their order.
-/
import Topogdb.Lib.Grouping
import Topogdb.Gcimport.ImportFeatures

namespace Gcimport

open Python Grouping

/-! ### Chunks -/

section Chunks

variable {α : Type} {items : List α} {size : ℕ}

theorem chunked_cons (hsize : 0 < size) (hne : items ≠ []) :
    chunked items size = items.take size :: chunked (items.drop size) size := by
  have hpos : 0 < items.length := List.length_pos_of_ne_nil hne
  have hcount : (items.length + size - 1) / size
      = ((items.drop size).length + size - 1) / size + 1 := by
    rw [List.length_drop]
    rcases Nat.lt_or_ge items.length size with hlt | hge
    · have h1 : items.length + size - 1 = (items.length - 1) + size := by omega
      have h2 : (items.length - 1) / size = 0 := Nat.div_eq_of_lt (by omega)
      have h3 : (items.length - size + size - 1) / size = 0 := Nat.div_eq_of_lt (by omega)
      rw [h1, Nat.add_div_right _ hsize, h2, h3]
    · have h1 : items.length + size - 1 = (items.length - 1) + size := by omega
      have h2 : items.length - size + size - 1 = items.length - 1 := by omega
      rw [h1, Nat.add_div_right _ hsize, h2]
  rw [chunked]
  rw [hcount, List.range_succ_eq_map, List.map_cons, List.map_map, Nat.zero_mul, List.drop_zero]
  congr 1
  refine List.map_congr_left fun k _ => ?_
  simp only [Function.comp_apply, List.drop_drop]
  rw [show (k + 1) * size = size + k * size by rw [Nat.add_mul, one_mul, Nat.add_comm]]

theorem chunked_nil (hsize : 0 < size) : chunked ([] : List α) size = [] := by
  have hcount : (([] : List α).length + size - 1) / size = 0 :=
    Nat.div_eq_of_lt (by simp only [List.length_nil]; omega)
  rw [chunked, hcount]
  rfl

/-- Chunks are not empty and not too long, and together they are the list. -/
theorem chunked_spec (items : List α) (hsize : 0 < size) :
    (∀ chunk ∈ chunked items size, chunk ≠ [] ∧ chunk.length ≤ size) ∧
      (chunked items size).flatten = items := by
  induction hn : items.length using Nat.strong_induction_on generalizing items with
  | _ n ih =>
    by_cases hne : items = []
    · subst hne
      rw [chunked_nil hsize]
      exact ⟨fun _ h => absurd h List.not_mem_nil, rfl⟩
    · have hpos : 0 < items.length := List.length_pos_of_ne_nil hne
      obtain ⟨hchunks, hflatten⟩ := ih (items.drop size).length
        (by rw [List.length_drop]; omega) (items.drop size) rfl
      rw [chunked_cons hsize hne]
      constructor
      · intro chunk hmem
        rcases List.mem_cons.mp hmem with rfl | hmem
        · refine ⟨fun htake => ?_, List.length_take_le _ _⟩
          have hlen := congrArg List.length htake
          rw [List.length_take, List.length_nil] at hlen
          omega
        · exact hchunks chunk hmem
      · rw [List.flatten_cons, hflatten, List.take_append_drop]

end Chunks

/-! ### Collections -/

/-- The features with their positions. -/
def indexed (features : List PreparedFeature) : Chunk := features.zipIdx.map fun x => (x.2, x.1)

/-- The features with their positions, under their collections. -/
def keyed (features : List PreparedFeature) : List (String × (ℕ × PreparedFeature)) :=
  (indexed features).map fun x => (x.2.collection, x)

theorem map_snd_keyed (features : List PreparedFeature) :
    (keyed features).map Prod.snd = indexed features := by
  rw [keyed, List.map_map]
  exact List.map_id _

theorem collection_of_mem_keyed {features : List PreparedFeature} :
    ∀ x ∈ keyed features, x.2.2.collection = x.1 := by
  intro x hx
  obtain ⟨y, -, rfl⟩ := List.mem_map.mp hx
  rfl

theorem groupByCollection_eq (features : List PreparedFeature) :
    groupByCollection features = grouped (keyed features) := by
  rw [← foldl_setdefault, keyed, indexed, List.map_map, List.foldl_map]
  rfl

/-! ### Batches -/

variable {features : List PreparedFeature} {size : ℕ}

/-- **What a batch is like.** -/
theorem mem_batches (hsize : 0 < size) {chunk : Chunk} (h : chunk ∈ batches features size) :
    chunk ≠ [] ∧ chunk.length ≤ size ∧ ∀ x ∈ chunk, x.2.collection = chunkCollection chunk := by
  obtain ⟨e, he, hchunk⟩ := List.mem_flatMap.mp h
  obtain ⟨hchunks, hflatten⟩ := chunked_spec e.2 hsize
  obtain ⟨hne, hlen⟩ := hchunks chunk hchunk
  have hcollection : ∀ x ∈ chunk, x.2.collection = e.1 := by
    intro x hx
    have hxe : x ∈ e.2 := hflatten ▸ List.mem_flatten_of_mem hchunk hx
    rw [groupByCollection_eq] at he
    obtain ⟨k, -, rfl⟩ := List.mem_map.mp he
    exact collection_of_mem_keyed (k, x) (KeyedMerge.mem_ofKey.mp hxe)
  refine ⟨hne, hlen, fun x hx => ?_⟩
  obtain ⟨first, tail, rfl⟩ := List.exists_cons_of_ne_nil hne
  rw [hcollection x hx]
  exact (hcollection first List.mem_cons_self).symm

theorem flatten_batches (hsize : 0 < size) :
    (batches features size).flatten = (grouped (keyed features)).flatMap Prod.snd := by
  rw [batches, groupByCollection_eq, List.flatten_eq_flatMap, List.flatMap_assoc]
  refine List.flatMap_congr fun e _ => ?_
  rw [← List.flatten_eq_flatMap, (chunked_spec e.2 hsize).2]

/-- **The batches hold every feature once.** -/
theorem perm_batches (hsize : 0 < size) : (batches features size).flatten.Perm (indexed features) := by
  rw [flatten_batches hsize, ← map_snd_keyed]
  exact perm_grouped _

/-- **The features of one collection keep their order.** -/
theorem filter_batches (hsize : 0 < size) (collection : String) :
    (batches features size).flatten.filter (fun x => x.2.collection = collection) =
      (indexed features).filter fun x => x.2.collection = collection := by
  rw [flatten_batches hsize, filter_grouped collection_of_mem_keyed, KeyedMerge.ofKey, keyed,
    List.filter_map, List.map_map]
  exact List.map_id _

/-- The batches hold every feature, and none of them is empty. -/
theorem batches_spec (features : List PreparedFeature) (hsize : 0 < size) :
    (∀ chunk ∈ batches features size, chunk ≠ []) ∧
      ((batches features size).map List.length).sum = features.length := by
  refine ⟨fun chunk hchunk => (mem_batches hsize hchunk).1, ?_⟩
  rw [← List.length_flatten, (perm_batches hsize).length_eq, indexed, List.length_map,
    List.length_zipIdx]

end Gcimport
