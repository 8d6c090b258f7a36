/-
The identifiers that `import_features` returns.

A chunk carries the positions of its features, and the rows of the summary are
filled at these positions.

* `batchOutcome_eq_ok` — which answers give identifiers, and which ones;
* `runBatches_rows` — the rows after all chunks;
* `getElem?_fillRows` — each holds what was given for its feature.
-/
import Topogdb.Lib.Related
import Topogdb.Gcimport.Batches

namespace Gcimport

open Python

variable {env : Env} {answer : ℕ → Request → PostResult} {apiUrl : String}

/-! ### Answers -/

/-- The service took the batch, and named these identifiers. -/
def Answers (env : Env) (answer : PostResult) (identifiers : List String) : Prop :=
  ∃ statusCode body items, answer = .response statusCode (some body) ∧
    200 ≤ statusCode ∧ statusCode ≤ 299 ∧ body.get? "features" = some (.arr items) ∧
    List.Forall₂ (fun item identifier =>
      ∃ id, item.get? "id" = some (.str id) ∧ env.uuid id = some identifier) items identifiers

theorem parseUpstreamId_eq_ok {collection featureId : String} {item : Json} {identifier : String} :
    parseUpstreamId env collection featureId item = .ok identifier ↔
      ∃ id, item.get? "id" = some (.str id) ∧ env.uuid id = some identifier := by
  rw [parseUpstreamId.eq_def]
  simp only
  split
  · next id hid =>
    rw [hid]
    cases huuid : env.uuid id <;> simp [huuid]
  · next hid =>
    constructor
    · rintro ⟨⟩
    · rintro ⟨id, h, -⟩
      exact absurd h (hid id)

/-- **Which answers give identifiers**, as many as features. -/
theorem batchOutcome_eq_ok {first : PreparedFeature} {chunk : Chunk} {result : PostResult}
    {identifiers : List String} : batchOutcome env first chunk result = .ok identifiers ↔
      Answers env result identifiers ∧ identifiers.length = chunk.length := by
  have hitems : ∀ items : List Json, items.length = chunk.length →
      (((chunk.zip items).mapM fun x =>
        parseUpstreamId env x.1.2.collection x.1.2.featureId x.2) = .ok identifiers ↔
      List.Forall₂ (fun item identifier =>
        ∃ id, item.get? "id" = some (.str id) ∧ env.uuid id = some identifier) items identifiers) := by
    intro items hlen
    rw [Except.mapM_eq_ok_iff]
    simp only [parseUpstreamId_eq_ok]
    rw [← List.forall₂_map_left_iff (f := Prod.snd) (R := fun (item : Json) identifier =>
      ∃ id, item.get? "id" = some (.str id) ∧ env.uuid id = some identifier),
      List.map_snd_zip (by omega)]
  constructor
  · intro h
    have hlength := (Except.meets_iff.mp (batchOutcome_meets env first chunk result)).2 _ h
    rw [batchOutcome.eq_def] at h
    simp only at h
    split at h
    · cases h
    · next statusCode body =>
      split_ifs at h with hmode hstatus
      split at h
      · cases h
      · next responseBody =>
        split at h
        · next items hfeatures =>
          split_ifs at h with hlen
          rw [not_not] at hlen
          exact ⟨⟨statusCode, responseBody, items, rfl, hstatus.1, hstatus.2, hfeatures,
            (hitems items hlen).mp h⟩, hlength⟩
        · cases h
  · rintro ⟨⟨statusCode, body, items, rfl, hlow, hhigh, hfeatures, hids⟩, hlength⟩
    have hlen : items.length = chunk.length := hids.length_eq.trans hlength
    have hmode : ¬ (statusCode = 404 ∨ statusCode = 405 ∨ statusCode = 415 ∨ statusCode = 501) := by
      omega
    rw [batchOutcome, if_neg hmode, if_neg (not_not.mpr ⟨hlow, hhigh⟩)]
    simp only [hfeatures]
    rw [if_neg (not_not.mpr hlen)]
    exact (hitems items hlen).mpr hids

theorem chunkOutcome_eq_ok {k : ℕ} {chunk : Chunk} (hne : chunk ≠ []) {identifiers : List String} :
    chunkOutcome env answer apiUrl k chunk = .ok identifiers ↔
      Answers env (answer k (chunkRequest apiUrl chunk)) identifiers ∧
        identifiers.length = chunk.length := by
  obtain ⟨first, tail, rfl⟩ := List.exists_cons_of_ne_nil hne
  exact batchOutcome_eq_ok

/-! ### Rows -/

/-- Put the identifiers into the rows of their features. -/
def fillRows (rows : List (Option ImportedFeature)) (xs : List ((ℕ × PreparedFeature) × String)) :
    List (Option ImportedFeature) :=
  xs.foldl (fun rows x => rows.set x.1.1 (some { collection := x.1.2.collection, id := x.2 })) rows

theorem fillRows_append (rows : List (Option ImportedFeature))
    (xs ys : List ((ℕ × PreparedFeature) × String)) :
    fillRows rows (xs ++ ys) = fillRows (fillRows rows xs) ys := List.foldl_append

theorem length_fillRows (rows : List (Option ImportedFeature))
    (xs : List ((ℕ × PreparedFeature) × String)) : (fillRows rows xs).length = rows.length := by
  induction xs generalizing rows with
  | nil => rfl
  | cons x xs ih =>
    show (fillRows (rows.set x.1.1 _) xs).length = rows.length
    rw [ih, List.length_set]

/-- The rows of other features stay. -/
theorem getElem?_fillRows_of_notMem {rows : List (Option ImportedFeature)}
    {xs : List ((ℕ × PreparedFeature) × String)} {j : ℕ} (h : j ∉ xs.map fun x => x.1.1) :
    (fillRows rows xs)[j]? = rows[j]? := by
  induction xs generalizing rows with
  | nil => rfl
  | cons x xs ih =>
    rw [List.map_cons, List.mem_cons, not_or] at h
    show (fillRows (rows.set x.1.1 _) xs)[j]? = rows[j]?
    rw [ih h.2, List.getElem?_set_ne (Ne.symm h.1)]

/-- **Each row holds what was given for its feature.** -/
theorem getElem?_fillRows {rows : List (Option ImportedFeature)}
    {xs : List ((ℕ × PreparedFeature) × String)} (hnodup : (xs.map fun x => x.1.1).Nodup)
    {x : (ℕ × PreparedFeature) × String} (hx : x ∈ xs) (hlt : x.1.1 < rows.length) :
    (fillRows rows xs)[x.1.1]? = some (some ⟨x.1.2.collection, x.2⟩) := by
  induction xs generalizing rows with
  | nil => exact absurd hx List.not_mem_nil
  | cons y xs ih =>
    rw [List.map_cons, List.nodup_cons] at hnodup
    show (fillRows (rows.set y.1.1 _) xs)[x.1.1]? = _
    rcases List.mem_cons.mp hx with rfl | hx
    · rw [getElem?_fillRows_of_notMem hnodup.1, List.getElem?_set_self hlt]
    · exact ih hnodup.2 hx (by rw [List.length_set]; exact hlt)

/-- The features of the chunks, with the identifiers of their answers. -/
def answered (identifiers : ℕ → List String) (k : ℕ) (chunks : List Chunk) :
    List ((ℕ × PreparedFeature) × String) :=
  (chunks.zipIdx k).flatMap fun x => x.1.zip (identifiers x.2)

theorem answered_cons (identifiers : ℕ → List String) (k : ℕ) (chunk : Chunk)
    (chunks : List Chunk) : answered identifiers k (chunk :: chunks) =
      chunk.zip (identifiers k) ++ answered identifiers (k + 1) chunks := by
  rw [answered, List.zipIdx_cons, List.flatMap_cons]
  rfl

theorem map_fst_answered {identifiers : ℕ → List String} {k : ℕ} {chunks : List Chunk}
    (h : ∀ j chunk, chunks[j]? = some chunk → (identifiers (k + j)).length = chunk.length) :
    (answered identifiers k chunks).map Prod.fst = chunks.flatten := by
  induction chunks generalizing k with
  | nil => rfl
  | cons chunk chunks ih =>
    obtain ⟨hlen, hrest⟩ := List.forall_getElem?_cons
      (P := fun j (c : Chunk) => (identifiers j).length = c.length) h
    rw [answered_cons, List.map_append, List.flatten_cons,
      List.map_fst_zip (by rw [hlen]), ih hrest]

theorem recordImported_eq_ok {imported : List (Option ImportedFeature)} {chunk : Chunk}
    {identifiers : List String} (h : identifiers.length = chunk.length) :
    recordImported imported chunk identifiers = .ok (fillRows imported (chunk.zip identifiers)) := by
  rw [recordImported, if_neg (not_not.mpr h.symm)]
  rfl

/-- **The rows after all chunks.** -/
theorem runBatches_rows {identifiers : ℕ → List String} (chunks : List Chunk) (k : ℕ)
    (imported : List (Option ImportedFeature))
    (h : ∀ j chunk, chunks[j]? = some chunk →
      chunkOutcome env answer apiUrl (k + j) chunk = .ok (identifiers (k + j))) :
    (runBatches env answer apiUrl k chunks imported).result =
      .ok (fillRows imported (answered identifiers k chunks)) := by
  induction chunks generalizing k imported with
  | nil => rfl
  | cons chunk chunks ih =>
    obtain ⟨hout, hrest⟩ := List.forall_getElem?_cons
      (P := fun j c => chunkOutcome env answer apiUrl j c = .ok (identifiers j)) h
    have hhead : (chunkRun env answer apiUrl k imported chunk).result =
          .ok (fillRows imported (chunk.zip (identifiers k))) ∧
        (chunkRun env answer apiUrl k imported chunk).requests.length = 1 := by
      cases chunk with
      | nil => cases hout
      | cons x tail =>
        have hout' : outcomeAt env answer apiUrl k x.2 (x :: tail) = .ok (identifiers k) := hout
        have hlen := (batchOutcome_eq_ok.mp hout').2
        simp only [chunkRun, hout', recordImported_eq_ok hlen]
        exact ⟨trivial, rfl⟩
    rw [runBatches]
    simp only [hhead.1, hhead.2, ih (k + 1) _ hrest]
    rw [answered_cons, fillRows_append]

end Gcimport
