/-
What one write can do.

Everything later rests on two facts about a write to the row `ref`:

* `ends_create`, `ends_replace`, `ends_update`, `ends_upsert` — no other row and
  no link of another source changes, a new link has an existing target
  (`Wrote`), and the row is there afterwards;
* `ends_delete` — the row and the links from it go, the links to it stay
  (`Deleted`).
-/
import Topogdb.Geocomponents.Structure
import Topogdb.Geocomponents.Write
import Topogdb.Lib.Raises

namespace Geocomponents

open Prog

variable {Geometry : Type}

/-! ### Lists of link writes -/

theorem row?_applyAll_links (ls : List Link) (f : Link → Write Geometry)
    (hf : ∀ l, f l = .link l ∨ f l = .unlink l) (db : Db Geometry) (r : Ref) :
    (Store.applyAll (ls.map f) db).row? r = db.row? r := by
  refine Store.applyAll_invariant (P := fun db' : Db Geometry => db'.row? r = db.row? r) ?_ rfl
  intro w hw db' hdb'
  obtain ⟨l, -, rfl⟩ := List.mem_map.mp hw
  rcases hf l with h | h
  · rw [h, row?_link, hdb']
  · rw [h, row?_unlink, hdb']

theorem mem_applyAll_link (ls : List Link) (db : Db Geometry) (l : Link) :
    l ∈ (Store.applyAll (ls.map fun l => (Write.link l : Write Geometry)) db).association
      ↔ l ∈ db.association ∨ l ∈ ls := by
  induction ls generalizing db with
  | nil => simp
  | cons l' ls ih =>
    rw [List.map_cons, Store.applyAll_cons, ih, association_link, Finset.mem_insert, List.mem_cons]
    tauto

theorem mem_applyAll_unlink (ls : List Link) (db : Db Geometry) (l : Link) :
    l ∈ (Store.applyAll (ls.map fun l => (Write.unlink l : Write Geometry)) db).association
      ↔ l ∈ db.association ∧ l ∉ ls := by
  induction ls generalizing db with
  | nil => simp
  | cons l' ls ih =>
    rw [List.map_cons, Store.applyAll_cons, ih, association_unlink, Finset.mem_erase, List.mem_cons]
    tauto

/-! ### The link statements -/

/-- Only links from `ref` change, and a new one is good. -/
structure LinkFrame (ref : Ref) (good : Link → Prop) (db db' : Db Geometry) : Prop where
  rows : ∀ r, db'.row? r = db.row? r
  kept : ∀ l, l.source ≠ ref → (l ∈ db'.association ↔ l ∈ db.association)
  new : ∀ l ∈ db'.association, l ∈ db.association ∨ good l

namespace LinkFrame

variable {ref : Ref} {good : Link → Prop} {db db' db'' : Db Geometry}

theorem refl : LinkFrame ref good db db :=
  ⟨fun _ => rfl, fun _ _ => Iff.rfl, fun _ hl => Or.inl hl⟩

theorem trans (h : LinkFrame ref good db db') (h' : LinkFrame ref good db' db'') :
    LinkFrame ref good db db'' where
  rows r := (h'.rows r).trans (h.rows r)
  kept l hl := (h'.kept l hl).trans (h.kept l hl)
  new l hl := by
    rcases h'.new l hl with hmem | hgood
    · exact h.new l hmem
    · exact Or.inr hgood

end LinkFrame

theorem ends_deleteLinks (ref : Ref) (hasProperty : String → Bool) (db : Db Geometry) :
    Ends (deleteLinks ref hasProperty) db fun _ db' =>
      (∀ r, db'.row? r = db.row? r) ∧ ∀ l, l ∈ db'.association ↔
        l ∈ db.association ∧ ¬ (l.source = ref ∧ hasProperty l.property = true) := by
  refine ends_query fun b ws h => ?_
  cases h
  refine ⟨fun r => row?_applyAll_links _ _ (fun _ => Or.inr rfl) db r, fun l => ?_⟩
  rw [mem_applyAll_unlink, Ordered.mem_list, Finset.mem_filter]
  tauto

theorem deleteLinks_frame (ref : Ref) (hasProperty : String → Bool) (good : Link → Prop)
    (db : Db Geometry) :
    Ends (deleteLinks ref hasProperty) db fun _ db' => LinkFrame ref good db db' := by
  refine (ends_deleteLinks ref hasProperty db).mono fun _ db' h => ⟨h.1, fun l hl => ?_, ?_⟩
  · rw [h.2]
    tauto
  · intro l hl
    exact Or.inl ((h.2 l).mp hl).1

theorem insertLinks_frame (ref : Ref) (property : String) (ids : List Uuid) {good : Link → Prop}
    (hgood : ∀ id ∈ ids, good ⟨ref, property, id⟩) (db : Db Geometry) :
    Ends (insertLinks ref property ids) db fun _ db' =>
      LinkFrame ref good db db' ∧ db.association ⊆ db'.association := by
  refine ends_query fun b ws h => ?_
  split at h
  · cases h
  · cases h
    have hmap : (ids.map fun id => (Write.link ⟨ref, property, id⟩ : Write Geometry))
        = (ids.map fun id => (⟨ref, property, id⟩ : Link)).map Write.link := by
      rw [List.map_map]
      rfl
    rw [hmap]
    refine ⟨⟨fun r => row?_applyAll_links _ _ (fun _ => Or.inl rfl) db r, ?_, ?_⟩, ?_⟩
    · intro l hl
      rw [mem_applyAll_link, List.mem_map]
      constructor
      · rintro (hmem | ⟨id, -, rfl⟩)
        · exact hmem
        · exact absurd rfl hl
      · exact Or.inl
    · intro l hl
      rw [mem_applyAll_link, List.mem_map] at hl
      rcases hl with hmem | ⟨id, hid, rfl⟩
      · exact Or.inl hmem
      · exact Or.inr (hgood id hid)
    · intro l hl
      exact (mem_applyAll_link _ db l).mpr (Or.inl hl)

/-- What the validated links of a write may add. -/
def LinkedBy (ref : Ref) (links : List (CollectionRolePlan × List Uuid)) (l : Link) : Prop :=
  l.source = ref ∧ ∃ x ∈ links, l.property = x.1.property ∧ l.targetId ∈ x.2

theorem linkWrites_frame (ref : Ref) (feature : Option Json)
    (links : List (CollectionRolePlan × List Uuid)) (db : Db Geometry) :
    Ends (linkWrites ref feature links) db fun _ db' =>
      LinkFrame ref (LinkedBy ref links) db db' ∧ db.association ⊆ db'.association := by
  refine ends_forM (I := fun db' => LinkFrame ref (LinkedBy ref links) db db' ∧
    db.association ⊆ db'.association) ?_ ⟨LinkFrame.refl, Finset.Subset.refl _⟩
  rintro x hx db' ⟨hframe, hgrows⟩
  split
  · refine (insertLinks_frame ref x.1.property x.2 (fun id hid => ?_) db').mono
      fun _ db'' h => ⟨hframe.trans h.1, hgrows.trans h.2⟩
    exact ⟨rfl, x, hx, rfl, hid⟩
  · exact ends_pure ⟨hframe, hgrows⟩

theorem linkWritesPatch_frame (ref : Ref) (feature : Option Json)
    (links : List (CollectionRolePlan × List Uuid)) (db : Db Geometry) :
    Ends (linkWritesPatch ref feature links) db fun _ db' =>
      LinkFrame ref (LinkedBy ref links) db db' := by
  refine ends_forM (I := fun db' => LinkFrame ref (LinkedBy ref links) db db') ?_ LinkFrame.refl
  intro x hx db' hframe
  split
  · refine (deleteLinks_frame ref _ (LinkedBy ref links) db').bind fun _ db₁ h₁ => ?_
    refine (insertLinks_frame ref x.1.property x.2 (fun id hid => ?_) db₁).mono
      fun _ db₂ h₂ => (hframe.trans h₁).trans h₂.1
    exact ⟨rfl, x, hx, rfl, hid⟩
  · exact ends_pure hframe

/-! ### Validation -/

/-- The targets of validated links are there. -/
theorem ends_linkValidation (env : Env) (roles : List CollectionRolePlan) (feature : Option Json)
    (db : Db Geometry) :
    Ends (linkValidation env roles feature) db fun links db' => db' = db ∧
      ∀ x ∈ links, x.1 ∈ roles ∧ ∀ id ∈ x.2, (db.row? ⟨x.1.targetCollection, id⟩).isSome := by
  have htarget : ∀ (role : CollectionRolePlan) (elem : Json),
      Ends (linkTarget env role elem) db fun id db' =>
        db' = db ∧ (db.row? ⟨role.targetCollection, id⟩).isSome := by
    intro role elem
    refine (ends_ofExcept (Q := fun _ db' => db' = db) fun _ _ => rfl).bind ?_
    rintro _ db' rfl
    cases ((Sql.arrowText env.jsonText (some elem) role.oiLeaf).bind Uuid.uuidIn) with
    | none => exact ends_raise
    | some id =>
      refine (ends_select (Q := fun found db'' =>
        db'' = db' ∧ found = (db'.row? ⟨role.targetCollection, id⟩).isSome) ?_).bind ?_
      · rintro _ ⟨⟩
        exact ⟨rfl, rfl⟩
      · rintro found db'' ⟨rfl, rfl⟩
        split
        · next hfound => exact ends_pure ⟨rfl, hfound⟩
        · exact ends_raise
  have hids : ∀ role : CollectionRolePlan, Ends (linkIds env feature role) db fun ids db' =>
      db' = db ∧ ∀ id ∈ ids, (db.row? ⟨role.targetCollection, id⟩).isSome := by
    intro role
    unfold linkIds
    simp only
    split
    · split
      · exact ends_pure ⟨rfl, fun id hid => absurd hid List.not_mem_nil⟩
      · refine (ends_mapM fun elem _ => htarget role elem).bind ?_
        rintro ids db' ⟨rfl, hids⟩
        split
        · exact ends_pure ⟨rfl, hids⟩
        · exact ends_raise
      · exact ends_raise
    · exact ends_pure ⟨rfl, fun id hid => absurd hid List.not_mem_nil⟩
  refine ends_mapM (P := fun x : CollectionRolePlan × List Uuid => x.1 ∈ roles ∧
    ∀ id ∈ x.2, (db.row? ⟨x.1.targetCollection, id⟩).isSome) fun role hrole => ?_
  refine (hids role).bind ?_
  rintro ids db' ⟨rfl, h⟩
  exact ends_pure ⟨rfl, hrole, h⟩

/-! ### The write functions -/

variable (gis : PostGIS Geometry) (env : Env) {plan : SchemaPlan} {coll : CollectionPlan}

/-- The row `ref` was written, with links of its own to rows that are there. -/
structure Wrote (plan : SchemaPlan) (ref : Ref) (db db' : Db Geometry) : Prop where
  rows : ∀ r, r ≠ ref → db'.row? r = db.row? r
  present : (db'.row? ref).isSome
  kept : ∀ l, l.source ≠ ref → (l ∈ db'.association ↔ l ∈ db.association)
  new : ∀ l ∈ db'.association, l ∈ db.association ∨
    ∃ t, plan.target? l = some t ∧ (db'.row? t).isSome

/-- The row `ref` is gone with its links, and no other row or link is. -/
structure Deleted (coll : CollectionPlan) (ref : Ref) (db db' : Db Geometry) : Prop where
  rows : ∀ r, db'.row? r = if r = ref then none else db.row? r
  links : ∀ l, l ∈ db'.association ↔
    l ∈ db.association ∧ ¬ (coll.roles ≠ [] ∧ l.source = ref)

/-- A validated link has a declared target that is there. -/
theorem target_of_linkedBy (hcoll : coll ∈ plan.collections) {db : Db Geometry} {id : Uuid}
    {links : List (CollectionRolePlan × List Uuid)}
    (hlinks : ∀ x ∈ links, x.1 ∈ coll.roles ∧
      ∀ id ∈ x.2, (db.row? ⟨x.1.targetCollection, id⟩).isSome) {l : Link}
    (h : LinkedBy ⟨coll.collectionName, id⟩ links l) :
    ∃ t, plan.target? l = some t ∧ (db.row? t).isSome := by
  obtain ⟨hsource, x, hx, hproperty, hid⟩ := h
  obtain ⟨hrole, htargets⟩ := hlinks x hx
  refine ⟨⟨x.1.targetCollection, l.targetId⟩, ?_, htargets l.targetId hid⟩
  rw [SchemaPlan.target?, hsource, hproperty, SchemaPlan.targetCollection?_eq hcoll hrole]
  rfl

/-- Rows are written, then links whose targets were there before. -/
theorem wrote_of_frame {ref : Ref} {good : Link → Prop} {db db₁ db' : Db Geometry}
    (hrows : ∀ r, r ≠ ref → db₁.row? r = db.row? r) (hpresent : (db₁.row? ref).isSome)
    (hlinks : db₁.association = db.association) (hframe : LinkFrame ref good db₁ db')
    (hgood : ∀ l, good l → ∃ t, plan.target? l = some t ∧ (db.row? t).isSome) :
    Wrote plan ref db db' where
  rows r hr := (hframe.rows r).trans (hrows r hr)
  present := by
    rw [hframe.rows]
    exact hpresent
  kept l hl := by rw [hframe.kept l hl, hlinks]
  new l hl := by
    rcases hframe.new l hl with hmem | hl'
    · exact Or.inl (hlinks ▸ hmem)
    · obtain ⟨t, ht, hrow⟩ := hgood l hl'
      refine Or.inr ⟨t, ht, ?_⟩
      rw [hframe.rows]
      by_cases htr : t = ref
      · exact htr ▸ hpresent
      · rw [hrows t htr]
        exact hrow

/-- `_create` adds a row and links. -/
theorem ends_create (hcoll : coll ∈ plan.collections) (n : ℕ) (feature : Option Json)
    (db : Db Geometry) :
    Ends (create gis env n coll feature) db fun id db' =>
      db.row? ⟨coll.collectionName, id⟩ = none ∧
        Wrote plan ⟨coll.collectionName, id⟩ db db' ∧ db.association ⊆ db'.association := by
  refine (ends_ofExcept (Q := fun _ db' => db' = db) fun _ _ => rfl).bind ?_
  rintro _ db rfl
  refine (ends_linkValidation env coll.roles feature db).bind ?_
  rintro links db ⟨rfl, hlinks⟩
  refine (ends_ofExcept (Q := fun _ db' => db' = db) fun _ _ => rfl).bind ?_
  rintro _ db rfl
  let ref : Ref := ⟨coll.collectionName, (givenId env coll feature).getD (env.genRandomUuid n)⟩
  have hinsert : Ends ((insertRow gis env n coll ref.id feature).mapError
      (duplicateIdentifier env coll feature)) db fun _ db₁ =>
        db.row? ref = none ∧ (∀ r, r ≠ ref → db₁.row? r = db.row? r) ∧ (db₁.row? ref).isSome ∧
          db₁.association = db.association := by
    refine Ends.mapError _ (ends_query fun _ ws h => ?_)
    obtain ⟨values, -, h⟩ := Except.bind_eq_ok.mp h
    split at h
    · cases h
    · next habsent =>
      cases h
      refine ⟨Option.not_isSome_iff_eq_none.mp habsent, fun r hr => ?_, ?_, rfl⟩
      · exact (row?_insertRow _ _ db r).trans (if_neg hr)
      · exact Option.isSome_iff_exists.mpr ⟨_, (row?_insertRow ref _ db ref).trans (if_pos rfl)⟩
  refine hinsert.bind ?_
  rintro _ db₁ ⟨habsent, hrows, hpresent, hassoc⟩
  refine (linkWrites_frame ref feature links db₁).bind fun _ db₂ h => ends_pure ?_
  refine ⟨habsent, wrote_of_frame hrows hpresent hassoc h.1 fun l hl => ?_, hassoc ▸ h.2⟩
  exact target_of_linkedBy hcoll hlinks hl

/-- The update statement finds the row and changes no other. -/
theorem ends_updateRow (fid : Option Uuid) (values : Except SqlError (Assignments Geometry))
    (db : Db Geometry) :
    Ends (updateRow env coll fid values) db fun found db' =>
      db'.association = db.association ∧
        ((found = false ∧ db' = db) ∨
          (found = true ∧ ∃ id, fid = some id ∧ (db.row? ⟨coll.collectionName, id⟩).isSome ∧
            (∀ r, r ≠ ⟨coll.collectionName, id⟩ → db'.row? r = db.row? r) ∧
              (db'.row? ⟨coll.collectionName, id⟩).isSome)) := by
  refine ends_query fun found ws h => ?_
  cases fid with
  | none =>
    cases h
    exact ⟨rfl, Or.inl ⟨rfl, rfl⟩⟩
  | some id =>
    simp only [Db.finds_self] at h
    split at h
    · next hrow =>
      obtain ⟨values, -, h⟩ := Except.bind_eq_ok.mp h
      cases h
      refine ⟨association_updateRow _ _ db, Or.inr ⟨rfl, id, rfl, hrow, fun r hr => ?_, ?_⟩⟩
      · exact (row?_updateRow _ _ db r).trans (if_neg hr)
      · rw [Store.applyAll_cons, Store.applyAll_nil, row?_updateRow, if_pos rfl, Option.isSome_map]
        exact hrow
    · cases h
      exact ⟨rfl, Or.inl ⟨rfl, rfl⟩⟩

/-- What a writer that answers whether it found the row has done. -/
def WroteIfFound (plan : SchemaPlan) (coll : CollectionPlan) (fid : Option Uuid)
    (db : Db Geometry) (found : Bool) (db' : Db Geometry) : Prop :=
  (found = false ∧ db' = db) ∨
    (found = true ∧ ∃ id, fid = some id ∧ (db.row? ⟨coll.collectionName, id⟩).isSome ∧
      Wrote plan ⟨coll.collectionName, id⟩ db db')

theorem ends_writeExisting (hcoll : coll ∈ plan.collections) (guardedByPresence : Bool)
    (fid : Option Uuid) (feature : Option Json)
    (values : Except SqlError (Assignments Geometry))
    {writeLinks : Ref → List (CollectionRolePlan × List Uuid) → SqlProg Geometry SqlError Unit}
    (hwrite : ∀ ref links db, Ends (writeLinks ref links) db fun _ db' =>
      LinkFrame ref (LinkedBy ref links) db db') (db : Db Geometry) :
    Ends (writeExisting gis env guardedByPresence coll fid feature values writeLinks) db
      (WroteIfFound plan coll fid db) := by
  refine (ends_ofExcept (Q := fun _ db' => db' = db) fun _ _ => rfl).bind ?_
  rintro _ db rfl
  refine (ends_linkValidation env coll.roles feature db).bind ?_
  rintro links db ⟨rfl, hlinks⟩
  refine (ends_updateRow env fid values db).bind ?_
  rintro found db₁ ⟨hassoc, ⟨rfl, rfl⟩ | ⟨rfl, id, rfl, hrow, hrows, hpresent⟩⟩
  · exact ends_pure (Or.inl ⟨rfl, rfl⟩)
  · refine (hwrite _ links db₁).bind fun _ db₂ hframe => ends_pure ?_
    refine Or.inr ⟨rfl, id, rfl, hrow, wrote_of_frame hrows hpresent hassoc hframe fun l hl => ?_⟩
    exact target_of_linkedBy hcoll hlinks hl

/-- `_replace` writes the row and its links anew. -/
theorem ends_replace (hcoll : coll ∈ plan.collections) (fid : Option Uuid)
    (feature : Option Json) (db : Db Geometry) :
    Ends (replace gis env coll fid feature) db (WroteIfFound plan coll fid db) := by
  refine ends_writeExisting gis env hcoll false fid feature _ (fun ref links db => ?_) db
  refine (deleteLinks_frame ref _ (LinkedBy ref links) db).bind fun _ db₁ h₁ => ?_
  exact (linkWrites_frame ref feature links db₁).mono fun _ db₂ h₂ => h₁.trans h₂.1

/-- `_update` writes parts of the row and of its links. -/
theorem ends_update (hcoll : coll ∈ plan.collections) (fid : Option Uuid)
    (feature : Option Json) (db : Db Geometry) :
    Ends (update gis env coll fid feature) db (WroteIfFound plan coll fid db) :=
  ends_writeExisting gis env hcoll true fid feature _
    (fun ref links db => linkWritesPatch_frame ref feature links db) db

/-- `_delete` removes the row and its links if the row is there, and else only
its links. -/
theorem ends_delete (fid : Option Uuid) (db : Db Geometry) :
    Ends (delete coll fid) db fun found db' =>
      (fid = none ∧ found = false ∧ db' = db) ∨
        ∃ id, fid = some id ∧ found = (db.row? ⟨coll.collectionName, id⟩).isSome ∧
          Deleted coll ⟨coll.collectionName, id⟩ db db' := by
  cases fid with
  | none => exact ends_pure (Or.inl ⟨rfl, rfl, rfl⟩)
  | some id =>
    let ref : Ref := ⟨coll.collectionName, id⟩
    -- the row goes last, in tables where its links are gone
    have hdelete : ∀ db₁ : Db Geometry, (∀ r, db₁.row? r = db.row? r) →
        (∀ l, l ∈ db₁.association ↔
          l ∈ db.association ∧ ¬ (coll.roles ≠ [] ∧ l.source = ref)) →
        Ends (query fun seen latest : Db Geometry =>
          if seen.finds latest ref then
            (.ok (true, [Write.deleteRow ref]) : Except SqlError (Bool × List (Write Geometry)))
          else .ok (false, [])) db₁ fun found db' =>
            found = (db.row? ref).isSome ∧ Deleted coll ref db db' := by
      intro db₁ hrows hassoc
      refine ends_query fun found ws h => ?_
      rw [Db.finds_self, hrows ref] at h
      split at h
      · next hpresent =>
        cases h
        refine ⟨hpresent.symm, fun r => ?_, hassoc⟩
        rw [Store.applyAll_cons, Store.applyAll_nil, row?_deleteRow, hrows r]
      · next habsent =>
        cases h
        have hnone : db.row? ref = none := Option.not_isSome_iff_eq_none.mp habsent
        refine ⟨by rw [hnone]; rfl, fun r => ?_, hassoc⟩
        rw [Store.applyAll_nil, hrows r]
        split
        · next heq => rw [heq, hnone]
        · rfl
    have hends : Ends (delete coll (some id)) db fun found db' =>
        found = (db.row? ref).isSome ∧ Deleted coll ref db db' := by
      rw [delete]
      simp only
      split
      · next hroles =>
        refine (ends_deleteLinks ref _ db).bind fun _ db₁ h => hdelete db₁ h.1 fun l => ?_
        rw [h.2 l]
        simp [hroles]
      · next hroles => exact hdelete db (fun _ => rfl) fun l => by tauto
    exact hends.mono fun found db' h => Or.inr ⟨id, rfl, h⟩

/-- `_upsert` writes the row and no link. -/
theorem ends_upsert (n : ℕ) (feature : Option Json) (db : Db Geometry) :
    Ends (upsert gis env n coll feature) db fun id db' =>
      (∀ r, r ≠ ⟨coll.collectionName, id⟩ → db'.row? r = db.row? r) ∧
        (db'.row? ⟨coll.collectionName, id⟩).isSome ∧ db'.association = db.association := by
  refine (ends_ofExcept (Q := fun _ db' => db' = db) fun _ _ => rfl).bind ?_
  rintro _ db rfl
  refine ends_query fun id ws h => ?_
  obtain ⟨values, -, h⟩ := Except.bind_eq_ok.mp h
  cases h
  rw [Store.applyAll_cons, Store.applyAll_nil]
  split
  · next hrow =>
    refine ⟨fun r hr => (row?_updateRow _ _ db r).trans (if_neg hr), ?_, association_updateRow _ _ db⟩
    rw [row?_updateRow, if_pos rfl, Option.isSome_map]
    exact hrow
  · refine ⟨fun r hr => (row?_insertRow _ _ db r).trans (if_neg hr), ?_, rfl⟩
    rw [row?_insertRow, if_pos rfl]
    rfl

end Geocomponents
