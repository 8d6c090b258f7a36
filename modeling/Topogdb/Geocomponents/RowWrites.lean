/-
Writes to one row and its links.

Such a write asks three things of the tables: whether its row is there, whether the
rows that it links to are, and that the links it inserts are new.

* `RowWrite` — such a write; `RowWrite.step` — what it does to the tables;
* `Independent.commute` — writes on different rows commute if they spare each other's
  targets;
* `Absorbing.absorbs` — when a later write of a row makes an earlier one vanish.
-/
import Topogdb.Geocomponents.WriteExact
import Topogdb.Lib.Schedules

namespace Geocomponents

open Prog Sql

variable {Geometry : Type}

/-! ### Writes to one row -/

/-- A write to one row and to its links. -/
structure RowWrite (Geometry : Type) where
  ref : Ref
  /-- Whether the row must be there; `none` asks nothing. -/
  present : Option Bool
  /-- The rows that must be there. -/
  targets : List Ref
  /-- The row that is left. -/
  row : Option (Row Geometry) → Option (Row Geometry)
  /-- The properties whose links go. -/
  clears : String → Bool
  /-- The links that come. -/
  links : Finset Link
  links_source : ∀ l ∈ links, l.source = ref

namespace RowWrite

/-- The links that stay. -/
def kept (w : RowWrite Geometry) (association : Finset Link) : Finset Link :=
  association \ sourceLinks association w.ref w.clears

/-- What is asked of the tables. -/
structure Accepts (w : RowWrite Geometry) (db : Db Geometry) : Prop where
  present : ∀ b, w.present = some b → (db.row? w.ref).isSome = b
  targets : ∀ t ∈ w.targets, (db.row? t).isSome = true
  links : Disjoint (w.kept db.association) w.links

/-- The tables afterwards. -/
def apply (w : RowWrite Geometry) (db : Db Geometry) : Db Geometry where
  rows :=
    match w.row (db.row? w.ref) with
    | some row => db.rows.insert w.ref row
    | none => db.rows.erase w.ref
  association := w.kept db.association ∪ w.links

instance (w : RowWrite Geometry) (db : Db Geometry) : Decidable (w.Accepts db) :=
  decidable_of_iff
    ((∀ b ∈ w.present, (db.row? w.ref).isSome = b) ∧ (∀ t ∈ w.targets, (db.row? t).isSome = true) ∧
      Disjoint (w.kept db.association) w.links)
    ⟨fun h => ⟨h.1, h.2.1, h.2.2⟩, fun h => ⟨h.1, h.2, h.3⟩⟩

/-- The tables after the write, if it is accepted. -/
def step (db : Db Geometry) (w : RowWrite Geometry) : Option (Db Geometry) :=
  if w.Accepts db then some (w.apply db) else none

variable {w w₁ w₂ : RowWrite Geometry} {db db' : Db Geometry}

@[simp] theorem row?_apply (w : RowWrite Geometry) (db : Db Geometry) (r : Ref) :
    (w.apply db).row? r = if r = w.ref then w.row (db.row? w.ref) else db.row? r := by
  rw [apply]
  split
  · next row hrow =>
    rw [hrow]
    exact row?_insertRow w.ref row db r
  · next hrow =>
    rw [hrow]
    exact row?_deleteRow w.ref db r

@[simp] theorem association_apply :
    (w.apply db).association = w.kept db.association ∪ w.links := rfl

theorem step_eq_some : step db w = some db' ↔ w.Accepts db ∧ w.apply db = db' := by
  rw [step]
  split
  · next h => simp [h]
  · next h => simp [h]

theorem mem_kept {association : Finset Link} {l : Link} : l ∈ w.kept association ↔
    l ∈ association ∧ ¬ (l.source = w.ref ∧ w.clears l.property = true) := by
  rw [kept, Finset.mem_sdiff, mem_sourceLinks]
  tauto

/-! #### Independent writes -/

/-- The write neither adds nor removes its row. -/
def Keeps (w : RowWrite Geometry) : Prop := ∀ row, (w.row row).isSome = row.isSome

/-- The write does not touch what the other one links to. -/
def Spares (w w' : RowWrite Geometry) : Prop := w.Keeps ∨ w.ref ∉ w'.targets

/-- The targets of the other write are there before the write exactly when they are
there after it. -/
theorem Spares.isSome_row? {w' : RowWrite Geometry} (h : w.Spares w') {t : Ref}
    (ht : t ∈ w'.targets) : ((w.apply db).row? t).isSome = (db.row? t).isSome := by
  rw [row?_apply]
  split
  · next heq =>
    subst heq
    exact h.elim (fun hkeeps => hkeeps _) fun hnot => absurd ht hnot
  · rfl

/-- Links of another row are not looked at. -/
theorem disjoint_kept_apply (hne : w₁.ref ≠ w₂.ref) :
    Disjoint (w₂.kept (w₁.apply db).association) w₂.links ↔
      Disjoint (w₂.kept db.association) w₂.links := by
  have hsame : ∀ l ∈ w₂.links, l ∈ (w₁.apply db).association ↔ l ∈ db.association := by
    intro l hl
    have hsource : l.source ≠ w₁.ref := fun h => hne (h ▸ (w₂.links_source l hl))
    rw [association_apply, Finset.mem_union, mem_kept]
    constructor
    · rintro (h | h)
      · exact h.1
      · exact absurd (w₁.links_source l h) hsource
    · exact fun h => .inl ⟨h, fun hown => hsource hown.1⟩
  simp only [Finset.disjoint_right, mem_kept]
  refine forall₂_congr fun l hl => ?_
  rw [hsame l hl]

/-- A write on another row that spares its targets does not change what it asks. -/
theorem Spares.accepts_iff (h : w₁.Spares w₂) (hne : w₁.ref ≠ w₂.ref) (db : Db Geometry) :
    w₂.Accepts (w₁.apply db) ↔ w₂.Accepts db := by
  have hown : (w₁.apply db).row? w₂.ref = db.row? w₂.ref := by
    rw [row?_apply, if_neg (Ne.symm hne)]
  constructor
  · rintro ⟨hpresent, htargets, hlinks⟩
    exact ⟨fun b hb => hown ▸ hpresent b hb, fun t ht => h.isSome_row? ht ▸ htargets t ht,
      (disjoint_kept_apply hne).mp hlinks⟩
  · rintro ⟨hpresent, htargets, hlinks⟩
    exact ⟨fun b hb => by rw [hown]; exact hpresent b hb,
      fun t ht => (h.isSome_row? ht).trans (htargets t ht), (disjoint_kept_apply hne).mpr hlinks⟩

end RowWrite

/-- Tables are the same when their rows and their links are. -/
theorem Db.ext_row? {db db' : Db Geometry} (hrows : ∀ r, db.row? r = db'.row? r)
    (hlinks : db.association = db'.association) : db = db' := by
  obtain ⟨rows, association⟩ := db
  obtain ⟨rows', association'⟩ := db'
  have hsame : rows = rows' := Finmap.ext_lookup hrows
  cases hsame
  cases hlinks
  rfl

namespace RowWrite

variable {w₁ w₂ : RowWrite Geometry}

/-- Writes on different rows that spare each other's targets. -/
structure Independent (w₁ w₂ : RowWrite Geometry) : Prop where
  ref_ne : w₁.ref ≠ w₂.ref
  left : w₁.Spares w₂
  right : w₂.Spares w₁

/-- On different rows the tables do not depend on the order. -/
theorem apply_comm (hne : w₁.ref ≠ w₂.ref) (db : Db Geometry) :
    w₂.apply (w₁.apply db) = w₁.apply (w₂.apply db) := by
  refine Db.ext_row? (fun r => ?_) ?_
  · simp only [row?_apply, if_neg hne, if_neg (Ne.symm hne)]
    by_cases h₁ : r = w₁.ref
    · rw [if_neg fun h => hne (h₁.symm.trans h), if_pos h₁, if_pos h₁]
    · rw [if_neg h₁, if_neg h₁]
  · ext l
    simp only [association_apply, Finset.mem_union, mem_kept]
    have hone : ∀ l ∈ w₁.links, l.source ≠ w₂.ref := fun l hl h =>
      hne ((w₁.links_source l hl).symm.trans h)
    have htwo : ∀ l ∈ w₂.links, l.source ≠ w₁.ref := fun l hl h =>
      hne (h.symm.trans (w₂.links_source l hl))
    have h₁ := hone l
    have h₂ := htwo l
    tauto

/-- **Independent writes commute.** -/
theorem Independent.commute (h : Independent w₁ w₂) : Runs.Commute step w₁ w₂ := by
  intro db
  have hleft := h.left.accepts_iff h.ref_ne db
  have hright := h.right.accepts_iff (Ne.symm h.ref_ne) db
  by_cases h₁ : w₁.Accepts db
  · by_cases h₂ : w₂.Accepts db
    · simp only [step, if_pos h₁, if_pos h₂, Option.bind_some, if_pos (hleft.mpr h₂),
        if_pos (hright.mpr h₁), apply_comm h.ref_ne]
    · simp only [step, if_pos h₁, if_neg h₂, Option.bind_some, if_neg (mt hleft.mp h₂),
        Option.bind_none]
  · by_cases h₂ : w₂.Accepts db
    · simp only [step, if_neg h₁, if_pos h₂, Option.bind_some, if_neg (mt hright.mp h₁),
        Option.bind_none]
    · simp only [step, if_neg h₁, if_neg h₂, Option.bind_none]

/-! #### Absorbing writes -/

/-- The write `w` of a row makes a write `a` of the same row vanish. -/
structure Absorbing (w a : RowWrite Geometry) : Prop where
  ref_eq : w.ref = a.ref
  keeps : a.Keeps
  row : ∀ row, w.row (a.row row) = w.row row
  links : ∀ l ∈ a.links, w.clears l.property = true
  clears : ∀ property, a.clears property = true → w.clears property = true

/-- **An absorbing write does what it would have done without the other one.** -/
theorem Absorbing.absorbs {w a : RowWrite Geometry} (h : Absorbing w a) :
    Runs.Absorbs step w a := by
  intro db db₁ hstep
  obtain ⟨-, rfl⟩ := step_eq_some.mp hstep
  have hsome : ∀ t, ((a.apply db).row? t).isSome = (db.row? t).isSome := by
    intro t
    rw [row?_apply]
    split
    · next heq =>
      rw [heq]
      exact h.keeps _
    · rfl
  have hown : (a.apply db).row? w.ref = a.row (db.row? w.ref) := by
    rw [row?_apply, if_pos h.ref_eq, h.ref_eq]
  -- what `a` adds or clears is cleared by `w` in any case
  have hkept : w.kept (a.apply db).association = w.kept db.association := by
    ext l
    rw [mem_kept, mem_kept, association_apply, Finset.mem_union, mem_kept]
    constructor
    · rintro ⟨hl | hl, hnot⟩
      · exact ⟨hl.1, hnot⟩
      · exact absurd ⟨(a.links_source l hl).trans h.ref_eq.symm, h.links l hl⟩ hnot
    · rintro ⟨hl, hnot⟩
      refine ⟨.inl ⟨hl, fun hcleared => hnot ?_⟩, hnot⟩
      exact ⟨hcleared.1.trans h.ref_eq.symm, h.clears _ hcleared.2⟩
  -- so `w` is accepted after `a` as it is before
  have haccepts : w.Accepts (a.apply db) ↔ w.Accepts db := by
    constructor
    · rintro ⟨hpresent, htargets, hlinks⟩
      exact ⟨fun b hb => hsome _ ▸ hpresent b hb, fun t ht => hsome t ▸ htargets t ht,
        hkept ▸ hlinks⟩
    · rintro ⟨hpresent, htargets, hlinks⟩
      exact ⟨fun b hb => (hsome _).trans (hpresent b hb),
        fun t ht => (hsome t).trans (htargets t ht), by rw [hkept]; exact hlinks⟩
  have happly : w.apply (a.apply db) = w.apply db := by
    refine Db.ext_row? (fun r => ?_) (congrArg (· ∪ w.links) hkept)
    rw [row?_apply w, row?_apply w, hown, h.row]
    split
    · rfl
    · next hne => rw [row?_apply, if_neg fun heq => hne (heq.trans h.ref_eq.symm)]
  by_cases hw : w.Accepts db
  · rw [step, step, if_pos (haccepts.mpr hw), if_pos hw, happly]
  · rw [step, step, if_neg (mt haccepts.mp hw), if_neg hw]

end RowWrite

end Geocomponents
