/-
The tables of one dataset (`geocomponents/schema/postgis.py`), and what the
generated functions use of PostgreSQL and PostGIS.

* `Db` — the rows of all collection tables under their collection and id, and
  the rows of the `association` table;
* `Write` — what a statement can do to one row;
* `PostGIS` — the geometry functions, pure and uninterpreted;
* `Env` — conversions, the clock, sequences and random ids of one call.

Text sorts by code point, as under the C collation.
-/
import Mathlib.Data.Finmap
import Mathlib.Data.Prod.Lex
import Mathlib.Data.String.Basic
import Mathlib.Order.Lattice
import Topogdb.Geocomponents.Plan
import Topogdb.Lib.Ordered
import Topogdb.Lib.Program
import Topogdb.Lib.Sql
import Topogdb.Lib.Uuid

namespace Geocomponents

/-! ### Keys -/

/-- A row of a collection table. -/
@[ext] structure Ref where
  collection : String
  id : Uuid
deriving DecidableEq

/-- `order by collection, id`. -/
instance : LinearOrder Ref :=
  LinearOrder.lift' (fun r => toLex (r.collection, r.id)) fun r r' h => by
    have h' : (r.collection, r.id) = (r'.collection, r'.id) := toLex.injective h
    exact Ref.ext (congrArg Prod.fst h') (congrArg Prod.snd h')

/-- A row of the `association` table, all of which is its key. -/
@[ext] structure Link where
  source : Ref
  property : String
  targetId : Uuid
deriving DecidableEq

/-- `order by source_collection, source_id, property, target_id`. -/
instance : LinearOrder Link :=
  LinearOrder.lift' (fun l => toLex (l.source, toLex (l.property, l.targetId))) fun l l' h => by
    have h' : (l.source, toLex (l.property, l.targetId))
        = (l'.source, toLex (l'.property, l'.targetId)) := toLex.injective h
    have hrest : (l.property, l.targetId) = (l'.property, l'.targetId) :=
      toLex.injective (congrArg Prod.snd h')
    exact Link.ext (congrArg Prod.fst h') (congrArg Prod.fst hrest) (congrArg Prod.snd hrest)

/-! ### Rows -/

/-- The value of a column: a boolean, jsonb, or the text of another type. -/
inductive Datum where
  | bool (b : Bool)
  | json (j : Json)
  | scalar (sqlType text : String)

/-- A row without its id. -/
structure Row (Geometry : Type) where
  geometry : Option Geometry
  columns : String → Option Datum
  createdAt : Datum
  updatedAt : Datum

/-- `coalesce(t."field", false)`, or true without a field. -/
def Row.included {Geometry : Type} (row : Row Geometry) : Option String → Bool
  | none => true
  | some field =>
    match row.columns field with
    | some (.bool b) => b
    | _ => false

/-- The tables of one dataset. -/
structure Db (Geometry : Type) where
  rows : Finmap (fun _ : Ref => Row Geometry)
  association : Finset Link

/-- The tables right after `apply_tables`. -/
def Db.empty {Geometry : Type} : Db Geometry := ⟨∅, ∅⟩

/-- The row of a key. -/
def Db.row? {Geometry : Type} (db : Db Geometry) (ref : Ref) : Option (Row Geometry) :=
  db.rows.lookup ref

/-- The ids of a collection's table. -/
def Db.keys {Geometry : Type} (db : Db Geometry) : Finset Ref := db.rows.keys

/-- `update … where id = …`: nothing happens to a row that is not there. -/
def Db.updateRow {Geometry : Type} (db : Db Geometry) (ref : Ref)
    (set : Row Geometry → Row Geometry) : Db Geometry :=
  match db.row? ref with
  | some row => { db with rows := db.rows.insert ref (set row) }
  | none => db

/-- A write to one row. -/
inductive Write (Geometry : Type) where
  | insertRow (ref : Ref) (row : Row Geometry)
  | updateRow (ref : Ref) (set : Row Geometry → Row Geometry)
  | deleteRow (ref : Ref)
  | link (l : Link)
  | unlink (l : Link)

variable {Geometry : Type}

/-- What is written to: a row of a collection or of `association`. -/
def Write.key : Write Geometry → Ref ⊕ Link
  | insertRow ref _ => .inl ref
  | updateRow ref _ => .inl ref
  | deleteRow ref => .inl ref
  | link l => .inr l
  | unlink l => .inr l

def Write.apply (w : Write Geometry) (db : Db Geometry) : Db Geometry :=
  match w with
  | insertRow ref row => { db with rows := db.rows.insert ref row }
  | updateRow ref set => db.updateRow ref set
  | deleteRow ref => { db with rows := db.rows.erase ref }
  | link l => { db with association := Insert.insert l db.association }
  | unlink l => { db with association := db.association.erase l }

instance : Store (Write Geometry) (Db Geometry) := ⟨Write.apply⟩

/-- Programs over the tables. -/
abbrev SqlProg (Geometry ε α : Type) := Prog (Db Geometry) (Write Geometry) ε α

/-! ### What a write changes -/

@[simp] theorem row?_insertRow (ref : Ref) (row : Row Geometry) (db : Db Geometry) (r : Ref) :
    (Store.apply (Write.insertRow ref row) db).row? r = if r = ref then some row else db.row? r := by
  show (db.rows.insert ref row).lookup r = _
  by_cases h : r = ref
  · subst h
    rw [if_pos rfl, Finmap.lookup_insert]
  · rw [if_neg h, Finmap.lookup_insert_of_ne _ h]
    rfl

@[simp] theorem row?_updateRow (ref : Ref) (set : Row Geometry → Row Geometry) (db : Db Geometry)
    (r : Ref) :
    (Store.apply (Write.updateRow ref set) db).row? r
      = if r = ref then (db.row? ref).map set else db.row? r := by
  show (db.updateRow ref set).row? r = _
  rw [Db.updateRow]
  cases hrow : db.row? ref with
  | none =>
    by_cases h : r = ref
    · subst h
      rw [if_pos rfl]
      exact hrow
    · rw [if_neg h]
  | some row => exact row?_insertRow ref (set row) db r

@[simp] theorem row?_deleteRow (ref : Ref) (db : Db Geometry) (r : Ref) :
    (Store.apply (Write.deleteRow ref : Write Geometry) db).row? r
      = if r = ref then none else db.row? r := by
  show (db.rows.erase ref).lookup r = _
  by_cases h : r = ref
  · subst h
    rw [if_pos rfl, Finmap.lookup_erase]
  · rw [if_neg h, Finmap.lookup_erase_ne h]
    rfl

@[simp] theorem row?_link (l : Link) (db : Db Geometry) (r : Ref) :
    (Store.apply (Write.link l : Write Geometry) db).row? r = db.row? r := rfl

@[simp] theorem row?_unlink (l : Link) (db : Db Geometry) (r : Ref) :
    (Store.apply (Write.unlink l : Write Geometry) db).row? r = db.row? r := rfl

@[simp] theorem association_insertRow (ref : Ref) (row : Row Geometry) (db : Db Geometry) :
    (Store.apply (Write.insertRow ref row) db).association = db.association := rfl

@[simp] theorem association_updateRow (ref : Ref) (set : Row Geometry → Row Geometry)
    (db : Db Geometry) :
    (Store.apply (Write.updateRow ref set) db).association = db.association := by
  show (db.updateRow ref set).association = _
  rw [Db.updateRow]
  cases db.row? ref <;> rfl

@[simp] theorem association_deleteRow (ref : Ref) (db : Db Geometry) :
    (Store.apply (Write.deleteRow ref : Write Geometry) db).association = db.association := rfl

@[simp] theorem association_link (l : Link) (db : Db Geometry) :
    (Store.apply (Write.link l : Write Geometry) db).association
      = insert l db.association := rfl

@[simp] theorem association_unlink (l : Link) (db : Db Geometry) :
    (Store.apply (Write.unlink l : Write Geometry) db).association
      = db.association.erase l := rfl

theorem mem_keys {db : Db Geometry} {ref : Ref} : ref ∈ db.keys ↔ (db.row? ref).isSome :=
  Finmap.mem_keys.trans Finmap.lookup_isSome.symm

/-! ### Libraries and the call -/

/-- PostGIS. -/
structure PostGIS (Geometry : Type) where
  geomFromGeoJSON : Json → Except SqlError Geometry
  setSRID : Geometry → ℤ → Geometry
  force2D : Geometry → Geometry
  force3D : Geometry → Geometry
  isValid : Geometry → Except SqlError Bool
  isValidReason : Geometry → String
  isSimple : Geometry → Except SqlError Bool
  isEmpty : Geometry → Bool
  geometryType : Geometry → String
  numGeometries : Geometry → ℕ
  numInteriorRings : Geometry → Option ℕ
  dump : Geometry → List Geometry
  /-- The aggregate, in the order of its input; NULL of nothing. -/
  collect : List Geometry → Except SqlError (Option Geometry)
  node : Geometry → Except SqlError Geometry
  buildArea : Geometry → Except SqlError (Option Geometry)
  boundary : Geometry → Except SqlError Geometry
  coveredBy : Geometry → Geometry → Except SqlError Bool
  /-- The type modifier of a column: a value that does not fit is refused. -/
  typmod : GeometryColumnPlan → Geometry → Except SqlError Unit

/-- What the database server knows at one call. -/
structure Env where
  /-- The text of a jsonb number or container. -/
  jsonText : Json → String
  /-- `text::type`. -/
  cast : String → String → Except SqlError Datum
  /-- `now()`, as it stands, as text, and assigned to a column of a type. -/
  now : Datum
  nowText : String
  assignNow : String → Except SqlError Datum
  /-- A text assigned to a column of a type. -/
  assignText : String → String → Except SqlError Datum
  /-- `gen_random_uuid()` and the identity columns, at the n-th write of the call. -/
  genRandomUuid : ℕ → Uuid
  identity : ℕ → String → Datum

end Geocomponents
