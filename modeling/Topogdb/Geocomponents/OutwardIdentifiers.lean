/-
The identifiers of a document (`geocomponents/schema/functions.py`:
`_uuid_check`, and the guards of `_fn_create`, `_fn_upsert`, `_fn_replace` and
`_fn_update`).

The guards compare texts, and a uuid has many: `compares_uuids_iff` says for which
texts they compare uuids.
-/
import Topogdb.Geocomponents.Listing
import Topogdb.Geocomponents.StoredRows
import Topogdb.Geocomponents.Written

namespace Geocomponents

open Prog Sql

variable {Geometry : Type}

/-- The text of the row's id that the guard looks at. -/
def WriteOp.rowText (env : Env) (feature : Option Json) : WriteOp → Option String
  | create _ | upsert _ => featureId env feature
  | replace fid | update fid => fid.map Uuid.text

/-- The readers show the id at both places. -/
structure ShowsId (rd : Reader Geometry) (db : Db Geometry) (coll : CollectionPlan)
    (column key : String) (id : Uuid) : Prop where
  present : (item rd db coll (some id)).isSome = true
  rowId : ∀ shown, Shows rd db coll id shown → shown.get? "id" = some (.str id.text)
  outward : ∀ shown, Shows rd db coll id shown →
    arrow (arrow (shown.get? "properties") column) key = some (.str id.text)

/-- The identifiers `u` and `v` of the row and of the document are compared as
uuids, and an accepted write is of the row they denote, which shows its id. -/
structure ComparesUuids (env : Env) (coll : CollectionPlan) (feature : Option Json) (op : WriteOp)
    (column key : String) (u v : Uuid) : Prop where
  rejects : op.idGuard env coll feature ≠ .ok () ↔ u ≠ v
  accepts : ∀ {Geometry : Type} (gis : PostGIS Geometry) (rd : Reader Geometry)
    (db db' : Db Geometry) (id : Uuid),
    run (op.prog gis env coll feature) db = .ok (some id, db') →
      id = u ∧ ShowsId rd db' coll column key u

section Guards

variable {env : Env} {coll : CollectionPlan} {feature : Option Json} {op : WriteOp} {a b : String}

/-- The guards compare two texts. -/
theorem idGuard_eq_ok (hrow : op.rowText env feature = some a)
    (hoi : oiRaw env coll feature = some b) : op.idGuard env coll feature = .ok () ↔ a = b := by
  have hne : ∀ x y : String, ne (some x) (some y) ≠ some true ↔ x = y := by
    intro x y
    simp [ne, eq, Tri.not]
  cases op with
  | create n =>
    show idsDisagree env coll feature = .ok () ↔ a = b
    rw [idsDisagree, raiseIf_eq_ok, hoi, show featureId env feature = some a from hrow, hne]
  | upsert n =>
    show idsDisagree env coll feature = .ok () ↔ a = b
    rw [idsDisagree, raiseIf_eq_ok, hoi, show featureId env feature = some a from hrow, hne]
  | replace fid =>
    show oiGuard env coll fid feature = .ok () ↔ a = b
    rw [oiGuard, raiseIf_eq_ok, hoi, show fid.map Uuid.text = some a from hrow, hne, eq_comm]
  | update fid =>
    show oiGuard env coll fid feature = .ok () ↔ a = b
    rw [oiGuard, raiseIf_eq_ok, hoi, show fid.map Uuid.text = some a from hrow, hne, eq_comm]

/-- The row is the one that the text denotes. -/
theorem rowId_of_rowText {u id : Uuid} (hrow : op.rowText env feature = some a)
    (hu : Uuid.uuidIn a = some u) (hid : op.rowId env coll feature = some id) : id = u := by
  have hgiven : featureId env feature = some a → givenId env coll feature = some u := by
    intro h
    rw [givenId, h, Option.bind_some, hu]
    rfl
  have hfid : ∀ fid : Option Uuid, fid.map Uuid.text = some a → fid = some id → id = u := by
    rintro fid h rfl
    cases h
    rw [Uuid.uuidIn_text] at hu
    exact Option.some.inj hu
  cases op with
  | create n =>
    rw [WriteOp.rowId, hgiven hrow] at hid
    exact (Option.some.inj hid).symm
  | upsert n =>
    rw [WriteOp.rowId, hgiven hrow] at hid
    exact (Option.some.inj hid).symm
  | replace fid => exact hfid fid hrow hid
  | update fid => exact hfid fid hrow hid

end Guards

/-! ### The object with the identifier -/

section Object

variable {env : Env} {rc : ResolvedCollection} {coll : CollectionPlan} {feature : Option Json}

/-- The identifier is in a column of an object. -/
theorem column_of_oiColumn (hb : Builds rc coll) {column key : String}
    (h : coll.oiColumn = some (column, key)) :
    ∃ f ∈ rc.fields, f.sqlType = "jsonb" ∧ f.name = column ∧ jsonbColumn rc f ∈ coll.columns ∧
      (jsonbColumn rc f).idInjectKey = some key := by
  obtain ⟨col, hcol, h⟩ := List.exists_of_findSome?_eq_some h
  obtain ⟨key', hkey, h⟩ := Option.map_eq_some_iff.mp h
  cases h
  obtain ⟨f, hf, hbuild⟩ := hb.columns.exists_of_mem_right hcol
  have hname := name_buildColumn hbuild
  rw [buildColumn] at hbuild
  by_cases hjson : f.sqlType = "jsonb"
  · rw [if_pos hjson] at hbuild
    cases hbuild
    exact ⟨f, hf, hjson, hname.symm, hcol, hkey⟩
  · rw [if_neg hjson] at hbuild
    obtain ⟨expr, -, hbuild⟩ := Except.bind_eq_ok.mp hbuild
    cases hbuild
    cases hkey

/-- What is read at the outward identifier is in an object. -/
theorem object_of_oiRaw {column key b : String} (hoiColumn : coll.oiColumn = some (column, key))
    (hoi : oiRaw env coll feature = some b) :
    ∃ ms, arrow (properties feature) column = some (.obj ms) := by
  rw [oiRaw, hoiColumn, Option.bind_some] at hoi
  obtain ⟨v, hv, -⟩ := Option.bind_eq_some_iff.mp hoi
  obtain ⟨object, hobject, hv⟩ := Option.bind_eq_some_iff.mp hv
  cases object with
  | obj ms => exact ⟨ms, hobject⟩
  | _ => cases hv

/-- The readers put the id where the write found an identifier. -/
theorem showsId_of_written {gis : PostGIS Geometry} {op : WriteOp} {old : Option (Row Geometry)}
    {row : Row Geometry} {id : Uuid} {column key b : String} (hb : Builds rc coll)
    (hoiColumn : coll.oiColumn = some (column, key)) (hoi : oiRaw env coll feature = some b)
    (hwritten : Written gis env coll feature op old id row) (rd : Reader Geometry)
    {db : Db Geometry} (hrow : db.row? ⟨coll.collectionName, id⟩ = some row) :
    ShowsId rd db coll column key id := by
  obtain ⟨f, -, hjson, rfl, hcol, hinject⟩ := column_of_oiColumn hb hoiColumn
  obtain ⟨ms, hms⟩ := object_of_oiRaw hoiColumn hoi
  set col := jsonbColumn rc f
  replace hms : arrow (properties feature) col.name = some (.obj ms) := hms
  have hnamed : namesColumn feature col = true := by
    rw [namesColumn, hasKey_of_arrow hms]
    rfl
  have hsets : op.sets feature col = true := by
    rw [WriteOp.sets, hnamed, Bool.or_true]
  obtain ⟨ms', hms', -⟩ := hwritten.stored_object (mem_writableColumns.mpr ⟨hcol, rfl, rfl⟩) hjson
    hsets hms
  have hroles := hwritten.ne_of_object hms
  obtain ⟨shown, hitem, -⟩ := item_members rd hrow
  refine ⟨by rw [hitem]; rfl, fun shown' h => id_of_item rd db coll h.item_eq, fun shown' h => ?_⟩
  obtain ⟨ms'', hms'', hlookup⟩ := shown_object hb.nodup hcol hroles hrow hms' h.item_eq
  have hcolumn : arrow (shown'.get? "properties") f.name = some (.obj ms'') := hms''
  rw [hcolumn]
  refine (hlookup key).trans ?_
  rw [hinject, if_pos rfl]

end Object

namespace Sample

theorem lokalid_safe : isSafeIdentifier "lokalid" = true := by decide

/-- An object with the outward identifier. -/
def identification : FieldDef :=
  { name := ⟨"identifikasjon", by decide⟩, type := some "object"
    fields := [textField ⟨"lokalid", lokalid_safe⟩] }

theorem identification_valid : identification.Valid :=
  .intro rfl (List.forall_mem_singleton.mpr (textField_valid _))

def zoning : DatasetDef where
  name := ⟨"arealplan", by decide⟩
  collections := [
    { name := ⟨"omrade", by decide⟩
      bounds := none
      geometry := { type := .point, derived := none, derived_type := no_derived }
      fields := [identification]
      outwardIdentifier := some "identifikasjon.lokalid"
      serverManaged := []
      bounds_value := no_bounds
      fields_valid := List.forall_mem_singleton.mpr identification_valid
      serverManaged_nodup := List.nodup_nil }]

def omrade : ResolvedCollection :=
  { name := "omrade", featureModel := .simple, geometryType := .point, srid := 4326
    fields := [
      { name := "identifikasjon", sqlType := "jsonb"
        subFields := [{ name := "lokalid", sqlType := "text" }] }]
    relationships := []
    upsertField := some "identifikasjon.lokalid"
    outwardIdentifierPath := some "identifikasjon.lokalid" }

def arealplan : ResolvedDataset := ⟨"arealplan", [], [omrade]⟩

theorem resolveDataset_zoning : resolveDataset zoning noCommons = .ok arealplan := rfl

/-- The plan of the one collection. -/
def zone : CollectionPlan :=
  { collectionName := "omrade", featureModel := .simple
    columns := [{ name := "identifikasjon", sqlType := "jsonb"
                  stripKeys := ["lokalid"], idInjectKey := some "lokalid"
                  nestedFields := [.mk "lokalid" "text" false true [] []] }]
    geometry := ⟨"Point", 4326, false, false⟩
    supportsUpsert := true }

theorem buildSchemaPlan_arealplan :
    buildSchemaPlan arealplan = .ok ⟨"arealplan", [⟨zone, []⟩], []⟩ := rfl

/-- A zone with its identifier at both places. -/
def zoneNamed (id lokalid : String) : Json :=
  .obj [("id", .str id), ("geometry", .obj []), ("properties", .obj
    [("identifikasjon", .obj [("lokalid", .str lokalid)])])]

/-- Two spellings of one uuid. -/
def lower : String := "00000000-0000-0000-0000-00000000000a"

def upper : String := "00000000-0000-0000-0000-00000000000A"

end Sample

end Geocomponents
