/-
The generated read functions of a collection
(`geocomponents/schema/functions.py`: `_fn_item` and `_fn_items`, and what they
put together a feature from).

Both show the links of a row in its properties: `_item` asks for the links of one
row, `_items` groups the links of all rows of a page and joins them to it.
-/
import Topogdb.Geocomponents.Db
import Topogdb.Lib.Relations

namespace Geocomponents

open Sql Relations

/-- What the read functions use of PostgreSQL and PostGIS. -/
structure Reader (Geometry : Type) where
  /-- `ST_AsGeoJSON(geom)::jsonb`. -/
  asGeoJSON : Geometry → Json
  /-- `to_jsonb` of the text of a type that is neither boolean nor jsonb. -/
  scalarJson : String → String → Json
  /-- `geom && ST_MakeEnvelope(bbox[1], bbox[2], bbox[3], bbox[4], srid)`. -/
  overlaps : Geometry → List ℚ → ℤ → Tri
  /-- The order of rows that no `order by` sorts. -/
  unsorted : List Json → List Json
  unsorted_perm : ∀ rows, (unsorted rows).Perm rows

variable {Geometry : Type} (rd : Reader Geometry)

/-! ### One feature -/

/-- A column's value in `jsonb_build_object`. -/
def Datum.toJson : Datum → Json
  | .bool b => .bool b
  | .json j => j
  | .scalar sqlType text => rd.scalarJson sqlType text

/-- The value of one column in `_scalar_properties_object`: the row id is put
into the object that has a key for it, and NULL stays NULL. -/
def columnProperty (id : Uuid) (row : Row Geometry) (col : ColumnPlan) : String × Json :=
  let value := (row.columns col.name).map (Datum.toJson rd)
  let value :=
    match col.idInjectKey with
    | none => value
    | some key => value.map (concatMember key (.str id.text))
  (col.name, value.getD .null)

/-- `_scalar_properties_object`. -/
def scalarPropertiesObject (coll : CollectionPlan) (id : Uuid) (row : Row Geometry) : Json :=
  buildObject
    (("created_at", row.createdAt.toJson rd) :: ("updated_at", row.updatedAt.toJson rd) ::
      coll.columns.map (columnProperty rd id row))

/-- `_association_element_object`. -/
def associationElementObject (role : CollectionRolePlan) (targetId : Uuid) : Json :=
  buildObject [("featuretype", .str role.targetCollection), (role.oiLeaf, .str targetId.text)]

/-- One `select` of `_association_properties_object`: a property without links has
no row. -/
def linkProperty (db : Db Geometry) (coll : CollectionPlan) (source : Uuid)
    (role : CollectionRolePlan) : Option (String × Json) :=
  let rows := Ordered.list (db.association.filter fun l =>
    l.source.collection = coll.collectionName ∧ l.source.id = source ∧ l.property = role.property)
  if rows = [] then none
  else some (role.property, .arr (rows.map fun l => associationElementObject role l.targetId))

/-- `_association_properties_object`. -/
def associationPropertiesObject (db : Db Geometry) (coll : CollectionPlan) (source : Uuid) : Json :=
  buildObject (coll.roles.filterMap (linkProperty db coll source))

/-- `_properties_object`; no links are the empty object. -/
def propertiesObject (coll : CollectionPlan) (id : Uuid) (row : Row Geometry)
    (assoc : Option Json) : Json :=
  concatObjects (scalarPropertiesObject rd coll id row) (assoc.getD (buildObject []))

/-- `_feature_object`. -/
def featureObject (coll : CollectionPlan) (id : Uuid) (row : Row Geometry)
    (assoc : Option Json) : Json :=
  buildObject
    [("type", .str "Feature"), ("id", .str id.text),
      ("geometry", (row.geometry.map rd.asGeoJSON).getD .null),
      ("properties", propertiesObject rd coll id row assoc)]

/-- `_fn_item`. -/
def item (db : Db Geometry) (coll : CollectionPlan) (fid : Option Uuid) : Option Json := do
  let id ← fid
  let row ← db.row? ⟨coll.collectionName, id⟩
  some (featureObject rd coll id row (some (associationPropertiesObject db coll id)))

theorem item_some (db : Db Geometry) (coll : CollectionPlan) (id : Uuid) :
    item rd db coll (some id) = (db.row? ⟨coll.collectionName, id⟩).map fun row =>
      featureObject rd coll id row (some (associationPropertiesObject db coll id)) := by
  cases h : db.row? ⟨coll.collectionName, id⟩ <;> simp [item, h]

/-! ### A page of features -/

/-- The `where` of `filtered`. -/
def passesFilter (coll : CollectionPlan) (bbox : Option (List ℚ)) (row : Row Geometry) : Bool :=
  match bbox with
  | none => true
  | some bbox =>
    Tri.holds (row.geometry.bind fun geom => rd.overlaps geom bbox coll.geometry.srid)

/-- `filtered`, in the order of `page`. -/
def filteredIds (db : Db Geometry) (coll : CollectionPlan) (bbox : Option (List ℚ)) : List Uuid :=
  (Ordered.list (db.keys.filter fun r => r.collection = coll.collectionName ∧
    (db.row? r).any (passesFilter rd coll bbox) = true)).map (·.id)

/-- `link_rows` of `_fn_items`: the properties of the rows of the page. -/
def linkRows (db : Db Geometry) (coll : CollectionPlan) (page : List Uuid) :
    List (Uuid × String × Json) :=
  coll.roles.flatMap fun role =>
    let rows := Ordered.list (db.association.filter fun l =>
      l.source.collection = coll.collectionName ∧ l.property = role.property ∧
        (page.any fun id => id = l.source.id) = true)
    (groupBy (fun l => l.source.id) rows).map fun g =>
      (g.1, role.property, .arr (g.2.map fun l => associationElementObject role l.targetId))

/-- `page_links`. -/
def pageLinks (db : Db Geometry) (coll : CollectionPlan) (page : List Uuid) :
    List (Uuid × Json) :=
  (groupBy (fun row => row.1) (linkRows db coll page)).map fun g =>
    (g.1, buildObject (g.2.map fun row => row.2))

/-- The rows of `page p left join page_links l`; without roles nothing is joined. -/
def joinedPage (db : Db Geometry) (coll : CollectionPlan) (page : List Uuid) :
    List (Uuid × Option Json) :=
  if coll.roles = [] then page.map fun id => (id, none)
  else leftJoin page (pageLinks db coll page)

/-- `_fn_items`. -/
def items (db : Db Geometry) (coll : CollectionPlan) (bbox : Option (List ℚ)) (lim off : ℕ)
    (withMatched : Bool) : Json :=
  let filtered := filteredIds rd db coll bbox
  let page := page lim off filtered
  let features := (joinedPage db coll page).filterMap fun x =>
    (db.row? ⟨coll.collectionName, x.1⟩).map fun row => featureObject rd coll x.1 row x.2
  concatObjects
    (buildObject
      [("type", .str "FeatureCollection"), ("features", .arr (rd.unsorted features)),
        ("numberReturned", .num page.length)])
    (if withMatched then buildObject [("numberMatched", .num filtered.length)] else buildObject [])

end Geocomponents
