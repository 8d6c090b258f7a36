/-
The checks of an object property at a create (`geocomponents/schema/functions.py`:
`_nested_checks`).

Children of JSON null are looked for as those of an object are: `null ? 'key'` is
false where the absent object gives NULL.  An optional object that is null is
refused when it has a required child.
-/
import Topogdb.Geocomponents.NestedObjects
import Topogdb.Geocomponents.StoredRows

namespace Geocomponents

open Sql Except

/-- What the description declares of an object property: null and absence are for
optional ones. -/
def ResolvedField.objectShape (coll : ResolvedCollection) (f : ResolvedField) : Shape :=
  .mk f.name f.required "object" false none
    (ResolvedField.shapes f.name (serverSuppliedPaths coll) f.subFields)

section Objects

variable {env : Env} {coll : ResolvedCollection} {f : ResolvedField}

/-- What `_nested_object_checks` lets through. -/
theorem nestedObjectChecks_iff {fields : List ResolvedField} {path : String}
    {supplied : List String} (hfields : ∀ sub ∈ fields, sub.Regular) {ms : List (String × Json)} :
    nestedObjectChecks env (nestedFieldPlans path supplied fields) (some (.obj ms)) path = .ok () ↔
      (∀ m ∈ ms, m.1 ∈ fields.map (·.name)) ∧ ∀ sub ∈ fields,
        (sub.shape path supplied).dropEmptyCodes.Admits (ms.lookup sub.name) ∧
          ¬ (sub.shape path supplied).NullsRequired (ms.lookup sub.name) := by
  rw [nestedObjectChecks, seq_eq_ok, nestedFieldPlans_eq, map_nestedFieldPlan_name,
    nestedFieldsChecks_ok]
  refine and_congr ⟨fun h => undeclaredCheck_ok h, fun h => ?_⟩ ?_
  · refine undeclaredCheck_of_declared fun ms' hms => ?_
    cases hms
    exact h
  · rw [List.forall_mem_map]
    exact forall₂_congr fun sub hsub => nestedFieldChecks_iff (hfields sub hsub)

/-- Nothing is checked of the children of an absent object. -/
theorem nestedObjectChecks_none {fields : List NestedFieldPlan} {path : String} :
    nestedObjectChecks env fields none path = .ok () := by
  rw [nestedObjectChecks, seq_eq_ok]
  refine ⟨undeclaredCheck_of_declared fun _ h => ?_, nestedFieldsChecks_none fields path⟩
  cases h

/-- In place of an object, JSON null has to have no required child. -/
theorem nestedObjectChecks_null {fields : List ResolvedField} {path : String}
    {supplied : List String} :
    nestedObjectChecks env (nestedFieldPlans path supplied fields) (some .null) path = .ok () ↔
      ∀ sub ∈ fields, (sub.shape path supplied).required = false := by
  rw [nestedObjectChecks, seq_eq_ok, nestedFieldPlans_eq, nestedFieldsChecks_ok,
    List.forall_mem_map]
  constructor
  · intro h sub hsub
    rw [shape_required]
    exact nestedFieldChecks_null.mp (h.2 sub hsub)
  · intro h
    refine ⟨undeclaredCheck_of_declared fun _ h => ?_, fun sub hsub => ?_⟩
    · cases h
    · rw [nestedFieldChecks_null, ← shape_required]
      exact h sub hsub

/-- What null makes of the shape of an object property. -/
theorem nullsRequired_objectShape {value : Option Json} :
    (f.objectShape coll).NullsRequired value ↔
      (value = some .null ∧
          ∃ sub ∈ f.subFields, (sub.shape f.name (serverSuppliedPaths coll)).required = true) ∨
        ∃ sub ∈ f.subFields, (sub.shape f.name (serverSuppliedPaths coll)).NullsRequired
          (arrow value sub.name) := by
  rw [ResolvedField.objectShape, Shape.NullsRequired, ResolvedField.shapes_eq,
    Shape.nullsARequired_iff]
  simp only [List.mem_map, exists_exists_and_eq_and, ResolvedField.shape_name]

/-- **What the checks of an object property let through.** -/
theorem nestedCheck_iff (hf : f.Regular) (hsub : f.subFields ≠ []) {feature : Option Json}
    {ms : List (String × Json)} (hms : properties feature = some (.obj ms)) :
    nestedCheck env false feature (jsonbColumn coll f) = .ok () ↔
      (f.objectShape coll).dropEmptyCodes.Admits (ms.lookup f.name) ∧
        ¬ (f.objectShape coll).NullsRequired (ms.lookup f.name) := by
  obtain ⟨-, -, -, hfields⟩ := hf
  have hcolumn : (jsonbColumn coll f).nestedFields =
      nestedFieldPlans f.name (serverSuppliedPaths coll) f.subFields := rfl
  have hplans : nestedFieldPlans f.name (serverSuppliedPaths coll) f.subFields ≠ [] := by
    rw [nestedFieldPlans_eq]
    simpa using hsub
  -- a create, a replace and an upsert: the value is there or it is not
  have hvalue : arrow (some (.obj ms)) f.name = ms.lookup f.name := rfl
  have hkey : hasKey (some (.obj ms)) f.name = some (ms.lookup f.name).isSome := rfl
  rw [nestedCheck, hcolumn, if_neg hplans, hms]
  simp only [Bool.not_false, Bool.true_and, Bool.true_or, if_true, ite_seq_eq_ok, seq_eq_ok,
    raiseIf_eq_ok, Bool.false_eq_true, if_false]
  show ((!!f.required) = true → (hasKey (some (.obj ms)) f.name).not.or
      (eq (typeOf (arrow (some (.obj ms)) f.name)) (some "null")) ≠ some true) ∧
    notIn (typeOf (arrow (some (.obj ms)) f.name)) ["object", "null"] ≠ some true ∧
    nestedObjectChecks env (nestedFieldPlans f.name (serverSuppliedPaths coll) f.subFields)
      (arrow (some (.obj ms)) f.name) f.name = .ok () ↔ _
  rw [hvalue, hkey, Bool.not_not, nullsRequired_objectShape, ResolvedField.objectShape,
    Shape.dropEmptyCodes, Shape.Admits, ResolvedField.shapes_eq, Shape.dropAllEmptyCodes_eq]
  cases hlookup : ms.lookup f.name with
  | none =>
    have hnone : ∀ sub ∈ f.subFields,
        ¬ (sub.shape f.name (serverSuppliedPaths coll)).NullsRequired (arrow none sub.name) :=
      fun _ _ => Shape.not_nullsRequired_none _
    -- nothing to check below a missing value
    rw [iff_true_intro nestedObjectChecks_none]
    simp [Tri.not, Tri.or, typeOf, eq, notIn, isIn]
    exact fun _ => hnone
  | some v =>
    cases v with
    | null =>
      have hnone : ∀ sub ∈ f.subFields,
          ¬ (sub.shape f.name (serverSuppliedPaths coll)).NullsRequired (arrow (some .null) sub.name) :=
        fun _ _ => Shape.not_nullsRequired_none _
      rw [nestedObjectChecks_null]
      simp [Tri.not, Tri.or, typeOf, eq, notIn, isIn]
      exact fun _ _ => hnone
    | obj ms' =>
      -- an object: its fields are declared, and each is checked
      have hmembers : (f.subFields.map (ResolvedField.shape f.name (serverSuppliedPaths coll))).map
          Shape.dropEmptyCodes ≠ [] := by simpa using hsub
      rw [nestedObjectChecks_iff hfields]
      constructor
      · rintro ⟨-, -, hdeclared, hall⟩
        refine ⟨⟨fun _ => ⟨_, rfl, fun h => by cases h⟩, fun v hv _ => ?_⟩, ?_⟩
        · cases hv
          refine ⟨rfl, fun h => (Bool.false_ne_true h).elim, fun cs hcs => ?_, fun _ => ?_⟩
          · cases hcs
          · rw [Shape.map_dropEmptyCodes_name, ResolvedField.map_shape_name, Shape.admitsAll_iff,
              List.forall_mem_map, List.forall_mem_map]
            refine ⟨fun ms'' hms => ?_, fun sub hmem => ?_⟩
            · cases hms
              exact hdeclared
            · rw [Shape.dropEmptyCodes_name, ResolvedField.shape_name]
              exact (hall sub hmem).1
        · rintro (⟨hnull, -⟩ | ⟨sub, hmem, hnulls⟩)
          · cases hnull
          · exact (hall sub hmem).2 hnulls
      · rintro ⟨⟨-, hadmits⟩, hnulls⟩
        obtain ⟨-, -, -, hobject⟩ := hadmits _ rfl fun h => by cases h
        obtain ⟨hdeclared, hall⟩ := hobject hmembers
        rw [Shape.admitsAll_iff, List.forall_mem_map, List.forall_mem_map] at hall
        rw [Shape.map_dropEmptyCodes_name, ResolvedField.map_shape_name] at hdeclared
        refine ⟨fun _ => by simp [Tri.not, Tri.or, typeOf, eq], by simp [typeOf, notIn, isIn, Tri.not],
          hdeclared ms' rfl, fun sub hmem => ⟨?_, fun hnull => hnulls (.inr ⟨sub, hmem, hnull⟩)⟩⟩
        have hadmitted := hall sub hmem
        rwa [Shape.dropEmptyCodes_name, ResolvedField.shape_name] at hadmitted
    | _ => simp [typeOf, notIn, isIn, Tri.not]

/-- An object property avoids the empty code lists of its children. -/
theorem objectShape_admits_iff (hf : f.Regular) (hsub : f.subFields ≠ []) {value : Option Json} :
    (f.objectShape coll).Admits value ↔
      (f.objectShape coll).dropEmptyCodes.Admits value ∧ f.AvoidsEmptyLists value := by
  obtain ⟨hcodes, -, hobject, hfields⟩ := hf
  have hnone : f.codelist.isSome = true → False := by
    intro hsome
    have htype := (hcodes hsome).1
    rw [hobject hsub] at htype
    exact absurd htype (by decide)
  rw [ResolvedField.objectShape, mk_admits_iff hfields fun sub hmem => shape_admits_iff
    (hfields sub hmem) _]
  obtain ⟨name, sqlType, required, autoIncrement, subFields, indexable, values, codelist⟩ := f
  rw [ResolvedField.AvoidsEmptyLists]
  refine and_congr_right fun _ => and_congr_left fun _ => ?_
  exact ⟨fun _ hsome => (hnone hsome).elim, fun _ h => by cases h⟩

end Objects

/-- **The checks of an object property at a create**, for every description that
resolves and every document: they accept what conforms exactly when, in a value
that is otherwise as declared, null stands for an object with a required child if
and only if a code-list child without codes has a value. -/
theorem nestedCheck_exact {dataset : DatasetDef} {commons : Commons} {resolved : ResolvedDataset}
    (hresolved : resolveDataset dataset commons = .ok resolved) {coll : ResolvedCollection}
    (hcoll : coll ∈ resolved.collections) {f : ResolvedField} (hf : f ∈ coll.fields)
    (hobject : f.subFields ≠ []) (env : Env) {feature : Option Json} {ms : List (String × Json)}
    (hms : properties feature = some (.obj ms)) :
    (nestedCheck env false feature (jsonbColumn coll f) = .ok () ↔
        (f.objectShape coll).Admits (ms.lookup f.name)) ↔
      ((f.objectShape coll).dropEmptyCodes.Admits (ms.lookup f.name) →
        ((f.objectShape coll).NullsRequired (ms.lookup f.name) ↔
          ¬ f.AvoidsEmptyLists (ms.lookup f.name))) := by
  have hregular := regular_of_resolveDataset hresolved coll hcoll f hf
  rw [nestedCheck_iff hregular hobject hms, objectShape_admits_iff hregular hobject]
  constructor
  · intro h hadmits
    rw [← not_iff_not, not_not]
    exact ⟨fun hnot => (h.mp ⟨hadmits, hnot⟩).2, fun havoid => (h.mpr ⟨hadmits, havoid⟩).2⟩
  · intro h
    refine and_congr_right fun hadmits => ?_
    rw [← not_iff_not, not_not]
    exact h hadmits

namespace Sample

/-- An address, with a number and a place that may be left out. -/
def ownerAddress : FieldDef :=
  { name := ⟨"bosted", by decide⟩, type := some "object"
    fields := [{ textField ⟨"vei", by decide⟩ with required := true },
      { name := ⟨"husnummer", by decide⟩, type := some "integer" },
      { name := ⟨"poststed", by decide⟩, type := some "object"
        fields := [textField ⟨"navn", by decide⟩] }] }

/-- An optional owner with a required name, a form of ownership and an address. -/
def owner : FieldDef :=
  { name := ⟨"eier", by decide⟩, type := some "object"
    fields := [{ textField ⟨"navn", by decide⟩ with required := true },
      { name := ⟨"form", by decide⟩, codelist := some "eierform" }, ownerAddress] }

theorem ownerAddress_valid : ownerAddress.Valid := by
  refine .intro rfl (List.forall_mem_cons.mpr ⟨leaf_valid rfl rfl, List.forall_mem_cons.mpr
    ⟨leaf_valid rfl rfl, List.forall_mem_singleton.mpr (.intro rfl ?_)⟩⟩)
  exact List.forall_mem_singleton.mpr (textField_valid _)

theorem owner_valid : owner.Valid :=
  .intro rfl (List.forall_mem_cons.mpr ⟨leaf_valid rfl rfl, List.forall_mem_cons.mpr
    ⟨leaf_valid rfl rfl, List.forall_mem_singleton.mpr ownerAddress_valid⟩⟩)

def ownership : DatasetDef where
  name := ⟨"grunnbok", by decide⟩
  codelists := [⟨⟨"eierform", by decide⟩, ["privat", "offentlig"]⟩]
  collections := [
    { name := ⟨"teig", by decide⟩
      bounds := none
      geometry := { type := .point, derived := none, derived_type := no_derived }
      fields := [owner]
      serverManaged := []
      bounds_value := no_bounds
      fields_valid := List.forall_mem_singleton.mpr owner_valid
      serverManaged_nodup := List.nodup_nil }]

def eier : ResolvedField :=
  { name := "eier", sqlType := "jsonb"
    subFields := [{ name := "navn", sqlType := "text", required := true },
      { name := "form", sqlType := "text", codelistValues := ["privat", "offentlig"]
        codelist := some "eierform" },
      { name := "bosted", sqlType := "jsonb"
        subFields := [{ name := "vei", sqlType := "text", required := true },
          { name := "husnummer", sqlType := "integer" },
          { name := "poststed", sqlType := "jsonb"
            subFields := [{ name := "navn", sqlType := "text" }] }] }] }

def teig : ResolvedCollection :=
  { name := "teig", featureModel := .simple, geometryType := .point, srid := 4326
    fields := [eier], relationships := [] }

def grunnbok : ResolvedDataset := ⟨"grunnbok", [], [teig]⟩

theorem resolveDataset_ownership : resolveDataset ownership noCommons = .ok grunnbok := rfl

def storgata : Json :=
  .obj [("vei", .str "Storgata"), ("husnummer", .num 7), ("poststed", .obj [("navn", .str "Finse")])]

def kari : Json := .obj [("navn", .str "Kari"), ("form", .str "privat"), ("bosted", storgata)]

/-- A parcel whose owner is a value. -/
def ownedBy (value : Json) : Json := .obj [("properties", .obj [("eier", value)])]

end Sample

open Sample in
/-- An owner with a name, a form of ownership and an address. -/
theorem nestedCheck_exact_sample :
    nestedCheck env false (some (ownedBy kari)) (jsonbColumn teig eier) = .ok () ∧
      (eier.objectShape teig).Admits (some kari) := by
  have haccepted : nestedCheck env false (some (ownedBy kari)) (jsonbColumn teig eier) = .ok () := by
    decide +kernel
  refine ⟨haccepted, (?_ : _ ↔ _).mp haccepted⟩
  have hproperties : properties (some (ownedBy kari)) = some (.obj [("eier", kari)]) := rfl
  refine (nestedCheck_exact resolveDataset_ownership List.mem_cons_self List.mem_cons_self
    (List.cons_ne_nil _ _) env hproperties).mpr fun _ => ?_
  have howner : List.lookup "eier" [("eier", kari)] = some kari := rfl
  have haddress : arrow (some kari) "bosted" = some storgata := rfl
  have hplace : arrow (some storgata) "poststed" = some (.obj [("navn", .str "Finse")]) := rfl
  have hnotNull : kari ≠ .null ∧ storgata ≠ .null := ⟨Json.noConfusion, Json.noConfusion⟩
  -- no object is null, and the one code list has codes
  simp [nullsRequired_objectShape, eier, howner, haddress, hplace, hnotNull, Shape.name,
    ResolvedField.AvoidsEmptyLists, ResolvedField.FieldsAvoidEmptyLists, ResolvedField.shape,
    Shape.NullsRequired, Shape.NullsARequired, ResolvedField.shapes]

open Sample in
/-- An owner that is null is as declared, and refused for its missing name. -/
theorem nestedCheck_refuses_null : resolveDataset ownership noCommons = .ok grunnbok ∧
    (eier.objectShape teig).Admits (some .null) ∧
    nestedCheck env false (some (ownedBy .null)) (jsonbColumn teig eier) =
      .error (.p0001 "field eier.navn: required value is missing") := by
  refine ⟨rfl, ?_, by decide +kernel⟩
  rw [ResolvedField.objectShape, Shape.Admits]
  refine ⟨fun h => ?_, fun v hv hne => ?_⟩
  · cases h
  · cases hv
    exact absurd rfl hne

end Geocomponents
