/-
Nested objects and their checks (`geocomponents/schema/functions.py`:
`_nested_checks`).

* `ResolvedField.shape` — what the description declares of a sub-field;
* `ResolvedField.Regular` — what the loader makes sure of in every field;
* `nestedFieldChecks_iff` — the checks let through exactly what the shapes
  admit, but for code lists without codes, which are not checked, and for null
  in the place of an object with a required child, which is refused.
-/
import Topogdb.Geocomponents.Feature
import Topogdb.Geocomponents.Resolution
import Topogdb.Lib.Shapes

namespace Geocomponents

open Sql Except

/-! ### Regular fields -/

/-- A code-list field is a text that the server does not number, only it has
codes, and only an object has sub-fields. -/
inductive ResolvedField.Regular : ResolvedField → Prop
  | intro {field : ResolvedField}
      (codes : field.codelist.isSome = true → field.sqlType = "text" ∧ field.autoIncrement = false)
      (values : field.codelist = none → field.codelistValues = [])
      (object : field.subFields ≠ [] → field.sqlType = "jsonb")
      (fields : ∀ sub ∈ field.subFields, Regular sub) : Regular field

section Regular

variable {types : List (String × FieldType)} {codelists : List (String × CodeList)}

/-- `_exactly_one_type_source` keeps code lists and auto-increment apart. -/
theorem FieldDef.autoIncrement_of_codelist {field : FieldDef}
    (h : field.exactlyOneTypeSource = .ok ()) (hobject : field.type ≠ some "object")
    (hcodelist : field.codelist.isSome = true) : field.autoIncrement = false := by
  unfold exactlyOneTypeSource at h
  simp only [if_neg hobject] at h
  obtain ⟨codelist, hcodelist⟩ := Option.isSome_iff_exists.mp hcodelist
  rw [hcodelist] at h
  cases htype : field.type with
  | some type =>
    have htwo : [some type, field.typeRef, some codelist].countP Option.isSome ≠ 1 := by
      cases field.typeRef <;> simp
    rw [htype, if_pos htwo] at h
    cases h
  | none =>
    rw [htype] at h
    by_contra hauto
    rw [Bool.not_eq_false] at hauto
    simp only [hauto] at h
    split at h <;> cases h

theorem regular_resolveLeaf {place : String} {fld : FieldDef} {r : ResolvedField}
    (hvalid : fld.Valid) (hobject : fld.type ≠ some "object")
    (h : resolveLeaf types codelists place fld = .ok r) : r.Regular := by
  obtain ⟨hsource, -⟩ := hvalid
  have hauto := FieldDef.autoIncrement_of_codelist hsource hobject
  have hleaf : ∀ r : ResolvedField, r.subFields = [] →
      (r.codelist.isSome = true → r.sqlType = "text" ∧ r.autoIncrement = false) →
      (r.codelist = none → r.codelistValues = []) → r.Regular := by
    intro r hnil hcodes hvalues
    refine .intro hcodes hvalues (fun hne => absurd hnil hne) fun sub hsub => ?_
    rw [hnil] at hsub
    exact absurd hsub List.not_mem_nil
  obtain ⟨name, type, typeRef, codelist, required, autoIncrement, fields, indexable⟩ := fld
  rw [resolveLeaf] at h
  simp only at h hauto
  cases codelist with
  | some codelist =>
    simp only at h
    split at h
    · cases h
    · cases h
      exact hleaf _ rfl (fun _ => ⟨rfl, hauto rfl⟩) fun hnone => by cases hnone
  | none =>
    cases typeRef with
    | some typeRef =>
      simp only at h
      split at h
      · cases h
      · cases h
        exact hleaf _ rfl (fun hnone => by cases hnone) fun _ => rfl
    | none =>
      cases type with
      | none => simp only at h; cases h
      | some type =>
        simp only at h
        split at h
        · cases h
        · cases h
          exact hleaf _ rfl (fun hnone => by cases hnone) fun _ => rfl

mutual

theorem regular_resolveField : ∀ (fld : FieldDef) {place : String} {r : ResolvedField},
    fld.Valid → resolveField types codelists place fld = .ok r → r.Regular
  | ⟨name, type, typeRef, codelist, required, autoIncrement, fields, indexable⟩, place, r,
      hvalid, h => by
    rw [resolveField] at h
    by_cases hobject : type = some "object"
    · rw [if_pos hobject] at h
      obtain ⟨sub, hsub, h⟩ := bind_eq_ok.mp h
      cases h
      cases hvalid with
      | intro _ hfields =>
        refine .intro (fun hnone => by cases hnone) (fun _ => rfl) (fun _ => rfl) ?_
        exact regular_resolveSubFields fields hfields hsub
    · rw [if_neg hobject] at h
      exact regular_resolveLeaf hvalid hobject h

theorem regular_resolveSubFields : ∀ (flds : List FieldDef) {place : String}
    {rs : List ResolvedField}, (∀ fld ∈ flds, fld.Valid) →
    resolveSubFields types codelists place flds = .ok rs → ∀ r ∈ rs, r.Regular
  | [], _, rs, _, h => by
    rw [resolveSubFields] at h
    cases h
    exact fun r hr => absurd hr List.not_mem_nil
  | fld :: flds, place, rs, hvalid, h => by
    rw [resolveSubFields] at h
    obtain ⟨r, hr, h⟩ := bind_eq_ok.mp h
    obtain ⟨rs, hrs, h⟩ := bind_eq_ok.mp h
    cases h
    rw [List.forall_mem_cons] at hvalid ⊢
    exact ⟨regular_resolveField fld hvalid.1 hr, regular_resolveSubFields flds hvalid.2 hrs⟩

end

theorem regular_resolveMerged {place : String} {seen : List String} {flds : List FieldDef}
    {rs : List ResolvedField} (hvalid : ∀ fld ∈ flds, fld.Valid)
    (h : resolveMerged types codelists place seen flds = .ok rs) : ∀ r ∈ rs, r.Regular := by
  induction flds generalizing seen rs with
  | nil =>
    cases h
    exact fun r hr => absurd hr List.not_mem_nil
  | cons fld flds ih =>
    rw [resolveMerged] at h
    split at h
    · cases h
    · obtain ⟨r, hr, h⟩ := bind_eq_ok.mp h
      obtain ⟨rs, hrs, h⟩ := bind_eq_ok.mp h
      cases h
      rw [List.forall_mem_cons] at hvalid ⊢
      exact ⟨regular_resolveField fld hvalid.1 hr, ih hvalid.2 hrs⟩

/-- **The loader makes every field regular.** -/
theorem regular_of_resolveDataset {dataset : DatasetDef} {commons : Commons}
    {resolved : ResolvedDataset} (h : resolveDataset dataset commons = .ok resolved) :
    ∀ rc ∈ resolved.collections, ∀ f ∈ rc.fields, f.Regular := by
  intro rc hrc
  obtain ⟨coll, -, hcoll⟩ := (resolvedFrom_of_resolveDataset h).exists_of_mem_right hrc
  have hfields := hcoll.prepared
  rw [prepareCollection] at hfields
  split at hfields
  · cases hfields
  · obtain ⟨merged, hmerged, hfields⟩ := bind_eq_ok.mp hfields
    obtain ⟨_, -, hfields⟩ := bind_eq_ok.mp hfields
    obtain ⟨_, -, hfields⟩ := bind_eq_ok.mp hfields
    obtain ⟨_, -, hfields⟩ := bind_eq_ok.mp hfields
    rw [Except.ok.inj hfields] at hmerged
    refine regular_resolveMerged (fun fld hfld => ?_) hmerged
    exact (List.mem_append.mp hfld).elim (commons.baseFields_valid fld) (coll.fields_valid fld)

end Regular

/-! ### Shapes -/

namespace ResolvedField

mutual

/-- What the description declares of a sub-field of the field at `path`. -/
def shape (path : String) (supplied : List String) : ResolvedField → Shape
  | ⟨name, sqlType, required, _, subFields, _, codelistValues, codelist⟩ =>
    let fieldPath := s!"{path}.{name}"
    .mk name (required && !(fieldPath ∈ supplied)) (expectedJsonType sqlType) (sqlType = "integer")
      (codelist.map fun _ => codelistValues) (shapes fieldPath supplied subFields)

def shapes (path : String) (supplied : List String) : List ResolvedField → List Shape
  | [] => []
  | field :: fields => shape path supplied field :: shapes path supplied fields

end

mutual

/-- The value has nothing at a code-list field that has no codes. -/
def AvoidsEmptyLists : ResolvedField → Option Json → Prop
  | ⟨_, _, _, _, subFields, _, codelistValues, codelist⟩, value =>
    (codelist.isSome = true → codelistValues = [] → ∀ v, value = some v → v = .null) ∧
      FieldsAvoidEmptyLists subFields value

def FieldsAvoidEmptyLists : List ResolvedField → Option Json → Prop
  | [], _ => True
  | field :: fields, value =>
    AvoidsEmptyLists field (arrow value field.name) ∧ FieldsAvoidEmptyLists fields value

end

variable {path : String} {supplied : List String}

theorem shape_name (f : ResolvedField) : (f.shape path supplied).name = f.name := by
  obtain ⟨name, sqlType, required, autoIncrement, subFields, indexable, values, codelist⟩ := f
  rfl

theorem shapes_eq (fs : List ResolvedField) :
    shapes path supplied fs = fs.map (shape path supplied) := by
  induction fs with
  | nil => rfl
  | cons f fs ih => rw [shapes, ih, List.map_cons]

theorem map_shape_name (fs : List ResolvedField) :
    (fs.map (shape path supplied)).map Shape.name = fs.map (·.name) := by
  rw [List.map_map]
  exact List.map_congr_left fun f _ => shape_name f

theorem fieldsAvoidEmptyLists_iff {fs : List ResolvedField} {value : Option Json} :
    FieldsAvoidEmptyLists fs value ↔ ∀ f ∈ fs, f.AvoidsEmptyLists (arrow value f.name) := by
  induction fs with
  | nil => simp [FieldsAvoidEmptyLists]
  | cons f fs ih => rw [FieldsAvoidEmptyLists, ih, List.forall_mem_cons]

end ResolvedField

/-! ### The checks -/

section Checks

variable {env : Env} {supplied : List String}

theorem nestedFieldPlan_name (path : String) (f : ResolvedField) :
    (nestedFieldPlan path supplied f).name = f.name := by
  obtain ⟨name, sqlType, required, autoIncrement, subFields, indexable, values, codelist⟩ := f
  rfl

theorem map_nestedFieldPlan_name (path : String) (fs : List ResolvedField) :
    (fs.map (nestedFieldPlan path supplied)).map (·.name) = fs.map (·.name) := by
  rw [List.map_map]
  exact List.map_congr_left fun f _ => nestedFieldPlan_name path f

theorem nestedFieldPlans_eq (path : String) (fs : List ResolvedField) :
    nestedFieldPlans path supplied fs = fs.map (nestedFieldPlan path supplied) := by
  induction fs with
  | nil => rfl
  | cons f fs ih => rw [nestedFieldPlans, ih, List.map_cons]

theorem nestedFieldsChecks_ok {object : Option Json} {path : String}
    {fields : List NestedFieldPlan} :
    nestedFieldsChecks env object path fields = .ok () ↔
      ∀ field ∈ fields, nestedFieldChecks env object path field = .ok () := by
  induction fields with
  | nil => exact iff_of_true rfl fun _ h => absurd h List.not_mem_nil
  | cons field fields ih => rw [nestedFieldsChecks, seq_eq_ok, ih, List.forall_mem_cons]

/-- An object that passed has declared members only. -/
theorem undeclaredCheck_ok {ms : List (String × Json)} {path : String} {declared : List String}
    (h : undeclaredCheck (some (.obj ms)) path declared = .ok ()) : ∀ m ∈ ms, m.1 ∈ declared := by
  rw [undeclaredCheck, raiseIf_eq_ok] at h
  intro m hm
  by_contra hnot
  refine h ?_
  have hfound : ((ms.map Prod.fst).find? (· ∉ declared)).isSome = true := by
    rw [List.find?_isSome]
    exact ⟨m.1, List.mem_map_of_mem hm, decide_eq_true hnot⟩
  rw [undeclaredChild, isNotNull, hfound]
  rfl

/-- What the checks of one field say about a member of an object. -/
structure FieldChecked (env : Env) (ms : List (String × Json)) (path sqlType name : String)
    (required : Bool) (codes : List String) (fields : List NestedFieldPlan) : Prop where
  required : required = true → ∃ v, ms.lookup name = some v ∧ v ≠ .null
  type : ∀ v, ms.lookup name = some v → v ≠ .null → typeOf (some v) = some (expectedJsonType sqlType)
  whole : sqlType = "integer" → ∀ q, ms.lookup name = some (.num q) → q.den = 1
  code : codes ≠ [] → ∀ s, ms.lookup name = some (.str s) → s ∈ codes
  fields : ∀ ms', ms.lookup name = some (.obj ms') → fields ≠ [] →
    (∀ m ∈ ms', m.1 ∈ fields.map (·.name)) ∧
      ∀ field ∈ fields, nestedFieldChecks env (some (.obj ms')) path field = .ok ()

theorem fieldChecked {ms : List (String × Json)} {parentPath name sqlType : String}
    {required serverSupplied : Bool} {codes : List String} {fields : List NestedFieldPlan}
    (h : nestedFieldChecks env (some (.obj ms)) parentPath
      (.mk name sqlType required serverSupplied codes fields) = .ok ()) :
    FieldChecked env ms (parentPath ++ "." ++ name) sqlType name (required && !serverSupplied)
      codes fields := by
  rw [nestedFieldChecks.eq_def] at h
  simp only [ite_seq_eq_ok, seq_eq_ok, raiseIf_eq_ok] at h
  -- the five checks, in the order of the generated block
  obtain ⟨hrequired, htype, hwhole, hcode, hfields⟩ := h
  have hkey : hasKey (some (.obj ms)) name = some (ms.lookup name).isSome := rfl
  have hvalue : arrow (some (.obj ms)) name = ms.lookup name := rfl
  rw [hvalue] at hrequired htype hwhole hcode hfields
  rw [hkey] at hrequired htype
  refine ⟨fun hreq => ?_, fun v hv hnull => ?_, fun hinteger q hq => ?_, fun hne str hstr => ?_,
    fun ms' hms' hne => ?_⟩
  · cases hlookup : ms.lookup name with
    | none =>
      rw [hlookup] at hrequired
      exact absurd rfl (hrequired hreq)
    | some v =>
      rw [hlookup] at hrequired
      refine ⟨v, rfl, ?_⟩
      rintro rfl
      exact absurd rfl (hrequired hreq)
  · rw [hv] at htype
    by_contra hother
    refine htype ?_
    obtain ⟨t, ht⟩ : ∃ t, typeOf (some v) = some t := ⟨_, rfl⟩
    have hnot : t ∉ ["null", expectedJsonType sqlType] := by
      rw [List.mem_cons, List.mem_singleton, not_or]
      refine ⟨?_, fun heq => hother (heq ▸ ht)⟩
      rintro rfl
      exact hnull (typeOf_eq_null ht)
    rw [ht, notIn, isIn, Option.map_some, decide_eq_false hnot]
    rfl
  · rw [hq] at hwhole
    by_contra hden
    refine hwhole hinteger ?_
    have hnumber : eq (typeOf (some (.num q))) (some "number") = some true := by simp [eq, typeOf]
    rw [hnumber, Tri.true_and]
    exact congrArg some (decide_eq_true hden)
  · rw [hstr] at hcode
    by_contra hnot
    refine hcode hne ?_
    have hstring : eq (typeOf (some (.str str))) (some "string") = some true := by simp [eq, typeOf]
    have htext : (some (Json.str str)).bind (textOf env.jsonText) = some str := rfl
    rw [hstring, Tri.true_and, htext, notIn, isIn, Option.map_some, decide_eq_false hnot]
    rfl
  · rw [hms'] at hfields
    cases fields with
    | nil => exact absurd rfl hne
    | cons field rest =>
      simp only [seq_eq_ok] at hfields
      obtain ⟨hdeclared, hfield, hrest⟩ := hfields
      refine ⟨undeclaredCheck_ok hdeclared, List.forall_mem_cons.mpr ⟨hfield, ?_⟩⟩
      exact nestedFieldsChecks_ok.mp hrest

/-- What the client must send. -/
def NestedFieldPlan.demanded : NestedFieldPlan → Bool
  | .mk _ _ required serverSupplied _ _ => required && !serverSupplied

mutual

/-- Nothing is checked of an object that is not there. -/
theorem nestedFieldChecks_none : ∀ (field : NestedFieldPlan) (path : String),
    nestedFieldChecks env none path field = .ok ()
  | .mk name sqlType required serverSupplied codes fields, path => by
    rw [nestedFieldChecks.eq_def]
    simp only [ite_seq_eq_ok, seq_eq_ok, raiseIf_eq_ok]
    -- every condition is NULL
    refine ⟨fun _ => ?_, ?_, fun _ => ?_, fun _ => ?_, ?_⟩
    iterate 4
      intro h
      cases h
    cases fields with
    | nil => rfl
    | cons field rest =>
      simp only [seq_eq_ok]
      refine ⟨raiseIf_eq_ok.mpr fun h => ?_, nestedFieldChecks_none field _,
        nestedFieldsChecks_none rest _⟩
      cases h

theorem nestedFieldsChecks_none : ∀ (fields : List NestedFieldPlan) (path : String),
    nestedFieldsChecks env none path fields = .ok ()
  | [], _ => rfl
  | field :: fields, path => by
    rw [nestedFieldsChecks, seq_eq_ok]
    exact ⟨nestedFieldChecks_none field path, nestedFieldsChecks_none fields path⟩

end

/-- In JSON null every required child is missing. -/
theorem nestedFieldChecks_null {field : NestedFieldPlan} {path : String} :
    nestedFieldChecks env (some .null) path field = .ok () ↔ field.demanded = false := by
  obtain ⟨name, sqlType, required, serverSupplied, codes, fields⟩ := field
  rw [nestedFieldChecks.eq_def]
  simp only [ite_seq_eq_ok, seq_eq_ok, raiseIf_eq_ok]
  constructor
  · intro h
    by_contra hdemanded
    exact h.1 (Bool.not_eq_false _ ▸ hdemanded) rfl
  · intro h
    refine ⟨fun hdemanded => ?_, ?_, fun _ => ?_, fun _ => ?_, ?_⟩
    · rw [NestedFieldPlan.demanded, hdemanded] at h
      cases h
    iterate 3
      intro h
      cases h
    · cases fields with
      | nil => rfl
      | cons field rest =>
        simp only [seq_eq_ok]
        refine ⟨raiseIf_eq_ok.mpr fun h => ?_, nestedFieldChecks_none field _,
          nestedFieldsChecks_none rest _⟩
        cases h

/-- The rest of an object's checks, seen from a member. -/
theorem undeclaredCheck_of_declared {object : Option Json} {path : String} {declared : List String}
    (h : ∀ ms, object = some (.obj ms) → ∀ m ∈ ms, m.1 ∈ declared) :
    undeclaredCheck object path declared = .ok () := by
  rw [undeclaredCheck, raiseIf_eq_ok]
  cases object with
  | none =>
    intro h
    cases h
  | some v =>
    cases v with
    | obj ms =>
      have hnone : (ms.map Prod.fst).find? (· ∉ declared) = none := by
        rw [List.find?_eq_none]
        rintro name hname hnot
        obtain ⟨m, hm, rfl⟩ := List.mem_map.mp hname
        exact of_decide_eq_true hnot (h ms rfl m hm)
      rw [undeclaredChild, hnone]
      simp [eq, typeOf, isNotNull, Tri.and]
    | _ => simp [eq, typeOf, Tri.and]

/-- What the checks of one field let through. -/
theorem fieldChecks_ok {ms : List (String × Json)} {parentPath name sqlType : String}
    {required serverSupplied : Bool} {codes : List String} {fields : List NestedFieldPlan}
    (hobject : fields ≠ [] → sqlType = "jsonb") :
    nestedFieldChecks env (some (.obj ms)) parentPath
        (.mk name sqlType required serverSupplied codes fields) = .ok () ↔
      FieldChecked env ms (parentPath ++ "." ++ name) sqlType name (required && !serverSupplied)
          codes fields ∧
        (ms.lookup name = some .null → ∀ field ∈ fields, field.demanded = false) := by
  constructor
  · intro h
    refine ⟨fieldChecked h, fun hnull => ?_⟩
    rw [nestedFieldChecks.eq_def] at h
    simp only [ite_seq_eq_ok, seq_eq_ok] at h
    obtain ⟨-, -, -, -, hfields⟩ := h
    have hvalue : arrow (some (.obj ms)) name = some .null := hnull
    rw [hvalue] at hfields
    cases fields with
    | nil => exact fun _ hfield => absurd hfield List.not_mem_nil
    | cons field rest =>
      simp only [seq_eq_ok] at hfields
      obtain ⟨-, hfield, hrest⟩ := hfields
      rw [List.forall_mem_cons]
      exact ⟨nestedFieldChecks_null.mp hfield,
        fun field hmem => nestedFieldChecks_null.mp (nestedFieldsChecks_ok.mp hrest field hmem)⟩
  · rintro ⟨h, hnull⟩
    have hkey : hasKey (some (.obj ms)) name = some (ms.lookup name).isSome := rfl
    have hvalue : arrow (some (.obj ms)) name = ms.lookup name := rfl
    rw [nestedFieldChecks.eq_def]
    simp only [ite_seq_eq_ok, seq_eq_ok, raiseIf_eq_ok, hkey, hvalue]
    refine ⟨fun hreq => ?_, ?_, fun hinteger => ?_, fun hcodes => ?_, ?_⟩
    · obtain ⟨v, hv, hne⟩ := h.required hreq
      rw [hv]
      cases v with
      | null => exact absurd rfl hne
      | _ => simp [eq, typeOf, Tri.not, Tri.or]
    · cases hlookup : ms.lookup name with
      | none => simp [Tri.and]
      | some v =>
        by_cases hne : v = .null
        · subst hne
          simp [typeOf, notIn, isIn, Tri.not, Tri.and]
        · rw [h.type v hlookup hne]
          simp [notIn, isIn, Tri.not, Tri.and]
    · cases hlookup : ms.lookup name with
      | none => simp [eq, typeOf, Tri.and, isFractional]
      | some v =>
        cases v with
        | num q => simp [eq, typeOf, Tri.and, isFractional, h.whole hinteger q hlookup]
        | _ => simp [eq, typeOf, Tri.and]
    · cases hlookup : ms.lookup name with
      | none => simp [eq, typeOf, Tri.and, notIn, isIn, Tri.not]
      | some v =>
        cases v with
        | str s =>
          simp [eq, typeOf, Tri.and, notIn, isIn, Tri.not, textOf, h.code hcodes s hlookup]
        | _ => simp [eq, typeOf, Tri.and]
    · cases fields with
      | nil => rfl
      | cons field rest =>
        simp only [seq_eq_ok]
        rw [nestedFieldsChecks_ok, ← List.forall_mem_cons (p := fun field =>
          nestedFieldChecks env (ms.lookup name) (parentPath ++ "." ++ name) field = .ok ())]
        cases hlookup : ms.lookup name with
        | none =>
          refine ⟨undeclaredCheck_of_declared fun _ hms => ?_,
            fun field _ => nestedFieldChecks_none field _⟩
          cases hms
        | some v =>
          by_cases hne : v = .null
          · -- inside null every field is missing
            subst hne
            refine ⟨undeclaredCheck_of_declared fun _ hms => ?_,
              fun field hmem => nestedFieldChecks_null.mpr (hnull hlookup field hmem)⟩
            cases hms
          · -- only objects have fields to check
            have htype := h.type v hlookup hne
            rw [hobject (List.cons_ne_nil field rest)] at htype
            obtain ⟨ms', rfl⟩ := typeOf_eq_object htype
            obtain ⟨hdeclared, hfields⟩ := h.fields ms' hlookup (List.cons_ne_nil field rest)
            refine ⟨undeclaredCheck_of_declared fun ms'' hms => ?_, hfields⟩
            cases hms
            exact hdeclared

theorem shape_required (path : String) (f : ResolvedField) :
    (f.shape path supplied).required = (nestedFieldPlan path supplied f).demanded := by
  obtain ⟨name, sqlType, required, autoIncrement, subFields, indexable, values, codelist⟩ := f
  rfl

/-- **The checks of a field are exact**, but for code lists without codes: they
let through what its shape admits, unless null stands for an object with a
required member.  The induction is on the field: its sub-fields are checked in
the object that the member is. -/
theorem nestedFieldChecks_iff {f : ResolvedField} (hf : f.Regular) :
    ∀ {path checkPath : String} {ms : List (String × Json)},
      nestedFieldChecks env (some (.obj ms)) checkPath (nestedFieldPlan path supplied f) = .ok () ↔
        (f.shape path supplied).dropEmptyCodes.Admits (ms.lookup f.name) ∧
          ¬ (f.shape path supplied).NullsRequired (ms.lookup f.name) := by
  induction hf with
  | @intro field hcodes hvalues hobject _ ih =>
    intro path checkPath ms
    obtain ⟨name, sqlType, required, autoIncrement, subFields, indexable, values, codelist⟩ := field
    simp only at hcodes hvalues hobject ih ⊢
    rw [nestedFieldPlan, fieldChecks_ok fun hne => hobject fun hnil => hne (by rw [hnil]; rfl),
      ResolvedField.shape, Shape.dropEmptyCodes, Shape.Admits, Shape.NullsRequired, not_or,
      nestedFieldPlans_eq, ResolvedField.shapes_eq, Shape.dropAllEmptyCodes_eq]
    set fieldPath := s!"{path}.{name}"
    constructor
    · rintro ⟨h, hnull⟩
      refine ⟨⟨h.required, fun v hv hne => ?_⟩, fun hnulls => ?_, fun hnulls => ?_⟩
      · have htype := h.type v hv hne
        refine ⟨htype, fun hwhole q hq => ?_, fun cs hcs => ?_, fun hmembers => ?_⟩
        · exact h.whole (of_decide_eq_true hwhole) q (hq ▸ hv)
        · obtain ⟨hcs, hnil⟩ := Option.filter_eq_some_iff.mp hcs
          obtain ⟨list, rfl, rfl⟩ := Option.map_eq_some_iff.mp hcs
          rw [(hcodes rfl).1] at htype
          obtain ⟨c, rfl⟩ := typeOf_eq_string htype
          exact ⟨c, h.code (of_decide_eq_true hnil) c hv, rfl⟩
        · have hsub : subFields ≠ [] := fun hnil => hmembers (by rw [hnil]; rfl)
          rw [hobject hsub] at htype
          obtain ⟨ms', rfl⟩ := typeOf_eq_object htype
          obtain ⟨hdeclared, hfields⟩ := h.fields ms' hv (by simpa using hsub)
          rw [Shape.admitsAll_iff]
          refine ⟨fun _ hms m hm => ?_, fun s hs => ?_⟩
          · cases hms
            rw [Shape.map_dropEmptyCodes_name, ResolvedField.map_shape_name,
              ← map_nestedFieldPlan_name]
            exact hdeclared m hm
          · obtain ⟨t, ht, rfl⟩ := List.mem_map.mp hs
            obtain ⟨sub, hmem, rfl⟩ := List.mem_map.mp ht
            rw [Shape.dropEmptyCodes_name, ResolvedField.shape_name]
            exact ((ih sub hmem).mp (hfields _ (List.mem_map_of_mem hmem))).1
      · obtain ⟨hv, member, hmember, hrequired⟩ := hnulls
        obtain ⟨sub, hmem, rfl⟩ := List.mem_map.mp hmember
        rw [shape_required, hnull hv _ (List.mem_map_of_mem hmem)] at hrequired
        cases hrequired
      · obtain ⟨s, hs, hnulls⟩ := Shape.nullsARequired_iff.mp hnulls
        obtain ⟨sub, hmem, rfl⟩ := List.mem_map.mp hs
        have hne : subFields ≠ [] := List.ne_nil_of_mem hmem
        rw [ResolvedField.shape_name] at hnulls
        -- only an object has the member that is null
        cases hv : ms.lookup name with
        | none =>
          rw [hv] at hnulls
          exact Shape.not_nullsRequired_none _ hnulls
        | some v =>
          rw [hv] at hnulls
          by_cases hnullv : v = .null
          · subst hnullv
            exact Shape.not_nullsRequired_none _ hnulls
          · have htype := h.type v hv hnullv
            rw [hobject hne] at htype
            obtain ⟨ms', rfl⟩ := typeOf_eq_object htype
            obtain ⟨-, hfields⟩ := h.fields ms' hv (by simpa using hne)
            exact ((ih sub hmem).mp (hfields _ (List.mem_map_of_mem hmem))).2 hnulls
    · rintro ⟨⟨hrequired, hadmits⟩, hnull, hnulls⟩
      rw [Shape.nullsARequired_iff] at hnulls
      refine ⟨⟨hrequired, fun v hv hne => (hadmits v hv hne).1, fun hinteger q hq => ?_,
        fun hne c hc => ?_, fun ms' hms' hne => ?_⟩, fun hv plan hplan => ?_⟩
      · exact (hadmits _ hq (by simp)).2.1 (decide_eq_true hinteger) q rfl
      · cases hcodelist : codelist with
        | none => exact absurd (hvalues hcodelist) hne
        | some list =>
          have hfilter : ((some list).map fun _ => values).filter (· ≠ []) = some values :=
            Option.filter_eq_some_iff.mpr ⟨rfl, decide_eq_true hne⟩
          rw [hcodelist] at hadmits
          obtain ⟨c', hc', heq⟩ := (hadmits _ hc (by simp)).2.2.1 values hfilter
          cases heq
          exact hc'
      · have hsub : subFields ≠ [] := fun hnil => hne (by rw [hnil]; rfl)
        obtain ⟨hdeclared, hall⟩ := (hadmits _ hms' (by simp)).2.2.2 (by simpa using hsub)
        rw [Shape.admitsAll_iff] at hall
        refine ⟨fun m hm => ?_, fun plan hplan => ?_⟩
        · rw [Shape.map_dropEmptyCodes_name, ResolvedField.map_shape_name] at hdeclared
          rw [map_nestedFieldPlan_name]
          exact hdeclared ms' rfl m hm
        · obtain ⟨sub, hmem, rfl⟩ := List.mem_map.mp hplan
          refine (ih sub hmem).mpr ⟨?_, fun hnull => ?_⟩
          · have hadmitted := hall _ (List.mem_map_of_mem (List.mem_map_of_mem hmem))
            rwa [Shape.dropEmptyCodes_name, ResolvedField.shape_name] at hadmitted
          · refine hnulls ⟨_, List.mem_map_of_mem hmem, ?_⟩
            rw [ResolvedField.shape_name, hms']
            exact hnull
      · obtain ⟨sub, hmem, rfl⟩ := List.mem_map.mp hplan
        rw [← shape_required]
        by_contra hdemanded
        rw [Bool.not_eq_false] at hdemanded
        exact hnull ⟨hv, _, List.mem_map_of_mem hmem, hdemanded⟩

/-- Absence avoids every code list. -/
theorem avoidsEmptyLists_none {f : ResolvedField} (hf : f.Regular) : f.AvoidsEmptyLists none := by
  induction hf with
  | @intro field _ _ _ _ ih =>
    obtain ⟨name, sqlType, required, autoIncrement, subFields, indexable, values, codelist⟩ := field
    rw [ResolvedField.AvoidsEmptyLists, ResolvedField.fieldsAvoidEmptyLists_iff]
    refine ⟨fun _ _ v hv => ?_, ih⟩
    cases hv

/-- One level of `shape_admits_iff`. -/
theorem mk_admits_iff {subs : List ResolvedField} (hregular : ∀ sub ∈ subs, sub.Regular)
    {name type path : String} {required whole : Bool} {codes : Option (List String)}
    (ih : ∀ sub ∈ subs, ∀ value : Option Json, (sub.shape path supplied).Admits value ↔
      (sub.shape path supplied).dropEmptyCodes.Admits value ∧ sub.AvoidsEmptyLists value)
    {value : Option Json} :
    (Shape.mk name required type whole codes (ResolvedField.shapes path supplied subs)).Admits
        value ↔
      (Shape.mk name required type whole codes
          (ResolvedField.shapes path supplied subs)).dropEmptyCodes.Admits value ∧
        (codes = some [] → ∀ v, value = some v → v = .null) ∧
        ResolvedField.FieldsAvoidEmptyLists subs value := by
  rw [Shape.dropEmptyCodes, Shape.Admits, Shape.Admits, ResolvedField.shapes_eq,
    Shape.dropAllEmptyCodes_eq, ResolvedField.fieldsAvoidEmptyLists_iff]
  constructor
  · rintro ⟨hrequired, hadmits⟩
    refine ⟨⟨hrequired, fun v hv hne => ?_⟩, fun hnil v hv => ?_, fun sub hmem => ?_⟩
    · obtain ⟨htype, hwhole, hcodes, hmembers⟩ := hadmits v hv hne
      refine ⟨htype, hwhole, fun cs hcs => hcodes cs (Option.filter_eq_some_iff.mp hcs).1,
        fun hsub => ?_⟩
      obtain ⟨hdeclared, hall⟩ := hmembers (by simpa using hsub)
      rw [Shape.admitsAll_iff] at hall ⊢
      refine ⟨by rwa [Shape.map_dropEmptyCodes_name], fun s hs => ?_⟩
      obtain ⟨t, ht, rfl⟩ := List.mem_map.mp hs
      obtain ⟨sub, hmem, rfl⟩ := List.mem_map.mp ht
      rw [Shape.dropEmptyCodes_name]
      exact ((ih sub hmem _).mp (hall _ ht)).1
    · by_contra hne
      obtain ⟨c, hc, -⟩ := (hadmits v hv hne).2.2.1 [] hnil
      exact List.not_mem_nil hc
    · -- null and an absent value hold no code
      cases value with
      | none => exact avoidsEmptyLists_none (hregular sub hmem)
      | some v =>
        by_cases hne : v = .null
        · subst hne
          exact avoidsEmptyLists_none (hregular sub hmem)
        · have hall := ((hadmits v rfl hne).2.2.2 (by simpa using List.ne_nil_of_mem hmem)).2
          rw [Shape.admitsAll_iff] at hall
          have hsub := hall _ (List.mem_map_of_mem hmem)
          rw [ResolvedField.shape_name] at hsub
          exact ((ih sub hmem _).mp hsub).2
  · rintro ⟨⟨hrequired, hadmits⟩, hempty, hsubs⟩
    refine ⟨hrequired, fun v hv hne => ?_⟩
    obtain ⟨htype, hwhole, hcodes, hmembers⟩ := hadmits v hv hne
    refine ⟨htype, hwhole, fun cs hcs => ?_, fun hsub => ?_⟩
    · refine hcodes cs (Option.filter_eq_some_iff.mpr ⟨hcs, decide_eq_true fun hnil => ?_⟩)
      exact hne (hempty (hnil ▸ hcs) v hv)
    · obtain ⟨hdeclared, hall⟩ := hmembers (by simpa using hsub)
      rw [Shape.map_dropEmptyCodes_name] at hdeclared
      rw [Shape.admitsAll_iff] at hall ⊢
      refine ⟨hdeclared, fun s hs => ?_⟩
      obtain ⟨sub, hmem, rfl⟩ := List.mem_map.mp hs
      have hadmitted := hall _ (List.mem_map_of_mem hs)
      rw [Shape.dropEmptyCodes_name] at hadmitted
      subst hv
      rw [ResolvedField.shape_name] at hadmitted ⊢
      exact (ih sub hmem _).mpr ⟨hadmitted, hsubs sub hmem⟩

/-- An empty code list admits nothing but null. -/
theorem shape_admits_iff {f : ResolvedField} (hf : f.Regular) :
    ∀ (path : String) (value : Option Json), (f.shape path supplied).Admits value ↔
      (f.shape path supplied).dropEmptyCodes.Admits value ∧ f.AvoidsEmptyLists value := by
  induction hf with
  | @intro field _ _ _ hfields ih =>
    intro path value
    obtain ⟨name, sqlType, required, autoIncrement, subFields, indexable, values, codelist⟩ := field
    simp only at hfields ih
    rw [ResolvedField.shape, ResolvedField.AvoidsEmptyLists,
      mk_admits_iff hfields fun sub hsub => ih sub hsub _]
    have hempty : (codelist.map (fun _ => values) = some [] → ∀ v, value = some v → v = .null) ↔
        (codelist.isSome = true → values = [] → ∀ v, value = some v → v = .null) := by
      cases codelist with
      | none => simp
      | some list => simp
    rw [hempty]

/-- **The checks let through what the shapes admit.** -/
theorem admits_of_nestedFieldChecks {f : ResolvedField} (hf : f.Regular)
    {path checkPath : String} {ms : List (String × Json)}
    (h : nestedFieldChecks env (some (.obj ms)) checkPath (nestedFieldPlan path supplied f) = .ok ())
    (havoid : f.AvoidsEmptyLists (ms.lookup f.name)) :
    (f.shape path supplied).Admits (ms.lookup f.name) :=
  (shape_admits_iff hf _ _).mpr ⟨((nestedFieldChecks_iff hf).mp h).1, havoid⟩

end Checks

end Geocomponents
