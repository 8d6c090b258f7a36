/-
Values that are read and sent back.

A client edits a feature by sending back what it was shown.  For one field, this
says when a complete write takes what is shown of a stored value, and shows the
same of what it then stores.

* `SameValue`, `SameFeature` — the same but for the timestamps of the server;
* `Takes` — a complete write accepts what it reads for a column, and stores it;
* `takes_object_iff`, `takes_client`, `takes_copy_iff` — the fields with sub-fields,
  of the client, and copied from the outward identifier;
* `takes_field_iff` — any field.
-/
import Topogdb.Geocomponents.DotPaths
import Topogdb.Geocomponents.NestedValidation
import Topogdb.Geocomponents.ShownLinks
import Topogdb.Geocomponents.StoredValues

namespace Geocomponents

open Prog Sql Except

variable {Geometry : Type}

/-! ### Objects -/

/-- A text may stand in the sub-field. -/
def ResolvedField.TakesText (sub : ResolvedField) (text : String) : Prop :=
  expectedJsonType sub.sqlType = "string" ∧ (sub.codelistValues ≠ [] → text ∈ sub.codelistValues)

theorem takesText_iff {sub : ResolvedField} (hregular : sub.Regular) {text path : String}
    {supplied : List String} : sub.TakesText text ↔
      (sub.shape path supplied).dropEmptyCodes.Admits (some (.str text)) ∧
        ¬ (sub.shape path supplied).NullsRequired (some (.str text)) := by
  obtain ⟨-, hvalues, hobject, -⟩ := hregular
  obtain ⟨name, sqlType, required, autoIncrement, subFields, indexable, values, codelist⟩ := sub
  simp only at hvalues hobject
  rw [ResolvedField.TakesText, ResolvedField.shape, Shape.dropEmptyCodes, Shape.Admits,
    Shape.NullsRequired, ResolvedField.shapes_eq, Shape.dropAllEmptyCodes_eq]
  constructor
  · rintro ⟨hstring, hcodes⟩
    have hsub : subFields = [] := by
      by_contra hne
      have hjson := hobject hne
      simp only [hjson] at hstring
      exact absurd hstring (by decide)
    subst hsub
    refine ⟨⟨fun _ => ⟨_, rfl, fun h => (by cases h)⟩, fun v hv _ => ?_⟩, ?_⟩
    · cases hv
      refine ⟨congrArg some hstring.symm, fun _ q hq => ?_, fun cs hcs => ?_, fun hne => ?_⟩
      · cases hq
      · obtain ⟨hcs, hne⟩ := Option.filter_eq_some_iff.mp hcs
        obtain ⟨list, rfl, rfl⟩ := Option.map_eq_some_iff.mp hcs
        exact ⟨text, hcodes (of_decide_eq_true hne), rfl⟩
      · exact absurd rfl hne
    · rintro (⟨h, -⟩ | h)
      · cases h
      · exact h
  · rintro ⟨⟨-, hadmits⟩, -⟩
    obtain ⟨htype, -, hcodes, -⟩ := hadmits _ rfl fun h => by cases h
    refine ⟨(Option.some.inj htype).symm, fun hne => ?_⟩
    cases codelist with
    | none => exact absurd (hvalues rfl) hne
    | some list =>
      have hlist : ((some list).map fun _ => values).filter (fun cs => decide (cs ≠ [])) =
          some values := by
        simpa using hne
      obtain ⟨c, hc, heq⟩ := hcodes values hlist
      cases heq
      exact hc

section Objects

variable {env : Env} {rc : ResolvedCollection} {f : ResolvedField} {id : Uuid}
  {feature : Option Json} {members : List (String × Json)}

/-- What is shown in an object under a key that the server manages: the id of the
row, or a timestamp that was stored. -/
def ShowsText (rc : ResolvedCollection) (f : ResolvedField) (id : Uuid) (ms : List (String × Json))
    (key text : String) : Prop :=
  ((injectedKeys rc f.name).idInjectKey = some key ∧ text = id.text) ∨
    ((injectedKeys rc f.name).idInjectKey ≠ some key ∧
      key ∈ (injectedKeys rc f.name).writeInject ∧ ms.lookup key = some (.str text))

/-- The members of a stored object as they are shown: the id is put over them. -/
def shownMembers (rc : ResolvedCollection) (f : ResolvedField) (id : Uuid)
    (ms : List (String × Json)) : List (String × Json) :=
  match (injectedKeys rc f.name).idInjectKey with
  | none => ms
  | some key => ms.filter (fun m => m.1 ≠ key) ++ [(key, .str id.text)]

/-- What the server puts into an object stands in declared texts. -/
def ResolvedField.TakesTexts (rc : ResolvedCollection) (f : ResolvedField) (id : Uuid)
    (ms : List (String × Json)) : Prop :=
  ∀ key text, ShowsText rc f id ms key text →
    key ∈ f.subFields.map (·.name) ∧ ∀ sub ∈ f.subFields, sub.name = key → sub.TakesText text

/-- A stored object that is accepted again as it is shown: what the server puts
into it stands in declared texts, and can be stripped again.  In place of an object
there may be null only if nothing is stripped from it and nothing is required in
it. -/
def ResolvedField.ReadsBack (rc : ResolvedCollection) (f : ResolvedField) (id : Uuid) :
    Option Datum → Prop
  | some (.json (.obj ms)) => f.TakesTexts rc id ms ∧
      Deletable (injectedKeys rc f.name).stripKeys (shownMembers rc f id ms)
  | _ => (injectedKeys rc f.name).stripKeys = [] ∧ f.required = false ∧
      ∀ sub ∈ f.subFields, (sub.shape f.name (serverSuppliedPaths rc)).required = false

theorem mem_shownMembers {ms : List (String × Json)} {m : String × Json}
    (hm : m ∈ shownMembers rc f id ms) :
    m ∈ ms ∨ (injectedKeys rc f.name).idInjectKey = some m.1 := by
  rw [shownMembers] at hm
  cases hkey : (injectedKeys rc f.name).idInjectKey with
  | none =>
    rw [hkey] at hm
    exact .inl hm
  | some injected =>
    rw [hkey] at hm
    rcases List.mem_append.mp hm with hold | hnew
    · exact .inl (List.mem_of_mem_filter hold)
    · rw [List.mem_singleton.mp hnew]
      exact .inr rfl

theorem lookup_shownMembers (rc : ResolvedCollection) (f : ResolvedField) (id : Uuid)
    (ms : List (String × Json)) (key : String) :
    (shownMembers rc f id ms).lookup key =
      if (injectedKeys rc f.name).idInjectKey = some key then some (.str id.text)
      else ms.lookup key := by
  rw [shownMembers]
  cases (injectedKeys rc f.name).idInjectKey with
  | none => simp
  | some injected => exact lookup_injected ms injected key _

/-- The id is put under a stripped key. -/
theorem stripKeys_of_idInjectKey {key : String}
    (h : (injectedKeys rc f.name).idInjectKey = some key) :
    key ∈ (injectedKeys rc f.name).stripKeys := by
  obtain ⟨e, he, -, hsplit⟩ := (injects_injectedKeys rc f.name).id key h
  exact ((injects_injectedKeys rc f.name).strip key).mpr ⟨e, he, hsplit⟩

/-- Without stripped keys there are no others. -/
theorem injectedKeys_of_stripKeys_nil (h : (injectedKeys rc f.name).stripKeys = []) :
    (injectedKeys rc f.name).idInjectKey = none ∧ (injectedKeys rc f.name).writeInject = [] := by
  constructor
  · refine Option.eq_none_iff_forall_ne_some.mpr fun key hkey => ?_
    have hmem := stripKeys_of_idInjectKey hkey
    rw [h] at hmem
    exact List.not_mem_nil hmem
  · refine List.eq_nil_iff_forall_not_mem.mpr fun key hkey => ?_
    have hmem := (supplied_injectedKeys rc f.name).write key hkey
    rw [h] at hmem
    exact List.not_mem_nil hmem

/-- A stripped child is not asked for. -/
theorem required_of_mem_stripKeys {sub : ResolvedField}
    (h : sub.name ∈ (injectedKeys rc f.name).stripKeys) :
    (sub.shape f.name (serverSuppliedPaths rc)).required = false := by
  have hsupplied := (supplied_injectedKeys rc f.name).strip sub.name h
  obtain ⟨name, sqlType, required, autoIncrement, subFields, indexable, values, codelist⟩ := sub
  have hpath : s!"{f.name}.{name}" = f.name ++ "." ++ name := rfl
  simp only [ResolvedField.shape, Shape.required, hpath]
  rw [decide_eq_true hsupplied]
  simp

/-- The check of an object, by its members. -/
theorem nestedCheck_object (hf : f.Regular) (hsub : f.subFields ≠ [])
    (hproperties : properties feature = some (.obj members)) {ms : List (String × Json)}
    (hms : members.lookup f.name = some (.obj ms)) :
    nestedCheck env false feature (jsonbColumn rc f) = .ok () ↔
      (∀ m ∈ ms, m.1 ∈ f.subFields.map (·.name)) ∧ ∀ sub ∈ f.subFields,
        (sub.shape f.name (serverSuppliedPaths rc)).dropEmptyCodes.Admits (ms.lookup sub.name) ∧
          ¬ (sub.shape f.name (serverSuppliedPaths rc)).NullsRequired (ms.lookup sub.name) := by
  have hplans : (jsonbColumn rc f).nestedFields ≠ [] := by
    show nestedFieldPlans f.name (serverSuppliedPaths rc) f.subFields ≠ []
    rw [nestedFieldPlans_eq]
    simpa using hsub
  have hvalue : arrow (properties feature) (jsonbColumn rc f).name = some (.obj ms) := by
    rw [hproperties]
    exact hms
  obtain ⟨-, -, -, hfields⟩ := hf
  rw [nestedCheck, if_neg hplans, hasKey_of_arrow hvalue, hvalue, ← nestedObjectChecks_iff hfields]
  simp only [ite_seq_eq_ok, seq_eq_ok, raiseIf_eq_ok, Bool.not_false, Bool.true_or, if_true,
    Bool.false_eq_true, if_false]
  have hobject : eq (typeOf (some (Json.obj ms))) (some "null") = some false := by simp [eq, typeOf]
  have htype : notIn (typeOf (some (Json.obj ms))) ["object", "null"] = some false := by
    simp [typeOf, notIn, isIn, Tri.not]
  rw [hobject, htype]
  refine ⟨fun h => h.2.2, fun h => ⟨fun _ => ?_, ?_, h⟩⟩
  · simp [Tri.not, Tri.or]
  · simp

/-- The check of null in the place of an object. -/
theorem nestedCheck_null (hf : f.Regular) (hsub : f.subFields ≠ [])
    (hproperties : properties feature = some (.obj members))
    (hnull : members.lookup f.name = some .null) :
    nestedCheck env false feature (jsonbColumn rc f) = .ok () ↔ f.required = false ∧
      ∀ sub ∈ f.subFields, (sub.shape f.name (serverSuppliedPaths rc)).required = false := by
  rw [nestedCheck_iff hf hsub hproperties, hnull, nullsRequired_objectShape,
    ResolvedField.objectShape, Shape.dropEmptyCodes, Shape.Admits]
  have hdeep : ∀ sub ∈ f.subFields,
      ¬ (sub.shape f.name (serverSuppliedPaths rc)).NullsRequired (arrow (some .null) sub.name) :=
    fun _ _ => Shape.not_nullsRequired_none _
  constructor
  · rintro ⟨⟨hrequired, -⟩, hnulls⟩
    refine ⟨?_, fun sub hmem => ?_⟩
    · by_contra h
      obtain ⟨v, hv, hne⟩ := hrequired (by simpa using h)
      exact hne (Option.some.inj hv).symm
    · by_contra h
      exact hnulls (.inl ⟨rfl, sub, hmem, by simpa using h⟩)
  · rintro ⟨hrequired, hall⟩
    refine ⟨⟨fun h => ?_, fun v hv hne => absurd (Option.some.inj hv).symm hne⟩, ?_⟩
    · rw [hrequired] at h
      cases h
    · rintro (⟨-, sub, hmem, hreq⟩ | ⟨sub, hmem, hreq⟩)
      · rw [hall sub hmem] at hreq
        cases hreq
      · exact hdeep sub hmem hreq

/-- **A shown object is accepted exactly when its texts stand where texts may.** -/
theorem nestedCheck_shown (hf : f.Regular) (hsub : f.subFields ≠ []) {ms : List (String × Json)}
    (hstored : StoredObject rc f ms) (hproperties : properties feature = some (.obj members))
    (hms' : members.lookup f.name = some (.obj (shownMembers rc f id ms))) :
    nestedCheck env false feature (jsonbColumn rc f) = .ok () ↔ f.TakesTexts rc id ms := by
  have hlookup := lookup_shownMembers rc f id ms
  have htext : ∀ key text, ShowsText rc f id ms key text →
      (shownMembers rc f id ms).lookup key = some (.str text) := by
    rintro key text (⟨hid, rfl⟩ | ⟨hid, -, hstamp⟩)
    · rw [hlookup, if_pos hid]
    · rw [hlookup, if_neg hid, hstamp]
  rw [nestedCheck_object hf hsub hproperties hms']
  obtain ⟨-, -, -, hfields⟩ := hf
  constructor
  · rintro ⟨hdeclared, hall⟩ key text hshows
    have hshown := htext key text hshows
    refine ⟨hdeclared _ (Python.mem_of_lookup hshown), ?_⟩
    rintro sub hmem rfl
    have hsub' := hall sub hmem
    rw [hshown] at hsub'
    exact (takesText_iff (hfields sub hmem)).mpr hsub'
  · intro hreads
    have hkey : ∀ key ∈ (injectedKeys rc f.name).writeInject,
        ∃ text, ShowsText rc f id ms key text := by
      intro key hkey
      by_cases hid : (injectedKeys rc f.name).idInjectKey = some key
      · exact ⟨_, .inl ⟨hid, rfl⟩⟩
      · obtain ⟨text, hstamp⟩ := hstored.stamped key hkey
        exact ⟨text, .inr ⟨hid, hkey, hstamp⟩⟩
    refine ⟨fun m hm => ?_, fun sub hmem' => ?_⟩
    · rcases mem_shownMembers hm with hold | hid
      · rcases hstored.declared m hold with hdeclared | hwrite
        · exact hdeclared
        · obtain ⟨text, hshows⟩ := hkey m.1 hwrite
          exact (hreads m.1 text hshows).1
      · exact (hreads m.1 _ (.inl ⟨hid, rfl⟩)).1
    · by_cases hshows : ∃ text, ShowsText rc f id ms sub.name text
      · obtain ⟨text, hshows⟩ := hshows
        rw [htext _ _ hshows]
        exact (takesText_iff (hfields sub hmem')).mp ((hreads _ text hshows).2 sub hmem' rfl)
      · have hnoId : (injectedKeys rc f.name).idInjectKey ≠ some sub.name :=
          fun hid => hshows ⟨_, .inl ⟨hid, rfl⟩⟩
        have hnoWrite : sub.name ∉ (injectedKeys rc f.name).writeInject :=
          fun hwrite => hshows (hkey _ hwrite)
        rw [hlookup, if_neg hnoId]
        by_cases hstrip : sub.name ∈ (injectedKeys rc f.name).stripKeys
        · rw [hstored.stripped _ hstrip hnoWrite]
          refine ⟨?_, Shape.not_nullsRequired_none _⟩
          rw [Shape.admits_none, Shape.dropEmptyCodes_required]
          exact required_of_mem_stripKeys hstrip
        · exact hstored.members sub hmem' hstrip

end Objects

/-! ### The same feature -/

/-- The value of a property, before and after, but for the timestamps of the
server. -/
def SameValue (rc : ResolvedCollection) (name : String) (before after : Option Json) : Prop :=
  (name, ServerManagedToken.timestampIso) ∈ rc.serverManagedPaths ∨ after = before ∨
    ∃ ms ms', before = some (.obj ms) ∧ after = some (.obj ms') ∧ ∀ key,
      (name ++ "." ++ key, ServerManagedToken.timestampIso) ∈ rc.serverManagedPaths ∨
        ms'.lookup key = ms.lookup key

/-- A feature, before and after, but for `updated_at` and the timestamps of the
server. -/
structure SameFeature (rc : ResolvedCollection) (before after : Json) : Prop where
  members : ∀ name, name ≠ "properties" → after.get? name = before.get? name
  properties : ∀ name, name ≠ "updated_at" →
    SameValue rc name (arrow (before.get? "properties") name) (arrow (after.get? "properties") name)

theorem SameValue.refl (rc : ResolvedCollection) (name : String) (value : Option Json) :
    SameValue rc name value value := .inr (.inl rfl)

/-- A timestamp in an object is at a path of the server. -/
theorem timestamp_of_writeInject {rc : ResolvedCollection} {field key : String}
    (h : key ∈ (injectedKeys rc field).writeInject) :
    (field ++ "." ++ key, ServerManagedToken.timestampIso) ∈ rc.serverManagedPaths := by
  obtain ⟨e, he, htoken, hsplit⟩ := ((injects_injectedKeys rc field).write key).mp h
  have hpath : e.1 = field ++ "." ++ key := splitFirst_eq hsplit
  rw [← hpath, ← htoken]
  rcases List.mem_append.mp (mem_paths_of_mem_managedPaths he) with hserver | houtward
  · exact hserver
  · obtain ⟨path, -, rfl⟩ := List.mem_map.mp houtward
    cases htoken

/-! ### A column read back -/

section Columns

variable {rd : Reader Geometry} {env : Env} {rc : ResolvedCollection} {f : ResolvedField}
  {id : Uuid} {feature : Option Json} {members : List (String × Json)} {served : Env → Prop}

/-- A complete write takes what it reads of the document for a column. -/
structure Takes (env : Env) (feature : Option Json) (col : ColumnPlan) (new : Option Datum) :
    Prop where
  enum : col.serverWriteExpr = none → enumCheck env false feature col = .ok ()
  nested : col.serverWriteExpr = none → nestedCheck env false feature col = .ok ()
  read : col.serverWriteExpr = none → propRead env col feature = .ok new
  write : ∀ expr, col.serverWriteExpr = some expr → serverWrite env col feature expr = .ok new
  notNull : col.nullable = false → new ≠ none

/-- What is shown of a stored object. -/
theorem shownValue_object (rd : Reader Geometry) (rc : ResolvedCollection) (f : ResolvedField)
    (id : Uuid) (ms : List (String × Json)) :
    shownValue rd id (jsonbColumn rc f) (some (.json (.obj ms))) =
      .obj (shownMembers rc f id ms) := by
  have hkey : (jsonbColumn rc f).idInjectKey = (injectedKeys rc f.name).idInjectKey := rfl
  rw [shownValue, shownMembers, hkey]
  cases (injectedKeys rc f.name).idInjectKey <;> rfl

/-- A json value in which no key is managed is shown as it is. -/
theorem shownValue_json (hstrip : (injectedKeys rc f.name).stripKeys = []) (j : Json) :
    shownValue rd id (jsonbColumn rc f) (some (.json j)) = j := by
  have hkey : (jsonbColumn rc f).idInjectKey = none := (injectedKeys_of_stripKeys_nil hstrip).1
  rw [shownValue, hkey]
  rfl

theorem shownValue_none (col : ColumnPlan) : shownValue rd id col none = .null := by
  unfold shownValue
  cases col.idInjectKey <;> rfl

/-- Nothing is stripped from a json value in which no key is managed. -/
theorem propRead_json (hjson : f.sqlType = "jsonb")
    (hstrip : (injectedKeys rc f.name).stripKeys = [])
    (hproperties : properties feature = some (.obj members)) {j : Json}
    (hj : members.lookup f.name = some j) :
    propRead env (jsonbColumn rc f) feature = .ok (some (.json j)) := by
  have htype : (jsonbColumn rc f).sqlType = "jsonb" := hjson
  have hvalue : arrow (properties feature) (jsonbColumn rc f).name = some j := by
    rw [hproperties]
    exact hj
  have hkeys : (jsonbColumn rc f).stripKeys = [] := hstrip
  have hwrite : (jsonbColumn rc f).writeInject = [] := (injectedKeys_of_stripKeys_nil hstrip).2
  rw [propRead, if_pos htype, hvalue, hkeys, hwrite]
  rfl

theorem enumCheck_jsonbColumn : enumCheck env false feature (jsonbColumn rc f) = .ok () := by
  have hcodes : (jsonbColumn rc f).codelistValues = [] := rfl
  rw [enumCheck, if_pos hcodes]

/-- A json column takes what its check lets through. -/
theorem takes_jsonbColumn {new : Datum}
    (hnested : nestedCheck env false feature (jsonbColumn rc f) = .ok ())
    (hread : propRead env (jsonbColumn rc f) feature = .ok (some new)) :
    Takes env feature (jsonbColumn rc f) (some new) :=
  ⟨fun _ => enumCheck_jsonbColumn, fun _ => hnested, fun _ => hread, fun _ h => (by cases h),
    fun _ => Option.some_ne_none new⟩

/-- **An object with sub-fields is taken back, and shown as before, exactly when it
reads back.** -/
theorem takes_object_iff (hf : f.Regular) (hsub : f.subFields ≠ []) {value : Option Datum}
    (hstored : StoredValue served rc f value)
    (hproperties : properties feature = some (.obj members))
    (hshown : members.lookup f.name = some (shownValue rd id (jsonbColumn rc f) value)) :
    (∃ new, Takes env feature (jsonbColumn rc f) new ∧ SameValue rc f.name
        (some (shownValue rd id (jsonbColumn rc f) value))
        (some (shownValue rd id (jsonbColumn rc f) new))) ↔ f.ReadsBack rc id value := by
  have hjson : f.sqlType = "jsonb" := by
    obtain ⟨-, -, hobject, -⟩ := hf
    exact hobject hsub
  have htype : (jsonbColumn rc f).sqlType = "jsonb" := hjson
  -- null is what an absent value and a stored null are both shown as
  have hnull : ∀ value, shownValue rd id (jsonbColumn rc f) value = .null →
      members.lookup f.name = some .null → ((∃ new, Takes env feature (jsonbColumn rc f) new ∧
        SameValue rc f.name (some (shownValue rd id (jsonbColumn rc f) value))
          (some (shownValue rd id (jsonbColumn rc f) new))) ↔
        (injectedKeys rc f.name).stripKeys = [] ∧ f.required = false ∧
          ∀ sub ∈ f.subFields, (sub.shape f.name (serverSuppliedPaths rc)).required = false) := by
    intro value hvalue hlookup
    constructor
    · rintro ⟨new, htakes, -⟩
      refine ⟨?_, (nestedCheck_null hf hsub hproperties hlookup).mp (htakes.nested rfl)⟩
      have hread := htakes.read rfl
      have harrow : arrow (properties feature) (jsonbColumn rc f).name = some .null := by
        rw [hproperties]
        exact hlookup
      rw [propRead, if_pos htype, harrow] at hread
      obtain ⟨v, hstrip, -⟩ := Except.bind_eq_ok.mp hread
      exact (foldlM_deletePath_null hstrip).1
    · rintro ⟨hstrip, hrequired⟩
      refine ⟨some (.json .null), takes_jsonbColumn
        ((nestedCheck_null hf hsub hproperties hlookup).mpr hrequired)
        (propRead_json hjson hstrip hproperties hlookup), ?_⟩
      rw [hvalue, shownValue_json hstrip]
      exact .refl _ _ _
  cases value with
  | none => exact hnull none (shownValue_none _) (hshown.trans (by rw [shownValue_none]))
  | some d =>
    obtain ⟨j, rfl⟩ := hstored.json hjson d rfl
    rcases hstored.object hsub j rfl with ⟨rfl, hstrip⟩ | ⟨ms, rfl, hobject⟩
    · exact hnull _ (shownValue_json hstrip _) (hshown.trans (by rw [shownValue_json hstrip]))
    · rw [shownValue_object] at hshown ⊢
      have harrow : arrow (properties feature) (jsonbColumn rc f).name =
          some (.obj (shownMembers rc f id ms)) := by
        rw [hproperties]
        exact hshown
      have hnested : nestedCheck env false feature (jsonbColumn rc f) = .ok () ↔ _ :=
        nestedCheck_shown hf hsub hobject hproperties hshown
      constructor
      · rintro ⟨new, htakes, -⟩
        exact ⟨hnested.mp (htakes.nested rfl), ((propRead_object htype harrow).mp (htakes.read rfl)).1⟩
      · rintro ⟨htexts, hdelete⟩
        -- an object comes back as it was shown, but for the keys that the server fills
        have hread : propRead env (jsonbColumn rc f) feature = .ok _ :=
          (propRead_object htype harrow).mpr ⟨hdelete, rfl⟩
        obtain ⟨new, hvalue, -, hnew⟩ := exists_propRead_object htype harrow hread
        rw [hvalue] at hread
        refine ⟨_, takes_jsonbColumn (hnested.mpr htexts) hread, ?_⟩
        rw [shownValue_object]
        refine .inr (.inr ⟨_, _, rfl, rfl, fun key => ?_⟩)
        by_cases hwrite : key ∈ (injectedKeys rc f.name).writeInject
        · exact .inl (timestamp_of_writeInject hwrite)
        · refine .inr ?_
          -- key by key: stamped, the id, stripped, or untouched
          have hlookup := lookup_shownMembers rc f id ms key
          rw [lookup_shownMembers rc f id new key]
          by_cases hid : (injectedKeys rc f.name).idInjectKey = some key
          · rw [if_pos hid, hlookup, if_pos hid]
          · rw [if_neg hid, hnew]
            refine (if_neg hwrite).trans ?_
            by_cases hstrip : key ∈ (injectedKeys rc f.name).stripKeys
            · rw [hlookup, if_neg hid, hobject.stripped key hstrip hwrite]
              exact if_pos hstrip
            · exact if_neg hstrip

/-- Null in the place of an object is refused, or stays; an array never is one. -/
theorem not_takes_array (hsub : f.subFields ≠ []) {items : List Json}
    (hproperties : properties feature = some (.obj members))
    (hshown : members.lookup f.name = some (.arr items)) (new : Option Datum) :
    ¬ Takes env feature (jsonbColumn rc f) new := by
  intro htakes
  have hplans : (jsonbColumn rc f).nestedFields ≠ [] := by
    show nestedFieldPlans f.name (serverSuppliedPaths rc) f.subFields ≠ []
    rw [nestedFieldPlans_eq]
    simpa using hsub
  have harrow : arrow (properties feature) (jsonbColumn rc f).name = some (.arr items) := by
    rw [hproperties]
    exact hshown
  obtain ⟨ms, hms, -⟩ :=
    object_of_nestedCheck (htakes.nested rfl) hplans harrow fun h => by cases h
  cases hms

/-- The loader finds sub-fields where a key is managed. -/
theorem stripKeys_of_subFields_nil (hfields : FindsFields rc)
    (hnodup : (rc.fields.map (·.name)).Nodup) (hf : f ∈ rc.fields) (hsub : f.subFields = []) :
    (injectedKeys rc f.name).stripKeys = [] := by
  refine List.eq_nil_iff_forall_not_mem.mpr fun key hkey => ?_
  obtain ⟨e, he, hsplit⟩ := ((injects_injectedKeys rc f.name).strip key).mp hkey
  obtain ⟨f', hf', hname, hfound⟩ := hfields e he
  have hsame : f' = f := by
    refine List.inj_on_of_nodup_map hnodup hf' hf ?_
    rw [hname, pathColumn_of_splitFirst hsplit]
  have hlen : 2 ≤ (segments e.1).length := by
    obtain ⟨rest, hrest⟩ := segments_eq_cons key
    rw [segments_of_splitFirst hsplit, hrest]
    simp
  exact hfound hlen (hsame ▸ hsub)

/-- A json column without sub-fields takes any value as it is. -/
theorem takes_json (hjson : f.sqlType = "jsonb") (hsub : f.subFields = [])
    (hstrip : (injectedKeys rc f.name).stripKeys = [])
    (hproperties : properties feature = some (.obj members)) {j : Json}
    (hj : members.lookup f.name = some j) :
    Takes env feature (jsonbColumn rc f) (some (.json j)) := by
  refine takes_jsonbColumn ?_ (propRead_json hjson hstrip hproperties hj)
  have hplans : (jsonbColumn rc f).nestedFields = [] := by
    show nestedFieldPlans f.name (serverSuppliedPaths rc) f.subFields = []
    rw [hsub]
    rfl
  rw [nestedCheck, if_pos hplans]

/-! ### A scalar column read back -/

/-- The check of a code list, by the text. -/
theorem enumCheck_iff {col : ColumnPlan} {text : String}
    (htext : arrowText env.jsonText (properties feature) col.name = some text) :
    enumCheck env false feature col = .ok () ↔
      (col.codelistValues ≠ [] → text ∈ col.codelistValues) := by
  rw [enumCheck]
  by_cases hcodes : col.codelistValues = []
  · simp [hcodes]
  · have hsome : isNotNull (some text) = some true := rfl
    simp only [if_neg hcodes, htext, Bool.false_eq_true, if_false, raiseIf_eq_ok, hsome,
      Tri.true_and, notIn, isIn, Option.map_some, Tri.not]
    simp [hcodes]

/-- What a scalar column keeps of its field. -/
theorem column_of_scalar (hjson : f.sqlType ≠ "jsonb") {col : ColumnPlan}
    (hbuild : buildColumn rc f = .ok col) :
    col.sqlType = f.sqlType ∧ col.nullable = (!f.required) ∧ col.idInjectKey = none ∧
      serverWriteExpr rc f = .ok col.serverWriteExpr := by
  rw [buildColumn, if_neg hjson] at hbuild
  obtain ⟨expr, hexpr, hbuild⟩ := Except.bind_eq_ok.mp hbuild
  cases hbuild
  exact ⟨rfl, rfl, rfl, hexpr⟩

/-- What a column of the client keeps of its field. -/
theorem column_of_client (hjson : f.sqlType ≠ "jsonb") (hclient : isClientWritten rc f = true)
    {col : ColumnPlan} (hbuild : buildColumn rc f = .ok col) :
    col = { name := f.name, sqlType := f.sqlType, nullable := !f.required,
            autoIncrement := f.autoIncrement, codelistValues := f.codelistValues } := by
  have hlookup : rc.serverManagedPaths.lookup f.name = none := by
    rw [isClientWritten, decide_eq_false hjson, Bool.false_or, Bool.and_eq_true] at hclient
    exact Option.isNone_iff_eq_none.mp hclient.2
  rw [buildColumn, if_neg hjson, serverWriteExpr, hlookup] at hbuild
  exact (Except.ok.inj hbuild).symm

/-- A column of the client takes its own value. -/
theorem takes_client (hf : f.Regular) (hconverts : env.Converts) (hjson : f.sqlType ≠ "jsonb")
    (hclient : isClientWritten rc f = true) {col : ColumnPlan} (hbuild : buildColumn rc f = .ok col)
    {value : Option Datum} (hstored : StoredValue served rc f value)
    (hcasts : ∀ d, value = some d → ∃ text, textOf env.jsonText (d.toJson rd) = some text ∧
      env.cast f.sqlType text = .ok d)
    (hshown : arrow (properties feature) f.name = some (shownValue rd id col value)) :
    Takes env feature col value := by
  obtain rfl := column_of_client hjson hclient hbuild
  have hnull : (!f.required) = false → value ≠ none := fun h => hstored.notNull (by simpa using h)
  have hvalue : arrow (properties feature) f.name =
      some ((value.map (Datum.toJson rd)).getD .null) := hshown
  cases value with
  | none =>
    have htext : arrowText env.jsonText (properties feature) f.name = none := by
      rw [arrowText, hvalue]
      rfl
    refine ⟨fun _ => ?_, fun _ => rfl, fun _ => ?_, fun _ h => (by cases h), hnull⟩
    · rw [enumCheck]
      simp [htext, raiseIf_eq_ok, isNotNull, notIn, isIn, Tri.and, Tri.not]
    · rw [propRead, if_neg hjson, htext]
  | some d =>
    obtain ⟨text, htext, hcast⟩ := hcasts d rfl
    have hread : arrowText env.jsonText (properties feature) f.name = some text := by
      rw [arrowText, hvalue]
      exact htext
    refine ⟨fun _ => (enumCheck_iff hread).mpr fun hcodes => ?_, fun _ => rfl, fun _ => ?_,
      fun _ h => (by cases h), hnull⟩
    · -- the text of a code is the code
      obtain ⟨c, hc, rfl⟩ := hstored.code hjson hclient hcodes d rfl
      obtain ⟨hlist, hvalues, -⟩ := hf
      have htype : f.sqlType = "text" := by
        refine (hlist ?_).1
        by_contra hnone
        exact hcodes (hvalues (Option.not_isSome_iff_eq_none.mp hnone))
      rw [htype, hconverts.castText] at hcast
      cases hcast
      exact hc
    · rw [propRead, if_neg hjson, hread]
      simp only
      rw [hcast]
      rfl

/-- A column of the client takes an array that its code list and its type take. -/
theorem takes_array_iff (hjson : f.sqlType ≠ "jsonb") (hclient : isClientWritten rc f = true)
    {col : ColumnPlan} (hbuild : buildColumn rc f = .ok col) {items : List Json}
    (hshown : arrow (properties feature) f.name = some (.arr items)) :
    (∃ new, Takes env feature col new) ↔
      (f.codelistValues ≠ [] → env.jsonText (.arr items) ∈ f.codelistValues) ∧
        ∃ d, env.cast f.sqlType (env.jsonText (.arr items)) = .ok d := by
  obtain rfl := column_of_client hjson hclient hbuild
  have hread : arrowText env.jsonText (properties feature) f.name =
      some (env.jsonText (.arr items)) := by
    rw [arrowText, hshown]
    rfl
  constructor
  · rintro ⟨new, htakes⟩
    refine ⟨(enumCheck_iff hread).mp (htakes.enum rfl), ?_⟩
    have hpropRead := htakes.read rfl
    rw [propRead, if_neg hjson, hread] at hpropRead
    obtain ⟨d, hd, -⟩ := Except.map_eq_ok.mp hpropRead
    exact ⟨d, hd⟩
  · rintro ⟨hcodes, d, hd⟩
    refine ⟨some d, fun _ => (enumCheck_iff hread).mpr hcodes, fun _ => rfl, fun _ => ?_,
      fun _ h => (by cases h), fun _ => Option.some_ne_none d⟩
    rw [propRead, if_neg hjson, hread]
    simp only
    rw [hd]
    rfl

/-! ### A server-written column read back -/

/-- What a copied text is assigned as. -/
theorem serverWrite_featurePropertyText (env : Env) (feature : Option Json) (col : ColumnPlan)
    {parts : List String} (hne : parts ≠ []) :
    serverWrite env col feature (.featurePropertyText parts) =
      match textAt env feature parts with
      | none => .ok none
      | some text => (env.assignText col.sqlType text).map some := by
  cases parts with
  | nil => exact absurd rfl hne
  | cons head tail =>
    have hleaf : (head :: tail).getLast (List.cons_ne_nil head tail) =
        (head :: tail).getLastD "" := by
      rw [List.getLast_eq_getLastD, List.getLastD_cons]
    have htext : arrowText env.jsonText ((head :: tail).dropLast.foldl arrow (properties feature))
        ((head :: tail).getLast (List.cons_ne_nil head tail)) =
          textAt env feature (head :: tail) := by
      rw [textAt, hleaf]
    exact congrArg (fun text : Option String =>
      match text with
      | none => Except.ok none
      | some text => (env.assignText col.sqlType text).map some) htext

/-- What is shown of a scalar. -/
def shownScalar (rd : Reader Geometry) (value : Option Datum) : Json :=
  (value.map (Datum.toJson rd)).getD .null

/-- A copy of the outward identifier that already holds the text at its path; an
array that is shown in its place hides it. -/
def ResolvedField.CopyReadsBack (rd : Reader Geometry) (env : Env) (rc : ResolvedCollection)
    (f : ResolvedField) (links : Option Json) (value : Option Datum) : Option String → Prop
  | none => f.required = false ∧ (links = none → shownScalar rd value = .null)
  | some text => ∃ d, env.assignText f.sqlType text = .ok d ∧
      (links = none → SameValue rc f.name (some (shownScalar rd value)) (some (d.toJson rd)))

/-- A field that takes an array of links, which is shown in its place. -/
def ResolvedField.TakesArray (env : Env) (rc : ResolvedCollection) (f : ResolvedField)
    (links : Json) : Prop :=
  f.subFields = [] ∧ (f.sqlType ≠ "jsonb" → isClientWritten rc f = true →
    (f.codelistValues ≠ [] → env.jsonText links ∈ f.codelistValues) ∧
      ∃ d, env.cast f.sqlType (env.jsonText links) = .ok d)

/-- A field that a feature may be replaced in by what it shows. -/
structure ResolvedField.Editable (rd : Reader Geometry) (env : Env) (rc : ResolvedCollection)
    (f : ResolvedField) (id : Uuid) (feature : Option Json) (links : Option Json)
    (value : Option Datum) : Prop where
  object : f.subFields ≠ [] → links = none → f.ReadsBack rc id value
  copy : f.sqlType ≠ "jsonb" → rc.serverManagedPaths.lookup f.name = some .outwardIdentifier →
    ∀ path, rc.outwardIdentifierPath = some path →
      f.CopyReadsBack rd env rc links value (textAt env feature (segments path))
  array : ∀ shown, links = some shown → f.TakesArray env rc shown

/-- A column that the server writes the time to. -/
theorem takes_now (hjson : f.sqlType ≠ "jsonb")
    (htoken : rc.serverManagedPaths.lookup f.name = some .timestampIso) {col : ColumnPlan}
    (hbuild : buildColumn rc f = .ok col) {d : Datum} (hd : env.assignNow f.sqlType = .ok d) :
    Takes env feature col (some d) := by
  rw [buildColumn, if_neg hjson, serverWriteExpr, htoken] at hbuild
  obtain rfl := Except.ok.inj hbuild
  refine ⟨fun h => (by cases h), fun h => (by cases h), fun h => (by cases h), fun expr hexpr => ?_,
    fun _ => Option.some_ne_none d⟩
  cases hexpr
  rw [serverWrite, hd]
  rfl

/-- **A copy is taken back, and shown as before, exactly when it reads back.** -/
theorem takes_copy_iff (hpaths : (rc.serverManagedPaths.map Prod.fst).Nodup)
    (hjson : f.sqlType ≠ "jsonb")
    (htoken : rc.serverManagedPaths.lookup f.name = some .outwardIdentifier) {path : String}
    (hpath : rc.outwardIdentifierPath = some path) {col : ColumnPlan}
    (hbuild : buildColumn rc f = .ok col) {links : Option Json} {value : Option Datum} :
    (∃ new, Takes env feature col new ∧ (links = none → SameValue rc f.name
        (some (shownValue rd id col value)) (some (shownValue rd id col new)))) ↔
      f.CopyReadsBack rd env rc links value (textAt env feature (segments path)) := by
  obtain ⟨htype, hnullable, hkey, hexpr⟩ := column_of_scalar hjson hbuild
  rw [serverWriteExpr, htoken, hpath] at hexpr
  have hexpr : col.serverWriteExpr = some (.featurePropertyText (segments path)) :=
    (Except.ok.inj hexpr).symm
  have hne : segments path ≠ [] := by
    obtain ⟨rest, hrest⟩ := segments_eq_cons path
    rw [hrest]
    exact List.cons_ne_nil _ _
  have hnoStamp : (f.name, ServerManagedToken.timestampIso) ∉ rc.serverManagedPaths := by
    intro hmem
    rw [Python.lookup_of_mem hpaths hmem] at htoken
    cases htoken
  -- the client cannot write the column, so only the expression counts
  have htakes : ∀ new, Takes env feature col new ↔
      serverWrite env col feature (.featurePropertyText (segments path)) = .ok new ∧
        (f.required = true → new ≠ none) := by
    intro new
    constructor
    · intro h
      exact ⟨h.write _ hexpr, fun hrequired => h.notNull (by simp [hnullable, hrequired])⟩
    · rintro ⟨hread, hnull⟩
      refine ⟨fun h => ?_, fun h => ?_, fun h => ?_, fun expr h => ?_, fun h => hnull ?_⟩
      · rw [hexpr] at h
        cases h
      · rw [hexpr] at h
        cases h
      · rw [hexpr] at h
        cases h
      · rw [hexpr] at h
        cases h
        exact hread
      · simpa [hnullable] using h
  have hvalue : ∀ value, shownValue rd id col value = shownScalar rd value := by
    intro value
    rw [shownValue, hkey]
    rfl
  simp only [htakes, serverWrite_featurePropertyText env feature col hne, hvalue, htype]
  cases textAt env feature (segments path) with
  | none =>
    constructor
    · rintro ⟨new, ⟨hnew, hnull⟩, hsame⟩
      obtain rfl := Except.ok.inj hnew
      refine ⟨?_, fun hlinks => ?_⟩
      · by_contra h
        exact hnull (by simpa using h) rfl
      · rcases hsame hlinks with hstamp | heq | ⟨ms, ms', -, hobj, -⟩
        · exact absurd hstamp hnoStamp
        · exact (Option.some.inj heq).symm
        · cases hobj
    · rintro ⟨hrequired, hsame⟩
      refine ⟨none, ⟨rfl, fun h => by rw [hrequired] at h; cases h⟩, fun hlinks => ?_⟩
      exact .inr (.inl (congrArg some (hsame hlinks).symm))
  | some text =>
    constructor
    · rintro ⟨new, ⟨hnew, -⟩, hsame⟩
      obtain ⟨d, hd, rfl⟩ := Except.map_eq_ok.mp hnew
      exact ⟨d, hd, hsame⟩
    · rintro ⟨d, hd, hsame⟩
      refine ⟨some d, ⟨?_, fun _ => Option.some_ne_none d⟩, hsame⟩
      simp only
      rw [hd]
      rfl

/-! ### Any field -/

/-- A column that the server does not write is at no path of the server. -/
theorem lookup_of_serverWriteExpr (h : serverWriteExpr rc f = .ok none) :
    rc.serverManagedPaths.lookup f.name = none := by
  cases htoken : rc.serverManagedPaths.lookup f.name with
  | none => rfl
  | some token =>
    rw [serverWriteExpr, htoken] at h
    cases token with
    | timestampIso => cases h
    | outwardIdentifier =>
      simp only at h
      split at h
      · cases h
      · cases h

/-- Where no client writes, nothing hinges on an array that is shown. -/
theorem takesArray_of_not_client {shown : Json} (hsub : f.subFields = [])
    (hclient : isClientWritten rc f = false) : f.TakesArray env rc shown := by
  refine ⟨hsub, fun _ h => ?_⟩
  rw [hclient] at h
  cases h

theorem ResolvedField.Regular.subFields_nil (hf : f.Regular) (hjson : f.sqlType ≠ "jsonb") :
    f.subFields = [] := by
  obtain ⟨-, -, hobject, -⟩ := hf
  by_contra hne
  exact hjson (hobject hne)

/-- A column that a write leaves alone is never in the way. -/
theorem editable_of_unassigned (hf : f.Regular) {col : ColumnPlan}
    (hbuild : buildColumn rc f = .ok col) (hauto : col.autoIncrement = true)
    (hexpr : col.serverWriteExpr = none) {links : Option Json} {value : Option Datum} :
    f.Editable rd env rc id feature links value := by
  have hjson : f.sqlType ≠ "jsonb" := by
    intro hjson
    rw [buildColumn, if_pos hjson] at hbuild
    cases hbuild
    cases hauto
  have hsub := hf.subFields_nil hjson
  refine ⟨fun h => absurd hsub h, fun _ htoken => ?_, fun shown _ => ?_⟩
  · obtain ⟨-, -, -, hwrite⟩ := column_of_scalar hjson hbuild
    rw [hexpr] at hwrite
    rw [lookup_of_serverWriteExpr hwrite] at htoken
    cases htoken
  · refine takesArray_of_not_client hsub ?_
    rw [buildColumn, if_neg hjson] at hbuild
    obtain ⟨expr, -, hcol⟩ := Except.bind_eq_ok.mp hbuild
    cases hcol
    have hfield : f.autoIncrement = true := hauto
    simp [isClientWritten, hjson, hfield]

/-- The document shows the value of a column, or an array of links in its place. -/
structure ShowsColumn (rd : Reader Geometry) (id : Uuid) (members : List (String × Json))
    (col : ColumnPlan) (links : Option Json) (value : Option Datum) : Prop where
  array : ∀ j, links = some j → ∃ items, j = .arr items
  property : members.lookup col.name = some (links.getD (shownValue rd id col value))

/-- **A field is taken back, and shown as before, exactly when it is editable.** -/
theorem takes_field_iff (hconverts : env.Converts)
    (hpaths : (rc.serverManagedPaths.map Prod.fst).Nodup) (hfields : FindsFields rc)
    (hnodup : (rc.fields.map (·.name)).Nodup) (hmem : f ∈ rc.fields) (hf : f.Regular)
    {col : ColumnPlan} (hbuild : buildColumn rc f = .ok col)
    (hassigned : col.autoIncrement = false ∨ col.serverWriteExpr ≠ none)
    {links : Option Json} {value : Option Datum} (hstored : StoredValue served rc f value)
    (hcasts : f.sqlType ≠ "jsonb" → isClientWritten rc f = true → ∀ d, value = some d →
      ∃ text, textOf env.jsonText (d.toJson rd) = some text ∧ env.cast f.sqlType text = .ok d)
    (hnow : (∃ env', served env' ∧ ∃ d, env'.assignNow f.sqlType = .ok d) →
      ∃ d, env.assignNow f.sqlType = .ok d)
    (hproperties : properties feature = some (.obj members))
    (hshows : ShowsColumn rd id members col links value) :
    (∃ new, Takes env feature col new ∧ (links = none → SameValue rc f.name
        (some (shownValue rd id col value)) (some (shownValue rd id col new)))) ↔
      f.Editable rd env rc id feature links value := by
  obtain ⟨harray, hshown⟩ := hshows
  rw [name_buildColumn hbuild] at hshown
  by_cases hjson : f.sqlType = "jsonb"
  · have hcol : col = jsonbColumn rc f := by
      rw [buildColumn, if_pos hjson] at hbuild
      exact (Except.ok.inj hbuild).symm
    subst hcol
    -- a jsonb column without fields takes any value, a link array too
    by_cases hsub : f.subFields = []
    · have hstrip := stripKeys_of_subFields_nil hfields hnodup hmem hsub
      refine iff_of_true ⟨_, takes_json hjson hsub hstrip hproperties hshown, ?_⟩
        ⟨fun h => absurd hsub h, fun h => absurd hjson h,
          fun _ _ => ⟨hsub, fun h => absurd hjson h⟩⟩
      rintro rfl
      rw [shownValue_json hstrip]
      exact .refl _ _ _
    · cases links with
      | none =>
        constructor
        · rintro ⟨new, htakes, hsame⟩
          have hreads := (takes_object_iff hf hsub hstored hproperties hshown).mp
            ⟨new, htakes, hsame rfl⟩
          exact ⟨fun _ _ => hreads, fun h => absurd hjson h, fun _ h => (by cases h)⟩
        · intro h
          obtain ⟨new, htakes, hsame⟩ :=
            (takes_object_iff hf hsub hstored hproperties hshown).mpr (h.object hsub rfl)
          exact ⟨new, htakes, fun _ => hsame⟩
      | some shown =>
        obtain ⟨items, rfl⟩ := harray shown rfl
        refine iff_of_false ?_ fun h => hsub (h.array _ rfl).1
        rintro ⟨new, htakes, -⟩
        -- an object takes no array, and link properties are arrays
        exact not_takes_array hsub hproperties hshown new htakes
  · have hsub := hf.subFields_nil hjson
    -- a scalar: of the client, stamped, or a copy of the identifier
    cases htoken : rc.serverManagedPaths.lookup f.name with
    | none =>
      have hauto : f.autoIncrement = false := by
        rw [buildColumn, if_neg hjson, serverWriteExpr, htoken] at hbuild
        cases Except.ok.inj hbuild
        exact hassigned.resolve_right fun h => h rfl
      have hclient : isClientWritten rc f = true := by
        simp [isClientWritten, hauto, htoken]
      have harrow : arrow (properties feature) f.name =
          some (links.getD (shownValue rd id col value)) := by
        rw [hproperties]
        exact hshown
      cases links with
      | none =>
        refine iff_of_true ⟨value, takes_client hf hconverts hjson hclient hbuild hstored
          (hcasts hjson hclient) harrow, fun _ => .refl _ _ _⟩
          ⟨fun h => absurd hsub h, fun _ h => ?_, fun _ h => (by cases h)⟩
        rw [htoken] at h
        cases h
      | some shown =>
        obtain ⟨items, rfl⟩ := harray shown rfl
        constructor
        · rintro ⟨new, htakes, -⟩
          refine ⟨fun h => absurd hsub h, fun _ h => ?_, fun j hj => ?_⟩
          · rw [htoken] at h
            cases h
          · cases hj
            exact ⟨hsub, fun _ _ => (takes_array_iff hjson hclient hbuild harrow).mp ⟨new, htakes⟩⟩
        · intro h
          obtain ⟨new, htakes⟩ := (takes_array_iff hjson hclient hbuild harrow).mpr
            ((h.array _ rfl).2 hjson hclient)
          exact ⟨new, htakes, fun h => (by cases h)⟩
    | some token =>
      have hclient : isClientWritten rc f = false := by
        simp [isClientWritten, hjson, htoken]
      cases token with
      | timestampIso =>
        obtain ⟨d, hd⟩ := hnow (hstored.now hjson htoken)
        refine iff_of_true ⟨some d, takes_now hjson htoken hbuild hd, fun _ => .inl ?_⟩
          ⟨fun h => absurd hsub h, fun _ h => ?_, fun _ _ => takesArray_of_not_client hsub hclient⟩
        · exact Python.mem_of_lookup htoken
        · rw [htoken] at h
          cases h
      | outwardIdentifier =>
        obtain ⟨-, -, -, hexpr⟩ := column_of_scalar hjson hbuild
        cases hpath : rc.outwardIdentifierPath with
        | none =>
          rw [serverWriteExpr, htoken, hpath] at hexpr
          cases hexpr
        | some path =>
          rw [takes_copy_iff hpaths hjson htoken hpath hbuild]
          constructor
          · intro h
            refine ⟨fun h => absurd hsub h, fun _ _ path' hpath' => ?_,
              fun _ _ => takesArray_of_not_client hsub hclient⟩
            rw [hpath] at hpath'
            cases hpath'
            exact h
          · exact fun h => h.copy hjson htoken path hpath

end Columns

end Geocomponents
