/-
What the description promises about stored values.

* `ValueConforms`, `RowConforms`, `Conforms` — a stored value, a row and the
  tables are as the description declares;
* `Fits` — a document whose values the generated functions store as they should;
* `valueConforms_propRead`, `valueConforms_serverWrite` — so a document that fits
  and passes the checks gives every column a value that conforms.
-/
import Topogdb.Geocomponents.NestedObjects
import Topogdb.Geocomponents.Write

namespace Geocomponents

open Sql Except

/-! ### Stored values -/

/-- JSON null, as the value of a jsonb column or as the text of a json one. -/
def Datum.isJsonNull : Datum → Bool
  | .json j => j.isNull
  | .scalar sqlType text => sqlType = "json" && Python.strip text = "null"
  | .bool _ => false

/-- What is stored for a field: a value when it is required, a code when it has a
code list, an object of its sub-fields when it has some. -/
structure ValueConforms (rc : ResolvedCollection) (f : ResolvedField) (value : Option Datum) :
    Prop where
  required : f.required = true → ∃ d, value = some d ∧ d.isJsonNull = false
  code : f.codelist.isSome = true → ∀ d, value = some d →
    ∃ c ∈ f.codelistValues, d = .scalar "text" c
  object : f.subFields ≠ [] → ∀ d, value = some d → d.isJsonNull = false →
    ∃ j, d = .json j ∧
      Shape.AdmitsObject (ResolvedField.shapes f.name (serverSuppliedPaths rc) f.subFields) j

variable {Geometry : Type}

def RowConforms (rc : ResolvedCollection) (row : Row Geometry) : Prop :=
  ∀ f ∈ rc.fields, ValueConforms rc f (row.columns f.name)

/-- Every stored row of every collection conforms. -/
def Conforms (resolved : ResolvedDataset) (db : Db Geometry) : Prop :=
  ∀ rc ∈ resolved.collections, ∀ ref row, ref.collection = rc.name → db.row? ref = some row →
    RowConforms rc row

/-! ### Documents -/

/-- Whether the value of the column comes from the document as it is. -/
def isClientWritten (rc : ResolvedCollection) (f : ResolvedField) : Bool :=
  f.sqlType = "jsonb" || (!f.autoIncrement && (rc.serverManagedPaths.lookup f.name).isNone)

/-- The document has JSON null for the field, read as a value of its type. -/
def ReadsJsonNull (env : Env) (feature : Option Json) (f : ResolvedField) : Prop :=
  if f.sqlType = "jsonb" then arrow (properties feature) f.name = some .null
  else ∃ text d, arrowText env.jsonText (properties feature) f.name = some text ∧
    env.cast f.sqlType text = .ok d ∧ d.isJsonNull = true

/-- The text at a path of the properties. -/
def textAt (env : Env) (feature : Option Json) (parts : List String) : Option String :=
  arrowText env.jsonText (parts.dropLast.foldl arrow (properties feature)) (parts.getLastD "")

/-- A document whose values are stored as the description declares them, if they
pass the checks. -/
structure Fits (env : Env) (rc : ResolvedCollection) (feature : Option Json) : Prop where
  /-- It has JSON null for no required field. -/
  notNull : ∀ f ∈ rc.fields, f.required = true → isClientWritten rc f = true →
    ¬ ReadsJsonNull env feature f
  /-- It has nothing for a code list that has no codes. -/
  noCodes : ∀ f ∈ rc.fields, f.codelist.isSome = true → f.codelistValues = [] →
    isClientWritten rc f = true → arrowText env.jsonText (properties feature) f.name = none
  /-- What the server writes to a code-list field is a code. -/
  timestamp : ∀ f ∈ rc.fields, f.codelist.isSome = true →
    rc.serverManagedPaths.lookup f.name = some .timestampIso → env.nowText ∈ f.codelistValues
  identifier : ∀ f ∈ rc.fields, f.codelist.isSome = true →
    rc.serverManagedPaths.lookup f.name = some .outwardIdentifier →
    ∀ path, rc.outwardIdentifierPath = some path → ∀ text,
      textAt env feature (segments path) = some text → text ∈ f.codelistValues
  /-- The same in nested objects, but for what is stripped from them. -/
  nested : ∀ f ∈ rc.fields, ∀ sub ∈ f.subFields,
    sub.name ∉ (injectedKeys rc f.name).stripKeys →
    sub.AvoidsEmptyLists (arrow (arrow (properties feature) f.name) sub.name)
  /-- A timestamp goes into a declared text of the object, whose code list has it. -/
  injected : ∀ f ∈ rc.fields, f.subFields ≠ [] →
    typeOf (arrow (properties feature) f.name) = some "object" →
    ∀ key ∈ (injectedKeys rc f.name).writeInject, key ∈ f.subFields.map (·.name) ∧
      ∀ sub ∈ f.subFields, sub.name = key → expectedJsonType sub.sqlType = "string" ∧
        (sub.codelist.isSome = true → env.nowText ∈ sub.codelistValues)

/-- How PostgreSQL converts to text, and that nothing but jsonb and a cast to json
makes JSON null. -/
structure Env.Converts (env : Env) : Prop where
  castText : ∀ text, env.cast "text" text = .ok (.scalar "text" text)
  assignNowText : env.assignNow "text" = .ok (.scalar "text" env.nowText)
  assignTextText : ∀ text, env.assignText "text" text = .ok (.scalar "text" text)
  assignNow : ∀ sqlType d, env.assignNow sqlType = .ok d → d.isJsonNull = false
  assignText : ∀ sqlType text d, env.assignText sqlType text = .ok d → d.isJsonNull = false
  identity : ∀ n column, (env.identity n column).isJsonNull = false

/-! ### Keys of an object that the server manages -/

theorem splitFirst_eq {path : String} {x : String × String} (h : splitFirst path = some x) :
    path = x.1 ++ "." ++ x.2 := by
  rw [splitFirst] at h
  split at h
  · next hdot =>
    cases h
    refine String.toList_inj.mp ?_
    simp only [Python.partition, String.toList_append, String.toList_ofList]
    obtain ⟨c, rest, hrest⟩ : ∃ c rest, path.toList.dropWhile (· ≠ '.') = c :: rest := by
      refine List.exists_cons_of_ne_nil fun hnil => ?_
      exact absurd (List.dropWhile_eq_nil_iff.mp hnil '.' hdot) (by simp)
    have hc : c = '.' := by
      have hne : path.toList.dropWhile (· ≠ '.') ≠ [] := hrest ▸ List.cons_ne_nil c rest
      have hhead := List.head_dropWhile_not _ hne
      simp only [hrest, List.head_cons] at hhead
      simpa using hhead
    have happend := List.takeWhile_append_dropWhile (p := (· ≠ '.')) (l := path.toList)
    rw [hrest, hc] at happend
    rw [hrest, List.drop_one, List.tail_cons, List.append_assoc]
    exact happend.symm
  · cases h

/-- The keys belong to paths that the server supplies, and a key that is written
is stripped before. -/
structure InjectedKeys.Supplied (field : String) (paths : List String) (keys : InjectedKeys) :
    Prop where
  strip : ∀ key ∈ keys.stripKeys, field ++ "." ++ key ∈ paths
  write : ∀ key ∈ keys.writeInject, key ∈ keys.stripKeys

theorem InjectedKeys.Supplied.addServerManaged {field : String} {paths : List String}
    {keys : InjectedKeys} (h : keys.Supplied field paths) {entry : String × ServerManagedToken}
    (hentry : entry.1 ∈ paths) : (keys.addServerManaged field entry).Supplied field paths := by
  unfold InjectedKeys.addServerManaged
  split
  · exact h
  · next head subKey hsplit =>
    have hpath := splitFirst_eq hsplit
    split
    · exact h
    · next hhead =>
      rw [not_not] at hhead
      subst hhead
      have hstrip : ∀ key ∈ keys.stripKeys ++ [subKey], head ++ "." ++ key ∈ paths := by
        intro key hkey
        rcases List.mem_append.mp hkey with hold | hnew
        · exact h.strip key hold
        · rw [List.mem_singleton.mp hnew]
          exact hpath ▸ hentry
      cases entry.2 with
      | outwardIdentifier =>
        exact ⟨hstrip, fun key hkey => List.mem_append_left _ (h.write key hkey)⟩
      | timestampIso =>
        refine ⟨hstrip, fun key hkey => ?_⟩
        rcases List.mem_append.mp hkey with hold | hnew
        · exact List.mem_append_left _ (h.write key hold)
        · exact List.mem_append_right _ hnew

theorem InjectedKeys.Supplied.addOutwardIdentifier {field : String} {paths : List String}
    {keys : InjectedKeys} (h : keys.Supplied field paths) {path : Option String}
    (hpath : ∀ p, path = some p → p ∈ paths) :
    (keys.addOutwardIdentifier field path).Supplied field paths := by
  unfold InjectedKeys.addOutwardIdentifier
  split
  · exact h
  · next head subKey hsplit =>
    obtain ⟨p, hp, hsplit⟩ := Option.bind_eq_some_iff.mp hsplit
    have heq := splitFirst_eq hsplit
    split
    · exact h
    · next hhead =>
      rw [not_not] at hhead
      subst hhead
      by_cases hmem : subKey ∈ keys.stripKeys
      · simp only [if_pos hmem]
        exact ⟨h.strip, h.write⟩
      · simp only [if_neg hmem]
        refine ⟨fun key hkey => ?_, fun key hkey => List.mem_append_left _ (h.write key hkey)⟩
        rcases List.mem_append.mp hkey with hold | hnew
        · exact h.strip key hold
        · rw [List.mem_singleton.mp hnew]
          exact heq ▸ hpath p hp

/-- The keys of a column are supplied by the server. -/
theorem supplied_injectedKeys (rc : ResolvedCollection) (field : String) :
    (injectedKeys rc field).Supplied field (serverSuppliedPaths rc) := by
  have hfold : ∀ (entries : List (String × ServerManagedToken)) (keys : InjectedKeys),
      keys.Supplied field (serverSuppliedPaths rc) →
      (∀ e ∈ entries, e.1 ∈ serverSuppliedPaths rc) →
      (entries.foldl (InjectedKeys.addServerManaged field) keys).Supplied field
        (serverSuppliedPaths rc) := by
    intro entries
    induction entries with
    | nil => exact fun keys h _ => h
    | cons e entries ih =>
      intro keys h hentries
      rw [List.forall_mem_cons] at hentries
      exact ih _ (h.addServerManaged hentries.1) hentries.2
  have hnone : InjectedKeys.Supplied field (serverSuppliedPaths rc) {} :=
    ⟨fun _ h => absurd h List.not_mem_nil, fun _ h => absurd h List.not_mem_nil⟩
  refine (hfold rc.serverManagedPaths {} hnone fun e he => ?_).addOutwardIdentifier fun p hp => ?_
  · exact List.mem_append_left _ (List.mem_map_of_mem he)
  · exact List.mem_append_right _ (Option.mem_toList.mpr hp)

/-! ### What the checks say about a value -/

section Checks

variable {env : Env} {feature : Option Json} {guarded : Bool} {col : ColumnPlan}

/-- A value in the properties is named. -/
theorem hasKey_of_arrow {j : Option Json} {key : String} {v : Json} (h : arrow j key = some v) :
    hasKey j key = some true := by
  obtain ⟨object, rfl, h⟩ := Option.bind_eq_some_iff.mp h
  cases object with
  | obj ms =>
    have hlookup : ms.lookup key = some v := h
    rw [hasKey, Option.map_some]
    simp only [hlookup, Option.isSome_some]
  | _ => cases h

theorem mem_of_enumCheck (h : enumCheck env guarded feature col = .ok ()) {text : String}
    (htext : arrowText env.jsonText (properties feature) col.name = some text)
    (hne : col.codelistValues ≠ []) : text ∈ col.codelistValues := by
  obtain ⟨v, hv, -⟩ := Option.bind_eq_some_iff.mp htext
  rw [enumCheck, if_neg hne] at h
  simp only [raiseIf_eq_ok, htext, hasKey_of_arrow hv, Tri.true_and, ite_self] at h
  by_contra hnot
  refine h ?_
  have hsome : isNotNull (some text) = some true := rfl
  rw [hsome, Tri.true_and, notIn, isIn, Option.map_some, decide_eq_false hnot]
  rfl

theorem object_of_nestedCheck (h : nestedCheck env guarded feature col = .ok ())
    (hne : col.nestedFields ≠ []) {v : Json} (hv : arrow (properties feature) col.name = some v)
    (hnull : v ≠ .null) :
    ∃ ms, v = .obj ms ∧ (∀ m ∈ ms, m.1 ∈ col.nestedFields.map (·.name)) ∧
      ∀ field ∈ col.nestedFields,
        nestedFieldChecks env (some (.obj ms)) col.name field = .ok () := by
  rw [nestedCheck, if_neg hne] at h
  simp only [ite_seq_eq_ok, seq_eq_ok, raiseIf_eq_ok, hasKey_of_arrow hv, hv, Tri.true_and,
    ite_self] at h
  obtain ⟨-, htype, h⟩ := h
  have hobject : typeOf (some v) = some "object" := by
    by_contra hother
    refine htype ?_
    obtain ⟨t, ht⟩ : ∃ t, typeOf (some v) = some t := ⟨_, rfl⟩
    have hnot : t ∉ ["object", "null"] := by
      rw [List.mem_cons, List.mem_singleton, not_or]
      refine ⟨fun heq => hother (heq ▸ ht), ?_⟩
      rintro rfl
      exact hnull (typeOf_eq_null ht)
    rw [ht, notIn, isIn, Option.map_some, decide_eq_false hnot]
    rfl
  obtain ⟨ms, rfl⟩ := typeOf_eq_object hobject
  have hholds : (!guarded || Tri.holds (some true)) = true := Bool.or_true _
  rw [if_pos hholds, nestedObjectChecks, seq_eq_ok] at h
  exact ⟨ms, rfl, undeclaredCheck_ok h.1, nestedFieldsChecks_ok.mp h.2⟩

end Checks

/-- A text is admitted where a text is declared. -/
theorem admits_text {f : ResolvedField} (hregular : f.Regular)
    (hstring : expectedJsonType f.sqlType = "string") {text : String}
    (hcode : f.codelist.isSome = true → text ∈ f.codelistValues) (path : String)
    (supplied : List String) : (f.shape path supplied).Admits (some (.str text)) := by
  obtain ⟨-, -, hobject, -⟩ := hregular
  obtain ⟨name, sqlType, required, autoIncrement, subFields, indexable, values, codelist⟩ := f
  rw [ResolvedField.shape, Shape.Admits]
  refine ⟨fun _ => ⟨_, rfl, fun h => by cases h⟩, fun v hv _ => ?_⟩
  cases hv
  refine ⟨congrArg some hstring.symm, fun _ q hq => ?_, fun cs hcs => ?_, fun hne => ?_⟩
  · cases hq
  · obtain ⟨list, rfl, rfl⟩ := Option.map_eq_some_iff.mp hcs
    exact ⟨text, hcode rfl, rfl⟩
  · -- only an object has members
    have hsub : subFields ≠ [] := by
      rintro rfl
      exact hne rfl
    simp only at hobject hstring
    rw [hobject hsub] at hstring
    exact absurd hstring (by decide)

/-! ### The values of the columns -/

section Values

variable {env : Env} {feature : Option Json} {guarded : Bool} {rc : ResolvedCollection}
  {f : ResolvedField} {col : ColumnPlan} {value : Option Datum}

/-- NULL, for a field that is not required. -/
theorem valueConforms_none (h : f.required = true → (none : Option Datum) ≠ none) :
    ValueConforms rc f none := by
  refine ⟨fun hrequired => absurd rfl (h hrequired), fun _ d hd => ?_, fun _ d hd => ?_⟩
  · cases hd
  · cases hd

/-- A column of an object, from a document that fits and passed its check. -/
theorem valueConforms_jsonb (hregular : f.Regular) (hjson : f.sqlType = "jsonb")
    (hfield : f ∈ rc.fields) (hfits : Fits env rc feature)
    (hcheck : nestedCheck env guarded feature (jsonbColumn rc f) = .ok ())
    (hread : propRead env (jsonbColumn rc f) feature = .ok value)
    (hnull : f.required = true → value ≠ none) : ValueConforms rc f value := by
  obtain ⟨hcodes, -, -, hfields⟩ := hregular
  have hnoCodes : f.codelist.isSome = true → False := by
    intro hcodelist
    have htext := (hcodes hcodelist).1
    rw [hjson] at htext
    exact absurd htext (by decide)
  have hname : (jsonbColumn rc f).name = f.name := rfl
  have htype : (jsonbColumn rc f).sqlType = "jsonb" := hjson
  rw [propRead, if_pos htype, hname] at hread
  cases hv : arrow (properties feature) f.name with
  | none =>
    rw [hv] at hread
    cases hread
    exact valueConforms_none hnull
  | some v =>
    rw [hv] at hread
    obtain ⟨v', hstrip, hread⟩ := bind_eq_ok.mp hread
    cases hread
    by_cases hvnull : v = .null
    · -- JSON null stays JSON null, as there is no key to strip
      subst hvnull
      obtain ⟨hnil, rfl⟩ := foldlM_deletePath_null hstrip
      have hwrite : (jsonbColumn rc f).writeInject = [] := by
        refine List.eq_nil_iff_forall_not_mem.mpr fun key hkey => ?_
        have hmem := (supplied_injectedKeys rc f.name).write key hkey
        rw [show (injectedKeys rc f.name).stripKeys = [] from hnil] at hmem
        exact List.not_mem_nil hmem
      rw [hwrite]
      refine ⟨fun hrequired => ?_, fun h => (hnoCodes h).elim, fun _ d hd hnot => ?_⟩
      · refine absurd ?_ (hfits.notNull f hfield hrequired ?_)
        · rw [ReadsJsonNull, if_pos hjson]
          exact hv
        · rw [isClientWritten, hjson]
          rfl
      · cases hd
        cases hnot
    · -- any other value is checked as an object and edited by the server
      have hne : (jsonbColumn rc f).writeInject.foldl
          (fun value key => concatMember key (.str env.nowText) value) v' ≠ .null :=
        foldl_concatMember_ne_null (foldlM_deletePath_ne_null hvnull hstrip)
      refine ⟨fun _ => ⟨_, rfl, Json.isNull_eq_false hne⟩, fun h => (hnoCodes h).elim, ?_⟩
      rintro hsub _ ⟨⟩ -
      refine ⟨_, rfl, ?_⟩
      have hnested : (jsonbColumn rc f).nestedFields ≠ [] := by
        show nestedFieldPlans f.name (serverSuppliedPaths rc) f.subFields ≠ []
        rw [nestedFieldPlans_eq]
        exact fun h => hsub (List.map_eq_nil_iff.mp h)
      obtain ⟨ms, rfl, hdeclared, hchecks⟩ := object_of_nestedCheck hcheck hnested hv hvnull
      obtain ⟨-, rfl⟩ := (Shape.foldlM_deletePath _).mp hstrip
      have hplans : (jsonbColumn rc f).nestedFields =
          f.subFields.map (nestedFieldPlan f.name (serverSuppliedPaths rc)) :=
        nestedFieldPlans_eq f.name f.subFields
      rw [hplans] at hdeclared hchecks
      rw [ResolvedField.shapes_eq]
      refine Shape.admitsObject_edited (fun m hm => ?_) ?_ ?_ ?_
      · rw [ResolvedField.map_shape_name, ← map_nestedFieldPlan_name]
        exact hdeclared m hm
      · rw [List.forall_mem_map]
        intro sub hmem hkept
        rw [ResolvedField.shape_name] at hkept ⊢
        refine admits_of_nestedFieldChecks (hfields sub hmem)
          (hchecks _ (List.mem_map_of_mem hmem)) ?_
        have havoid := hfits.nested f hfield sub hmem hkept
        rwa [hv] at havoid
      · rw [List.forall_mem_map]
        intro sub _ hstripped
        rw [ResolvedField.shape_name] at hstripped
        -- a stripped key is supplied by the server, and so not required
        have hpath := (supplied_injectedKeys rc f.name).strip _ hstripped
        obtain ⟨name, sqlType, required, autoIncrement, subFields, indexable, values, list⟩ := sub
        show (required && !decide (f.name ++ "." ++ name ∈ serverSuppliedPaths rc)) = false
        rw [decide_eq_true hpath]
        exact Bool.and_false _
      · intro key hkey
        obtain ⟨hmem, htext⟩ := hfits.injected f hfield hsub (by rw [hv]; rfl) key hkey
        rw [ResolvedField.map_shape_name, List.forall_mem_map]
        refine ⟨hmem, fun sub hsub hname => ?_⟩
        · rw [ResolvedField.shape_name] at hname
          obtain ⟨hstring, hcode⟩ := htext sub hsub hname
          exact admits_text (hfields sub hsub) hstring hcode _ _

/-- A column of another type, from a document that fits and passed its check. -/
theorem valueConforms_scalar (hconverts : env.Converts) (hregular : f.Regular)
    (hjson : f.sqlType ≠ "jsonb") (hfield : f ∈ rc.fields) (hfits : Fits env rc feature)
    (hclient : isClientWritten rc f = true) (hname : col.name = f.name)
    (htype : col.sqlType = f.sqlType) (hcodes : col.codelistValues = f.codelistValues)
    (hcheck : enumCheck env guarded feature col = .ok ())
    (hread : propRead env col feature = .ok value)
    (hnull : f.required = true → value ≠ none) : ValueConforms rc f value := by
  obtain ⟨hlist, -, hobject, -⟩ := hregular
  have hnoObject : f.subFields ≠ [] → False := fun h => hjson (hobject h)
  have hne : col.sqlType ≠ "jsonb" := htype ▸ hjson
  rw [propRead, if_neg hne] at hread
  cases htext : arrowText env.jsonText (properties feature) col.name with
  | none =>
    rw [htext] at hread
    cases hread
    exact valueConforms_none hnull
  | some text =>
    rw [htext] at hread
    obtain ⟨d, hcast, rfl⟩ := map_eq_ok.mp hread
    rw [htype] at hcast
    refine ⟨fun hrequired => ⟨d, rfl, ?_⟩, fun hcodelist d' hd => ?_, fun h => (hnoObject h).elim⟩
    · by_contra hd
      rw [Bool.not_eq_false] at hd
      refine hfits.notNull f hfield hrequired hclient ?_
      rw [ReadsJsonNull, if_neg hjson, ← hname]
      exact ⟨text, d, htext, hcast, hd⟩
    · cases hd
      rw [(hlist hcodelist).1, hconverts.castText] at hcast
      cases hcast
      have hvalues : col.codelistValues ≠ [] := by
        intro hnil
        have hnone := hfits.noCodes f hfield hcodelist (hcodes ▸ hnil) hclient
        rw [← hname, htext] at hnone
        cases hnone
      exact ⟨text, hcodes ▸ mem_of_enumCheck hcheck htext hvalues, rfl⟩

/-- What the server writes to the column of a field. -/
theorem valueConforms_serverWrite (hconverts : env.Converts) (hregular : f.Regular)
    (hjson : f.sqlType ≠ "jsonb") (hfield : f ∈ rc.fields) (hfits : Fits env rc feature)
    (htype : col.sqlType = f.sqlType) {expr : ServerWriteExpr}
    (hexpr : serverWriteExpr rc f = .ok (some expr))
    (hwrite : serverWrite env col feature expr = .ok value)
    (hnull : f.required = true → value ≠ none) : ValueConforms rc f value := by
  obtain ⟨hlist, -, hobject, -⟩ := hregular
  have hnoObject : f.subFields ≠ [] → False := fun h => hjson (hobject h)
  rw [serverWriteExpr] at hexpr
  cases htoken : rc.serverManagedPaths.lookup f.name with
  | none =>
    rw [htoken] at hexpr
    cases hexpr
  | some token =>
    rw [htoken] at hexpr
    cases token with
    | timestampIso =>
      cases hexpr
      obtain ⟨d, hassign, rfl⟩ := map_eq_ok.mp hwrite
      refine ⟨fun _ => ⟨d, rfl, hconverts.assignNow _ d hassign⟩, fun hcodelist d' hd => ?_,
        fun h => (hnoObject h).elim⟩
      cases hd
      rw [htype, (hlist hcodelist).1, hconverts.assignNowText] at hassign
      cases hassign
      exact ⟨env.nowText, hfits.timestamp f hfield hcodelist htoken, rfl⟩
    | outwardIdentifier =>
      -- a copy of the identifier needs a path to copy from
      cases hpath : rc.outwardIdentifierPath with
      | none =>
        rw [hpath] at hexpr
        cases hexpr
      | some path =>
        rw [hpath] at hexpr
        cases hexpr
        cases hsegments : segments path with
        | nil =>
          rw [hsegments] at hwrite
          cases hwrite
          exact valueConforms_none hnull
        | cons head tail =>
          rw [hsegments, serverWrite] at hwrite
          have hleaf : (head :: tail).getLast (List.cons_ne_nil head tail) =
              (head :: tail).getLastD "" := by
            rw [List.getLast_eq_getLastD, List.getLastD_cons]
          simp only [hleaf] at hwrite
          -- no text at the path gives NULL
          cases htext : textAt env feature (head :: tail) with
          | none =>
            rw [textAt] at htext
            rw [htext] at hwrite
            cases hwrite
            exact valueConforms_none hnull
          | some text =>
            have htext' := htext
            rw [textAt] at htext'
            rw [htext'] at hwrite
            obtain ⟨d, hassign, rfl⟩ := map_eq_ok.mp hwrite
            refine ⟨fun _ => ⟨d, rfl, hconverts.assignText _ _ d hassign⟩, fun hcodelist d' hd => ?_,
              fun h => (hnoObject h).elim⟩
            cases hd
            rw [htype, (hlist hcodelist).1, hconverts.assignTextText] at hassign
            cases hassign
            refine ⟨text, hfits.identifier f hfield hcodelist htoken path hpath text ?_, rfl⟩
            rw [hsegments]
            exact htext

end Values

end Geocomponents
