/-
Which QMS schemas convert to a description that the loader takes.

The paths that an `Identifikasjon` asks for are written whether or not they lead
anywhere, and what two attributes of one identifier become is left to the loader.

* `exists_prepareCollection` — when the loader takes a converted collection;
* `resolvesTo_iff` — when the resolved dataset is what the schema says;
* **`convertQms_accepted_iff`** — the document is taken, and the resolved dataset is
  what the schema says, exactly when the schema is convertible.
-/
import Topogdb.Geocomponents.ConvertedDocument
import Topogdb.Geocomponents.FunctionNames

namespace Geocomponents

open Python Except

/-! ### Merging -/

/-- The fields of a collection are resolved like sub-fields, but under names that are
apart. -/
theorem resolveMerged_eq_ok {types : List (String × FieldType)}
    {codelists : List (String × CodeList)} {place : String} {flds : List FieldDef}
    {rs : List ResolvedField} (h : resolveSubFields types codelists place flds = .ok rs)
    {seen : List String} {fields : List ResolvedField} :
    resolveMerged types codelists place seen flds = .ok fields ↔
      fields = rs ∧ (flds.map (·.name.1)).Nodup ∧ ∀ fld ∈ flds, fld.name.1 ∉ seen := by
  induction flds generalizing seen rs fields with
  | nil =>
    rw [resolveSubFields] at h
    cases h
    rw [resolveMerged]
    constructor
    · intro h
      cases h
      exact ⟨rfl, List.nodup_nil, fun fld hfld => absurd hfld List.not_mem_nil⟩
    · rintro ⟨rfl, -⟩
      rfl
  | cons fld flds ih =>
    rw [resolveSubFields] at h
    obtain ⟨r, hr, h⟩ := bind_eq_ok.mp h
    obtain ⟨rs', hrs, h⟩ := bind_eq_ok.mp h
    cases h
    rw [resolveMerged, List.map_cons, List.nodup_cons, List.forall_mem_cons]
    by_cases hseen : fld.name.1 ∈ seen
    · rw [if_pos hseen]
      exact iff_of_false (fun h => by cases h) fun h => h.2.2.1 hseen
    · rw [if_neg hseen]
      simp only [hr, ok_bind]
      constructor
      · intro h
        obtain ⟨fields', hfields, h⟩ := bind_eq_ok.mp h
        cases h
        obtain ⟨rfl, hnodup, hnew⟩ := (ih hrs).mp hfields
        refine ⟨rfl, ⟨?_, hnodup⟩, hseen, fun fld' hfld' hmem => ?_⟩
        · intro hmem
          obtain ⟨fld', hfld', hname⟩ := List.mem_map.mp hmem
          exact hnew fld' hfld' (List.mem_append_right _ (List.mem_singleton.mpr hname))
        · exact hnew fld' hfld' (List.mem_append_left _ hmem)
      · rintro ⟨rfl, ⟨hfirst, hnodup⟩, -, hnew⟩
        have hrest : resolveMerged types codelists place (seen ++ [fld.name.1]) flds = .ok rs' := by
          refine (ih hrs).mpr ⟨rfl, hnodup, fun fld' hfld' hmem => ?_⟩
          rcases List.mem_append.mp hmem with hmem | hmem
          · exact hnew fld' hfld' hmem
          · exact hfirst (List.mem_map.mpr ⟨fld', hfld', List.mem_singleton.mp hmem⟩)
        rw [hrest]
        rfl

/-! ### Paths -/

theorem dot_not_mem_of_safe {name : String} (h : isSafeIdentifier name = true) :
    '.' ∉ name.toList := by
  intro hdot
  have hchar := (isNameChar_of_safe h).1 '.' hdot
  exact absurd hchar (by decide)

theorem segments_of_safe {name : String} (h : isSafeIdentifier name = true) :
    segments name = [name] := by
  rw [segments, List.splitOn_eq_singleton (dot_not_mem_of_safe h), List.map_singleton,
    String.ofList_toList]

/-- A path of two identifiers. -/
theorem segments_dotted {name key : String} (hname : isSafeIdentifier name = true)
    (hkey : isSafeIdentifier key = true) : segments (name ++ "." ++ key) = [name, key] := by
  have hchars : (name ++ "." ++ key).toList = name.toList ++ '.' :: key.toList := by simp
  rw [segments, hchars, List.splitOn_append_cons_self_of_not_mem (dot_not_mem_of_safe hname),
    List.splitOn_eq_singleton (dot_not_mem_of_safe hkey), List.map_cons, List.map_singleton,
    String.ofList_toList, String.ofList_toList]

section Paths

variable {fields : List ResolvedField} {path place kind a b : String}

theorem resolveDotPath_single (h : segments path = [a]) :
    resolveDotPath fields path place kind = .ok () ↔ a ∈ fields.map (·.name) := by
  rw [resolveDotPath, h, List.foldlM_cons]
  cases hfind : fields.find? (·.name = a) with
  | none =>
    refine iff_of_false (fun h => by cases h) fun hmem => ?_
    obtain ⟨f, hf, rfl⟩ := List.mem_map.mp hmem
    simpa using List.find?_eq_none.mp hfind f hf
  | some f =>
    refine iff_of_true rfl (List.mem_map.mpr ⟨f, List.mem_of_find?_eq_some hfind, ?_⟩)
    simpa using List.find?_some hfind

theorem resolveDotPath_pair (h : segments path = [a, b]) :
    resolveDotPath fields path place kind = .ok () ↔
      ∃ f, fields.find? (·.name = a) = some f ∧ b ∈ f.subFields.map (·.name) := by
  rw [resolveDotPath, h, List.foldlM_cons]
  cases hfind : fields.find? (·.name = a) with
  | none => exact iff_of_false (fun h => by cases h) fun ⟨f, h, _⟩ => by cases h
  | some f =>
    simp only [ok_bind, List.foldlM_cons]
    cases hsub : f.subFields.find? (·.name = b) with
    | none =>
      refine iff_of_false (fun h => by cases h) ?_
      rintro ⟨_, ⟨⟩, hmem⟩
      obtain ⟨g, hg, rfl⟩ := List.mem_map.mp hmem
      simpa using List.find?_eq_none.mp hsub g hg
    | some g =>
      refine iff_of_true rfl ⟨f, rfl, List.mem_map.mpr ⟨g, List.mem_of_find?_eq_some hsub, ?_⟩⟩
      simpa using List.find?_some hsub

end Paths

/-! ### Upsert fields -/

theorem isSome_setDefault {d : List (String × String)} {k v k' : String} :
    ((setDefault d k v).lookup k').isSome = true ↔ k' = k ∨ (d.lookup k').isSome = true := by
  rw [lookup_isSome_iff, lookup_isSome_iff, setDefault]
  split
  · next h => exact ⟨Or.inr, fun h' => h'.elim (fun he => he ▸ lookup_isSome_iff.mp h) id⟩
  · simp [or_comm]

theorem isSome_foldl_setDefault {es d : List (String × String)} {k : String}
    (h : (d.lookup k).isSome = true) :
    ((es.foldl (fun d e => setDefault d e.1 e.2) d).lookup k).isSome = true := by
  induction es generalizing d with
  | nil => exact h
  | cons e es ih => exact ih (isSome_setDefault.mpr (.inr h))

/-- The upsert field is one of the aliases. -/
theorem isSome_upsertAlias {coll : CollectionDef} {fields : List ResolvedField} {field : String}
    (h : resolvedUpsertField coll fields = some field) :
    ((upsertAliasPaths fields coll.outwardIdentifier).lookup field).isSome = true := by
  rw [resolvedUpsertField] at h
  unfold upsertAliasPaths
  have hnames : "lokalid" ∈ fields.map (·.name) → ∀ es : List (String × String),
      ((es.foldl (fun d e => setDefault d e.1 e.2)
        (dictOf (fields.map fun f => (f.name, f.name)))).lookup "lokalid").isSome = true := by
    intro hmem es
    refine isSome_foldl_setDefault ?_
    rw [lookup_dictOf_isSome, List.map_map]
    exact hmem
  cases hpath : coll.outwardIdentifier with
  | none =>
    rw [hpath] at h
    simp only [Option.ite_none_right_eq_some, Option.some.injEq, List.any_eq_true,
      decide_eq_true_eq] at h
    obtain ⟨⟨f, hf, hname⟩, rfl⟩ := h
    exact hnames (List.mem_map.mpr ⟨f, hf, hname⟩) _
  | some path =>
    rw [hpath] at h
    by_cases hempty : path = ""
    · subst hempty
      simp only [Option.ite_none_right_eq_some, Option.some.injEq, List.any_eq_true,
        decide_eq_true_eq] at h
      obtain ⟨⟨f, hf, hname⟩, rfl⟩ := h
      exact hnames (List.mem_map.mpr ⟨f, hf, hname⟩) _
    · have hfield : field = path := by
        split at h
        · next he => cases he
        · next he =>
          cases he
          exact absurd rfl hempty
        · next he =>
          cases he
          exact (Option.some.inj h).symm
      subst hfield
      split
      · next he => cases he
      · next he =>
        cases he
        exact absurd rfl hempty
      · next he =>
        cases he
        exact isSome_setDefault.mpr (.inr (isSome_setDefault.mpr (.inl rfl)))

/-- Without fields that the server numbers, the upsert field is accepted. -/
theorem checkUpsertField_ok {coll : CollectionDef} {fields : List ResolvedField} {place : String} :
    checkUpsertField coll fields [] place = .ok () := by
  rw [checkUpsertField]
  cases hfield : resolvedUpsertField coll fields with
  | none => rfl
  | some field =>
    obtain ⟨path, hpath⟩ := Option.isSome_iff_exists.mp (isSome_upsertAlias hfield)
    simp only [hpath, List.not_mem_nil, if_false]

/-! ### Acceptance -/

section Accept

variable {lower : String → String} {dats : List (String × DatEntry)}

theorem autoIncrement_allEmitted {attrs : List QmsAttribute} :
    ∀ fld ∈ allEmitted lower dats attrs, fld.autoIncrement = false := by
  induction attrs with
  | nil =>
    rw [allEmitted]
    exact fun fld hfld => absurd hfld List.not_mem_nil
  | cons attr attrs ih =>
    rw [allEmitted, List.forall_mem_append]
    refine ⟨fun fld hfld => ?_, ih⟩
    obtain ⟨-, dat, -, rfl⟩ | ⟨-, -, rfl⟩ | ⟨-, rfl⟩ | ⟨-, -, t, -, rfl⟩ :=
      emitted_cases (Option.mem_toList.mp hfld)
    all_goals rfl

variable (lower dats) in
/-- The field of a struct has the fields of its sub-attributes. -/
theorem emitted_struct {attr : QmsAttribute} (h : attr.type = "Struct") :
    ∃ fld, emitted lower dats attr = some fld ∧ fld.name = safeId lower attr.name ∧
      fld.fields = allEmitted lower dats attr.attributeTypes := by
  obtain ⟨name, type, uuid, multiplicityMin, subs⟩ := attr
  subst h
  refine ⟨{ name := safeId lower name, type := some "object", fields := allEmitted lower dats subs
            required := decide (1 ≤ multiplicityMin) }, ?_, rfl, rfl⟩
  rw [emitted]
  rfl

theorem mem_allEmitted {attrs : List QmsAttribute} {attr : QmsAttribute} (hattr : attr ∈ attrs)
    {fld : FieldDef} (h : emitted lower dats attr = some fld) :
    fld ∈ allEmitted lower dats attrs := by
  induction attrs with
  | nil => exact absurd hattr List.not_mem_nil
  | cons attr' attrs ih =>
    rw [allEmitted, List.mem_append]
    rcases List.mem_cons.mp hattr with rfl | hattr
    · exact .inl (by rw [h]; exact List.mem_singleton_self fld)
    · exact .inr (ih hattr)

section Paths

variable {attrs : List QmsAttribute} {rs : List ResolvedField} {place kind : String}

theorem names_of_sameNames (h : List.Forall₂ SameNames (allEmitted lower dats attrs) rs) :
    rs.map (·.name) = knownIds lower attrs := by
  rw [← allEmitted_names lower dats]
  exact (h.map_eq fun _ _ hname => hname.name.symm).symm

/-- Under identifiers that are apart, a struct is found with its own sub-fields. -/
theorem find?_struct (h : List.Forall₂ SameNames (allEmitted lower dats attrs) rs)
    (hnodup : (knownIds lower attrs).Nodup) {attr : QmsAttribute} (hattr : attr ∈ attrs)
    (hstruct : attr.type = "Struct") :
    ∃ f, rs.find? (·.name = (safeId lower attr.name).1) = some f ∧
      f.subFields.map (·.name) = knownIds lower attr.attributeTypes := by
  obtain ⟨fld, hfld, hname, hfields⟩ := emitted_struct lower dats hstruct
  obtain ⟨r, hr, hsame⟩ := h.exists_of_mem_left (mem_allEmitted hattr hfld)
  have hrname : r.name = (safeId lower attr.name).1 := hsame.name.trans (congrArg Subtype.val hname)
  cases hfind : rs.find? (·.name = (safeId lower attr.name).1) with
  | none => exact absurd hrname (by simpa using List.find?_eq_none.mp hfind r hr)
  | some f =>
    have hfname : f.name = (safeId lower attr.name).1 := by simpa using List.find?_some hfind
    rw [← names_of_sameNames h] at hnodup
    have hrf : f = r := List.inj_on_of_nodup_map hnodup (List.mem_of_find?_eq_some hfind) hr
      (hfname.trans hrname.symm)
    refine ⟨f, rfl, ?_⟩
    rw [hrf, hsame.subNames, hfields, allEmitted_names]

theorem resolveDotPath_struct (h : List.Forall₂ SameNames (allEmitted lower dats attrs) rs)
    (hnodup : (knownIds lower attrs).Nodup) {attr : QmsAttribute} (hattr : attr ∈ attrs)
    (hstruct : attr.type = "Struct") {key : String} (hkey : isSafeIdentifier key = true) :
    resolveDotPath rs ((safeId lower attr.name).1 ++ "." ++ key) place kind = .ok () ↔
      key ∈ knownIds lower attr.attributeTypes := by
  obtain ⟨f, hfind, hsubs⟩ := find?_struct h hnodup hattr hstruct
  rw [resolveDotPath_pair (segments_dotted (safeId lower attr.name).2 hkey), hfind, ← hsubs]
  constructor
  · rintro ⟨_, ⟨⟩, hmem⟩
    exact hmem
  · intro hmem
    exact ⟨f, rfl, hmem⟩

/-- The paths that an attribute hands over lead into the fields. -/
theorem resolveDotPath_handed (h : List.Forall₂ SameNames (allEmitted lower dats attrs) rs)
    (hnodup : (knownIds lower attrs).Nodup) {attr : QmsAttribute} (hattr : attr ∈ attrs) :
    (∀ path ∈ handedPaths lower dats attr, resolveDotPath rs path place kind = .ok ()) ↔
      (attr.isServerManaged dats = true → (safeId lower attr.name).1 ∈ knownIds lower attrs) ∧
      (attr.isIdentifikasjon dats = true →
        "versjonid" ∈ knownIds lower attr.attributeTypes) := by
  rw [handedPaths]
  by_cases hmanaged : attr.isServerManaged dats = true
  · rw [if_pos hmanaged, List.forall_mem_singleton,
      resolveDotPath_single (segments_of_safe (safeId lower attr.name).2), names_of_sameNames h,
      isIdentifikasjon_of_isServerManaged hmanaged]
    simp [hmanaged]
  · rw [if_neg hmanaged]
    by_cases hident : attr.isIdentifikasjon dats = true
    · have hstruct := (isIdentifikasjon_iff.mp hident).1
      rw [if_pos hident, List.forall_mem_singleton, versjonidPath,
        resolveDotPath_struct h hnodup hattr hstruct (by decide)]
      simp [hmanaged, hident]
    · rw [if_neg hident]
      simp [hmanaged, hident]

theorem lokalidPath_ne (attr : QmsAttribute) : lokalidPath lower attr ≠ "" := by
  intro h
  have hlength := congrArg (fun s : String => s.toList.length) h
  simp [lokalidPath] at hlength

end Paths

section Prepare

variable {ft : FeatureType} {coll : CollectionDef} {rs : List ResolvedField}

/-- The outward identifier is found in the last `Identifikasjon`. -/
theorem checkOutwardIdentifier_iff (place : String) (hdesc : DescribedBy lower dats ft coll)
    (h : List.Forall₂ SameNames (allEmitted lower dats ft.attributeTypes) rs)
    (hnodup : (knownIds lower ft.attributeTypes).Nodup) :
    checkOutwardIdentifier coll rs place = .ok () ↔
      ∀ attr, (ft.attributeTypes.filter (·.isIdentifikasjon dats)).getLast? = some attr →
        "lokalid" ∈ knownIds lower attr.attributeTypes := by
  rw [checkOutwardIdentifier, hdesc.outwardIdentifier]
  cases hlast : (ft.attributeTypes.filter (·.isIdentifikasjon dats)).getLast? with
  | none => exact iff_of_true rfl fun attr h => by cases h
  | some attr =>
    obtain ⟨hattr, hident⟩ := List.mem_filter.mp (List.mem_of_getLast? hlast)
    have hstruct := (isIdentifikasjon_iff.mp hident).1
    rw [Option.map_some]
    split
    · next hnone => cases hnone
    · next hempty => exact absurd (Option.some.inj hempty) (lokalidPath_ne attr)
    · next path _ hpath =>
      rw [← Option.some.inj hpath, lokalidPath,
        resolveDotPath_struct h hnodup hattr hstruct (by decide)]
      constructor
      · intro hmem attr' hattr'
        cases hattr'
        exact hmem
      · intro hall
        exact hall attr rfl

/-- The paths that the server manages are found. -/
theorem serverManaged_iff (place : String) (hdesc : DescribedBy lower dats ft coll)
    (h : List.Forall₂ SameNames (allEmitted lower dats ft.attributeTypes) rs)
    (hnodup : (knownIds lower ft.attributeTypes).Nodup) :
    (coll.serverManaged.forM fun e => resolveDotPath rs e.1 place "server_managed") = .ok () ↔
      ∀ attr ∈ ft.attributeTypes,
        (attr.isServerManaged dats = true →
          (safeId lower attr.name).1 ∈ knownIds lower ft.attributeTypes) ∧
        (attr.isIdentifikasjon dats = true →
          "versjonid" ∈ knownIds lower attr.attributeTypes) := by
  have hpaths : (∀ e ∈ coll.serverManaged, resolveDotPath rs e.1 place "server_managed" = .ok ()) ↔
      ∀ path ∈ ft.attributeTypes.flatMap (handedPaths lower dats),
        resolveDotPath rs path place "server_managed" = .ok () := by
    rw [← List.forall_mem_map (f := Prod.fst)
      (P := fun path => resolveDotPath rs path place "server_managed" = .ok ())]
    exact forall_congr' fun path => imp_congr_left (hdesc.serverManaged path)
  rw [forM_ok, hpaths, List.forall_mem_flatMap]
  exact forall₂_congr fun attr hattr => resolveDotPath_handed h hnodup hattr

/-- **A converted collection is taken with fixed fields, when its feature type is
resolvable**; the fields are what the feature type asks for when its code lists keep
their values. -/
theorem exists_prepareCollection (dataset : DatasetDef) (hdesc : DescribedBy lower dats ft coll)
    (hlisted : Listed (dataset.allCodelists Commons.empty)
      (allCodelistUses lower dats ft.attributeTypes)) :
    ∃ rs, (FieldsOf lower dats ft.attributeTypes rs ↔
        Kept (dataset.allCodelists Commons.empty) (allCodelistUses lower dats ft.attributeTypes)) ∧
      ∀ fields, prepareCollection dataset Commons.empty coll = .ok fields ↔
        fields = rs ∧ ft.Resolvable lower dats := by
  obtain ⟨rs, hrs, hnames, hkept⟩ := @resolveSubFields_emitted lower dats Commons.empty.types _
    ft.attributeTypes hlisted (dataset.place coll)
  refine ⟨rs, hkept, fun fields => ?_⟩
  have hmerged : Commons.empty.baseFields ++ coll.fields =
      allEmitted lower dats ft.attributeTypes := by
    rw [hdesc.fields]
    rfl
  have hauto : (allEmitted lower dats ft.attributeTypes).filter (·.autoIncrement) = [] := by
    rw [List.filter_eq_nil_iff]
    intro fld hfld
    rw [autoIncrement_allEmitted fld hfld]
    exact Bool.false_ne_true
  rw [prepareCollection]
  by_cases hreserved : coll.name.1 ∈ reservedCollectionNames
  · rw [if_pos hreserved]
    refine iff_of_false (fun h => by cases h) fun h => h.2.name_unreserved ?_
    rw [← hdesc.name]
    exact hreserved
  · rw [if_neg hreserved]
    simp only [hmerged, hauto, List.map_nil]
    constructor
    · intro h
      obtain ⟨fields', hfields, h⟩ := bind_eq_ok.mp h
      obtain ⟨rfl, hnodup, -⟩ := (resolveMerged_eq_ok hrs).mp hfields
      obtain ⟨houtward, h⟩ := seq_eq_ok.mp h
      obtain ⟨hmanaged, h⟩ := seq_eq_ok.mp h
      obtain ⟨-, h⟩ := seq_eq_ok.mp h
      cases h
      rw [allEmitted_names] at hnodup
      have hmanaged := (serverManaged_iff _ hdesc hnames hnodup).mp hmanaged
      refine ⟨rfl, ?_, hnodup, fun attr hattr => (hmanaged attr hattr).1,
        fun attr hattr => (hmanaged attr hattr).2,
        (checkOutwardIdentifier_iff _ hdesc hnames hnodup).mp houtward⟩
      rw [← hdesc.name]
      exact hreserved
    · rintro ⟨rfl, hft⟩
      have hnodup : ((allEmitted lower dats ft.attributeTypes).map (·.name.1)).Nodup := by
        rw [allEmitted_names]
        exact hft.ids_nodup
      have hfields := (resolveMerged_eq_ok hrs).mpr ⟨rfl, hnodup, fun _ _ => List.not_mem_nil⟩
      have houtward := (checkOutwardIdentifier_iff (dataset.place coll) hdesc hnames
        hft.ids_nodup).mpr hft.lokalid
      have hmanaged := (serverManaged_iff (dataset.place coll) hdesc hnames
        hft.ids_nodup).mpr fun attr hattr => ⟨hft.serverManaged attr hattr, hft.versjonid attr hattr⟩
      rw [hfields, ok_bind, houtward, ok_bind, hmanaged, ok_bind, checkUpsertField_ok, ok_bind]

end Prepare

/-! ### The dataset -/

section Dataset

variable {dataset : DatasetDef} {fts : List FeatureType}

/-- Without relationships, bounds and derived geometries nothing else is refused. -/
theorem exists_resolveCollection {ft : FeatureType} {coll : CollectionDef}
    (hdesc : DescribedBy lower dats ft coll) (byName : List (String × List ResolvedField))
    (fields : List ResolvedField) :
    ∃ r, resolveCollection dataset byName (coll, fields) = .ok r := by
  have hbounds (targeted : List String) (place : String) :
      validateBounds coll targeted place = .ok () := by
    rw [validateBounds, hdesc.bounds]
    rfl
  have hrels (names : List String) (place : String) :
      resolveRelationships coll names place = .ok [] := by
    rw [resolveRelationships, hdesc.relationships]
    rfl
  rw [resolveCollection]
  simp only [hbounds, hrels, ok_bind, resolveDerived, hdesc.derived]
  exact ⟨_, rfl⟩

/-- The dataset is resolved when the fields of each collection are. -/
theorem exists_resolveDataset (hprocesses : dataset.processes = [])
    (hcolls : List.Forall₂ (DescribedBy lower dats) fts dataset.collections) :
    (∃ resolved, resolveDataset dataset Commons.empty = .ok resolved) ↔
      ∀ coll ∈ dataset.collections,
        ∃ fields, prepareCollection dataset Commons.empty coll = .ok fields := by
  constructor
  · rintro ⟨resolved, h⟩ coll hcoll
    obtain ⟨r, -, hr⟩ := (resolvedFrom_of_resolveDataset h).exists_of_mem_left hcoll
    exact ⟨r.fields, hr.prepared⟩
  · intro h
    -- the first loop prepares each collection, the second resolves what is prepared
    obtain ⟨prepared, hprepared⟩ : ∃ prepared, (dataset.collections.mapM fun coll => do
        let fields ← prepareCollection dataset Commons.empty coll
        .ok (coll, fields)) = .ok prepared := by
      rw [exists_mapM_ok]
      intro coll hcoll
      obtain ⟨fields, hfields⟩ := h coll hcoll
      exact ⟨(coll, fields), by rw [hfields, ok_bind]⟩
    obtain ⟨collections, hcollections⟩ : ∃ collections, prepared.mapM (resolveCollection dataset
        (dictOf (prepared.map fun p => (p.1.name.1, p.2)))) = .ok collections := by
      rw [exists_mapM_ok]
      intro p hp
      obtain ⟨coll, hcoll, hpair⟩ := (forall₂_of_mapM hprepared).exists_of_mem_right hp
      obtain ⟨fields, -, hpair⟩ := bind_eq_ok.mp hpair
      cases hpair
      obtain ⟨ft, -, hdesc⟩ := hcolls.exists_of_mem_right hcoll
      exact exists_resolveCollection hdesc _ _
    refine ⟨⟨dataset.name, dataset.processes, collections⟩, ?_⟩
    have hunknown : dataset.processes.dedup.filter (· ∉ knownProcessIds) = [] := by
      rw [hprocesses]
      rfl
    rw [resolveDataset]
    simp only [hunknown, ne_eq, not_true_eq_false, if_false, hprepared, ok_bind, hcollections]

/-- **The dataset of a schema is resolved to what the schema says** exactly when each of its
feature types is resolvable and keeps the values of its code lists. -/
theorem resolvesTo_iff (hprocesses : dataset.processes = [])
    (hcolls : List.Forall₂ (DescribedBy lower dats) fts dataset.collections)
    (hlisted : ∀ ft ∈ fts, Listed (dataset.allCodelists Commons.empty)
      (allCodelistUses lower dats ft.attributeTypes)) :
    (∃ resolved, resolveDataset dataset Commons.empty = .ok resolved ∧
        List.Forall₂ (CollectionOf lower dats) fts resolved.collections) ↔
      ∀ ft ∈ fts, ft.Resolvable lower dats ∧ Kept (dataset.allCodelists Commons.empty)
        (allCodelistUses lower dats ft.attributeTypes) := by
  have hdescribed := (List.forall₂_and_left _ _).mpr ⟨hlisted, hcolls⟩
  have hprepare : (∀ ft ∈ fts, ft.Resolvable lower dats) ↔ ∀ coll ∈ dataset.collections,
      ∃ fields, prepareCollection dataset Commons.empty coll = .ok fields := by
    refine hdescribed.forall_iff fun ft coll ⟨hft, hdesc⟩ => ?_
    obtain ⟨rs, -, hiff⟩ := exists_prepareCollection dataset hdesc hft
    constructor
    · intro hresolvable
      exact ⟨rs, (hiff rs).mpr ⟨rfl, hresolvable⟩⟩
    · rintro ⟨fields, hfields⟩
      exact ((hiff fields).mp hfields).2
  have hcollections : ∀ resolved, resolveDataset dataset Commons.empty = .ok resolved →
      (List.Forall₂ (CollectionOf lower dats) fts resolved.collections ↔
        ∀ ft ∈ fts, Kept (dataset.allCodelists Commons.empty)
          (allCodelistUses lower dats ft.attributeTypes)) := by
    intro resolved h
    have hresolved := List.forall₂_exists.mpr
      ⟨dataset.collections, hdescribed, resolvedFrom_of_resolveDataset h⟩
    refine hresolved.iff_left fun ft rc ⟨coll, ⟨hft, hdesc⟩, hrc⟩ => ?_
    obtain ⟨rs, hkept, hiff⟩ := exists_prepareCollection dataset hdesc hft
    obtain ⟨byName, hfrom⟩ := hrc.resolved
    have hname : rc.name = safeId lower ft.name :=
      (resolveCollection_ok hrc.prepared hfrom).name.trans (congrArg Subtype.val hdesc.name)
    rw [CollectionOf, ((hiff rc.fields).mp hrc.prepared).1, hkept]
    exact and_iff_right hname
  rw [forall₂_and, hprepare, ← exists_resolveDataset hprocesses hcolls]
  constructor
  · rintro ⟨resolved, h, hcolls⟩
    exact ⟨⟨resolved, h⟩, (hcollections resolved h).mp hcolls⟩
  · rintro ⟨⟨resolved, h⟩, hkept⟩
    exact ⟨resolved, h, (hcollections resolved h).mpr hkept⟩

end Dataset

end Accept

/-! ### Schemas -/

section Schema

variable {lower : String → String} {yaml : Yaml} {path text : String} {qms : Qms}
  {datasetName : SafeIdentifier} {srid : ℤ} {hasZ : Bool}

variable (lower yaml path) in
/-- The text is accepted, and the dataset that it is resolved to has one collection for each
feature type and one field for each attribute of a known type, with its own codes. -/
def AcceptedAs (qms : Qms) (text : String) : Prop :=
  ∃ dataset resolved, loadDataset yaml path text = .ok dataset ∧
    resolveDataset dataset Commons.empty = .ok resolved ∧
    List.Forall₂ (CollectionOf lower qms.datByUuid) qms.featureTypes resolved.collections

theorem listed_of_mem {dataset : DatasetDef}
    (h : dataset.codelists = (qms.codelistUses lower).foldl registerCodelist []) :
    ∀ ft ∈ qms.featureTypes, Listed (dataset.allCodelists Commons.empty)
      (allCodelistUses lower qms.datByUuid ft.attributeTypes) := by
  intro ft hft u hu
  obtain ⟨cl, -, -, hcl⟩ := lookup_allCodelists h (List.mem_flatMap.mpr ⟨ft, hft, hu⟩)
  exact ⟨cl, hcl⟩

/-- A document that loads is resolved to what the schema says exactly when the schema is
convertible. -/
theorem resolvesTo_iff_convertible {dataset : DatasetDef} (hprocesses : dataset.processes = [])
    (hcolls : List.Forall₂ (DescribedBy lower qms.datByUuid) qms.featureTypes dataset.collections)
    (hcodelists : dataset.codelists = (qms.codelistUses lower).foldl registerCodelist []) :
    (∃ resolved, resolveDataset dataset Commons.empty = .ok resolved ∧
        List.Forall₂ (CollectionOf lower qms.datByUuid) qms.featureTypes resolved.collections) ↔
      (∀ ft ∈ qms.featureTypes, ft.Resolvable lower qms.datByUuid) ∧
        Agreeing (qms.codelistUses lower) := by
  rw [resolvesTo_iff hprocesses hcolls (listed_of_mem hcodelists), forall₂_and,
    ← kept_iff_agreeing hcodelists, Qms.codelistUses, Kept, List.forall_mem_flatMap]
  rfl

/-- The document loads when every struct of the schema is filled. -/
theorem exists_loadDataset (path : String)
    (hyaml : yaml.safeLoad text = .ok (convertedDoc lower qms datasetName srid hasZ)) :
    (∃ dataset, loadDataset yaml path text = .ok dataset) ↔
      ∀ ft ∈ qms.featureTypes, QmsAttribute.allStructsFilled ft.attributeTypes = true := by
  obtain ⟨hdocs, -⟩ := convertedDoc_spec lower qms datasetName srid hasZ
  have hvalid := hdocs.forall_iff (P := fun ft => QmsAttribute.allStructsFilled ft.attributeTypes = true)
    (Q := fun doc => ∃ coll, doc.validate = .ok coll) fun ft doc hdoc => by
      rw [exists_validate, hdoc.fields, allEmitted_valid]
  rw [hvalid, ← exists_mapM_ok]
  constructor
  · rintro ⟨dataset, h⟩
    obtain ⟨colls, hcolls, -⟩ := (loadDataset_eq_ok hyaml).mp h
    exact ⟨colls, mapM_eq_ok_iff.mpr hcolls⟩
  · rintro ⟨colls, h⟩
    exact ⟨_, (loadDataset_eq_ok hyaml).mpr ⟨colls, forall₂_of_mapM h, rfl⟩⟩

/-- What is loaded describes the schema. -/
theorem describes_of_loadDataset
    (hyaml : yaml.safeLoad text = .ok (convertedDoc lower qms datasetName srid hasZ))
    {dataset : DatasetDef} (h : loadDataset yaml path text = .ok dataset) :
    dataset.processes = [] ∧
      List.Forall₂ (DescribedBy lower qms.datByUuid) qms.featureTypes dataset.collections ∧
      dataset.codelists = (qms.codelistUses lower).foldl registerCodelist [] := by
  obtain ⟨hdocs, hcodelists⟩ := convertedDoc_spec lower qms datasetName srid hasZ
  obtain ⟨colls, hcolls, rfl⟩ := (loadDataset_eq_ok hyaml).mp h
  exact ⟨rfl, hdocs.comp hcolls fun _ _ _ hdoc hcoll => describedBy_of_validate hdoc hcoll,
    hcodelists⟩

theorem convertible_of_accepted
    (hyaml : yaml.safeLoad text = .ok (convertedDoc lower qms datasetName srid hasZ))
    (h : AcceptedAs lower yaml path qms text) : qms.Convertible lower := by
  obtain ⟨dataset, resolved, hload, hresolved, hcolls⟩ := h
  obtain ⟨hprocesses, hdescribed, hcodelists⟩ := describes_of_loadDataset hyaml hload
  have hstructs := (exists_loadDataset path hyaml).mp ⟨dataset, hload⟩
  obtain ⟨hfts, hagree⟩ := (resolvesTo_iff_convertible hprocesses hdescribed hcodelists).mp
    ⟨resolved, hresolved, hcolls⟩
  exact ⟨hstructs, hfts, hagree⟩

theorem accepted_of_convertible
    (hyaml : yaml.safeLoad text = .ok (convertedDoc lower qms datasetName srid hasZ))
    (h : qms.Convertible lower) : AcceptedAs lower yaml path qms text := by
  obtain ⟨dataset, hload⟩ := (exists_loadDataset path hyaml).mpr h.structs
  obtain ⟨hprocesses, hdescribed, hcodelists⟩ := describes_of_loadDataset hyaml hload
  obtain ⟨resolved, hresolved, hcolls⟩ :=
    (resolvesTo_iff_convertible hprocesses hdescribed hcodelists).mpr ⟨h.featureTypes, h.codelists⟩
  exact ⟨dataset, resolved, hload, hresolved, hcolls⟩

/-- **A converted schema is accepted, with its own code lists, exactly when it is
convertible.** -/
theorem convertQms_accepted_iff (lower : String → String) (yaml : Yaml) (path : String) (qms : Qms)
    (datasetName : SafeIdentifier) (srid : ℤ) (hasZ : Bool)
    (hyaml : yaml.safeLoad (convertQms lower yaml qms datasetName srid hasZ) =
      .ok (convertedDoc lower qms datasetName srid hasZ)) :
    AcceptedAs lower yaml path qms (convertQms lower yaml qms datasetName srid hasZ) ↔
      qms.Convertible lower := by
  constructor
  · exact convertible_of_accepted hyaml
  · exact accepted_of_convertible hyaml

end Schema

/-! ### Samples -/

section Sample

/-- `str.lower`, of letters in ASCII. -/
def Sample.asciiLower (s : String) : String := String.ofList (s.toList.map Char.toLower)

/-- YAML, where the text is that of the document. -/
def Sample.yamlOf (lines : List String) (doc : DatasetDoc) : Yaml where
  dump _ := "\n".intercalate lines
  safeLoad _ := .ok doc

/-- A wall with its identification, its date, its height and its medium. -/
def Sample.wallQms : Qms where
  featureTypes := [
    { name := "Mur"
      attributeTypes := [
        { name := "identifikasjon", type := "Struct", uuid := "id-1", multiplicityMin := 1
          attributeTypes := [
            { name := "lokalId", type := "String" }, { name := "navnerom", type := "String" },
            { name := "versjonId", type := "String" }] },
        { name := "oppdateringsdato", type := "DateTime", uuid := "id-2" },
        { name := "høyde", type := "Real" },
        { name := "medium", type := "CodeList", uuid := "id-3" },
        { name := "nedsenket", type := "Bool" }] }]
  defaultAttributeTypes := [
    { uuid := "id-1", typeName := "Identifikasjon" },
    { uuid := "id-2", typeName := "oppdateringsdato" },
    { uuid := "id-3", typeName := "Medium", codeList := ["T", "U"] }]

def Sample.wallYaml : Yaml :=
  Sample.yamlOf
    ["name: murer", "title: murer", "description: murer", "collections:", "- name: mur",
      "  title: Mur", "  description: ''", "  geometry:", "    type: MultiLineString",
      "    srid: 25833", "    has_z: true", "  outward_identifier: identifikasjon.lokalid",
      "  server_managed:", "    identifikasjon.versjonid: timestamp_iso",
      "    oppdateringsdato: timestamp_iso", "  fields:", "  - name: identifikasjon",
      "    type: object", "    required: true", "    fields:", "    - name: lokalid",
      "      type: string", "    - name: navnerom", "      type: string", "    - name: versjonid",
      "      type: string", "  - name: oppdateringsdato", "    type: timestamp", "  - name: hoyde",
      "    type: number", "  - name: medium", "    codelist: medium", "codelists:",
      "- name: medium", "  values:", "  - code: T", "  - code: U", ""]
    (convertedDoc Sample.asciiLower Sample.wallQms ⟨"murer", by decide⟩ 25833 true)

theorem convertQms_accepted_wall :
    AcceptedAs Sample.asciiLower Sample.wallYaml "murer.yaml" Sample.wallQms
      (convertQms Sample.asciiLower Sample.wallYaml Sample.wallQms ⟨"murer", by decide⟩ 25833
        true) := by
  refine (convertQms_accepted_iff Sample.asciiLower Sample.wallYaml "murer.yaml" Sample.wallQms
    ⟨"murer", by decide⟩ 25833 true rfl).mpr ?_
  decide +kernel

mutual

/-- The names of the sub-attributes are apart, at every depth. -/
def QmsAttribute.namesApart : QmsAttribute → Bool
  | ⟨_, _, _, _, subs⟩ => decide (subs.map (·.name)).Nodup && allNamesApart subs

def QmsAttribute.allNamesApart : List QmsAttribute → Bool
  | [] => true
  | attr :: attrs => namesApart attr && allNamesApart attrs

end

/-- The names of the feature types are apart, and those of the attributes of each parent. -/
def Qms.NamesApart (qms : Qms) : Prop :=
  (qms.featureTypes.map (·.name)).Nodup ∧ ∀ ft ∈ qms.featureTypes,
    (ft.attributeTypes.map (·.name)).Nodup ∧ QmsAttribute.allNamesApart ft.attributeTypes = true

/-- Two entries of one type name, with different code lists. -/
def Sample.methodsQms : Qms where
  featureTypes := [
    { name := "Mur"
      attributeTypes := [
        { name := "datafangstmetode", type := "CodeList", uuid := "id-1" },
        { name := "datafangstmetodeHøyde", type := "CodeList", uuid := "id-2" }] }]
  defaultAttributeTypes := [
    { uuid := "id-1", typeName := "Datafangstmetode", codeList := ["fot", "dig"] },
    { uuid := "id-2", typeName := "Datafangstmetode", codeList := ["sat"] }]

def Sample.methodsYaml : Yaml :=
  Sample.yamlOf
    ["name: murer", "title: murer", "description: murer", "collections:", "- name: mur",
      "  title: Mur", "  description: ''", "  geometry:", "    type: MultiLineString",
      "    srid: 25833", "    has_z: true", "  fields:", "  - name: datafangstmetode",
      "    codelist: datafangstmetode", "  - name: datafangstmetodehoyde",
      "    codelist: datafangstmetode", "codelists:", "- name: datafangstmetode", "  values:",
      "  - code: fot", "  - code: dig", ""]
    (convertedDoc Sample.asciiLower Sample.methodsQms ⟨"murer", by decide⟩ 25833 true)

/-- **The second code list of a type name is lost**: its field has the codes of the first. -/
theorem convertQms_codes_lost :
    Sample.methodsQms.NamesApart ∧
      Sample.methodsYaml.safeLoad (convertQms Sample.asciiLower Sample.methodsYaml
        Sample.methodsQms ⟨"murer", by decide⟩ 25833 true) =
          .ok (convertedDoc Sample.asciiLower Sample.methodsQms ⟨"murer", by decide⟩ 25833 true) ∧
      ¬ AcceptedAs Sample.asciiLower Sample.methodsYaml "murer.yaml" Sample.methodsQms
        (convertQms Sample.asciiLower Sample.methodsYaml Sample.methodsQms ⟨"murer", by decide⟩
          25833 true) := by
  have hyaml : Sample.methodsYaml.safeLoad (convertQms Sample.asciiLower Sample.methodsYaml
      Sample.methodsQms ⟨"murer", by decide⟩ 25833 true) =
        .ok (convertedDoc Sample.asciiLower Sample.methodsQms ⟨"murer", by decide⟩ 25833 true) := rfl
  refine ⟨?_, hyaml, fun h => ?_⟩
  · rw [Qms.NamesApart]
    decide +kernel
  · exact absurd (convertible_of_accepted hyaml h) (by decide +kernel)

end Sample

end Geocomponents
