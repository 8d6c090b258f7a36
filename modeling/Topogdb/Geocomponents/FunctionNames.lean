/-
The names of the generated functions (`geocomponents/schema/functions.py`:
`function_statements` and `dispatch_statements`).

A function of a collection is called `_<collection>_<suffix>`, which is longer than
what the server keeps of a name for the two verdicts of a long collection name.

* `functionSignatures` — the functions of a schema, by name and parameters;
* `resolve` — the functions that a call of the dispatcher finds;
* **`functionSignatures_apart`** — the names are apart as the server stores them, and
  every call finds the function of its collection and operation alone.
-/
import Topogdb.Geocomponents.RelationNames

namespace Geocomponents

open Sql

/-! ### The functions -/

/-- A generated function. -/
structure FunctionSignature where
  name : String
  parameters : List String
deriving DecidableEq

/-- The name is not quoted in `create or replace function`. -/
def FunctionSignature.storedName (function : FunctionSignature) : String :=
  foldIdentifier function.name

/-- The parameters of the function that `_BUILDER_BY_OP` makes. -/
def Operation.parameters : Operation → List String
  | .items => ["float8[]", "int", "int", "boolean"]
  | .item => ["uuid"]
  | .create => ["jsonb"]
  | .replace => ["uuid", "jsonb"]
  | .update => ["uuid", "jsonb"]
  | .delete => ["uuid"]
  | .upsert => ["jsonb"]

def operationSignature (coll : CollectionPlan) (op : Operation) : FunctionSignature :=
  ⟨s!"_{coll.collectionName}_{op.value}", op.parameters⟩

/-- The functions that `function_statements` makes for a collection. -/
def collectionSignatures (coll : CollectionPlan) : List FunctionSignature :=
  (if coll.roles.isEmpty then []
    else [⟨s!"_{coll.collectionName}_associations", ["uuid"]⟩]) ++
  (if coll.derived.isNone then []
    else
      [⟨s!"_{coll.collectionName}_footprint_members", ["uuid"]⟩,
        ⟨s!"_{coll.collectionName}_footprint_measure", ["uuid"]⟩,
        ⟨s!"_{coll.collectionName}_footprint_structure_verdict", ["uuid"]⟩,
        ⟨s!"_{coll.collectionName}_footprint_geometry_verdict",
          ["uuid", "topogdb.footprint_measure"]⟩]) ++
  coll.operations.map (operationSignature coll)

/-- `function_statements`. -/
def functionSignatures (plan : BuiltSchema) : List FunctionSignature :=
  [⟨"_sources_using", ["text", "uuid[]"]⟩, ⟨"_targets_from_sources", ["text", "uuid[]"]⟩,
    ⟨"_check_member_bounds", ["text", "uuid[]"]⟩] ++
  plan.collections.flatMap (fun coll => collectionSignatures coll.plan) ++
  [⟨"_footprint_structure_verdict", ["text", "uuid"]⟩,
    ⟨"_footprint_geometry_verdict", ["text", "uuid"]⟩, ⟨"_apply_dirty_footprints", ["jsonb"]⟩]

/-! ### The dispatcher -/

/-- What the functions of `dispatch_statements` pass on. -/
def Operation.arguments : Operation → List String
  | .items => ["float8[]", "int", "int", "boolean"]
  | .item => ["uuid"]
  | .create => ["jsonb"]
  | .replace => ["uuid", "jsonb"]
  | .update => ["uuid", "jsonb"]
  | .delete => ["uuid"]
  | .upsert => ["jsonb"]

/-- `'_' || collection || '_items'` and the like. -/
def dispatchedName (collection : String) (op : Operation) : String :=
  "_" ++ collection ++ "_" ++ op.value

/-- A name after `format('%I', …)`, as the server looks it up. -/
def quotedIdentifier (name : String) : String := String.ofList (clipBytes 63 name.toList)

/-- The functions with the name and the parameters of a call. -/
def resolve (functions : List FunctionSignature) (name : String) (arguments : List String) :
    List FunctionSignature :=
  functions.filter fun f => f.storedName = quotedIdentifier name ∧ f.parameters = arguments

/-! ### Names of statements and signatures -/

theorem collectionFunctions_names {coll : CollectionPlan} {functions : List FunctionStatement}
    (h : collectionFunctions coll = .ok functions) :
    functions.map (·.name) = (collectionSignatures coll).map (·.name) := by
  rw [collectionFunctions] at h
  obtain ⟨fs, hfs, h⟩ := Except.bind_eq_ok.mp h
  cases h
  have hops : fs.map (·.name) = coll.operations.map fun op => (operationSignature coll op).name := by
    refine ((Except.forall₂_of_mapM hfs).map_eq fun op f hf => ?_).symm
    rw [builderByOp] at hf
    obtain ⟨-, -, hf⟩ := Except.bind_eq_ok.mp hf
    cases hf
    rfl
  rw [List.map_append, List.map_append, hops, collectionSignatures, List.map_append, List.map_append,
    List.map_map, fnFootprint]
  refine congrArg₂ (· ++ ·) (congrArg₂ (· ++ ·) ?_ ?_) rfl
  · split <;> rfl
  · split <;> rfl

/-- The signatures are those of the statements. -/
theorem functionStatements_names {plan : BuiltSchema} {functions : List FunctionStatement}
    (h : functionStatements plan = .ok functions) :
    functions.map (·.name) = (functionSignatures plan).map (·.name) := by
  rw [functionStatements] at h
  obtain ⟨fss, hfss, h⟩ := Except.bind_eq_ok.mp h
  cases h
  have hcollections : fss.map (List.map (·.name)) =
      plan.collections.map fun coll => (collectionSignatures coll.plan).map (·.name) :=
    ((Except.forall₂_of_mapM hfss).map_eq fun coll fs hfs => (collectionFunctions_names hfs).symm).symm
  rw [List.map_append, List.map_append, List.map_flatten, hcollections, functionSignatures,
    List.map_append, List.map_append, List.map_flatMap, List.flatMap_def]
  rfl

/-! ### Suffixes -/

/-- What follows the collection in the name of a function. -/
def functionSuffixes (coll : CollectionPlan) : List String :=
  (if coll.roles.isEmpty then [] else ["associations"]) ++
  (if coll.derived.isNone then []
    else
      ["footprint_members", "footprint_measure", "footprint_structure_verdict",
        "footprint_geometry_verdict"]) ++
  coll.operations.map Operation.value

def allSuffixes : List String :=
  ["associations", "footprint_members", "footprint_measure", "footprint_structure_verdict",
    "footprint_geometry_verdict", "items", "item", "create", "replace", "update", "delete",
    "upsert"]

/-- The functions that are not of one collection. -/
def datasetFunctionNames : List String :=
  ["_sources_using", "_targets_from_sources", "_check_member_bounds",
    "_footprint_structure_verdict", "_footprint_geometry_verdict", "_apply_dirty_footprints"]

theorem functionSuffixes_sublist (coll : CollectionPlan) :
    (functionSuffixes coll).Sublist allSuffixes := by
  have hroles : (if coll.roles.isEmpty then [] else ["associations"]).Sublist ["associations"] := by
    split
    · exact List.nil_sublist _
    · exact List.Sublist.refl _
  have hderived : (if coll.derived.isNone then []
      else ["footprint_members", "footprint_measure", "footprint_structure_verdict",
        "footprint_geometry_verdict"]).Sublist ["footprint_members", "footprint_measure",
          "footprint_structure_verdict", "footprint_geometry_verdict"] := by
    split
    · exact List.nil_sublist _
    · exact List.Sublist.refl _
  have hops : (coll.operations.map Operation.value).Sublist
      ["items", "item", "create", "replace", "update", "delete", "upsert"] := by
    rw [CollectionPlan.operations]
    split
    · exact List.Sublist.refl _
    · exact List.sublist_append_left ["items", "item", "create", "replace", "update", "delete"] _
  exact (hroles.append hderived).append hops

theorem collectionSignatures_names (coll : CollectionPlan) :
    (collectionSignatures coll).map (·.name) =
      (functionSuffixes coll).map fun suffix => "_" ++ coll.collectionName ++ "_" ++ suffix := by
  have hname (suffix text : String) (h : "_" ++ suffix = text) :
      "_" ++ coll.collectionName ++ "_" ++ suffix = "_" ++ coll.collectionName ++ text := by
    rw [← h, String.append_assoc, String.append_assoc]
  rw [collectionSignatures, functionSuffixes, List.map_append, List.map_append, List.map_append,
    List.map_append, List.map_map, List.map_map]
  refine congrArg₂ (· ++ ·) (congrArg₂ (· ++ ·) ?_ ?_) rfl
  · split
    · rfl
    · rw [List.map_singleton, List.map_singleton, hname "associations" "_associations" (by decide)]
      rfl
  · split
    · rfl
    · simp only [List.map_cons, List.map_nil,
        hname "footprint_members" "_footprint_members" (by decide),
        hname "footprint_measure" "_footprint_measure" (by decide),
        hname "footprint_structure_verdict" "_footprint_structure_verdict" (by decide),
        hname "footprint_geometry_verdict" "_footprint_geometry_verdict" (by decide)]
      rfl

/-- Twenty-one characters tell the suffixes apart. -/
theorem cutApart_allSuffixes : CutApart 21 (allSuffixes.map String.toList) := by decide +kernel

/-! ### Stored names -/

/-- The letters, digits and underscores of an identifier. -/
def IsNameChar (c : Char) : Prop := (c.isLower || c.isDigit || c = '_') = true

instance (c : Char) : Decidable (IsNameChar c) := inferInstanceAs (Decidable (_ = true))

theorem isNameChar_iff {c : Char} :
    IsNameChar c ↔ (97 ≤ c.toNat ∧ c.toNat ≤ 122) ∨ (48 ≤ c.toNat ∧ c.toNat ≤ 57) ∨ c = '_' := by
  delta IsNameChar Char.isLower Char.isDigit
  simp only [Bool.or_eq_true, Bool.and_eq_true, decide_eq_true_eq, UInt32.le_iff_toNat_le, ge_iff_le,
    or_assoc]
  exact Iff.rfl

theorem toNat_lt_of_isNameChar {c : Char} (h : IsNameChar c) : c.toNat < 128 := by
  rcases isNameChar_iff.mp h with h | h | rfl
  · omega
  · omega
  · decide

theorem toLower_of_isNameChar {c : Char} (h : IsNameChar c) : c.toLower = c := by
  have hupper : ¬ (65 ≤ c.toNat ∧ c.toNat ≤ 90) := by
    rcases isNameChar_iff.mp h with h | h | rfl
    · omega
    · omega
    · decide
  delta Char.toLower
  refine dif_neg fun hc => hupper ?_
  exact ⟨UInt32.le_iff_toNat_le.mp hc.1, UInt32.le_iff_toNat_le.mp hc.2⟩

/-- Without capital letters, quotes make no difference. -/
theorem foldIdentifier_eq_quoted {s : String} (h : ∀ c ∈ s.toList, IsNameChar c) :
    foldIdentifier s = quotedIdentifier s := by
  have hlower : s.toList.map Char.toLower = s.toList := by
    rw [List.map_congr_left fun c hc => toLower_of_isNameChar (h c hc)]
    exact List.map_id _
  rw [foldIdentifier, hlower, quotedIdentifier]

/-- A safe name is stored as far as it fits. -/
theorem foldIdentifier_eq {s : String} (h : ∀ c ∈ s.toList, IsNameChar c) :
    foldIdentifier s = String.ofList (s.toList.take 63) := by
  rw [foldIdentifier_eq_quoted h, quotedIdentifier, clipBytes_eq_take fun c hc =>
    utf8Size_of_lt (toNat_lt_of_isNameChar (h c hc))]

theorem isNameChar_of_safe {name : String} (h : isSafeIdentifier name = true) :
    (∀ c ∈ name.toList, IsNameChar c) ∧ name.toList.length ≤ 40 := by
  rw [isSafeIdentifier] at h
  cases hchars : name.toList with
  | nil => simp
  | cons c cs =>
    rw [hchars] at h
    simp only [Bool.and_eq_true, List.all_eq_true, decide_eq_true_eq] at h
    obtain ⟨⟨hc, hcs⟩, hlength⟩ := h
    refine ⟨?_, by rw [List.length_cons]; omega⟩
    intro d hd
    rcases List.mem_cons.mp hd with rfl | hd
    · rcases Bool.or_eq_true _ _ ▸ hc with hc | hc <;> simp [IsNameChar, hc]
    · exact hcs d hd

theorem toList_name (collection suffix : String) :
    ("_" ++ collection ++ "_" ++ suffix).toList =
      ('_' :: collection.toList) ++ '_' :: suffix.toList := by simp

theorem isNameChar_name {collection suffix : String} (hsafe : isSafeIdentifier collection = true)
    (hsuffix : suffix ∈ allSuffixes) :
    ∀ c ∈ ("_" ++ collection ++ "_" ++ suffix).toList, IsNameChar c := by
  have hsuffixes : (allSuffixes.all fun suffix => suffix.toList.all fun c =>
      c.isLower || c.isDigit || c = '_') = true := by decide +kernel
  have hunderscore : IsNameChar '_' := by decide
  intro c hc
  rw [toList_name] at hc
  rcases List.mem_append.mp hc with hc | hc
  · rcases List.mem_cons.mp hc with rfl | hc
    · exact hunderscore
    · exact (isNameChar_of_safe hsafe).1 c hc
  · rcases List.mem_cons.mp hc with rfl | hc
    · exact hunderscore
    · exact List.all_eq_true.mp (List.all_eq_true.mp hsuffixes suffix hsuffix) c hc

/-- The stored name of a function of a collection. -/
theorem storedName_collection {collection suffix : String} (hsafe : isSafeIdentifier collection = true)
    (hsuffix : suffix ∈ allSuffixes) :
    foldIdentifier ("_" ++ collection ++ "_" ++ suffix) =
      String.ofList ((('_' :: collection.toList) ++ '_' :: suffix.toList).take 63) := by
  rw [foldIdentifier_eq (isNameChar_name hsafe hsuffix), toList_name]

/-- A stored name tells the collection and the suffix. -/
theorem storedName_inj {collection collection' suffix suffix' : String}
    (hsafe : isSafeIdentifier collection = true) (hsafe' : isSafeIdentifier collection' = true)
    (hsuffix : suffix ∈ allSuffixes) (hsuffix' : suffix' ∈ allSuffixes)
    (h : foldIdentifier ("_" ++ collection ++ "_" ++ suffix) =
      foldIdentifier ("_" ++ collection' ++ "_" ++ suffix')) :
    collection = collection' ∧ suffix = suffix' := by
  rw [storedName_collection hsafe hsuffix, storedName_collection hsafe' hsuffix'] at h
  have hlength := (isNameChar_of_safe hsafe).2
  have hlength' := (isNameChar_of_safe hsafe').2
  obtain ⟨hbase, htail⟩ := cut_suffixed_inj cutApart_allSuffixes
    (by rw [List.length_cons]; omega) (by rw [List.length_cons]; omega)
    (List.mem_map_of_mem hsuffix) (List.mem_map_of_mem hsuffix') (String.ofList_injective h)
  exact ⟨String.toList_inj.mp (List.cons.inj hbase).2, String.toList_inj.mp htail⟩

/-- No function of a collection is called like one of the dataset. -/
theorem storedName_ne_dataset {collection suffix name : String}
    (hsafe : isSafeIdentifier collection = true) (hsuffix : suffix ∈ allSuffixes)
    (hname : name ∈ datasetFunctionNames) :
    foldIdentifier ("_" ++ collection ++ "_" ++ suffix) ≠ foldIdentifier name := by
  have hfold : ∀ name ∈ datasetFunctionNames,
      foldIdentifier name = String.ofList (name.toList.take 63) := by decide +kernel
  have hinner : ∀ name ∈ datasetFunctionNames, ∀ rest ∈ afterUnderscores name.toList.tail,
      ∀ suffix ∈ allSuffixes, rest.take 21 ≠ suffix.toList.take 21 := by decide +kernel
  intro h
  rw [storedName_collection hsafe hsuffix, hfold name hname] at h
  have hlength := (isNameChar_of_safe hsafe).2
  obtain ⟨rest, hrest, hcut⟩ : ∃ rest, name.toList = ('_' :: collection.toList) ++ '_' :: rest ∧
      rest.take 21 = suffix.toList.take 21 :=
    exists_after_of_cut (by rw [List.length_cons]; omega) (String.ofList_injective h)
  refine hinner name hname rest ?_ suffix hsuffix hcut
  rw [hrest]
  exact mem_afterUnderscores _ _

/-! ### All functions -/

theorem nodup_allSuffixes : allSuffixes.Nodup := by decide +kernel

theorem datasetSignatures_names (plan : BuiltSchema) :
    (functionSignatures plan).map (·.storedName) =
      (datasetFunctionNames.take 3).map foldIdentifier ++
      plan.collections.flatMap (fun coll => (functionSuffixes coll.plan).map fun suffix =>
        foldIdentifier ("_" ++ coll.plan.collectionName ++ "_" ++ suffix)) ++
      (datasetFunctionNames.drop 3).map foldIdentifier := by
  have hcollection (coll : CollectionPlan) : (collectionSignatures coll).map (·.storedName) =
      (functionSuffixes coll).map fun suffix =>
        foldIdentifier ("_" ++ coll.collectionName ++ "_" ++ suffix) := by
    have hnames := congrArg (List.map foldIdentifier) (collectionSignatures_names coll)
    rwa [List.map_map, List.map_map] at hnames
  rw [functionSignatures, List.map_append, List.map_append, List.map_flatMap]
  simp only [hcollection]
  rfl

/-- Every generated function has a stored name of its own. -/
theorem nodup_storedNames {plan : BuiltSchema}
    (hsafe : ∀ coll ∈ plan.collections, isSafeIdentifier coll.plan.collectionName = true)
    (hnodup : (plan.collections.map (·.plan.collectionName)).Nodup) :
    ((functionSignatures plan).map (·.storedName)).Nodup := by
  have hdataset : (datasetFunctionNames.map foldIdentifier).Nodup := by decide +kernel
  have hsuffixes (coll : CollectionPlan) {suffix : String} (h : suffix ∈ functionSuffixes coll) :
      suffix ∈ allSuffixes := (functionSuffixes_sublist coll).mem h
  -- within a collection the suffixes differ, across collections the names
  have hcollections : (plan.collections.flatMap fun coll =>
      (functionSuffixes coll.plan).map fun suffix =>
        foldIdentifier ("_" ++ coll.plan.collectionName ++ "_" ++ suffix)).Nodup := by
    refine List.nodup_flatMap.mpr ⟨?_, ?_⟩
    · intro coll hcoll
      have hown := (functionSuffixes_sublist coll.plan).nodup nodup_allSuffixes
      refine hown.map_on fun suffix h suffix' h' heq => ?_
      exact (storedName_inj (hsafe coll hcoll) (hsafe coll hcoll) (hsuffixes _ h) (hsuffixes _ h')
        heq).2
    · refine (List.pairwise_map.mp hnodup).imp_of_mem ?_
      intro coll coll' hcoll hcoll' hne name h h'
      obtain ⟨suffix, hsuffix, rfl⟩ := List.mem_map.mp h
      obtain ⟨suffix', hsuffix', heq⟩ := List.mem_map.mp h'
      exact hne (storedName_inj (hsafe coll hcoll) (hsafe coll' hcoll') (hsuffixes _ hsuffix)
        (hsuffixes _ hsuffix') heq.symm).1
  -- no function of the dataset ends like one of a collection
  have happart {name : String} (hname : name ∈ datasetFunctionNames) :
      foldIdentifier name ∉ plan.collections.flatMap fun coll =>
        (functionSuffixes coll.plan).map fun suffix =>
          foldIdentifier ("_" ++ coll.plan.collectionName ++ "_" ++ suffix) := by
    intro h
    obtain ⟨coll, hcoll, h⟩ := List.mem_flatMap.mp h
    obtain ⟨suffix, hsuffix, heq⟩ := List.mem_map.mp h
    exact storedName_ne_dataset (hsafe coll hcoll) (hsuffixes _ hsuffix) hname heq
  have hsplit : (datasetFunctionNames.take 3).map foldIdentifier ++
      (datasetFunctionNames.drop 3).map foldIdentifier = datasetFunctionNames.map foldIdentifier := by
    rw [← List.map_append, List.take_append_drop]
  rw [datasetSignatures_names, (List.perm_append_comm.append_right _).nodup_iff, List.append_assoc,
    hsplit]
  refine List.Nodup.append hcollections hdataset ?_
  intro name h h'
  obtain ⟨name, hname, rfl⟩ := List.mem_map.mp h'
  exact happart hname h

/-- With a key of its own, a member is all that a search by its key finds. -/
theorem filter_eq_singleton {α β : Type} {f : α → β} {l : List α} (h : (l.map f).Nodup)
    {p : α → Bool} {a : α} (ha : a ∈ l) (hp : p a = true) (hkey : ∀ b, p b = true → f b = f a) :
    l.filter p = [a] := by
  obtain ⟨before, after, rfl⟩ := List.append_of_mem ha
  rw [List.map_append, List.map_cons, List.nodup_append', List.nodup_cons] at h
  obtain ⟨-, ⟨hafter, -⟩, hbefore⟩ := h
  have hnone {l : List α} (hl : f a ∉ l.map f) : l.filter p = [] := by
    refine List.filter_eq_nil_iff.mpr fun b hb hpb => hl ?_
    rw [← hkey b hpb]
    exact List.mem_map_of_mem hb
  rw [List.filter_append, List.filter_cons_of_pos hp, hnone hafter,
    hnone fun hmem => hbefore hmem List.mem_cons_self]
  rfl

/-- The dispatcher passes on what the functions take. -/
theorem arguments_eq (op : Operation) : op.parameters = op.arguments := by
  cases op <;> rfl

/-- **Generated names do not clash.**  With safe names of collections, each once, every
generated function has a stored name of its own, and a call of the dispatcher finds the
function of its collection and operation and no other. -/
theorem functionSignatures_apart {plan : BuiltSchema}
    (hsafe : ∀ coll ∈ plan.collections, isSafeIdentifier coll.plan.collectionName = true)
    (hnodup : (plan.collections.map (·.plan.collectionName)).Nodup) :
    ((functionSignatures plan).map (·.storedName)).Nodup ∧
      ∀ coll ∈ plan.collections, ∀ op ∈ coll.plan.operations,
        resolve (functionSignatures plan) (dispatchedName coll.plan.collectionName op) op.arguments =
          [operationSignature coll.plan op] := by
  have hnames := nodup_storedNames hsafe hnodup
  refine ⟨hnames, ?_⟩
  intro coll hcoll op hop
  have hmem : operationSignature coll.plan op ∈ functionSignatures plan := by
    refine List.mem_append_left _ (List.mem_append_right _ (List.mem_flatMap.mpr ⟨coll, hcoll, ?_⟩))
    exact List.mem_append_right _ (List.mem_map_of_mem hop)
  have hsuffix : op.value ∈ allSuffixes := by
    refine (functionSuffixes_sublist coll.plan).mem (List.mem_append_right _ ?_)
    exact List.mem_map_of_mem hop
  -- the call quotes the name, the definition does not
  have hstored : (operationSignature coll.plan op).storedName =
      quotedIdentifier (dispatchedName coll.plan.collectionName op) :=
    foldIdentifier_eq_quoted (isNameChar_name (hsafe coll hcoll) hsuffix)
  refine filter_eq_singleton hnames hmem (decide_eq_true ⟨hstored, arguments_eq op⟩) ?_
  intro function hfunction
  rw [hstored]
  exact (of_decide_eq_true hfunction).1

/-- A collection whose name begins like another one with an operation, and one with
footprints whose name is as long as names may be. -/
def wallSchema : BuiltSchema :=
  { schemaName := "walls"
    collections :=
      [⟨{ collectionName := "wall", featureModel := .topology,
          geometry := ⟨"LineString", 4326, false, false⟩, bounds := some 1 }, []⟩,
        ⟨{ collectionName := "wall_item", featureModel := .simple,
           geometry := ⟨"LineString", 4326, false, false⟩, supportsUpsert := true }, []⟩,
        ⟨{ collectionName := "area_enclosed_by_the_walls_of_a_property", featureModel := .topology,
           geometry := ⟨"MultiPolygon", 4326, false, true⟩, roles := [⟨"walls", "wall", "id"⟩],
           derived := some
             ⟨"footprint", true, .one, .allowed, [[⟨"walls", "wall", none⟩]]⟩ }, []⟩]
    associationRoleRows := [⟨"area_enclosed_by_the_walls_of_a_property", "walls", "wall"⟩] }

/-- Two names are cut off, and stay apart. -/
theorem functionSignatures_apart_wall :
    ((functionSignatures wallSchema).filter fun function => 63 < function.name.length).length = 2 ∧
      ((functionSignatures wallSchema).map (·.storedName)).Nodup ∧
      ∀ coll ∈ wallSchema.collections, ∀ op ∈ coll.plan.operations,
        resolve (functionSignatures wallSchema) (dispatchedName coll.plan.collectionName op)
          op.arguments = [operationSignature coll.plan op] := by
  refine ⟨by decide +kernel, functionSignatures_apart ?_ (by decide)⟩
  intro coll hcoll
  simp only [wallSchema, List.mem_cons, List.not_mem_nil, or_false] at hcoll
  rcases hcoll with rfl | rfl | rfl <;> decide

end Geocomponents
