/-
The names in the generated statements.

* `nodup_relations` — when tables and indexes are apart: an index name tells its
  collection, so only tables can be called like an index;
* `functionStatements_declared` — when the variables of every function are apart:
  only link variables carry a name of the description.
-/
import Topogdb.Geocomponents.Statements
import Topogdb.Lib.Related

namespace Geocomponents

open Python Sql Except

/-! ### The indexes -/

/-- The names of the indexes of a collection with `count` extra ones. -/
def indexNames (collection : String) (count : ℕ) : List String :=
  s!"{collection}_geometry_idx" ::
    (List.range count).map fun (i : ℕ) => s!"{collection}_{i}_idx"

/-- What stands between the collection and `_idx`. -/
def indexSuffixes (count : ℕ) : List String := "geometry" :: (List.range count).map Nat.repr

theorem indexNames_eq (collection : String) (count : ℕ) :
    indexNames collection count =
      (indexSuffixes count).map fun suffix => collection ++ "_" ++ suffix ++ "_idx" := by
  have hgeometry : s!"{collection}_geometry_idx" = collection ++ "_" ++ "geometry" ++ "_idx" := by
    rw [String.append_assoc, String.append_assoc]
    rfl
  rw [indexNames, indexSuffixes, List.map_cons, hgeometry, List.map_map]
  rfl

theorem underscore_notMem_indexSuffixes {count : ℕ} {suffix : String}
    (h : suffix ∈ indexSuffixes count) : '_' ∉ suffix.toList := by
  rcases List.mem_cons.mp h with rfl | h
  · decide +kernel
  · obtain ⟨n, -, rfl⟩ := List.mem_map.mp h
    exact underscore_notMem_repr n

theorem nodup_indexSuffixes (count : ℕ) : (indexSuffixes count).Nodup := by
  refine List.nodup_cons.mpr ⟨fun h => ?_, List.nodup_range.map fun _ _ => repr_injective⟩
  obtain ⟨n, -, hn⟩ := List.mem_map.mp h
  exact repr_ne_of_mem (c := 'g') (by decide +kernel) (by decide) hn

/-- An index tells its collection. -/
theorem indexName_inj {collection collection' suffix suffix' : String}
    (hs : '_' ∉ suffix.toList) (hs' : '_' ∉ suffix'.toList)
    (h : collection ++ "_" ++ suffix ++ "_idx" = collection' ++ "_" ++ suffix' ++ "_idx") :
    collection = collection' ∧ suffix = suffix' := by
  have hcancel : collection ++ "_" ++ suffix = collection' ++ "_" ++ suffix' := by
    refine String.toList_inj.mp ((List.append_left_inj "_idx".toList).mp ?_)
    rw [← String.toList_append, ← String.toList_append, h]
  exact (append_underscore_inj hs hs').mp hcancel

theorem nodup_indexNames (collection : String) (count : ℕ) :
    (indexNames collection count).Nodup := by
  rw [indexNames_eq]
  refine (nodup_indexSuffixes count).map_on fun suffix hs suffix' hs' h => ?_
  exact (indexName_inj (underscore_notMem_indexSuffixes hs)
    (underscore_notMem_indexSuffixes hs') h).2

theorem collection_of_mem_indexNames {collection collection' name : String} {count count' : ℕ}
    (h : name ∈ indexNames collection count) (h' : name ∈ indexNames collection' count') :
    collection = collection' := by
  rw [indexNames_eq] at h h'
  obtain ⟨suffix, hs, rfl⟩ := List.mem_map.mp h
  obtain ⟨suffix', hs', heq⟩ := List.mem_map.mp h'
  exact (indexName_inj (underscore_notMem_indexSuffixes hs')
    (underscore_notMem_indexSuffixes hs) heq).1.symm

theorem associationIndex_notMem_indexNames (collection : String) (count : ℕ) :
    "association_target_id_idx" ∉ indexNames collection count := by
  rw [indexNames_eq]
  intro h
  obtain ⟨suffix, hs, heq⟩ := List.mem_map.mp h
  have hparts : "association_target_id_idx" = "association_target" ++ "_" ++ "id" ++ "_idx" := by
    decide +kernel
  rw [hparts] at heq
  have hid := (indexName_inj (underscore_notMem_indexSuffixes hs) (by decide +kernel) heq).2
  subst hid
  rcases List.mem_cons.mp hs with hgeometry | hdigits
  · revert hgeometry
    decide +kernel
  · obtain ⟨n, -, hn⟩ := List.mem_map.mp hdigits
    exact repr_ne_of_mem (c := 'i') (by decide +kernel) (by decide) hn

/-- An index ends in `x`. -/
theorem getLast?_indexNames {collection name : String} {count : ℕ}
    (h : name ∈ indexNames collection count) : name.toList.getLast? = some 'x' := by
  rw [indexNames_eq] at h
  obtain ⟨suffix, -, rfl⟩ := List.mem_map.mp h
  have hidx : "_idx".toList = ['_', 'i', 'd', 'x'] := by decide +kernel
  rw [String.toList_append, hidx, List.getLast?_append]
  rfl

section Relations

variable {noRoles : Bool} {colls : List (String × ℕ)}

/-- The tables: two catalogue tables only with roles. -/
def tableRelations (noRoles : Bool) (colls : List (String × ℕ)) : List String :=
  "collection_capability" ::
    ((if noRoles then [] else ["association_role", "association"]) ++ colls.map Prod.fst)

/-- The indexes. -/
def indexRelations (noRoles : Bool) (colls : List (String × ℕ)) : List String :=
  (if noRoles then [] else ["association_target_id_idx"]) ++
    colls.flatMap fun c => indexNames c.1 c.2

theorem mem_indexRelations {name : String} :
    name ∈ indexRelations noRoles colls ↔
      (noRoles = false ∧ name = "association_target_id_idx") ∨
        ∃ c ∈ colls, name ∈ indexNames c.1 c.2 := by
  rw [indexRelations, List.mem_append, List.mem_flatMap]
  cases noRoles <;> simp

theorem nodup_indexRelations (hnames : (colls.map Prod.fst).Nodup) :
    (indexRelations noRoles colls).Nodup := by
  rw [indexRelations, List.nodup_append]
  refine ⟨by cases noRoles <;> simp, ?_, ?_⟩
  · refine List.nodup_flatMap.mpr ⟨fun c _ => nodup_indexNames _ _, ?_⟩
    refine (List.pairwise_map.mp hnames).imp fun hne => ?_
    exact fun name h h' => hne (collection_of_mem_indexNames h h')
  · intro name hname name' hname' heq
    obtain ⟨c, -, hc⟩ := List.mem_flatMap.mp hname'
    cases noRoles with
    | true => exact absurd hname List.not_mem_nil
    | false =>
      rw [← heq, List.mem_singleton.mp hname] at hc
      exact associationIndex_notMem_indexNames _ _ hc

/-- The catalogue tables are no indexes: they do not end in `x`. -/
theorem catalogue_notMem_indexRelations {name : String}
    (h : name ∈ ["collection_capability", "association_role", "association"]) :
    name ∉ indexRelations noRoles colls := by
  have hlast : ∀ n ∈ ["collection_capability", "association_role", "association"],
      n.toList.getLast? ≠ some 'x' := by decide +kernel
  intro hmem
  refine hlast name h ?_
  rcases mem_indexRelations.mp hmem with ⟨-, rfl⟩ | ⟨c, -, hc⟩
  · decide +kernel
  · exact getLast?_indexNames hc

theorem nodup_tableRelations (hreserved : ∀ c ∈ colls, c.1 ∉ reservedCollectionNames) :
    (tableRelations noRoles colls).Nodup ↔
      (colls.map Prod.fst).Nodup ∧ ∀ c ∈ colls, c.1 ≠ "collection_capability" := by
  have hcapability : "collection_capability" ∉ colls.map Prod.fst ↔
      ∀ c ∈ colls, c.1 ≠ "collection_capability" := by
    simp only [List.mem_map, not_exists, not_and, ne_eq]
  have hcatalogue : ∀ name ∈ reservedCollectionNames, name ∉ colls.map Prod.fst := by
    intro name hname hmem
    obtain ⟨c, hc, rfl⟩ := List.mem_map.mp hmem
    exact hreserved c hc hname
  have hassociation := hcatalogue "association" (by decide)
  have hrole := hcatalogue "association_role" (by decide)
  rw [tableRelations, List.nodup_cons, ← hcapability]
  cases noRoles with
  | true => simp [and_comm]
  | false =>
    simp only [Bool.false_eq_true, if_false, List.cons_append, List.nil_append, List.nodup_cons,
      List.mem_cons, hassociation, hrole, not_or]
    simp [and_comm]

/-- The relations of a schema are apart when no table is called like a catalogue
table or an index. -/
theorem nodup_relations (hreserved : ∀ c ∈ colls, c.1 ∉ reservedCollectionNames) :
    (tableRelations noRoles colls ++ indexRelations noRoles colls).Nodup ↔
      (colls.map Prod.fst).Nodup ∧ ∀ c ∈ colls, c.1 ≠ "collection_capability" ∧
        c.1 ∉ indexRelations noRoles colls := by
  rw [List.nodup_append, nodup_tableRelations hreserved]
  constructor
  · rintro ⟨⟨hnames, hcapability⟩, -, hdisjoint⟩
    refine ⟨hnames, fun c hc => ⟨hcapability c hc, fun hmem => ?_⟩⟩
    refine hdisjoint c.1 ?_ c.1 hmem rfl
    exact List.mem_cons_of_mem _ (List.mem_append_right _ (List.mem_map_of_mem hc))
  · rintro ⟨hnames, hcolls⟩
    refine ⟨⟨hnames, fun c hc => (hcolls c hc).1⟩, nodup_indexRelations hnames, ?_⟩
    rintro name hname _ hindex rfl
    rcases List.mem_cons.mp hname with rfl | hname
    · exact catalogue_notMem_indexRelations (by simp) hindex
    · rcases List.mem_append.mp hname with hname | hname
      · refine catalogue_notMem_indexRelations ?_ hindex
        cases noRoles with
        | true => exact absurd hname List.not_mem_nil
        | false => exact List.mem_cons_of_mem _ hname
      · obtain ⟨c, hc, rfl⟩ := List.mem_map.mp hname
        exact (hcolls c hc).2 hindex

end Relations

/-! ### The tables -/

theorem filterMap_extraIndexDdl (collection : String) (indexes : List String) :
    (geometryIndexDdl collection :: extraIndexDdl collection indexes).filterMap
      TableStatement.relation? = indexNames collection indexes.length := by
  have hextra : (extraIndexDdl collection indexes).filterMap TableStatement.relation?
      = (List.range indexes.length).map fun (i : ℕ) => s!"{collection}_{i}_idx" := by
    rw [extraIndexDdl, List.mapIdx_eq_zipIdx_map, List.filterMap_map, List.range_eq_range',
      ← List.zipIdx_map_snd, List.map_map, ← List.filterMap_eq_map]
    rfl
  rw [List.filterMap_cons, hextra]
  rfl

/-- The collections of a plan and how many extra indexes they have. -/
def BuiltSchema.relations (plan : BuiltSchema) : List (String × ℕ) :=
  plan.collections.map fun coll => (coll.plan.collectionName, coll.indexes.length)

/-- The relations that `table_statements` creates: tables, then indexes. -/
theorem relations_tableStatements (plan : BuiltSchema) :
    (tableStatements plan).filterMap TableStatement.relation? =
      tableRelations plan.associationRoleRows.isEmpty plan.relations ++
        indexRelations plan.associationRoleRows.isEmpty plan.relations := by
  have hnames : plan.relations.map Prod.fst = plan.collections.map (·.plan.collectionName) :=
    List.map_map
  have hflat : plan.relations.flatMap (fun c => indexNames c.1 c.2) =
      plan.collections.flatMap fun coll =>
        indexNames coll.plan.collectionName coll.indexes.length := List.flatMap_map _ _ _
  have htables : (plan.collections.map fun coll => tableDdl coll.plan).filterMap
      TableStatement.relation? = plan.collections.map (·.plan.collectionName) := by
    rw [List.filterMap_map, ← List.filterMap_eq_map]
    rfl
  have hindexes : (plan.collections.flatMap fun coll =>
      geometryIndexDdl coll.plan.collectionName ::
        extraIndexDdl coll.plan.collectionName coll.indexes).filterMap TableStatement.relation?
      = plan.collections.flatMap fun coll =>
        indexNames coll.plan.collectionName coll.indexes.length := by
    rw [List.filterMap_flatMap]
    exact List.flatMap_congr fun coll _ => filterMap_extraIndexDdl _ _
  rw [tableStatements, tableRelations, indexRelations, hnames, hflat]
  simp only [List.filterMap_append, htables, hindexes]
  split <;> simp [List.filterMap_cons, TableStatement.relation?, collectionCapabilityTableDdl,
    associationRoleTableDdl, associationTableDdl, associationIndexDdl]

/-- The columns of the tables that `table_statements` creates; those of the
catalogue tables are fixed. -/
theorem columns_tableStatements (plan : BuiltSchema) :
    (∀ columns ∈ (tableStatements plan).filterMap TableStatement.columns?, columns.Nodup) ↔
      ∀ coll ∈ plan.collections,
        (["id", "created_at", "updated_at"] ++ coll.plan.columns.map (·.name)
          ++ ["geometry"]).Nodup := by
  have htables : (plan.collections.map fun coll => tableDdl coll.plan).filterMap
      TableStatement.columns? = plan.collections.map fun coll =>
        ["id", "created_at", "updated_at"] ++ coll.plan.columns.map (·.name) ++ ["geometry"] := by
    rw [List.filterMap_map, ← List.filterMap_eq_map]
    rfl
  have hindexes : (plan.collections.flatMap fun coll =>
      geometryIndexDdl coll.plan.collectionName ::
        extraIndexDdl coll.plan.collectionName coll.indexes).filterMap TableStatement.columns? = [] := by
    rw [List.filterMap_eq_nil_iff]
    intro statement hstatement
    obtain ⟨coll, -, hmem⟩ := List.mem_flatMap.mp hstatement
    rcases List.mem_cons.mp hmem with rfl | hmem
    · rfl
    · rw [extraIndexDdl] at hmem
      obtain ⟨i, hi, rfl⟩ := List.mem_mapIdx.mp hmem
      rfl
  rw [tableStatements]
  simp only [List.filterMap_append, htables, hindexes]
  split <;> simp [List.filterMap_cons, TableStatement.columns?, collectionCapabilityTableDdl,
    associationRoleTableDdl, associationTableDdl, associationIndexDdl]

/-! ### The functions -/

/-- A property in a variable name: other characters than letters and digits become
underscores, letters small, and 58 characters are left after `_ids_`. -/
def variableKey (property : String) : List Char :=
  ((safeVarName property).toList.map Char.toLower).take 58

theorem linkDeclareVars_eq (roles : List CollectionRolePlan) :
    linkDeclareVars roles = if roles.isEmpty then []
      else ["_elem", "_target_id"] ++ (roles.map (·.property)).map fun p => "_ids_" ++ safeVarName p := by
  rw [linkDeclareVars, List.map_map]
  rfl

theorem utf8Size_safeVarName {property : String} {c : Char}
    (h : c ∈ (safeVarName property).toList.map Char.toLower) : c.utf8Size = 1 := by
  obtain ⟨c, hc, rfl⟩ := List.mem_map.mp h
  rw [safeVarName, String.toList_ofList] at hc
  obtain ⟨c, -, rfl⟩ := List.mem_map.mp hc
  refine utf8Size_of_lt (toNat_toLower_lt ?_)
  split
  · next halnum => exact toNat_lt_of_isAlphanum halnum
  · decide

/-- What the server makes of a link variable. -/
theorem fold_linkVariable (property : String) :
    foldIdentifier ("_ids_" ++ safeVarName property)
      = String.ofList ("_ids_".toList ++ variableKey property) := by
  have hprefix : "_ids_".toList.map Char.toLower = "_ids_".toList := by decide +kernel
  have hbytes : ∀ c ∈ "_ids_".toList ++ (safeVarName property).toList.map Char.toLower,
      c.utf8Size = 1 := by
    intro c hc
    rcases List.mem_append.mp hc with hc | hc
    · have hall : "_ids_".toList.all (fun c => c.utf8Size = 1) = true := by decide +kernel
      exact of_decide_eq_true (List.all_eq_true.mp hall c hc)
    · exact utf8Size_safeVarName hc
  rw [foldIdentifier, String.toList_append, List.map_append, hprefix, clipBytes_eq_take hbytes,
    variableKey]
  rfl

/-- The link variables of different properties are apart when their keys are. -/
theorem nodup_linkVariables (properties : List String) :
    ((properties.map fun p => "_ids_" ++ safeVarName p).map foldIdentifier).Nodup ↔
      (properties.map variableKey).Nodup := by
  have hfold : (properties.map fun p => "_ids_" ++ safeVarName p).map foldIdentifier
      = (properties.map variableKey).map fun key => String.ofList ("_ids_".toList ++ key) := by
    rw [List.map_map, List.map_map]
    exact List.map_congr_left fun p _ => fold_linkVariable p
  rw [hfold]
  refine List.nodup_map_iff fun key key' h => ?_
  exact List.append_cancel_left (String.ofList_injective h)

/-- The other variables do not begin like a link variable. -/
def IsOwn (v : String) : Prop := ¬ "_ids_".toList <+: (foldIdentifier v).toList

/-- Own variables and link variables are apart when the properties are. -/
theorem nodup_linkDeclareVars {own : List String} (roles : List CollectionRolePlan)
    (hown : ((own ++ ["_elem", "_target_id"]).map foldIdentifier).Nodup)
    (hids : ∀ v ∈ own ++ ["_elem", "_target_id"], IsOwn v) :
    ((own ++ linkDeclareVars roles).map foldIdentifier).Nodup ↔
      ((roles.map (·.property)).map variableKey).Nodup := by
  rw [linkDeclareVars_eq]
  cases roles with
  | nil =>
    refine iff_of_true ?_ List.nodup_nil
    rw [List.map_append] at hown
    simpa using hown.of_append_left
  | cons role roles =>
    rw [List.isEmpty_cons, if_neg Bool.false_ne_true, ← List.append_assoc, List.map_append,
      List.nodup_append, nodup_linkVariables]
    refine ⟨fun h => h.2.1, fun h => ⟨hown, h, ?_⟩⟩
    intro v hv w hw heq
    obtain ⟨own', hown', rfl⟩ := List.mem_map.mp hv
    obtain ⟨link, hlink, rfl⟩ := List.mem_map.mp hw
    obtain ⟨p, -, rfl⟩ := List.mem_map.mp hlink
    have hlist : (foldIdentifier own').toList = "_ids_".toList ++ variableKey p := by
      rw [heq, fold_linkVariable, String.toList_ofList]
    exact hids own' hown' ⟨variableKey p, hlist.symm⟩

theorem oiDeclare_cases (coll : CollectionPlan) :
    oiDeclare coll = [] ∨ oiDeclare coll = ["_oi_raw"] := by
  rw [oiDeclare]
  by_cases h : coll.oiColumn.isSome = true
  · exact .inr (if_pos h)
  · exact .inl (if_neg h)

instance : DecidablePred IsOwn := fun v =>
  inferInstanceAs (Decidable (¬ "_ids_".toList <+: (foldIdentifier v).toList))

theorem declaredVariables_nodup_iff (coll : CollectionPlan) (op : Operation) :
    ((declaredVariables coll op).map foldIdentifier).Nodup ↔
      (op ∈ [.create, .replace, .update] →
        ((coll.roles.map (·.property)).map variableKey).Nodup) := by
  have hcreate : ((["new_id"] ++ oiDeclare coll ++ linkDeclareVars coll.roles).map
      foldIdentifier).Nodup ↔ ((coll.roles.map (·.property)).map variableKey).Nodup := by
    refine nodup_linkDeclareVars coll.roles ?_ ?_
    · rcases oiDeclare_cases coll with hoi | hoi <;> rw [hoi] <;> decide +kernel
    · rcases oiDeclare_cases coll with hoi | hoi <;> rw [hoi] <;> decide +kernel
  have hlinks : ((linkDeclareVars coll.roles).map foldIdentifier).Nodup ↔
      ((coll.roles.map (·.property)).map variableKey).Nodup :=
    @nodup_linkDeclareVars [] coll.roles (by decide +kernel) (by decide +kernel)
  have hupsert : ((["result_id"] ++ oiDeclare coll).map foldIdentifier).Nodup := by
    rcases oiDeclare_cases coll with hoi | hoi <;> rw [hoi] <;> decide +kernel
  cases op with
  | create => simpa [declaredVariables] using hcreate
  | replace => simpa [declaredVariables] using hlinks
  | update => simpa [declaredVariables] using hlinks
  | upsert => simpa [declaredVariables] using hupsert
  | items => simp [declaredVariables]
  | item => simp [declaredVariables]
  | delete => simp [declaredVariables]

/-- The functions of a derived collection have fixed variables. -/
theorem nodup_fnFootprint (coll : CollectionPlan) :
    ∀ function ∈ fnFootprint coll, (function.declared.map foldIdentifier).Nodup := by
  have hmeasure : (["measure", "linework", "facts"].map foldIdentifier).Nodup := by decide +kernel
  rw [fnFootprint]
  split
  · simp
  · simpa using hmeasure

theorem exists_collectionFunctions_ok {coll : CollectionPlan} :
    (∃ functions, collectionFunctions coll = .ok functions) ↔
      nestedTypes (writableColumnPlans coll) = .ok () := by
  have hbuilders : (∃ fs, coll.operations.mapM (builderByOp coll) = .ok fs) ↔
      nestedTypes (writableColumnPlans coll) = .ok () := by
    rw [exists_mapM_ok]
    constructor
    · intro h
      obtain ⟨f, hf⟩ := h .create (by simp [CollectionPlan.operations])
      obtain ⟨_, hcheck, -⟩ := bind_eq_ok.mp hf
      exact hcheck
    · intro h op _
      rw [builderByOp, operationTypes, h]
      exact ⟨_, by rw [ite_self, ok_bind]⟩
  rw [← hbuilders, collectionFunctions]
  constructor
  · rintro ⟨functions, h⟩
    obtain ⟨fs, hfs, -⟩ := bind_eq_ok.mp h
    exact ⟨fs, hfs⟩
  · rintro ⟨fs, hfs⟩
    exact ⟨_, by rw [hfs, ok_bind]⟩

/-- Only create, replace and update declare link variables. -/
theorem collectionFunctions_declared {coll : CollectionPlan} {functions : List FunctionStatement}
    (h : collectionFunctions coll = .ok functions) :
    (∀ function ∈ functions, (function.declared.map foldIdentifier).Nodup) ↔
      ((coll.roles.map (·.property)).map variableKey).Nodup := by
  rw [collectionFunctions] at h
  obtain ⟨fs, hfs, h⟩ := bind_eq_ok.mp h
  cases h
  have hops : (∀ op ∈ coll.operations, op ∈ [Operation.create, .replace, .update] →
        ((coll.roles.map (·.property)).map variableKey).Nodup) ↔
      ∀ function ∈ fs, (function.declared.map foldIdentifier).Nodup := by
    refine (forall₂_of_mapM hfs).forall_iff fun op function hbuild => ?_
    rw [builderByOp] at hbuild
    obtain ⟨_, -, hbuild⟩ := bind_eq_ok.mp hbuild
    cases hbuild
    exact (declaredVariables_nodup_iff coll op).symm
  rw [List.forall_mem_append, List.forall_mem_append, ← hops]
  constructor
  · rintro ⟨-, h⟩
    exact h .create (by simp [CollectionPlan.operations]) (by simp)
  · refine fun h => ⟨⟨?_, nodup_fnFootprint coll⟩, fun op _ _ => h⟩
    split <;> simp

theorem exists_functionStatements_ok {plan : BuiltSchema} :
    (∃ functions, functionStatements plan = .ok functions) ↔
      ∀ coll ∈ plan.collections, nestedTypes (writableColumnPlans coll.plan) = .ok () := by
  have hcollections : (∃ fss, plan.collections.mapM (fun coll => collectionFunctions coll.plan)
      = .ok fss) ↔
      ∀ coll ∈ plan.collections, nestedTypes (writableColumnPlans coll.plan) = .ok () := by
    rw [exists_mapM_ok]
    exact forall₂_congr fun _ _ => exists_collectionFunctions_ok
  rw [← hcollections, functionStatements]
  constructor
  · rintro ⟨functions, h⟩
    obtain ⟨fss, hfss, -⟩ := bind_eq_ok.mp h
    exact ⟨fss, hfss⟩
  · rintro ⟨fss, hfss⟩
    exact ⟨_, by rw [hfss, ok_bind]⟩

theorem functionStatements_declared {plan : BuiltSchema} {functions : List FunctionStatement}
    (h : functionStatements plan = .ok functions) :
    (∀ function ∈ functions, (function.declared.map foldIdentifier).Nodup) ↔
      ∀ coll ∈ plan.collections, ((coll.plan.roles.map (·.property)).map variableKey).Nodup := by
  rw [functionStatements] at h
  obtain ⟨fss, hfss, h⟩ := bind_eq_ok.mp h
  cases h
  have hdispatch : ((fnFootprintGeometryVerdictDispatch plan).declared.map foldIdentifier).Nodup := by
    rw [fnFootprintGeometryVerdictDispatch]
    split <;> simp
  have hloop : (∀ coll ∈ plan.collections,
        ((coll.plan.roles.map (·.property)).map variableKey).Nodup) ↔
      ∀ fs ∈ fss, ∀ function ∈ fs, (function.declared.map foldIdentifier).Nodup :=
    (forall₂_of_mapM hfss).forall_iff fun _ _ hfs => (collectionFunctions_declared hfs).symm
  rw [List.forall_mem_append, List.forall_mem_append, hloop]
  constructor
  · rintro ⟨⟨-, h⟩, -⟩ fs hfs function hfunction
    exact h function (List.mem_flatten.mpr ⟨fs, hfs, hfunction⟩)
  · intro h
    refine ⟨⟨by simp, fun function hfunction => ?_⟩, by simpa using hdispatch⟩
    obtain ⟨fs, hfs, hfunction⟩ := List.mem_flatten.mp hfunction
    exact h fs hfs function hfunction

end Geocomponents
