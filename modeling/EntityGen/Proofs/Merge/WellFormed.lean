import EntityGen.Proofs.Merge.Fields
import EntityGen.Proofs.Source.Series

/-!
# Well-formed source files

A source file is well formed when nothing in it goes under one name twice: no two
namespaces, no two imports or classes of a namespace, and no two fields, methods,
constants or interfaces of a class.  A merge keeps a file well formed
(`Class.wellFormed_mergeFile`), so all files that come from merges alone are.
-/

namespace EntityGen

/-- Distinct keys stay distinct when elements are appended whose keys are not there. -/
theorem nodup_map_append_filter {α κ : Type} {key : α → κ} {held items : List α}
    {isNew : α → Bool} (missing : ∀ item, isNew item → key item ∉ held.map key)
    (distinct : (held.map key).Nodup) (distinctItems : (items.map key).Nodup) :
    ((held ++ items.filter isNew).map key).Nodup := by
  rw [List.map_append, List.nodup_append]
  refine ⟨distinct, (List.filter_sublist.map key).nodup distinctItems, ?_⟩
  rintro _ inHeld _ appended rfl
  obtain ⟨item, member, same⟩ := List.mem_map.mp appended
  apply missing item (List.mem_filter.mp member).2
  rwa [same]

/-! ## Fields -/

namespace Field

/-- A generated field takes the place of the declared one of its name, so that names stay
distinct. -/
theorem nodup_mergeAll {fields declared : List Field} (distinct : (fields.map Field.name).Nodup)
    (distinctDeclared : (declared.map Field.name).Nodup) :
    ((mergeAll fields declared).map Field.name).Nodup := by
  rw [List.nodup_iff_count_le_one] at distinctDeclared ⊢
  intro name
  have once := distinctDeclared name
  rw [count_name_mergeAll distinct]
  split <;> omega

end Field

/-! ## Class declarations -/

/-- No two elements of a class go under one name. -/
structure ClassDeclaration.WellFormed (decl : ClassDeclaration) : Prop where
  implements : decl.implements.Nodup
  constants : (decl.constants.map Constant.name).Nodup
  fields : (decl.fields.map Field.name).Nodup
  methods : (decl.methods.map Method.name).Nodup

theorem ClassDeclaration.wellFormed_iff (decl : ClassDeclaration) :
    decl.WellFormed ↔ decl.implements.Nodup ∧ (decl.constants.map Constant.name).Nodup ∧
      (decl.fields.map Field.name).Nodup ∧ (decl.methods.map Method.name).Nodup :=
  ⟨fun ⟨implements, constants, fields, methods⟩ => ⟨implements, constants, fields, methods⟩,
    fun ⟨implements, constants, fields, methods⟩ => ⟨implements, constants, fields, methods⟩⟩

instance (decl : ClassDeclaration) : Decidable decl.WellFormed :=
  decidable_of_iff _ decl.wellFormed_iff.symm

namespace Class

theorem nodup_newConstructor_append (cls : Class) (config : Config) {decl : ClassDeclaration}
    (distinct : (decl.methods.map Method.name).Nodup) :
    ((cls.newConstructor config decl ++ decl.methods).map Method.name).Nodup := by
  rw [newConstructor]
  split
  next missing =>
    cases needed : cls.constructor? config with
    | none => exact distinct
    | some constructor =>
        apply List.nodup_cons.mpr ⟨_, distinct⟩
        rw [name_of_constructor? needed]
        intro named
        have present : decl.constructor?.isSome := by
          rw [ClassDeclaration.isSome_constructor?]
          simpa using named
        simp [Option.isNone_iff_eq_none.mp missing] at present
  next => exact distinct

theorem nodup_mergedMethods (cls : Class) (config : Config) {decl : ClassDeclaration}
    (distinct : (decl.methods.map Method.name).Nodup) :
    ((cls.mergedMethods config decl).map Method.name).Nodup := by
  have withConstructor := cls.nodup_newConstructor_append config distinct
  rw [mergedMethods]
  split
  · exact Method.nodup_foldl_appendNew withConstructor _
  · exact withConstructor

theorem wellFormed_mergeDeclaration (cls : Class) (config : Config) {decl : ClassDeclaration}
    (wellFormed : decl.WellFormed) : (cls.mergeDeclaration config decl).WellFormed where
  implements := by
    have distinct : (decl.implements.map id).Nodup := by simpa using wellFormed.implements
    have single : (cls.interface.toList.map id).Nodup := by cases cls.interface <;> simp
    have appended : ((decl.implements ++
        cls.interface.toList.filter (· ∉ decl.implements)).map id).Nodup :=
      nodup_map_append_filter (by simp) distinct single
    simpa [mergeDeclaration_eq, newInterfaces] using appended
  constants := by
    rw [mergeDeclaration_eq]
    apply nodup_map_append_filter _ wellFormed.constants cls.constants.nodup_keys
    simp [ClassDeclaration.hasConstant]
  fields := by
    rw [fields_mergeDeclaration]
    exact Field.nodup_mergeAll (cls.nodup_fields config) wellFormed.fields
  methods := by
    rw [methods_mergeDeclaration]
    exact cls.nodup_mergedMethods config wellFormed.methods

end Class

/-! ## Namespaces and source files -/

/-- No two imports and no two classes of a namespace go under one name, and each class is
well formed. -/
structure Namespace.WellFormed (space : Namespace) : Prop where
  imports : (space.imports.map Import.name).Nodup
  classNames : (space.classes.map ClassDeclaration.name).Nodup
  classes : ∀ decl ∈ space.classes, decl.WellFormed

theorem Namespace.wellFormed_iff (space : Namespace) :
    space.WellFormed ↔ (space.imports.map Import.name).Nodup ∧
      (space.classes.map ClassDeclaration.name).Nodup ∧
      ∀ decl ∈ space.classes, decl.WellFormed :=
  ⟨fun ⟨imports, classNames, classes⟩ => ⟨imports, classNames, classes⟩,
    fun ⟨imports, classNames, classes⟩ => ⟨imports, classNames, classes⟩⟩

instance (space : Namespace) : Decidable space.WellFormed :=
  decidable_of_iff _ space.wellFormed_iff.symm

/-- No two namespaces of a file go under one name, and each is well formed. -/
structure SourceFile.WellFormed (file : SourceFile) : Prop where
  names : (file.namespaces.map Namespace.name).Nodup
  namespaces : ∀ space ∈ file.namespaces, space.WellFormed

theorem SourceFile.wellFormed_iff (file : SourceFile) :
    file.WellFormed ↔ (file.namespaces.map Namespace.name).Nodup ∧
      ∀ space ∈ file.namespaces, space.WellFormed :=
  ⟨fun ⟨names, namespaces⟩ => ⟨names, namespaces⟩, fun ⟨names, namespaces⟩ => ⟨names, namespaces⟩⟩

instance (file : SourceFile) : Decidable file.WellFormed :=
  decidable_of_iff _ file.wellFormed_iff.symm

theorem SourceFile.wellFormed_empty : ({} : SourceFile).WellFormed := by decide

namespace Class

theorem wellFormed_mergeNamespace (cls : Class) (config : Config) {space : Namespace}
    (wellFormed : space.WellFormed) : (cls.mergeNamespace config space).WellFormed where
  imports := by
    simp only [mergeNamespace, Namespace.changeClass, Namespace.imports_foldl_addImport]
    exact nodup_changeSeries (fun _ _ => rfl) (fun _ => rfl) _ wellFormed.imports
  classNames := by
    simp only [mergeNamespace, Namespace.changeClass, Namespace.classes_foldl_addImport]
    apply nodup_changeFirst _ _ wellFormed.classNames
    · intro decl
      exact cls.name_mergeDeclaration config decl
    · simp
  classes := by
    simp only [mergeNamespace, Namespace.changeClass, Namespace.classes_foldl_addImport]
    apply forall_mem_changeFirst _ _ wellFormed.classes
    · intro decl
      exact cls.wellFormed_mergeDeclaration config
    · constructor <;> exact .nil

/-- A merge keeps a file well formed. -/
theorem wellFormed_mergeFile (cls : Class) (config : Config) {file : SourceFile}
    (wellFormed : file.WellFormed) : (cls.mergeFile config file).WellFormed where
  names := by
    simp only [mergeFile, SourceFile.changeNamespace]
    apply nodup_changeFirst _ _ wellFormed.names
    · exact cls.name_mergeNamespace config
    · simp
  namespaces := by
    simp only [mergeFile, SourceFile.changeNamespace]
    apply forall_mem_changeFirst _ _ wellFormed.namespaces
    · intro space
      exact cls.wellFormed_mergeNamespace config
    · exact ⟨.nil, .nil, by simp⟩

end Class

/-! ## Files that come from merges -/

namespace SourceFile

/-- The files that merges make of the empty file: of whatever classes, and each with a
configuration of its own. -/
inductive Merged : SourceFile → Prop where
  | empty : Merged {}
  | merge {file : SourceFile} (cls : Class) (config : Config) :
      Merged file → Merged (cls.merge config file).value.1

/-- A merge takes well-formed files to well-formed files, and every file that merges make
of the empty one is well formed. -/
theorem wellFormed_of_merged :
    (∀ (cls : Class) (config : Config) (file : SourceFile),
      file.WellFormed → (cls.merge config file).value.1.WellFormed) ∧
    ∀ file : SourceFile, file.Merged → file.WellFormed := by
  have step (cls : Class) (config : Config) (file : SourceFile) (wellFormed : file.WellFormed) :
      (cls.merge config file).value.1.WellFormed :=
    cls.wellFormed_mergeFile config wellFormed
  refine ⟨step, ?_⟩
  intro file merged
  induction merged with
  | empty => exact wellFormed_empty
  | merge cls config _ ih => exact step cls config _ ih

/-- A file with things written by hand, into which a class with a collection is merged; and
what two merges with different configurations make of the empty file. -/
theorem wellFormed_of_merged_person :
    let knows : Property :=
      { name := "knows", isArray := true, range := some (.ofUri "Person") }
    let mapping : Import := ⟨"Doctrine\\ORM\\Mapping", some "ORM"⟩
    let person : Class :=
      { name := "Person"
        interface := some "PersonInterface"
        properties := .ofList [knows, { name := "name" }]
        imports := .ofList [mapping, ⟨mapping.name, none⟩]
        constants := .ofList [⟨"KIND", "1"⟩] }
    let file : SourceFile :=
      { namespaces :=
          [{ name := "App\\Entity"
             imports := [⟨mapping.name, some "Mapping"⟩]
             classes :=
              [{ name := "Person"
                 constants := [⟨"KIND", "2"⟩]
                 fields := [{ name := "nickname" }, { name := "knows" }]
                 methods := [{ name := "addKnow" }] }] }] }
    let plain : Config := { accessorMethods := false }
    let twice := (person.merge {} (person.merge plain {}).value.1).value.1
    file.WellFormed ∧ (person.merge {} file).value.1.WellFormed ∧ twice.Merged ∧
      twice.WellFormed := by
  intro knows mapping person file plain twice
  have wellFormed : file.WellFormed := by decide
  have merged : twice.Merged := .merge person {} (.merge person plain .empty)
  exact ⟨wellFormed, wellFormed_of_merged.1 person {} file wellFormed, merged,
    wellFormed_of_merged.2 twice merged⟩

end SourceFile

end EntityGen
