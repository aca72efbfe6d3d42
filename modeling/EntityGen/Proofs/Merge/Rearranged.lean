import EntityGen.Proofs.Generation
import EntityGen.Proofs.Merge.Settled
import EntityGen.Proofs.Results
import Mathlib.Data.List.Forall2

/-!
# Merging rearranged classes

Classes are rearranged when they differ in the order of attributes alone, of their own and of
those of their properties.  Source files are rearranged when the attributes of their classes
and fields are.

A merge asks for attributes by name, in whatever order they stand, and makes no other use of
them.  So rearranged classes that are merged into rearranged files leave rearranged files, and
add as many methods (`Class.Rearranged.mergeFile`, `Class.Rearranged.methodsAdded_eq`); the
same holds of series of merges (`Workspace.ProgressesAlike.foldl_mergeNext`).
-/

namespace EntityGen

/-! ## Related lists -/

section Related

variable {α β : Type} {related : α → α → Prop} {kind : α → Bool} {first second : List α}

theorem map_eq_of_forall₂ (f : α → β) (agree : ∀ a b, related a b → f a = f b)
    (each : List.Forall₂ related first second) : first.map f = second.map f := by
  induction each with
  | nil => rfl
  | cons head tail ih => rw [List.map_cons, List.map_cons, agree _ _ head, ih]

theorem rel_find? (agree : ∀ a b, related a b → kind a = kind b)
    (each : List.Forall₂ related first second) :
    Option.Rel related (first.find? kind) (second.find? kind) := by
  induction each with
  | nil => exact .none
  | @cons a b before after head tail ih =>
      rw [List.find?_cons, List.find?_cons, ← agree a b head]
      cases kind a with
      | true => exact .some head
      | false => exact ih

theorem rel_getD {x y : Option α} {a b : α} (found : Option.Rel related x y)
    (fallback : related a b) : related (x.getD a) (y.getD b) := by
  cases found with
  | none => exact fallback
  | some relates => exact relates

theorem forall₂_eraseP (agree : ∀ a b, related a b → kind a = kind b)
    (each : List.Forall₂ related first second) :
    List.Forall₂ related (first.eraseP kind) (second.eraseP kind) := by
  induction each with
  | nil => exact .nil
  | @cons a b before after head tail ih =>
      rw [List.eraseP_cons, List.eraseP_cons, ← agree a b head]
      cases kind a with
      | true => exact tail
      | false => exact .cons head ih

theorem forall₂_changeFirst {fresh : α} {change other : α → α}
    (agree : ∀ a b, related a b → kind a = kind b) (ofFresh : related fresh fresh)
    (changed : ∀ a b, related a b → related (change a) (other b))
    (each : List.Forall₂ related first second) :
    List.Forall₂ related (changeFirst kind fresh change first)
      (changeFirst kind fresh other second) := by
  induction each with
  | nil => exact .cons (changed fresh fresh ofFresh) .nil
  | @cons a b before after head tail ih =>
      rw [changeFirst, changeFirst, ← agree a b head]
      cases kind a with
      | true => exact .cons (changed a b head) tail
      | false => exact .cons head ih

end Related

/-! ## Rearranged files -/

/-- Fields that differ in the order of attributes alone. -/
structure Field.Rearranged (first second : Field) : Prop where
  attributes : first.attributes.Perm second.attributes
  others : second = { first with attributes := second.attributes }

/-- Class declarations that differ in the order of attributes alone. -/
structure ClassDeclaration.Rearranged (first second : ClassDeclaration) : Prop where
  attributes : first.attributes.Perm second.attributes
  fields : List.Forall₂ Field.Rearranged first.fields second.fields
  others : second = { first with attributes := second.attributes, fields := second.fields }

/-- Namespaces that differ in the order of attributes alone. -/
structure Namespace.Rearranged (first second : Namespace) : Prop where
  classes : List.Forall₂ ClassDeclaration.Rearranged first.classes second.classes
  others : second = { first with classes := second.classes }

/-- Source files that differ in the order of attributes alone. -/
structure SourceFile.Rearranged (first second : SourceFile) : Prop where
  namespaces : List.Forall₂ Namespace.Rearranged first.namespaces second.namespaces
  header : first.header = second.header

/-- The same names with files that differ in the order of attributes alone. -/
def SourceTree.Rearranged (first second : SourceTree) : Prop :=
  List.Forall₂ (fun entry other => entry.1 = other.1 ∧ entry.2.Rearranged other.2)
    first.toList second.toList

theorem Field.Rearranged.refl (field : Field) : field.Rearranged field := ⟨.refl _, rfl⟩

theorem ClassDeclaration.Rearranged.refl (decl : ClassDeclaration) : decl.Rearranged decl :=
  ⟨.refl _, List.forall₂_same.mpr fun field _ => .refl field, rfl⟩

theorem Namespace.Rearranged.refl (space : Namespace) : space.Rearranged space :=
  ⟨List.forall₂_same.mpr fun decl _ => .refl decl, rfl⟩

theorem SourceFile.Rearranged.refl (file : SourceFile) : file.Rearranged file :=
  ⟨List.forall₂_same.mpr fun space _ => .refl space, rfl⟩

theorem SourceTree.Rearranged.refl (tree : SourceTree) : tree.Rearranged tree :=
  List.forall₂_same.mpr fun entry _ => ⟨rfl, .refl entry.2⟩

theorem Field.Rearranged.name_eq {first second : Field} (rearranged : first.Rearranged second) :
    first.name = second.name := by
  rw [rearranged.others]

theorem ClassDeclaration.Rearranged.name_eq {first second : ClassDeclaration}
    (rearranged : first.Rearranged second) : first.name = second.name := by
  rw [rearranged.others]

theorem ClassDeclaration.Rearranged.methods_eq {first second : ClassDeclaration}
    (rearranged : first.Rearranged second) : first.methods = second.methods := by
  rw [rearranged.others]

theorem ClassDeclaration.Rearranged.hasAttribute_eq {first second : ClassDeclaration}
    (rearranged : first.Rearranged second) (name : String) :
    first.hasAttribute name = second.hasAttribute name :=
  rearranged.attributes.any_eq

namespace Namespace.Rearranged

variable {first second : Namespace}

theorem name_eq (rearranged : first.Rearranged second) : first.name = second.name := by
  rw [rearranged.others]

theorem addImport (rearranged : first.Rearranged second) (imported : Import) :
    (first.addImport imported).Rearranged (second.addImport imported) := by
  have imports : first.imports = second.imports := by
    rw [rearranged.others]
  rw [Namespace.addImport, Namespace.addImport, hasImport, hasImport, imports]
  split
  next => exact rearranged
  next =>
    refine ⟨rearranged.classes, ?_⟩
    rw [rearranged.others]

theorem foldl_addImport (rearranged : first.Rearranged second) (imports : List Import) :
    (imports.foldl Namespace.addImport first).Rearranged
      (imports.foldl Namespace.addImport second) := by
  induction imports generalizing first second with
  | nil => exact rearranged
  | cons imported rest ih => exact ih (rearranged.addImport imported)

theorem changeClass (rearranged : first.Rearranged second) (name : String)
    {change other : ClassDeclaration → ClassDeclaration}
    (changed : ∀ decl later, decl.Rearranged later → (change decl).Rearranged (other later)) :
    (first.changeClass name change).Rearranged (second.changeClass name other) where
  classes := by
    apply forall₂_changeFirst _ (.refl _) changed rearranged.classes
    intro decl later related
    rw [related.name_eq]
  others := by
    rw [rearranged.others]
    rfl

end Namespace.Rearranged

namespace SourceFile.Rearranged

variable {first second : SourceFile}

/-- What is declared in rearranged files under a name is rearranged. -/
theorem rel_classIn? (rearranged : first.Rearranged second) (space name : String) :
    Option.Rel ClassDeclaration.Rearranged (first.classIn? space name)
      (second.classIn? space name) := by
  have spaces : Option.Rel Namespace.Rearranged (first.namespace? space)
      (second.namespace? space) :=
    rel_find? (fun a b related => by rw [related.name_eq]) rearranged.namespaces
  apply rel_bind spaces
  intro before _ after related
  exact rel_find? (fun a b related => by rw [related.name_eq]) related.classes

theorem changeNamespace (rearranged : first.Rearranged second) (name : String)
    {change other : Namespace → Namespace}
    (changed : ∀ space later, space.Rearranged later → (change space).Rearranged (other later)) :
    (first.changeNamespace name change).Rearranged (second.changeNamespace name other) where
  namespaces := by
    apply forall₂_changeFirst _ (.refl _) changed rearranged.namespaces
    intro space later related
    rw [related.name_eq]
  header := rearranged.header

end SourceFile.Rearranged

namespace SourceTree.Rearranged

variable {first second : SourceTree}

theorem file (rearranged : first.Rearranged second) (name : String) :
    (first.file name).Rearranged (second.file name) := by
  have found : Option.Rel (fun entry other => entry.1 = other.1 ∧ entry.2.Rearranged other.2)
      (first.get? name) (second.get? name) := by
    apply rel_find? _ rearranged
    intro entry other related
    simp only [Keyed.key, related.1]
  rw [SourceTree.file, SourceTree.file, Option.map_eq_bind, Option.map_eq_bind]
  exact rel_getD (rel_bind found fun _ _ _ related => .some related.2) (.refl {})

theorem forall₂_place {name : String} {before after : SourceFile} (files : before.Rearranged after)
    {entries others : List (String × SourceFile)}
    (each : List.Forall₂ (fun entry other => entry.1 = other.1 ∧ entry.2.Rearranged other.2)
      entries others) :
    List.Forall₂ (fun entry other => entry.1 = other.1 ∧ entry.2.Rearranged other.2)
      (Table.place (name, before) entries) (Table.place (name, after) others) := by
  induction each with
  | nil => exact .cons ⟨rfl, files⟩ .nil
  | @cons entry other rest following head tail ih =>
      have key : compare name entry.1 = compare name other.1 := by rw [head.1]
      simp only [Table.place, Keyed.key, ← key]
      cases compare name entry.1 with
      | lt => exact .cons ⟨rfl, files⟩ (.cons head tail)
      | eq => exact .cons ⟨rfl, files⟩ tail
      | gt => exact .cons head ih

theorem insert (rearranged : first.Rearranged second) (name : String) {before after : SourceFile}
    (files : before.Rearranged after) :
    Rearranged (first.insert (name, before)) (second.insert (name, after)) :=
  forall₂_place files rearranged

end SourceTree.Rearranged

/-! ## Rearranged classes -/

/-- Properties that differ in the order of attributes alone. -/
structure Property.Rearranged (first second : Property) : Prop where
  attributes : first.attributes.Perm second.attributes
  others : second = { first with attributes := second.attributes }

/-- Classes that differ in the order of attributes alone. -/
structure Class.Rearranged (first second : Class) : Prop where
  attributes : first.attributes.Perm second.attributes
  properties : List.Forall₂ Property.Rearranged first.properties.toList second.properties.toList
  others : second = { first with attributes := second.attributes, properties := second.properties }

namespace Property.Rearranged

variable {first second : Property}

theorem accessors_eq (rearranged : first.Rearranged second) (config : Config)
    (className : String) : first.accessors config className = second.accessors config className := by
  rw [rearranged.others]
  rfl

theorem field (rearranged : first.Rearranged second) (config : Config) (className : String) :
    (first.field config className).Rearranged (second.field config className) where
  attributes := rearranged.attributes
  others := by
    rw [rearranged.others]
    rfl

end Property.Rearranged

namespace Field

variable {fields others declared following : List Field}

theorem rearranged_keepComment {first second : Field} (rearranged : first.Rearranged second)
    {before after : Option Field} (earlier : Option.Rel Rearranged before after) :
    (first.keepComment before).Rearranged (second.keepComment after) where
  attributes := rearranged.attributes
  others := by
    have comments : before.bind Field.comment = after.bind Field.comment := by
      cases earlier with
      | none => rfl
      | some related =>
          rw [Option.bind_some, Option.bind_some, related.others]
    rw [keepComment, keepComment, comments, rearranged.others]

theorem forall₂_mergeAll (generated : List.Forall₂ Rearranged fields others)
    (held : List.Forall₂ Rearranged declared following) :
    List.Forall₂ Rearranged (mergeAll fields declared) (mergeAll others following) := by
  induction generated generalizing declared following with
  | nil => exact held
  | @cons field other rest later head tail ih =>
      have agree : ∀ a b : Field, a.Rearranged b →
          decide (a.name = other.name) = decide (b.name = other.name) := by
        intro a b related
        rw [related.name_eq]
      rw [mergeAll, mergeAll, head.name_eq]
      exact .cons (rearranged_keepComment head (rel_find? agree held))
        (ih (forall₂_eraseP agree held))

end Field

namespace Class.Rearranged

variable {cls other : Class}

theorem name_eq (rearranged : cls.Rearranged other) : cls.name = other.name := by
  rw [rearranged.others]

theorem forall₂_declarationOrder (rearranged : cls.Rearranged other) :
    List.Forall₂ Property.Rearranged cls.declarationOrder other.declarationOrder := by
  have identifies : ∀ a b : Property, a.Rearranged b → a.isId = b.isId := by
    intro a b related
    rw [related.others]
  rw [declarationOrder, declarationOrder]
  apply List.rel_append <;> refine List.rel_filter ?_ rearranged.properties
  · intro a b related
    simp only [identifies a b related]
  · intro a b related
    simp only [identifies a b related]

theorem forall₂_fields (rearranged : cls.Rearranged other) (config : Config) :
    List.Forall₂ Field.Rearranged (cls.fields config) (other.fields config) := by
  rw [fields, fields, rearranged.name_eq]
  exact List.rel_map (fun _ _ related => related.field config other.name)
    rearranged.forall₂_declarationOrder

theorem accessors_eq (rearranged : cls.Rearranged other) (config : Config) :
    cls.accessors config = other.accessors config := by
  rw [accessors, accessors, rearranged.name_eq, List.flatMap_def, List.flatMap_def]
  congr 1
  exact map_eq_of_forall₂ _ (fun _ _ related => related.accessors_eq config other.name)
    rearranged.forall₂_declarationOrder

theorem forall₂_collectionProperties (rearranged : cls.Rearranged other) (config : Config) :
    List.Forall₂ Property.Rearranged (cls.collectionProperties config)
      (other.collectionProperties config) := by
  refine List.rel_filter ?_ rearranged.properties
  intro a b related
  rw [related.others]
  exact Iff.rfl

theorem constructor?_eq (rearranged : cls.Rearranged other) (config : Config) :
    cls.constructor? config = other.constructor? config := by
  have marked : cls.parentHasConstructor = other.parentHasConstructor := by
    rw [rearranged.others]
  have lines := map_eq_of_forall₂
    (fun property : Property => "$this->" ++ property.name ++ " = new ArrayCollection();")
    (fun a b related => by rw [related.others]) (rearranged.forall₂_collectionProperties config)
  have needed : cls.needsConstructor config = other.needsConstructor config := by
    have empty := congrArg (!·.isEmpty) lines
    rwa [List.isEmpty_map, List.isEmpty_map] at empty
  rw [constructor?, constructor?, needed, constructorBody, constructorBody, marked, lines]

/-! ## Merges -/

variable {decl later : ClassDeclaration}

theorem mergedMethods_eq (rearranged : cls.Rearranged other) (config : Config)
    (declared : decl.Rearranged later) :
    cls.mergedMethods config decl = other.mergedMethods config later := by
  have constructors : decl.constructor? = later.constructor? := by
    rw [ClassDeclaration.constructor?, ClassDeclaration.method?, declared.methods_eq]
    rfl
  rw [mergedMethods, mergedMethods, newConstructor, newConstructor, constructors,
    rearranged.constructor?_eq, rearranged.accessors_eq, declared.methods_eq]

theorem perm_newAttributes (rearranged : cls.Rearranged other) (declared : decl.Rearranged later) :
    (cls.newAttributes decl).Perm (other.newAttributes later) := by
  -- What is new goes by the names that are there already, which are the same in any order.
  simp only [newAttributes, declared.hasAttribute_eq]
  exact rearranged.attributes.filter _

theorem mergeDeclaration (rearranged : cls.Rearranged other) (config : Config)
    (declared : decl.Rearranged later) :
    (cls.mergeDeclaration config decl).Rearranged (other.mergeDeclaration config later) where
  attributes := by
    rw [mergeDeclaration_eq, mergeDeclaration_eq]
    exact declared.attributes.append (rearranged.perm_newAttributes declared)
  fields := by
    rw [fields_mergeDeclaration, fields_mergeDeclaration]
    exact Field.forall₂_mergeAll (rearranged.forall₂_fields config) declared.fields
  others := by
    rw [mergeDeclaration_eq, mergeDeclaration_eq,
      rearranged.mergedMethods_eq config declared, rearranged.others, declared.others]
    rfl

theorem mergeNamespace (rearranged : cls.Rearranged other) (config : Config)
    {space following : Namespace} (spaces : space.Rearranged following) :
    (cls.mergeNamespace config space).Rearranged (other.mergeNamespace config following) := by
  have imports : cls.imports = other.imports := by
    rw [rearranged.others]
  rw [Class.mergeNamespace, Class.mergeNamespace, imports, rearranged.name_eq]
  apply (spaces.foldl_addImport other.imports.toList).changeClass
  intro decl later related
  exact rearranged.mergeDeclaration config related

theorem namespaceFor_eq (rearranged : cls.Rearranged other) (config : Config) :
    config.namespaceFor cls = config.namespaceFor other := by
  rw [rearranged.others]
  rfl

/-- Rearranged classes that are merged into rearranged files leave rearranged files. -/
theorem mergeFile (rearranged : cls.Rearranged other) (config : Config)
    {file following : SourceFile} (files : file.Rearranged following) :
    (cls.mergeFile config file).Rearranged (other.mergeFile config following) := by
  rw [Class.mergeFile, Class.mergeFile, files.header, rearranged.namespaceFor_eq]
  have opened : SourceFile.Rearranged
      { file with header := following.header.or config.header }
      { following with header := following.header.or config.header } := ⟨files.namespaces, rfl⟩
  apply opened.changeNamespace
  intro space later related
  exact rearranged.mergeNamespace config related

theorem declarationIn (rearranged : cls.Rearranged other) (config : Config)
    {file following : SourceFile} (files : file.Rearranged following) :
    (cls.declarationIn config file).Rearranged (other.declarationIn config following) := by
  rw [Class.declarationIn, Class.declarationIn, rearranged.namespaceFor_eq, rearranged.name_eq]
  exact rel_getD (files.rel_classIn? _ _) (.refl _)

/-- Merges of rearranged classes into rearranged files add as many methods. -/
theorem methodsAdded_eq (rearranged : cls.Rearranged other) (config : Config)
    (declared : decl.Rearranged later) :
    (cls.mergeOutcome config decl).methodsAdded =
      (other.mergeOutcome config later).methodsAdded := by
  have counted := methodsAdded_mergeOutcome cls config decl
  rw [rearranged.mergedMethods_eq config declared, ← methodsAdded_mergeOutcome,
    declared.methods_eq] at counted
  exact Nat.add_right_cancel counted

end Class.Rearranged

/-! ## Series of merges -/

namespace Workspace

/-- Files that are rearranged, after as many methods were added. -/
def ProgressesAlike (first second : SourceTree × Nat) : Prop :=
  first.1.Rearranged second.1 ∧ first.2 = second.2

namespace ProgressesAlike

variable {first second : SourceTree × Nat}

theorem mergeNext (alike : ProgressesAlike first second) (config : Config) {cls other : Class}
    (rearranged : cls.Rearranged other) :
    ProgressesAlike (mergeNext config first cls) (mergeNext config second other) := by
  have files := alike.1.file other.name
  rw [Workspace.mergeNext, Workspace.mergeNext, SourceTree.value_mergeClass,
    SourceTree.value_mergeClass, rearranged.name_eq, alike.2,
    rearranged.methodsAdded_eq config (rearranged.declarationIn config files)]
  exact ⟨alike.1.insert other.name (rearranged.mergeFile config files), rfl⟩

/-- Series of merges of rearranged classes go alike. -/
theorem foldl_mergeNext (alike : ProgressesAlike first second) (config : Config)
    {classes others : List Class} (rearranged : List.Forall₂ Class.Rearranged classes others) :
    ProgressesAlike (classes.foldl (Workspace.mergeNext config) first)
      (others.foldl (Workspace.mergeNext config) second) := by
  induction rearranged generalizing first second with
  | nil => exact alike
  | cons head tail ih => exact ih (alike.mergeNext config head)

end ProgressesAlike

end Workspace

end EntityGen
