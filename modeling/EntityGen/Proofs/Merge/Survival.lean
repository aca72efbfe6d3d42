import EntityGen.Merge.Class
import EntityGen.Proofs.Merge.Settled
import EntityGen.Table.Lemmas

/-!
# What survives a merge

A merge adds to a source file and takes nothing away.  `SourceFile.Survives` says
what stays: each namespace and each declaration in its place, imports, interfaces,
attributes and constants at the front of what follows them, methods in their order,
headers and comments that were set, and the first field of each name.  A field that
no merged class models stays as it is; of a modeled one only the comment is sure to
stay, because fields are generated anew.

Survival is reflexive and transitive, so one merge (`survives_mergeFile`) decides
what any number of merges keeps.
-/

namespace EntityGen

/-! ## Lists whose elements stay in place -/

/-- Every element of a list stays in its place, changed at most in the given way, and
others may follow. -/
inductive InPlace {α : Type} (kept : α → α → Prop) : List α → List α → Prop where
  | nil (added : List α) : InPlace kept [] added
  | cons {a b : α} {before after : List α} :
      kept a b → InPlace kept before after → InPlace kept (a :: before) (b :: after)

namespace InPlace

variable {α : Type} {kept allowed : α → α → Prop}

theorem refl (keptSelf : ∀ a, kept a a) (elements : List α) : InPlace kept elements elements := by
  induction elements with
  | nil => exact .nil []
  | cons a rest ih => exact .cons (keptSelf a) ih

theorem trans (compose : ∀ a b c, kept a b → kept b c → kept a c) {first second third : List α}
    (left : InPlace kept first second) (right : InPlace kept second third) :
    InPlace kept first third := by
  induction left generalizing third with
  | nil => exact .nil third
  | cons head tail ih =>
      cases right with
      | cons nextHead nextTail => exact .cons (compose _ _ _ head nextHead) (ih nextTail)

theorem mono (weaken : ∀ a b, kept a b → allowed a b) {before after : List α}
    (inPlace : InPlace kept before after) : InPlace allowed before after := by
  induction inPlace with
  | nil added => exact .nil added
  | cons head tail ih => exact .cons (weaken _ _ head) ih

theorem changeFirst {kind : α → Bool} {fresh : α} {change : α → α} (keptSelf : ∀ a, kept a a)
    (keptChange : ∀ a, kind a → kept a (change a)) (elements : List α) :
    InPlace kept elements (changeFirst kind fresh change elements) := by
  induction elements with
  | nil => exact .nil _
  | cons a rest ih =>
      by_cases isKind : kind a
      · rw [EntityGen.changeFirst, if_pos isKind]
        exact .cons (keptChange a isKind) (refl keptSelf rest)
      · rw [EntityGen.changeFirst, if_neg isKind]
        exact .cons (keptSelf a) ih

end InPlace

/-! ## Fields -/

namespace Field

/-- A field survives when its comment does, and all of it unless it is modeled. -/
structure Survives (modeled : Prop) (before after : Field) : Prop where
  comment : ∀ text, before.comment = some text → after.comment = some text
  same : ¬modeled → after = before

theorem Survives.refl (modeled : Prop) (field : Field) : field.Survives modeled field where
  comment _ present := present
  same _ := rfl

theorem Survives.trans {modeled : Prop} {first second third : Field}
    (left : first.Survives modeled second) (right : second.Survives modeled third) :
    first.Survives modeled third where
  comment text present := right.comment text (left.comment text present)
  same free := (right.same free).trans (left.same free)

theorem Survives.mono {modeled allowed : Prop} (weaken : modeled → allowed)
    {before after : Field} (survives : before.Survives modeled after) :
    before.Survives allowed after where
  comment := survives.comment
  same free := survives.same fun holds => free (weaken holds)

theorem find?_eraseP_of_ne {name erased : String} (different : erased ≠ name)
    (fields : List Field) :
    (fields.eraseP (·.name = erased)).find? (·.name = name) = fields.find? (·.name = name) := by
  induction fields with
  | nil => rfl
  | cons field rest ih =>
      by_cases named : field.name = erased
      · simp [named, different]
      · simp [named, List.find?_cons, ih]

/-- The first field of a name after a merge: the first generated one, with the
comment that the first declared one had; else the first declared one. -/
theorem find?_mergeAll (fields declared : List Field) (name : String) :
    (mergeAll fields declared).find? (·.name = name) =
      ((fields.find? (·.name = name)).map
        (·.keepComment (declared.find? (·.name = name)))).or
          (declared.find? (·.name = name)) := by
  induction fields generalizing declared with
  | nil => rfl
  | cons field rest ih =>
      by_cases named : field.name = name
      · simp [mergeAll, named]
      · simp [mergeAll, named, ih, find?_eraseP_of_ne named]

end Field

/-! ## Class declarations -/

namespace ClassDeclaration

/-- What stays of a declaration; `modeled` tells the names of the fields that were
generated anew. -/
structure Survives (modeled : String → Prop) (before after : ClassDeclaration) : Prop where
  name : after.name = before.name
  comment : ∀ text, before.comment = some text → after.comment = some text
  implements : before.implements <+: after.implements
  attributes : before.attributes <+: after.attributes
  constants : before.constants <+: after.constants
  methods : before.methods.Sublist after.methods
  fields : ∀ name field, before.field? name = some field →
    ∃ later, after.field? name = some later ∧ field.Survives (modeled name) later

theorem Survives.refl (modeled : String → Prop) (decl : ClassDeclaration) :
    decl.Survives modeled decl where
  name := rfl
  comment _ present := present
  implements := List.prefix_refl _
  attributes := List.prefix_refl _
  constants := List.prefix_refl _
  methods := .refl _
  fields name field found := ⟨field, found, .refl (modeled name) field⟩

theorem Survives.trans {modeled : String → Prop} {first second third : ClassDeclaration}
    (left : first.Survives modeled second) (right : second.Survives modeled third) :
    first.Survives modeled third where
  name := right.name.trans left.name
  comment text present := right.comment text (left.comment text present)
  implements := left.implements.trans right.implements
  attributes := left.attributes.trans right.attributes
  constants := left.constants.trans right.constants
  methods := left.methods.trans right.methods
  fields := by
    intro name field found
    obtain ⟨middle, foundMiddle, survivesMiddle⟩ := left.fields name field found
    obtain ⟨last, foundLast, survivesLast⟩ := right.fields name middle foundMiddle
    exact ⟨last, foundLast, survivesMiddle.trans survivesLast⟩

theorem Survives.mono {modeled allowed : String → Prop}
    (weaken : ∀ name, modeled name → allowed name) {before after : ClassDeclaration}
    (survives : before.Survives modeled after) : before.Survives allowed after where
  name := survives.name
  comment := survives.comment
  implements := survives.implements
  attributes := survives.attributes
  constants := survives.constants
  methods := survives.methods
  fields := by
    intro name field found
    obtain ⟨later, foundLater, fieldSurvives⟩ := survives.fields name field found
    exact ⟨later, foundLater, fieldSurvives.mono (weaken name)⟩

end ClassDeclaration

namespace Class

/-- Every field that is generated for a class declares a property of the class. -/
theorem contains_of_find?_fields {cls : Class} {config : Config} {name : String} {field : Field}
    (generated : (cls.fields config).find? (·.name = name) = some field) :
    cls.properties.contains name := by
  have named : field.name = name := by simpa using List.find?_some generated
  obtain ⟨property, ordered, declares⟩ := List.mem_map.mp (List.mem_of_find?_eq_some generated)
  have member : property ∈ cls.properties.toList := by
    rcases List.mem_append.mp ordered with identifier | ordinary
    · exact (List.mem_filter.mp identifier).1
    · exact (List.mem_filter.mp ordinary).1
  have key : Keyed.key property = name := by
    rw [← named, ← declares]
    rfl
  have found := cls.properties.get?_eq_some_iff.mpr ⟨member, key⟩
  simp [Table.contains, found]

theorem survives_mergeDeclaration (cls : Class) (config : Config) (decl : ClassDeclaration) :
    decl.Survives (fun name => cls.properties.contains name)
      (cls.mergeDeclaration config decl) := by
  rw [mergeDeclaration_eq]
  constructor
  case name => rfl
  case comment => exact fun _ present => Option.or_eq_some_iff.mpr (.inl present)
  case implements | attributes | constants => exact List.prefix_append _ _
  case methods =>
    exact (List.sublist_append_right _ _).trans (sublist_mergedMethods cls config decl)
  case fields =>
    intro name field found
    have merged := Field.find?_mergeAll (cls.fields config) decl.fields name
    rw [show decl.fields.find? (·.name = name) = some field from found] at merged
    cases generated : (cls.fields config).find? (·.name = name) with
    | none =>
        rw [generated] at merged
        exact ⟨field, merged, .refl _ field⟩
    | some anew =>
        rw [generated] at merged
        refine ⟨anew.keepComment (some field), merged, ?_, ?_⟩
        · intro text present
          exact Option.or_eq_some_iff.mpr (.inl present)
        · intro free
          exact absurd (contains_of_find?_fields generated) free

end Class

/-! ## Namespaces and source files -/

namespace Namespace

/-- What stays of a namespace; `modeled` tells the names of declarations with the
names of the fields that were generated anew. -/
structure Survives (modeled : String → String → Prop) (before after : Namespace) : Prop where
  name : after.name = before.name
  imports : before.imports <+: after.imports
  classes : InPlace (fun decl later => decl.Survives (modeled decl.name) later)
    before.classes after.classes

theorem Survives.refl (modeled : String → String → Prop) (space : Namespace) :
    space.Survives modeled space where
  name := rfl
  imports := List.prefix_refl _
  classes := .refl (fun decl => .refl (modeled decl.name) decl) space.classes

theorem Survives.trans {modeled : String → String → Prop} {first second third : Namespace}
    (left : first.Survives modeled second) (right : second.Survives modeled third) :
    first.Survives modeled third where
  name := right.name.trans left.name
  imports := left.imports.trans right.imports
  classes := by
    apply InPlace.trans _ left.classes right.classes
    intro early middle late before after
    rw [before.name] at after
    exact before.trans after

theorem Survives.mono {modeled allowed : String → String → Prop}
    (weaken : ∀ decl field, modeled decl field → allowed decl field) {before after : Namespace}
    (survives : before.Survives modeled after) : before.Survives allowed after where
  name := survives.name
  imports := survives.imports
  classes := survives.classes.mono fun decl _ kept => kept.mono (weaken decl.name)

end Namespace

namespace SourceFile

/-- What stays of a source file; `modeled` tells the names of declarations with the
names of the fields that were generated anew. -/
structure Survives (modeled : String → String → Prop) (before after : SourceFile) : Prop where
  header : ∀ text, before.header = some text → after.header = some text
  namespaces : InPlace (Namespace.Survives modeled) before.namespaces after.namespaces

theorem Survives.refl (modeled : String → String → Prop) (file : SourceFile) :
    file.Survives modeled file where
  header _ present := present
  namespaces := .refl (.refl modeled) file.namespaces

theorem Survives.trans {modeled : String → String → Prop} {first second third : SourceFile}
    (left : first.Survives modeled second) (right : second.Survives modeled third) :
    first.Survives modeled third where
  header text present := right.header text (left.header text present)
  namespaces := left.namespaces.trans (fun _ _ _ before after => before.trans after)
    right.namespaces

theorem Survives.mono {modeled allowed : String → String → Prop}
    (weaken : ∀ decl field, modeled decl field → allowed decl field) {before after : SourceFile}
    (survives : before.Survives modeled after) : before.Survives allowed after where
  header := survives.header
  namespaces := survives.namespaces.mono fun _ _ kept => kept.mono weaken

end SourceFile

namespace Class

/-- The fields that a merge of a class generates anew. -/
def Models (cls : Class) (decl field : String) : Prop :=
  cls.name = decl ∧ cls.properties.contains field

theorem survives_mergeNamespace (cls : Class) (config : Config) (space : Namespace) :
    space.Survives cls.Models (cls.mergeNamespace config space) where
  name := name_mergeNamespace cls config space
  imports := Namespace.imports_prefix_foldl_addImport cls.imports.toList space
  classes := by
    simp only [mergeNamespace, Namespace.changeClass, Namespace.classes_foldl_addImport]
    apply InPlace.changeFirst
    · intro decl
      exact .refl _ decl
    · intro decl named
      have named : decl.name = cls.name := by simpa using named
      apply (survives_mergeDeclaration cls config decl).mono
      intro field modeled
      exact ⟨named.symm, modeled⟩

/-- A merge takes nothing away, and generates anew no field but those that its class
models. -/
theorem survives_mergeFile (cls : Class) (config : Config) (file : SourceFile) :
    file.Survives cls.Models (cls.mergeFile config file) where
  header _ present := Option.or_eq_some_iff.mpr (.inl present)
  namespaces := by
    simp only [mergeFile, SourceFile.changeNamespace]
    apply InPlace.changeFirst
    · exact .refl cls.Models
    · intro space _
      exact survives_mergeNamespace cls config space

end Class

end EntityGen
