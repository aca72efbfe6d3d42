import EntityGen.Merge.Class
import EntityGen.Proofs.Storing
import Mathlib.Data.List.Basic

/-!
# The loops of a merge

A merge takes the elements of a class one after the other, decides for each of them, and
counts what it puts in.  Each of these loops has a closed form: the elements that are missing,
found by one look at the declaration, or a recursion over the elements.  A whole declaration
after a merge is known by these forms (`Class.mergeDeclaration_eq`), and so are the counts
(`Class.attributesAdded_mergeOutcome`, `Class.propertiesMerged_mergeOutcome`,
`Class.methodsAdded_mergeOutcome`).

The constants are compared with a declaration that grows.  One look is enough for them because
their names are distinct, while the accessors of two properties may well share a name, so for
methods the list has to grow in the closed form as well (`Method.appendNew`).
-/

namespace EntityGen

/-! ## Fields -/

namespace Field

/-- Put generated fields in front of declared ones; each takes the place of the
first declared field of its name. -/
def mergeAll : List Field → List Field → List Field
  | [], declared => declared
  | field :: rest, declared =>
    field.keepComment (declared.find? (·.name = field.name)) ::
      mergeAll rest (declared.eraseP (·.name = field.name))

end Field

namespace MergedFields

theorem append_foldl_generate (fields : List Field) (merged : MergedFields) :
    (fields.foldl generate merged).generated ++ (fields.foldl generate merged).declared =
      merged.generated ++ Field.mergeAll fields merged.declared := by
  induction fields generalizing merged with
  | nil => rfl
  | cons field rest ih =>
      rw [List.foldl_cons, ih, Field.mergeAll, generate, List.append_assoc, List.singleton_append]

/-- Each field is generated once. -/
theorem length_generated_foldl (fields : List Field) (merged : MergedFields) :
    (fields.foldl generate merged).generated.length =
      merged.generated.length + fields.length := by
  induction fields generalizing merged with
  | nil => rfl
  | cons field rest ih =>
      rw [List.foldl_cons, ih, generate, List.length_append, List.length_singleton,
        List.length_cons]
      omega

end MergedFields

/-! ## Methods -/

namespace Method

/-- Append a method unless one of its name is there. -/
def appendNew (methods : List Method) (method : Method) : List Method :=
  if methods.any (·.name = method.name) then methods else methods ++ [method]

theorem sublist_appendNew (methods : List Method) (method : Method) :
    methods.Sublist (appendNew methods method) := by
  unfold appendNew
  split
  · exact .refl _
  · exact List.sublist_append_left _ _

end Method

namespace ClassDeclaration

theorem fst_addNewMethod (state : ClassDeclaration × Nat) (method : Method) :
    (addNewMethod state method).1 =
      { state.1 with methods := Method.appendNew state.1.methods method } := by
  by_cases held : state.1.methods.any (·.name = method.name) <;>
    simp [addNewMethod, addMethod, hasMethod, Method.appendNew, held]

/-- A method is counted when it is put in. -/
theorem snd_addNewMethod (state : ClassDeclaration × Nat) (method : Method) :
    (addNewMethod state method).2 + state.1.methods.length =
      state.2 + (addNewMethod state method).1.methods.length := by
  simp only [addNewMethod]
  split
  · rfl
  · simp only [addMethod, List.length_append, List.length_singleton]
    omega

theorem fst_foldl_addNewMethod (methods : List Method) (state : ClassDeclaration × Nat) :
    (methods.foldl addNewMethod state).1 =
      { state.1 with methods := methods.foldl Method.appendNew state.1.methods } := by
  induction methods generalizing state with
  | nil => rfl
  | cons method rest ih => rw [List.foldl_cons, ih, fst_addNewMethod, List.foldl_cons]

/-- What a loop over methods counts is what the declaration has grown by. -/
theorem snd_foldl_addNewMethod (methods : List Method) (state : ClassDeclaration × Nat) :
    (methods.foldl addNewMethod state).2 + state.1.methods.length =
      state.2 + (methods.foldl addNewMethod state).1.methods.length := by
  induction methods generalizing state with
  | nil => rfl
  | cons method rest ih =>
      have first := snd_addNewMethod state method
      have following := ih (addNewMethod state method)
      rw [List.foldl_cons]
      omega

/-! ## Attributes and constants -/

/-- The attributes whose names an earlier declaration does not carry are put in, and each is
counted. -/
theorem foldl_addUncarried (earlier : ClassDeclaration) (attributes : List Attribute)
    (state : ClassDeclaration × Nat) :
    let missing := attributes.filter (!earlier.hasAttribute ·.name)
    attributes.foldl earlier.addUncarried state =
      ({ state.1 with attributes := state.1.attributes ++ missing },
        state.2 + missing.length) := by
  induction attributes generalizing state with
  | nil => simp
  | cons attr rest ih =>
      rw [List.foldl_cons, ih, addUncarried, List.filter_cons]
      by_cases carried : earlier.hasAttribute attr.name
      · simp [carried]
      · simp [carried, addAttribute, Nat.add_assoc, Nat.add_comm 1]

/-- Constants of distinct names do not stand in the way of each other, so it makes no
difference that each is compared with those put in before it. -/
theorem foldl_addNewConstant {constants : List Constant}
    (distinct : (constants.map Constant.name).Nodup) (decl : ClassDeclaration) :
    constants.foldl addNewConstant decl =
      { decl with
        constants := decl.constants ++ constants.filter (!decl.hasConstant ·.name) } := by
  induction constants generalizing decl with
  | nil => simp
  | cons constant rest ih =>
      obtain ⟨fresh, distinctRest⟩ := List.nodup_cons.mp distinct
      rw [List.foldl_cons, ih distinctRest, addNewConstant, List.filter_cons]
      by_cases held : decl.hasConstant constant.name
      · simp [held]
      · have unaffected : ∀ later ∈ rest, (decl.addConstant constant).hasConstant later.name =
            decl.hasConstant later.name := by
          intro later member
          have different : constant.name ≠ later.name := fun same =>
            fresh (List.mem_map.mpr ⟨later, member, same.symm⟩)
          simp [hasConstant, addConstant, different]
        have filtered : rest.filter (!(decl.addConstant constant).hasConstant ·.name) =
            rest.filter (!decl.hasConstant ·.name) := by
          apply List.filter_congr
          intro later member
          rw [unaffected later member]
        rw [if_neg held, filtered]
        simp [held, addConstant]

end ClassDeclaration

/-! ## A whole declaration -/

namespace Class

variable (cls : Class) (config : Config)

/-- The attributes of a class whose names a declaration does not carry. -/
def newAttributes (decl : ClassDeclaration) : List Attribute :=
  cls.attributes.filter (!decl.hasAttribute ·.name)

/-- The constants of a class whose names a declaration lacks. -/
def newConstants (decl : ClassDeclaration) : List Constant :=
  cls.constants.toList.filter (!decl.hasConstant ·.name)

/-- The constructor of a class, when a declaration lacks one. -/
def newConstructor (decl : ClassDeclaration) : List Method :=
  if decl.constructor?.isNone then (cls.constructor? config).toList else []

/-- The methods of a declaration after a merge. -/
def mergedMethods (decl : ClassDeclaration) : List Method :=
  let methods := cls.newConstructor config decl ++ decl.methods
  if config.accessorMethods then (cls.accessors config).foldl Method.appendNew methods
  else methods

theorem perm_declarationOrder : cls.declarationOrder.Perm cls.properties.toList :=
  List.filter_append_perm _ _

theorem mem_declarationOrder {cls : Class} {property : Property} :
    property ∈ cls.declarationOrder ↔ property ∈ cls.properties.toList :=
  cls.perm_declarationOrder.mem_iff

/-- Every property is generated as one field. -/
theorem length_fields : (cls.fields config).length = cls.properties.size := by
  rw [fields, List.length_map]
  exact cls.perm_declarationOrder.length_eq

theorem mergeAttributes_eq (decl : ClassDeclaration) :
    cls.mergeAttributes decl =
      ({ decl with attributes := decl.attributes ++ cls.newAttributes decl },
        (cls.newAttributes decl).length) := by
  rw [mergeAttributes, ClassDeclaration.foldl_addUncarried, Nat.zero_add]
  rfl

theorem mergeConstants_eq (decl : ClassDeclaration) :
    cls.mergeConstants decl =
      { decl with constants := decl.constants ++ cls.newConstants decl } :=
  ClassDeclaration.foldl_addNewConstant cls.constants.nodup_keys decl

theorem mergeFields_eq (decl : ClassDeclaration) :
    cls.mergeFields config decl =
      ({ decl with fields := Field.mergeAll (cls.fields config) decl.fields },
        cls.properties.size) := by
  rw [mergeFields, MergedFields.append_foldl_generate, MergedFields.length_generated_foldl,
    length_fields]
  simp

theorem mergeConstructor_eq (decl : ClassDeclaration) :
    cls.mergeConstructor config decl =
      ({ decl with methods := cls.newConstructor config decl ++ decl.methods },
        (cls.newConstructor config decl).length) := by
  rw [mergeConstructor, newConstructor]
  cases decl.constructor? <;> cases cls.constructor? config <;> rfl

theorem fst_mergeMethods (decl : ClassDeclaration) :
    (cls.mergeMethods config decl).1 =
      { decl with methods := cls.mergedMethods config decl } := by
  rw [mergeMethods, mergeConstructor_eq, mergedMethods]
  split
  · rw [ClassDeclaration.fst_foldl_addNewMethod]
  · rfl

/-- Every method that is put in is counted, be it the constructor or an accessor. -/
theorem snd_mergeMethods (decl : ClassDeclaration) :
    (cls.mergeMethods config decl).2 + decl.methods.length =
      (cls.mergedMethods config decl).length := by
  have constructor : (cls.mergeConstructor config decl).2 + decl.methods.length =
      (cls.mergeConstructor config decl).1.methods.length := by
    rw [mergeConstructor_eq, List.length_append]
  have methods : (cls.mergeMethods config decl).1.methods = cls.mergedMethods config decl :=
    congrArg ClassDeclaration.methods (cls.fst_mergeMethods config decl)
  rw [← methods, mergeMethods]
  split
  · have accessors := ClassDeclaration.snd_foldl_addNewMethod (cls.accessors config)
      (cls.mergeConstructor config decl)
    omega
  · exact constructor

/-- A declaration after a merge, kind by kind. -/
theorem mergeDeclaration_eq (decl : ClassDeclaration) :
    cls.mergeDeclaration config decl =
      { decl with
        comment := decl.comment.or (describingComment cls.description cls.uri)
        extends? := cls.parent.declared decl.extends?
        implements := decl.implements ++ cls.newInterfaces decl
        isAbstract := cls.isAbstract
        attributes := decl.attributes ++ cls.newAttributes decl
        constants := decl.constants ++ cls.newConstants decl
        fields := Field.mergeAll (cls.fields config) decl.fields
        methods := cls.mergedMethods config decl } := by
  simp only [mergeDeclaration, mergeElements, mergeAttributes_eq, mergeConstants_eq,
    mergeFields_eq, fst_mergeMethods]
  rfl

@[simp] theorem name_mergeDeclaration (decl : ClassDeclaration) :
    (cls.mergeDeclaration config decl).name = decl.name := by
  rw [mergeDeclaration_eq]

theorem fields_mergeDeclaration (decl : ClassDeclaration) :
    (cls.mergeDeclaration config decl).fields =
      Field.mergeAll (cls.fields config) decl.fields := by
  rw [mergeDeclaration_eq]

theorem methods_mergeDeclaration (decl : ClassDeclaration) :
    (cls.mergeDeclaration config decl).methods = cls.mergedMethods config decl := by
  rw [mergeDeclaration_eq]

theorem attributesAdded_mergeOutcome (decl : ClassDeclaration) :
    (cls.mergeOutcome config decl).attributesAdded = (cls.newAttributes decl).length := by
  simp only [mergeOutcome, mergeElements, mergeAttributes_eq]
  rfl

theorem propertiesMerged_mergeOutcome (decl : ClassDeclaration) :
    (cls.mergeOutcome config decl).propertiesMerged = cls.properties.size := by
  simp only [mergeOutcome, mergeElements, mergeFields_eq]

/-- The methods counted are those that the declaration has gained. -/
theorem methodsAdded_mergeOutcome (decl : ClassDeclaration) :
    (cls.mergeOutcome config decl).methodsAdded + decl.methods.length =
      (cls.mergedMethods config decl).length := by
  simp only [mergeOutcome, mergeElements, mergeAttributes_eq, mergeConstants_eq, mergeFields_eq]
  exact snd_mergeMethods cls config _

end Class

end EntityGen
