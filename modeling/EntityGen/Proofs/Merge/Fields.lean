import EntityGen.Proofs.Merge.Accessors
import EntityGen.Proofs.Merge.Survival
import EntityGen.Proofs.Storing

/-!
# Fields after a merge

The fields of a merged declaration are known exactly.  In front stands one generated
field for each property of the class, in the order of declarations, with the comment of
the first field of its name that was there; behind them follow the fields that were
there, less the first one of each property, in their order (`Class.fields_merge`).

The merge takes declared fields out one at a time while it puts generated ones in front.
As the generated fields have distinct names, each of them finds what the declaration had
under its name from the beginning, and what is taken out can be told by the names alone
(`Field.mergeAll_eq`).
-/

namespace EntityGen

namespace Field

/-- The fields without the first one of each name in a list. -/
def withoutFirsts (names : List String) : List Field → List Field
  | [] => []
  | field :: rest =>
    if field.name ∈ names then withoutFirsts (names.erase field.name) rest
    else field :: withoutFirsts names rest

@[simp] theorem withoutFirsts_nil (fields : List Field) : withoutFirsts [] fields = fields := by
  induction fields with
  | nil => rfl
  | cons field rest ih => simp [withoutFirsts, ih]

/-- Names are taken out one at a time. -/
theorem withoutFirsts_cons {name : String} {names : List String} (fresh : name ∉ names)
    (fields : List Field) :
    withoutFirsts (name :: names) fields =
      withoutFirsts names (fields.eraseP (·.name = name)) := by
  induction fields generalizing names with
  | nil => rfl
  | cons field rest ih =>
      by_cases named : field.name = name
      · simp [withoutFirsts, named]
      · have kept : (field :: rest).eraseP (·.name = name) =
            field :: rest.eraseP (·.name = name) := by
          simp [named]
        have erased : (name :: names).erase field.name = name :: names.erase field.name := by
          simp [Ne.symm named]
        have freshErased : name ∉ names.erase field.name := fun member =>
          fresh (List.mem_of_mem_erase member)
        rw [kept, withoutFirsts, withoutFirsts, erased, ih freshErased, ih fresh]
        simp [named]

theorem map_name_eraseP (declared : List Field) (name : String) :
    (declared.eraseP (·.name = name)).map Field.name = (declared.map Field.name).erase name := by
  rw [List.erase_eq_eraseP, List.eraseP_map]
  congr 2
  funext field
  rw [Bool.eq_iff_iff, decide_eq_true_iff, Function.comp, beq_iff_eq, eq_comm]

/-- Generated fields of distinct names, put in front one after the other. -/
theorem mergeAll_eq {fields : List Field} (distinct : (fields.map Field.name).Nodup)
    (declared : List Field) :
    mergeAll fields declared =
      fields.map (fun field => field.keepComment (declared.find? (·.name = field.name))) ++
        withoutFirsts (fields.map Field.name) declared := by
  induction fields generalizing declared with
  | nil => simp [mergeAll]
  | cons field rest ih =>
      obtain ⟨fresh, distinctRest⟩ := List.nodup_cons.mp distinct
      have comments : ∀ later ∈ rest,
          later.keepComment
              ((declared.eraseP (·.name = field.name)).find? (·.name = later.name)) =
            later.keepComment (declared.find? (·.name = later.name)) := by
        intro later member
        rw [find?_eraseP_of_ne]
        intro same
        exact fresh (List.mem_map.mpr ⟨later, member, same.symm⟩)
      rw [mergeAll, ih distinctRest, List.map_congr_left comments, List.map_cons, List.map_cons,
        withoutFirsts_cons fresh, List.cons_append]

/-- Of two declared fields of a name, the first gives way and leaves its comment. -/
example :
    mergeAll [{ name := "name", nullable := true }]
        [{ name := "note" }, { name := "name", comment := some "By hand." }, { name := "name" }] =
      [{ name := "name", nullable := true, comment := some "By hand." }, { name := "note" },
        { name := "name" }] := by
  decide

/-- A generated name is there once at least, and no name is lost. -/
theorem count_name_mergeAll {fields : List Field} (distinct : (fields.map Field.name).Nodup)
    (declared : List Field) (name : String) :
    ((mergeAll fields declared).map Field.name).count name =
      if name ∈ fields.map Field.name then max 1 ((declared.map Field.name).count name)
      else (declared.map Field.name).count name := by
  induction fields generalizing declared with
  | nil => rfl
  | cons field rest ih =>
      obtain ⟨fresh, distinctRest⟩ := List.nodup_cons.mp distinct
      rw [mergeAll, List.map_cons, name_keepComment, List.count_cons, ih distinctRest,
        map_name_eraseP, List.count_erase]
      by_cases named : field.name = name
      · subst named
        rw [if_neg fresh, if_pos (by simp)]
        simp
        omega
      · simp [named, Ne.symm named]

end Field

/-! ## The order of declarations -/

namespace Property

/-- Identifiers are declared before other properties, and else the order is that of the
names. -/
def DeclaredBefore (first second : Property) : Prop :=
  first.isId ∧ ¬second.isId ∨
    first.isId = second.isId ∧ compare first.name second.name = .lt

end Property

namespace Class

theorem pairwise_declarationOrder (cls : Class) :
    cls.declarationOrder.Pairwise Property.DeclaredBefore := by
  have group (identifies : Bool) : (cls.properties.toList.filter
      (·.isId == identifies)).Pairwise Property.DeclaredBefore := by
    apply (cls.properties.sorted.filter _).imp_of_mem
    intro first second memberFirst memberSecond before
    simp only [List.mem_filter, beq_iff_eq] at memberFirst memberSecond
    exact .inr ⟨memberFirst.2.trans memberSecond.2.symm, before⟩
  rw [declarationOrder, List.pairwise_append]
  refine ⟨by simpa using group true, by simpa using group false, ?_⟩
  intro first memberFirst second memberSecond
  left
  simp_all

/-! ## One merge -/

theorem map_name_fields (cls : Class) (config : Config) :
    (cls.fields config).map Field.name = cls.declarationOrder.map Property.name := by
  rw [fields, List.map_map]
  rfl

theorem nodup_fields (cls : Class) (config : Config) :
    ((cls.fields config).map Field.name).Nodup := by
  rw [map_name_fields, (cls.perm_declarationOrder.map Property.name).nodup_iff]
  exact cls.properties.nodup_keys

theorem find?_fields {cls : Class} {property : Property} (member : property ∈ cls.properties.toList)
    (config : Config) :
    (cls.fields config).find? (·.name = property.name) =
      some (property.field config cls.name) := by
  rw [fields, List.find?_map]
  cases lookup : cls.declarationOrder.find?
      ((fun field : Field => decide (field.name = property.name)) ∘
        fun property => property.field config cls.name) with
  | none =>
      have unnamed := List.find?_eq_none.mp lookup property (mem_declarationOrder.mpr member)
      exact absurd (decide_eq_true rfl) unnamed
  | some other =>
      have memberOther := mem_declarationOrder.mp (List.mem_of_find?_eq_some lookup)
      have named := List.find?_some lookup
      simp only [Function.comp, decide_eq_true_eq] at named
      rw [cls.properties.eq_of_key_eq memberOther member named]
      rfl

/-- The field that a merge leaves under the name of a property is the one of the property. -/
theorem field?_mergeDeclaration {cls : Class} {property : Property}
    (member : property ∈ cls.properties.toList) (config : Config) (decl : ClassDeclaration) :
    (cls.mergeDeclaration config decl).field? property.name =
      some ((property.field config cls.name).keepComment (decl.field? property.name)) := by
  rw [ClassDeclaration.field?, fields_mergeDeclaration, Field.find?_mergeAll, find?_fields member]
  rfl

/-- The fields of a declaration after a merge into a file, whatever fields it had before:
one generated field for each property, identifiers first, that keeps the comment of the
first field of its name; then the fields that were there, less those first ones.  So no
name is lost, each property has a field, and all of them are counted. -/
theorem fields_merge (cls : Class) (config : Config) (file : SourceFile) :
    let before := (cls.declarationIn config file).fields
    let properties := cls.declarationOrder
    ∃ merged,
      (cls.merge config file).value.1.classIn? (config.namespaceFor cls) cls.name = some merged ∧
      merged.fields =
        properties.map (fun property =>
          { property.field config cls.name with
            comment := ((before.find? (·.name = property.name)).bind Field.comment).or
              (property.field config cls.name).comment }) ++
          Field.withoutFirsts (properties.map Property.name) before ∧
      properties.Perm cls.properties.toList ∧ properties.Pairwise Property.DeclaredBefore ∧
      (∀ name, (merged.fields.map Field.name).count name =
        if cls.properties.contains name then max 1 ((before.map Field.name).count name)
        else (before.map Field.name).count name) ∧
      (cls.merge config file).value.2.propertiesMerged = properties.length := by
  intro before properties
  have distinct := cls.nodup_fields config
  refine ⟨_, cls.classIn?_mergeFile config file, ?_, cls.perm_declarationOrder,
    cls.pairwise_declarationOrder, ?_, ?_⟩
  · rw [fields_mergeDeclaration, Field.mergeAll_eq distinct, map_name_fields, fields, List.map_map]
    rfl
  · intro name
    have modeled : name ∈ (cls.fields config).map Field.name ↔ cls.properties.contains name := by
      rw [map_name_fields, (cls.perm_declarationOrder.map Property.name).mem_iff]
      exact Table.contains_iff_mem_keys.symm
    simp only [fields_mergeDeclaration, Field.count_name_mergeAll distinct, modeled]
    rfl
  · rw [value_merge, propertiesMerged_mergeOutcome]
    exact cls.perm_declarationOrder.length_eq.symm

end Class

end EntityGen
