import EntityGen.Proofs.Ancestors
import EntityGen.Proofs.Finished
import EntityGen.Proofs.Regeneration

/-!
# Locality

What a generation makes of a class depends on the class itself, on the classes that are its
ancestors once the settings are taken over, on which of the names that its properties point
to are registered, and on the file of its name.  Nothing else about other classes and their
files matters (`Workspace.generate_local`).

The annotators look at the registry only to see whether the target of a relation is there
(`Metadata.ofClass_congr`), and the marks of constructors follow from the ancestors
(`Registry.inheritsConstructor_hierarchy_congr`).
-/

namespace EntityGen

/-- Two registries have the same of the classes that properties of a class point to. -/
def Class.TargetsAgree (cls : Class) (registry other : Registry) : Prop :=
  ∀ property ∈ cls.properties.toList, ∀ target ∈ property.rangeName?,
    registry.contains target = other.contains target

/-! ## Annotators -/

/-- Which class a property points to is told, up to its name, by whether it is registered. -/
theorem Property.target?_congr {registry other : Registry} {property : Property}
    (same : ∀ target, property.rangeName? = some target →
      registry.contains target = other.contains target) (className : String) :
    (property.target? className registry).map Class.name =
      (property.target? className other).map Class.name := by
  rw [target?, target?]
  cases range : property.rangeName? with
  | none => rfl
  | some target =>
      have agree := same target range
      rw [Table.contains, Table.contains] at agree
      cases found : registry.get? target with
      | none =>
          rw [found, Option.isSome_none, eq_comm, Option.isSome_eq_false_iff,
            Option.isNone_iff_eq_none] at agree
          simp only [found, agree]
      | some first =>
          rw [found, Option.isSome_some, eq_comm, Option.isSome_iff_exists] at agree
          obtain ⟨second, foundOther⟩ := agree
          have named := (registry.get?_eq_some_iff.mp found).2
          have namedOther := (other.get?_eq_some_iff.mp foundOther).2
          simp only [found, foundOther]
          exact congrArg Except.ok (named.trans namedOther.symm)

namespace Persistence

variable {config : Config} {registry other : Registry} {className : String} {property : Property}

/-- Of its target a relation tells the name only. -/
theorem relationAttributes_congr {first second : Class} (named : first.name = second.name) :
    relationAttributes property first = relationAttributes property second := by
  rw [relationAttributes, relationAttributes, named]

theorem propertyAttributes_congr
    (same : ∀ target, property.rangeName? = some target →
      registry.contains target = other.contains target) :
    propertyAttributes config registry className property =
      propertyAttributes config other className property := by
  have targets := Property.target?_congr same className
  rw [propertyAttributes, propertyAttributes]
  cases found : property.target? className registry with
  | error error =>
      cases foundOther : property.target? className other with
      | error otherError =>
          rw [found, foundOther] at targets
          cases targets
          rfl
      | ok second =>
          rw [found, foundOther] at targets
          cases targets
  | ok first =>
      cases foundOther : property.target? className other with
      | error error =>
          rw [found, foundOther] at targets
          cases targets
      | ok second =>
          rw [found, foundOther] at targets
          have named : first.name = second.name := Except.ok.inj targets
          simp only [relationAttributes_congr named]

end Persistence

variable {config : Config} {registry other : Registry} {cls : Class}

theorem Annotator.ofProperty_congr {className : String} {property : Property}
    (same : ∀ target, property.rangeName? = some target →
      registry.contains target = other.contains target) (annotator : Annotator) :
    annotator.ofProperty config registry className property =
      annotator.ofProperty config other className property := by
  cases annotator with
  | persistence => exact congrArg ExceptT.lift (Persistence.propertyAttributes_congr same)
  | _ => rfl

theorem Contribution.ofAnnotator_congr (same : cls.TargetsAgree registry other)
    (annotator : Annotator) :
    ofAnnotator config registry cls annotator = ofAnnotator config other cls annotator := by
  have properties : (cls.properties.toList.mapM fun property => do
        let attributes ← annotator.ofProperty config registry cls.name property
        return (property.name, Attribute.distinct attributes)) =
      cls.properties.toList.mapM fun property => do
        let attributes ← annotator.ofProperty config other cls.name property
        return (property.name, Attribute.distinct attributes) := by
    apply mapM_congr_left
    intro property member
    rw [annotator.ofProperty_congr (same property member)]
  rw [ofAnnotator, ofAnnotator, properties]

/-- The metadata of a class is the same in registries that have the same of the classes it
points to. -/
theorem Metadata.ofClass_congr (same : cls.TargetsAgree registry other) :
    ofClass config registry cls = ofClass config other cls := by
  have contributions : Contribution.ofAnnotator config registry cls =
      Contribution.ofAnnotator config other cls :=
    funext (Contribution.ofAnnotator_congr same)
  rw [ofClass, contributions]
  rfl

/-! ## Adjusted classes -/

theorem Property.rangeName?_configureFrom (settings : NameMap Config.PropertySettings)
    (property : Property) : (property.configureFrom settings).rangeName? = property.rangeName? := by
  rw [configureFrom]
  split <;> rfl

/-- The properties of an adjusted class point to nothing that those of the class did not. -/
theorem Class.exists_rangeName?_of_mem_adjusted {property : Property} {target : String}
    (member : property ∈ (cls.adjusted config).properties.toList)
    (range : property.rangeName? = some target) :
    ∃ before ∈ cls.properties.toList, before.rangeName? = some target := by
  have configured (memberConfigured :
      property ∈ (Adjustment.apply config cls .settings).properties.toList) :
      ∃ before ∈ cls.properties.toList, before.rangeName? = some target := by
    rw [Adjustment.apply] at memberConfigured
    cases found : config.class? cls.name with
    | none =>
        rw [found] at memberConfigured
        exact ⟨property, memberConfigured, range⟩
    | some settings =>
        rw [found] at memberConfigured
        obtain ⟨before, memberBefore, rfl⟩ := List.mem_map.mp memberConfigured
        rw [Property.rangeName?_configureFrom] at range
        exact ⟨before, memberBefore, range⟩
  rw [adjusted_eq] at member
  generalize Adjustment.apply config cls .settings = settled at configured member
  rw [Adjustment.apply, identify] at member
  split at member
  · rcases (Table.mem_insert_iff _).mp member with rfl | ⟨memberConfigured, _⟩
    · -- An identifier that a class receives points nowhere.
      cases range
    · exact configured memberConfigured
  · exact configured member

namespace Registry

theorem targetsAgree_adjust (same : cls.TargetsAgree registry other) :
    (cls.adjusted config).TargetsAgree (registry.adjust config).value
      (other.adjust config).value := by
  intro property member target range
  obtain ⟨before, memberBefore, rangeBefore⟩ :=
    Class.exists_rangeName?_of_mem_adjusted member range
  rw [contains_adjust, contains_adjust]
  exact same before memberBefore target rangeBefore

/-- Whether an adjusted class inherits a constructor follows from its ancestors, as they are
before they are adjusted. -/
theorem inheritsConstructor_adjust_congr (member : cls ∈ registry.toList)
    (otherMember : cls ∈ other.toList)
    (ancestors : ∀ ancestor, (registry.adjust config).value.IsAncestor cls.name ancestor →
      registry.get? ancestor = other.get? ancestor) :
    ((registry.adjust config).value.hierarchy config).inheritsConstructor cls.name =
      ((other.adjust config).value.hierarchy config).inheritsConstructor cls.name := by
  apply inheritsConstructor_hierarchy_congr
  · rw [get?_adjust, get?_adjust,
      show registry.get? cls.name = some cls from Table.get?_key_of_mem member,
      show other.get? cls.name = some cls from Table.get?_key_of_mem otherMember]
  · intro ancestor above
    rw [get?_adjust, get?_adjust, ancestors ancestor above]

end Registry

/-! ## Generations -/

namespace Workspace

variable {workspace finished other otherFinished : Workspace} {summary otherSummary : Summary}

theorem contains_finished (ended : (workspace.generate config).value = (finished, .ok summary))
    (member : cls ∈ finished.registry.toList) : finished.files.contains cls.name := by
  obtain ⟨metadata, _, _, files⟩ := exists_of_generate_eq_ok ended
  rw [files]
  exact (settled_foldl finished.registry.nodup_keys member (workspace.files, 0)).present

/-- Two generations that end well make the same of a class and of its file when the class, the
file, the ancestors of the class and the presence of the classes it points to are the same. -/
theorem generate_local (ended : (workspace.generate config).value = (finished, .ok summary))
    (otherEnded : (other.generate config).value = (otherFinished, .ok otherSummary))
    (member : cls ∈ workspace.registry.toList) (otherMember : cls ∈ other.registry.toList)
    (targets : cls.TargetsAgree workspace.registry other.registry)
    (ancestors : ∀ ancestor,
      (workspace.registry.adjust config).value.IsAncestor cls.name ancestor →
      workspace.registry.get? ancestor = other.registry.get? ancestor)
    (files : workspace.files.file cls.name = other.files.file cls.name) :
    ∃ done source,
      finished.registry.get? cls.name = some done ∧
        otherFinished.registry.get? cls.name = some done ∧
        finished.files.get? cls.name = some (cls.name, source) ∧
        otherFinished.files.get? cls.name = some (cls.name, source) := by
  obtain ⟨done, memberDone, described, ofClass, same⟩ :=
    exists_mem_finished ended (List.mem_map_of_mem member)
  obtain ⟨otherDone, memberOther, otherDescribed, otherOfClass, otherSame⟩ :=
    exists_mem_finished otherEnded (List.mem_map_of_mem otherMember)
  rw [Metadata.ofClass_congr (Registry.targetsAgree_adjust targets), otherOfClass] at ofClass
  cases ofClass
  have named : ((cls.adjusted config).attach described).name = cls.name :=
    cls.key_adjusted config
  have equal : done = otherDone := by
    rw [same, otherSame, Class.markConstructors, Class.markConstructors, named,
      Registry.inheritsConstructor_adjust_congr member otherMember ancestors]
  subst equal
  have sameName : done.name = cls.name := by
    rw [same]
    exact named
  refine ⟨done, done.mergeFile config (workspace.files.file cls.name), ?_, ?_, ?_, ?_⟩
  · rw [← sameName]
    exact Table.get?_key_of_mem memberDone
  · rw [← sameName]
    exact Table.get?_key_of_mem memberOther
  · rw [← sameName, SourceTree.get?_of_contains (contains_finished ended memberDone),
      file_finished ended memberDone]
  · rw [files, ← sameName, SourceTree.get?_of_contains (contains_finished otherEnded memberOther),
      file_finished otherEnded memberOther]

/-- The settings give a person another parent.  Of the classes that are then no ancestors one
is added that has a constructor, and a file is there that was written by hand. -/
theorem generate_local_person :
    let config : Config :=
      { classes := .ofList [("Person", { parent := some (.name "Agent") })] }
    let knows : Property :=
      { name := "knows"
        cardinality := .zeroToMany
        isArray := true
        range := some (.ofUri "Person") }
    let employer : Property := { name := "employer", range := some (.ofUri "Organization") }
    let person : Class :=
      { name := "Person", parent := .named "Thing", properties := .ofList [knows, employer] }
    let agent : Class := { name := "Agent", parent := .named "Being" }
    let thing : Class := { name := "Thing", properties := .ofList [knows] }
    let workspace : Workspace := { registry := .ofList [agent, person] }
    let other : Workspace :=
      { registry := .ofList [agent, person, thing]
        files := .ofList [("Thing", { header := some "Things" })] }
    let finished := (workspace.generate config).value.1
    let otherFinished := (other.generate config).value.1
    (workspace.generate config).value = (finished, .ok ⟨2, 4, 12, 8⟩) ∧
      (other.generate config).value = (otherFinished, .ok ⟨3, 6, 19, 13⟩) ∧
      person.TargetsAgree workspace.registry other.registry ∧
      (∀ ancestor, (workspace.registry.adjust config).value.IsAncestor person.name ancestor →
        workspace.registry.get? ancestor = other.registry.get? ancestor) ∧
      workspace.files.file person.name = other.files.file person.name ∧
      ∃ done source,
        finished.registry.get? person.name = some done ∧
          otherFinished.registry.get? person.name = some done ∧
          finished.files.get? person.name = some (person.name, source) ∧
          otherFinished.files.get? person.name = some (person.name, source) := by
  intro config knows employer person agent thing workspace other finished otherFinished
  have ended : (workspace.generate config).value = (finished, .ok ⟨2, 4, 12, 8⟩) :=
    generate_eq_ok_of_toOption (by decide +kernel)
  have otherEnded : (other.generate config).value = (otherFinished, .ok ⟨3, 6, 19, 13⟩) :=
    generate_eq_ok_of_toOption (by decide +kernel)
  have targets : person.TargetsAgree workspace.registry other.registry := by
    rw [Class.TargetsAgree]
    decide +kernel
  have ancestors : ∀ ancestor,
      (workspace.registry.adjust config).value.IsAncestor person.name ancestor →
      workspace.registry.get? ancestor = other.registry.get? ancestor := by
    have ofPerson : (workspace.registry.adjust config).value.parentOf? person.name =
        some "Agent" := by
      decide +kernel
    have ofAgent : (workspace.registry.adjust config).value.parentOf? "Agent" = some "Being" := by
      decide +kernel
    have ofBeing : (workspace.registry.adjust config).value.parentOf? "Being" = none := by
      decide +kernel
    have chain {ancestor : String}
        (above : (workspace.registry.adjust config).value.IsAncestor person.name ancestor) :
        ancestor = "Agent" ∨ ancestor = "Being" := by
      induction above with
      | single step =>
          rw [ofPerson] at step
          exact .inl (Option.some.inj step).symm
      | tail _ step ih =>
          rcases ih with rfl | rfl
          · rw [ofAgent] at step
            exact .inr (Option.some.inj step).symm
          · rw [ofBeing] at step
            cases step
    intro ancestor above
    rcases chain above with rfl | rfl <;> decide +kernel
  have file : workspace.files.file person.name = other.files.file person.name := by decide +kernel
  exact ⟨ended, otherEnded, targets, ancestors, file,
    generate_local ended otherEnded (by decide +kernel) (by decide +kernel) targets ancestors file⟩

end Workspace

end EntityGen
