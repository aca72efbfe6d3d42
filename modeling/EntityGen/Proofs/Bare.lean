import EntityGen.Generation
import EntityGen.Proofs.Storing

/-!
# Bare models

A bare class has nothing that a generation attaches to a class or marks on it: no
attributes on itself and its properties, no imports, no constructors.

Annotators read only what is bare, so registries with the same bare classes are
annotated alike (`Registry.metadata_eq_of_bare_eq`).
-/

namespace EntityGen

/-- The property without its attributes. -/
def Property.bare (property : Property) : Property := { property with attributes := [] }

theorem Property.key_bare (property : Property) : Keyed.key property.bare = Keyed.key property :=
  rfl

namespace Class

/-- The class without attributes, imports and marks of constructors. -/
def bare (cls : Class) : Class :=
  { cls with
    properties := cls.properties.map Property.bare Property.key_bare
    imports := ∅
    attributes := []
    hasConstructor := false
    parentHasConstructor := false }

theorem key_bare (cls : Class) : Keyed.key cls.bare = Keyed.key cls := rfl

theorem toList_properties_bare (cls : Class) :
    cls.bare.properties.toList = cls.properties.toList.map Property.bare := rfl

theorem collectionProperties_bare (cls : Class) (config : Config) :
    cls.bare.collectionProperties config =
      (cls.collectionProperties config).map Property.bare := by
  rw [collectionProperties, toList_properties_bare, List.filter_map]
  rfl

theorem needsConstructor_bare (cls : Class) (config : Config) :
    cls.bare.needsConstructor config = cls.needsConstructor config := by
  rw [needsConstructor, collectionProperties_bare, List.isEmpty_map]
  rfl

end Class

/-- The registry of the bare classes. -/
def Registry.bare (registry : Registry) : Registry := registry.map Class.bare Class.key_bare

theorem Registry.get?_bare (registry : Registry) (name : String) :
    registry.bare.get? name = (registry.get? name).map Class.bare :=
  registry.get?_map Class.bare Class.key_bare name

/-! ## What annotators read -/

namespace Persistence

theorem imports_bare (config : Config) (cls : Class) :
    imports config cls.bare = imports config cls := by
  simp only [imports, Class.toList_properties_bare, List.any_map]
  rfl

theorem target?_bare (property : Property) (className : String) (registry : Registry) :
    property.bare.target? className registry.bare =
      (property.target? className registry).map Class.bare := by
  have range : property.bare.rangeName? = property.rangeName? := rfl
  simp only [Property.target?, range]
  cases property.rangeName? with
  | none => rfl
  | some target =>
      simp only [Registry.get?_bare]
      cases registry.get? target <;> rfl

theorem propertyAttributes_bare (config : Config) (registry : Registry) (className : String)
    (property : Property) :
    propertyAttributes config registry.bare className property.bare =
      propertyAttributes config registry className property := by
  simp only [propertyAttributes, target?_bare]
  cases property.target? className registry <;> rfl

end Persistence

namespace Resource

theorem imports_bare (cls : Class) : imports cls.bare = imports cls := by
  simp only [imports, Class.toList_properties_bare, List.any_map]
  rfl

end Resource

namespace Constraint

theorem uniqueProperties_bare (cls : Class) :
    uniqueProperties cls.bare = (uniqueProperties cls).map Property.bare := by
  rw [uniqueProperties, Class.toList_properties_bare, List.filter_map]
  rfl

theorem classAttributes_bare (cls : Class) : classAttributes cls.bare = classAttributes cls := by
  rw [classAttributes, uniqueProperties_bare, List.map_map]
  rfl

theorem enumImports_bare (config : Config) (cls : Class) :
    enumImports config cls.bare = enumImports config cls := by
  rw [enumImports, Class.toList_properties_bare, List.filter_map, List.filterMap_map]
  rfl

theorem imports_bare (config : Config) (cls : Class) :
    imports config cls.bare = imports config cls := by
  simp only [imports, enumImports_bare, uniqueProperties_bare, List.isEmpty_map,
    Class.toList_properties_bare, List.any_map]
  rfl

end Constraint

namespace Annotator

theorem ofClass_bare (config : Config) (cls : Class) (annotator : Annotator) :
    annotator.ofClass config cls.bare = annotator.ofClass config cls := by
  cases annotator with
  | constraint => exact congrArg Except.ok (Constraint.classAttributes_bare cls)
  | _ => rfl

theorem ofProperty_bare (config : Config) (registry : Registry) (className : String)
    (property : Property) (annotator : Annotator) :
    annotator.ofProperty config registry.bare className property.bare =
      annotator.ofProperty config registry className property := by
  cases annotator with
  | persistence =>
      exact congrArg ExceptT.lift
        (Persistence.propertyAttributes_bare config registry className property)
  | _ => rfl

theorem imports_bare (config : Config) (cls : Class) (annotator : Annotator) :
    annotator.imports config cls.bare = annotator.imports config cls := by
  cases annotator with
  | persistence => exact Persistence.imports_bare config cls
  | resource => exact Resource.imports_bare cls
  | constraint => exact Constraint.imports_bare config cls
  | configuration => rfl

end Annotator

/-- An annotator contributes to a class what it contributes to the bare one. -/
theorem Contribution.ofAnnotator_bare (config : Config) (registry : Registry) (cls : Class)
    (annotator : Annotator) :
    ofAnnotator config registry.bare cls.bare annotator =
      ofAnnotator config registry cls annotator := by
  simp only [ofAnnotator, Annotator.ofClass_bare, Annotator.imports_bare,
    Class.toList_properties_bare, List.mapM_map, Function.comp_def, Annotator.ofProperty_bare]
  rfl

theorem Metadata.ofClass_bare (config : Config) (registry : Registry) (cls : Class) :
    ofClass config registry.bare cls.bare = ofClass config registry cls := by
  have contributions : Contribution.ofAnnotator config registry.bare cls.bare =
      Contribution.ofAnnotator config registry cls :=
    funext (Contribution.ofAnnotator_bare config registry cls)
  rw [ofClass, contributions]
  rfl

namespace Registry

theorem metadata_bare (registry : Registry) (config : Config) :
    registry.bare.metadata config = registry.metadata config := by
  have classes : registry.bare.toList = registry.toList.map Class.bare := rfl
  simp only [metadata, classes, List.mapM_map, Function.comp_def, Metadata.ofClass_bare]
  rfl

/-- Registries with the same bare classes are annotated alike. -/
theorem metadata_eq_of_bare_eq {registry other : Registry} (same : registry.bare = other.bare)
    (config : Config) : registry.metadata config = other.metadata config := by
  rw [← metadata_bare registry, same, metadata_bare]

end Registry

end EntityGen
