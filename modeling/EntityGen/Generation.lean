import EntityGen.Adjust
import EntityGen.Hierarchy
import EntityGen.Merge.Class
import EntityGen.Metadata

/-!
# Generation

A generation adjusts the classes of a registry, annotates them, and merges each of
them into its source file.  A wrong configuration stops it before any file is
touched; the registry then holds the adjusted classes.
-/

namespace EntityGen

namespace Class

/-- Whether a class declares a constructor, now or before. -/
def declaresConstructor (cls : Class) (config : Config) : Bool :=
  cls.hasConstructor || cls.needsConstructor config

/-- What the search for inherited constructors knows about a class. -/
def lineage (cls : Class) (config : Config) : Lineage where
  declaresConstructor := cls.declaresConstructor config
  parent := cls.parentName?

/-- The class with its constructors marked: its own, and that of an ancestor when the
parent is registered. -/
def markConstructors (cls : Class) (config : Config) (hierarchy : Hierarchy) : Class :=
  { cls with
    hasConstructor := cls.declaresConstructor config
    parentHasConstructor :=
      (hierarchy.inheritsConstructor cls.name).getD cls.parentHasConstructor }

end Class

namespace Registry

/-- The classes of a registry with their parents. -/
def hierarchy (registry : Registry) (config : Config) : Hierarchy where
  toList := registry.toList.map fun cls => (cls.name, cls.lineage config)
  sorted := List.pairwise_map.2 registry.sorted

/-- Mark the constructors of all classes. -/
def markConstructors (registry : Registry) (config : Config) : Registry :=
  registry.map (fun cls => cls.markConstructors config (registry.hierarchy config)) fun _ => rfl

/-- Attach metadata to the class of a name. -/
def attachTo (registry : Registry) (name : String) (metadata : Metadata) : Registry :=
  registry.map (fun cls => if cls.name = name then cls.attach metadata else cls) fun cls => by
    split <;> rfl

/-- Attach the metadata of classes, one after the other, and count the attributes. -/
def attachAll (registry : Registry) (metadata : List (String × Metadata)) : Registry × Nat :=
  metadata.foldl (fun (registry, declarations) (name, described) =>
    (registry.attachTo name described, declarations + described.size)) (registry, 0)

/-- The metadata of all classes, in order. -/
def metadata (registry : Registry) (config : Config) : Fallible (List (String × Metadata)) :=
  registry.toList.mapM fun cls => do
    ExceptT.lift (Logged.report (.annotating cls.name))
    return (cls.name, ← Metadata.ofClass config registry cls)

/-- Annotate all classes: all metadata is found before any is attached.  The registry
that it leaves is told in any case, and the number of attributes when no error ends it. -/
def annotate (registry : Registry) (config : Config) :
    Logged (Registry × Except GenerationError Nat) := do
  match ← ExceptT.run (registry.metadata config) with
  | .error error => return (registry, .error error)
  | .ok metadata =>
    let (attached, declarations) := registry.attachAll metadata
    return (attached.markConstructors config, .ok declarations)

end Registry

/-- The source files, each under a name. -/
abbrev SourceTree := NameMap SourceFile

namespace SourceTree

/-- The file of a name, which is empty when it is missing. -/
def file (tree : SourceTree) (name : String) : SourceFile :=
  ((tree.get? name).map Prod.snd).getD {}

/-- Merge a class into the file of its name; with the number of methods added. -/
def mergeClass (tree : SourceTree) (config : Config) (cls : Class) :
    Logged (SourceTree × MergeOutcome) := do
  let (file, outcome) ← cls.merge config (tree.file cls.name)
  return (tree.insert (cls.name, file), outcome)

end SourceTree

/-- What a generation works on. -/
structure Workspace where
  registry : Registry := ∅
  files : SourceTree := ∅
  deriving DecidableEq, Inhabited

/-- What a generation that has ended well has done. -/
structure Summary where
  classes : Nat
  properties : Nat
  declarations : Nat
  methodsAdded : Nat
  deriving DecidableEq, Repr, Inhabited

namespace Workspace

/-- Merge the classes of a registry into files, one after the other; with the number
of methods added. -/
def mergeAll (config : Config) (classes : List Class) (tree : SourceTree) :
    Logged (SourceTree × Nat) :=
  classes.foldlM (fun (tree, methods) cls => do
    let (tree, outcome) ← tree.mergeClass config cls
    return (tree, methods + outcome.methodsAdded)) (tree, 0)

/-- The number of properties of all classes. -/
def propertyCount (registry : Registry) : Nat :=
  registry.toList.foldl (fun count cls => count + cls.properties.size) 0

/-- Run a generation.  The workspace that it leaves is told in any case. -/
def generate (config : Config) (workspace : Workspace) :
    Logged (Workspace × Except GenerationError Summary) := do
  let adjusted ← workspace.registry.adjust config
  match ← adjusted.annotate config with
  | (registry, .error error) => return ({ workspace with registry := registry }, .error error)
  | (registry, .ok declarations) =>
    let (files, methods) ← mergeAll config registry.toList workspace.files
    Logged.report (.finished registry.size declarations methods)
    let summary : Summary :=
      { classes := registry.size
        properties := propertyCount registry
        declarations := declarations
        methodsAdded := methods }
    return ({ registry := registry, files := files }, .ok summary)

end Workspace

namespace Registry

/-- Merge one class of a registry into a file. -/
def mergeInto (registry : Registry) (config : Config) (className : String) (file : SourceFile) :
    Fallible (SourceFile × MergeOutcome) :=
  match registry.get? className with
  | none => throw (.unknownClass className)
  | some cls => ExceptT.lift (cls.merge config file)

end Registry

end EntityGen
