import EntityGen.Config.Fault
import EntityGen.Json.Reader
import EntityGen.Table

/-!
# Decoders

A decoder makes a typed value of a JSON document, or tells what is wrong with the
document.  The parts of a document are decoded in their order, and the first
fault counts.
-/

namespace EntityGen.Config

open Json

/-- A way to make a value of a document. -/
abbrev Decoder (α : Type) := Document → Except Fault α

namespace Decoder

/-- What a document is, told without its parts. -/
def found : Document → Found
  | .unreadable | .null => .null
  | .bool value => .boolean value
  | .number value => .number value
  | .string value => .string value
  | .array _ => .sequence
  | .object _ => .map

/-- The fault of a document of a kind that does not belong there. -/
def mismatch (document : Document) (expected : Expected) : Fault :=
  match document with
  | .unreadable => .unreadable
  | document => .wrongKind (found document) expected

/-- A truth value. -/
def boolean : Decoder Bool
  | .bool value => .ok value
  | document => .error (mismatch document .boolean)

/-- A text. -/
def text : Decoder String
  | .string value => .ok value
  | document => .error (mismatch document .string)

/-- Something that may be absent, which `null` says. -/
def optional {α : Type} (decode : Decoder α) : Decoder (Option α)
  | .null => .ok none
  | document => (decode document).map some

/-- Any value. -/
def value : Decoder Value := fun document =>
  match document.value? with
  | some value => .ok value
  | none => .error .unreadable

/-- The elements of a sequence. -/
def sequence {α : Type} (decode : Decoder α) : Decoder (List α)
  | .array items => items.mapM decode
  | document => .error (mismatch document .sequence)

/-- The members of a map, repeated ones included. -/
def members {α : Type} (decode : Decoder α) : Decoder (List (String × α))
  | .object members => members.mapM fun (key, item) => (decode item).map fun a => (key, a)
  | document => .error (mismatch document .map)

/-- A map that keeps its order. -/
def arguments : Decoder (OrderedMap Value) := fun document =>
  (members value document).map OrderedMap.ofList

/-- A map from names, sorted by name. -/
def names {α : Type} (decode : Decoder α) : Decoder (NameMap α) := fun document =>
  (members decode document).map Table.ofList

/-- One of several named things: its name alone, or its name as the only key of a
map, with nothing under it. -/
def choice {α : Type} (all : List α) (name : α → String) : Decoder α :=
  let named (text : String) : Except Fault α :=
    match all.find? fun a => name a = text with
    | some a => .ok a
    | none => .error (.unknownChoice text (all.map name))
  fun
  | .string text => named text
  | .object [(key, content)] => do
    let a ← named key
    match content with
    | .null => return a
    | content => throw (mismatch content .unit)
  | .object _ => .error .notOneKey
  | document => .error (mismatch document .choice)

end Decoder

/-- A setting of a section: its name, and how it is decoded into the section. -/
structure Setting (ρ : Type) where
  name : String
  decode : ρ → Decoder ρ

namespace Setting

/-- A setting that is decoded by itself and then put into the section. -/
def of {ρ α : Type} (name : String) (decode : Decoder α) (put : ρ → α → ρ) : Setting ρ :=
  ⟨name, fun record document => (decode document).map (put record)⟩

end Setting

/-- A section of a configuration: its name, the section in which nothing is set,
and its settings in order. -/
structure Section (ρ : Type) where
  name : String
  initial : ρ
  settings : List (Setting ρ)

namespace Section

variable {ρ : Type}

/-- The section with some settings decoded, and their names. -/
structure Progress (ρ : Type) where
  record : ρ
  given : List String

/-- Decode one member of a section written as a map.  Members that are no settings
are skipped, whatever they hold. -/
def decodeMember (form : Section ρ) (progress : Progress ρ) (member : String × Document) :
    Except Fault (Progress ρ) :=
  match form.settings.find? fun setting => setting.name = member.1 with
  | none => .ok progress
  | some setting =>
    if setting.name ∈ progress.given then .error (.repeatedSetting setting.name)
    else
      (setting.decode progress.record member.2).map fun record =>
        ⟨record, setting.name :: progress.given⟩

/-- Decode a section: a map of settings by name, or a sequence of settings in
their order, of which the last ones may be missing. -/
def decode (form : Section ρ) : Decoder ρ
  | .object members =>
    (members.foldlM form.decodeMember ⟨form.initial, []⟩).map Progress.record
  | .array items => do
    let record ← (form.settings.zip items).foldlM
      (fun record (setting, item) => setting.decode record item) form.initial
    if form.settings.length < items.length then throw (.tooManyElements items.length)
    return record
  | document => .error (Decoder.mismatch document (.record form.name))

end Section

end EntityGen.Config
