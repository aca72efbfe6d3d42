import EntityGen.Config.Document
import EntityGen.Proofs.Results
import EntityGen.Proofs.Storing

/-!
# Layers of identifier settings

Identifier settings are looked up key by key: in the section of the class, in the global section,
and at last among the defaults (`Config.identifierFor_layered`).  A section of a class says
nothing about the keys that it does not mention, and nothing about other classes.

That a section holds what its members say is shown once for all sections (`Section.Holds`): it is
enough that the setting of a name is decoded into one part of the section, and that the other
settings leave this part alone.
-/

namespace EntityGen

/-! ## Places of a document -/

namespace Json

namespace Value

/-- The value of a member of an object; of a member that repeats, the last value. -/
def member? : Value → String → Option Value
  | .object members, key => members.reverse.lookup key
  | _, _ => none

/-- The value that a path of keys leads to. -/
def at? : Value → List String → Option Value
  | value, [] => some value
  | value, key :: path => (value.member? key).bind fun member => member.at? path

theorem at?_concat (value : Value) (path : List String) (key : String) :
    value.at? (path ++ [key]) = (value.at? path).bind fun found => found.member? key := by
  induction path generalizing value with
  | nil => exact Option.bind_fun_some _
  | cons first path ih =>
      rw [List.cons_append, at?, at?, Option.bind_assoc]
      exact congrArg (value.member? first).bind (funext ih)

theorem at?_singleton (value : Value) (key : String) : value.at? [key] = value.member? key :=
  Option.bind_fun_some _

/-- Whether a value is an object. -/
def isObject : Value → Bool
  | .object _ => true
  | _ => false

/-- What a document gives for an identifier setting of a class: the value in the section of the
class, unless that is missing or `null`; else the value in the global section. -/
def identifierSetting? (document : Value) (className key : String) : Option Value :=
  ((document.at? ["types", className, "pk", key]).filter (· ≠ .null)).or
    (document.at? ["id", key])

theorem at?_global (document : Value) (key : String) :
    document.at? ["id", key] = (document.at? ["id"]).bind fun found => found.member? key :=
  document.at?_concat ["id"] key

theorem at?_override (document : Value) (className key : String) :
    document.at? ["types", className, "pk", key] =
      (document.at? ["types", className, "pk"]).bind fun found => found.member? key :=
  document.at?_concat ["types", className, "pk"] key

/-- What is given for a class depends on the global section and on that of the class. -/
theorem identifierSetting?_congr {document other : Value} {className : String}
    (global : document.at? ["id"] = other.at? ["id"])
    (override : document.at? ["types", className, "pk"] = other.at? ["types", className, "pk"]) :
    document.identifierSetting? className = other.identifierSetting? className := by
  funext key
  rw [identifierSetting?, identifierSetting?, at?_override, at?_override, at?_global, at?_global,
    global, override]

/-- The sections in which the identifier settings of a class are looked up are written as objects,
so far as they are there; that of the class may be `null` as well. -/
structure HasSections (document : Value) (className : String) : Prop where
  object : ∀ path ∈ [[], ["id"], ["types", className]], ∀ value ∈ document.at? path, value.isObject
  override : ∀ value ∈ document.at? ["types", className, "pk"], value = .null ∨ value.isObject

end Value

end Json

namespace Config

open Json

/-- What is set is what the given value spells, or the default when no value is given. -/
def Follows {α : Type} (Spells : Value → α → Prop) (default : α) (given : Option Value) (a : α) :
    Prop :=
  given.elim (a = default) fun value => Spells value a

/-- A value spells the name of one of several things: by itself, or as the only key of an object
with nothing under it. -/
def SpellsName {α : Type} (name : α → String) (value : Value) (a : α) : Prop :=
  value = .string (name a) ∨ value = .object [(name a, .null)]

/-- Identifier settings are those that are given, and the default where none is given. -/
structure Identifier.Follows (given : String → Option Value) (settings : Identifier) : Prop where
  generate : Config.Follows (fun value flag => value = .bool flag) true (given "generate")
    settings.generate
  strategy : Config.Follows (SpellsName IdentifierStrategy.name) .auto (given "generationStrategy")
    settings.strategy
  writable : Config.Follows (fun value flag => value = .bool flag) false (given "writable")
    settings.writable
  placement : Config.Follows (SpellsName IdentifierPlacement.name) .child (given "onClass")
    settings.placement
  name : Config.Follows (fun value text => value = .string text) "id" (given "name") settings.name

/-! ## Sections -/

/-- A decoder makes something of the document that a value is written as. -/
def Decoder.Reads {α : Type} (decode : Decoder α) (value : Value) (a : α) : Prop :=
  decode (.ofValue value) = .ok a

namespace Setting

variable {ρ α β : Type} {get : ρ → α}

/-- A setting is decoded into a part of its section. -/
def Sets (setting : Setting ρ) (decode : Decoder α) (get : ρ → α) : Prop :=
  ∀ record document result, setting.decode record document = .ok result →
    decode document = .ok (get result)

/-- A setting leaves a part of its section alone. -/
def Keeps (setting : Setting ρ) (get : ρ → α) : Prop :=
  ∀ record document result, setting.decode record document = .ok result →
    get result = get record

@[simp] theorem name_of (name : String) (decode : Decoder α) (put : ρ → α → ρ) :
    (Setting.of name decode put).name = name := rfl

@[simp] theorem sets_of {name : String} {decode : Decoder α} {put : ρ → α → ρ}
    (put_get : ∀ record a, get (put record a) = a) :
    (Setting.of name decode put).Sets decode get := by
  intro record document result decoded
  obtain ⟨a, read, rfl⟩ := map_eq_ok.mp decoded
  rw [read, put_get]

@[simp] theorem keeps_of {name : String} {decode : Decoder β} {put : ρ → β → ρ}
    (put_get : ∀ record b, get (put record b) = get record) :
    (Setting.of name decode put).Keeps get := by
  intro record document result decoded
  obtain ⟨b, -, rfl⟩ := map_eq_ok.mp decoded
  exact put_get record b

end Setting

namespace Section

variable {ρ α : Type} {form : Section ρ} {name : String} {decode : Decoder α} {get : ρ → α}

/-- The setting of a name is decoded into a part of the section, and the other settings leave that
part alone. -/
structure Holds (form : Section ρ) (name : String) (decode : Decoder α) (get : ρ → α) :
    Prop where
  known : name ∈ form.settings.map Setting.name
  sets : ∀ setting ∈ form.settings, setting.name = name → setting.Sets decode get
  keeps : ∀ setting ∈ form.settings, setting.name ≠ name → setting.Keeps get

/-- One member sets the part of the section that its name stands for, and no other part. -/
theorem Holds.decodeMember (holds : form.Holds name decode get) {key : String} {value : Value}
    {before after : Progress ρ}
    (decoded : form.decodeMember before (key, .ofValue value) = .ok after) :
    if key = name then decode.Reads value (get after.record)
    else get after.record = get before.record := by
  rw [Section.decodeMember] at decoded
  cases found : form.settings.find? fun setting => setting.name = key with
  | none =>
      rw [found] at decoded
      cases decoded
      rw [if_neg]
      rintro rfl
      obtain ⟨setting, member, named⟩ := List.mem_map.mp holds.known
      have other := List.find?_eq_none.mp found setting member
      exact other (decide_eq_true named)
  | some setting =>
      have member := List.mem_of_find?_eq_some found
      have named : setting.name = key := by simpa using List.find?_some found
      rw [found] at decoded
      simp only at decoded
      split at decoded
      · cases decoded
      · obtain ⟨record, decodedSetting, rfl⟩ := map_eq_ok.mp decoded
        split
        next same => exact holds.sets setting member (named.trans same) _ _ _ decodedSetting
        next other =>
          refine holds.keeps setting member ?_ _ _ _ decodedSetting
          rwa [named]

/-- After all members are decoded, a part of the section is what the last member of its name
says. -/
theorem Holds.decodeMembers (holds : form.Holds name decode get) {members : List (String × Value)}
    {before after : Progress ρ}
    (decoded : (Document.ofMembers members).foldlM form.decodeMember before = .ok after) :
    Follows decode.Reads (get before.record) (members.reverse.lookup name) (get after.record) := by
  induction members generalizing before with
  | nil =>
      cases decoded
      rfl
  | cons member rest ih =>
      obtain ⟨key, value⟩ := member
      obtain ⟨next, decodedFirst, decodedRest⟩ := bind_eq_ok.mp decoded
      have first := holds.decodeMember decodedFirst
      have later := ih decodedRest
      rw [List.reverse_cons, List.lookup_append]
      cases given : rest.reverse.lookup name with
      | some value =>
          rw [given] at later
          exact later
      | none =>
          rw [given] at later
          have kept : get after.record = get next.record := later
          rw [Option.none_or, kept]
          split at first
          next same =>
            subst same
            rw [List.lookup_cons_self]
            exact first
          next other =>
            rw [List.lookup_cons, beq_false_of_ne (Ne.symm other)]
            exact first

/-- A section that is written as an object holds what its members say, and what it holds at first
where they say nothing. -/
theorem Holds.follows (holds : form.Holds name decode get) {value : Value} {record : ρ}
    (isObject : value.isObject) (decoded : form.decode (.ofValue value) = .ok record) :
    Follows decode.Reads (get form.initial) (value.member? name) (get record) := by
  cases value with
  | object members =>
      obtain ⟨after, decodedMembers, rfl⟩ := map_eq_ok.mp decoded
      exact holds.decodeMembers decodedMembers
  | _ => cases isObject

end Section

namespace Decoder

variable {α : Type} {decode : Decoder α}

/-- Of a member that repeats, the last one is found. -/
theorem reads_members {members : List (String × Value)} {entries : List (String × α)}
    (decoded : Decoder.members decode (.object (Document.ofMembers members)) = .ok entries)
    (name : String) :
    Option.Rel decode.Reads (members.reverse.lookup name)
      ((entries.reverse.find? fun entry => entry.1 = name).map Prod.snd) := by
  induction members generalizing entries with
  | nil =>
      cases decoded
      exact .none
  | cons member rest ih =>
      obtain ⟨key, value⟩ := member
      obtain ⟨entry, following, decodedFirst, decodedRest, rfl⟩ := mapM_cons_eq_ok.mp decoded
      obtain ⟨a, read, rfl⟩ := map_eq_ok.mp decodedFirst
      rw [List.reverse_cons, List.reverse_cons, List.lookup_append, List.find?_append,
        Option.map_or]
      refine rel_or (ih decodedRest) ?_
      by_cases same : key = name
      · subst same
        simp only [List.lookup_cons_self, List.find?_cons, decide_true]
        exact .some read
      · simp only [List.lookup_cons, beq_false_of_ne (Ne.symm same), List.find?_cons, same,
          decide_false]
        exact .none

/-- What a map holds under a name is made of the last member of the name. -/
theorem reads_names {value : Value} {table : NameMap α}
    (decoded : (names decode).Reads value table) (name : String) :
    Option.Rel decode.Reads (value.member? name) ((table.get? name).map Prod.snd) := by
  obtain ⟨entries, decodedMembers, rfl⟩ := map_eq_ok.mp decoded
  cases value with
  | object members =>
      have absent : (∅ : NameMap α).get? name = none := rfl
      rw [Table.ofList, Table.get?_insertAll, absent, Option.or_none]
      exact reads_members decodedMembers name
  | _ => cases decodedMembers

/-- What may be absent is made of a value other than `null`. -/
theorem rel_optional {given : Option Value} {found : Option α}
    (follows : Follows (optional decode).Reads none given found) :
    Option.Rel decode.Reads (given.filter (· ≠ .null)) found := by
  cases given with
  | none =>
      cases follows
      exact .none
  | some value =>
      cases value with
      | null =>
          cases follows
          exact .none
      | _ =>
          obtain ⟨a, read, rfl⟩ := map_eq_ok.mp follows
          exact .some read

theorem reads_boolean {value : Value} {flag : Bool} (decoded : boolean.Reads value flag) :
    value = .bool flag := by
  cases value <;> cases decoded
  rfl

theorem reads_text {value : Value} {text : String} (decoded : Decoder.text.Reads value text) :
    value = .string text := by
  cases value <;> cases decoded
  rfl

theorem name_of_choice {all : List α} {name : α → String} {text : String} {a : α}
    (chosen : choice all name (.string text) = .ok a) : name a = text := by
  simp only [choice] at chosen
  split at chosen
  next found =>
    cases chosen
    simpa using List.find?_some found
  next => cases chosen

theorem reads_choice {all : List α} {name : α → String} {value : Value} {a : α}
    (decoded : (choice all name).Reads value a) : SpellsName name value a := by
  cases value with
  | string text => exact .inl (congrArg Value.string (name_of_choice decoded).symm)
  | object members =>
      cases members with
      | nil => cases decoded
      | cons member rest =>
          cases rest with
          | cons second rest => cases decoded
          | nil =>
              obtain ⟨b, chosen, ended⟩ := bind_eq_ok.mp decoded
              obtain ⟨key, content⟩ := member
              cases content with
              | null =>
                  cases ended
                  have named : name a = key := name_of_choice chosen
                  rw [← named]
                  exact .inr rfl
              | _ => cases ended
  | _ => cases decoded

end Decoder

/-! ## Layers -/

section

variable {α : Type} {Spells Names : Value → α → Prop} {default a b : α} {given : Option Value}

theorem Follows.imp (implies : ∀ value a, Spells value a → Names value a)
    (follows : Follows Spells default given a) : Follows Names default given a := by
  cases given with
  | none => exact follows
  | some value => exact implies value a follows

/-- What a layer spells comes before what is set below it. -/
theorem Follows.layer {own : Option Value} {found : Option α}
    (below : Follows Spells default given a) (above : Option.Rel Spells own found) :
    Follows Spells default (own.or given) (found.getD a) := by
  cases above with
  | some spelled => exact spelled
  | none => exact below

theorem Follows.unique (tells : ∀ value a b, Spells value a → Spells value b → a = b)
    (first : Follows Spells default given a) (second : Follows Spells default given b) :
    a = b := by
  cases given with
  | none => exact Eq.trans first (Eq.symm second)
  | some value => exact tells value a b first second

end

theorem SpellsName.unique {α : Type} {name : α → String} (tells : ∀ a b, name a = name b → a = b)
    (value : Value) (a b : α) (first : SpellsName name value a)
    (second : SpellsName name value b) : a = b := by
  rcases first with rfl | rfl <;> rcases second with same | same
  · exact tells a b (Value.string.inj same)
  · cases same
  · cases same
  · exact tells a b (by simpa using same)

/-- A key of the identifier settings: where it is held in the global section and in that of a
class, where what is set is laid over the global setting. -/
structure Layered {α : Type} (key : String) (decode : Decoder α) (get : Identifier → α)
    (change : IdentifierOverride → Option α) : Prop where
  holds : Section.identifier.Holds key decode get
  holdsChange : Section.identifierOverride.Holds key (.optional decode) change
  unset : change Section.identifierOverride.initial = none
  overlay : ∀ settings changes,
    get (settings.overlay changes) = (change changes).getD (get settings)

theorem layered_generate :
    Layered "generate" Decoder.boolean Identifier.generate IdentifierOverride.generate where
  holds := by constructor <;> simp [Section.identifier]
  holdsChange := by constructor <;> simp [Section.identifierOverride]
  unset := rfl
  overlay _ _ := rfl

theorem layered_strategy :
    Layered "generationStrategy" (Decoder.choice IdentifierStrategy.all (·.name))
      Identifier.strategy IdentifierOverride.strategy where
  holds := by constructor <;> simp [Section.identifier]
  holdsChange := by constructor <;> simp [Section.identifierOverride]
  unset := rfl
  overlay _ _ := rfl

theorem layered_writable :
    Layered "writable" Decoder.boolean Identifier.writable IdentifierOverride.writable where
  holds := by constructor <;> simp [Section.identifier]
  holdsChange := by constructor <;> simp [Section.identifierOverride]
  unset := rfl
  overlay _ _ := rfl

theorem layered_placement :
    Layered "onClass" (Decoder.choice IdentifierPlacement.choices (·.name))
      Identifier.placement IdentifierOverride.placement where
  holds := by constructor <;> simp [Section.identifier]
  holdsChange := by constructor <;> simp [Section.identifierOverride]
  unset := rfl
  overlay _ _ := rfl

theorem layered_name : Layered "name" Decoder.text Identifier.name IdentifierOverride.name where
  holds := by constructor <;> simp [Section.identifier]
  holdsChange := by constructor <;> simp [Section.identifierOverride]
  unset := rfl
  overlay _ _ := rfl

variable {document : Value} {config : Config} {className : String}

theorem decode_of_ofValue (accepted : ofValue document = .ok config) :
    Section.config.decode (.ofValue document) = .ok config := by
  rw [ofValue, ofDocument] at accepted
  cases decoded : Section.config.decode (.ofValue document) with
  | error fault =>
      rw [decoded] at accepted
      cases accepted
  | ok result =>
      rw [decoded] at accepted
      cases accepted
      rfl

theorem holds_id : Section.config.Holds "id" Section.identifier.decode Config.identifier := by
  constructor <;> simp [Section.config]

theorem holds_types :
    Section.config.Holds "types" (.names Section.classSettings.decode) Config.classes := by
  constructor <;> simp [Section.config]

theorem holds_pk :
    Section.classSettings.Holds "pk" (.optional Section.identifierOverride.decode)
      ClassSettings.identifier := by
  constructor <;> simp [Section.classSettings]

section

variable {α : Type} {key : String} {decode : Decoder α} {get : Identifier → α}
  {change : IdentifierOverride → Option α} (accepted : ofValue document = .ok config)
  (sections : document.HasSections className)
include accepted sections

/-- A global setting is what the global section says. -/
theorem Layered.follows_global (layered : Layered key decode get change) :
    Follows decode.Reads (get {}) (document.at? ["id", key]) (get config.identifier) := by
  have root := sections.object [] (by simp) document rfl
  have held := holds_id.follows root (decode_of_ofValue accepted)
  have single := document.at?_singleton "id"
  rw [Value.at?_global, single]
  cases found : document.member? "id" with
  | none =>
      rw [found] at held
      exact congrArg get held
  | some value =>
      rw [found] at held
      exact layered.holds.follows (sections.object ["id"] (by simp) value (single.trans found)) held

/-- The settings of a class are what its section says. -/
theorem rel_class? :
    Option.Rel Section.classSettings.decode.Reads (document.at? ["types", className])
      (config.class? className) := by
  have root := sections.object [] (by simp) document rfl
  have held := holds_types.follows root (decode_of_ofValue accepted)
  have path : document.at? ["types", className] =
      (document.member? "types").bind fun found => found.member? className := by
    rw [← document.at?_singleton "types"]
    exact document.at?_concat ["types"] className
  rw [path]
  cases found : document.member? "types" with
  | none =>
      rw [found] at held
      have none : config.classes = ∅ := held
      rw [class?, none]
      exact .none
  | some value =>
      rw [found] at held
      exact Decoder.reads_names held className

/-- The identifier settings of a class are what its section of them says. -/
theorem rel_override :
    Option.Rel Section.identifierOverride.decode.Reads
      ((document.at? ["types", className, "pk"]).filter (· ≠ .null))
      ((config.class? className).bind ClassSettings.identifier) := by
  have path : (document.at? ["types", className, "pk"]).filter (· ≠ .null) =
      (document.at? ["types", className]).bind fun found =>
        (found.member? "pk").filter (· ≠ .null) := by
    have split : document.at? ["types", className, "pk"] =
        (document.at? ["types", className]).bind fun found => found.member? "pk" :=
      document.at?_concat ["types", className] "pk"
    rw [split]
    cases document.at? ["types", className] <;> rfl
  rw [path]
  refine rel_bind (rel_class? accepted sections) fun value found settings reads => ?_
  exact Decoder.rel_optional (holds_pk.follows (sections.object _ (by simp) value found) reads)

/-- What is set for a class is what its section says. -/
theorem Layered.rel_change (layered : Layered key decode get change) :
    Option.Rel decode.Reads
      ((document.at? ["types", className, "pk", key]).filter (· ≠ .null))
      (((config.class? className).bind ClassSettings.identifier).bind change) := by
  have path : (document.at? ["types", className, "pk", key]).filter (· ≠ .null) =
      ((document.at? ["types", className, "pk"]).filter (· ≠ .null)).bind fun found =>
        (found.member? key).filter (· ≠ .null) := by
    rw [Value.at?_override]
    cases document.at? ["types", className, "pk"] with
    | none => rfl
    | some value => cases value <;> rfl
  rw [path]
  refine rel_bind (rel_override accepted sections) fun value found changes reads => ?_
  obtain ⟨given, other⟩ := Option.mem_filter_iff.mp found
  have isObject := (sections.override value given).resolve_left (of_decide_eq_true other)
  have held := layered.holdsChange.follows isObject reads
  rw [layered.unset] at held
  exact Decoder.rel_optional held

/-- What is set for a class is what the document gives, or the default. -/
theorem Layered.follows (layered : Layered key decode get change) :
    Follows decode.Reads (get {}) (document.identifierSetting? className key)
      (get (config.identifierFor className)) := by
  have layers : get (config.identifierFor className) =
      (((config.class? className).bind ClassSettings.identifier).bind change).getD
        (get config.identifier) := by
    rw [identifierFor]
    cases (config.class? className).bind ClassSettings.identifier with
    | none => rfl
    | some changes => exact layered.overlay config.identifier changes
  rw [layers]
  exact (layered.follows_global accepted sections).layer (layered.rel_change accepted sections)

/-- The settings that hold for a class are those that the document gives, or the defaults. -/
theorem follows_identifierFor :
    (config.identifierFor className).Follows (document.identifierSetting? className) where
  generate := (layered_generate.follows accepted sections).imp fun _ _ => Decoder.reads_boolean
  strategy := (layered_strategy.follows accepted sections).imp fun _ _ => Decoder.reads_choice
  writable := (layered_writable.follows accepted sections).imp fun _ _ => Decoder.reads_boolean
  placement := (layered_placement.follows accepted sections).imp fun _ _ => Decoder.reads_choice
  name := (layered_name.follows accepted sections).imp fun _ _ => Decoder.reads_text

end

/-- What is given tells all identifier settings. -/
theorem Identifier.Follows.unique {given : String → Option Value} {first second : Identifier}
    (isFirst : first.Follows given) (isSecond : second.Follows given) : first = second := by
  have flags (value : Value) (a b : Bool) (isFirst : value = .bool a) (isSecond : value = .bool b) :
      a = b := Value.bool.inj (isFirst.symm.trans isSecond)
  have texts (value : Value) (a b : String) (isFirst : value = .string a)
      (isSecond : value = .string b) : a = b := Value.string.inj (isFirst.symm.trans isSecond)
  have strategies (a b : IdentifierStrategy) : a.name = b.name → a = b := by
    cases a <;> cases b <;> decide
  have placements (a b : IdentifierPlacement) : a.name = b.name → a = b := by
    cases a <;> cases b <;> decide
  have generate := isFirst.generate.unique flags isSecond.generate
  have strategy := isFirst.strategy.unique (SpellsName.unique strategies) isSecond.strategy
  have writable := isFirst.writable.unique flags isSecond.writable
  have placement := isFirst.placement.unique (SpellsName.unique placements) isSecond.placement
  have name := isFirst.name.unique texts isSecond.name
  cases first
  cases second
  simp_all

/-- The identifier settings of a class are layered key by key: each is the one that the section of
the class gives, else the one that the global section gives, else the default.  A document with
the same two sections gives the class the same settings, whatever it says about other classes. -/
theorem identifierFor_layered (accepted : ofValue document = .ok config)
    (sections : document.HasSections className) :
    (∀ settings : Identifier,
      settings.Follows (document.identifierSetting? className) ↔
        settings = config.identifierFor className) ∧
    ∀ other otherConfig, ofValue other = .ok otherConfig → other.HasSections className →
      other.at? ["id"] = document.at? ["id"] →
      other.at? ["types", className, "pk"] = document.at? ["types", className, "pk"] →
        otherConfig.identifierFor className = config.identifierFor className := by
  have follows := follows_identifierFor accepted sections
  refine ⟨fun settings => ⟨fun given => given.unique follows, ?_⟩, ?_⟩
  · rintro rfl
    exact follows
  · intro other otherConfig acceptedOther sectionsOther global override
    have followsOther := follows_identifierFor acceptedOther sectionsOther
    rw [Value.identifierSetting?_congr global override] at followsOther
    exact followsOther.unique follows

/-- A section of a class mentions one key with a value, and one with `null`. -/
theorem identifierFor_layered_book :
    let document : Value :=
      .object
        [("id", .object [("generationStrategy", .string "uuid"), ("writable", .bool false)]),
          ("types", .object
            [("Book", .object [("pk", .object [("writable", .bool true), ("name", .null)])]),
              ("Person", .object [("pk", .object [("name", .string "number")])])])]
    document.HasSections "Book" ∧
      ∃ config, ofValue document = .ok config ∧
        config.identifierFor "Book" =
          { generate := true, strategy := .uuid, writable := true, placement := .child,
            name := "id" } := by
  intro document
  let config := (ofValue document).toOption.getD {}
  have accepted : ofValue document = .ok config := by
    apply eq_ok_of_toOption
    decide +kernel
  have sections : document.HasSections "Book" := ⟨by decide +kernel, by decide +kernel⟩
  have layered := (identifierFor_layered accepted sections).1
  refine ⟨sections, config, accepted, ((layered _).mp ?_).symm⟩
  exact
    { generate := rfl
      strategy := .inl rfl
      writable := rfl
      placement := rfl
      name := rfl }

/-- A section may be written as a sequence of settings as well, where no key is looked up. -/
example :
    (ofValue (.object [("id", .array [.bool false])])).toOption.map (·.identifier.generate) =
      some false := by
  decide +kernel

end Config

end EntityGen
