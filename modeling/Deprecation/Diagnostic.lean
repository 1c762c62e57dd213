import Deprecation.Emitter
import Deprecation.Enumeration
import Deprecation.Text.Quoted

/-!
Diagnostic dumps: one-line descriptions of notices, registries, emitters and enumerations with the
names of their fields.
-/

namespace Deprecation.Diagnostic

def commaSeparated (parts : List String) : String :=
  String.intercalate ", " parts

def record (name : String) (fields : List (String × String)) : String :=
  name ++ " \x7b " ++
    commaSeparated (fields.map fun field => field.1 ++ ": " ++ field.2) ++ " \x7d"

def optional {α : Type} (describe : α → String) : Option α → String
  | none => "None"
  | some value => "Some(" ++ describe value ++ ")"

def ofNotice (notice : Notice) : String :=
  record "DeprecationRecord" [
    ("version", Text.quoted notice.version),
    ("old_type", notice.kind.label),
    ("old_name", Text.quoted notice.name),
    ("new_type", optional Kind.label notice.newKind),
    ("new_name", optional Text.quoted notice.newName),
    ("additional_msg", optional Text.quoted notice.note)]

/-- Describes a registry, with its notices in the order in which they were seen. -/
def ofRegistry (registry : Registry) : String :=
  let held := "\x7b" ++ commaSeparated (registry.notices.map ofNotice) ++ "\x7d"
  record "DeprecationRegistry" [("seen", record "Mutex" [("data", held)])]

/-- Describes an emitter; its sink stays hidden. -/
def ofEmitter (emitter : Emitter) (state : State) : String :=
  "Emitter \x7b registry: " ++ ofRegistry (state.registry emitter.registry) ++ ", enabled: " ++
    (if emitter.enabled then "true" else "false") ++ ", .. \x7d"

def ofEnumeration {α : Type} (enumeration : Enumeration α) : String :=
  record "DeprecatedEnumMeta" [
    ("enum_name", Text.quoted enumeration.name),
    ("members", "[" ++ commaSeparated (enumeration.members.map Member.name) ++ "]")]

end Deprecation.Diagnostic
