import Deprecation.Json.Document
import Deprecation.Notice

/-!
Notices as JSON.  A notice is written as an object with all six fields, in ascending order of their
names, and null for a field that is missing.  It is read from such an object, in which null and a
missing field mean the same and unknown fields mean nothing, or from the list of its six fields in
the order of declaration.
-/

namespace Deprecation

/-- The word of each kind, with the kind. -/
def Kind.options : List (String × Kind) :=
  Kind.all.map fun kind => (kind.word, kind)

namespace Notice

def encode (notice : Notice) : Json :=
  .object [
    ("additional_msg", .ofText? notice.note),
    ("new_name", .ofText? notice.newName),
    ("new_type", .ofText? (notice.newKind.map Kind.word)),
    ("old_name", .string notice.name),
    ("old_type", .string notice.kind.word),
    ("version", .string notice.version)]

/-- The fields of a notice as far as they have been read. -/
structure Draft where
  version : Option String := none
  kind : Option Kind := none
  name : Option String := none
  newKind : Option Kind := none
  newName : Option String := none
  note : Option String := none
deriving DecidableEq, Repr

def fieldNames : List String :=
  ["version", "old_type", "old_name", "new_type", "new_name", "additional_msg"]

/-- Reads one field; an unknown one is skipped. -/
def Draft.visit {α : Type} [Document α] (draft : Draft) (field : String) (value : α) :
    Except Mismatch Draft :=
  match field with
  | "version" => (Decoding.string value).map fun text => { draft with version := some text }
  | "old_type" =>
    (Document.choose Kind.options value).map fun kind => { draft with kind := some kind }
  | "old_name" => (Decoding.string value).map fun text => { draft with name := some text }
  | "new_type" =>
    (Decoding.optional (Document.choose Kind.options) value).map
      fun kind => { draft with newKind := kind }
  | "new_name" =>
    (Decoding.optional Decoding.string value).map fun text => { draft with newName := text }
  | "additional_msg" =>
    (Decoding.optional Decoding.string value).map fun text => { draft with note := text }
  | _ => .ok draft

/-- The notice of a draft.  Of the fields that are needed, the first missing one is reported. -/
def Draft.finish (draft : Draft) : Except Mismatch Notice :=
  match draft.version, draft.kind, draft.name with
  | none, _, _ => .error (.missingField "version")
  | some _, none, _ => .error (.missingField "old_type")
  | some _, some _, none => .error (.missingField "old_name")
  | some version, some kind, some name =>
    .ok ⟨version, kind, name, draft.newKind, draft.newName, draft.note⟩

def typeName : String := "DeprecationRecord"

def decode {α : Type} [Document α] (value : α) : Except Mismatch Notice :=
  match Decoding.record typeName fieldNames fieldNames.length Draft.visit {} value with
  | .error fault => .error fault.mismatch
  | .ok draft => draft.finish

end Notice

end Deprecation
