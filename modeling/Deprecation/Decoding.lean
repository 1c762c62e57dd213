import Deprecation.Decoding.Mismatch

/-!
Decoding of records from documents, for any document format.  A format says what one level of a
value looks like and how a choice among named variants is written; everything else is the same for
all formats.  A record is written as a mapping, whose fields are visited in ascending order of their
names, or as a sequence, whose items are the fields in the order of declaration.
-/

namespace Deprecation

inductive Layer (α : Type) where
  | null
  | boolean (value : Bool)
  | integer (value : Int)
  | float (text : String)
  | string (value : String)
  | sequence (items : List α)
  | mapping (fields : List (String × α))

def Layer.shape {α : Type} : Layer α → Shape
  | null => .null
  | boolean value => .boolean value
  | integer value => .integer value
  | float text => .float text
  | string value => .string value
  | sequence _ => .sequence
  | mapping _ => .mapping

/-- A document format: the levels of its values, and how it writes a choice among variants. -/
class Document (α : Type) where
  layer : α → Layer α
  choose {β : Type} (options : List (String × β)) (value : α) : Except Mismatch β

/-- A mismatch, with the field of a mapping that it was found in. -/
structure Fault where
  mismatch : Mismatch
  field : Option String := none
deriving DecidableEq, Repr

namespace Decoding

def chooseWord {β : Type} (options : List (String × β)) (word : String) : Except Mismatch β :=
  match options.lookup word with
  | some variant => .ok variant
  | none => .error (.unknownVariant word (options.map Prod.fst))

variable {α δ : Type}

/-- Fields in ascending order of their names. -/
def ascending (fields : List (String × α)) : List (String × α) :=
  fields.mergeSort fun first second => decide (first.1 ≤ second.1)

theorem perm_ascending (fields : List (String × α)) : (ascending fields).Perm fields :=
  List.mergeSort_perm _ _

@[simp] theorem mem_ascending {fields : List (String × α)} {field : String × α} :
    field ∈ ascending fields ↔ field ∈ fields :=
  (perm_ascending fields).mem_iff

/-- Visits fields one after the other.  The first mismatch ends the visit. -/
def visitFields (visit : δ → String → α → Except Mismatch δ) :
    δ → List (String × α) → Except Fault δ
  | draft, [] => .ok draft
  | draft, (name, value) :: rest =>
    match visit draft name value with
    | .error mismatch => .error ⟨mismatch, some name⟩
    | .ok draft => visitFields visit draft rest

def anonymous (result : Except Fault δ) : Except Fault δ :=
  result.mapError fun fault => ⟨fault.mismatch, none⟩

variable [Document α]

def boolean (value : α) : Except Mismatch Bool :=
  match Document.layer value with
  | .boolean truth => .ok truth
  | layer => .error (.wrongType layer.shape .boolean)

def string (value : α) : Except Mismatch String :=
  match Document.layer value with
  | .string text => .ok text
  | layer => .error (.wrongType layer.shape .string)

def optional {β : Type} (decode : α → Except Mismatch β) (value : α) :
    Except Mismatch (Option β) :=
  match Document.layer value with
  | .null => .ok none
  | _ => (decode value).map some

/-- Decodes a record.  A sequence has at least `required` items, and at most as many as there are
fields; its items are decoded before they are counted. -/
def record (name : String) (fieldNames : List String) (required : Nat)
    (visit : δ → String → α → Except Mismatch δ) (start : δ) (value : α) : Except Fault δ :=
  match Document.layer value with
  | .mapping fields => visitFields visit start (ascending fields)
  | .sequence items =>
    match anonymous (visitFields visit start (fieldNames.zip items)) with
    | .error fault => .error fault
    | .ok draft =>
      if items.length < required then
        .error ⟨.tooShort items.length name fieldNames.length, none⟩
      else if fieldNames.length < items.length then .error ⟨.tooLong items.length, none⟩
      else .ok draft
  | layer => .error ⟨.wrongType layer.shape (.record name), none⟩

end Decoding

end Deprecation
