/-!
The kinds of program element that can be deprecated.  A kind is written as one lowercase word,
and reading a word back accepts exactly the seven words that are written.
-/

namespace Deprecation

inductive Kind where
  | package
  | enumeration
  | classType
  | method
  | function
  | argument
  | property
deriving DecidableEq, Repr, Inhabited

namespace Kind

/-- Every kind, in the order in which the kinds are listed to users. -/
def all : List Kind :=
  [package, enumeration, classType, method, function, argument, property]

def word : Kind → String
  | package => "package"
  | enumeration => "enum"
  | classType => "class"
  | method => "method"
  | function => "function"
  | argument => "argument"
  | property => "property"

def label : Kind → String
  | package => "Package"
  | enumeration => "Enum"
  | classType => "Class"
  | method => "Method"
  | function => "Function"
  | argument => "Argument"
  | property => "Property"

/-- Reads a kind from its word; no other spelling is accepted. -/
def ofWord? (text : String) : Option Kind :=
  all.find? fun kind => kind.word == text

/-- The position of a kind in `all`. -/
def index (kind : Kind) : Nat :=
  all.idxOf kind

theorem mem_all (kind : Kind) : kind ∈ all := by
  cases kind <;> decide

theorem word_injective {first second : Kind} (h : first.word = second.word) :
    first = second := by
  revert h
  cases first <;> cases second <;> decide

theorem word_ne_empty (kind : Kind) : kind.word ≠ "" := by
  cases kind <;> decide

theorem space_not_mem_word (kind : Kind) : ' ' ∉ kind.word.toList := by
  cases kind <;> decide

theorem period_not_mem_word (kind : Kind) : '.' ∉ kind.word.toList := by
  cases kind <;> decide

theorem ofWord?_word (kind : Kind) : ofWord? kind.word = some kind := by
  cases kind <;> decide

theorem ofWord?_eq_some_iff {text : String} {kind : Kind} :
    ofWord? text = some kind ↔ text = kind.word := by
  constructor
  · intro h
    have hword := List.find?_some h
    exact (beq_iff_eq.mp hword).symm
  · rintro rfl
    exact ofWord?_word kind

end Kind

end Deprecation
