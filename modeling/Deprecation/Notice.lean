import Deprecation.Kind

/-!
Deprecation notices and the sentence that announces one.  A notice is its six fields and nothing
else: two notices with equal fields are the same notice.  The sentence names the replacement only
when it has both a kind and a non-empty name, and it always ends with a period.
-/

namespace Deprecation

/-- The element to use instead of a deprecated one. -/
structure Replacement where
  kind : Kind
  name : String
deriving DecidableEq, Repr, Inhabited

/-- A single deprecation notice.  The kind and the name of the replacement are given separately,
and either may be missing; a field that is present but empty is not a missing field. -/
structure Notice where
  version : String
  kind : Kind
  name : String
  newKind : Option Kind := none
  newName : Option String := none
  note : Option String := none
deriving DecidableEq, Repr, Inhabited

/-- The sentence without its last period: the element, the replacement if one is given, and the
note unless it is empty. -/
def openSentence (version : String) (kind : Kind) (name : String)
    (replacement : Option Replacement) (note : Option String) : String :=
  "The " ++ name ++ " " ++ kind.word ++ " is deprecated as of version " ++ version ++
    " and will be removed no sooner than 3 months after the release" ++
    (match replacement with
      | none => ""
      | some new => ". Instead use the " ++ new.name ++ " " ++ new.kind.word) ++
    (match note with
      | none => ""
      | some text => if text = "" then "" else " " ++ text)

def closeSentence (text : String) : String :=
  if text.toList.getLast? = some '.' then text else text ++ "."

/-- The whole sentence, with the replacement exactly as it is given. -/
def sentence (version : String) (kind : Kind) (name : String)
    (replacement : Option Replacement) (note : Option String) : String :=
  closeSentence (openSentence version kind name replacement note)

namespace Notice

def withReplacement (notice : Notice) (kind : Kind) (name : String) : Notice :=
  { notice with newKind := some kind, newName := some name }

def withNote (notice : Notice) (note : String) : Notice :=
  { notice with note := some note }

/-- The replacement that the text of a notice shows: it has a kind and a non-empty name. -/
def replacement? (notice : Notice) : Option Replacement :=
  match notice.newKind, notice.newName with
  | some kind, some name => if name = "" then none else some ⟨kind, name⟩
  | _, _ => none

def text (notice : Notice) : String :=
  sentence notice.version notice.kind notice.name notice.replacement? notice.note

end Notice

end Deprecation
