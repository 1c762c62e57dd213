import Deprecation.Toml.Number
import Deprecation.Toml.Tagged
import Deprecation.Toml.Text
import Deprecation.Toml.Tree

/-!
Reading TOML documents.  A document is a sequence of lines: blank, a comment, a header, or a key
with its value.  The reader answers the entries of the top table, and `none` for a text that is not
a document.
-/

namespace Deprecation.Toml

def splitKey? (parts : List String) : Option (List String × String) :=
  parts.getLast?.map fun last => (parts.dropLast, last)

def readAssignedKey? (text : List Char) : Option ((List String × String) × List Char) := do
  let (parts, rest) ← readKey? (depthLimit - 1) text
  let key ← splitKey? parts
  match rest with
  | '=' :: rest => return (key, skipBlanks rest)
  | _ => none

mutual

/-- Reads a value that may hold further values to the given depth.  Each step of the reader uses
one unit of fuel. -/
def readValue? : Nat → Nat → List Char → Option (Toml × List Char)
  | 0, _, _ => none
  | fuel + 1, depth, text =>
    match text with
    | [] => none
    | '"' :: _ => (readString? text).map fun (value, rest) => (.string value, rest)
    | '\'' :: _ => (readString? text).map fun (value, rest) => (.string value, rest)
    | '[' :: rest =>
      match depth with
      | 0 => none
      | depth + 1 => do
        match ← skipGaps? fuel rest with
        | ']' :: rest => return (.array [], rest)
        | rest => readItems? fuel depth [] rest
    | '\x7b' :: rest =>
      match depth with
      | 0 => none
      | depth + 1 =>
        match skipBlanks rest with
        | '\x7d' :: rest => some (.table [], rest)
        | rest => readEntries? fuel depth [] rest
    | 't' :: 'r' :: 'u' :: 'e' :: rest => some (.boolean true, rest)
    | 'f' :: 'a' :: 'l' :: 's' :: 'e' :: rest => some (.boolean false, rest)
    | c :: _ =>
      if c = 'i' ∨ c = 'n' then readNamedFloat? text
      else if c = '+' ∨ c = '-' ∨ c.isDigit then readScalar? text
      else none

/-- Reads the items of an array up to its closing bracket.  `items` holds the items read so far,
the last one first. -/
def readItems? : Nat → Nat → List Toml → List Char → Option (Toml × List Char)
  | 0, _, _, _ => none
  | fuel + 1, depth, items, text => do
    let (item, rest) ← readValue? fuel depth text
    match ← skipGaps? fuel rest with
    | ']' :: rest => return (.array (item :: items).reverse, rest)
    | ',' :: rest =>
      match ← skipGaps? fuel rest with
      | ']' :: rest => return (.array (item :: items).reverse, rest)
      | rest => readItems? fuel depth (item :: items) rest
    | _ => none

def readEntries? : Nat → Nat → Entries → List Char → Option (Toml × List Char)
  | 0, _, _, _ => none
  | fuel + 1, depth, entries, text => do
    let ((path, key), rest) ← readAssignedKey? text
    let (value, rest) ← readValue? fuel depth rest
    let entries ← entries.addValue path key value
    match skipBlanks rest with
    | '\x7d' :: rest => return (.table (entriesToToml entries), rest)
    | ',' :: rest => readEntries? fuel depth entries rest
    | _ => none

end

/-- What has been read of a document: its entries, and the name of the table that the next keys
belong to. -/
structure Progress where
  entries : Entries := []
  header : List String := []

/-- Reads one statement, which starts with neither a blank nor a line end.  The fuel is that for
the value of a key. -/
def readStatement? (fuel : Nat) (progress : Progress) (text : List Char) :
    Option (Progress × List Char) :=
  match text with
  | '#' :: _ => (finishLine? text).map fun rest => (progress, rest)
  | '[' :: '[' :: rest => do
    let (parts, rest) ← readKey? (depthLimit - 1) rest
    let (path, key) ← splitKey? parts
    match rest with
    | ']' :: ']' :: rest =>
      let entries ← progress.entries.addElement path key
      return (⟨entries, parts⟩, ← finishLine? rest)
    | _ => none
  | '[' :: rest => do
    let (parts, rest) ← readKey? (depthLimit - 1) rest
    let (path, key) ← splitKey? parts
    match rest with
    | ']' :: rest =>
      let entries ← progress.entries.addTable path key
      return (⟨entries, parts⟩, ← finishLine? rest)
    | _ => none
  | _ => do
    let ((path, key), rest) ← readAssignedKey? text
    let (value, rest) ← readValue? fuel (depthLimit - 1) rest
    let entries ← progress.entries.addBelow progress.header path key value
    return ({ progress with entries }, ← finishLine? rest)

/-- Reads statements to the end of the text.  A statement, or a line without one, uses one unit of
fuel, so that twice the length of the text is always left for what is still to be read. -/
def readStatements? : Nat → Progress → List Char → Option Progress
  | 0, _, _ => none
  | fuel + 1, progress, text =>
    match skipBlanks text with
    | [] => some progress
    | rest =>
      match lineEnd? rest with
      | some rest => readStatements? fuel progress rest
      | none => do
        let (progress, rest) ← readStatement? fuel progress rest
        readStatements? fuel progress rest

def dropMark (text : List Char) : List Char :=
  match text with
  | '\ufeff' :: rest => rest
  | _ => text

def read? (text : String) : Option (List (String × Toml)) := do
  let chars := dropMark text.toList
  let progress ← readStatements? (2 * chars.length + 3) {} chars
  resolveEntries (entriesToToml progress.entries)

end Deprecation.Toml
