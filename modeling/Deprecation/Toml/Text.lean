import Deprecation.Text.Digits
import Deprecation.Toml

/-!
Blanks, comments, line ends, keys and strings in TOML text.  Each reader answers what it has read
together with the rest of the text, and `none` when the grammar is broken.
-/

namespace Deprecation.Toml

def isCommentChar (c : Char) : Bool :=
  c == '\t' || (0x20 ≤ c.toNat && c.toNat ≤ 0x7e) || 0x80 ≤ c.toNat

def isBasicChar (c : Char) : Bool :=
  isCommentChar c && c != '"' && c != '\\'

def isLiteralChar (c : Char) : Bool :=
  isCommentChar c && c != '\''

def isBareKeyChar (c : Char) : Bool :=
  c.isAlphanum || c == '-' || c == '_'

def skipBlanks (text : List Char) : List Char :=
  text.dropWhile fun c => c == ' ' || c == '\t'

def skipComment (text : List Char) : List Char :=
  match text with
  | '#' :: rest => rest.dropWhile isCommentChar
  | _ => text

def lineEnd? (text : List Char) : Option (List Char) :=
  match text with
  | '\n' :: rest => some rest
  | '\r' :: '\n' :: rest => some rest
  | _ => none

/-- Reads what may follow a statement on its line, up to the next line or the end of the text. -/
def finishLine? (text : List Char) : Option (List Char) :=
  match skipComment (skipBlanks text) with
  | [] => some []
  | rest => lineEnd? rest

/-- Skips blanks, comments and line ends.  A comment has to end with its line. -/
def skipGaps? : Nat → List Char → Option (List Char)
  | 0, _ => none
  | fuel + 1, text =>
    match skipBlanks text with
    | '#' :: rest => (lineEnd? (rest.dropWhile isCommentChar)).bind (skipGaps? fuel)
    | rest =>
      match lineEnd? rest with
      | some rest => skipGaps? fuel rest
      | none => some rest

def shortEscape? (c : Char) : Option Char :=
  match c with
  | 'b' => some '\x08'
  | 't' => some '\t'
  | 'n' => some '\n'
  | 'f' => some '\x0c'
  | 'r' => some '\r'
  | '"' => some '"'
  | '\\' => some '\\'
  | _ => none

def readBasic? (chars : List Char) : List Char → Option (String × List Char)
  | [] => none
  | '"' :: rest => some (String.ofList chars.reverse, rest)
  | '\\' :: 'u' :: a :: b :: c :: d :: rest => do
    let char ← Text.scalar? [a, b, c, d]
    readBasic? (char :: chars) rest
  | '\\' :: 'U' :: a :: b :: c :: d :: e :: f :: g :: h :: rest => do
    let char ← Text.scalar? [a, b, c, d, e, f, g, h]
    readBasic? (char :: chars) rest
  | '\\' :: c :: rest => do
    let char ← shortEscape? c
    readBasic? (char :: chars) rest
  | c :: rest => if isBasicChar c then readBasic? (c :: chars) rest else none

def readLiteral? (text : List Char) : Option (String × List Char) :=
  match text.dropWhile isLiteralChar with
  | '\'' :: rest => some (String.ofList (text.takeWhile isLiteralChar), rest)
  | _ => none

/-- What a run of quotes inside a string of several lines means: part of the text, or its end, with
so many quotes of the text before the end. -/
inductive QuoteRun where
  | content
  | closing (kept : Nat)
  | tooLong

def QuoteRun.ofLength (length : Nat) : QuoteRun :=
  if length < 3 then content else if length < 6 then closing (length - 3) else tooLong

/-- Where the reader stands inside a basic string of several lines: in its text, after a backslash
that has to be followed by a line end, or among the blanks after that line end. -/
inductive FoldState where
  | inText
  | beforeLineEnd
  | afterLineEnd
deriving DecidableEq

/-- Reads the rest of a basic string of several lines, up to its closing quotes.  `quotes` counts
the quotes just before the text at hand, which `chars` does not hold yet. -/
def readBasicLines? (state : FoldState) (quotes : Nat) (chars : List Char) :
    List Char → Option (String × List Char)
  | [] =>
    match QuoteRun.ofLength quotes with
    | .closing kept => some (String.ofList (List.replicate kept '"' ++ chars).reverse, [])
    | _ => none
  | '"' :: rest =>
    if state = .beforeLineEnd then none else readBasicLines? .inText (quotes + 1) chars rest
  | c :: rest =>
    match QuoteRun.ofLength quotes with
    | .tooLong => none
    | .closing kept =>
      some (String.ofList (List.replicate kept '"' ++ chars).reverse, c :: rest)
    | .content =>
      let chars := List.replicate quotes '"' ++ chars
      match state with
      | .beforeLineEnd =>
        if c = ' ' ∨ c = '\t' then readBasicLines? .beforeLineEnd 0 chars rest
        else if c = '\n' then readBasicLines? .afterLineEnd 0 chars rest
        else
          match c, rest with
          | '\r', '\n' :: rest => readBasicLines? .afterLineEnd 0 chars rest
          | _, _ => none
      | _ =>
        if state = .afterLineEnd ∧ (c = ' ' ∨ c = '\t' ∨ c = '\n') then
          readBasicLines? .afterLineEnd 0 chars rest
        else
          match c, rest with
          | '\n', rest => readBasicLines? .inText 0 ('\n' :: chars) rest
          | '\r', '\n' :: rest =>
            if state = .afterLineEnd then readBasicLines? .afterLineEnd 0 chars rest
            else readBasicLines? .inText 0 ('\n' :: chars) rest
          | '\\', 'u' :: a :: b :: c :: d :: rest => do
            let char ← Text.scalar? [a, b, c, d]
            readBasicLines? .inText 0 (char :: chars) rest
          | '\\', 'U' :: a :: b :: c :: d :: e :: f :: g :: h :: rest => do
            let char ← Text.scalar? [a, b, c, d, e, f, g, h]
            readBasicLines? .inText 0 (char :: chars) rest
          | '\\', d :: rest =>
            match shortEscape? d with
            | some char => readBasicLines? .inText 0 (char :: chars) rest
            | none => readBasicLines? .beforeLineEnd 0 chars (d :: rest)
          | c, rest =>
            if isBasicChar c then readBasicLines? .inText 0 (c :: chars) rest else none

/-- Reads the rest of a literal string of several lines, up to its closing quotes. -/
def readLiteralLines? (quotes : Nat) (chars : List Char) :
    List Char → Option (String × List Char)
  | [] =>
    match QuoteRun.ofLength quotes with
    | .closing kept => some (String.ofList (List.replicate kept '\'' ++ chars).reverse, [])
    | _ => none
  | '\'' :: rest => readLiteralLines? (quotes + 1) chars rest
  | c :: rest =>
    match QuoteRun.ofLength quotes with
    | .tooLong => none
    | .closing kept =>
      some (String.ofList (List.replicate kept '\'' ++ chars).reverse, c :: rest)
    | .content =>
      let chars := List.replicate quotes '\'' ++ chars
      match c, rest with
      | '\n', rest => readLiteralLines? 0 ('\n' :: chars) rest
      | '\r', '\n' :: rest => readLiteralLines? 0 ('\n' :: chars) rest
      | c, rest => if isLiteralChar c then readLiteralLines? 0 (c :: chars) rest else none

def dropFirstLineEnd (text : List Char) : List Char :=
  (lineEnd? text).getD text

/-- Reads a string of any of the four forms; `none` also when the text starts with no quote. -/
def readString? (text : List Char) : Option (String × List Char) :=
  match text with
  | '"' :: '"' :: '"' :: rest => readBasicLines? .inText 0 [] (dropFirstLineEnd rest)
  | '"' :: rest => readBasic? [] rest
  | '\'' :: '\'' :: '\'' :: rest => readLiteralLines? 0 [] (dropFirstLineEnd rest)
  | '\'' :: rest => readLiteral? rest
  | _ => none

def readKeyPart? (text : List Char) : Option (String × List Char) :=
  match text with
  | '"' :: rest => readBasic? [] rest
  | '\'' :: rest => readLiteral? rest
  | _ =>
    match text.takeWhile isBareKeyChar with
    | [] => none
    | chars => some (String.ofList chars, text.dropWhile isBareKeyChar)

/-- The number of parts that a key may not reach, and the depth that values may not reach. -/
def depthLimit : Nat := 80

/-- Reads a key: parts between dots, blanks around them skipped.  The limit on the number of parts
is the fuel. -/
def readKey? : Nat → List Char → Option (List String × List Char)
  | 0, _ => none
  | fuel + 1, text => do
    let (part, rest) ← readKeyPart? (skipBlanks text)
    match skipBlanks rest with
    | '.' :: rest =>
      let (parts, rest) ← readKey? fuel rest
      return (part :: parts, rest)
    | rest => return ([part], rest)

end Deprecation.Toml
