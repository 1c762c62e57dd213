import Deprecation.Text.Digits
import Deprecation.Toml.Attempt

/-!
Dates and times in TOML: a date, a time, or both, the latter with an optional offset from universal
time.  Reading refuses days that the calendar does not have; writing gives two digits to every
field but the year and the fraction of a second.
-/

namespace Deprecation.Toml

structure Date where
  year : Nat
  month : Nat
  day : Nat
deriving DecidableEq, Repr

structure Time where
  hour : Nat
  minute : Nat
  second : Nat
  nanosecond : Nat
deriving DecidableEq, Repr

/-- The distance from universal time. -/
inductive Offset where
  | universal
  | minutes (count : Int)
deriving DecidableEq, Repr

/-- A point in time, as far as it is given. -/
inductive Moment where
  | date (date : Date)
  | time (time : Time)
  | dateTime (date : Date) (time : Time) (offset : Option Offset)
deriving DecidableEq, Repr

def padded (width n : Nat) : List Char :=
  let digits := Nat.toDigits 10 n
  List.replicate (width - digits.length) '0' ++ digits

namespace Date

def isLeapYear (year : Nat) : Bool :=
  year % 4 == 0 && (year % 100 != 0 || year % 400 == 0)

def daysIn (year month : Nat) : Nat :=
  if month = 2 then if isLeapYear year then 29 else 28
  else if month = 4 ∨ month = 6 ∨ month = 9 ∨ month = 11 then 30
  else 31

def text (date : Date) : List Char :=
  padded 4 date.year ++ '-' :: padded 2 date.month ++ '-' :: padded 2 date.day

end Date

/-- The text of a time; the fraction of a second loses the zeros at its end. -/
def Time.text (time : Time) : List Char :=
  padded 2 time.hour ++ ':' :: padded 2 time.minute ++ ':' :: padded 2 time.second ++
    if time.nanosecond = 0 then []
    else '.' :: ((padded 9 time.nanosecond).reverse.dropWhile (· == '0')).reverse

def Offset.text : Offset → List Char
  | universal => ['Z']
  | minutes count =>
    (if count < 0 then '-' else '+') ::
      padded 2 (count.natAbs / 60) ++ ':' :: padded 2 (count.natAbs % 60)

def Moment.text : Moment → String
  | .date day => String.ofList day.text
  | .time clock => String.ofList clock.text
  | .dateTime day clock offset =>
    String.ofList (day.text ++ 'T' :: clock.text ++ (offset.map Offset.text).getD [])

def twoDigits? : List Char → Option (Nat × List Char)
  | a :: b :: rest =>
    if a.isDigit && b.isDigit then some (Text.valueInBase 10 [a, b], rest) else none
  | _ => none

def field? (least most : Nat) (text : List Char) : Option (Nat × List Char) := do
  let (value, rest) ← twoDigits? text
  if least ≤ value ∧ value ≤ most then return (value, rest) else none

def expect? (c : Char) : List Char → Option (List Char)
  | [] => none
  | d :: rest => if c = d then some rest else none

/-- Reads the fraction of a second, if there is one, to nine digits. -/
def readFraction (text : List Char) : Nat × List Char :=
  match text with
  | '.' :: rest =>
    let digits := rest.takeWhile Char.isDigit
    if digits.isEmpty then (0, text)
    else
      let kept := digits.take 9
      (Text.valueInBase 10 kept * Nat.pow 10 (9 - kept.length), rest.dropWhile Char.isDigit)
  | _ => (0, text)

/-- Reads a time.  Once an hour and a colon are read, the rest has to follow. -/
def readTime (text : List Char) : Attempt Time :=
  match field? 0 23 text with
  | some (hour, ':' :: rest) =>
    .ofOption do
      let (minute, rest) ← field? 0 59 rest
      let rest ← expect? ':' rest
      let (second, rest) ← field? 0 60 rest
      let (nanosecond, rest) := readFraction rest
      return (⟨hour, minute, second, nanosecond⟩, rest)
  | _ => .absent

/-- Reads a date.  Once a year and a dash are read, the rest has to follow. -/
def readDate (text : List Char) : Attempt Date :=
  let year := text.take 4
  match text.drop 4 with
  | '-' :: rest =>
    if year.all Char.isDigit then
      .ofOption do
        let (month, rest) ← field? 1 12 rest
        let rest ← expect? '-' rest
        let (day, rest) ← field? 1 31 rest
        let date : Date := ⟨Text.valueInBase 10 year, month, day⟩
        if day ≤ Date.daysIn date.year month then return (date, rest) else none
    else .absent
  | _ => .absent

def readOffset (text : List Char) : Attempt Offset :=
  match text with
  | [] => .absent
  | c :: rest =>
    if c = 'Z' ∨ c = 'z' then .found .universal rest
    else if c = '+' ∨ c = '-' then
      .ofOption do
        let (hours, rest) ← field? 0 23 rest
        let rest ← expect? ':' rest
        let (minutes, rest) ← field? 0 59 rest
        let count : Int := (hours * 60 + minutes : Nat)
        return (.minutes (if c = '-' then -count else count), rest)
    else .absent

/-- Reads a moment.  A date is followed by a time after one separator, or stands alone. -/
def readMoment (text : List Char) : Attempt Moment :=
  match readDate text with
  | .wrong => .wrong
  | .absent =>
    match readTime text with
    | .wrong => .wrong
    | .absent => .absent
    | .found time rest => .found (.time time) rest
  | .found date rest =>
    match rest with
    | [] => .found (.date date) rest
    | c :: afterMark =>
      if c = 'T' ∨ c = 't' ∨ c = ' ' then
        match readTime afterMark with
        | .wrong => .wrong
        | .absent => .found (.date date) rest
        | .found time rest =>
          match readOffset rest with
          | .wrong => .wrong
          | .absent => .found (.dateTime date time none) rest
          | .found offset rest => .found (.dateTime date time (some offset)) rest
      else .found (.date date) rest

def Moment.ofText? (text : String) : Option Moment :=
  match readMoment text.toList with
  | .found moment [] => some moment
  | _ => none

end Deprecation.Toml
