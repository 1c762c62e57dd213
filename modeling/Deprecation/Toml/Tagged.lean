import Deprecation.Toml

/-!
Moments written as tables.  A table whose first key is the reserved key stands for the moment whose
text that key holds, and what else the table holds does not count.  Resolving puts every such moment
in the place of its table, and fails where the reserved key holds anything but the text of a moment.
The keys of a document itself are not reserved.
-/

namespace Deprecation.Toml

/-- The key that marks a table as a moment. -/
def momentKey : String := "$__toml_private_datetime"

def momentOf? : Toml → Option Moment
  | string text => Moment.ofText? text
  | _ => none

mutual

/-- The value with all moments in the places of their tables. -/
def resolve : Toml → Option Toml
  | array items => (resolveItems items).map array
  | table entries =>
    match entries with
    | [] => some (table [])
    | (key, value) :: rest =>
      if key = momentKey then (momentOf? value).map moment
      else do
        let value ← resolve value
        let rest ← resolveEntries rest
        return table ((key, value) :: rest)
  | value => some value

def resolveItems : List Toml → Option (List Toml)
  | [] => some []
  | item :: rest => do
    let item ← resolve item
    let rest ← resolveItems rest
    return item :: rest

def resolveEntries : List (String × Toml) → Option (List (String × Toml))
  | [] => some []
  | (key, value) :: rest => do
    let value ← resolve value
    let rest ← resolveEntries rest
    return (key, value) :: rest

end

theorem map_fst_of_resolveEntries {entries resolved : List (String × Toml)}
    (h : resolveEntries entries = some resolved) :
    resolved.map Prod.fst = entries.map Prod.fst := by
  induction entries generalizing resolved with
  | nil =>
    obtain rfl : [] = resolved := by simpa [resolveEntries] using h
    rfl
  | cons entry rest ih =>
    simp only [resolveEntries, Option.bind_eq_bind, Option.bind_eq_some_iff, Option.pure_def,
      Option.some.injEq] at h
    obtain ⟨value, -, others, hothers, rfl⟩ := h
    simp [ih hothers]

end Deprecation.Toml
