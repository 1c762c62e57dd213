import Deprecation.Dict
import Deprecation.Emitter

/-!
Renaming of deprecated keyword arguments.  A renamer maps old names to new ones, pair after pair.
Before anything is renamed, all pairs are tried on the names alone; if some pair would meet both
its names, the call is refused and nothing has happened.  Otherwise each pair whose old name is
present shows a notice, and moves the value to the end under the new name.
-/

namespace Deprecation

/-- Keyword arguments, in the order in which the caller gave them. -/
abbrev KwArgs (α : Type) := Dict α

/-- The mapping from old to new argument names, and the details of the notices. -/
structure Renamer where
  version : String
  pairs : Dict String
  note : Option String := none
  stackLevel : UInt64
  route : Route := .shared

namespace Renamer

/-- The frames between an emitter and the caller of a renamed function, unless given otherwise. -/
def defaultStackLevel : UInt64 := 3

def notice (renamer : Renamer) (oldName newName : String) : Notice :=
  ⟨renamer.version, .argument, oldName, some .argument, some newName, renamer.note⟩

/-- The first pair, given as its old and its new name, that meets both its names when the pairs are
applied one after the other to the names alone.  A name that is mapped to itself is met twice. -/
def conflict? : List (String × String) → List String → Option (String × String)
  | [], _ => none
  | (oldName, newName) :: rest, names =>
    if oldName ∈ names then
      if newName ∈ names then some (oldName, newName)
      else conflict? rest (newName :: names.filter (· ≠ oldName))
    else conflict? rest names

/-- Applies one pair to the arguments: the value moves to the end, and the notice is shown. -/
def applyPair {α : Type} (renamer : Renamer) (emitter : Emitter) (function : String)
    (location : Location) (oldName newName : String) (value : α) (kwargs : KwArgs α)
    (state : State) : State × KwArgs α :=
  let state := state.log (.argumentRenamed function oldName newName)
  let state := emitter.warn (renamer.notice oldName newName) renamer.stackLevel location state
  (state, (kwargs.erase oldName).insert newName value)

/-- Applies pairs one after the other; a pair whose old name is absent changes nothing. -/
def applyPairs {α : Type} (renamer : Renamer) (emitter : Emitter) (function : String)
    (location : Location) :
    List (String × String) → KwArgs α → State → State × KwArgs α
  | [], kwargs, state => (state, kwargs)
  | (oldName, newName) :: rest, kwargs, state =>
    match kwargs.get? oldName with
    | none => applyPairs renamer emitter function location rest kwargs state
    | some value =>
      let (state, kwargs) :=
        renamer.applyPair emitter function location oldName newName value kwargs state
      applyPairs renamer emitter function location rest kwargs state

/-- What the caller holds once its arguments went through a renamer. -/
structure Outcome (α : Type) where
  state : State
  kwargs : KwArgs α
  error : Option Error := none

/-- Renames the arguments of a call of a function where they stand.  Without arguments nothing is
looked at, and a refused call leaves the state and the arguments as they are. -/
def renameInPlace {α : Type} (renamer : Renamer) (function : String) (location : Location)
    (kwargs : KwArgs α) (state : State) : Outcome α :=
  if kwargs.isEmpty then ⟨state, kwargs, none⟩
  else
    match conflict? renamer.pairs.entries kwargs.keys with
    | some (oldName, newName) =>
      ⟨state, kwargs, some (.conflictingArguments function newName oldName)⟩
    | none =>
      let (state, emitter) := state.resolve renamer.route
      let (state, kwargs) :=
        renamer.applyPairs emitter function location renamer.pairs.entries kwargs state
      ⟨state, kwargs, none⟩

/-- The renamed arguments, or the error of a refused call. -/
def Outcome.answer {α : Type} : Outcome α → State × Except Error (KwArgs α)
  | ⟨state, kwargs, none⟩ => (state, .ok kwargs)
  | ⟨state, _, some error⟩ => (state, .error error)

/-- Renames the arguments of a call of a function, and answers with the renamed ones. -/
def rename {α : Type} (renamer : Renamer) (function : String) (location : Location)
    (kwargs : KwArgs α) (state : State) : State × Except Error (KwArgs α) :=
  (renamer.renameInPlace function location kwargs state).answer

@[simp] theorem Outcome.answer_fst {α : Type} (outcome : Outcome α) :
    outcome.answer.1 = outcome.state := by
  obtain ⟨state, kwargs, _ | error⟩ := outcome <;> rfl

theorem renameInPlace_of_isEmpty {α : Type} (renamer : Renamer) (function : String)
    (location : Location) {kwargs : KwArgs α} (h : kwargs.isEmpty = true) (state : State) :
    renamer.renameInPlace function location kwargs state = ⟨state, kwargs, none⟩ := by
  simp [renameInPlace, h]

theorem renameInPlace_of_conflict {α : Type} (renamer : Renamer) (function : String)
    (location : Location) {kwargs : KwArgs α} (hkwargs : kwargs.isEmpty = false)
    {pair : String × String} (h : conflict? renamer.pairs.entries kwargs.keys = some pair)
    (state : State) :
    renamer.renameInPlace function location kwargs state =
      ⟨state, kwargs, some (.conflictingArguments function pair.2 pair.1)⟩ := by
  simp [renameInPlace, hkwargs, h]

theorem renameInPlace_of_accepted {α : Type} (renamer : Renamer) (function : String)
    (location : Location) {kwargs : KwArgs α} (hkwargs : kwargs.isEmpty = false)
    (h : conflict? renamer.pairs.entries kwargs.keys = none) (state : State) :
    renamer.renameInPlace function location kwargs state =
      let applied := renamer.applyPairs (state.resolve renamer.route).2 function location
        renamer.pairs.entries kwargs (state.resolve renamer.route).1
      ⟨applied.1, applied.2, none⟩ := by
  simp [renameInPlace, hkwargs, h]

end Renamer

end Deprecation
