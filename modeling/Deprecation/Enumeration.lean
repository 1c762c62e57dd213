import Deprecation.Emitter

/-!
Enumerations whose members announce their own deprecation.  Every access to a member through its
enumeration fires the hook of that member, each time anew; looking at an enumeration without taking
a member fires nothing.
-/

namespace Deprecation

/-- A member: its name, its value, and what happens when it is accessed. -/
structure Member (α : Type) where
  name : String
  value : α
  hook : State → State

/-- An enumeration: its members in the order of declaration, no two of one name, and how a value is
displayed. -/
structure Enumeration (α : Type) where
  name : String
  members : List (Member α)
  display : α → String
  nodup : (members.map Member.name).Nodup

namespace Enumeration

variable {α : Type} (enumeration : Enumeration α)

/-- Accesses a member: the access is logged, then the hook fires. -/
def access (member : Member α) (state : State) : State :=
  let state := state.log (.memberAccessed enumeration.name member.name)
  member.hook (state.note (.hookFired enumeration.name member.name))

/-- The member of a name, without an access. -/
def find? (name : String) : Option (Member α) :=
  enumeration.members.find? fun member => member.name == name

/-- Accesses a member that is at hand.  It is found again by its name; one that the enumeration
does not have is answered without an access. -/
def byMember (member : Member α) (state : State) : State × Member α :=
  match enumeration.find? member.name with
  | some found => (enumeration.access found state, found)
  | none => (state, member)

def byName (name : String) (state : State) : State × Except Error (Member α) :=
  match enumeration.find? name with
  | some found => (enumeration.access found state, .ok found)
  | none => (state, .error (.unknownMemberName enumeration.name name))

def byValue [BEq α] (value : α) (state : State) : State × Except Error (Member α) :=
  match enumeration.members.find? fun member => member.value == value with
  | some found => (enumeration.access found state, .ok found)
  | none =>
    (state, .error (.unknownMemberValue enumeration.name (enumeration.display value)))

/-- Accesses every member, in the order of declaration. -/
def list (state : State) : State × List (Member α) :=
  (enumeration.members.foldl (fun state member => enumeration.access member state) state,
    enumeration.members)

def size : Nat :=
  enumeration.members.length

def isEmpty : Bool :=
  enumeration.members.isEmpty

end Enumeration

end Deprecation
