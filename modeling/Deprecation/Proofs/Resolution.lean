import Deprecation.Proofs.Hooks

/-!
Which member an access to an enumeration resolves to.  Names are unique, so that a member is found
again by its name whatever else the enumeration holds.  Values may repeat, so that a value resolves
to the first member that has it, and a later member of the same value is not found by it.
-/

namespace Deprecation

namespace Enumeration

variable {α : Type} (enumeration : Enumeration α)

/-- The first member, in the order of declaration, whose value equals the given one. -/
def IsFirstOf [BEq α] (value : α) (member : Member α) : Prop :=
  ∃ before after, enumeration.members = before ++ member :: after ∧
    (member.value == value) = true ∧ ∀ earlier ∈ before, (earlier.value == value) = false

/-- Accesses the given members one after the other, each as a member at hand. -/
def byMembers : List (Member α) → State → State × List (Member α)
  | [], state => (state, [])
  | member :: rest, state =>
      let (state, found) := enumeration.byMember member state
      let (state, others) := byMembers rest state
      (state, found :: others)

variable {enumeration}

theorem find?_eq_some_iff {name : String} {member : Member α} :
    enumeration.find? name = some member ↔ member ∈ enumeration.members ∧ member.name = name := by
  constructor
  · intro h
    have hname := List.find?_some h
    exact ⟨List.mem_of_find?_eq_some h, beq_iff_eq.mp hname⟩
  · rintro ⟨hmember, rfl⟩
    exact find?_name_of_mem hmember

theorem find?_eq_none_iff {name : String} :
    enumeration.find? name = none ↔ ∀ member ∈ enumeration.members, member.name ≠ name := by
  simp [find?]

theorem byMember_of_mem {member : Member α} (h : member ∈ enumeration.members) (state : State) :
    enumeration.byMember member state = (enumeration.access member state, member) := by
  rw [byMember, find?_name_of_mem h]

theorem byName_of_mem {member : Member α} (h : member ∈ enumeration.members) (state : State) :
    enumeration.byName member.name state = (enumeration.access member state, .ok member) := by
  rw [byName, find?_name_of_mem h]

theorem byName_snd (name : String) (state : State) :
    (enumeration.byName name state).2 =
      (enumeration.find? name).elim (.error (.unknownMemberName enumeration.name name)) .ok := by
  rw [byName]
  cases enumeration.find? name <;> rfl

theorem byName_eq_ok_iff {name : String} {member : Member α} {state : State} :
    (enumeration.byName name state).2 = .ok member ↔
      member ∈ enumeration.members ∧ member.name = name := by
  rw [byName_snd, ← find?_eq_some_iff]
  cases enumeration.find? name <;> simp

theorem byName_eq_error_iff {name : String} {error : Error} {state : State} :
    (enumeration.byName name state).2 = .error error ↔
      error = .unknownMemberName enumeration.name name ∧
        ∀ member ∈ enumeration.members, member.name ≠ name := by
  rw [byName_snd, ← find?_eq_none_iff]
  cases enumeration.find? name <;> simp [eq_comm]

theorem byMembers_of_subset {members : List (Member α)}
    (h : ∀ member ∈ members, member ∈ enumeration.members) (state : State) :
    enumeration.byMembers members state =
      (members.foldl (fun state member => enumeration.access member state) state, members) := by
  induction members generalizing state with
  | nil => rfl
  | cons member rest ih =>
      rw [List.forall_mem_cons] at h
      rw [byMembers, byMember_of_mem h.1]
      change ((enumeration.byMembers rest _).1, member :: (enumeration.byMembers rest _).2) = _
      rw [ih h.2]
      rfl

section

variable [BEq α]

theorem byValue_snd (value : α) (state : State) :
    (enumeration.byValue value state).2 =
      (enumeration.members.find? fun member => member.value == value).elim
        (.error (.unknownMemberValue enumeration.name (enumeration.display value))) .ok := by
  rw [byValue]
  cases enumeration.members.find? fun member => member.value == value <;> rfl

theorem byValue_eq_ok_iff {value : α} {member : Member α} {state : State} :
    (enumeration.byValue value state).2 = .ok member ↔ enumeration.IsFirstOf value member := by
  have hfirst : (enumeration.members.find? fun other => other.value == value) = some member ↔
      enumeration.IsFirstOf value member := by
    rw [List.find?_eq_some_iff_append]
    constructor
    · rintro ⟨hvalue, before, after, hsplit, hearlier⟩
      exact ⟨before, after, hsplit, hvalue, by simpa using hearlier⟩
    · rintro ⟨before, after, hsplit, hvalue, hearlier⟩
      exact ⟨hvalue, before, after, hsplit, by simpa using hearlier⟩
  rw [byValue_snd, ← hfirst]
  cases enumeration.members.find? fun other => other.value == value <;> simp

theorem byValue_eq_error_iff {value : α} {error : Error} {state : State} :
    (enumeration.byValue value state).2 = .error error ↔
      error = .unknownMemberValue enumeration.name (enumeration.display value) ∧
        ∀ member ∈ enumeration.members, (member.value == value) = false := by
  have habsent : (enumeration.members.find? fun other => other.value == value) = none ↔
      ∀ member ∈ enumeration.members, (member.value == value) = false := by
    simp
  rw [byValue_snd, ← habsent]
  cases enumeration.members.find? fun other => other.value == value <;> simp [eq_comm]

theorem byValue_value_iff [ReflBEq α] {before after : List (Member α)} {member : Member α}
    (hsplit : enumeration.members = before ++ member :: after) (state : State) :
    (enumeration.byValue member.value state).2 = .ok member ↔
      ∀ earlier ∈ before, (earlier.value == member.value) = false := by
  rw [byValue_eq_ok_iff]
  constructor
  · rintro ⟨front, back, hother, -, hearlier⟩
    -- a member stands in one place only
    have hnodup : enumeration.members.Nodup := List.Nodup.of_map Member.name enumeration.nodup
    rw [hsplit, List.nodup_middle, List.nodup_cons, List.mem_append, not_or] at hnodup
    obtain ⟨⟨hbefore, hafter⟩, -⟩ := hnodup
    obtain ⟨rfl, -, -⟩ :=
      (List.append_cons_inj_of_notMem hbefore hafter).mp (hsplit.symm.trans hother)
    exact hearlier
  · intro hearlier
    exact ⟨before, after, hsplit, BEq.rfl, hearlier⟩

end

end Enumeration

/-- What the accesses to an enumeration resolve to, in any state.  A declared member is found again,
as a member at hand and by its name, and then its own hook fires; a name resolves to the member that
has it, and fails if there is none.  A value resolves to the first declared member that has it, and
fails if there is none; so a member is found by its own value unless an earlier one has it as well.
Listing answers the members in the order of declaration, as accessing one after the other does, and
the size is their number. -/
theorem members_resolved {α : Type} [BEq α] [ReflBEq α] (enumeration : Enumeration α)
    (state : State) :
    (∀ member ∈ enumeration.members,
        enumeration.find? member.name = some member ∧
          enumeration.byMember member state = (enumeration.access member state, member) ∧
          enumeration.byName member.name state = (enumeration.access member state, .ok member)) ∧
      (∀ name,
        (∀ member, (enumeration.byName name state).2 = .ok member ↔
            member ∈ enumeration.members ∧ member.name = name) ∧
          ∀ error, (enumeration.byName name state).2 = .error error ↔
            error = .unknownMemberName enumeration.name name ∧
              ∀ member ∈ enumeration.members, member.name ≠ name) ∧
      (∀ value,
        (∀ member, (enumeration.byValue value state).2 = .ok member ↔
            enumeration.IsFirstOf value member) ∧
          ∀ error, (enumeration.byValue value state).2 = .error error ↔
            error = .unknownMemberValue enumeration.name (enumeration.display value) ∧
              ∀ member ∈ enumeration.members, (member.value == value) = false) ∧
      (∀ before member after, enumeration.members = before ++ member :: after →
        ((enumeration.byValue member.value state).2 = .ok member ↔
          ∀ earlier ∈ before, (earlier.value == member.value) = false)) ∧
      (enumeration.list state).2 = enumeration.members ∧
      enumeration.list state = enumeration.byMembers enumeration.members state ∧
      enumeration.size = enumeration.members.length := by
  refine ⟨?_, ?_, ?_, ?_, rfl, ?_, rfl⟩
  · intro member h
    exact ⟨Enumeration.find?_name_of_mem h, Enumeration.byMember_of_mem h state,
      Enumeration.byName_of_mem h state⟩
  · exact fun name => ⟨fun member => Enumeration.byName_eq_ok_iff,
      fun error => Enumeration.byName_eq_error_iff⟩
  · exact fun value => ⟨fun member => Enumeration.byValue_eq_ok_iff,
      fun error => Enumeration.byValue_eq_error_iff⟩
  · exact fun before member after hsplit => Enumeration.byValue_value_iff hsplit state
  · exact (Enumeration.byMembers_of_subset (fun _ h => h) state).symm

/-- Of two levels of one value the first is found by it, and both are found by their names. -/
theorem level_aliases_resolved :
    let level (name : String) (value : Int) : Member Int := ⟨name, value, id⟩
    let levels : Enumeration Int :=
      ⟨"Level", [level "Low" (-1), level "Alias" (-1), level "Zero" 0], toString, by decide⟩
    (levels.byName "Alias" {}).2 = .ok (level "Alias" (-1)) ∧
      (levels.byValue (-1) {}).2 = .ok (level "Low" (-1)) ∧
      (levels.byValue (-1) {}).2 ≠ .ok (level "Alias" (-1)) ∧
      (levels.byValue 7 {}).2 = .error (.unknownMemberValue "Level" "7") := by
  intro level levels
  obtain ⟨-, hname, hvalue, hown, -⟩ := members_resolved levels {}
  refine ⟨?_, ?_, ?_, ?_⟩
  · exact ((hname "Alias").1 _).mpr ⟨.tail _ (.head _), rfl⟩
  · exact (hown [] (level "Low" (-1)) _ rfl).mpr (List.forall_mem_nil _)
  · intro h
    have hearlier := (hown [level "Low" (-1)] (level "Alias" (-1)) _ rfl).mp h _ (.head _)
    exact absurd hearlier (by decide)
  · exact ((hvalue 7).2 _).mpr ⟨rfl, by decide⟩

end Deprecation
