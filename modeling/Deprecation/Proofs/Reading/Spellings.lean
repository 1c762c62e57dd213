import Deprecation.Proofs.Reading.Notices
import Deprecation.Registry

/-!
Writing notices and reading them back.  A notice may be spelled in several ways: with or without its
fields that are null, with further fields, with a kind as a word or as the only key of an object,
and as the list of its values.  All spellings are read as the same notice, and since the written
form is one of them, writing tells notices apart.
-/

namespace Deprecation

namespace Notice

/-- The fields of an object that spell a notice: those that it is written with, in any order,
without some that are null, with some that are unknown, and with kinds as keys of objects. -/
inductive IsSpelling (notice : Notice) : List (String × Json) → Prop
  | encoded {fields : List (String × Json)} (h : notice.encode = .object fields) :
      IsSpelling notice fields
  | reordered {fields others : List (String × Json)} (h : IsSpelling notice fields)
      (hperm : fields.Perm others) : IsSpelling notice others
  | withoutNull {name : String} {fields : List (String × Json)}
      (h : IsSpelling notice ((name, .null) :: fields)) : IsSpelling notice fields
  | withUnknown {name : String} {fields : List (String × Json)} (h : IsSpelling notice fields)
      (hunknown : name ∉ fieldNames) (hnew : name ∉ fields.map Prod.fst) (value : Json) :
      IsSpelling notice ((name, value) :: fields)
  | tagged {name word : String} {fields : List (String × Json)}
      (h : IsSpelling notice ((name, .string word) :: fields))
      (hkind : name ∈ ["old_type", "new_type"]) :
      IsSpelling notice ((name, .object [(word, .null)]) :: fields)

/-- Reads a notice and writes it again. -/
def rewrite (value : Json) : Except Mismatch Json :=
  (decode value).map encode

variable {notice : Notice} {fields : List (String × Json)}

theorem isSaidBy_of_encode (h : notice.encode = .object fields) : notice.IsSaidBy fields := by
  obtain rfl := Json.object.inj h
  obtain ⟨version, kind, name, newKind, newName, note⟩ := notice
  refine ⟨⟨_, rfl, rfl⟩, ⟨_, rfl, Or.inl rfl⟩, ⟨_, rfl, rfl⟩, ?_, ?_, ?_⟩
  · cases newKind with
    | none => rfl
    | some kind => exact Or.inl rfl
  · cases newName <;> rfl
  · cases note <;> rfl

theorem IsSaidBy.of_cons_null {name : String} (hname : name ∉ fields.map Prod.fst)
    (h : notice.IsSaidBy ((name, .null) :: fields)) : notice.IsSaidBy fields := by
  have hrequired : ∀ {β : Type} {Means : Json → β → Prop} {key : String} {result : β},
      (¬ Means .null result) →
      (∃ value, ((name, .null) :: fields).lookup key = some value ∧ Means value result) →
      ∃ value, fields.lookup key = some value ∧ Means value result := by
    rintro β Means key result hnull ⟨value, hvalue, hmeans⟩
    by_cases hkey : key = name
    · subst hkey
      rw [List.lookup_cons_self] at hvalue
      exact absurd (Option.some.inj hvalue ▸ hmeans) hnull
    · rw [Decoding.lookup_cons_of_ne hkey] at hvalue
      exact ⟨value, hvalue, hmeans⟩
  have hoptional : ∀ {β : Type} {Means : Json → β → Prop} {key : String} {result : Option β},
      (∀ result, ¬ Means .null result) →
      Decoding.IsReadAs (Json.OrNull Means) none (((name, .null) :: fields).lookup key) result →
      Decoding.IsReadAs (Json.OrNull Means) none (fields.lookup key) result := by
    intro β Means key result hnull hread
    by_cases hkey : key = name
    · subst hkey
      rw [List.lookup_cons_self] at hread
      rw [Decoding.lookup_eq_none_iff.mpr hname]
      cases result with
      | none => rfl
      | some result => exact absurd hread (hnull result)
    · rwa [Decoding.lookup_cons_of_ne hkey] at hread
  exact ⟨hrequired Json.not_isText_null h.version, hrequired Json.not_names_null h.kind,
    hrequired Json.not_isText_null h.name, hoptional (fun _ => Json.not_names_null) h.newKind,
    hoptional (fun _ => Json.not_isText_null) h.newName,
    hoptional (fun _ => Json.not_isText_null) h.note⟩

theorem IsSaidBy.of_cons_tagged {name word : String} (hname : name ∈ ["old_type", "new_type"])
    (h : notice.IsSaidBy ((name, .string word) :: fields)) :
    notice.IsSaidBy ((name, .object [(word, .null)]) :: fields) := by
  have hnamed : ∀ {kind}, (Json.string word).Names kind →
      (Json.object [(word, .null)]).Names kind := by
    rintro kind (hword | hobject)
    · exact Or.inr (Json.string.inj hword ▸ rfl)
    · cases hobject
  have hother : ∀ key, key ∉ ["old_type", "new_type"] →
      ((name, Json.string word) :: fields).lookup key =
        ((name, .object [(word, .null)]) :: fields).lookup key := by
    intro key hkey
    have hne : key ≠ name := fun hsame => hkey (hsame ▸ hname)
    rw [Decoding.lookup_cons_of_ne hne, Decoding.lookup_cons_of_ne hne]
  refine ⟨hother "version" (by decide) ▸ h.version, ?_, hother "old_name" (by decide) ▸ h.name, ?_,
    hother "new_name" (by decide) ▸ h.newName, hother "additional_msg" (by decide) ▸ h.note⟩
  · obtain ⟨value, hvalue, hmeans⟩ := h.kind
    by_cases hkey : "old_type" = name
    · rw [hkey, List.lookup_cons_self] at hvalue
      rw [hkey]
      obtain rfl := Option.some.inj hvalue
      exact ⟨_, List.lookup_cons_self, hnamed hmeans⟩
    · rw [Decoding.lookup_cons_of_ne hkey] at hvalue ⊢
      exact ⟨value, hvalue, hmeans⟩
  · have hread := h.newKind
    by_cases hkey : "new_type" = name
    · rw [hkey, List.lookup_cons_self] at hread ⊢
      cases hkind : notice.newKind with
      | none =>
          rw [hkind] at hread
          cases hread
      | some kind =>
          rw [hkind] at hread
          exact hnamed hread
    · rwa [Decoding.lookup_cons_of_ne hkey] at hread ⊢

theorem IsSpelling.isSaidBy (h : IsSpelling notice fields) :
    (fields.map Prod.fst).Nodup ∧ notice.IsSaidBy fields := by
  induction h with
  | encoded h =>
      refine ⟨?_, isSaidBy_of_encode h⟩
      obtain rfl := Json.object.inj h
      change ["additional_msg", "new_name", "new_type", "old_name", "old_type", "version"].Nodup
      decide
  | reordered _ hperm ih =>
      obtain ⟨hnames, hsaid⟩ := ih
      exact ⟨(hperm.map Prod.fst).nodup_iff.mp hnames,
        hsaid.congr fun name _ => Decoding.lookup_congr hperm hnames name⟩
  | withoutNull _ ih =>
      obtain ⟨hnames, hsaid⟩ := ih
      rw [List.map_cons, List.nodup_cons] at hnames
      exact ⟨hnames.2, hsaid.of_cons_null hnames.1⟩
  | withUnknown _ hunknown hnew value ih =>
      refine ⟨List.nodup_cons.mpr ⟨hnew, ih.1⟩, ih.2.congr fun key hkey => ?_⟩
      rw [Decoding.lookup_cons_of_ne]
      rintro rfl
      exact hunknown hkey
  | tagged _ hkind ih => exact ⟨ih.1, ih.2.of_cons_tagged hkind⟩

theorem decode_of_isSpelling (h : IsSpelling notice fields) :
    decode (Json.object fields) = .ok notice :=
  (decode_object_eq_ok_iff h.isSaidBy.1).mpr h.isSaidBy.2

theorem decode_encode (notice : Notice) : decode notice.encode = .ok notice :=
  decode_of_isSpelling (.encoded rfl)

theorem encode_inj {other : Notice} : notice.encode = other.encode ↔ notice = other := by
  constructor
  · intro h
    have hother := decode_encode other
    rw [← h, decode_encode] at hother
    exact Except.ok.inj hother
  · rintro rfl
    rfl

theorem rewrite_of_rewrite {value once : Json} (h : rewrite value = .ok once) :
    rewrite once = .ok once := by
  obtain ⟨notice, -, rfl⟩ := Decoding.map_eq_ok_iff.mp h
  rw [rewrite, decode_encode]
  rfl

theorem nodup_fieldNames : fieldNames.Nodup := by
  decide

theorem decode_array_eq_ok_iff {items : List Json} :
    decode (Json.array items) = .ok notice ↔
      items.length = fieldNames.length ∧
        decode (Json.object (fieldNames.zip items)) = .ok notice := by
  have hnames := Decoding.nodup_zip nodup_fieldNames items
  rw [decode_object_eq_ok_iff hnames, ← visitFields_eq_ok_iff hnames, decode_eq_ok_iff,
    Decoding.record_of_sequence_eq_ok_iff rfl]
  constructor
  · rintro ⟨hvisit, hle, hge⟩
    exact ⟨Nat.le_antisymm hge hle, hvisit⟩
  · rintro ⟨hlength, hvisit⟩
    exact ⟨hvisit, Nat.le_of_eq hlength.symm, Nat.le_of_eq hlength⟩

theorem decode_values_of_isSpelling (h : IsSpelling notice fields)
    (hall : ∀ name ∈ fieldNames, name ∈ fields.map Prod.fst) :
    decode (Json.array (fieldNames.filterMap fun name => fields.lookup name)) = .ok notice := by
  have hlength : (fieldNames.filterMap fun name => fields.lookup name).length =
      fieldNames.length := by
    refine List.filterMap_length_eq_length.mpr fun name hname => ?_
    rw [Option.isSome_iff_ne_none]
    exact fun hnone => Decoding.lookup_eq_none_iff.mp hnone (hall name hname)
  have hnames := Decoding.nodup_zip nodup_fieldNames
    (fieldNames.filterMap fun name => fields.lookup name)
  refine decode_array_eq_ok_iff.mpr ⟨hlength, (decode_object_eq_ok_iff hnames).mpr ?_⟩
  exact h.isSaidBy.2.congr fun name hname => (Decoding.lookup_zip_filterMap hall hname).symm

/-- Every spelling of a notice is read as the notice: the form that it is written in, what this
becomes when fields that are null are left out, unknown ones are added and words of kinds are made
keys, and the list of the values in the order of declaration.  A list is read exactly if it has six
items and the object that holds them under the names of the fields is read, as the same notice.  So
writing what was read and reading it again changes nothing any more, and notices are told apart by
how they are written, also where a registry looks for one that it has seen. -/
theorem spellings_read_back (notice : Notice) :
    decode notice.encode = .ok notice ∧
      (∀ fields, IsSpelling notice fields →
        decode (Json.object fields) = .ok notice ∧
          ((∀ name ∈ fieldNames, name ∈ fields.map Prod.fst) →
            decode (Json.array (fieldNames.filterMap fun name => fields.lookup name)) =
              .ok notice)) ∧
      decode (Json.array [.string notice.version, .string notice.kind.word, .string notice.name,
        .ofText? (notice.newKind.map Kind.word), .ofText? notice.newName,
        .ofText? notice.note]) = .ok notice ∧
      (∀ items, decode (Json.array items) = .ok notice ↔
        items.length = 6 ∧ decode (Json.object (fieldNames.zip items)) = .ok notice) ∧
      (∀ value once, rewrite value = .ok once → rewrite once = .ok once) ∧
      ∀ other : Notice, (notice.encode = other.encode ↔ notice = other) ∧
        ∀ registry : Registry, ((registry.insert notice).2.insert other).1 = false ↔
          other ∈ registry ∨ notice.encode = other.encode := by
  refine ⟨decode_encode notice, ?_, ?_, ?_, ?_, ?_⟩
  · exact fun fields h => ⟨decode_of_isSpelling h, decode_values_of_isSpelling h⟩
  · have hall : ∀ name ∈ fieldNames, name ∈
        ["additional_msg", "new_name", "new_type", "old_name", "old_type", "version"] := by
      decide
    exact decode_values_of_isSpelling (.encoded rfl) hall
  · exact fun items => decode_array_eq_ok_iff
  · exact fun value once => rewrite_of_rewrite
  · intro other
    refine ⟨encode_inj, fun registry => ?_⟩
    rw [encode_inj, Registry.insert_snd, Registry.insert_fst, Bool.not_eq_false',
      Registry.contains_iff, Registry.mem_add]
    exact or_congr_right eq_comm

/-- A kind is made a key, a field that is null is left out, and an unknown field is added. -/
theorem tagged_spelling_read_back :
    let notice : Notice := ⟨"1.0", .classType, "Foo", some .classType, none, some ""⟩
    let fields : List (String × Json) :=
      [("seen", .integer 3), ("new_type", .object [("class", .null)]),
        ("additional_msg", .string ""), ("old_name", .string "Foo"),
        ("old_type", .string "class"), ("version", .string "1.0")]
    IsSpelling notice fields ∧ decode (Json.object fields) = .ok notice := by
  intro notice fields
  have hwithoutNull : IsSpelling notice
      [("additional_msg", .string ""), ("new_type", .string "class"), ("old_name", .string "Foo"),
        ("old_type", .string "class"), ("version", .string "1.0")] :=
    .withoutNull (.reordered (.encoded rfl) (.swap _ _ _))
  have hspelling : IsSpelling notice fields :=
    .withUnknown (.tagged (.reordered hwithoutNull (.swap _ _ _)) (by decide)) (by decide)
      (by decide) _
  exact ⟨hspelling, ((spellings_read_back notice).2.1 fields hspelling).1⟩

end Notice

end Deprecation
