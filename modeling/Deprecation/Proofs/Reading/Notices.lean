import Deprecation.Notice.Encoding
import Deprecation.Proofs.Reading.Fields

/-!
Which objects are notices, and what is wrong with the others.  A notice is read from an object
exactly when the fields that are needed are there and every known field holds what it may hold; the
notice then has what the fields hold, and null is the same as a missing field.  Otherwise the first
field that holds something else is reported, in ascending order of the names, and a missing field
only where there is none.  Unknown fields change nothing.
-/

namespace Deprecation

namespace Json

variable {β : Type} {value : Json} {mismatch : Mismatch}

def IsText (value : Json) (text : String) : Prop :=
  value = .string text

/-- The value names a kind: it is the word of the kind, or an object whose only key is that word and
holds null. -/
def Names (value : Json) (kind : Kind) : Prop :=
  value = .string kind.word ∨ value = .object [(kind.word, .null)]

/-- The value is null, which means nothing, or it means something. -/
def OrNull (Means : Json → β → Prop) (value : Json) : Option β → Prop
  | none => value = .null
  | some result => Means value result

/-- Why a value is no text. -/
def IsNoText (value : Json) (mismatch : Mismatch) : Prop :=
  (∀ text, value ≠ .string text) ∧ mismatch = .wrongType value.layer.shape .string

/-- Why a value names no kind. -/
inductive NamesNone : Json → Mismatch → Prop
  | word {word : String} (h : ∀ kind : Kind, word ≠ kind.word) :
      NamesNone (.string word) (.unknownVariant word (Kind.all.map Kind.word))
  | key {word : String} (h : ∀ kind : Kind, word ≠ kind.word) (content : Json) :
      NamesNone (.object [(word, content)]) (.unknownVariant word (Kind.all.map Kind.word))
  | content (kind : Kind) {content : Json} (h : content ≠ .null) :
      NamesNone (.object [(kind.word, content)]) (.wrongType content.layer.shape .unit)
  | keys {fields : List (String × Json)} (h : fields.length ≠ 1) :
      NamesNone (.object fields) .notSingleKey
  | shape {value : Json} (hword : ∀ word, value ≠ .string word)
      (hobject : ∀ fields, value ≠ .object fields) :
      NamesNone value (.wrongType value.layer.shape .variant)

theorem not_isText_null {text : String} : ¬ null.IsText text := by
  simp [IsText]

theorem not_names_null {kind : Kind} : ¬ null.Names kind := by
  simp [Names]

theorem layer_eq_string_iff {text : String} :
    Document.layer value = .string text ↔ value.IsText text := by
  cases value <;> simp [Document.layer, layer, IsText]

theorem layer_eq_null_iff : Document.layer value = .null ↔ value = .null := by
  cases value <;> simp [Document.layer, layer]

theorem string_eq_ok_iff {text : String} :
    Decoding.string value = .ok text ↔ value.IsText text :=
  Decoding.string_eq_ok_iff.trans layer_eq_string_iff

theorem string_eq_error_iff :
    Decoding.string value = .error mismatch ↔ value.IsNoText mismatch := by
  rw [Decoding.string_eq_error_iff, IsNoText]
  simp only [ne_eq, layer_eq_string_iff, IsText]
  rfl

theorem chooseWord_word (kind : Kind) :
    Decoding.chooseWord Kind.options kind.word = .ok kind :=
  Decoding.chooseWord_word Kind.word_injective Kind.mem_all kind

theorem chooseWord_of_unknown {word : String} (h : ∀ kind : Kind, word ≠ kind.word) :
    Decoding.chooseWord Kind.options word =
      .error (.unknownVariant word (Kind.all.map Kind.word)) :=
  Decoding.chooseWord_of_unknown h

theorem choose_of_names {kind : Kind} (h : value.Names kind) :
    Document.choose Kind.options value = .ok kind := by
  rcases h with rfl | rfl
  · exact chooseWord_word kind
  · change choose Kind.options (.object [(kind.word, .null)]) = _
    rw [choose, chooseWord_word]

theorem choose_of_namesNone (h : value.NamesNone mismatch) :
    Document.choose Kind.options value = .error mismatch := by
  change choose Kind.options value = .error mismatch
  cases h with
  | word hword => exact chooseWord_of_unknown hword
  | key hword content => rw [choose, chooseWord_of_unknown hword]
  | @content kind content hcontent =>
      rw [choose, chooseWord_word]
      cases content with
      | null => exact absurd rfl hcontent
      | _ => rfl
  | @keys fields hlength =>
      rcases fields with _ | ⟨field, _ | ⟨other, rest⟩⟩
      · rfl
      · exact absurd rfl hlength
      · rfl
  | shape hword hobject =>
      cases value with
      | string word => exact absurd rfl (hword word)
      | object fields => exact absurd rfl (hobject fields)
      | _ => rfl

theorem names_or_namesNone (value : Json) :
    (∃ kind, value.Names kind) ∨ ∃ mismatch, value.NamesNone mismatch := by
  cases value with
  | string word =>
      by_cases hword : ∃ kind : Kind, word = kind.word
      · obtain ⟨kind, rfl⟩ := hword
        exact Or.inl ⟨kind, Or.inl rfl⟩
      · exact Or.inr ⟨_, .word (not_exists.mp hword)⟩
  | object fields =>
      rcases fields with _ | ⟨⟨word, content⟩, _ | ⟨other, rest⟩⟩
      · exact Or.inr ⟨_, .keys nofun⟩
      · by_cases hword : ∃ kind : Kind, word = kind.word
        · obtain ⟨kind, rfl⟩ := hword
          by_cases hcontent : content = .null
          · subst hcontent
            exact Or.inl ⟨kind, Or.inr rfl⟩
          · exact Or.inr ⟨_, .content kind hcontent⟩
        · exact Or.inr ⟨_, .key (not_exists.mp hword) content⟩
      · exact Or.inr ⟨_, .keys (by simp)⟩
  | _ => exact Or.inr ⟨_, .shape nofun nofun⟩

theorem choose_eq_ok_iff {kind : Kind} :
    Document.choose Kind.options value = .ok kind ↔ value.Names kind :=
  (Decoding.eq_iff_of_exhaustive Names NamesNone choose_of_names choose_of_namesNone
    names_or_namesNone value).1 kind

theorem choose_eq_error_iff :
    Document.choose Kind.options value = .error mismatch ↔ value.NamesNone mismatch :=
  (Decoding.eq_iff_of_exhaustive Names NamesNone choose_of_names choose_of_namesNone
    names_or_namesNone value).2 mismatch

theorem optional_eq_ok_iff {decode : Json → Except Mismatch β} {Means : Json → β → Prop}
    (h : ∀ value result, decode value = .ok result ↔ Means value result)
    (hnull : ∀ result, ¬ Means .null result) {result : Option β} :
    Decoding.optional decode value = .ok result ↔ value.OrNull Means result := by
  by_cases hvalue : value = .null
  · subst hvalue
    rw [Decoding.optional_of_null rfl]
    cases result with
    | none => exact iff_of_true rfl rfl
    | some result => exact iff_of_false nofun (hnull result)
  · rw [Decoding.optional_of_ne_null (mt layer_eq_null_iff.mp hvalue), Decoding.map_eq_ok_iff]
    cases result with
    | none => exact iff_of_false (by simp) hvalue
    | some result => simp [h, OrNull]

theorem optional_eq_error_iff {decode : Json → Except Mismatch β} :
    Decoding.optional decode value = .error mismatch ↔
      value ≠ .null ∧ decode value = .error mismatch := by
  by_cases hnull : value = .null
  · subst hnull
    rw [Decoding.optional_of_null rfl]
    simp
  · rw [Decoding.optional_of_ne_null (mt layer_eq_null_iff.mp hnull), Decoding.map_eq_error_iff]
    simp [hnull]

theorem given_optional_iff (Means : Json → β → Prop) {decode : Json → Except Mismatch β}
    (h : ∀ value result, decode value = .ok result ↔ Means value result)
    (hnull : ∀ result, ¬ Means .null result) {fields : List (String × Json)} {name : String}
    {result : Option β} :
    Decoding.given fields name (fun value => (Decoding.optional decode value).map id) none =
        .ok result ↔
      Decoding.IsReadAs (OrNull Means) none (fields.lookup name) result := by
  refine Decoding.given_eq_ok_iff fun value result => ?_
  simpa [Decoding.map_eq_ok_iff] using optional_eq_ok_iff h hnull

theorem IsText.not_isNoText {text : String} (h : value.IsText text) : ¬ value.IsNoText mismatch :=
  fun hno => hno.1 text h

theorem Names.not_namesNone {kind : Kind} (h : value.Names kind) : ¬ value.NamesNone mismatch :=
  fun hnone => nomatch (choose_of_names h).symm.trans (choose_of_namesNone hnone)

theorem OrNull.not_fails {Means : Json → β → Prop} {Fails : Json → Mismatch → Prop}
    (hmeans : ∀ {result}, Means value result → ¬ Fails value mismatch) {result : Option β}
    (h : value.OrNull Means result) : ¬ (value ≠ .null ∧ Fails value mismatch) := by
  cases result with
  | none => exact fun hfails => hfails.1 h
  | some result => exact fun hfails => hmeans h hfails.2

end Json

namespace Notice

/-- Why the value of a field is refused; that of an unknown field never is. -/
def IsMisfit (field : String) (value : Json) (mismatch : Mismatch) : Prop :=
  match field with
  | "version" => value.IsNoText mismatch
  | "old_type" => value.NamesNone mismatch
  | "old_name" => value.IsNoText mismatch
  | "new_type" => value ≠ .null ∧ value.NamesNone mismatch
  | "new_name" => value ≠ .null ∧ value.IsNoText mismatch
  | "additional_msg" => value ≠ .null ∧ value.IsNoText mismatch
  | _ => False

/-- The fields say what the notice says. -/
structure IsSaidBy (notice : Notice) (fields : List (String × Json)) : Prop where
  version : ∃ value, fields.lookup "version" = some value ∧ value.IsText notice.version
  kind : ∃ value, fields.lookup "old_type" = some value ∧ value.Names notice.kind
  name : ∃ value, fields.lookup "old_name" = some value ∧ value.IsText notice.name
  newKind :
    Decoding.IsReadAs (Json.OrNull Json.Names) none (fields.lookup "new_type") notice.newKind
  newName :
    Decoding.IsReadAs (Json.OrNull Json.IsText) none (fields.lookup "new_name") notice.newName
  note :
    Decoding.IsReadAs (Json.OrNull Json.IsText) none (fields.lookup "additional_msg") notice.note

/-- The fields that a notice needs, in the order of declaration. -/
def requiredNames : List String :=
  ["version", "old_type", "old_name"]

/-- The first of the fields that are needed that is missing. -/
def firstMissing? (fields : List (String × Json)) : Option String :=
  requiredNames.find? fun name => (fields.lookup name).isNone

theorem judges_visit : Decoding.Judges Draft.visit IsMisfit := by
  intro draft field value mismatch
  unfold Draft.visit IsMisfit
  split
  · exact Decoding.map_eq_error_iff.trans Json.string_eq_error_iff
  · exact Decoding.map_eq_error_iff.trans Json.choose_eq_error_iff
  · exact Decoding.map_eq_error_iff.trans Json.string_eq_error_iff
  · exact Decoding.map_eq_error_iff.trans (Json.optional_eq_error_iff.trans
      (and_congr_right fun _ => Json.choose_eq_error_iff))
  · exact Decoding.map_eq_error_iff.trans (Json.optional_eq_error_iff.trans
      (and_congr_right fun _ => Json.string_eq_error_iff))
  · exact Decoding.map_eq_error_iff.trans (Json.optional_eq_error_iff.trans
      (and_congr_right fun _ => Json.string_eq_error_iff))
  · simp

theorem mem_fieldNames_of_isMisfit {field : String} {value : Json} {mismatch : Mismatch}
    (h : IsMisfit field value mismatch) : field ∈ fieldNames := by
  unfold IsMisfit at h
  split at h
  case h_7 => exact h.elim
  all_goals decide

theorem visit_keeps {draft next : Draft} {field : String} {value : Json}
    (h : draft.visit field value = .ok next) :
    (field ≠ "version" → next.version = draft.version) ∧
      (field ≠ "old_type" → next.kind = draft.kind) ∧
      (field ≠ "old_name" → next.name = draft.name) ∧
      (field ≠ "new_type" → next.newKind = draft.newKind) ∧
      (field ≠ "new_name" → next.newName = draft.newName) ∧
      (field ≠ "additional_msg" → next.note = draft.note) := by
  unfold Draft.visit at h
  split at h
  case h_7 =>
    obtain rfl := Except.ok.inj h
    simp
  all_goals
    obtain ⟨_, -, rfl⟩ := Decoding.map_eq_ok_iff.mp h
    simp

theorem puts_version : Decoding.Puts Draft.visit "version" Draft.version fun value : Json =>
    (Decoding.string value).map some :=
  Decoding.puts_of_map (fun _ _ => rfl) (fun _ _ => rfl) fun h => (visit_keeps h).1

theorem puts_kind : Decoding.Puts Draft.visit "old_type" Draft.kind fun value : Json =>
    (Document.choose Kind.options value).map some :=
  Decoding.puts_of_map (fun _ _ => rfl) (fun _ _ => rfl) fun h => (visit_keeps h).2.1

theorem puts_name : Decoding.Puts Draft.visit "old_name" Draft.name fun value : Json =>
    (Decoding.string value).map some :=
  Decoding.puts_of_map (fun _ _ => rfl) (fun _ _ => rfl) fun h => (visit_keeps h).2.2.1

theorem puts_newKind : Decoding.Puts Draft.visit "new_type" Draft.newKind fun value : Json =>
    (Decoding.optional (Document.choose Kind.options) value).map id :=
  Decoding.puts_of_map (fun _ _ => rfl) (fun _ _ => rfl) fun h => (visit_keeps h).2.2.2.1

theorem puts_newName : Decoding.Puts Draft.visit "new_name" Draft.newName fun value : Json =>
    (Decoding.optional Decoding.string value).map id :=
  Decoding.puts_of_map (fun _ _ => rfl) (fun _ _ => rfl) fun h => (visit_keeps h).2.2.2.2.1

theorem puts_note : Decoding.Puts Draft.visit "additional_msg" Draft.note fun value : Json =>
    (Decoding.optional Decoding.string value).map id :=
  Decoding.puts_of_map (fun _ _ => rfl) (fun _ _ => rfl) fun h => (visit_keeps h).2.2.2.2.2

/-- What has been read when all of a notice has been read. -/
def draft (notice : Notice) : Draft :=
  ⟨some notice.version, some notice.kind, some notice.name, notice.newKind, notice.newName,
    notice.note⟩

theorem finish_eq_ok_iff {draft : Draft} {notice : Notice} :
    draft.finish = .ok notice ↔ draft = notice.draft := by
  obtain ⟨version, kind, name, newKind, newName, note⟩ := draft
  obtain ⟨noticeVersion, noticeKind, noticeName, noticeNewKind, noticeNewName, noticeNote⟩ := notice
  rcases version with _ | version <;> rcases kind with _ | kind <;> rcases name with _ | name <;>
    simp [Draft.finish, Notice.draft]

section

variable {fields : List (String × Json)} {notice : Notice} {mismatch : Mismatch}

theorem givenText_iff {name : String} {text : Option String} :
    Decoding.given fields name
        (fun value => (Decoding.optional Decoding.string value).map id) none = .ok text ↔
      Decoding.IsReadAs (Json.OrNull Json.IsText) none (fields.lookup name) text :=
  Json.given_optional_iff Json.IsText (fun _ _ => Json.string_eq_ok_iff)
    fun _ => Json.not_isText_null

theorem givenKind_iff {name : String} {kind : Option Kind} :
    Decoding.given fields name
        (fun value => (Decoding.optional (Document.choose Kind.options) value).map id) none =
          .ok kind ↔
      Decoding.IsReadAs (Json.OrNull Json.Names) none (fields.lookup name) kind :=
  Json.given_optional_iff Json.Names (fun _ _ => Json.choose_eq_ok_iff)
    fun _ => Json.not_names_null

theorem IsSaidBy.isAccepted (hnames : (fields.map Prod.fst).Nodup) (h : notice.IsSaidBy fields) :
    Decoding.IsAccepted IsMisfit fields := by
  rw [Decoding.isAccepted_iff hnames]
  intro name value hvalue mismatch hmisfit
  have hheld : ∀ {β : Type} {Means : Json → β → Prop} {result : β},
      (∃ held, fields.lookup name = some held ∧ Means held result) → Means value result := by
    rintro β Means result ⟨held, hheld, hmeans⟩
    exact Option.some.inj (hheld.symm.trans hvalue) ▸ hmeans
  unfold IsMisfit at hmisfit
  split at hmisfit
  · exact (hheld h.version).not_isNoText hmisfit
  · exact (hheld h.kind).not_namesNone hmisfit
  · exact (hheld h.name).not_isNoText hmisfit
  · have hnew := h.newKind
    rw [hvalue] at hnew
    exact hnew.not_fails Json.Names.not_namesNone hmisfit
  · have hnew := h.newName
    rw [hvalue] at hnew
    exact hnew.not_fails Json.IsText.not_isNoText hmisfit
  · have hnote := h.note
    rw [hvalue] at hnote
    exact hnote.not_fails Json.IsText.not_isNoText hmisfit
  · exact hmisfit

theorem visitFields_eq_ok_iff (hnames : (fields.map Prod.fst).Nodup) :
    Decoding.visitFields Draft.visit {} fields = .ok notice.draft ↔ notice.IsSaidBy fields := by
  constructor
  · intro h
    exact {
      version := (Decoding.given_eq_some_iff fun _ _ => Json.string_eq_ok_iff).mp
        (puts_version.given_eq hnames h)
      kind := (Decoding.given_eq_some_iff fun _ _ => Json.choose_eq_ok_iff).mp
        (puts_kind.given_eq hnames h)
      name := (Decoding.given_eq_some_iff fun _ _ => Json.string_eq_ok_iff).mp
        (puts_name.given_eq hnames h)
      newKind := givenKind_iff.mp (puts_newKind.given_eq hnames h)
      newName := givenText_iff.mp (puts_newName.given_eq hnames h)
      note := givenText_iff.mp (puts_note.given_eq hnames h) }
  · intro h
    obtain ⟨final, hfinal⟩ :=
      (Decoding.exists_visitFields_eq_ok_iff judges_visit {}).mpr (h.isAccepted hnames)
    have hversion := puts_version.part_eq hnames hfinal
      ((Decoding.given_eq_some_iff fun _ _ => Json.string_eq_ok_iff).mpr h.version)
    have hkind := puts_kind.part_eq hnames hfinal
      ((Decoding.given_eq_some_iff fun _ _ => Json.choose_eq_ok_iff).mpr h.kind)
    have hname := puts_name.part_eq hnames hfinal
      ((Decoding.given_eq_some_iff fun _ _ => Json.string_eq_ok_iff).mpr h.name)
    have hnewKind := puts_newKind.part_eq hnames hfinal (givenKind_iff.mpr h.newKind)
    have hnewName := puts_newName.part_eq hnames hfinal (givenText_iff.mpr h.newName)
    have hnote := puts_note.part_eq hnames hfinal (givenText_iff.mpr h.note)
    have hdraft : final = notice.draft := by
      obtain ⟨version, kind, name, newKind, newName, note⟩ := final
      cases hversion
      cases hkind
      cases hname
      cases hnewKind
      cases hnewName
      cases hnote
      rfl
    exact hdraft ▸ hfinal

theorem IsSaidBy.congr {others : List (String × Json)}
    (h : ∀ name ∈ fieldNames, fields.lookup name = others.lookup name)
    (hsaid : notice.IsSaidBy fields) : notice.IsSaidBy others := by
  obtain ⟨hversion, hkind, hname, hnewKind, hnewName, hnote⟩ := hsaid
  simp only [fieldNames, List.forall_mem_cons] at h
  obtain ⟨h1, h2, h3, h4, h5, h6, -⟩ := h
  exact ⟨h1 ▸ hversion, h2 ▸ hkind, h3 ▸ hname, h4 ▸ hnewKind, h5 ▸ hnewName, h6 ▸ hnote⟩

theorem decode_eq_ok_iff {value : Json} :
    decode value = .ok notice ↔
      Decoding.record typeName fieldNames fieldNames.length Draft.visit {} value =
        .ok notice.draft := by
  rw [decode]
  cases Decoding.record typeName fieldNames fieldNames.length Draft.visit {} value with
  | error fault => exact iff_of_false nofun nofun
  | ok draft => exact finish_eq_ok_iff.trans ⟨congrArg Except.ok, Except.ok.inj⟩

theorem decode_object_eq_ok_iff (hnames : (fields.map Prod.fst).Nodup) :
    decode (Json.object fields) = .ok notice ↔ notice.IsSaidBy fields := by
  have hsorted : notice.IsSaidBy (Decoding.ascending fields) ↔ notice.IsSaidBy fields :=
    ⟨.congr fun name _ => Decoding.lookup_ascending hnames name,
      .congr fun name _ => (Decoding.lookup_ascending hnames name).symm⟩
  rw [decode_eq_ok_iff, Decoding.record_of_mapping rfl,
    visitFields_eq_ok_iff (Decoding.nodup_ascending hnames), hsorted]

theorem finish_eq_error_iff {draft : Draft} (hnames : (fields.map Prod.fst).Nodup)
    (h : Decoding.visitFields Draft.visit {} fields = .ok draft) :
    draft.finish = .error mismatch ↔
      ∃ name, firstMissing? fields = some name ∧ mismatch = .missingField name := by
  have hversion := Decoding.isNone_of_given (puts_version.given_eq hnames h)
  have hkind := Decoding.isNone_of_given (puts_kind.given_eq hnames h)
  have hname := Decoding.isNone_of_given (puts_name.given_eq hnames h)
  simp only [firstMissing?, requiredNames, List.find?, ← hversion, ← hkind, ← hname]
  obtain ⟨version, kind, name, newKind, newName, note⟩ := draft
  rcases version with _ | version <;> rcases kind with _ | kind <;> rcases name with _ | name <;>
    simp [Draft.finish, eq_comm]

theorem decode_object_eq_error_iff (hnames : (fields.map Prod.fst).Nodup) :
    decode (Json.object fields) = .error mismatch ↔
      (∃ name, Decoding.IsFirstRefused IsMisfit fields name mismatch) ∨
        Decoding.IsAccepted IsMisfit fields ∧
          ∃ name, firstMissing? fields = some name ∧ mismatch = .missingField name := by
  have hvisit : ∀ {fault},
      Decoding.visitFields Draft.visit {} (Decoding.ascending fields) = .error fault ↔
        ∃ name mismatch, Decoding.IsFirstRefused IsMisfit fields name mismatch ∧
          fault = ⟨mismatch, some name⟩ :=
    Decoding.visitFields_ascending_eq_error_iff judges_visit hnames {}
  have haccepted : (∃ final, Decoding.visitFields Draft.visit {} (Decoding.ascending fields) =
      .ok final) ↔ Decoding.IsAccepted IsMisfit fields :=
    (Decoding.exists_visitFields_eq_ok_iff judges_visit {}).trans (by simp [Decoding.IsAccepted])
  have hmissing : firstMissing? (Decoding.ascending fields) = firstMissing? fields := by
    simp only [firstMissing?, Decoding.lookup_ascending hnames]
  rw [decode, Decoding.record_of_mapping rfl]
  cases hread : Decoding.visitFields Draft.visit {} (Decoding.ascending fields) with
  | error fault =>
      rw [hread] at haccepted
      obtain ⟨name, reason, hfirst, rfl⟩ := hvisit.mp hread
      constructor
      · intro herror
        obtain rfl := Except.error.inj herror
        exact Or.inl ⟨name, hfirst⟩
      · rintro (⟨other, hother⟩ | ⟨hall, -⟩)
        · have hsame := hread.symm.trans (hvisit.mpr ⟨other, mismatch, hother, rfl⟩)
          exact congrArg Except.error (congrArg Fault.mismatch (Except.error.inj hsame))
        · obtain ⟨final, hfinal⟩ := haccepted.mpr hall
          cases hfinal
  | ok draft =>
      refine (finish_eq_error_iff (Decoding.nodup_ascending hnames) hread).trans ?_
      rw [hmissing]
      refine ⟨fun hnone => Or.inr ⟨haccepted.mp ⟨draft, hread⟩, hnone⟩, ?_⟩
      rintro (⟨name, hfirst⟩ | ⟨-, hnone⟩)
      · have hrefused := hread.symm.trans (hvisit.mpr ⟨name, mismatch, hfirst, rfl⟩)
        cases hrefused
      · exact hnone

theorem decode_object_congr {others : List (String × Json)}
    (hfields : (fields.map Prod.fst).Nodup) (hothers : (others.map Prod.fst).Nodup)
    (h : ∀ name ∈ fieldNames, fields.lookup name = others.lookup name) :
    decode (Json.object fields) = decode (Json.object others) := by
  cases hdecode : decode (Json.object fields) with
  | ok notice =>
      have hsaid := (decode_object_eq_ok_iff hfields).mp hdecode
      exact ((decode_object_eq_ok_iff hothers).mpr (hsaid.congr h)).symm
  | error mismatch =>
      refine ((decode_object_eq_error_iff hothers).mpr ?_).symm
      rcases (decode_object_eq_error_iff hfields).mp hdecode with ⟨name, hfirst⟩ | ⟨hall, hnone⟩
      · exact Or.inl ⟨name, Decoding.isFirstRefused_congr mem_fieldNames_of_isMisfit h hfirst⟩
      · refine Or.inr
          ⟨Decoding.isAccepted_congr mem_fieldNames_of_isMisfit h hfields hothers hall, ?_⟩
        have hmissing : firstMissing? fields = firstMissing? others := by
          simp only [fieldNames, List.forall_mem_cons] at h
          obtain ⟨hversion, hkind, hname, -⟩ := h
          simp only [firstMissing?, requiredNames, List.find?, hversion, hkind, hname]
        rwa [← hmissing]

end

/-- What an object is read as.  It is the notice that its known fields say, if they say one: the
version and the name are texts, the kind is a kind, and each of the others is a text or a kind, or
null, or missing, the last two meaning the same.  Otherwise the first field, in ascending order of
the names, that holds something else is reported, and if there is none, the first one missing of
those that are needed.  Unknown fields have no influence. -/
theorem objects_decoded (fields : List (String × Json)) (hnames : (fields.map Prod.fst).Nodup) :
    (∀ notice, decode (Json.object fields) = .ok notice ↔ notice.IsSaidBy fields) ∧
      (∀ mismatch, decode (Json.object fields) = .error mismatch ↔
        (∃ name, Decoding.IsFirstRefused IsMisfit fields name mismatch) ∨
          Decoding.IsAccepted IsMisfit fields ∧
            ∃ name, firstMissing? fields = some name ∧ mismatch = .missingField name) ∧
      ∀ others : List (String × Json), (others.map Prod.fst).Nodup →
        (∀ name ∈ fieldNames, others.lookup name = fields.lookup name) →
        decode (Json.object others) = decode (Json.object fields) := by
  refine ⟨?_, ?_, ?_⟩
  · exact fun notice => decode_object_eq_ok_iff hnames
  · exact fun mismatch => decode_object_eq_error_iff hnames
  · exact fun others hothers h => decode_object_congr hothers hnames h

/-- Of two fields that hold something else the first one is reported, although a field is missing.
-/
theorem first_misfit_reported :
    let fields : List (String × Json) :=
      [("old_type", .object [("class", .null)]), ("old_name", .integer 5), ("kind", .array []),
        ("new_name", .boolean true), ("new_type", .null)]
    (fields.map Prod.fst).Nodup ∧
      decode (Json.object fields) = .error (.wrongType (.boolean true) .string) := by
  intro fields
  have hnames : (fields.map Prod.fst).Nodup := by decide
  refine ⟨hnames, ((objects_decoded fields hnames).2.1 _).mpr (Or.inl ⟨"new_name", ?_, ?_⟩)⟩
  · exact ⟨.boolean true, rfl, nofun, nofun, rfl⟩
  · intro earlier value hlt hvalue mismatch hmisfit
    have habsent : ∀ name ∈ fieldNames, name < "new_name" → (fields.lookup name).isNone = true := by
      decide
    have hnone := habsent earlier (mem_fieldNames_of_isMisfit hmisfit) hlt
    rw [hvalue] at hnone
    cases hnone

end Notice

end Deprecation
