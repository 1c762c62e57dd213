import Deprecation.Config
import Deprecation.Proofs.Reading.Keys

/-!
What the settings of a document are.  They depend on one section alone, and a document without it
has the defaults.  A section is read field by field: each field that is given has to be right on its
own, and each one that is not given has its default.  Of the fields that are not right the first one
is reported, in ascending order of the names, while an array stands for the fields in the order of
their declaration.
-/

namespace Deprecation

namespace Toml

variable {value : Toml} {mismatch : Mismatch}

def IsTruth (value : Toml) (truth : Bool) : Prop :=
  value = .boolean truth

/-- Why a value is no truth value. -/
def IsNoTruth (value : Toml) (mismatch : Mismatch) : Prop :=
  (∀ truth, value ≠ .boolean truth) ∧ mismatch = .wrongType value.layer.shape .boolean

/-- The value holds nothing, as an empty array or an empty table. -/
def IsVoid (value : Toml) : Prop :=
  value = .array [] ∨ value = .table []

/-- Why a value does not hold nothing. -/
inductive IsContent : Toml → Mismatch → Prop
  | array (item : Toml) (items : List Toml) :
      IsContent (.array (item :: items)) .contentArrayNotEmpty
  | table (entry : String × Toml) (entries : List (String × Toml)) :
      IsContent (.table (entry :: entries)) .contentTableNotEmpty
  | scalar {value : Toml} (h : value.IsScalar) : IsContent value (.contentNotTable value.kindWord)

/-- The value selects a channel: it is the word of the channel, or a table whose only key is that
word and holds nothing. -/
def Selects (value : Toml) (channel : Channel) : Prop :=
  value = .string channel.word ∨ ∃ content : Toml, content.IsVoid ∧
    value = .table [(channel.word, content)]

/-- Why a value selects no channel. -/
inductive SelectsNone : Toml → Mismatch → Prop
  | word {word : String} (h : ∀ channel : Channel, word ≠ channel.word) :
      SelectsNone (.string word) (.unknownVariant word (Channel.all.map Channel.word))
  | key {word : String} (h : ∀ channel : Channel, word ≠ channel.word) (content : Toml) :
      SelectsNone (.table [(word, content)]) (.unknownVariant word (Channel.all.map Channel.word))
  | content (channel : Channel) {content : Toml} {mismatch : Mismatch}
      (h : content.IsContent mismatch) : SelectsNone (.table [(channel.word, content)]) mismatch
  | noKey : SelectsNone (.table []) .noChoice
  | keys (first second : String × Toml) (rest : List (String × Toml)) :
      SelectsNone (.table (first :: second :: rest)) .severalChoices
  | shape {value : Toml} (hword : ∀ word, value ≠ .string word)
      (htable : ∀ entries, value ≠ .table entries) : SelectsNone value .notChoice

theorem layer_eq_boolean_iff {truth : Bool} :
    Document.layer value = .boolean truth ↔ value.IsTruth truth := by
  cases value <;> simp [Document.layer, layer, IsTruth]

theorem boolean_eq_ok_iff {truth : Bool} :
    Decoding.boolean value = .ok truth ↔ value.IsTruth truth :=
  Decoding.boolean_eq_ok_iff.trans layer_eq_boolean_iff

theorem boolean_eq_error_iff :
    Decoding.boolean value = .error mismatch ↔ value.IsNoTruth mismatch := by
  rw [Decoding.boolean_eq_error_iff, IsNoTruth]
  simp only [ne_eq, layer_eq_boolean_iff, IsTruth]
  rfl

theorem chooseWord_word (channel : Channel) :
    Decoding.chooseWord Channel.options channel.word = .ok channel :=
  Decoding.chooseWord_word Channel.word_injective Channel.mem_all channel

theorem chooseWord_of_unknown {word : String} (h : ∀ channel : Channel, word ≠ channel.word) :
    Decoding.chooseWord Channel.options word =
      .error (.unknownVariant word (Channel.all.map Channel.word)) :=
  Decoding.chooseWord_of_unknown h

theorem emptyContent_of_isVoid (h : value.IsVoid) : emptyContent value = .ok () := by
  rcases h with rfl | rfl <;> rfl

theorem emptyContent_of_isContent (h : value.IsContent mismatch) :
    emptyContent value = .error mismatch := by
  cases h with
  | array item items => rfl
  | table entry entries => rfl
  | scalar hscalar =>
      cases value with
      | array items => exact hscalar.elim
      | table entries => exact hscalar.elim
      | _ => rfl

theorem isVoid_or_isContent (value : Toml) :
    value.IsVoid ∨ ∃ mismatch, value.IsContent mismatch := by
  cases value with
  | array items =>
      cases items with
      | nil => exact Or.inl (Or.inl rfl)
      | cons item items => exact Or.inr ⟨_, .array item items⟩
  | table entries =>
      cases entries with
      | nil => exact Or.inl (Or.inr rfl)
      | cons entry entries => exact Or.inr ⟨_, .table entry entries⟩
  | _ => exact Or.inr ⟨_, .scalar trivial⟩

theorem choose_of_selects {channel : Channel} (h : value.Selects channel) :
    Document.choose Channel.options value = .ok channel := by
  rcases h with rfl | ⟨content, hcontent, rfl⟩
  · exact chooseWord_word channel
  · change choose Channel.options (.table [(channel.word, content)]) = _
    rw [choose, chooseWord_word]
    dsimp only
    rw [emptyContent_of_isVoid hcontent]
    rfl

theorem choose_of_selectsNone (h : value.SelectsNone mismatch) :
    Document.choose Channel.options value = .error mismatch := by
  change choose Channel.options value = .error mismatch
  cases h with
  | word hword => exact chooseWord_of_unknown hword
  | key hword content => rw [choose, chooseWord_of_unknown hword]
  | content channel hcontent =>
      rw [choose, chooseWord_word]
      dsimp only
      rw [emptyContent_of_isContent hcontent]
      rfl
  | noKey => rfl
  | keys first second rest => rfl
  | shape hword htable =>
      cases value with
      | string word => exact absurd rfl (hword word)
      | table entries => exact absurd rfl (htable entries)
      | _ => rfl

theorem selects_or_selectsNone (value : Toml) :
    (∃ channel, value.Selects channel) ∨ ∃ mismatch, value.SelectsNone mismatch := by
  cases value with
  | string word =>
      by_cases hword : ∃ channel : Channel, word = channel.word
      · obtain ⟨channel, rfl⟩ := hword
        exact Or.inl ⟨channel, Or.inl rfl⟩
      · exact Or.inr ⟨_, .word (not_exists.mp hword)⟩
  | table entries =>
      rcases entries with _ | ⟨⟨word, content⟩, _ | ⟨second, rest⟩⟩
      · exact Or.inr ⟨_, .noKey⟩
      · by_cases hword : ∃ channel : Channel, word = channel.word
        · obtain ⟨channel, rfl⟩ := hword
          rcases isVoid_or_isContent content with hvoid | ⟨mismatch, hcontent⟩
          · exact Or.inl ⟨channel, Or.inr ⟨content, hvoid, rfl⟩⟩
          · exact Or.inr ⟨mismatch, .content channel hcontent⟩
        · exact Or.inr ⟨_, .key (not_exists.mp hword) content⟩
      · exact Or.inr ⟨_, .keys (word, content) second rest⟩
  | _ => exact Or.inr ⟨_, .shape nofun nofun⟩

theorem choose_eq_ok_iff {channel : Channel} :
    Document.choose Channel.options value = .ok channel ↔ value.Selects channel :=
  (Decoding.eq_iff_of_exhaustive Selects SelectsNone choose_of_selects choose_of_selectsNone
    selects_or_selectsNone value).1 channel

theorem choose_eq_error_iff :
    Document.choose Channel.options value = .error mismatch ↔ value.SelectsNone mismatch :=
  (Decoding.eq_iff_of_exhaustive Selects SelectsNone choose_of_selects choose_of_selectsNone
    selects_or_selectsNone value).2 mismatch

end Toml

namespace Config

/-- Why the value of a field is refused; that of an unknown field never is. -/
def IsMisfit (field : String) (value : Toml) (mismatch : Mismatch) : Prop :=
  match field with
  | "enabled" => value.IsNoTruth mismatch
  | "sink" => value.SelectsNone mismatch
  | "include_location" => value.IsNoTruth mismatch
  | _ => False

/-- The fields say what the settings are, those that are missing by their defaults. -/
structure IsSaidBy (config : Config) (fields : List (String × Toml)) : Prop where
  enabled : Decoding.IsReadAs Toml.IsTruth true (fields.lookup "enabled") config.enabled
  channel : Decoding.IsReadAs Toml.Selects .tracing (fields.lookup "sink") config.channel
  includeLocation :
    Decoding.IsReadAs Toml.IsTruth true (fields.lookup "include_location") config.includeLocation

theorem judges_visit : Decoding.Judges visit IsMisfit := by
  intro config field value mismatch
  unfold visit IsMisfit
  split
  · exact Decoding.map_eq_error_iff.trans Toml.boolean_eq_error_iff
  · exact Decoding.map_eq_error_iff.trans Toml.choose_eq_error_iff
  · exact Decoding.map_eq_error_iff.trans Toml.boolean_eq_error_iff
  · simp

theorem mem_fieldNames_of_isMisfit {field : String} {value : Toml} {mismatch : Mismatch}
    (h : IsMisfit field value mismatch) : field ∈ fieldNames := by
  unfold IsMisfit at h
  split at h
  case h_4 => exact h.elim
  all_goals decide

theorem visit_keeps {config next : Config} {field : String} {value : Toml}
    (h : config.visit field value = .ok next) :
    (field ≠ "enabled" → next.enabled = config.enabled) ∧
      (field ≠ "sink" → next.channel = config.channel) ∧
      (field ≠ "include_location" → next.includeLocation = config.includeLocation) := by
  unfold visit at h
  split at h
  case h_4 =>
    obtain rfl := Except.ok.inj h
    simp
  all_goals
    obtain ⟨_, -, rfl⟩ := Decoding.map_eq_ok_iff.mp h
    simp

theorem puts_enabled : Decoding.Puts visit "enabled" enabled fun value : Toml =>
    (Decoding.boolean value).map id :=
  Decoding.puts_of_map (fun _ _ => rfl) (fun _ _ => rfl) fun h => (visit_keeps h).1

theorem puts_channel : Decoding.Puts visit "sink" channel fun value : Toml =>
    (Document.choose Channel.options value).map id :=
  Decoding.puts_of_map (fun _ _ => rfl) (fun _ _ => rfl) fun h => (visit_keeps h).2.1

theorem puts_includeLocation :
    Decoding.Puts visit "include_location" includeLocation fun value : Toml =>
      (Decoding.boolean value).map id :=
  Decoding.puts_of_map (fun _ _ => rfl) (fun _ _ => rfl) fun h => (visit_keeps h).2.2

section

variable {fields : List (String × Toml)} {config : Config}

theorem givenTruth_iff {name : String} {truth : Bool} :
    Decoding.given fields name (fun value => (Decoding.boolean value).map id) true = .ok truth ↔
      Decoding.IsReadAs Toml.IsTruth true (fields.lookup name) truth := by
  refine Decoding.given_eq_ok_iff fun value result => ?_
  simpa [Decoding.map_eq_ok_iff] using Toml.boolean_eq_ok_iff

theorem givenChannel_iff {channel : Channel} :
    Decoding.given fields "sink"
        (fun value => (Document.choose Channel.options value).map id) .tracing = .ok channel ↔
      Decoding.IsReadAs Toml.Selects .tracing (fields.lookup "sink") channel := by
  refine Decoding.given_eq_ok_iff fun value result => ?_
  simpa [Decoding.map_eq_ok_iff] using Toml.choose_eq_ok_iff

theorem IsSaidBy.isAccepted (hnames : (fields.map Prod.fst).Nodup) (h : config.IsSaidBy fields) :
    Decoding.IsAccepted IsMisfit fields := by
  rw [Decoding.isAccepted_iff hnames]
  intro name value hvalue mismatch hmisfit
  unfold IsMisfit at hmisfit
  split at hmisfit
  · have henabled := h.enabled
    rw [hvalue] at henabled
    exact hmisfit.1 _ henabled
  · have hchannel := h.channel
    rw [hvalue] at hchannel
    exact nomatch (Toml.choose_of_selects hchannel).symm.trans (Toml.choose_of_selectsNone hmisfit)
  · have hlocation := h.includeLocation
    rw [hvalue] at hlocation
    exact hmisfit.1 _ hlocation
  · exact hmisfit

theorem visitFields_eq_ok_iff (hnames : (fields.map Prod.fst).Nodup) :
    Decoding.visitFields visit {} fields = .ok config ↔ config.IsSaidBy fields := by
  constructor
  · intro h
    exact {
      enabled := givenTruth_iff.mp (puts_enabled.given_eq hnames h)
      channel := givenChannel_iff.mp (puts_channel.given_eq hnames h)
      includeLocation := givenTruth_iff.mp (puts_includeLocation.given_eq hnames h) }
  · intro h
    obtain ⟨final, hfinal⟩ :=
      (Decoding.exists_visitFields_eq_ok_iff judges_visit {}).mpr (h.isAccepted hnames)
    have henabled := puts_enabled.part_eq hnames hfinal (givenTruth_iff.mpr h.enabled)
    have hchannel := puts_channel.part_eq hnames hfinal (givenChannel_iff.mpr h.channel)
    have hlocation :=
      puts_includeLocation.part_eq hnames hfinal (givenTruth_iff.mpr h.includeLocation)
    have hconfig : final = config := by
      obtain ⟨enabled, channel, includeLocation⟩ := final
      cases henabled
      cases hchannel
      cases hlocation
      rfl
    exact hconfig ▸ hfinal

theorem IsSaidBy.congr {others : List (String × Toml)}
    (h : ∀ name ∈ fieldNames, fields.lookup name = others.lookup name)
    (hsaid : config.IsSaidBy fields) : config.IsSaidBy others := by
  obtain ⟨henabled, hchannel, hlocation⟩ := hsaid
  simp only [fieldNames, List.forall_mem_cons] at h
  obtain ⟨h1, h2, h3, -⟩ := h
  exact ⟨h1 ▸ henabled, h2 ▸ hchannel, h3 ▸ hlocation⟩

theorem decode_table_eq_ok_iff (hnames : (fields.map Prod.fst).Nodup) :
    decode (Toml.table fields) = .ok config ↔ config.IsSaidBy fields := by
  have hsorted : config.IsSaidBy (Decoding.ascending fields) ↔ config.IsSaidBy fields :=
    ⟨.congr fun name _ => Decoding.lookup_ascending hnames name,
      .congr fun name _ => (Decoding.lookup_ascending hnames name).symm⟩
  rw [decode, Decoding.record_of_mapping rfl,
    visitFields_eq_ok_iff (Decoding.nodup_ascending hnames), hsorted]

theorem decode_table_eq_error_iff (hnames : (fields.map Prod.fst).Nodup) {fault : Fault} :
    decode (Toml.table fields) = .error fault ↔
      ∃ name mismatch, Decoding.IsFirstRefused IsMisfit fields name mismatch ∧
        fault = ⟨mismatch, some name⟩ := by
  rw [decode, Decoding.record_of_mapping rfl]
  exact Decoding.visitFields_ascending_eq_error_iff judges_visit hnames {}

theorem decode_table_congr {others : List (String × Toml)} (hfields : (fields.map Prod.fst).Nodup)
    (hothers : (others.map Prod.fst).Nodup)
    (h : ∀ name ∈ fieldNames, fields.lookup name = others.lookup name) :
    decode (Toml.table fields) = decode (Toml.table others) := by
  cases hdecode : decode (Toml.table fields) with
  | ok config =>
      have hsaid := (decode_table_eq_ok_iff hfields).mp hdecode
      exact ((decode_table_eq_ok_iff hothers).mpr (hsaid.congr h)).symm
  | error fault =>
      obtain ⟨name, mismatch, hfirst, hfault⟩ := (decode_table_eq_error_iff hfields).mp hdecode
      refine ((decode_table_eq_error_iff hothers).mpr ⟨name, mismatch, ?_, hfault⟩).symm
      exact Decoding.isFirstRefused_congr mem_fieldNames_of_isMisfit h hfirst

theorem decode_array_eq_ok_iff {items : List Toml} :
    decode (Toml.array items) = .ok config ↔
      items.length ≤ fieldNames.length ∧
        decode (Toml.table (fieldNames.zip items)) = .ok config := by
  have hnames : ((fieldNames.zip items).map Prod.fst).Nodup :=
    Decoding.nodup_zip (by decide) items
  rw [decode_table_eq_ok_iff hnames, decode, Decoding.record_of_sequence_eq_ok_iff rfl,
    visitFields_eq_ok_iff hnames]
  constructor
  · rintro ⟨hsaid, -, hlength⟩
    exact ⟨hlength, hsaid⟩
  · rintro ⟨hlength, hsaid⟩
    exact ⟨hsaid, Nat.zero_le _, hlength⟩

theorem decode_of_isScalar {value : Toml} (h : value.IsScalar) :
    decode value = .error ⟨.wrongType value.layer.shape (.record typeName), none⟩ := by
  cases value with
  | array items => exact h.elim
  | table entries => exact h.elim
  | _ => rfl

end

section

variable {text : String} {entries : List (String × Toml)} {value : Toml}

theorem ofText_of_read? (h : Toml.read? text = some entries) :
    ofText text = ofDocument entries := by
  rw [ofText, h]

theorem ofDocument_eq_ok_iff (h : entries.lookup sectionName = some value) {config : Config} :
    ofDocument entries = .ok config ↔ decode value = .ok config := by
  rw [ofDocument, h]
  dsimp only
  cases decode value <;> simp

theorem ofDocument_eq_error_iff (h : entries.lookup sectionName = some value) {error : Error} :
    ofDocument entries = .error error ↔
      ∃ fault, decode value = .error fault ∧ error = .settings fault := by
  rw [ofDocument, h]
  dsimp only
  cases decode value <;> simp [eq_comm]

theorem ofDocument_congr {others : List (String × Toml)}
    (h : entries.lookup sectionName = others.lookup sectionName) :
    ofDocument entries = ofDocument others := by
  rw [ofDocument, ofDocument, h]

/-- The fields that the section of a document gives.  The items of an array stand for the fields that
are declared first. -/
def sectionFields (entries : List (String × Toml)) : List (String × Toml) :=
  match entries.lookup sectionName with
  | some (.table fields) => fields
  | some (.array items) => fieldNames.zip items
  | _ => []

theorem isSaidBy_sectionFields (hread : Toml.read? text = some entries) {config : Config}
    (h : ofText text = .ok config) : config.IsSaidBy (sectionFields entries) := by
  rw [ofText_of_read? hread] at h
  rw [sectionFields]
  cases hsection : entries.lookup sectionName with
  | none =>
      rw [ofDocument, hsection] at h
      obtain rfl := Except.ok.inj h
      exact ⟨rfl, rfl, rfl⟩
  | some value =>
      have hdecode := (ofDocument_eq_ok_iff hsection).mp h
      cases value with
      | table fields =>
          exact (decode_table_eq_ok_iff (Toml.nodup_of_lookup hread hsection)).mp hdecode
      | array items =>
          have hnames := Decoding.nodup_zip (by decide : fieldNames.Nodup) items
          exact (decode_table_eq_ok_iff hnames).mp (decode_array_eq_ok_iff.mp hdecode).2
      | _ =>
          cases hdecode.symm.trans (decode_of_isScalar trivial)

end

/-- What the settings of a document are.  Without the section they are the defaults, and otherwise
nothing but the section counts.  A table is read field by field: the settings are what its known
fields say, each that is missing having its default; or else the first known field, in ascending
order of the names, that is refused for what it holds is reported, by its name.  An array stands for
the table that holds its items under the first names in the order of declaration, and it has no more
items than there are names.  Nothing else is a section. -/
theorem sections_read {text : String} {entries : List (String × Toml)}
    (h : Toml.read? text = some entries) :
    (entries.lookup sectionName = none → ofText text = .ok {}) ∧
    (∀ other others, Toml.read? other = some others →
      others.lookup sectionName = entries.lookup sectionName → ofText other = ofText text) ∧
    (∀ fields, entries.lookup sectionName = some (.table fields) →
      (∀ config, ofText text = .ok config ↔ config.IsSaidBy fields) ∧
      (∀ error, ofText text = .error error ↔
        ∃ name mismatch, Decoding.IsFirstRefused IsMisfit fields name mismatch ∧
          error = .settings ⟨mismatch, some name⟩ ∧
          error.message = "Invalid deprecation config: " ++
            (mismatch.message ++ "\n" ++ ("in `" ++ name ++ "`\n"))) ∧
      ∀ other others known, Toml.read? other = some others →
        others.lookup sectionName = some (.table known) →
        (∀ name ∈ fieldNames, known.lookup name = fields.lookup name) →
        ofText other = ofText text) ∧
    (∀ items, entries.lookup sectionName = some (.array items) → ∀ config,
      ofText text = .ok config ↔ items.length ≤ 3 ∧
        ofDocument [(sectionName, .table (fieldNames.zip items))] = .ok config) ∧
    ∀ value, entries.lookup sectionName = some value → value.IsScalar →
      ofText text =
        .error (.settings ⟨.wrongType value.layer.shape (.record typeName), none⟩) := by
  rw [ofText_of_read? h]
  refine ⟨fun hnone => ?_, fun other others hread hsame => ?_, fun fields hfields => ?_,
    fun items hitems config => ?_, fun value hvalue hscalar => ?_⟩
  · rw [ofDocument, hnone]
  · rw [ofText_of_read? hread]
    exact ofDocument_congr hsame
  · have hnames := Toml.nodup_of_lookup h hfields
    refine ⟨fun config => ?_, fun error => ?_, fun other others known hread hknown hsame => ?_⟩
    · rw [ofDocument_eq_ok_iff hfields, decode_table_eq_ok_iff hnames]
    · rw [ofDocument_eq_error_iff hfields]
      simp only [decode_table_eq_error_iff hnames]
      constructor
      · rintro ⟨_, ⟨name, mismatch, hfirst, rfl⟩, rfl⟩
        exact ⟨name, mismatch, hfirst, rfl, rfl⟩
      · rintro ⟨name, mismatch, hfirst, rfl, -⟩
        exact ⟨⟨mismatch, some name⟩, ⟨name, mismatch, hfirst, rfl⟩, rfl⟩
    · have hdecode := decode_table_congr (Toml.nodup_of_lookup hread hknown) hnames hsame
      rw [ofText_of_read? hread, ofDocument, ofDocument, hknown, hfields]
      dsimp only
      rw [hdecode]
  · refine (ofDocument_eq_ok_iff hitems).trans (decode_array_eq_ok_iff.trans ?_)
    exact and_congr_right fun _ => (ofDocument_eq_ok_iff List.lookup_cons_self).symm
  · exact (ofDocument_eq_error_iff hvalue).mpr ⟨_, decode_of_isScalar hscalar, rfl⟩

/-- A section of two items is read, and the table of these two fields is read alike. -/
theorem positional_section_read :
    ∃ entries items, Toml.read? "deprecation = [false, \"none\"]\n" = some entries ∧
      entries.lookup sectionName = some (.array items) ∧
      ofText "deprecation = [false, \"none\"]\n" = .ok ⟨false, .discard, true⟩ ∧
      ofDocument [(sectionName, .table (fieldNames.zip items))] = .ok ⟨false, .discard, true⟩ := by
  -- Numbers with a fraction keep documents from being compared, but the shapes of values can be.
  have hshape : (((Toml.read? "deprecation = [false, \"none\"]\n").bind fun entries =>
      entries.lookup sectionName).map fun value => value.layer.shape) = some .sequence := by
    decide +kernel
  have hread : ofText "deprecation = [false, \"none\"]\n" = .ok ⟨false, .discard, true⟩ := by
    decide +kernel
  obtain ⟨value, hvalue, hsequence⟩ := Option.map_eq_some_iff.mp hshape
  obtain ⟨entries, hentries, hsection⟩ := Option.bind_eq_some_iff.mp hvalue
  obtain ⟨items, rfl⟩ : ∃ items, value = .array items := by
    cases value with
    | array items => exact ⟨items, rfl⟩
    | _ => cases hsequence
  obtain ⟨-, -, -, harray, -⟩ := sections_read hentries
  exact ⟨entries, items, hentries, hsection, hread, ((harray items hsection _).mp hread).2⟩

end Config

end Deprecation
