import Deprecation.Config.Override
import Deprecation.Proofs.Reading.Settings
import Mathlib.Data.List.DropRight

/-!
Which values of the environment variables are known words.  A value counts without the blanks around
it, and letters count alike in both cases, but only those of ASCII: the lowercase form of any other
character has a character outside ASCII, or is the letter k, and no known word has either.  So every
word that a settings file may give for the channel is known to the variable, with the same meaning.
-/

namespace Deprecation

namespace Text

variable {text core : List Char} {c : Char}

/-- The core of a text has nothing but blanks around it there, and begins and ends with none. -/
structure IsCore (core text : List Char) : Prop where
  surrounded : ∃ before after, text = before ++ core ++ after ∧
    (∀ c ∈ before, isBlank c = true) ∧ ∀ c ∈ after, isBlank c = true
  head : ∀ c, core.head? = some c → isBlank c = false
  last : ∀ c, core.getLast? = some c → isBlank c = false

/-- The texts are equal up to the case of the letters of ASCII, the only ones that `Char.toLower`
changes. -/
def EqIgnoringCase (first second : List Char) : Prop :=
  first.map Char.toLower = second.map Char.toLower

/-- Without the blanks around it the text is the word, up to the case of the letters of ASCII. -/
def Spells (text word : String) : Prop :=
  ∃ core, IsCore core text.toList ∧ EqIgnoringCase core word.toList

theorem dropWhile_isBlank_eq_self (h : ∀ c, text.head? = some c → isBlank c = false) :
    text.dropWhile isBlank = text := by
  cases text with
  | nil => rfl
  | cons c rest => rw [List.dropWhile_cons, h c rfl, if_neg Bool.false_ne_true]

theorem head?_dropWhile_isBlank (text : List Char)
    (h : (text.dropWhile isBlank).head? = some c) : isBlank c = false := by
  have hhead := List.head?_dropWhile_not isBlank text
  rwa [h] at hhead

theorem isCore_trim (text : List Char) : IsCore (trim text) text := by
  have hsplit : trim text ++ (text.dropWhile isBlank).rtakeWhile isBlank =
      text.dropWhile isBlank := List.rdropWhile_append_rtakeWhile
  refine ⟨⟨text.takeWhile isBlank, (text.dropWhile isBlank).rtakeWhile isBlank, ?_,
    fun c => List.mem_takeWhile_imp, fun c => List.mem_rtakeWhile_imp⟩, fun c hc => ?_,
    fun c hc => ?_⟩
  · rw [List.append_assoc, hsplit, List.takeWhile_append_dropWhile]
  · apply head?_dropWhile_isBlank text
    rw [← hsplit, List.head?_append, hc, Option.some_or]
  · apply head?_dropWhile_isBlank (text.dropWhile isBlank).reverse
    rwa [← List.getLast?_reverse]

theorem IsCore.trim_eq (h : IsCore core text) : trim text = core := by
  obtain ⟨before, after, rfl, hbefore, hafter⟩ := h.surrounded
  have hlast : core.reverse.dropWhile isBlank = core.reverse := by
    refine dropWhile_isBlank_eq_self fun c hc => h.last c ?_
    rwa [← List.head?_reverse]
  have hend : trimEnd (core ++ after) = core := by
    rw [trimEnd, List.reverse_append, List.dropWhile_append_of_pos (by simpa using hafter), hlast,
      List.reverse_reverse]
  rw [trim, List.append_assoc, List.dropWhile_append_of_pos hbefore]
  cases core with
  | nil =>
      rw [List.nil_append, List.dropWhile_eq_nil_iff.mpr hafter]
      rfl
  | cons c rest =>
      have hstart : (c :: rest ++ after).dropWhile isBlank = c :: rest ++ after :=
        dropWhile_isBlank_eq_self h.head
      rw [hstart, hend]

theorem trim_eq_iff : trim text = core ↔ IsCore core text :=
  ⟨fun h => h ▸ isCore_trim text, IsCore.trim_eq⟩

theorem isCore_self (h : ∀ c ∈ text, isBlank c = false) : IsCore text text :=
  ⟨⟨[], [], by simp, by simp, by simp⟩, fun c hc => h c (List.mem_of_head? hc),
    fun c hc => h c (List.mem_of_getLast? hc)⟩

theorem toLower_of_isBlank (h : isBlank c = true) : c.toLower = c := by
  have hblanks : (blanks.all fun blank => blank.toLower = blank) = true := by decide
  simpa using List.all_eq_true.mp hblanks c (List.contains_iff_mem.mp h)

theorem toLower_of_not_capital (h : ¬ (0x41 ≤ c.toNat ∧ c.toNat ≤ 0x5A)) : c.toLower = c := by
  refine dif_neg ?_
  rintro ⟨hge, hle⟩
  exact h ⟨UInt32.le_iff_toNat_le.mp hge, UInt32.le_iff_toNat_le.mp hle⟩

theorem toLower_of_le (h : 128 ≤ c.toNat) : c.toLower = c := by
  apply toLower_of_not_capital
  omega

/-- But for the letters A to Z and the sign for kelvin, the runs lead to characters outside ASCII. -/
theorem lowercaseRuns_cases : ∀ run ∈ lowercaseRuns,
    run = (0x41, 0x5A, 1, 0x61) ∨ 128 ≤ run.1 ∧
      (run = (0x212A, 0x212A, 1, 0x6B) ∨ 128 ≤ run.2.2.2 ∧
        (run.2.2.2 + (run.2.1 - run.1) < 0xD800 ∨
          0xDFFF < run.2.2.2 ∧ run.2.2.2 + (run.2.1 - run.1) < 0x110000)) := by
  decide +kernel

theorem toNat_ofNat {n : Nat} (h : n < 0xD800 ∨ 0xDFFF < n ∧ n < 0x110000) :
    (Char.ofNat n).toNat = n := by
  rw [Char.ofNat, dif_pos h]
  rfl

theorem lowercaseChar_of_lt (h : c.toNat < 128) : lowercaseChar c = [c.toLower] := by
  have hletters : ∀ offset < 26, Char.ofNat (0x61 + offset) =
      (Char.ofNat (0x41 + offset)).toLower := by
    decide
  rw [lowercaseChar]
  split
  · next hc =>
    rw [hc] at h
    exact absurd h (by decide)
  split
  · next first last step target hfind =>
    have hrun := List.find?_some hfind
    simp only [Bool.and_eq_true, decide_eq_true_eq] at hrun
    rcases lowercaseRuns_cases _ (List.mem_of_find?_eq_some hfind) with hcapitals | ⟨hfirst, -⟩
    · obtain ⟨rfl, rfl, rfl, rfl⟩ := by simpa using hcapitals
      have hc : 0x41 + (c.toNat - 0x41) = c.toNat := by omega
      rw [hletters _ (by omega), hc, Char.ofNat_toNat]
    · dsimp only at hfirst
      omega
  · next hfind =>
    rw [toLower_of_not_capital]
    have hcapitals := List.find?_eq_none.mp hfind (0x41, 0x5A, 1, 0x61) List.mem_cons_self
    simpa [Nat.mod_one] using hcapitals

theorem exists_mem_lowercaseChar (h : 128 ≤ c.toNat) :
    ∃ d ∈ lowercaseChar c, 128 ≤ d.toNat ∨ d = 'k' := by
  rw [lowercaseChar]
  split
  · exact ⟨'\u0307', by decide, Or.inl (by decide)⟩
  split
  · next first last step target hfind =>
    have hrun := List.find?_some hfind
    simp only [Bool.and_eq_true, decide_eq_true_eq] at hrun
    refine ⟨_, List.mem_singleton_self _, ?_⟩
    rcases lowercaseRuns_cases _ (List.mem_of_find?_eq_some hfind) with
      hcapitals | ⟨-, hkelvin | ⟨htarget, hvalid⟩⟩
    · obtain ⟨-, rfl, -, -⟩ := by simpa using hcapitals
      omega
    · -- the sign for kelvin alone comes from outside ASCII to a letter in it
      obtain ⟨rfl, rfl, rfl, rfl⟩ := by simpa using hkelvin
      have hoffset : c.toNat - 0x212A = 0 := by omega
      right
      rw [hoffset]
    · dsimp only at htarget hvalid
      left
      rw [toNat_ofNat (by omega)]
      omega
  · exact ⟨c, List.mem_singleton_self c, Or.inl h⟩

theorem lowercaseIn_of_lt (h : c.toNat < 128) (before after : List Char) :
    lowercaseIn before c after = [c.toLower] := by
  have hsigma : c ≠ 'Σ' := by
    rintro rfl
    exact absurd h (by decide)
  rw [lowercaseIn, if_neg hsigma, lowercaseChar_of_lt h]

theorem exists_mem_lowercaseIn (h : 128 ≤ c.toNat) (before after : List Char) :
    ∃ d ∈ lowercaseIn before c after, 128 ≤ d.toNat ∨ d = 'k' := by
  rw [lowercaseIn]
  split
  · split
    · exact ⟨'ς', List.mem_singleton_self _, Or.inl (by decide)⟩
    · exact ⟨'σ', List.mem_singleton_self _, Or.inl (by decide)⟩
  · exact exists_mem_lowercaseChar h

theorem lowercaseFrom_eq_iff {word : List Char} (h : ∀ d ∈ word, d.toNat < 128 ∧ d ≠ 'k')
    (before : List Char) : lowercaseFrom before text = word ↔ text.map Char.toLower = word := by
  induction text generalizing before word with
  | nil => rfl
  | cons c after ih =>
      rw [lowercaseFrom, List.map_cons]
      -- In ASCII one character becomes one, whatever stands around it; outside it the lowercase form
      -- has a character that the word has not.
      rcases Nat.lt_or_ge c.toNat 128 with hc | hc
      · rw [lowercaseIn_of_lt hc, List.singleton_append]
        cases word with
        | nil => simp
        | cons d rest =>
            rw [List.forall_mem_cons] at h
            rw [List.cons_eq_cons, List.cons_eq_cons, ih h.2]
      · constructor
        · rintro rfl
          obtain ⟨d, hd, hoff⟩ := exists_mem_lowercaseIn hc before after
          have hword := h d (List.mem_append_left _ hd)
          rcases hoff with hoff | hoff
          · exact absurd hword.1 (Nat.not_lt.mpr hoff)
          · exact absurd hoff hword.2
        · rintro rfl
          have hword := h _ List.mem_cons_self
          rw [toLower_of_le hc] at hword
          exact absurd hword.1 (Nat.not_lt.mpr hc)

/-- The word has only characters of ASCII, none of which is a capital letter, the letter k, or
blank. -/
def IsPlain (word : String) : Prop :=
  ∀ c ∈ word.toList, c.toNat < 128 ∧ c ≠ 'k' ∧ c.toLower = c ∧ isBlank c = false

instance (word : String) : Decidable (IsPlain word) :=
  List.decidableBAll _ word.toList

variable {word : String}

theorem IsPlain.map_toLower (h : IsPlain word) : word.toList.map Char.toLower = word.toList := by
  have hself : word.toList.map Char.toLower = word.toList.map id :=
    List.map_congr_left fun c hc => (h c hc).2.2.1
  rw [hself, List.map_id]

theorem IsPlain.spells_self (h : IsPlain word) : Spells word word :=
  ⟨word.toList, isCore_self fun c hc => (h c hc).2.2.2, rfl⟩

theorem IsPlain.not_spells {text : String} (h : IsPlain word) (hcore : IsCore core text.toList)
    (hc : c ∈ core) (hodd : isBlank c = true ∨ 128 ≤ c.toNat) : ¬ Spells text word := by
  rintro ⟨other, hother, hvariant⟩
  obtain rfl : other = core := hother.trim_eq.symm.trans hcore.trim_eq
  rw [EqIgnoringCase, h.map_toLower] at hvariant
  have hword : c.toLower ∈ word.toList := by
    rw [← hvariant]
    exact List.mem_map_of_mem hc
  rcases hodd with hblank | hle
  · rw [toLower_of_isBlank hblank] at hword
    exact Bool.false_ne_true ((h c hword).2.2.2.symm.trans hblank)
  · rw [toLower_of_le hle] at hword
    exact absurd (h c hword).1 (Nat.not_lt.mpr hle)

end Text

theorem Environment.warningsVariable_ne : warningsVariable ≠ channelVariable := by
  decide

namespace Config

open Text

theorem normalWord_eq_iff {text word : String} (h : IsPlain word) :
    normalWord text = word ↔ Spells text word := by
  have hascii : ∀ d ∈ word.toList, d.toNat < 128 ∧ d ≠ 'k' :=
    fun d hd => ⟨(h d hd).1, (h d hd).2.1⟩
  calc
    normalWord text = word ↔ lowercase (trim text.toList) = word.toList := by
      rw [normalWord, ← String.toList_inj, String.toList_ofList]
    _ ↔ (trim text.toList).map Char.toLower = word.toList := lowercaseFrom_eq_iff hascii []
    _ ↔ EqIgnoringCase (trim text.toList) word.toList := by
      rw [EqIgnoringCase, h.map_toLower]
    _ ↔ Spells text word :=
      ⟨fun hvariant => ⟨_, isCore_trim _, hvariant⟩,
        fun ⟨core, hcore, hvariant⟩ => by rwa [hcore.trim_eq]⟩

/-- The settings as they are overridden by the variables that a lookup finds. -/
def overrideFrom (config : Config) (lookup : String → Option String) : Config :=
  config.override (Environment.ofLookup lookup)

/-- A lookup that finds nothing for one variable, and all others as before. -/
def without (name : String) (lookup : String → Option String) : String → Option String :=
  fun other => if other = name then none else lookup other

theorem without_self (name : String) (lookup : String → Option String) :
    without name lookup name = none :=
  if_pos rfl

theorem without_of_ne {name other : String} (h : other ≠ name)
    (lookup : String → Option String) : without name lookup other = lookup other :=
  if_neg h

/-- As the value of a variable the text settles a part of the settings, whatever it was, and whatever
other variables say. -/
def Sets {β : Type} (name text : String) (part : Config → β) (value : β) : Prop :=
  ∀ (lookup : String → Option String) (config : Config), lookup name = some text →
    part (config.overrideFrom lookup) = value

/-- As the value of a variable the text is as good as no value. -/
def IsIgnored (name text : String) : Prop :=
  ∀ (lookup : String → Option String) (config : Config), lookup name = some text →
    config.overrideFrom lookup = config.overrideFrom (without name lookup)

/-- A variable alone governs a part of the settings: the part is what its value selects, and stays as
it is if there is no value or the value selects nothing. -/
def Governs {β : Type} (name : String) (select : String → Option β) (part : Config → β) : Prop :=
  ∀ (lookup : String → Option String) (config : Config),
    part (config.overrideFrom lookup) = ((lookup name).bind select).getD (part config)

theorem governs_enabled : Governs Environment.warningsVariable switch? enabled :=
  fun _ _ => rfl

theorem governs_channel : Governs Environment.channelVariable channel? channel :=
  fun _ _ => rfl

theorem overrideFrom_congr {first second : String → Option String}
    (hwarnings : (first Environment.warningsVariable).bind switch? =
      (second Environment.warningsVariable).bind switch?)
    (hchannel : (first Environment.channelVariable).bind channel? =
      (second Environment.channelVariable).bind channel?) (config : Config) :
    config.overrideFrom first = config.overrideFrom second := by
  rw [overrideFrom, override, Environment.ofLookup, hwarnings, hchannel]
  rfl

section

variable {β : Type} [Nontrivial β] {name text : String} {select : String → Option β}
  {part : Config → β}

theorem Governs.sets_iff (h : Governs name select part)
    (hpart : ∀ value, ∃ config, part config = value) {value : β} :
    Sets name text part value ↔ select text = some value := by
  constructor
  · intro hsets
    obtain ⟨other, hother⟩ := exists_ne value
    obtain ⟨config, rfl⟩ := hpart other
    have hvalue := hsets (fun _ => some text) config rfl
    rw [h, Option.bind_some] at hvalue
    cases hselect : select text with
    | none =>
        rw [hselect] at hvalue
        exact absurd hvalue hother
    | some found =>
        rw [hselect] at hvalue
        exact congrArg some hvalue
  · intro hselect lookup config hlookup
    rw [h, hlookup, Option.bind_some, hselect, Option.getD_some]

theorem Governs.select_of_isIgnored (h : Governs name select part)
    (hpart : ∀ value, ∃ config, part config = value) (hignored : IsIgnored name text) :
    select text = none := by
  cases hselect : select text with
  | none => rfl
  | some found =>
      obtain ⟨other, hother⟩ := exists_ne found
      obtain ⟨config, rfl⟩ := hpart other
      have hsame := congrArg part (hignored (fun _ => some text) config rfl)
      rw [h, h, without_self, Option.bind_some, hselect] at hsame
      exact absurd hsame.symm hother

end

instance : Nontrivial Channel :=
  ⟨.tracing, .capture, Channel.noConfusion⟩

section

variable {text : String}

theorem sets_enabled_iff {truth : Bool} :
    Sets Environment.warningsVariable text enabled truth ↔ switch? text = some truth :=
  governs_enabled.sets_iff fun truth => ⟨{ enabled := truth }, rfl⟩

theorem sets_channel_iff {selected : Channel} :
    Sets Environment.channelVariable text channel selected ↔ channel? text = some selected :=
  governs_channel.sets_iff fun selected => ⟨{ channel := selected }, rfl⟩

theorem isIgnored_warnings_iff :
    IsIgnored Environment.warningsVariable text ↔ switch? text = none := by
  constructor
  · exact governs_enabled.select_of_isIgnored fun truth => ⟨{ enabled := truth }, rfl⟩
  · intro h lookup config hlookup
    apply overrideFrom_congr
    · rw [hlookup, without_self, Option.bind_some, h, Option.bind_none]
    · rw [without_of_ne Environment.warningsVariable_ne.symm]

theorem isIgnored_channel_iff :
    IsIgnored Environment.channelVariable text ↔ channel? text = none := by
  constructor
  · exact governs_channel.select_of_isIgnored fun selected => ⟨{ channel := selected }, rfl⟩
  · intro h lookup config hlookup
    apply overrideFrom_congr
    · rw [without_of_ne Environment.warningsVariable_ne]
    · rw [hlookup, without_self, Option.bind_some, h, Option.bind_none]

theorem lookup_normalWord_eq_some_iff {β : Type} {words : List (String × β)} {value : β}
    (hplain : ∀ word ∈ words.map Prod.fst, IsPlain word) (hnames : (words.map Prod.fst).Nodup) :
    words.lookup (normalWord text) = some value ↔
      ∃ word, (word, value) ∈ words ∧ Spells text word := by
  rw [Decoding.lookup_eq_some_iff hnames]
  constructor
  · intro hmem
    have hword := hplain _ (List.mem_map_of_mem hmem)
    exact ⟨normalWord text, hmem, (normalWord_eq_iff hword).mp rfl⟩
  · rintro ⟨word, hmem, hspells⟩
    have hword := hplain _ (List.mem_map_of_mem hmem)
    rwa [(normalWord_eq_iff hword).mpr hspells]

theorem lookup_normalWord_eq_none_iff {β : Type} {words : List (String × β)}
    (hplain : ∀ word ∈ words.map Prod.fst, IsPlain word) :
    words.lookup (normalWord text) = none ↔ ∀ word ∈ words.map Prod.fst, ¬ Spells text word := by
  rw [Decoding.lookup_eq_none_iff]
  constructor
  · intro hnone word hword hspells
    rw [(normalWord_eq_iff (hplain word hword)).mpr hspells] at hnone
    exact hnone hword
  · intro hnone hword
    exact hnone _ hword ((normalWord_eq_iff (hplain _ hword)).mp rfl)

theorem isPlain_of_mem_switchWords : ∀ {word}, word ∈ switchWords.map Prod.fst → IsPlain word := by
  decide

theorem isPlain_of_mem_channelWords :
    ∀ {word}, word ∈ channelWords.map Prod.fst → IsPlain word := by
  decide

theorem switch?_eq_some_iff {truth : Bool} :
    switch? text = some truth ↔ ∃ word, (word, truth) ∈ switchWords ∧ Spells text word :=
  lookup_normalWord_eq_some_iff (fun _ => isPlain_of_mem_switchWords) (by decide)

theorem switch?_eq_none_iff :
    switch? text = none ↔ ∀ word ∈ switchWords.map Prod.fst, ¬ Spells text word :=
  lookup_normalWord_eq_none_iff fun _ => isPlain_of_mem_switchWords

theorem channel?_eq_some_iff {selected : Channel} :
    channel? text = some selected ↔
      ∃ word, (word, selected) ∈ channelWords ∧ Spells text word :=
  lookup_normalWord_eq_some_iff (fun _ => isPlain_of_mem_channelWords) (by decide)

theorem channel?_eq_none_iff :
    channel? text = none ↔ ∀ word ∈ channelWords.map Prod.fst, ¬ Spells text word :=
  lookup_normalWord_eq_none_iff fun _ => isPlain_of_mem_channelWords

theorem mem_channelWords_iff {word : String} {selected : Channel} :
    (word, selected) ∈ channelWords ↔
      word = selected.word ∨ word = "null" ∧ selected = .discard := by
  cases selected <;> simp [channelWords, Channel.options, Channel.all, Channel.word]

theorem sets_channel_of_word (selected : Channel) :
    Sets Environment.channelVariable selected.word channel selected := by
  have hmem : (selected.word, selected) ∈ channelWords := mem_channelWords_iff.mpr (Or.inl rfl)
  have hplain := isPlain_of_mem_channelWords (List.mem_map_of_mem hmem)
  exact sets_channel_iff.mpr (channel?_eq_some_iff.mpr ⟨_, hmem, hplain.spells_self⟩)

end

/-- Which values of the variables are known.  Without the blanks around it, and up to the case of the
letters of ASCII, a value that switches warnings off or on is one of four words each, and one that
selects a channel is the word that a settings file gives for it, or another one for no channel at all.
Everything else is as good as no value, such as a text with a blank or a character outside ASCII
among what is not blank.  What a document gives for the channel the variable knows as well, with the
same meaning, but a document has to give the very word. -/
theorem values_recognised :
    (∀ text,
      (Sets Environment.warningsVariable text enabled false ↔
        ∃ word ∈ ["0", "false", "off", "no"], Spells text word) ∧
      (Sets Environment.warningsVariable text enabled true ↔
        ∃ word ∈ ["1", "true", "on", "yes"], Spells text word) ∧
      (IsIgnored Environment.warningsVariable text ↔
        ∀ word ∈ ["0", "false", "off", "no", "1", "true", "on", "yes"], ¬ Spells text word) ∧
      (∀ selected, Sets Environment.channelVariable text channel selected ↔
        Spells text selected.word ∨ selected = .discard ∧ Spells text "null") ∧
      (IsIgnored Environment.channelVariable text ↔
        ∀ word ∈ ["tracing", "capture", "none", "null"], ¬ Spells text word) ∧
      ∀ core c, IsCore core text.toList → c ∈ core → isBlank c = true ∨ 128 ≤ c.toNat →
        IsIgnored Environment.warningsVariable text ∧
          IsIgnored Environment.channelVariable text) ∧
    (∀ document entries text config, Toml.read? document = some entries →
      (sectionFields entries).lookup "sink" = some (.string text) →
        ofText document = .ok config →
          text = config.channel.word ∧
            Sets Environment.channelVariable text channel config.channel) ∧
    Sets Environment.channelVariable "null" channel .discard ∧
    ofText "[deprecation]\nsink = \"null\"\n" =
      .error (.settings
        ⟨.unknownVariant "null" ["tracing", "capture", "none"], some "sink"⟩) := by
  have hswitch : switchWords.map Prod.fst = ["0", "false", "off", "no", "1", "true", "on", "yes"] :=
    rfl
  have hchannels : channelWords.map Prod.fst = ["tracing", "capture", "none", "null"] := rfl
  refine ⟨fun text => ⟨?_, ?_, ?_, fun selected => ?_, ?_, fun core c hcore hc hodd => ⟨?_, ?_⟩⟩,
    fun document entries text config hread hsink hconfig => ?_, ?_, ?_⟩
  · rw [sets_enabled_iff, switch?_eq_some_iff]
    simp [switchWords]
  · rw [sets_enabled_iff, switch?_eq_some_iff]
    simp [switchWords]
  · rw [isIgnored_warnings_iff, switch?_eq_none_iff, hswitch]
  · rw [sets_channel_iff, channel?_eq_some_iff]
    constructor
    · rintro ⟨word, hmem, hspells⟩
      rcases mem_channelWords_iff.mp hmem with rfl | ⟨rfl, rfl⟩
      · exact Or.inl hspells
      · exact Or.inr ⟨rfl, hspells⟩
    · rintro (hspells | ⟨rfl, hspells⟩)
      · exact ⟨_, mem_channelWords_iff.mpr (Or.inl rfl), hspells⟩
      · exact ⟨_, mem_channelWords_iff.mpr (Or.inr ⟨rfl, rfl⟩), hspells⟩
  · rw [isIgnored_channel_iff, channel?_eq_none_iff, hchannels]
  · refine isIgnored_warnings_iff.mpr (switch?_eq_none_iff.mpr fun word hword => ?_)
    exact (isPlain_of_mem_switchWords hword).not_spells hcore hc hodd
  · refine isIgnored_channel_iff.mpr (channel?_eq_none_iff.mpr fun word hword => ?_)
    exact (isPlain_of_mem_channelWords hword).not_spells hcore hc hodd
  · have hselects := (isSaidBy_sectionFields hread hconfig).channel
    rw [hsink] at hselects
    rcases hselects with hword | ⟨content, -, htable⟩
    · obtain rfl := Toml.string.inj hword
      exact ⟨rfl, sets_channel_of_word config.channel⟩
    · cases htable
  · have hnull : IsPlain "null" := isPlain_of_mem_channelWords (by decide)
    exact sets_channel_iff.mpr (channel?_eq_some_iff.mpr ⟨"null", by decide, hnull.spells_self⟩)
  · decide +kernel

/-- Blanks around a word and capital letters do not matter, but the long s is no letter s, although
its capital form is one.  A document that selects the buffer does so by a word which the variable
knows. -/
theorem variants_told_apart :
    Sets Environment.warningsVariable "\u00a0YES\u3000" enabled true ∧
      IsIgnored Environment.warningsVariable "YE\u017f" ∧
      Sets Environment.channelVariable "Null" channel .discard ∧
      ∃ entries, Toml.read? "deprecation = [true, \"capture\"]\n" = some entries ∧
        (sectionFields entries).lookup "sink" = some (.string "capture") ∧
        Sets Environment.channelVariable "capture" channel .capture := by
  obtain ⟨hvalues, hdocuments, -⟩ := values_recognised
  have hyes : Spells "\u00a0YES\u3000" "yes" := ⟨['Y', 'E', 'S'], trim_eq_iff.mp (by decide), rfl⟩
  have hnull : Spells "Null" "null" := ⟨['N', 'u', 'l', 'l'], trim_eq_iff.mp (by decide), rfl⟩
  have hlong : IsCore ['Y', 'E', '\u017f'] "YE\u017f".toList := trim_eq_iff.mp (by decide)
  have hkind : (((Toml.read? "deprecation = [true, \"capture\"]\n").bind fun entries =>
      (sectionFields entries).lookup "sink").map Toml.kindWord) = some "string" := by
    decide +kernel
  have hconfig : ofText "deprecation = [true, \"capture\"]\n" = .ok ⟨true, .capture, true⟩ := by
    decide +kernel
  obtain ⟨value, hvalue, hstring⟩ := Option.map_eq_some_iff.mp hkind
  obtain ⟨entries, hread, hsink⟩ := Option.bind_eq_some_iff.mp hvalue
  obtain ⟨text, rfl⟩ : ∃ text, value = .string text := by
    cases value with
    | string text => exact ⟨text, rfl⟩
    | _ => exact absurd hstring (by simp [Toml.kindWord])
  obtain ⟨rfl, hcapture⟩ := hdocuments _ entries text _ hread hsink hconfig
  obtain ⟨-, hyesOn, -⟩ := hvalues "\u00a0YES\u3000"
  obtain ⟨-, -, -, -, -, hodd⟩ := hvalues "YE\u017f"
  obtain ⟨-, -, -, hselects, -⟩ := hvalues "Null"
  exact ⟨hyesOn.mpr ⟨"yes", by decide, hyes⟩,
    (hodd _ '\u017f' hlong (by decide) (Or.inr (by decide))).1,
    (hselects .discard).mpr (Or.inr ⟨rfl, hnull⟩), entries, hread, hsink, hcapture⟩

end Config

end Deprecation
