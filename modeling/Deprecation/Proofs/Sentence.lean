import Deprecation.Callable
import Mathlib.Data.List.Infix
import Mathlib.Logic.Basic

/-!
What a sentence tells and how it ends.  A sentence is made of an opening, which never ends with a
period, and of an ending: a period, or the note up to its own period.  So the note alone decides how
a sentence ends.  Where versions and names have no space the sentence can be taken apart again, and
notices with the same sentence tell the same.
-/

namespace Deprecation

/-- These are the last characters of a text. -/
def EndsWith (text ending : String) : Prop :=
  ending.toList <:+ text.toList

instance (text ending : String) : Decidable (EndsWith text ending) :=
  inferInstanceAs (Decidable (ending.toList <:+ text.toList))

theorem EndsWith.trans {text middle ending : String} (h : EndsWith text middle)
    (hmiddle : EndsWith middle ending) : EndsWith text ending :=
  List.IsSuffix.trans hmiddle h

theorem endsWith_period_iff {text : String} :
    EndsWith text "." ↔ text.toList.getLast? = some '.' :=
  List.singleton_suffix_iff_getLast?_eq_some

theorem endsWith_append (first second : String) : EndsWith (first ++ second) second := by
  rw [EndsWith, String.toList_append]
  exact List.suffix_append _ _

theorem endsWith_append_space_iff {first second ending : String} (h : ' ' ∉ ending.toList) :
    EndsWith (first ++ " " ++ second) ending ↔ EndsWith second ending := by
  constructor
  · intro hends
    have hspaced : ' ' :: second.toList <:+ (first ++ " " ++ second).toList := by
      rw [String.append_assoc, String.toList_append, String.toList_append]
      exact List.suffix_append _ _
    -- an ending that reached the space would have it
    rcases List.suffix_or_suffix_of_suffix hends hspaced with hshort | hlong
    · rcases List.suffix_cons_iff.mp hshort with hwhole | hrest
      · exact (h (hwhole ▸ List.mem_cons_self)).elim
      · exact hrest
    · exact (h (hlong.mem List.mem_cons_self)).elim
  · exact (endsWith_append _ _).trans

theorem endsWith_period_append_iff (first : String) {second : String} (h : second ≠ "") :
    EndsWith (first ++ second) "." ↔ EndsWith second "." := by
  rw [endsWith_period_iff, endsWith_period_iff, String.toList_append,
    List.getLast?_append_of_ne_nil _ (mt String.toList_eq_nil_iff.mp h)]

theorem closeSentence_of_endsWith {text : String} (h : EndsWith text ".") :
    closeSentence text = text :=
  if_pos (endsWith_period_iff.mp h)

theorem closeSentence_of_not_endsWith {text : String} (h : ¬ EndsWith text ".") :
    closeSentence text = text ++ "." :=
  if_neg (mt endsWith_period_iff.mpr h)

theorem endsWith_closeSentence (text : String) : EndsWith (closeSentence text) "." := by
  rcases Classical.em (EndsWith text ".") with hends | hopen
  · rwa [closeSentence_of_endsWith hends]
  · rw [closeSentence_of_not_endsWith hopen]
    exact endsWith_append _ _

theorem endsWith_closeSentence_twice_iff {text : String} :
    EndsWith (closeSentence text) ".." ↔ EndsWith text ".." := by
  rcases Classical.em (EndsWith text ".") with hends | hopen
  · rw [closeSentence_of_endsWith hends]
  · rw [closeSentence_of_not_endsWith hopen]
    constructor
    · intro htwice
      rw [EndsWith, String.toList_append] at htwice
      rcases List.suffix_concat_iff.mp htwice with hnil | ⟨before, hbefore, hsuffix⟩
      · cases hnil
      · obtain rfl : ".".toList = before := List.append_cancel_right hbefore
        exact (hopen hsuffix).elim
    · intro htwice
      exact (hopen (htwice.trans (by decide))).elim

theorem closeSentence_append (first : String) {text : String} (h : text ≠ "") :
    closeSentence (first ++ text) = first ++ closeSentence text := by
  have hends := endsWith_period_append_iff first h
  rcases Classical.em (EndsWith text ".") with hclosed | hopen
  · rw [closeSentence_of_endsWith hclosed, closeSentence_of_endsWith (hends.mpr hclosed)]
  · rw [closeSentence_of_not_endsWith hopen, closeSentence_of_not_endsWith (mt hends.mp hopen),
      String.append_assoc]

namespace Sentence

/-- The part of a sentence that names the deprecated element. -/
def stem (version : String) (kind : Kind) (name : String) : String :=
  "The " ++ name ++ " " ++ kind.word ++ " is deprecated as of version " ++ version ++
    " and will be removed no sooner than 3 months after the release"

/-- The part of a sentence that names the replacement. -/
def clause (new : Replacement) : String :=
  ". Instead use the " ++ new.name ++ " " ++ new.kind.word

/-- A sentence up to its note. -/
def opening (version : String) (kind : Kind) (name : String) (replacement : Option Replacement) :
    String :=
  stem version kind name ++ replacement.elim "" clause

variable {version name : String} {kind : Kind} {replacement : Option Replacement}
  {note : Option String}

theorem openSentence_none :
    openSentence version kind name replacement none =
      opening version kind name replacement := by
  rcases replacement with _ | new <;> exact String.append_empty

theorem openSentence_empty :
    openSentence version kind name replacement (some "") =
      opening version kind name replacement := by
  rcases replacement with _ | new <;> exact String.append_empty

theorem openSentence_some {text : String} (h : text ≠ "") :
    openSentence version kind name replacement (some text) =
      opening version kind name replacement ++ " " ++ text := by
  have hsplit : openSentence version kind name replacement (some text) =
      opening version kind name replacement ++ if text = "" then "" else " " ++ text := by
    rcases replacement with _ | new <;> rfl
  rw [hsplit, if_neg h, String.append_assoc]

theorem not_endsWith_stem : ¬ EndsWith (stem version kind name) "." := by
  have hrelease :
      ¬ EndsWith " and will be removed no sooner than 3 months after the release" "." := by
    decide
  rw [stem, endsWith_period_append_iff]
  · exact hrelease
  · decide

theorem not_endsWith_opening : ¬ EndsWith (opening version kind name replacement) "." := by
  rcases replacement with _ | new
  · rw [opening, Option.elim_none, String.append_empty]
    exact not_endsWith_stem
  · change ¬ EndsWith (stem version kind name ++ (_ ++ new.kind.word)) "."
    rw [← String.append_assoc, endsWith_period_append_iff _ new.kind.word_ne_empty]
    intro hends
    exact new.kind.period_not_mem_word (hends.mem List.mem_cons_self)

theorem endsWith_openSentence_iff {ending : String} (hperiod : EndsWith ending ".")
    (hspace : ' ' ∉ ending.toList) :
    EndsWith (openSentence version kind name replacement note) ending ↔
      ∃ text, note = some text ∧ EndsWith text ending := by
  have hopening : ¬ EndsWith (opening version kind name replacement) ending := fun h =>
    not_endsWith_opening (h.trans hperiod)
  rcases note with _ | text
  · rw [openSentence_none]
    simp [hopening]
  · rcases eq_or_ne text "" with rfl | hne
    · have hempty : ¬ EndsWith "" ending := fun h => absurd (h.trans hperiod) (by decide)
      rw [openSentence_empty]
      simp [hopening, hempty]
    · rw [openSentence_some hne, endsWith_append_space_iff hspace]
      simp

/-- How a text ends that has been closed, given what it was before and the note that it was made
with.  The closing adds a period where the note brings none, and otherwise nothing. -/
structure IsClosed (text opened : String) (note : Option String) : Prop where
  period : EndsWith text "."
  twice_iff : EndsWith text ".." ↔ ∃ extra, note = some extra ∧ EndsWith extra ".."
  added : (∀ extra, note = some extra → ¬ EndsWith extra ".") →
    ¬ EndsWith opened "." ∧ text = opened ++ "."
  kept : ∀ extra, note = some extra → EndsWith extra "." →
    text = opened ∧ EndsWith text extra

theorem isClosed_sentence (version : String) (kind : Kind) (name : String)
    (replacement : Option Replacement) (note : Option String) :
    IsClosed (sentence version kind name replacement note)
      (openSentence version kind name replacement note) note where
  period := endsWith_closeSentence _
  twice_iff := endsWith_closeSentence_twice_iff.trans
    (endsWith_openSentence_iff (by decide) (by decide))
  added := by
    intro hnote
    have hopen : ¬ EndsWith (openSentence version kind name replacement note) "." := by
      rw [endsWith_openSentence_iff (by decide) (by decide)]
      rintro ⟨extra, hextra, hends⟩
      exact hnote extra hextra hends
    exact ⟨hopen, closeSentence_of_not_endsWith hopen⟩
  kept := by
    rintro extra rfl hends
    have hopened : EndsWith (openSentence version kind name replacement (some extra)) "." :=
      (endsWith_openSentence_iff (by decide) (by decide)).mpr ⟨extra, rfl, hends⟩
    have hne : extra ≠ "" := by
      rintro rfl
      exact absurd hends (by decide)
    have hclosed : sentence version kind name replacement (some extra) =
        openSentence version kind name replacement (some extra) :=
      closeSentence_of_endsWith hopened
    refine ⟨hclosed, ?_⟩
    rw [hclosed, openSentence_some hne]
    exact endsWith_append _ _

/-- The text of every notice, and the text that every wrapper is made with, end with a period, and
with two periods if and only if the note does.  Without a note, or with one that does not end with a
period, the text is what it is before it is closed and one period, and else it ends with the note as
it is. -/
theorem texts_closed_once :
    (∀ notice : Notice,
        IsClosed notice.text
          (openSentence notice.version notice.kind notice.name notice.replacement? notice.note)
          notice.note) ∧
      ∀ (deprecation : CallableDeprecation) (name : String) (state : State),
        IsClosed (deprecation.wrap name state).2.text
          (openSentence deprecation.version deprecation.kind name (some deprecation.replacement)
            deprecation.note)
          deprecation.note := by
  constructor
  · intro notice
    exact isClosed_sentence notice.version notice.kind notice.name notice.replacement? notice.note
  · intro deprecation name state
    rw [CallableDeprecation.text_wrap, CallableDeprecation.text]
    exact isClosed_sentence _ _ _ _ _

/-- What a note adds to the text: nothing if it is empty, and else the note with a period. -/
def shownNote : Option String → Option String
  | none => none
  | some text => if text = "" then none else some (closeSentence text)

/-- The part of a sentence behind its opening. -/
def closing : Option String → String
  | none => "."
  | some text => " " ++ text

theorem sentence_eq (version : String) (kind : Kind) (name : String)
    (replacement : Option Replacement) (note : Option String) :
    sentence version kind name replacement note =
      opening version kind name replacement ++ closing (shownNote note) := by
  rcases note with _ | text
  · rw [sentence, openSentence_none, closeSentence_of_not_endsWith not_endsWith_opening]
    rfl
  · rcases eq_or_ne text "" with rfl | hne
    · rw [sentence, openSentence_empty, closeSentence_of_not_endsWith not_endsWith_opening]
      rfl
    · rw [sentence, openSentence_some hne, closeSentence_append _ hne, shownNote, if_neg hne,
        String.append_assoc]
      rfl

/-- A text is read off up to the first character of a class that it has none of. -/
theorem append_inj_of_stop {p : Char → Prop} {first second rest others : List Char} {c d : Char}
    (hfirst : ∀ x ∈ first, ¬ p x) (hsecond : ∀ x ∈ second, ¬ p x) (hc : p c) (hd : p d)
    (h : first ++ c :: rest = second ++ d :: others) :
    first = second ∧ c :: rest = d :: others := by
  induction first generalizing second with
  | nil =>
      rcases second with _ | ⟨head, tail⟩
      · exact ⟨rfl, h⟩
      · obtain ⟨rfl, -⟩ := List.cons.inj h
        exact (hsecond c List.mem_cons_self hc).elim
  | cons head tail ih =>
      rcases second with _ | ⟨other, tail'⟩
      · obtain ⟨rfl, -⟩ := List.cons.inj h
        exact (hfirst head List.mem_cons_self hd).elim
      · obtain ⟨rfl, hrest⟩ := List.cons.inj h
        rw [List.forall_mem_cons] at hfirst hsecond
        obtain ⟨rfl, hends⟩ := ih hfirst.2 hsecond.2 hrest
        exact ⟨rfl, hends⟩

theorem word_inj {first second rest others : List Char} (hfirst : ' ' ∉ first)
    (hsecond : ' ' ∉ second) (h : first ++ ' ' :: rest = second ++ ' ' :: others) :
    first = second ∧ rest = others := by
  have hword : ∀ word : List Char, ' ' ∉ word → ∀ c ∈ word, ¬ c = ' ' := by
    rintro word hspace c hc rfl
    exact hspace hc
  obtain ⟨hwords, hrest⟩ :=
    append_inj_of_stop (p := (· = ' ')) (hword first hfirst) (hword second hsecond) rfl rfl h
  exact ⟨hwords, (List.cons.inj hrest).2⟩

theorem toList_closing_none : (closing none).toList = ['.'] := rfl

theorem toList_closing_some (text : String) : (closing (some text)).toList = ' ' :: text.toList := by
  rw [closing, String.toList_append]
  rfl

theorem closing_starts (shown : Option String) :
    ∃ c rest, (closing shown).toList = c :: rest ∧ (c = ' ' ∨ c = '.') := by
  rcases shown with _ | text
  · exact ⟨'.', [], toList_closing_none, Or.inr rfl⟩
  · exact ⟨' ', text.toList, toList_closing_some text, Or.inl rfl⟩

theorem closing_injective {first second : Option String}
    (h : (closing first).toList = (closing second).toList) : first = second := by
  rcases first with _ | text <;> rcases second with _ | other
  · rfl
  · rw [toList_closing_none, toList_closing_some] at h
    exact absurd (List.cons.inj h).1 (by decide)
  · rw [toList_closing_none, toList_closing_some] at h
    exact absurd (List.cons.inj h).1 (by decide)
  · rw [toList_closing_some, toList_closing_some] at h
    rw [String.toList_inj.mp (List.cons.inj h).2]

theorem word_closing_inj {kind other : Kind} {first second : Option String}
    (h : kind.word.toList ++ (closing first).toList = other.word.toList ++ (closing second).toList) :
    kind = other ∧ first = second := by
  obtain ⟨c, rest, hfirst, hc⟩ := closing_starts first
  obtain ⟨d, others, hsecond, hd⟩ := closing_starts second
  rw [hfirst, hsecond] at h
  have hword : ∀ kind : Kind, ∀ x ∈ kind.word.toList, ¬ (x = ' ' ∨ x = '.') := by
    rintro kind x hx (rfl | rfl)
    · exact kind.space_not_mem_word hx
    · exact kind.period_not_mem_word hx
  obtain ⟨hwords, hends⟩ := append_inj_of_stop (hword kind) (hword other) hc hd h
  refine ⟨Kind.word_injective (String.toList_inj.mp hwords), closing_injective ?_⟩
  rw [hfirst, hsecond, hends]

theorem toList_clause (new : Replacement) :
    (clause new).toList =
      '.' :: ' ' :: ("Instead use the ".toList ++
        (new.name.toList ++ ' ' :: new.kind.word.toList)) := by
  change (". Instead use the " ++ new.name ++ " " ++ new.kind.word).toList = _
  simp only [String.toList_append, List.append_assoc]
  rfl

theorem closing_ne_clause (shown : Option String) (new : Replacement) (rest : List Char) :
    (closing shown).toList ≠ (clause new).toList ++ rest := by
  rw [toList_clause]
  rcases shown with _ | text
  · -- a clause goes on behind its period
    rw [toList_closing_none]
    exact fun h => List.cons_ne_nil _ _ (List.cons.inj h).2.symm
  · -- a note starts with a space, a clause with a period
    rw [toList_closing_some]
    exact fun h => absurd (List.cons.inj h).1 (by decide)

theorem clause_closing_inj {replacement other : Option Replacement} {first second : Option String}
    (hreplacement : ∀ new ∈ replacement, ' ' ∉ new.name.toList)
    (hother : ∀ new ∈ other, ' ' ∉ new.name.toList)
    (h : (replacement.elim "" clause).toList ++ (closing first).toList =
      (other.elim "" clause).toList ++ (closing second).toList) :
    replacement = other ∧ first = second := by
  rcases replacement with _ | new <;> rcases other with _ | otherNew
  · exact ⟨rfl, closing_injective h⟩
  · exact (closing_ne_clause _ _ _ h).elim
  · exact (closing_ne_clause _ _ _ h.symm).elim
  · simp only [Option.elim_some, toList_clause, List.cons_append, List.append_assoc,
      List.cons.injEq, true_and, List.append_cancel_left_eq] at h
    obtain ⟨hnames, hrest⟩ := word_inj (hreplacement _ rfl) (hother _ rfl) h
    obtain ⟨hkinds, hnotes⟩ := word_closing_inj hrest
    refine ⟨?_, hnotes⟩
    rw [Option.some.injEq, Replacement.mk.injEq]
    exact ⟨hkinds, String.toList_inj.mp hnames⟩

theorem toList_stem (version : String) (kind : Kind) (name : String) :
    (stem version kind name).toList =
      "The ".toList ++ (name.toList ++ ' ' :: (kind.word.toList ++
        ' ' :: ("is deprecated as of version ".toList ++ (version.toList ++
          ' ' :: "and will be removed no sooner than 3 months after the release".toList)))) := by
  simp only [stem, String.toList_append, List.append_assoc]
  rfl

theorem stem_inj {version otherVersion name otherName : String} {kind otherKind : Kind}
    (hversion : ' ' ∉ version.toList) (hotherVersion : ' ' ∉ otherVersion.toList)
    (hname : ' ' ∉ name.toList) (hotherName : ' ' ∉ otherName.toList) {rest others : List Char}
    (h : (stem version kind name).toList ++ rest =
      (stem otherVersion otherKind otherName).toList ++ others) :
    version = otherVersion ∧ kind = otherKind ∧ name = otherName ∧ rest = others := by
  simp only [toList_stem, List.append_assoc, List.cons_append, List.append_cancel_left_eq] at h
  obtain ⟨hnames, hkinds⟩ := word_inj hname hotherName h
  obtain ⟨hwords, hversions⟩ := word_inj kind.space_not_mem_word otherKind.space_not_mem_word hkinds
  obtain ⟨htexts, hrest⟩ := word_inj hversion hotherVersion (List.append_cancel_left hversions)
  exact ⟨String.toList_inj.mp htexts, Kind.word_injective (String.toList_inj.mp hwords),
    String.toList_inj.mp hnames, List.append_cancel_left hrest⟩

theorem toList_sentence (version : String) (kind : Kind) (name : String)
    (replacement : Option Replacement) (note : Option String) :
    (sentence version kind name replacement note).toList =
      (stem version kind name).toList ++
        ((replacement.elim "" clause).toList ++ (closing (shownNote note)).toList) := by
  rw [sentence_eq, opening, String.toList_append, String.toList_append, List.append_assoc]

end Sentence

namespace Notice

open Sentence

/-- The version and the names of a notice have no space. -/
structure IsSpaceless (notice : Notice) : Prop where
  version : ' ' ∉ notice.version.toList
  name : ' ' ∉ notice.name.toList
  newName : ∀ text ∈ notice.newName, ' ' ∉ text.toList

/-- A notice gives the kind of a replacement, and its name, which is not empty. -/
def Proposes (notice : Notice) (new : Replacement) : Prop :=
  notice.newKind = some new.kind ∧ notice.newName = some new.name ∧ new.name ≠ ""

theorem replacement?_eq_some_iff {notice : Notice} {new : Replacement} :
    notice.replacement? = some new ↔ notice.Proposes new := by
  obtain ⟨newKind, newName⟩ := new
  rw [replacement?, Proposes]
  split
  · next kind name hkind hname =>
    rw [hkind, hname]
    split
    · next hempty =>
      subst hempty
      simp
    · next hne =>
      simp only [Option.some.injEq, Replacement.mk.injEq]
      constructor
      · rintro ⟨rfl, rfl⟩
        exact ⟨rfl, rfl, hne⟩
      · rintro ⟨rfl, rfl, -⟩
        exact ⟨rfl, rfl⟩
  · next hmissing =>
    simp only [reduceCtorEq, false_iff]
    rintro ⟨hkind, hname, -⟩
    exact hmissing _ _ hkind hname

theorem replacement?_eq_iff {first second : Notice} :
    first.replacement? = second.replacement? ↔
      ∀ new, first.Proposes new ↔ second.Proposes new := by
  simp only [← replacement?_eq_some_iff]
  exact Option.ext_iff

theorem IsSpaceless.of_mem_replacement? {notice : Notice} (h : notice.IsSpaceless) :
    ∀ new ∈ notice.replacement?, ' ' ∉ new.name.toList := by
  intro new hnew
  exact h.newName new.name (replacement?_eq_some_iff.mp hnew).2.1

/-- Notices without spaces in their versions and names have the same text if and only if they agree
in version, kind and name, in the replacement as far as it has a kind and a name that is not empty,
and in the note up to its last period, where an empty note is none. -/
theorem text_eq_iff {first second : Notice} (hfirst : first.IsSpaceless)
    (hsecond : second.IsSpaceless) :
    first.text = second.text ↔
      first.version = second.version ∧ first.kind = second.kind ∧ first.name = second.name ∧
        (∀ new, first.Proposes new ↔ second.Proposes new) ∧
        shownNote first.note = shownNote second.note := by
  rw [← replacement?_eq_iff]
  constructor
  · intro htext
    rw [← String.toList_inj, text, text, toList_sentence, toList_sentence] at htext
    obtain ⟨hversion, hkind, hname, hrest⟩ :=
      stem_inj hfirst.version hsecond.version hfirst.name hsecond.name htext
    exact ⟨hversion, hkind, hname,
      clause_closing_inj hfirst.of_mem_replacement? hsecond.of_mem_replacement? hrest⟩
  · rintro ⟨hversion, hkind, hname, hreplacement, hnote⟩
    rw [text, text, sentence_eq, sentence_eq, hversion, hkind, hname, hreplacement, hnote]

/-- A note without a period, and one with it, read the same; and no note can stand for a
replacement. -/
theorem texts_told_apart :
    let plain : Notice :=
      ⟨"2.0.0", .classType, "Foo", some .classType, some "", some "Instead use the Bar class"⟩
    let closed : Notice :=
      ⟨"2.0.0", .classType, "Foo", none, none, some "Instead use the Bar class."⟩
    let replaced : Notice := ⟨"2.0.0", .classType, "Foo", some .classType, some "Bar", none⟩
    (plain.IsSpaceless ∧ closed.IsSpaceless ∧ replaced.IsSpaceless) ∧
      plain.text = closed.text ∧ closed.text ≠ replaced.text := by
  intro plain closed replaced
  have hplain : plain.IsSpaceless := ⟨by decide, by decide, by decide⟩
  have hclosed : closed.IsSpaceless := ⟨by decide, by decide, by decide⟩
  have hreplaced : replaced.IsSpaceless := ⟨by decide, by decide, by decide⟩
  refine ⟨⟨hplain, hclosed, hreplaced⟩, ?_, ?_⟩
  · exact (text_eq_iff hplain hclosed).mpr
      ⟨rfl, rfl, rfl, replacement?_eq_iff.mp rfl, by decide⟩
  · intro h
    obtain ⟨-, -, -, -, hnote⟩ := (text_eq_iff hclosed hreplaced).mp h
    exact absurd hnote (by decide)

end Notice

namespace CallableDeprecation

open Sentence

/-- The notice with the fields that the wrappers for a name are made with. -/
def notice (deprecation : CallableDeprecation) (name : String) : Notice :=
  ⟨deprecation.version, deprecation.kind, name, some deprecation.replacement.kind,
    some deprecation.replacement.name, deprecation.note⟩

theorem text_notice (deprecation : CallableDeprecation) (name : String) :
    (deprecation.notice name).text =
      sentence deprecation.version deprecation.kind name
        (if deprecation.replacement.name = "" then none else some deprecation.replacement)
        deprecation.note := rfl

theorem sentence_replacement_ne (version : String) (kind : Kind) (name : String)
    (new : Replacement) (note : Option String) :
    sentence version kind name (some new) note ≠ sentence version kind name none note := by
  rw [Ne, ← String.toList_inj, toList_sentence, toList_sentence, List.append_cancel_left_eq,
    List.append_cancel_right_eq, Option.elim_some, toList_clause]
  exact List.cons_ne_nil _ _

/-- A wrapper is made with the text of the notice that has the same fields if and only if the name
of the replacement is not empty.  The text of the notice is what is delivered where the notice is
shown, by the emitter of a route that is switched on and has not seen it. -/
theorem wrapper_text_eq_iff (deprecation : CallableDeprecation) (name : String) :
    (∀ state, (deprecation.wrap name state).2.text = (deprecation.notice name).text ↔
        deprecation.replacement.name ≠ "") ∧
      ∀ (route : Route) (stackLevel : UInt64) (location : Location) (state : State),
        let emitter := (state.resolve route).2
        let notice := deprecation.notice name
        (route.warn notice stackLevel location state).journal.deliveries =
          state.journal.deliveries ++
            if notice ∉ state.registry emitter.registry ∧ emitter.enabled = true then
              [⟨.notice emitter.registry notice, emitter.sink,
                ⟨notice.text, stackLevel, location⟩⟩]
            else [] := by
  constructor
  · intro state
    rw [text_wrap, text_notice, text]
    split
    · next hempty =>
      exact iff_of_false (sentence_replacement_ne _ _ _ _ _) (not_not_intro hempty)
    · next hne => exact iff_of_true rfl hne
  · intro route stackLevel location state emitter notice
    change (emitter.warn notice stackLevel location (state.resolve route).1).journal.deliveries = _
    rw [Emitter.deliveries_warn, State.registry_resolve, State.journal_resolve]

end CallableDeprecation

end Deprecation
