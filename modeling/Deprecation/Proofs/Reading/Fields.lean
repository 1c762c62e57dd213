import Deprecation.Decoding
import Deprecation.Dict
import Mathlib.Data.List.Nodup

/-!
What reading the fields of a record comes to.  Where a visit refuses a field only for what it
holds, fields are accepted or refused one by one, and of those that are refused the first one is
reported.  Where it keeps what it reads in parts of their own, each part depends on one field alone,
so that the order of the fields does not matter to what is read.
-/

namespace Deprecation.Decoding

variable {α β δ : Type}

section

variable {fields others : List (String × α)} {name : String} {value : α}

theorem lookup_eq_some_iff (hnames : (fields.map Prod.fst).Nodup) :
    fields.lookup name = some value ↔ (name, value) ∈ fields :=
  @Dict.get?_eq_some_iff α ⟨fields, hnames⟩ name value

theorem lookup_eq_none_iff : fields.lookup name = none ↔ name ∉ fields.map Prod.fst := by
  rw [List.lookup_eq_none_iff, List.mem_map, not_exists]
  refine forall_congr' fun field => ?_
  rw [not_and, bne_iff_ne, ne_comm]

theorem lookup_cons_of_ne {key : String} (h : name ≠ key) :
    ((key, value) :: fields).lookup name = fields.lookup name := by
  rw [List.lookup_cons, beq_eq_false_iff_ne.mpr h]

theorem lookup_congr (h : fields.Perm others) (hnames : (fields.map Prod.fst).Nodup)
    (name : String) : fields.lookup name = others.lookup name :=
  @Dict.get?_congr α ⟨fields, hnames⟩ ⟨others, (h.map Prod.fst).nodup_iff.mp hnames⟩ h name

theorem nodup_ascending (hnames : (fields.map Prod.fst).Nodup) :
    ((ascending fields).map Prod.fst).Nodup :=
  ((perm_ascending fields).map Prod.fst).nodup_iff.mpr hnames

theorem lookup_ascending (hnames : (fields.map Prod.fst).Nodup) (name : String) :
    (ascending fields).lookup name = fields.lookup name :=
  lookup_congr (perm_ascending fields) (nodup_ascending hnames) name

theorem pairwise_ascending (hnames : (fields.map Prod.fst).Nodup) :
    (ascending fields).Pairwise fun first second => first.1 < second.1 := by
  have hsorted : (ascending fields).Pairwise fun first second => first.1 ≤ second.1 := by
    refine (List.pairwise_mergeSort ?_ ?_ fields).imp of_decide_eq_true
    · intro first second third hfirst hsecond
      exact decide_eq_true
        (String.le_trans (of_decide_eq_true hfirst) (of_decide_eq_true hsecond))
    · intro first second
      simpa using String.le_total first.1 second.1
  have hne : (ascending fields).Pairwise fun first second => first.1 ≠ second.1 :=
    List.pairwise_map.mp (nodup_ascending hnames)
  refine hsorted.imp₂ (fun first second hle hne => ?_) hne
  exact String.not_le.mp fun hge => hne (String.le_antisymm hle hge)

theorem nodup_zip {names : List String} (h : names.Nodup) (items : List α) :
    ((names.zip items).map Prod.fst).Nodup := by
  have hnames : ((names.zip items).map Prod.fst).Sublist names := by
    clear h
    induction names generalizing items with
    | nil => exact List.Sublist.slnil
    | cons name rest ih =>
        cases items with
        | nil => exact List.nil_sublist _
        | cons item items => exact (ih items).cons_cons name
  exact h.sublist hnames

theorem lookup_zip_filterMap {names : List String}
    (h : ∀ name ∈ names, name ∈ fields.map Prod.fst) (hname : name ∈ names) :
    (names.zip (names.filterMap fun name => fields.lookup name)).lookup name =
      fields.lookup name := by
  induction names with
  | nil => exact absurd hname List.not_mem_nil
  | cons first rest ih =>
      rw [List.forall_mem_cons] at h
      cases hfirst : fields.lookup first with
      | none => exact absurd h.1 (lookup_eq_none_iff.mp hfirst)
      | some value =>
          simp only [List.filterMap_cons, hfirst, List.zip_cons_cons]
          by_cases hsame : name = first
          · rw [hsame, List.lookup_cons_self, hfirst]
          · rw [lookup_cons_of_ne hsame]
            exact ih h.2 ((List.mem_cons.mp hname).resolve_left hsame)

end

/-- A visit refuses a field for what it holds, whatever it has read before. -/
def Judges (visit : δ → String → α → Except Mismatch δ)
    (Refuses : String → α → Mismatch → Prop) : Prop :=
  ∀ draft name value mismatch,
    visit draft name value = .error mismatch ↔ Refuses name value mismatch

/-- The field is refused, and none whose name comes before its name is. -/
def IsFirstRefused (Refuses : String → α → Mismatch → Prop) (fields : List (String × α))
    (name : String) (mismatch : Mismatch) : Prop :=
  (∃ value, fields.lookup name = some value ∧ Refuses name value mismatch) ∧
    ∀ earlier value, earlier < name → fields.lookup earlier = some value →
      ∀ other, ¬ Refuses earlier value other

/-- No field is refused. -/
def IsAccepted (Refuses : String → α → Mismatch → Prop) (fields : List (String × α)) : Prop :=
  ∀ field ∈ fields, ∀ mismatch, ¬ Refuses field.1 field.2 mismatch

section

variable {visit : δ → String → α → Except Mismatch δ} {Refuses : String → α → Mismatch → Prop}
  {fields : List (String × α)}

theorem isFirstRefused_cons_iff {name other : String} {value : α} {mismatch : Mismatch}
    (hname : ∀ field ∈ fields, name < field.1) :
    IsFirstRefused Refuses ((name, value) :: fields) other mismatch ↔
      (other = name ∧ Refuses name value mismatch) ∨
        (∀ reason, ¬ Refuses name value reason) ∧ IsFirstRefused Refuses fields other mismatch := by
  -- the head has the least name, so that whether it is refused decides first
  have hlater : ∀ {later held}, fields.lookup later = some held → name < later := by
    intro later held hheld
    obtain ⟨before, after, rfl, -⟩ := List.lookup_eq_some_iff.mp hheld
    exact hname (later, held) (List.mem_append_right _ List.mem_cons_self)
  constructor
  · rintro ⟨⟨held, hheld, hrefuses⟩, hearlier⟩
    by_cases hother : other = name
    · subst hother
      rw [List.lookup_cons_self] at hheld
      obtain rfl := Option.some.inj hheld
      exact Or.inl ⟨rfl, hrefuses⟩
    · rw [lookup_cons_of_ne hother] at hheld
      refine Or.inr ⟨hearlier name value (hlater hheld) List.lookup_cons_self,
        ⟨held, hheld, hrefuses⟩, fun earlier content hlt hcontent => ?_⟩
      refine hearlier earlier content hlt ?_
      rwa [lookup_cons_of_ne (String.ne_of_lt (hlater hcontent)).symm]
  · rintro (⟨rfl, hrefuses⟩ | ⟨haccepts, ⟨held, hheld, hrefuses⟩, hearlier⟩)
    · refine ⟨⟨value, List.lookup_cons_self, hrefuses⟩, fun earlier content hlt hcontent => ?_⟩
      rw [lookup_cons_of_ne (String.ne_of_lt hlt)] at hcontent
      exact absurd (hlater hcontent) (String.lt_asymm hlt)
    · refine ⟨⟨held, ?_, hrefuses⟩, fun earlier content hlt hcontent => ?_⟩
      · rwa [lookup_cons_of_ne (String.ne_of_lt (hlater hheld)).symm]
      · by_cases hfirst : earlier = name
        · subst hfirst
          rw [List.lookup_cons_self] at hcontent
          exact Option.some.inj hcontent ▸ haccepts
        · rw [lookup_cons_of_ne hfirst] at hcontent
          exact hearlier earlier content hlt hcontent

theorem visitFields_eq_error_iff (h : Judges visit Refuses)
    (hordered : fields.Pairwise fun first second => first.1 < second.1) (draft : δ)
    {fault : Fault} :
    visitFields visit draft fields = .error fault ↔
      ∃ name mismatch, IsFirstRefused Refuses fields name mismatch ∧
        fault = ⟨mismatch, some name⟩ := by
  induction fields generalizing draft with
  | nil =>
      constructor
      · intro hfault
        cases hfault
      · rintro ⟨name, mismatch, ⟨⟨value, hvalue, -⟩, -⟩, -⟩
        cases hvalue
  | cons field rest ih =>
      obtain ⟨name, value⟩ := field
      obtain ⟨hname, hrest⟩ := List.pairwise_cons.mp hordered
      simp only [isFirstRefused_cons_iff hname]
      rw [visitFields]
      cases hvisit : visit draft name value with
      | error mismatch =>
          have hrefuses := (h draft name value mismatch).mp hvisit
          constructor
          · intro hfault
            exact ⟨name, mismatch, Or.inl ⟨rfl, hrefuses⟩, (Except.error.inj hfault).symm⟩
          · rintro ⟨other, reason, ⟨rfl, hreason⟩ | ⟨haccepts, -⟩, rfl⟩
            · have hsame := hvisit.symm.trans ((h draft _ value reason).mpr hreason)
              obtain rfl := Except.error.inj hsame
              rfl
            · exact absurd hrefuses (haccepts mismatch)
      | ok next =>
          have haccepts : ∀ reason, ¬ Refuses name value reason := by
            intro reason hreason
            rw [(h draft name value reason).mpr hreason] at hvisit
            cases hvisit
          have hstep := ih hrest next
          constructor
          · intro hfault
            obtain ⟨other, mismatch, hfirst, hsame⟩ := hstep.mp hfault
            exact ⟨other, mismatch, Or.inr ⟨haccepts, hfirst⟩, hsame⟩
          · rintro ⟨other, mismatch, ⟨rfl, hreason⟩ | ⟨-, hfirst⟩, hsame⟩
            · exact absurd hreason (haccepts mismatch)
            · exact hstep.mpr ⟨other, mismatch, hfirst, hsame⟩

/-- Of the fields of a mapping, the first one that is refused is reported. -/
theorem visitFields_ascending_eq_error_iff (h : Judges visit Refuses)
    (hnames : (fields.map Prod.fst).Nodup) (draft : δ) {fault : Fault} :
    visitFields visit draft (ascending fields) = .error fault ↔
      ∃ name mismatch, IsFirstRefused Refuses fields name mismatch ∧
        fault = ⟨mismatch, some name⟩ := by
  have hsame : ∀ name mismatch, IsFirstRefused Refuses (ascending fields) name mismatch ↔
      IsFirstRefused Refuses fields name mismatch := by
    intro name mismatch
    simp only [IsFirstRefused, lookup_ascending hnames]
  rw [visitFields_eq_error_iff h (pairwise_ascending hnames) draft]
  simp only [hsame]

theorem exists_visitFields_eq_ok_iff (h : Judges visit Refuses) (draft : δ) :
    (∃ final, visitFields visit draft fields = .ok final) ↔ IsAccepted Refuses fields := by
  induction fields generalizing draft with
  | nil => exact iff_of_true ⟨draft, rfl⟩ (List.forall_mem_nil _)
  | cons field rest ih =>
      obtain ⟨name, value⟩ := field
      rw [IsAccepted, List.forall_mem_cons]
      simp only [← h draft name value]
      rw [visitFields]
      cases visit draft name value with
      | error mismatch =>
          refine iff_of_false ?_ fun haccepted => haccepted.1 mismatch rfl
          rintro ⟨final, hfinal⟩
          cases hfinal
      | ok next =>
          refine (ih next).trans (and_iff_right fun mismatch hmismatch => ?_).symm
          cases hmismatch

variable {others : List (String × α)} {names : List String}

theorem isAccepted_iff (hnames : (fields.map Prod.fst).Nodup) :
    IsAccepted Refuses fields ↔
      ∀ name value, fields.lookup name = some value →
        ∀ mismatch, ¬ Refuses name value mismatch := by
  simp only [lookup_eq_some_iff hnames]
  exact Prod.forall

theorem isFirstRefused_congr (hknown : ∀ {name value mismatch}, Refuses name value mismatch →
      name ∈ names) (h : ∀ name ∈ names, fields.lookup name = others.lookup name) {name : String}
    {mismatch : Mismatch} (hfirst : IsFirstRefused Refuses fields name mismatch) :
    IsFirstRefused Refuses others name mismatch := by
  obtain ⟨⟨value, hvalue, hrefuses⟩, hearlier⟩ := hfirst
  refine ⟨⟨value, h name (hknown hrefuses) ▸ hvalue, hrefuses⟩, ?_⟩
  intro earlier content hlt hcontent reason hreason
  exact hearlier earlier content hlt ((h earlier (hknown hreason)).trans hcontent) reason hreason

theorem isAccepted_congr (hknown : ∀ {name value mismatch}, Refuses name value mismatch →
      name ∈ names) (h : ∀ name ∈ names, fields.lookup name = others.lookup name)
    (hfields : (fields.map Prod.fst).Nodup) (hothers : (others.map Prod.fst).Nodup)
    (haccepted : IsAccepted Refuses fields) : IsAccepted Refuses others := by
  rw [isAccepted_iff hothers]
  intro name value hvalue mismatch hrefuses
  have hvalue := (h name (hknown hrefuses)).trans hvalue
  exact (isAccepted_iff hfields).mp haccepted name value hvalue mismatch hrefuses

end

theorem map_eq_ok_iff {result : Except Mismatch α} {change : α → β} {changed : β} :
    result.map change = .ok changed ↔ ∃ value, result = .ok value ∧ change value = changed := by
  cases result <;> simp [Except.map]

theorem map_eq_error_iff {result : Except Mismatch α} {change : α → β} {mismatch : Mismatch} :
    result.map change = .error mismatch ↔ result = .error mismatch := by
  cases result <;> simp [Except.map]

/-- What is read under a name: what its value is decoded to, or a default where it is missing. -/
def given (fields : List (String × α)) (name : String) (decode : α → Except Mismatch β)
    (absent : β) : Except Mismatch β :=
  (fields.lookup name).elim (.ok absent) decode

/-- A visit puts what the field of a name holds into a part of the draft that no other field
changes. -/
structure Puts (visit : δ → String → α → Except Mismatch δ) (name : String) (part : δ → β)
    (decode : α → Except Mismatch β) : Prop where
  own : ∀ draft value next, visit draft name value = .ok next → decode value = .ok (part next)
  other : ∀ draft field value next, field ≠ name → visit draft field value = .ok next →
    part next = part draft

theorem puts_of_map {γ : Type} {visit : δ → String → α → Except Mismatch δ} {name : String}
    {part : δ → β} {decode : α → Except Mismatch γ} {put : δ → γ → δ} {kept : γ → β}
    (hvisit : ∀ draft value, visit draft name value = (decode value).map (put draft))
    (hpart : ∀ draft result, part (put draft result) = kept result)
    (hother : ∀ {draft field value next}, visit draft field value = .ok next →
      field ≠ name → part next = part draft) :
    Puts visit name part fun value => (decode value).map kept where
  own draft value next h := by
    rw [hvisit] at h
    obtain ⟨result, hresult, rfl⟩ := map_eq_ok_iff.mp h
    exact map_eq_ok_iff.mpr ⟨result, hresult, (hpart draft result).symm⟩
  other draft field value next hne h := hother h hne

theorem Puts.given_eq {visit : δ → String → α → Except Mismatch δ} {name : String} {part : δ → β}
    {decode : α → Except Mismatch β} (h : Puts visit name part decode)
    {fields : List (String × α)} (hnames : (fields.map Prod.fst).Nodup) {draft final : δ}
    (hvisit : visitFields visit draft fields = .ok final) :
    given fields name decode (part draft) = .ok (part final) := by
  induction fields generalizing draft with
  | nil =>
      obtain rfl := Except.ok.inj hvisit
      rfl
  | cons field rest ih =>
      obtain ⟨key, value⟩ := field
      rw [List.map_cons, List.nodup_cons] at hnames
      rw [visitFields] at hvisit
      cases hnext : visit draft key value with
      | error mismatch =>
          rw [hnext] at hvisit
          cases hvisit
      | ok next =>
          rw [hnext] at hvisit
          have hrest := ih hnames.2 hvisit
          by_cases hkey : name = key
          · subst hkey
            rw [given, lookup_eq_none_iff.mpr hnames.1] at hrest
            rw [given, List.lookup_cons_self, ← Except.ok.inj hrest]
            exact h.own draft value next hnext
          · rw [given, lookup_cons_of_ne hkey,
              ← h.other draft key value next (ne_comm.mp hkey) hnext]
            exact hrest

theorem Puts.part_eq {visit : δ → String → α → Except Mismatch δ} {name : String} {part : δ → β}
    {decode : α → Except Mismatch β} (h : Puts visit name part decode)
    {fields : List (String × α)} (hnames : (fields.map Prod.fst).Nodup) {draft final : δ}
    (hvisit : visitFields visit draft fields = .ok final) {result : β}
    (hresult : given fields name decode (part draft) = .ok result) : part final = result :=
  Except.ok.inj ((h.given_eq hnames hvisit).symm.trans hresult)

/-- What a field that may be missing is read as: what its value means, or a default. -/
def IsReadAs (Means : α → β → Prop) (absent : β) : Option α → β → Prop
  | none, result => result = absent
  | some value, result => Means value result

section

variable {decode : α → Except Mismatch β} {Means : α → β → Prop} {fields : List (String × α)}
  {name : String}

theorem given_eq_ok_iff (h : ∀ value result, decode value = .ok result ↔ Means value result)
    {absent result : β} :
    given fields name decode absent = .ok result ↔
      IsReadAs Means absent (fields.lookup name) result := by
  rw [given]
  cases fields.lookup name with
  | none =>
      constructor
      · intro hok
        exact (Except.ok.inj hok).symm
      · rintro rfl
        rfl
  | some value => exact h value result

theorem given_eq_some_iff (h : ∀ value result, decode value = .ok result ↔ Means value result)
    {result : β} :
    given fields name (fun value => (decode value).map some) none = .ok (some result) ↔
      ∃ value, fields.lookup name = some value ∧ Means value result := by
  rw [given]
  cases fields.lookup name with
  | none => simp
  | some value => simp [map_eq_ok_iff, h]

theorem isNone_of_given {draft : Option β}
    (h : given fields name (fun value => (decode value).map some) none = .ok draft) :
    draft.isNone = (fields.lookup name).isNone := by
  rw [given] at h
  cases hlookup : fields.lookup name with
  | none =>
      rw [hlookup] at h
      obtain rfl := Except.ok.inj h
      rfl
  | some value =>
      rw [hlookup] at h
      obtain ⟨result, -, rfl⟩ := map_eq_ok_iff.mp h
      rfl

end

theorem eq_iff_of_exhaustive {decode : α → Except Mismatch β} (Means : α → β → Prop)
    (Fails : α → Mismatch → Prop)
    (hok : ∀ {value result}, Means value result → decode value = .ok result)
    (herror : ∀ {value mismatch}, Fails value mismatch → decode value = .error mismatch)
    (h : ∀ value, (∃ result, Means value result) ∨ ∃ mismatch, Fails value mismatch) (value : α) :
    (∀ result, decode value = .ok result ↔ Means value result) ∧
      ∀ mismatch, decode value = .error mismatch ↔ Fails value mismatch := by
  rcases h value with ⟨result, hmeans⟩ | ⟨mismatch, hfails⟩
  · refine ⟨fun other => ⟨fun hother => ?_, hok⟩, fun mismatch => ⟨fun herr => ?_, herror⟩⟩
    · exact Except.ok.inj ((hok hmeans).symm.trans hother) ▸ hmeans
    · exact nomatch (hok hmeans).symm.trans herr
  · refine ⟨fun result => ⟨fun hres => ?_, hok⟩, fun other => ⟨fun hother => ?_, herror⟩⟩
    · exact nomatch (herror hfails).symm.trans hres
    · exact Except.error.inj ((herror hfails).symm.trans hother) ▸ hfails

section

variable {all : List β} {word : β → String}

theorem chooseWord_word (hword : ∀ {first second}, word first = word second → first = second)
    (hall : ∀ variant, variant ∈ all) (variant : β) :
    chooseWord (all.map fun variant => (word variant, variant)) (word variant) = .ok variant := by
  rw [chooseWord]
  cases hlookup : (all.map fun variant => (word variant, variant)).lookup (word variant) with
  | none =>
      refine absurd ?_ (lookup_eq_none_iff.mp hlookup)
      exact List.mem_map.mpr ⟨_, List.mem_map_of_mem (hall variant), rfl⟩
  | some other =>
      obtain ⟨before, after, hsplit, -⟩ := List.lookup_eq_some_iff.mp hlookup
      have hpair : (word variant, other) ∈ all.map fun variant => (word variant, variant) :=
        hsplit ▸ List.mem_append_right _ List.mem_cons_self
      obtain ⟨_, -, hpair⟩ := List.mem_map.mp hpair
      obtain ⟨hsame, rfl⟩ := Prod.mk.inj hpair
      rw [hword hsame]

theorem chooseWord_of_unknown {text : String} (h : ∀ variant, text ≠ word variant) :
    chooseWord (all.map fun variant => (word variant, variant)) text =
      .error (.unknownVariant text (all.map word)) := by
  have hnone : text ∉ (all.map fun variant => (word variant, variant)).map Prod.fst := by
    rw [List.map_map]
    intro hmem
    obtain ⟨variant, -, hvariant⟩ := List.mem_map.mp hmem
    exact h variant hvariant.symm
  rw [chooseWord, lookup_eq_none_iff.mpr hnone, List.map_map]
  rfl

end

section

variable [Document α] {value : α} {mismatch : Mismatch}

theorem string_eq_ok_iff {text : String} :
    string value = .ok text ↔ Document.layer value = .string text := by
  rw [string]
  cases Document.layer value <;> simp

theorem string_eq_error_iff :
    string value = .error mismatch ↔
      (∀ text, Document.layer value ≠ .string text) ∧
        mismatch = .wrongType (Document.layer value).shape .string := by
  rw [string]
  cases Document.layer value <;> simp [eq_comm]

theorem boolean_eq_ok_iff {truth : Bool} :
    boolean value = .ok truth ↔ Document.layer value = .boolean truth := by
  rw [boolean]
  cases Document.layer value <;> simp

theorem boolean_eq_error_iff :
    boolean value = .error mismatch ↔
      (∀ truth, Document.layer value ≠ .boolean truth) ∧
        mismatch = .wrongType (Document.layer value).shape .boolean := by
  rw [boolean]
  cases Document.layer value <;> simp [eq_comm]

theorem optional_of_null {decode : α → Except Mismatch β} (h : Document.layer value = .null) :
    optional decode value = .ok none := by
  rw [optional, h]

theorem optional_of_ne_null {decode : α → Except Mismatch β} (h : Document.layer value ≠ .null) :
    optional decode value = (decode value).map some := by
  rw [optional]
  split
  · next hnull => exact absurd hnull h
  · rfl

variable {visit : δ → String → α → Except Mismatch δ} {name : String} {fieldNames : List String}
  {required : Nat} {start draft : δ}

theorem record_of_mapping {fields : List (String × α)}
    (h : Document.layer value = .mapping fields) :
    record name fieldNames required visit start value =
      visitFields visit start (ascending fields) := by
  rw [record, h]

theorem record_of_sequence_eq_ok_iff {items : List α}
    (h : Document.layer value = .sequence items) :
    record name fieldNames required visit start value = .ok draft ↔
      visitFields visit start (fieldNames.zip items) = .ok draft ∧ required ≤ items.length ∧
        items.length ≤ fieldNames.length := by
  rw [record, h]
  dsimp only
  cases visitFields visit start (fieldNames.zip items) with
  | error fault =>
      constructor
      · intro hok
        cases hok
      · rintro ⟨hok, -⟩
        cases hok
  | ok read =>
      dsimp only [anonymous, Except.mapError]
      by_cases hshort : items.length < required
      · rw [if_pos hshort]
        exact iff_of_false (fun hok => nomatch hok) fun hlength => by omega
      · by_cases hlong : fieldNames.length < items.length
        · rw [if_neg hshort, if_pos hlong]
          exact iff_of_false (fun hok => nomatch hok) fun hlength => by omega
        · rw [if_neg hshort, if_neg hlong]
          exact (and_iff_left ⟨by omega, by omega⟩).symm

end

end Deprecation.Decoding
