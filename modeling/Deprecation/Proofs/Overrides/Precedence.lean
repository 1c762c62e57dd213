import Deprecation.Proofs.Overrides.Words
import Deprecation.Proofs.Retention

/-!
Which of several layers of settings prevails.  What the variables say comes before what the section
of a document says, and the defaults come last; of two lookups of the variables the second prevails,
but a value that it finds and that is no known word does not hide what the first one finds.  An
emitter follows the settings that prevail, and one that is switched off delivers nothing, though its
registry sees what it attempts.
-/

namespace Deprecation

namespace Config

open Text

/-- As the value of a variable the text selects a setting. -/
def IsRecognised (name text : String) : Prop :=
  (name = Environment.warningsVariable ∧ ∃ word ∈ switchWords.map Prod.fst, Spells text word) ∨
    (name = Environment.channelVariable ∧ ∃ word ∈ channelWords.map Prod.fst, Spells text word)

theorem isRecognised_iff {name text : String} :
    IsRecognised name text ↔
      (name = Environment.warningsVariable ∧ (switch? text).isSome = true) ∨
        (name = Environment.channelVariable ∧ (channel? text).isSome = true) := by
  rw [IsRecognised, Option.isSome_iff_ne_none, Option.isSome_iff_ne_none, ne_eq, ne_eq,
    switch?_eq_none_iff, channel?_eq_none_iff]
  simp only [not_forall, not_not, exists_prop]

instance (name text : String) : Decidable (IsRecognised name text) :=
  decidable_of_iff _ isRecognised_iff.symm

theorem isRecognised_warnings_iff {text : String} :
    IsRecognised Environment.warningsVariable text ↔ (switch? text).isSome = true := by
  simp [isRecognised_iff, Environment.warningsVariable_ne]

theorem isRecognised_channel_iff {text : String} :
    IsRecognised Environment.channelVariable text ↔ (channel? text).isSome = true := by
  simp [isRecognised_iff, Environment.warningsVariable_ne.symm]

/-- Of two lookups the second one prevails where it finds a text that selects a setting. -/
def layered (first second : String → Option String) : String → Option String :=
  fun name => ((second name).filter fun text => decide (IsRecognised name text)).or (first name)

section

variable {β : Type} {name : String} {select : String → Option β} {part : Config → β}
  {first second : String → Option String}

theorem bind_layered (h : ∀ text, IsRecognised name text ↔ (select text).isSome = true)
    (first second : String → Option String) :
    (layered first second name).bind select =
      ((second name).bind select).or ((first name).bind select) := by
  rw [layered]
  cases second name with
  | none => rfl
  | some text =>
      cases hselect : select text with
      | none =>
          -- what the second lookup finds is passed over, here by the filter and there by `select`
          have hunknown : ¬ IsRecognised name text := by
            rw [h, hselect]
            exact Bool.false_ne_true
          rw [Option.filter_some, if_neg (by simpa using hunknown), Option.none_or,
            Option.bind_some, hselect, Option.none_or]
      | some found =>
          have hknown : IsRecognised name text := by
            rw [h, hselect, Option.isSome_some]
          rw [Option.filter_some, if_pos (by simpa using hknown), Option.some_or,
            Option.bind_some, hselect, Option.some_or]

theorem bind_congr_of_recognised
    (h : ∀ text, IsRecognised name text ↔ (select text).isSome = true)
    (hsame : ∀ text, IsRecognised name text → (first name = some text ↔ second name = some text)) :
    (first name).bind select = (second name).bind select := by
  ext found
  rw [Option.bind_eq_some_iff, Option.bind_eq_some_iff]
  refine exists_congr fun text => and_congr_left fun hselect => hsame text ?_
  rw [h, hselect, Option.isSome_some]

theorem Governs.layered (h : Governs name select part)
    (hknown : ∀ text, IsRecognised name text ↔ (select text).isSome = true)
    (first second : String → Option String) (config : Config) :
    part ((config.overrideFrom first).overrideFrom second) =
      part (config.overrideFrom (layered first second)) := by
  rw [h, h, h, bind_layered hknown, Option.getD_or]

theorem Governs.congr (h : Governs name select part) (hsame : first name = second name)
    (config : Config) : part (config.overrideFrom first) = part (config.overrideFrom second) := by
  rw [h, h, hsame]

theorem Governs.of_first_none (h : Governs name select part) (hnone : first name = none)
    (second : String → Option String) (config : Config) :
    part ((config.overrideFrom first).overrideFrom second) = part (config.overrideFrom second) := by
  rw [h, h, h, hnone, Option.bind_none, Option.getD_none]

theorem Governs.of_second_none (h : Governs name select part) (hnone : second name = none)
    (first : String → Option String) (config : Config) :
    part ((config.overrideFrom first).overrideFrom second) = part (config.overrideFrom first) := by
  rw [h, h, hnone, Option.bind_none, Option.getD_none]

end

theorem overrideFrom_overrideFrom (config : Config) (first second : String → Option String) :
    (config.overrideFrom first).overrideFrom second =
      config.overrideFrom (layered first second) :=
  Config.ext (governs_enabled.layered (fun _ => isRecognised_warnings_iff) first second config)
    (governs_channel.layered (fun _ => isRecognised_channel_iff) first second config) rfl

theorem overrideFrom_congr_of_recognised {first second : String → Option String}
    (h : ∀ name text, IsRecognised name text → (first name = some text ↔ second name = some text))
    (config : Config) : config.overrideFrom first = config.overrideFrom second :=
  overrideFrom_congr (bind_congr_of_recognised (fun _ => isRecognised_warnings_iff) (h _))
    (bind_congr_of_recognised (fun _ => isRecognised_channel_iff) (h _)) config

theorem overrideFrom_none (config : Config) : config.overrideFrom (fun _ => none) = config :=
  Config.ext rfl rfl rfl

theorem layered_self (lookup : String → Option String) : layered lookup lookup = lookup := by
  funext name
  rw [layered]
  cases lookup name with
  | none => rfl
  | some text =>
      rw [Option.filter_some]
      split <;> rfl

/-- Which value a setting has: what the text of a variable selects, if there is one that does, and
otherwise what a field means, which may be missing. -/
structure Prevails {β : Type} (words : List (String × β)) (Means : Toml → β → Prop) (absent : β)
    (text? : Option String) (field? : Option Toml) (value : β) : Prop where
  selected : ∀ text word found, text? = some text → (word, found) ∈ words → Spells text word →
    value = found
  unselected : (∀ text, text? = some text → ∀ word ∈ words.map Prod.fst, ¬ Spells text word) →
    Decoding.IsReadAs Means absent field? value

section

variable {β : Type} {words : List (String × β)} {Means : Toml → β → Prop} {absent value : β}
  {field? : Option Toml}

theorem prevails_getD (hplain : ∀ word ∈ words.map Prod.fst, IsPlain word)
    (hnames : (words.map Prod.fst).Nodup) (h : Decoding.IsReadAs Means absent field? value)
    (text? : Option String) :
    Prevails words Means absent text? field?
      ((text?.bind fun text => words.lookup (normalWord text)).getD value) where
  selected := by
    rintro text word found rfl hmem hspells
    have hlookup := (lookup_normalWord_eq_some_iff hplain hnames).mpr ⟨word, hmem, hspells⟩
    rw [Option.bind_some, hlookup, Option.getD_some]
  unselected := by
    intro hnone
    cases text? with
    | none => exact h
    | some text =>
        have hlookup := (lookup_normalWord_eq_none_iff hplain).mpr (hnone text rfl)
        rw [Option.bind_some, hlookup, Option.getD_none]
        exact h

end

theorem prevails_enabled {config : Config} {field? : Option Toml}
    (h : Decoding.IsReadAs Toml.IsTruth true field? config.enabled) (environment : Environment) :
    Prevails switchWords Toml.IsTruth true environment.warnings field?
      (config.override environment).enabled :=
  prevails_getD (fun _ => isPlain_of_mem_switchWords) (by decide) h _

theorem prevails_channel {config : Config} {field? : Option Toml}
    (h : Decoding.IsReadAs Toml.Selects .tracing field? config.channel)
    (environment : Environment) :
    Prevails channelWords Toml.Selects .tracing environment.channel field?
      (config.override environment).channel :=
  prevails_getD (fun _ => isPlain_of_mem_channelWords) (by decide) h _

end Config

/-- The channel through which warnings go that are delivered to a sink. -/
def Sink.channel : Sink → Channel
  | .log _ => .tracing
  | .capture _ => .capture
  | .discard => .discard

namespace Emitter

theorem channel_made (config : Config) (buffer : Address Buffer) :
    (made config buffer).sink.channel = config.channel := by
  rw [made]
  cases config.channel <;> rfl

theorem withLocation_of_made {config : Config} {buffer : Address Buffer} {withLocation : Bool}
    (h : (made config buffer).sink = .log withLocation) : withLocation = config.includeLocation := by
  rw [made] at h
  cases hchannel : config.channel <;> rw [hchannel] at h
  · exact (Sink.log.inj h).symm
  · cases h
  · cases h

theorem captured_made (config : Config) (state : State) :
    (ofConfig config state).1.captured (made config state.buffers.fresh).sink = [] := by
  rw [made]
  cases config.channel with
  | tracing => rfl
  | capture =>
      have hfresh : state.buffer state.buffers.fresh = {} := Cells.get_fresh state.buffers
      dsimp only
      rw [State.captured, State.buffer_ofConfig, hfresh]
  | discard => rfl

end Emitter

namespace Operation

section

variable {step : Operation} {state : State} {emitter : Emitter}

theorem delivered_of_disabled (hstep : step.IsStep) (h : step.emitter? state = some emitter)
    (hoff : emitter.enabled = false) : step.delivered state = [] := by
  refine List.eq_nil_iff_forall_not_mem.mpr fun delivery hdelivery => ?_
  obtain ⟨other, hother, henabled, -⟩ := exists_emitter_of_mem_delivered hstep hdelivery
  obtain rfl := Option.some.inj (hother.symm.trans h)
  exact Bool.false_ne_true (hoff.symm.trans henabled)

theorem captured_perform_of_disabled (hstep : step.IsStep)
    (h : step.emitter? state = some emitter) (hoff : emitter.enabled = false) (sink : Sink) :
    (step.perform state).1.captured sink = state.captured sink := by
  cases sink with
  | capture buffer =>
      have htake : step ≠ .take buffer := by
        rintro rfl
        cases h
      have hwarnings := warnings_perform hstep htake state
      rwa [delivered_of_disabled hstep h hoff, Delivery.warningsTo_nil, List.append_nil] at hwarnings
  | log withLocation => rfl
  | discard => rfl

theorem exists_left_of_disabled (hstep : step.IsStep) (h : step.emitter? state = some emitter)
    (hoff : emitter.enabled = false) :
    ∃ left : Journal, (step.perform state).1.journal = state.journal ++ left ∧
      left.deliveries = [] ∧ ∀ event ∈ left.events, event.severity ≠ .warn := by
  obtain ⟨left, hjournal, hdeliveries, hevents, -⟩ := exists_delivered_of_emitter? hstep h
  have hnone : left.deliveries = [] :=
    List.eq_nil_iff_forall_not_mem.mpr fun delivery hdelivery =>
      Bool.false_ne_true (hoff.symm.trans (hdeliveries delivery hdelivery).1)
  refine ⟨left, hjournal, hnone, fun event hevent hwarn => ?_⟩
  rw [hnone, List.flatMap_nil] at hevents
  simpa [hwarn] using List.filter_eq_nil_iff.mp hevents event hevent

theorem mem_registry_perform_of_mem_attempts (hstep : step.IsStep) {notice : Notice}
    (h : (emitter, notice) ∈ step.attempts state) :
    notice ∈ (step.perform state).1.registry emitter.registry := by
  have hattempts : (emitter, notice) ∈ attemptsAll [step] state := by
    rw [attemptsAll, attemptsAll, List.append_nil]
    exact h
  have hmem := mem_registry_of_mem_attemptsAll (List.forall_mem_singleton.mpr hstep) hattempts
  rwa [performAll, performAll] at hmem

end

section

variable {steps : List Operation} {state : State} {sink : Sink}

/-- No step of a run goes through an emitter over a sink, unless the emitter is switched off. -/
def LeavesOff (sink : Sink) (steps : List Operation) (state : State) : Prop :=
  ∀ before step after emitter, steps = before ++ step :: after →
    step.emitter? (performAll before state) = some emitter → emitter.sink = sink →
      emitter.enabled = false

theorem sink_ne_of_mem_deliveredAll (hsteps : ∀ step ∈ steps, step.IsStep)
    (h : LeavesOff sink steps state) :
    ∀ delivery ∈ deliveredAll steps state, delivery.sink ≠ sink := by
  rintro delivery hdelivery rfl
  obtain ⟨before, step, after, emitter, hsplit, hemitter, henabled, hsink⟩ :=
    exists_step_of_mem_deliveredAll hsteps hdelivery
  exact Bool.false_ne_true
    ((h before step after emitter hsplit hemitter hsink.symm).symm.trans henabled)

theorem deliveriesTo_performAll_of_leavesOff (hsteps : ∀ step ∈ steps, step.IsStep)
    (h : LeavesOff sink steps state) :
    (performAll steps state).journal.deliveriesTo sink = state.journal.deliveriesTo sink := by
  have hnone : (deliveredAll steps state).filter (fun delivery => delivery.sink = sink) = [] := by
    refine List.filter_eq_nil_iff.mpr fun delivery hdelivery => ?_
    simpa using sink_ne_of_mem_deliveredAll hsteps h delivery hdelivery
  rw [Journal.deliveriesTo, deliveries_performAll, List.filter_append, hnone, List.append_nil,
    Journal.deliveriesTo]

theorem captured_performAll_of_leavesOff (hsteps : ∀ step ∈ steps, step.IsStep)
    (h : LeavesOff sink steps state) (hempty : state.captured sink = []) :
    (performAll steps state).captured sink = [] := by
  cases sink with
  | capture buffer =>
      have hnone : Delivery.warningsTo buffer (deliveredAll steps state) = [] :=
        List.filterMap_eq_nil_iff.mpr fun delivery hdelivery =>
          if_neg (sink_ne_of_mem_deliveredAll hsteps h delivery hdelivery)
      -- even what the run took from the buffer is part of what was delivered to it
      have hkept := takenAll_append_captured hsteps buffer state
      rw [hempty, hnone] at hkept
      exact (List.append_eq_nil_iff.mp hkept).2
  | log withLocation => rfl
  | discard => rfl

end

end Operation

namespace Config

open Text

theorem overrideFrom_independent (config : Config) (first second : String → Option String) :
    let both : String → Option String := fun name =>
      if name = Environment.warningsVariable then first name else second name
    (config.overrideFrom (without Environment.channelVariable first)).overrideFrom
        (without Environment.warningsVariable second) = config.overrideFrom both ∧
      (config.overrideFrom (without Environment.warningsVariable second)).overrideFrom
        (without Environment.channelVariable first) = config.overrideFrom both := by
  intro both
  have hne := Environment.warningsVariable_ne
  have hwarnings : without Environment.channelVariable first Environment.warningsVariable =
      both Environment.warningsVariable :=
    (without_of_ne hne first).trans (if_pos rfl).symm
  have hchannel : without Environment.warningsVariable second Environment.channelVariable =
      both Environment.channelVariable :=
    (without_of_ne hne.symm second).trans (if_neg hne.symm).symm
  constructor
  · refine Config.ext ?_ ?_ rfl
    · rw [governs_enabled.of_second_none (without_self _ second), governs_enabled.congr hwarnings]
    · rw [governs_channel.of_first_none (without_self _ first), governs_channel.congr hchannel]
  · refine Config.ext ?_ ?_ rfl
    · rw [governs_enabled.of_first_none (without_self _ second), governs_enabled.congr hwarnings]
    · rw [governs_channel.of_second_none (without_self _ first), governs_channel.congr hchannel]

/-- Which of several layers of settings prevails.  Overriding by one lookup and then by another is
overriding once by the layers of both, in which a value that selects nothing hides nothing; so doing
it again changes nothing, only the values that select something matter, each variable is on its own,
and locations are never concerned.  An emitter that is made from settings which a document gives and
a lookup overrides follows the variable, then the field, then the default.  If that switches it off,
a step through it delivers nothing, whatever the step is, though its notices count as seen; and as
long as no emitter that is switched on uses its sink, the sink is given nothing.  The emitter of the
process is made in this way from the defaults and the environment. -/
theorem overrides_prevail (config : Config) :
    (∀ first second, (config.overrideFrom first).overrideFrom second =
        config.overrideFrom (layered first second)) ∧
      (∀ lookup, (config.overrideFrom lookup).overrideFrom lookup = config.overrideFrom lookup) ∧
      (∀ first second,
        (∀ name text, IsRecognised name text →
          (first name = some text ↔ second name = some text)) →
            config.overrideFrom first = config.overrideFrom second) ∧
      config.overrideFrom (fun _ => none) = config ∧
      (∀ first second,
        let both : String → Option String := fun name =>
          if name = Environment.warningsVariable then first name else second name
        ((config.overrideFrom (without Environment.channelVariable first)).overrideFrom
              (without Environment.warningsVariable second) = config.overrideFrom both ∧
            (config.overrideFrom (without Environment.warningsVariable second)).overrideFrom
              (without Environment.channelVariable first) = config.overrideFrom both) ∧
          (first Environment.warningsVariable = second Environment.warningsVariable →
            (config.overrideFrom first).enabled = (config.overrideFrom second).enabled) ∧
          (first Environment.channelVariable = second Environment.channelVariable →
            (config.overrideFrom first).channel = (config.overrideFrom second).channel)) ∧
      (∀ lookup,
        let settings := config.overrideFrom lookup
        settings.includeLocation = config.includeLocation ∧
          ∀ state,
            let made := Emitter.ofConfig settings state
            let emitter := made.2
            emitter.registry = Registry.shared ∧
              (∀ document entries, Toml.read? document = some entries →
                ofText document = .ok config →
                  let fields := sectionFields entries
                  Prevails switchWords Toml.IsTruth true (lookup Environment.warningsVariable)
                      (fields.lookup "enabled") emitter.enabled ∧
                    Prevails channelWords Toml.Selects .tracing
                      (lookup Environment.channelVariable) (fields.lookup "sink")
                      emitter.sink.channel ∧
                    ∀ withLocation, emitter.sink = .log withLocation →
                      Decoding.IsReadAs Toml.IsTruth true (fields.lookup "include_location")
                        withLocation) ∧
              (emitter.enabled = false → ∀ operations,
                let steps := Operation.stepsAll operations made.1
                Operation.performAll steps made.1 = Operation.performAll operations made.1 ∧
                  (∀ before step after, steps = before ++ step :: after →
                    let moment := Operation.performAll before made.1
                    let next := (step.perform moment).1
                    step.emitter? moment = some emitter →
                      (∃ left : Journal, next.journal = moment.journal ++ left ∧
                          left.deliveries = [] ∧
                          ∀ event ∈ left.events, event.severity ≠ .warn) ∧
                        (∀ sink, next.captured sink = moment.captured sink) ∧
                        ∀ notice, (emitter, notice) ∈ step.attempts moment →
                          notice ∈ next.registry Registry.shared) ∧
                  ∀ before after, steps = before ++ after →
                    Operation.LeavesOff emitter.sink before made.1 →
                      let moment := Operation.performAll before made.1
                      moment.journal.deliveriesTo emitter.sink =
                          state.journal.deliveriesTo emitter.sink ∧
                        moment.captured emitter.sink = [])) ∧
      ∀ state : State, state.shared = none →
        let emitter := state.sharedEmitter.2
        Prevails switchWords Toml.IsTruth true state.environment.warnings none emitter.enabled ∧
          Prevails channelWords Toml.Selects .tracing state.environment.channel none
            emitter.sink.channel := by
  refine ⟨overrideFrom_overrideFrom config, fun lookup => ?_,
    fun first second h => overrideFrom_congr_of_recognised h config, overrideFrom_none config,
    fun first second => ⟨overrideFrom_independent config first second,
      fun h => governs_enabled.congr h config, fun h => governs_channel.congr h config⟩,
    fun lookup => ⟨rfl, fun state => ?_⟩, fun state hnone => ?_⟩
  · rw [overrideFrom_overrideFrom, layered_self]
  · intro made emitter
    have hemitter : emitter = Emitter.made (config.overrideFrom lookup) state.buffers.fresh :=
      State.ofConfig_snd _ state
    refine ⟨congrArg Emitter.registry hemitter, fun document entries hread hconfig => ?_,
      fun hoff operations => ?_⟩
    · have hsaid := isSaidBy_sectionFields hread hconfig
      refine ⟨?_, ?_, fun withLocation hsink => ?_⟩
      · rw [hemitter]
        exact prevails_enabled hsaid.enabled (Environment.ofLookup lookup)
      · rw [hemitter, Emitter.channel_made]
        exact prevails_channel hsaid.channel (Environment.ofLookup lookup)
      · rw [hemitter] at hsink
        obtain rfl := Emitter.withLocation_of_made hsink
        exact hsaid.includeLocation
    · intro steps
      have hsteps : ∀ step ∈ steps, step.IsStep :=
        Operation.isStep_of_mem_stepsAll operations made.1
      refine ⟨Operation.performAll_stepsAll operations made.1, ?_, ?_⟩
      · intro before step after hsplit moment next hstepEmitter
        have hstep : step.IsStep := hsteps step (by rw [hsplit]; simp)
        refine ⟨Operation.exists_left_of_disabled hstep hstepEmitter hoff,
          Operation.captured_perform_of_disabled hstep hstepEmitter hoff, fun notice h => ?_⟩
        have hmem := Operation.mem_registry_perform_of_mem_attempts hstep h
        rwa [hemitter] at hmem
      · intro before after hsplit hleaves moment
        have hbefore : ∀ step ∈ before, step.IsStep := fun step hstep =>
          hsteps step (by rw [hsplit]; exact List.mem_append_left _ hstep)
        constructor
        · rw [Operation.deliveriesTo_performAll_of_leavesOff hbefore hleaves,
            State.journal_ofConfig]
        · refine Operation.captured_performAll_of_leavesOff hbefore hleaves ?_
          rw [hemitter]
          exact Emitter.captured_made _ state
  · intro emitter
    have hemitter : emitter =
        Emitter.made (({} : Config).override state.environment) state.buffers.fresh := by
      rw [show emitter = _ from State.sharedEmitter_snd state, hnone, Option.getD_none]
    have hdefaults : ({} : Config).IsSaidBy [] := ⟨rfl, rfl, rfl⟩
    constructor
    · rw [hemitter]
      exact prevails_enabled hdefaults.enabled state.environment
    · rw [hemitter, Emitter.channel_made]
      exact prevails_channel hdefaults.channel state.environment

/-- A word that is not known does not undo an earlier override: the emitter stays switched off, and
what is shown through it does not reach the buffer that the section asks for. -/
theorem switched_off_under_unknown_word :
    let config : Config := ⟨true, .capture, true⟩
    let first : String → Option String := fun name =>
      if name = Environment.warningsVariable then some " Off\t" else none
    let second : String → Option String := fun _ => some "maybe"
    let made := Emitter.ofConfig ((config.overrideFrom first).overrideFrom second) {}
    let notice : Notice := ⟨"2.0.0", .method, "run", none, none, none⟩
    let step : Operation := .warn (.own made.2) notice 2 ⟨"main.rs", 1⟩
    let final := (step.perform made.1).1
    ofText "deprecation = [true, \"capture\"]\n" = .ok config ∧ made.2.enabled = false ∧
      made.2.sink = .capture ⟨0⟩ ∧ final.captured made.2.sink = [] ∧
      final.journal.deliveriesTo made.2.sink = [] ∧ notice ∈ final.registry Registry.shared := by
  intro config first second made notice step final
  have hconfig : ofText "deprecation = [true, \"capture\"]\n" = .ok config := by decide +kernel
  have hread : (Toml.read? "deprecation = [true, \"capture\"]\n").isSome = true := by
    decide +kernel
  obtain ⟨entries, hentries⟩ := Option.isSome_iff_exists.mp hread
  obtain ⟨hlayers, -, -, -, -, hmade, -⟩ := overrides_prevail config
  have hlayered : made = Emitter.ofConfig (config.overrideFrom (layered first second)) {} := by
    rw [← hlayers]
  have hlookup : layered first second Environment.warningsVariable = some " Off\t" := by
    decide +kernel
  have hspells : Spells " Off\t" "off" := ⟨['O', 'f', 'f'], trim_eq_iff.mp (by decide), rfl⟩
  obtain ⟨-, hprevails, hdisabled⟩ := (hmade (layered first second)).2 {}
  rw [← hlayered] at hprevails hdisabled
  have hoff : made.2.enabled = false :=
    (hprevails _ entries hentries hconfig).1.selected _ "off" false hlookup (by decide) hspells
  obtain ⟨-, hsteps, -⟩ := hdisabled hoff [step]
  have hstep := hsteps [] step [] rfl rfl
  rw [Operation.performAll] at hstep
  obtain ⟨⟨left, hjournal, hleft, -⟩, hcaptured, hseen⟩ := hstep
  refine ⟨hconfig, hoff, rfl, hcaptured _, ?_, hseen notice (List.mem_singleton.mpr rfl)⟩
  rw [Journal.deliveriesTo, show final.journal = _ from hjournal, Journal.deliveries_append, hleft]
  rfl

end Config

end Deprecation
