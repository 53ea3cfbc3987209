import Mathlib.Data.List.Induction
import TokenIntake.Proofs.Check.Options
import TokenIntake.Proofs.Log

namespace TokenIntake

open Options

def Traced.Steady {α : Type} (x : Traced α) : Prop := x.Leaves fun _ => True

theorem Traced.Steady.threshold {α : Type} {x : Traced α} (steady : x.Steady) (start : Option Log.Level) :
    (Log.replay start x.events).2 = start := Leaves.threshold steady start

theorem Rule.reject_steady (name : Text) (c : Context) (r : Rejection) : (reject name c r).Steady :=
  .bind (.log trivial) fun _ => .pure _

theorem Rule.ofMessage_steady {name description : Text} {judge : Message → Context → Traced (Context × Bool)}
    (steady : ∀ m c, (judge m c).Steady) (c : Context) : ((ofMessage name description judge).check c).Steady := by
  dsimp only [ofMessage]
  split
  · exact .bind (steady _ c) fun _ => .pure _
  · exact .pure _

theorem Rule.standard_steady : ∀ r ∈ Rule.standard, ∀ c, (r.check c).Steady := by
  simp only [Rule.standard, List.forall_mem_cons, List.not_mem_nil, false_implies, implies_true, and_true]
  refine ⟨ofMessage_steady fun m c => ?_, ofMessage_steady fun m c => ?_, ofMessage_steady fun m c => ?_⟩
  · split
    · exact .bind (.log trivial) fun _ => .pure _
    · exact .bind (reject_steady _ _ _) fun _ => .pure _
  · split
    · exact .pure _
    · exact .bind (reject_steady _ _ _) fun _ => .pure _
  · split
    · exact .pure _
    · exact .bind (reject_steady _ _ _) fun _ => .pure _

namespace Engine

theorem register_steady (e : Engine) (r : Rule) : (e.register r).Steady := by
  unfold register
  dsimp only
  split
  · exact .bind (.log trivial) fun _ => .bind (.log trivial) fun _ => .pure _
  · exact .bind (.log trivial) fun _ => .pure _

theorem registerAll_steady (e : Engine) (rules : List Rule) : (e.registerAll rules).Steady := by
  induction rules generalizing e with
  | nil => exact .pure e
  | cons r rest ih => exact .bind (register_steady e r) ih

theorem runRules_steady {rules : List Rule} (steady : ∀ r ∈ rules, ∀ c, (r.check c).Steady) (c : Context) :
    (runRules c rules).Steady := by
  induction rules generalizing c with
  | nil => exact .pure _
  | cons r rest ih =>
    obtain ⟨first, others⟩ := List.forall_mem_cons.mp steady
    unfold runRules
    split
    · refine .bind (first c) fun answer => ?_
      split
      · exact .pure _
      · exact .bind (.log trivial) fun _ => ih others _
      · exact .bind (.log trivial) fun _ => .pure _
    · exact .bind (.log trivial) fun _ => ih others c

theorem check_steady {e : Engine} (standard : e.rules = Rule.standard) (now : Nat) (m : Message) :
    (e.check now m).Steady := by
  unfold check
  have rules : ∀ r ∈ e.rules, ∀ c, (r.check c).Steady := standard ▸ Rule.standard_steady
  refine .bind (.log trivial) fun _ => .bind (.bind (runRules_steady rules _) fun _ => .pure _) fun ran => ?_
  dsimp only
  split
  · exact .pure _
  · exact .bind (.log trivial) fun _ => .pure _

def Leveled (e : Engine) : Prop := (level e.options.get?).truthy = true

/-- The engine has a level, and this is the threshold that goes by its name. -/
structure Names (e : Engine) (least : Option Log.Level) : Prop where
  leveled : e.Leveled
  named : ∃ name, (level e.options.get?).shown = .ok name ∧ Log.threshold? name.upperAscii = some least

/-- Where the threshold goes when an engine is to be made: to the one that is named for it, and nowhere if there is no
engine or no level. -/
inductive Moves (result : Except Options.Fault Engine) (start : Option Log.Level) : Option Log.Level → Prop where
  | named {e : Engine} {least : Option Log.Level} (made : result = .ok e) (names : e.Names least) :
    Moves result start least
  | kept (none : ∀ e, result = .ok e → ¬e.Leveled) : Moves result start start

theorem ofOptions_moves (given : Mapping) (start : Option Log.Level) :
    Moves (ofOptions given).value start (Log.replay start (ofOptions given).events).2 := by
  rw [value_ofOptions]
  unfold ofOptions
  rw [Traced.events_bind, Log.replay_append, Traced.Steady.threshold (.log trivial)]
  dsimp only
  generalize fill given Options.defaults = options
  have registers (set : Option Log.Level) : (Log.replay set (registerAll ⟨options, [], [], [], ⟨0, 0, 0, 0⟩⟩
      Rule.standard >>= fun e => (pure (.ok e) : Traced (Except Options.Fault Engine))).events).2 = set :=
    Traced.Steady.threshold (.bind (registerAll_steady _ _) fun _ => .pure _) set
  cases validatorId? options with
  | none => exact .kept fun e made => nomatch made
  | some id =>
    have asks := threshold?_asks (level options.get?)
    dsimp only
    rw [← level_get?]
    generalize Options.threshold? (level options.get?) = asked at asks ⊢
    cases asks with
    | nothing empty =>
      rw [registers]
      refine .kept fun e is => ?_
      cases is
      exact Bool.eq_false_iff.mp empty
    | threshold more shown named =>
      rw [Traced.events_bind, Log.replay_append, registers]
      exact .named rfl ⟨more, _, shown, named⟩
    | unknown unknown => exact .kept fun e made => nomatch made
    | unwritten unwritten => exact .kept fun e made => nomatch made

theorem build_moves (given : Value) (start : Option Log.Level) :
    Moves (build given).value start (Log.replay start (build given).events).2 := by
  unfold build
  split
  · exact .kept fun e made => nomatch made
  · exact ofOptions_moves _ start

theorem buildDefault_moves (given : Value) (start : Option Log.Level) :
    Moves (buildDefault given).value start (Log.replay start (buildDefault given).events).2 := by
  unfold buildDefault
  split
  · exact .kept fun e made => nomatch made
  · exact ofOptions_moves _ start

end Engine

theorem checkOnce_moves (now : Nat) (m : Message) (given : Value) (start : Option Log.Level) :
    Engine.Moves (Engine.buildDefault given).value start (Log.replay start (checkOnce now m given).events).2 := by
  have rest : (Log.replay start (checkOnce now m given).events).2 =
      (Log.replay start (Engine.buildDefault given).events).2 := by
    rw [checkOnce, Traced.events_bind, Log.replay_append]
    refine Traced.Steady.threshold ?_ _
    cases made : (Engine.buildDefault given).value with
    | error fault => exact .pure _
    | ok e =>
      obtain ⟨options, same⟩ := Engine.Built.exists_fresh (.inr made)
      have standard : e.rules = Rule.standard := same ▸ Engine.rules_fresh options
      exact .bind (Engine.check_steady standard now m) fun _ => .pure _
  rw [rest]
  exact Engine.buildDefault_moves given start

def Options.Fault.isConfiguration : Options.Fault → Bool
  | .validatorId | .logLevel _ => true
  | .pairs _ | .unwritable _ => false

/-- A call that is to make an engine with the options that a value gives. -/
inductive Making where
  | plain (given : Value)
  | default (given : Value)
  | once (now : Nat) (m : Message) (given : Value)
  | rawOnce (now : Nat) (v given : Value)

namespace Making

def given : Making → Value
  | plain given | default given | once _ _ given | rawOnce _ _ given => given

def defaults : Making → Mapping
  | plain _ => Options.defaults
  | default _ | once .. | rawOnce .. => standard

def engine? : Making → Option (Except Options.Fault Engine)
  | plain given => some (Engine.build given).value
  | default given | once _ _ given => some (Engine.buildDefault given).value
  | rawOnce _ v given =>
    match Message.decode v with
    | .good _ => some (Engine.buildDefault given).value
    | .bad _ => none

def events : Making → List Log.Event
  | plain given => (Engine.build given).events
  | default given => (Engine.buildDefault given).events
  | once now m given => (checkOnce now m given).events
  | rawOnce now v given => (checkRawOnce now v given).events

def Raises : Making → Options.Fault → Prop
  | plain given, f => (Engine.build given).value = .error f
  | default given, f => (Engine.buildDefault given).value = .error f
  | once now m given, f => (checkOnce now m given).value = .error f
  | rawOnce now v given, f => (checkRawOnce now v given).value = .ok (.error f)

def Makes (c : Making) (e : Engine) : Prop := c.engine? = some (.ok e)

def Sets (c : Making) : Prop := ∃ e, c.Makes e ∧ e.Leveled

variable {c : Making}

theorem raises_iff {f : Options.Fault} : c.Raises f ↔ c.engine? = some (.error f) := by
  have onceRaises (now : Nat) (m : Message) (given : Value) :
      (checkOnce now m given).value = .error f ↔ (Engine.buildDefault given).value = .error f := by
    rw [checkOnce, Traced.value_bind]
    cases (Engine.buildDefault given).value <;> simp
  cases c with
  | plain given => simp [Raises, engine?]
  | default given => simp [Raises, engine?]
  | once now m given => simp [Raises, engine?, onceRaises]
  | rawOnce now v given =>
    simp only [Raises, engine?, checkRawOnce]
    cases Message.decode v with
    | bad issues => simp
    | good m => simp [onceRaises]

theorem moves (c : Making) (start : Option Log.Level) :
    (c.engine? = none ∧ (Log.replay start c.events).2 = start) ∨
      ∃ result, c.engine? = some result ∧ Engine.Moves result start (Log.replay start c.events).2 := by
  cases c with
  | plain given => exact .inr ⟨_, rfl, Engine.build_moves given start⟩
  | default given => exact .inr ⟨_, rfl, Engine.buildDefault_moves given start⟩
  | once now m given => exact .inr ⟨_, rfl, checkOnce_moves now m given start⟩
  | rawOnce now v given =>
    dsimp only [engine?, events, checkRawOnce]
    cases Message.decode v with
    | bad issues => exact .inl ⟨rfl, rfl⟩
    | good m =>
      refine .inr ⟨_, rfl, ?_⟩
      have same := checkOnce_moves now m given start
      rw [Traced.events_bind, Log.replay_append]
      exact same

theorem threshold_cases (c : Making) (start : Option Log.Level) :
    (∃ e, c.Makes e ∧ e.Names (Log.replay start c.events).2) ∨
      (¬c.Sets ∧ (Log.replay start c.events).2 = start) := by
  rcases c.moves start with ⟨none, same⟩ | ⟨result, comes, moves⟩
  · refine .inr ⟨?_, same⟩
    rintro ⟨e, makes, _⟩
    cases none.symm.trans makes
  · generalize (Log.replay start c.events).2 = least at moves ⊢
    cases moves with
    | named made names => exact .inl ⟨_, comes.trans (congrArg some made), names⟩
    | kept none =>
      refine .inr ⟨?_, rfl⟩
      rintro ⟨e, makes, leveled⟩
      cases comes.symm.trans makes
      exact none e rfl leveled

def thresholdAfter (start : Option Log.Level) (calls : List Making) : Option Log.Level :=
  (Log.replay start (calls.flatMap events)).2

theorem thresholdAfter_append (start : Option Log.Level) (calls : List Making) (c : Making) :
    thresholdAfter start (calls ++ [c]) = (Log.replay (thresholdAfter start calls) c.events).2 := by
  simp only [thresholdAfter, List.flatMap_append, List.flatMap_singleton, Log.replay_append]

theorem thresholdAfter_cases (start : Option Log.Level) (calls : List Making) :
    (∃ before c after e, calls = before ++ c :: after ∧ c.Makes e ∧ e.Names (thresholdAfter start calls) ∧
        ∀ c' ∈ after, ¬c'.Sets) ∨
      ((∀ c ∈ calls, ¬c.Sets) ∧ thresholdAfter start calls = start) := by
  induction calls using List.reverseRecOn with
  | nil => exact .inr ⟨fun c none => (nomatch none), rfl⟩
  | append_singleton calls last ih =>
    rw [thresholdAfter_append]
    rcases last.threshold_cases (thresholdAfter start calls) with ⟨e, makes, names⟩ | ⟨sets, same⟩
    · exact .inl ⟨calls, last, [], e, rfl, makes, names, fun c none => (nomatch none)⟩
    · rw [same]
      have forall_last {calls' : List Making} (others : ∀ c ∈ calls', ¬c.Sets) : ∀ c ∈ calls' ++ [last], ¬c.Sets :=
        List.forall_mem_append.mpr ⟨others, List.forall_mem_singleton.mpr sets⟩
      rcases ih with ⟨before, c, after, e, rfl, makes, names, others⟩ | ⟨others, kept⟩
      · exact .inl ⟨before, c, after ++ [last], e, by simp, makes, names, forall_last others⟩
      · exact .inr ⟨forall_last others, kept⟩

theorem outcome_of_gives {result : Except Options.Fault Engine} {given : Mapping} (comes : c.engine? = some result)
    (gives : Gives c.given given) (distinct : given.Distinct) :
    Engine.Outcome (fun k => (given.get? k).or (c.defaults.get? k)) result := by
  cases c with
  | plain v =>
    cases comes
    have read : ofGiven v = .ok given := gives_iff.mp gives
    rw [Engine.build, read]
    exact Engine.ofOptions_outcome given
  | default v =>
    cases comes
    exact Engine.buildDefault_outcome gives distinct
  | once now m v =>
    cases comes
    exact Engine.buildDefault_outcome gives distinct
  | rawOnce now x v =>
    dsimp only [engine?] at comes
    split at comes
    · cases comes
      exact Engine.buildDefault_outcome gives distinct
    · cases comes

end Making

/-- The level is not empty, and its text is no name of a threshold, in whichever case. -/
def Options.Misnamed (asked : Value) : Prop :=
  asked.truthy = true ∧ ∃ name, asked.shown = .ok name ∧ name.upperAscii ∉ Log.thresholdNames

theorem Engine.Outcome.configuration_iff {config : Scalar → Option Value} {result : Except Options.Fault Engine}
    (outcome : Engine.Outcome config result) :
    (∃ f, result = .error f ∧ f.isConfiguration = true) ↔ ¬Identified config ∨ Misnamed (level config) := by
  cases outcome with
  | built identified known same =>
    refine iff_of_false ?_ ?_
    · rintro ⟨f, failed, _⟩
      cases failed
    · rintro (none | ⟨more, name, shown, unnamed⟩)
      · exact none identified
      · exact known.not_unknown name ⟨more, shown, (Log.threshold?_eq_none_iff _).mpr unnamed⟩
  | unidentified none => exact iff_of_true ⟨_, rfl, rfl⟩ (.inl none)
  | @unknown name identified unknown =>
    exact iff_of_true ⟨_, rfl, rfl⟩
      (.inr ⟨unknown.more, name, unknown.shown, (Log.threshold?_eq_none_iff _).mp unknown.none⟩)
  | unwritten identified unwritten =>
    refine iff_of_false ?_ ?_
    · rintro ⟨f, failed, configuration⟩
      cases failed
      cases configuration
    · rintro (none | ⟨more, name, shown, unnamed⟩)
      · exact none identified
      · cases unwritten.shown.symm.trans shown

/-- An engine is made whole, with what is given and only what is missing filled in, or the call fails: over its
configuration exactly where there is no identifier or the level is misnamed. A call that makes none leaves the
threshold, which is at all times the one that is named for the last engine that was made with a level. -/
theorem engines_made_whole :
    (∀ (c : Making) (result : Except Options.Fault Engine) (given : Mapping), c.engine? = some result →
      Gives c.given given → c.given.WellKeyed →
        let config := fun k => (given.get? k).or (c.defaults.get? k)
        Engine.Outcome config result ∧
        ((∃ f, c.Raises f ∧ f.isConfiguration = true) ↔ ¬Identified config ∨ Misnamed (level config)) ∧
        ((∃ e, c.Makes e) ↔ ¬∃ f, c.Raises f) ∧
        ∀ e, c.Makes e →
          e.statistics = ⟨⟨0, 0, 0, 0⟩, 3, ["name_format", "symbol_format", "decimals"]⟩ ∧
            e.rules = Rule.standard ∧ ∀ k, e.options.get? k = config k) ∧
    (∀ (c : Making) start, (∀ e, ¬c.Makes e) → Making.thresholdAfter start [c] = start) ∧
    ∀ (calls : List Making) start,
      (∃ before c after e, calls = before ++ c :: after ∧ c.Makes e ∧
        e.Names (Making.thresholdAfter start calls) ∧ ∀ c' ∈ after, ¬c'.Sets) ∨
      ((∀ c ∈ calls, ¬c.Sets) ∧ Making.thresholdAfter start calls = start) := by
  refine ⟨?_, ?_, fun calls start => Making.thresholdAfter_cases start calls⟩
  · intro c result given comes gives keyed config
    have outcome := Making.outcome_of_gives comes gives (gives.distinct keyed)
    have raises (f : Options.Fault) : c.Raises f ↔ result = .error f := by
      rw [Making.raises_iff, comes, Option.some.injEq]
    have makes (e : Engine) : c.Makes e ↔ result = .ok e := by
      rw [Making.Makes, comes, Option.some.injEq]
    simp only [raises, makes]
    refine ⟨outcome, outcome.configuration_iff, ?_, ?_⟩
    · cases result <;> simp
    · rintro e rfl
      cases outcome with
      | built identified known same => exact ⟨rfl, rfl, same⟩
  · intro c start none
    rcases c.threshold_cases start with ⟨e, makes, _⟩ | ⟨_, same⟩
    · exact (none e makes).elim
    · rw [Making.thresholdAfter, List.flatMap_singleton]
      exact same

def namelessEntries : Mapping := [(.text "validator_id", .text []), (.text "log_level", .text "debug")]

theorem engines_made_whole_nameless :
    Gives (Value.map namelessEntries) namelessEntries ∧ (Value.map namelessEntries).WellKeyed ∧
      (∃ f, (Making.default (.map namelessEntries)).Raises f ∧ f.isConfiguration = true) ∧
      Making.thresholdAfter (some .info) [.default (.map namelessEntries)] = some .info := by
  obtain ⟨each, kept, _⟩ := engines_made_whole
  have gives : Gives (Value.map namelessEntries) namelessEntries := .entries rfl rfl
  have distinct : (namelessEntries.map fun e => e.1.canon).Nodup := by decide
  have keyed : (Value.map namelessEntries).WellKeyed := by
    refine Value.wellKeyed_map_iff.mpr ⟨distinct, ?_⟩
    simp [namelessEntries, Value.wellKeyed_scalar]
  obtain ⟨_, configuration, whole, _⟩ := each (.default (.map namelessEntries)) _ namelessEntries rfl gives keyed
  have empty : (namelessEntries.get? (.text "validator_id")).or (standard.get? (.text "validator_id")) =
      some (.text []) := by decide
  have failed := configuration.mpr (.inl (by
    rintro ⟨id, full, bound⟩
    cases empty.symm.trans bound
    exact full rfl))
  refine ⟨gives, keyed, failed, kept _ _ fun e makes => ?_⟩
  obtain ⟨f, raises, _⟩ := failed
  exact whole.mp ⟨e, makes⟩ ⟨f, raises⟩

end TokenIntake
