import TokenIntake.Proofs.Check.Options
import TokenIntake.Proofs.Command.ExitCode

namespace TokenIntake.Command

open Run Options

def askedFor (verbosity : Int) : Mapping :=
  if verbosity = 0 then [] else [(.text "log_level", .text (if 2 ≤ verbosity then "DEBUG" else "INFO"))]

/-- What is bound to a key: what the verbosity asks for goes before what is given, and that before the defaults. -/
def configured (verbosity : Int) (given : Mapping) (k : Scalar) : Option Value :=
  ((askedFor verbosity).get? k).or ((given.get? k).or (standard.get? k))

def invalid (reason : Text) : Stop := .error ("Invalid validator configuration: " ++ reason) 1

def stopOf : Options.Fault → Stop
  | .pairs f => .failure f.message
  | .unwritable u => .failure u.message
  | f => invalid f.message

/-- What is promised: an engine with the configuration that the value under its key gives, or a complaint. -/
inductive BuildsOrComplains (verbosity : Int) (v : Value) (result : Except Stop Engine) : Prop where
  | builds {given options : Mapping} (gives : Gives v given)
      (same : ∀ k, options.get? k = configured verbosity given k) (built : result = .ok (Engine.fresh options))
  | complains {reason : Text} (stopped : result = .error (invalid reason))

/-- The level can be written down, or nobody comes to look at it for want of an identifier. -/
def Sayable (config : Scalar → Option Value) : Prop := Identified config → ∀ u, ¬Unwritten (level config) u

section

variable {s : Session} {w : Settings.World} {given : Mapping} {v : Value}

theorem engine_on (loaded : s.Loaded w) (t : Terminal) :
    ((Instantiate.engine s w).on t).1 =
      match s.engineOptions (Settings.get? s.settings "validator") with
      | .error f => .error (.failure f.message)
      | .ok options => (Engine.buildDefault (.map options)).value.mapError stopOf := by
  rw [Instantiate.engine, on_bind_of_ok (loaded.on_get? "validator" t)]
  dsimp only
  cases s.engineOptions (Settings.get? s.settings "validator") with
  | error f => rfl
  | ok options =>
    dsimp only
    rw [on_bind_of_ok (on_checks _ _)]
    cases (Engine.buildDefault (.map options)).value with
    | ok e => rfl
    | error f => cases f <;> rfl

theorem engineOptions_of_gives {found : Option Value} (gives : Gives (found.getD .null) given)
    (distinct : given.Distinct) : ∃ options, s.engineOptions found = .ok options ∧ options.Distinct ∧
      ∀ k, options.get? k = ((askedFor s.verbosity).get? k).or (given.get? k) := by
  rw [Session.engineOptions, gives_iff.mp gives]
  refine ⟨_, rfl, ?_⟩
  dsimp only [askedFor]
  by_cases quiet : s.verbosity = 0
  · rw [if_pos quiet, if_pos quiet]
    exact ⟨distinct, fun _ => rfl⟩
  · rw [if_neg quiet, if_neg quiet]
    refine ⟨distinct.put _ _, fun k => ?_⟩
    rw [Mapping.get?_put, Mapping.get?_cons]
    split <;> rfl

theorem wellKeyed_of_loaded (loaded : s.Loaded w) (key : Text) :
    ((Settings.get? s.settings key).getD .null).WellKeyed := by
  cases found : Settings.get? s.settings key with
  | none => exact Value.wellKeyed_scalar .null
  | some v => exact loaded.wellKeyed found

theorem engine_of_gives (loaded : s.Loaded w) (t : Terminal)
    (gives : Gives ((Settings.get? s.settings "validator").getD .null) given) :
    ∃ built, Engine.Outcome (configured s.verbosity given) built ∧
      ((Instantiate.engine s w).on t).1 = built.mapError stopOf := by
  have distinct := gives.distinct (wellKeyed_of_loaded loaded "validator")
  obtain ⟨options, prepared, keyed, bound⟩ := engineOptions_of_gives gives distinct
  have outcome := Engine.buildDefault_outcome (gives_iff.mpr (ofGiven_map options)) keyed
  have config : (fun k => (options.get? k).or (standard.get? k)) = configured s.verbosity given :=
    funext fun k => by rw [bound, Option.or_assoc, configured]
  rw [config] at outcome
  exact ⟨_, outcome, by rw [engine_on loaded, prepared]⟩

theorem engine_of_none (loaded : s.Loaded w) (t : Terminal)
    (none : ¬∃ given, Gives ((Settings.get? s.settings "validator").getD .null) given) :
    ∃ f, ofGiven ((Settings.get? s.settings "validator").getD .null) = .error f ∧
      ((Instantiate.engine s w).on t).1 = .error (.failure f.message) := by
  cases prepared : ofGiven ((Settings.get? s.settings "validator").getD .null) with
  | ok given => exact (none ⟨given, gives_iff.mpr prepared⟩).elim
  | error f => exact ⟨f, rfl, by rw [engine_on loaded, Session.engineOptions, prepared]; rfl⟩

theorem buildsOrComplains_iff {built : Except Options.Fault Engine} {verbosity : Int} (gives : Gives v given)
    (outcome : Engine.Outcome (configured verbosity given) built) :
    BuildsOrComplains verbosity v (built.mapError stopOf) ↔ Sayable (configured verbosity given) := by
  cases outcome with
  | built identified known same => exact iff_of_true (.builds gives same rfl) fun _ => known.not_unwritten
  | unidentified none => exact iff_of_true (.complains rfl) fun identified => (none identified).elim
  | unknown identified unknown => exact iff_of_true (.complains rfl) fun _ => unknown.not_unwritten
  | unwritten identified unwritten =>
    refine iff_of_false ?_ fun never => never identified _ unwritten
    rintro (⟨_, _, built⟩ | stopped)
    · cases built
    · cases stopped

theorem promise_iff {verbosity : Int} {result : Except Stop Engine}
    (ofGives : ∀ given, Gives v given →
      ∃ built, Engine.Outcome (configured verbosity given) built ∧ result = built.mapError stopOf)
    (ofNone : (¬∃ given, Gives v given) → ∃ f, ofGiven v = .error f ∧ result = .error (.failure f.message)) :
    BuildsOrComplains verbosity v result ↔ ∃ given, Gives v given ∧ Sayable (configured verbosity given) := by
  by_cases some : ∃ given, Gives v given
  · obtain ⟨given, gives⟩ := some
    obtain ⟨built, outcome, stopped⟩ := ofGives given gives
    rw [stopped, buildsOrComplains_iff gives outcome]
    refine ⟨fun kept => ⟨given, gives, kept⟩, ?_⟩
    rintro ⟨given', gives', kept⟩
    exact gives.unique gives' ▸ kept
  · obtain ⟨f, _, stopped⟩ := ofNone some
    refine iff_of_false ?_ fun ⟨given, gives, _⟩ => some ⟨given, gives⟩
    rw [stopped]
    rintro (⟨_, _, built⟩ | complaint)
    · cases built
    · cases complaint

theorem known_of_verbose {verbosity : Int} (verbose : verbosity ≠ 0) (given : Mapping) :
    Known (level (configured verbosity given)) := by
  have asked : level (configured verbosity given) = .text (if 2 ≤ verbosity then "DEBUG" else "INFO") := by
    rw [level, configured, askedFor, if_neg verbose]
    rfl
  rw [asked]
  intro _
  split
  · exact ⟨"DEBUG", some .debug, by decide, by decide⟩
  · exact ⟨"INFO", some .info, by decide, by decide⟩

end

/-- Where the settings give options, there is an engine that has them, under what the verbosity asks for and over the
defaults, unless the identifier is none or the level is unknown, which is said. What is promised is missed where the
settings give something else than options, and where the level counts and cannot be written down. -/
theorem engine_of_settings {w : Settings.World} {file profile : Option Text} {s : Session}
    (opened : ((Session.new file profile).load w).value = (s, .ok ())) (verbosity : Int) (t : Terminal) :
    let v := (Settings.get? s.settings "validator").getD .null
    let result := ((Instantiate.engine { s with verbosity := verbosity } w).on t).1
    (∃ sources, Settings.Merged w s.file s.profile s.settings sources) ∧
    (∀ given, Gives v given →
      ∃ built, Engine.Outcome (configured verbosity given) built ∧ result = built.mapError stopOf) ∧
    ((¬∃ given, Gives v given) → ∃ f, ofGiven v = .error f ∧ result = .error (.failure f.message)) ∧
    (BuildsOrComplains verbosity v result ↔ ∃ given, Gives v given ∧ Sayable (configured verbosity given)) ∧
    (verbosity ≠ 0 → (BuildsOrComplains verbosity v result ↔ ∃ given, Gives v given)) := by
  intro v result
  have loaded := Session.loaded_of_load opened
  have same : ({ s with verbosity := verbosity } : Session).Loaded w := ⟨loaded.kept, loaded.merged⟩
  have promise := promise_iff (fun _ gives => engine_of_gives same t gives) (engine_of_none same t)
  refine ⟨loaded.merged, fun _ gives => engine_of_gives same t gives, engine_of_none same t, promise, ?_⟩
  intro verbose
  refine promise.trans ⟨fun ⟨given, gives, _⟩ => ⟨given, gives⟩, fun ⟨given, gives⟩ => ⟨given, gives, fun _ => ?_⟩⟩
  exact (known_of_verbose verbose given).not_unwritten

def sessionIn (w : Settings.World) : Session := ((Session.new none none).load w).value.1

theorem opened_of_ok {w : Settings.World} (done : ((Session.new none none).load w).value.2 = .ok ()) :
    ((Session.new none none).load w).value = (sessionIn w, .ok ()) := Prod.ext rfl done

def loudLevel : Settings.World := worldWith ".tokenmsg.json" "\x7b\"validator\": [[\"log_level\", \"loud\"]]\x7d"

def loudGiven : Mapping := [(.text "log_level", .text "loud")]

theorem engine_of_settings_loudLevel :
    ((Session.new none none).load loudLevel).value = (sessionIn loudLevel, .ok ()) ∧
      Gives ((Settings.get? (sessionIn loudLevel).settings "validator").getD .null) loudGiven ∧
      ∃ options, ((Instantiate.engine { sessionIn loudLevel with verbosity := 2 } loudLevel).on
          (Terminal.new loudLevel.files)).1 = .ok (Engine.fresh options) ∧
        options.field? "log_level" = some (.text "DEBUG") ∧
        options.field? "validator_id" = some (.text "tokenmsg_default_validator") := by
  have opened := opened_of_ok (by decide +kernel : ((Session.new none none).load loudLevel).value.2 = .ok ())
  have gives : Gives ((Settings.get? (sessionIn loudLevel).settings "validator").getD .null) loudGiven :=
    gives_iff.mpr (by decide +kernel)
  obtain ⟨_, ofGives, _⟩ := engine_of_settings opened 2 (Terminal.new loudLevel.files)
  obtain ⟨built, outcome, result⟩ := ofGives loudGiven gives
  have known : Known (level (configured 2 loudGiven)) := known_of_verbose (by decide) loudGiven
  have identified : Identified (configured 2 loudGiven) := ⟨"tokenmsg_default_validator", by decide, by decide⟩
  refine ⟨opened, gives, ?_⟩
  cases outcome with
  | built _ _ same => exact ⟨_, result, (same _).trans (by decide), (same _).trans (by decide)⟩
  | unidentified none => exact (none identified).elim
  | unknown _ unknown => exact (known.not_unknown _ unknown).elim
  | unwritten _ unwritten => exact (known.not_unwritten _ unwritten).elim

def numberGiven : Settings.World := worldWith ".tokenmsg.json" "\x7b\"validator\": 5\x7d"

theorem numberGiven_not_refused :
    ((Session.new none none).load numberGiven).value = (sessionIn numberGiven, .ok ()) ∧
      ((Instantiate.engine (sessionIn numberGiven) numberGiven).on (Terminal.new numberGiven.files)).1 =
        .error (.failure "'int' object is not iterable") ∧
      ¬BuildsOrComplains 0 ((Settings.get? (sessionIn numberGiven).settings "validator").getD .null)
        ((Instantiate.engine (sessionIn numberGiven) numberGiven).on (Terminal.new numberGiven.files)).1 := by
  have opened := opened_of_ok (by decide +kernel : ((Session.new none none).load numberGiven).value.2 = .ok ())
  have noOptions : (sessionIn numberGiven).engineOptions (Settings.get? (sessionIn numberGiven).settings "validator") =
      .error (.notIterable "int") := by decide +kernel
  have stopped := engine_on (Session.loaded_of_load opened) (Terminal.new numberGiven.files)
  rw [noOptions] at stopped
  have message : (Mapping.PairsFault.notIterable "int").message = "'int' object is not iterable" := by decide
  dsimp only at stopped
  rw [message] at stopped
  refine ⟨opened, stopped, ?_⟩
  rw [stopped]
  rintro (⟨_, _, built⟩ | complaint)
  · cases built
  · cases complaint

end TokenIntake.Command
