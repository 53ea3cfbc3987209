import TokenIntake.Proofs.Command.Engine

namespace TokenIntake.Command

open Run Settings

def entrance (args : List Text) : Run Line := do
  let line ← parse rootSpec args
  if line.rest.isEmpty then return line
  let _ ← resolve rootSpec line.rest
  return line

inductive StandsFor : Value → Int → Prop where
  | nothing {v : Value} (empty : v.truthy = false) : StandsFor v 0
  | int (i : Int) : StandsFor (.int i) i
  | bool (b : Bool) : StandsFor (.bool b) (if b then 1 else 0)
  | float {x : Binary64} {i : Int} (cut : x.truncate? = some i) : StandsFor (.float x) i
  | text {t : Text} {i : Int} (read : t.int? = some i) : StandsFor (.text t) i
  | bytes {bs : List UInt8} {i : Int} (ascii : bs.all (· < 0x80) = true) (read : (Text.ofBytes bs).int? = some i) :
    StandsFor (.scalar (.bytes bs)) i

inductive Conversion (v : Value) : Except Stop Int → Prop where
  | number {i : Int} (stands : StandsFor v i) : Conversion v (.ok i)
  | refused {said : Text} (none : ¬∃ i, StandsFor v i)
      (finite : ¬∃ negative, v = .float (.infinite negative)) (shown : v.shown = .ok said) :
    Conversion v (.error (.misuse rootSpec
      (.badValue "cli.verbose" ("Verbosity in configuration must be an integer: " ++ said))))
  | infinite {negative : Bool} (endless : v = .float (.infinite negative)) :
    Conversion v (.error (.failure "cannot convert float infinity to integer"))
  | unsayable {u : Unwritable} (none : ¬∃ i, StandsFor v i) (unshown : v.shown = .error u) :
    Conversion v (.error (.failure u.message))

/-- What is promised: an integer, or that the setting was used wrongly. -/
inductive UsableOrMisused : Except Stop Int → Prop where
  | usable (i : Int) : UsableOrMisused (.ok i)
  | misused (message : Text) : UsableOrMisused (.error (.misuse rootSpec (.badValue "cli.verbose" message)))

section

variable {v : Value} {i : Int}

theorem standsFor_of_truthy (full : v.truthy = true) : StandsFor v i ↔ verbosityOf v = .ok i := by
  constructor
  · rintro (empty | i | b | cut | read)
    · rw [empty] at full
      cases full
    · rfl
    · rfl
    · rename_i x
      cases x with
      | finite negative m e => simp only [verbosityOf, cut]
      | nan => cases cut
      | infinite negative => cases cut
    · simp only [verbosityOf, read]
    · rename_i ascii read
      simp only [verbosityOf, if_pos ascii, read]
  · intro number
    unfold verbosityOf at number
    split at number
    · cases number; exact .int _
    · cases number; exact .bool _
    · cases number
    · split at number
      · rename_i cut
        cases number; exact .float cut
      · cases number
    · split at number
      · rename_i read
        cases number; exact .text read
      · cases number
    · split at number
      · rename_i read
        cases number
        split at read
        · rename_i ascii
          exact .bytes ascii read
        · cases read
      · cases number
    · cases number

theorem standsFor_of_empty (empty : v.truthy = false) : StandsFor v i ↔ i = 0 := by
  constructor
  · rintro (_ | i | b | cut | read)
    · rfl
    · simpa [Value.truthy, Value.top] using empty
    · cases empty
      rfl
    · rename_i x
      cases x with
      | finite negative m e =>
        have zero : m = 0 := by simpa [Value.truthy, Value.top, Binary64.isZero] using empty
        cases cut
        simp [zero]
      | nan => cases cut
      | infinite negative => cases cut
    · rename_i t
      cases t with
      | nil => cases read
      | cons c rest => cases empty
    · rename_i bs _ read
      cases bs with
      | nil => cases read
      | cons b rest => cases empty
  · rintro rfl
    exact .nothing empty

theorem StandsFor.unique {j : Int} (stands : StandsFor v i) (other : StandsFor v j) : i = j := by
  cases full : v.truthy with
  | true =>
    have number := (standsFor_of_truthy full).mp stands
    exact Except.ok.inj (number.symm.trans ((standsFor_of_truthy full).mp other))
  | false => rw [(standsFor_of_empty full).mp stands, (standsFor_of_empty full).mp other]

theorem not_standsFor_infinite (negative : Bool) : ¬∃ i, StandsFor (.float (.infinite negative)) i := by
  rintro ⟨i, stands⟩
  cases (standsFor_of_truthy rfl).mp stands

theorem verbosityOf_infinite_iff : verbosityOf v = .error .infinite ↔ ∃ negative, v = .float (.infinite negative) := by
  constructor
  · intro endless
    unfold verbosityOf at endless
    split at endless
    · cases endless
    · cases endless
    · exact ⟨_, rfl⟩
    · split at endless <;> cases endless
    · split at endless <;> cases endless
    · split at endless <;> cases endless
    · cases endless
  · rintro ⟨negative, rfl⟩
    rfl

theorem conversion_of_configured (configured : Option Value) (t : Terminal) :
    ∃ r, Conversion (configured.getD .null) r ∧ (configuredVerbosity configured).on t = (r, t) := by
  unfold configuredVerbosity
  generalize configured.getD .null = v
  dsimp only
  cases full : v.truthy with
  | false => exact ⟨.ok 0, .number (.nothing full), rfl⟩
  | true =>
    simp only [if_true]
    cases number : verbosityOf v with
    | ok i => exact ⟨.ok i, .number ((standsFor_of_truthy full).mpr number), rfl⟩
    | error f =>
      have none : ¬∃ i, StandsFor v i := by
        rintro ⟨i, stands⟩
        cases number.symm.trans ((standsFor_of_truthy full).mp stands)
      cases f with
      | infinite =>
        obtain ⟨negative, endless⟩ := verbosityOf_infinite_iff.mp number
        exact ⟨_, .infinite endless, rfl⟩
      | notInteger =>
        have finite : ¬∃ negative, v = .float (.infinite negative) := fun endless => by
          cases number.symm.trans (verbosityOf_infinite_iff.mpr endless)
        dsimp only [refuseSetting]
        cases shown : v.shown with
        | ok said => exact ⟨_, .refused none finite shown, rfl⟩
        | error u => exact ⟨_, .unsayable none shown, rfl⟩

theorem Conversion.code_iff {stop : Stop} (conversion : Conversion v (.error stop)) (t : Terminal) :
    (stop.conclude t).1 = 2 ↔ UsableOrMisused (.error stop) := by
  rw [stop.conclude_code t]
  cases conversion with
  | refused => exact iff_of_true rfl (.misused _)
  | infinite => exact iff_of_false (by decide) fun kept => nomatch kept
  | unsayable => exact iff_of_false (show ¬1 = 2 by decide) fun kept => nomatch kept

theorem shown_scalar_of_none {x : Scalar} (none : ¬∃ i, StandsFor (.scalar x) i) :
    ∃ said, (Value.scalar x).shown = .ok said := by
  cases x with
  | int i => exact (none ⟨i, .int i⟩).elim
  | null => exact ⟨_, rfl⟩
  | bool b => exact ⟨_, rfl⟩
  | float x => exact ⟨_, rfl⟩
  | text t => exact ⟨_, rfl⟩
  | bytes bs => exact ⟨_, rfl⟩
  | time t => exact ⟨_, rfl⟩

theorem usableOrMisused_iff {r : Except Stop Int} (conversion : Conversion v r) :
    UsableOrMisused r ↔ (¬∃ negative, v = .float (.infinite negative)) ∧
      ((∃ i, StandsFor v i) ∨ ∃ said, v.shown = .ok said) := by
  cases conversion with
  | number stands =>
    refine iff_of_true (.usable _) ⟨?_, .inl ⟨_, stands⟩⟩
    rintro ⟨negative, rfl⟩
    exact not_standsFor_infinite negative ⟨_, stands⟩
  | refused none finite shown => exact iff_of_true (.misused _) ⟨finite, .inr ⟨_, shown⟩⟩
  | infinite endless => exact iff_of_false (fun kept => nomatch kept) fun kept => kept.1 ⟨_, endless⟩
  | unsayable none unshown =>
    refine iff_of_false (fun kept => nomatch kept) fun kept => ?_
    rcases kept.2 with stands | ⟨said, shown⟩
    · exact none stands
    · cases unshown.symm.trans shown

end

def chooseFormat (w : World) (line : Line) (s : Session) : Run Session := do
  let format ← chosenFormat (line.value? "--output-format") (← lookUp s w "cli.output_format")
  Run.log .debug "CLI initialized with context"
  return { s with format := format }

def settle (w : World) (line : Line) (verbosity : Int) (s : Session) : Run Session := do
  if verbosity != 0 then setVerbosity verbosity
  chooseFormat w line { s with verbosity := verbosity }

/-- A call that asks the settings how verbose it is: the group is entered, for something else than the version and
with no word on verbosity, and the settings are loaded. -/
structure Consults (w : World) (args : List Text) (line : Line) (s : Session) : Prop where
  entered : ((entrance args).on (Terminal.new w.files)).1 = .ok line
  noVersion : line.has "--version" = false
  noVerbosity : line.count "--verbose" = 0
  loaded : ((Session.new (line.value? "--config-file") (line.value? "--profile")).load w).value = (s, .ok ())

def Session.verbositySet (s : Session) : Value := (Settings.get? s.settings "cli.verbose").getD .null

section

variable {w : World} {args : List Text} {line : Line} {s : Session} {t t' : Terminal}

theorem openSession_of_consults (consults : Consults w args line s) (t : Terminal) :
    (openSession w line).on t = match (configuredVerbosity (Settings.get? s.settings "cli.verbose")).on
        (t.setThresholds .warning) with
      | (.ok i, t') => (settle w line i s).on t'
      | (.error stop, t') => (.error stop, t') := by
  have loaded := Session.loaded_of_load consults.loaded
  have set : (setVerbosity 0).on t = (.ok (), t.setThresholds .warning) := rfl
  have read : (Run.own ((Session.new (line.value? "--config-file") (line.value? "--profile")).load w)).on
      (t.setThresholds .warning) = (.ok (s, .ok ()), t.setThresholds .warning) := by
    have whispered := Terminal.showOwn_of_whispers (t := t.setThresholds .warning)
      (Session.whispers_load (Session.new (line.value? "--config-file") (line.value? "--profile")) w) rfl (by decide)
    show (Except.ok _, Terminal.showOwn _ _) = _
    rw [whispered, consults.loaded]
  unfold openSession
  rw [consults.noVersion, consults.noVerbosity]
  simp only [Bool.false_eq_true, if_false, Int.natCast_zero, if_true]
  rw [on_bind_of_ok set]
  refine (on_bind_of_ok read _).trans ?_
  dsimp only
  rw [on_bind_of_ok (lookUp_on loaded _ _), on_bind]
  rcases (configuredVerbosity (Settings.get? s.settings "cli.verbose")).on (t.setThresholds .warning) with ⟨r, t'⟩
  cases r with
  | error stop => rfl
  | ok i =>
    dsimp only [settle]
    split <;> rfl

theorem select_of_entered (entered : ((entrance args).on t).1 = .ok line) :
    ∃ further, (select w args).on t = (openSession w line >>= further).on t := by
  rw [entrance, on_bind] at entered
  rw [select, on_bind]
  rcases parsed : (parse rootSpec args).on t with ⟨result, t'⟩
  rw [parsed] at entered
  cases result with
  | error stop => cases entered
  | ok line' =>
    cases parse_quiet rootSpec args _ _ _ parsed
    dsimp only at entered ⊢
    cases alone : line'.rest.isEmpty with
    | true =>
      rw [alone] at entered
      cases entered
      exact ⟨_, rfl⟩
    | false =>
      rw [alone] at entered
      simp only [Bool.false_eq_true, if_false] at entered ⊢
      rw [on_bind] at entered
      rcases named : (resolve rootSpec line'.rest).on t with ⟨result, t''⟩
      rw [named] at entered
      cases result with
      | error stop => cases entered
      | ok sub =>
        cases resolve_quiet rootSpec _ _ _ _ named
        cases entered
        have had : (some <$> resolve rootSpec line.rest).on t = (.ok (some sub), t) := by
          rw [on_map, named]
          rfl
        exact ⟨_, on_bind_of_ok had _⟩

theorem program_of_stopped {stop : Stop} (entered : ((entrance args).on (Terminal.new w.files)).1 = .ok line)
    (stopped : (openSession w line).on (Terminal.new w.files) = (.error stop, t)) (now : Nat) :
    program w now args = stop.conclude t := by
  obtain ⟨further, next⟩ := select_of_entered (w := w) entered
  have ran : (run w now args).on (Terminal.new w.files) = (.error stop, t) := by
    rw [run, on_bind_of_error]
    rw [next, on_bind_of_error stopped]
  exact conclude_of_error ran

theorem chosenFormat_terminal (asked : Option Text) (configured : Option Value) (t : Terminal) :
    ((chosenFormat asked configured).on t).2 = t := by
  have refused (v : Value) : ((chosenFormat.unsupported v).on t).2 = t := by
    unfold chosenFormat.unsupported refuseSetting
    split <;> rfl
  unfold chosenFormat
  dsimp only
  split
  · split
    · rfl
    · exact refused _
  · exact refused _

theorem chooseFormat_threshold (loaded : s.Loaded w) (t : Terminal) :
    ((chooseFormat w line s).on t).2.ownThreshold = t.ownThreshold := by
  rw [chooseFormat, on_bind_of_ok (lookUp_on loaded _ t), on_bind]
  have kept := chosenFormat_terminal (line.value? "--output-format") (Settings.get? s.settings "cli.output_format") t
  rcases went : (chosenFormat (line.value? "--output-format") (Settings.get? s.settings "cli.output_format")).on t
    with ⟨result, t'⟩
  rw [went] at kept
  cases kept
  cases result <;> rfl

theorem settle_threshold (loaded : s.Loaded w) (i : Int) (set : t.ownThreshold = some (Session.threshold 0)) :
    ((settle w line i s).on t).2.ownThreshold = some (Session.threshold i) := by
  have same : ({ s with verbosity := i } : Session).Loaded w := ⟨loaded.kept, loaded.merged⟩
  unfold settle
  by_cases none : i = 0
  · cases none
    exact (chooseFormat_threshold same t).trans set
  · have some : (i != 0) = true := bne_iff_ne.mpr none
    have raised : (setVerbosity i).on t = (.ok (), t.setThresholds (Session.threshold i)) := rfl
    rw [if_pos some, on_bind_of_ok raised]
    exact chooseFormat_threshold same _

theorem threshold_le_iff {u v : Int} (le : u ≤ v) :
    (Session.threshold v).rank ≤ (Session.threshold u).rank ↔ 0 ≤ u ∨ v < 0 ∨ 2 ≤ v := by
  have rank (i : Int) : (Session.threshold i).rank = if i = 0 then 30 else if i = 1 then 20 else 10 := by
    unfold Session.threshold
    split
    · rfl
    · split <;> rfl
  rw [rank, rank]
  repeat' split
  all_goals omega

theorem openSession_threshold (consults : Consults w args line s) {i : Int} (stands : StandsFor s.verbositySet i)
    (t : Terminal) : ((openSession w line).on t).2.ownThreshold = some (Session.threshold i) := by
  have loaded := Session.loaded_of_load consults.loaded
  obtain ⟨r, conversion, converted⟩ :=
    conversion_of_configured (Settings.get? s.settings "cli.verbose") (t.setThresholds .warning)
  rw [openSession_of_consults consults, converted]
  cases conversion with
  | number other =>
    cases stands.unique other
    exact settle_threshold loaded i rfl
  | refused none finite shown => exact (none ⟨i, stands⟩).elim
  | @infinite negative endless =>
    have is : s.verbositySet = .float (.infinite negative) := endless
    rw [is] at stands
    exact (not_standsFor_infinite negative ⟨i, stands⟩).elim
  | unsayable none unshown => exact (none ⟨i, stands⟩).elim

end

/-- Where a line does not say how verbose it is, the settings do: the group goes on with an integer, or it ends before
it has begun. That it ends with a complaint about the setting is missed by endless numbers and by what contains an
integer too long to be written; of the texts in the environment, by those of the former alone. -/
theorem configured_verbosity {w : World} {args : List Text} {line : Line} {s : Session}
    (consults : Consults w args line s) (now : Nat) :
    let v := s.verbositySet
    let t := (Terminal.new w.files).setThresholds .warning
    (∃ sources, Settings.Merged w s.file s.profile s.settings sources) ∧
    ∃ r, Conversion v r ∧
      (∀ i, r = .ok i → (openSession w line).on (Terminal.new w.files) = (settle w line i s).on t) ∧
      (∀ stop, r = .error stop →
        program w now args = stop.conclude t ∧ ((program w now args).1 = 2 ↔ UsableOrMisused r)) ∧
      (UsableOrMisused r ↔ (¬∃ negative, v = .float (.infinite negative)) ∧
        ((∃ i, StandsFor v i) ∨ ∃ said, v.shown = .ok said)) ∧
      ∀ said, v = .scalar (Environment.parseValue said) →
        (UsableOrMisused r ↔ ¬∃ negative, Environment.parseValue said = .float (.infinite negative)) := by
  intro v t
  obtain ⟨r, conversion, converted⟩ := conversion_of_configured (Settings.get? s.settings "cli.verbose") t
  have opened := openSession_of_consults consults (Terminal.new w.files)
  rw [converted] at opened
  have kept := usableOrMisused_iff conversion
  refine ⟨(Session.loaded_of_load consults.loaded).merged, r, conversion, ?_, ?_, kept, ?_⟩
  · rintro i rfl
    exact opened
  · rintro stop rfl
    have ended := program_of_stopped consults.entered opened now
    exact ⟨ended, by rw [ended]; exact conversion.code_iff t⟩
  · intro said text
    have is : (Settings.get? s.settings "cli.verbose").getD .null = .scalar (Environment.parseValue said) := text
    rw [is] at kept
    rw [kept]
    constructor
    · rintro ⟨finite, _⟩ ⟨negative, endless⟩
      exact finite ⟨negative, congrArg Value.scalar endless⟩
    · intro finite
      refine ⟨fun ⟨negative, endless⟩ => finite ⟨negative, Value.scalar.inj endless⟩, ?_⟩
      by_cases some : ∃ i, StandsFor (.scalar (Environment.parseValue said)) i
      · exact .inl some
      · exact .inr (shown_scalar_of_none some)

def worldAsking (value : Text) : World :=
  ⟨Files.new ["work"], [("TOKENMSG_CLI_VERBOSE", value)], "/work", "/work/home"⟩

def showAllCall : List Text := ["config", "show"]

def sessionAsking (value : Text) : Session := sessionIn (worldAsking value)

theorem consults_of_opened (value : Text) (done : ((Session.new none none).load (worldAsking value)).value.2 = .ok ()) :
    Consults (worldAsking value) showAllCall ⟨[], showAllCall⟩ (sessionAsking value) where
  entered := rfl
  noVersion := rfl
  noVerbosity := rfl
  loaded := opened_of_ok done

theorem configured_verbosity_loud :
    Consults (worldAsking "loud") showAllCall ⟨[], showAllCall⟩ (sessionAsking "loud") ∧
      (sessionAsking "loud").verbositySet = .text "loud" ∧ (program (worldAsking "loud") 0 showAllCall).1 = 2 := by
  have consults := consults_of_opened "loud" (by decide +kernel)
  have set : (sessionAsking "loud").verbositySet = .text "loud" := by decide +kernel
  obtain ⟨_, r, conversion, _, ends, _, ofText⟩ := configured_verbosity consults 0
  have parsed : Environment.parseValue "loud" = .text "loud" := by decide +kernel
  have kept : UsableOrMisused r := (ofText "loud" (by rw [parsed]; exact set)).mpr (by
    rintro ⟨negative, endless⟩
    cases parsed.symm.trans endless)
  refine ⟨consults, set, ?_⟩
  rw [set] at conversion
  cases kept with
  | usable i =>
    cases conversion with
    | number stands => cases (standsFor_of_truthy (by decide)).mp stands
  | misused message => exact (ends _ rfl).2.mpr (.misused message)

theorem endless_verbosity_not_refused :
    Consults (worldAsking "inf") showAllCall ⟨[], showAllCall⟩ (sessionAsking "inf") ∧
      (sessionAsking "inf").verbositySet = .scalar (Environment.parseValue "inf") ∧
      (program (worldAsking "inf") 0 showAllCall).1 = 1 ∧
      ¬∃ r, Conversion (sessionAsking "inf").verbositySet r ∧ UsableOrMisused r := by
  have set : (sessionAsking "inf").verbositySet = .float (.infinite false) := by decide +kernel
  refine ⟨consults_of_opened "inf" (by decide +kernel), by decide +kernel, by decide +kernel, ?_⟩
  rintro ⟨r, conversion, kept⟩
  exact ((usableOrMisused_iff conversion).mp kept).1 ⟨false, set⟩

/-- Of two runs that have their verbosity from the settings, the one with more shows what the other one shows, except
that everything below zero is as verbose as can be. -/
theorem threshold_of_verbosity {w w' : World} {args : List Text} {line : Line} {s s' : Session} {u v : Int}
    (consults : Consults w args line s) (consults' : Consults w' args line s') (less : StandsFor s.verbositySet u)
    (more : StandsFor s'.verbositySet v) (le : u ≤ v) :
    let quiet := ((openSession w line).on (Terminal.new w.files)).2.ownThreshold
    let loud := ((openSession w' line).on (Terminal.new w'.files)).2.ownThreshold
    quiet = some (Session.threshold u) ∧ loud = some (Session.threshold v) ∧
      ((Log.effective loud).rank ≤ (Log.effective quiet).rank ↔ 0 ≤ u ∨ v < 0 ∨ 2 ≤ v) ∧
      ((∀ events, (Log.replay quiet events).1.Sublist (Log.replay loud events).1) ↔ 0 ≤ u ∨ v < 0 ∨ 2 ≤ v) := by
  intro quiet loud
  have atLess : quiet = some (Session.threshold u) := openSession_threshold consults less _
  have atMore : loud = some (Session.threshold v) := openSession_threshold consults' more _
  have order : (Log.effective loud).rank ≤ (Log.effective quiet).rank ↔ 0 ≤ u ∨ v < 0 ∨ 2 ≤ v := by
    rw [atLess, atMore]
    exact threshold_le_iff le
  exact ⟨atLess, atMore, order, (Log.replay_sublist_iff _ _).trans order⟩

theorem threshold_of_verbosity_once_twice :
    Consults (worldAsking "1") showAllCall ⟨[], showAllCall⟩ (sessionAsking "1") ∧
      Consults (worldAsking "2") showAllCall ⟨[], showAllCall⟩ (sessionAsking "2") ∧
      StandsFor (sessionAsking "1").verbositySet 1 ∧ StandsFor (sessionAsking "2").verbositySet 2 ∧
      ((openSession (worldAsking "1") ⟨[], showAllCall⟩).on (Terminal.new (Files.new ["work"]))).2.ownThreshold =
        some .info ∧
      ((openSession (worldAsking "2") ⟨[], showAllCall⟩).on (Terminal.new (Files.new ["work"]))).2.ownThreshold =
        some .debug := by
  have once := consults_of_opened "1" (by decide +kernel)
  have twice := consults_of_opened "2" (by decide +kernel)
  have one : StandsFor (sessionAsking "1").verbositySet 1 := by
    rw [show (sessionAsking "1").verbositySet = .int 1 by decide +kernel]
    exact .int 1
  have two : StandsFor (sessionAsking "2").verbositySet 2 := by
    rw [show (sessionAsking "2").verbositySet = .int 2 by decide +kernel]
    exact .int 2
  obtain ⟨atOne, atTwo, _⟩ := threshold_of_verbosity once twice one two (by decide)
  exact ⟨once, twice, one, two, atOne, atTwo⟩

theorem negative_verbosity_loud :
    Consults (worldAsking "-1") showAllCall ⟨[], showAllCall⟩ (sessionAsking "-1") ∧
      Consults (worldAsking "0") showAllCall ⟨[], showAllCall⟩ (sessionAsking "0") ∧
      (sessionAsking "-1").verbositySet = .int (-1) ∧ (sessionAsking "0").verbositySet = .int 0 ∧
      ((openSession (worldAsking "-1") ⟨[], showAllCall⟩).on (Terminal.new (Files.new ["work"]))).2.ownThreshold =
        some .debug ∧
      ((openSession (worldAsking "0") ⟨[], showAllCall⟩).on (Terminal.new (Files.new ["work"]))).2.ownThreshold =
        some .warning ∧
      (program (worldAsking "-1") 0 showAllCall).2.stderr ≠ [] ∧
      (program (worldAsking "0") 0 showAllCall).2.stderr = [] := by
  refine ⟨consults_of_opened "-1" (by decide +kernel), consults_of_opened "0" (by decide +kernel), ?_⟩
  decide +kernel

end TokenIntake.Command
