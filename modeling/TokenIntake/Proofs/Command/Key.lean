import TokenIntake.Proofs.Command.ExitCode
import TokenIntake.Proofs.Json.Indented

namespace TokenIntake

/-- A path leads to a value, through mappings that bind its keys one after the other. -/
inductive Value.Leads : Value → List Text → Value → Prop where
  | here (v : Value) : Leads v [] v
  | through {v inner x : Value} {es : Mapping} {k : Text} {rest : List Text} (mapping : v.entries? = some es)
    (bound : es.field? k = some inner) (further : Leads inner rest x) : Leads v (k :: rest) x

namespace Value

variable {v x : Value} {path : List Text}

theorem leads_iff : v.Leads path x ↔ v.at? path = some x := by
  constructor
  · intro leads
    induction leads with
    | here => rfl
    | through mapping bound _ ih => rw [at?_cons_of_entries mapping, bound, Option.bind_some, ih]
  · intro found
    induction path generalizing v with
    | nil =>
      cases found
      exact .here _
    | cons k rest ih =>
      cases mapping : v.entries? with
      | none =>
        rw [at?_cons_of_no_entries mapping] at found
        cases found
      | some es =>
        rw [at?_cons_of_entries mapping] at found
        obtain ⟨inner, bound, found⟩ := Option.bind_eq_some_iff.mp found
        exact .through mapping bound (ih found)

end Value

namespace Command

open Run Inspect

inductive Presents (result : Nat × Terminal) (v : Value) : Prop where
  | shown {line : Text} (written : Json.print v = .ok line) (code : result.1 = 0)
    (stdout : result.2.stdout = line ++ "\n")
  | failed {u : Unwritable} (unwritten : Json.print v = .error u) (code : result.1 = 1) (stdout : result.2.stdout = [])
    (stderr : ∃ said, result.2.stderr = said ++ (failureLines u.message false).flatMap Terminal.errorLine)

structure Refuses (result : Nat × Terminal) (key : Text) : Prop where
  code : result.1 = 2
  stdout : result.2.stdout = []
  stderr : ∃ said, result.2.stderr =
    said ++ Terminal.errorLine ("Error: Invalid value for --key: Unknown configuration key: " ++ key)

/-- What is promised for a key: whatever value it leads to is shown, and it is unknown where it leads to none. -/
structure KeepsPromise (result : Nat × Terminal) (settings : Mapping) (key : Text) : Prop where
  known : ∀ v, (Value.map settings).Leads (key.splitOn '.') v →
    result.1 = 0 ∧ ∃ line, Json.print (.map [(.text key, v)]) = .ok line ∧ result.2.stdout = line ++ "\n"
  unknown : (¬∃ v, (Value.map settings).Leads (key.splitOn '.') v) → Refuses result key

def asksKey? (w : Settings.World) (args : List Text) : Option (Mapping × Text) :=
  match (select w args).on (Terminal.new w.files) with
  | (.ok (s, .show (some key) false), _) => if s.format = Format.json.label then some (s.settings, key) else none
  | _ => none

section

variable {s : Session} {w : Settings.World} {t : Terminal}

theorem present_json (json : s.format = Format.json.label) (v : Value) (t : Terminal) :
    (s.present none v).on t = match Json.print v with
      | .ok line => (.ok (), { t with stdout := t.stdout ++ (line ++ "\n") })
      | .error u => (.error (.failure u.message), t) := by
  have rendered : s.render none v = (Json.print v).mapError .unwritable := by
    unfold Session.render Render.renderAs
    rw [json]
    rfl
  cases written : Json.print v with
  | ok line =>
    have legible := Json.print_legible written
    have ended : Text.Legible (line ++ "\n") := (Text.legible_append _ _).mpr ⟨legible, by decide⟩
    rw [written] at rendered
    rw [Instantiate.present_of_whole rendered legible.hasSurrogate, Terminal.withoutSequences_of_legible ended]
  | error u =>
    rw [written] at rendered
    rw [Session.present, rendered]
    rfl

variable {key : Text}

theorem showKey_on (loaded : s.Loaded w) (key : Text) (t : Terminal) :
    (showKey s w key).on t =
      if (Settings.get? s.settings key).getD .null = .null then
        (.error (.misuse showSpec (.badValue "--key" ("Unknown configuration key: " ++ key))), t)
      else (s.present none (.map [(.text key, (Settings.get? s.settings key).getD .null)])).on t := by
  rw [showKey, on_bind_of_ok (loaded.on_get? key t)]
  dsimp only
  generalize (Settings.get? s.settings key).getD .null = v
  by_cases null : v = .null
  · rw [if_pos null, null]
    rfl
  · rw [if_neg null]
    split
    · exact (null rfl).elim
    · rfl

variable {args : List Text} {settings : Mapping}

theorem of_asksKey (asked : asksKey? w args = some (settings, key)) :
    ∃ s t, (select w args).on (Terminal.new w.files) = (.ok (s, .show (some key) false), t) ∧ s.settings = settings ∧
      s.format = Format.json.label ∧ s.Loaded w ∧ (Terminal.new w.files).Logs t := by
  unfold asksKey? at asked
  split at asked
  · rename_i s key' t chosen
    split at asked
    · rename_i json
      cases asked
      obtain ⟨_, given⟩ := select_prepares w args (Terminal.new w.files)
      rw [chosen] at given
      obtain ⟨⟨_, loaded⟩, logs⟩ := given _ rfl
      exact ⟨s, t, chosen, rfl, json, loaded, logs⟩
    · cases asked
  · cases asked

theorem presents_of_json (json : s.format = Format.json.label) (v : Value) (quiet : t.stdout = []) :
    Presents (match (s.present none v).on t with
      | (.ok (), t') => (0, t')
      | (.error stop, t') => stop.conclude t') v := by
  rw [present_json json]
  cases written : Json.print v with
  | ok line => exact .shown written rfl (by simp [quiet])
  | error u =>
    obtain ⟨stdout, stderr⟩ := Terminal.printErrors_outputs (failureLines u.message false) t
    exact .failed written rfl (stdout.trans quiet) ⟨t.stderr, stderr⟩

theorem refuses_of_misuse (key : Text) (quiet : t.stdout = []) :
    Refuses ((Stop.misuse showSpec (.badValue "--key" ("Unknown configuration key: " ++ key))).conclude t) key := by
  obtain ⟨stdout, stderr⟩ := Terminal.printErrors_outputs
    [usageNote showSpec, "Error: " ++ (Fault.badValue "--key" ("Unknown configuration key: " ++ key)).message] t
  refine ⟨rfl, stdout.trans quiet, t.stderr ++ Terminal.errorLine (usageNote showSpec), stderr.trans ?_⟩
  simp [Fault.message, Text.ofString]

theorem perform_show (some : key ≠ []) (now : Nat) (t : Terminal) :
    ((Call.show (.some key) false).perform s w now).on t = (showKey s w key).on t := by
  obtain ⟨c, rest, rfl⟩ := List.exists_cons_of_ne_nil some
  rfl

theorem show_on_key (asked : asksKey? w args = some (settings, key)) (now : Nat) :
    (key = [] → Presents (program w now args) (.map settings)) ∧
      (key ≠ [] → ∀ v, (Value.map settings).Leads (key.splitOn '.') v → v ≠ .null →
        Presents (program w now args) (.map [(.text key, v)])) ∧
      (key ≠ [] → (∀ v, (Value.map settings).Leads (key.splitOn '.') v → v = .null) →
        Refuses (program w now args) key) := by
  obtain ⟨s, t, chosen, rfl, json, loaded, logs⟩ := of_asksKey asked
  have quiet : t.stdout = [] := logs.stdout
  rw [program_of_select chosen]
  refine ⟨?_, ?_, ?_⟩
  · rintro rfl
    have all : ((Call.show (some []) false).perform s w now).on t = (s.present none (.map s.settings)).on t := by
      show (showAll s).on t = _
      have other : ¬s.format = Format.table.label := by rw [json]; decide
      rw [showAll, if_neg other]
    rw [all]
    exact presents_of_json json _ quiet
  · intro some v leads real
    have found : Settings.get? s.settings key = .some v := Value.leads_iff.mp leads
    rw [perform_show some, showKey_on loaded, found, Option.getD_some, if_neg real]
    exact presents_of_json json _ quiet
  · intro some none
    have absent : (Settings.get? s.settings key).getD .null = .null := by
      cases found : Settings.get? s.settings key with
      | none => rfl
      | some v => exact none v (Value.leads_iff.mpr found)
    rw [perform_show some, showKey_on loaded, if_pos absent]
    exact refuses_of_misuse key quiet

theorem keepsPromise_iff {result : Nat × Terminal}
    (presents : ∀ v, (Value.map settings).Leads (key.splitOn '.') v → v ≠ .null →
      Presents result (.map [(.text key, v)]))
    (refuses : (∀ v, (Value.map settings).Leads (key.splitOn '.') v → v = .null) → Refuses result key) :
    KeepsPromise result settings key ↔
      ∀ v, (Value.map settings).Leads (key.splitOn '.') v →
        v ≠ .null ∧ Json.writable (.map [(.text key, v)]) = true := by
  constructor
  · intro promise v leads
    obtain ⟨code, line, written, _⟩ := promise.known v leads
    refine ⟨?_, ?_⟩
    · rintro rfl
      have refused := refuses fun v' leads' =>
        Option.some.inj ((Value.leads_iff.mp leads').symm.trans (Value.leads_iff.mp leads))
      exact absurd (refused.code.symm.trans code) (by decide)
    · exact (Json.print_ok_iff _).mp ⟨line, written⟩
  · intro each
    refine ⟨fun v leads => ?_, fun none => refuses fun v leads => (none ⟨v, leads⟩).elim⟩
    obtain ⟨real, writable⟩ := each v leads
    cases presents v leads real with
    | @shown line written code stdout => exact ⟨code, line, written, stdout⟩
    | failed unwritten =>
      obtain ⟨line, written⟩ := (Json.print_ok_iff _).mpr writable
      cases unwritten.symm.trans written

theorem parse_presented {result : Nat × Terminal} {v : Value} (presents : Presents result (.map [(.text key, v)]))
    (exact : v.Exact) (keyed : v.WellKeyed) (shallow : v.depth + 1 ≤ Json.maxLevel) (whole : v.hasSurrogate = false)
    (wholeKey : key.hasSurrogate = false) : Json.parse result.2.stdout = .ok (.map [(.text key, v)]) := by
  have entry : (Value.map [(.text key, v)]).Exact :=
    .map (List.forall_mem_singleton.mpr ⟨key, rfl⟩) (List.forall_mem_singleton.mpr exact)
  have deep : (Value.map [(.text key, v)]).depth ≤ v.depth + 1 :=
    Value.depth_map_le (List.forall_mem_singleton.mpr (Nat.le_refl v.depth))
  have none : (Value.map [(.text key, v)]).hasSurrogate = false := by
    rw [Value.hasSurrogate_map (List.forall_mem_singleton.mpr ⟨key, rfl, wholeKey⟩)]
    simp [whole]
  have same := entry.joined_eq_self (entry.paired_of_whole none)
  have keyedEntry : (Value.map [(.text key, v)]).WellKeyed :=
    Value.wellKeyed_map_iff.mpr ⟨List.nodup_singleton _, List.forall_mem_singleton.mpr keyed⟩
  obtain ⟨line, written, parsed⟩ := Json.parse_print entry (same.symm ▸ keyedEntry) (Nat.le_trans deep shallow)
  cases presents with
  | shown printed _ stdout =>
    cases written.symm.trans printed
    rw [stdout, parsed "\n" (Json.blank_newLine 0), same]
  | failed unwritten => cases written.symm.trans unwritten

end

/-- A key is answered from the settings as they were merged. What is promised for it is kept unless it leads to null,
which counts as unknown, or to something that JSON cannot express; and for an empty key all settings are shown. -/
theorem show_key {w : Settings.World} {args : List Text} {settings : Mapping} {key : Text}
    (asked : asksKey? w args = some (settings, key)) (now : Nat) :
    let result := program w now args
    (∃ file profile sources, Settings.Merged w file profile settings sources) ∧
    (key = [] → Presents result (.map settings)) ∧
    (key ≠ [] →
      (∀ v, (Value.map settings).Leads (key.splitOn '.') v → v ≠ .null → Presents result (.map [(.text key, v)])) ∧
      ((∀ v, (Value.map settings).Leads (key.splitOn '.') v → v = .null) → Refuses result key) ∧
      (KeepsPromise result settings key ↔
        ∀ v, (Value.map settings).Leads (key.splitOn '.') v →
          v ≠ .null ∧ Json.writable (.map [(.text key, v)]) = true) ∧
      ∀ v, (Value.map settings).Leads (key.splitOn '.') v → v ≠ .null → v.Exact → v.depth + 1 ≤ Json.maxLevel →
        v.hasSurrogate = false → key.hasSurrogate = false →
          Json.parse result.2.stdout = .ok (.map [(.text key, v)])) := by
  intro result
  obtain ⟨all, presents, refuses⟩ := show_on_key asked now
  obtain ⟨s, _, _, rfl, _, loaded, _⟩ := of_asksKey asked
  obtain ⟨sources, merged⟩ := loaded.merged
  refine ⟨⟨s.file, s.profile, sources, merged⟩, all, fun some => ⟨presents some, refuses some, ?_, ?_⟩⟩
  · exact keepsPromise_iff (presents some) (refuses some)
  · intro v leads real exact shallow whole wholeKey
    have keyed : v.WellKeyed := loaded.wellKeyed (Value.leads_iff.mp leads)
    exact parse_presented (presents some v leads real) exact keyed shallow whole wholeKey

def nullLevel : Settings.World := worldWith ".tokenmsg.json" "\x7b\"validator\": \x7b\"log_level\": null\x7d\x7d"

def nullLevelSettings : Mapping :=
  [(.text "cli", .map [(.text "output_format", .text "table"), (.text "verbose", .int 0)]),
    (.text "validator", .map [(.text "validator_id", .text "tokenmsg_cli_validator"), (.text "log_level", .null)])]

def showCall (key : Text) : List Text := ["-o", "json", "config", "show", "--key", key]

theorem show_key_nullLevel :
    asksKey? nullLevel (showCall "validator.validator_id") =
        some (nullLevelSettings, ("validator.validator_id" : Text)) ∧
      KeepsPromise (program nullLevel 0 (showCall "validator.validator_id")) nullLevelSettings
        "validator.validator_id" ∧
      Json.parse (program nullLevel 0 (showCall "validator.validator_id")).2.stdout =
        .ok (.map [(.text "validator.validator_id", .text "tokenmsg_cli_validator")]) := by
  have asked : asksKey? nullLevel (showCall "validator.validator_id") =
      some (nullLevelSettings, ("validator.validator_id" : Text)) := by decide +kernel
  have leads : (Value.map nullLevelSettings).Leads (Text.splitOn "validator.validator_id" '.')
      (.text "tokenmsg_cli_validator") := Value.leads_iff.mpr (by decide +kernel)
  obtain ⟨_, _, answered⟩ := show_key asked 0
  obtain ⟨_, _, promise, parsed⟩ := answered (by decide +kernel)
  refine ⟨asked, promise.mpr fun v leads' => ?_, ?_⟩
  · cases (Value.leads_iff.mp leads).symm.trans (Value.leads_iff.mp leads')
    exact ⟨by decide, by decide +kernel⟩
  · exact parsed _ leads (by decide) (.text _) (by decide) (by decide +kernel) (by decide +kernel)

theorem nullLevel_unknown :
    asksKey? nullLevel (showCall "validator.log_level") = some (nullLevelSettings, ("validator.log_level" : Text)) ∧
      (Value.map nullLevelSettings).Leads (Text.splitOn "validator.log_level" '.') .null ∧
      (program nullLevel 0 (showCall "validator.log_level")).1 = 2 ∧
      ¬KeepsPromise (program nullLevel 0 (showCall "validator.log_level")) nullLevelSettings "validator.log_level" := by
  have leads : (Value.map nullLevelSettings).Leads (Text.splitOn "validator.log_level" '.') .null :=
    Value.leads_iff.mpr (by decide +kernel)
  have code : (program nullLevel 0 (showCall "validator.log_level")).1 = 2 := by decide +kernel
  refine ⟨by decide +kernel, leads, code, fun promise => ?_⟩
  obtain ⟨ended, _⟩ := promise.known _ leads
  exact absurd (code.symm.trans ended) (by decide)

end Command

end TokenIntake
