import TokenIntake.Proofs.Command.ExitCode
import TokenIntake.Proofs.Json.Indented

namespace TokenIntake

theorem Path.hasSurrogate_name {t : Text} (whole : t.hasSurrogate = false) :
    (ofText t).name.hasSurrogate = false := by
  unfold name
  cases last : (ofText t).parts.getLast? with
  | none => rw [List.getLastD_eq_getLast?, last]; rfl
  | some part =>
    have isPart : part ∈ t.splitOn '/' := (List.mem_filter.mp (List.mem_of_getLast? last)).1
    rw [List.getLastD_eq_getLast?, last]
    exact Text.hasSurrogate_of_subset (Text.subset_of_mem_splitOn isPart) whole

namespace Command

open Run MessageFile Instantiate

namespace Instantiate

def rejection? (m : Message) : Option Rejection :=
  match m.validate with
  | .ok () => none
  | .error r => some r

def rowOf (p : Text × Message) : Value :=
  .map [
    (.text "file", .text (Path.ofText p.1).name),
    (.text "symbol", .text p.2.symbol),
    (.text "result", .text (if (rejection? p.2).isSome then "rejected" else "approved")),
    (.text "error", Summary.textOrNull ((rejection? p.2).map Rejection.message))]

def verdictOf (checked : List (Text × Message)) : List Text :=
  let lines := checked.filterMap fun p => (rejection? p.2).map fun r => rejectionLine p.1 r.message
  if lines.isEmpty then [validLine checked.length] else lines

variable {e : Engine} {now : Nat} {checked : List (Text × Message)}

theorem judgedResult_reports (e : Engine) (now : Nat) (p : Text × Message) :
    (judgedResult e now p).2.hasErrors = (rejection? p.2).isSome ∧
      (judgedResult e now p).2.error = (rejection? p.2).map Rejection.message := by
  have reports : ((e.opening now p.2).judged p.2).Reports p.2.validate := Context.judged_reports rfl rfl rfl p.2
  unfold rejection? judgedResult
  cases verdict : p.2.validate with
  | ok u =>
    rw [verdict] at reports
    exact ⟨reports.1, reports.2.1⟩
  | error r =>
    rw [verdict] at reports
    exact ⟨reports.1, reports.2.1⟩

theorem row_judgedResult (e : Engine) (now : Nat) (p : Text × Message) : row (judgedResult e now p) = rowOf p := by
  obtain ⟨errors, error⟩ := judgedResult_reports e now p
  have message : (judgedResult e now p).2.message = some p.2 := Context.message_judged _ p.2
  have outcome : (judgedResult e now p).2.summary.outcome =
      if (rejection? p.2).isSome then .rejected else .approved := by
    rw [← errors]
    rfl
  rw [row, rowOf, error, message, outcome]
  cases (rejection? p.2).isSome <;> rfl

theorem verdictLines_judgedResult (e : Engine) (now : Nat) (checked : List (Text × Message)) :
    verdictLines (checked.map (judgedResult e now)) = verdictOf checked := by
  have rejected : ((checked.map (judgedResult e now)).filter fun r => r.2.hasErrors).map
      (fun r => rejectionLine r.1 (r.2.error.getD [])) =
      checked.filterMap fun p => (rejection? p.2).map fun r => rejectionLine p.1 r.message := by
    induction checked with
    | nil => rfl
    | cons p rest ih =>
      obtain ⟨errors, error⟩ := judgedResult_reports e now p
      rw [List.map_cons, List.filter_cons, List.filterMap_cons]
      cases why : rejection? p.2 with
      | none =>
        rw [why] at errors
        simpa [errors] using ih
      | some r =>
        rw [why] at errors error
        simp only [errors, error, Option.isSome_some, if_true, List.map_cons, Option.map_some, Option.getD_some, ih]
        rfl
  unfold verdictLines verdictOf
  dsimp only
  rw [← rejected, List.isEmpty_map, List.length_map]

theorem rejection?_whole {m : Message} {r : Rejection} (why : rejection? m = some r) :
    r.message.hasSurrogate = false := by
  have kinds : ∀ kind, Text.hasSurrogate (Rejection.ofKind kind none).message = false := by
    intro kind
    cases kind <;> decide
  unfold rejection? at why
  cases verdict : m.validate with
  | ok u =>
    rw [verdict] at why
    cases why
  | error r' =>
    rw [verdict] at why
    cases why
    unfold Message.validate at verdict
    split_ifs at verdict
    all_goals
      cases verdict
      exact kinds _

def rowTexts (p : Text × Message) : List Text :=
  [(Path.ofText p.1).name, p.2.symbol, if (rejection? p.2).isSome then "rejected" else "approved"] ++
    ((rejection? p.2).map Rejection.message).toList

theorem rowOf_carries (p : Text × Message) : (rowOf p).Carries (rowTexts p) 1 := by
  have fields := Value.Carries.object (v := rowOf p) rfl ["file", "symbol", "result", "error"] rfl (by decide)
    (by decide) (.cons (Value.carries_text _ 0) (.cons (Value.carries_text _ 0) (.cons (Value.carries_text _ 0)
      (.cons (Value.carries_textOrNull _ 0) .nil))))
  simpa [rowTexts] using fields

theorem rowTexts_whole {p : Text × Message} (file : p.1.hasSurrogate = false)
    (symbol : p.2.symbol.hasSurrogate = false) : ∀ t ∈ rowTexts p, t.hasSurrogate = false := by
  have outcome : Text.hasSurrogate (if (rejection? p.2).isSome then "rejected" else "approved") = false := by
    split <;> decide
  refine List.forall_mem_append.mpr ⟨?_, fun t inside => ?_⟩
  · simp only [List.forall_mem_cons]
    exact ⟨Path.hasSurrogate_name file, symbol, outcome, List.forall_mem_nil _⟩
  · obtain ⟨r, why, rfl⟩ := Option.map_eq_some_iff.mp (Option.mem_toList.mp inside)
    exact rejection?_whole why

end Instantiate

section

variable {w : Settings.World} {args : List Text} {format : Text} {checked : List (Text × Message)}

theorem program_of_checked (ready : ready? w args = some (format, checked.map Prod.fst))
    (named : ∀ p ∈ checked, p.1.hasSurrogate = false)
    (held : ∀ p ∈ checked, MessageFile.read w.files p.1 = .ok p.2) (now : Nat) :
    ∃ (e : Engine) (line : Text) (t : Terminal), (Terminal.new w.files).Logs t ∧
      Render.renderAs format Render.defaultKeyWidth (report (checked.map (judgedResult e now))) = .ok line ∧
      program w now args =
        (if checked.any fun p => (rejection? p.2).isSome then rejectedCode else 0,
          (verdictOf checked).foldl Terminal.printError
            { t with stdout := t.stdout ++ Terminal.withoutSequences (line ++ "\n") }) := by
  obtain ⟨s, t, e, t', chosen, built, rfl, known, standard, logs⟩ := prepared_of_ready ready
  have contents : ∀ p ∈ checked, content t'.files p.1 = .ok p.2 := by
    intro p inside
    rw [logs.files]
    exact content_of_read_ok (held p inside)
  obtain ⟨t'', went, logsThen⟩ := checkFiles_held standard now t' contents
  obtain ⟨line, rendered, shows⟩ := render_report known (judged_of_held e now contents)
  have names : (checked.map (judgedResult e now)).map Prod.fst = checked.map Prod.fst := by
    rw [List.map_map]
    rfl
  have clear : garbled s.format (checked.map Prod.fst) = false := by
    have shown : ((checked.map Prod.fst).any fun file => (shownName file).hasSurrogate) = false := by
      rw [List.any_map, List.any_eq_false]
      intro p inside
      have whole := Path.hasSurrogate_name (named p inside)
      have part : (shownName p.1).hasSurrogate = false :=
        Text.hasSurrogate_of_subset (List.take_subset Render.rowWidth _) whole
      simp [part]
    rw [garbled, shown, Bool.and_false]
  rw [names, clear] at shows
  refine ⟨e, line, t'', logs.trans logsThen, rendered, ?_⟩
  have rejected : ((checked.map (judgedResult e now)).any fun r => r.2.hasErrors) =
      checked.any fun p => (rejection? p.2).isSome := by
    rw [List.any_map]
    congr 1
    funext p
    exact (judgedResult_reports e now p).1
  have said := verdict_on (checked.map (judgedResult e now))
    { t'' with stdout := t''.stdout ++ Terminal.withoutSequences (line ++ "\n") }
  rw [verdictLines_judgedResult, rejected] at said
  rw [program_of_select chosen, Call.perform, validate, on_bind_of_ok built, on_bind_of_ok went,
    on_bind_of_ok (present_of_whole rendered shows t''), said]
  cases checked.any fun p => (rejection? p.2).isSome <;> rfl

theorem rows_of_checked (ready : ready? w args = some (Format.json.label, checked.map Prod.fst))
    (several : 2 ≤ checked.length) (named : ∀ p ∈ checked, p.1.hasSurrogate = false)
    (held : ∀ p ∈ checked, MessageFile.read w.files p.1 = .ok p.2) (now : Nat) :
    ∃ line, Json.print (.list (checked.map rowOf)) = .ok line ∧
      (program w now args).2.stdout = line ++ "\n" ∧ Json.parse (line ++ "\n") = .ok (.list (checked.map rowOf)) := by
  obtain ⟨e, line, t, logs, rendered, went⟩ := program_of_checked ready named held now
  have each : (checked.map (judgedResult e now)).map row = checked.map rowOf := by
    rw [List.map_map]
    exact List.map_congr_left fun p _ => row_judgedResult e now p
  have reported : report (checked.map (judgedResult e now)) = .list (checked.map rowOf) := by
    match checked, several, each with
    | p :: q :: rest, _, each => exact congrArg Value.list each
  have whole : ∀ t ∈ checked.flatMap rowTexts, t.hasSurrogate = false := by
    intro t inside
    obtain ⟨p, isRow, isText⟩ := List.mem_flatMap.mp inside
    have symbol := (whole_of_content (content_of_read_ok (held p isRow))).2
    exact rowTexts_whole (named p isRow) symbol t isText
  obtain ⟨line', printed, parsed⟩ :=
    Json.parse_print_of_whole (Value.Carries.list rowOf_carries checked) (by decide) whole
  have json : Render.renderAs Format.json.label Render.defaultKeyWidth (.list (checked.map rowOf)) = .ok line' := by
    have known : Format.ofLabel? Format.json.label = some .json := by decide
    rw [Render.renderAs, known]
    dsimp only
    rw [Render.render, printed]
    rfl
  rw [reported, json, Except.ok.injEq] at rendered
  subst rendered
  refine ⟨line', printed, ?_, parsed "\n" (Json.blank_newLine 0)⟩
  have plain : Text.Legible (line' ++ "\n") :=
    (Text.legible_append _ _).mpr ⟨Json.print_legible printed, by decide⟩
  rw [went, (Terminal.printErrors_outputs _ _).1, logs.stdout, Terminal.withoutSequences_of_legible plain]
  rfl

end

/-- Two runs that come to check the same files, under whatever settings and options, find the same: one exit code, and
the same rejections told in the same order behind the records of each. Several files give a row each, in JSON from the
message in the file alone, and a file without a message leaves nothing to be shown. -/
theorem checks_depend_on_files {w w' : Settings.World} {args args' files : List Text} {format format' : Text}
    (ready : ready? w args = some (format, files)) (ready' : ready? w' args' = some (format', files))
    (named : ∀ file ∈ files, file.hasSurrogate = false) (now now' : Nat) :
    (∀ checked : List (Text × Message), checked.map Prod.fst = files →
      (∀ p ∈ checked, MessageFile.read w.files p.1 = .ok p.2) →
      (∀ p ∈ checked, MessageFile.read w'.files p.1 = .ok p.2) →
      (program w now args).1 = (program w' now' args').1 ∧
      (∃ records records' : List Log.Record,
        (program w now args).2.stderr =
          records.flatMap Terminal.recordLine ++ (verdictOf checked).flatMap Terminal.errorLine ∧
        (program w' now' args').2.stderr =
          records'.flatMap Terminal.recordLine ++ (verdictOf checked).flatMap Terminal.errorLine) ∧
      (2 ≤ files.length → format = Format.json.label →
        ∃ line, Json.print (.list (checked.map rowOf)) = .ok line ∧ (program w now args).2.stdout = line ++ "\n" ∧
          Json.parse (line ++ "\n") = .ok (.list (checked.map rowOf)))) ∧
    ((∃ file ∈ files, ∃ stop, MessageFile.read w.files file = .error stop) →
      (program w now args).2.stdout = []) := by
  constructor
  · rintro checked rfl held held'
    have whole : ∀ p ∈ checked, p.1.hasSurrogate = false := List.forall_mem_map.mp named
    obtain ⟨e, line, t, logs, _, went⟩ := program_of_checked ready whole held now
    obtain ⟨e', line', t', logs', _, went'⟩ := program_of_checked ready' whole held' now'
    obtain ⟨records, said⟩ := logs.stderr
    obtain ⟨records', said'⟩ := logs'.stderr
    refine ⟨by rw [went, went'], ⟨records, records', ?_, ?_⟩, ?_⟩
    · rw [went, (Terminal.printErrors_outputs _ _).2, said]
      rfl
    · rw [went', (Terminal.printErrors_outputs _ _).2, said']
      rfl
    · rintro several rfl
      rw [List.length_map] at several
      exact rows_of_checked ready several whole held now
  · rintro ⟨file, inside, stop, refused⟩
    obtain ⟨s, t, e, t', chosen, built, _, _, standard, logs⟩ := prepared_of_ready ready
    obtain ⟨d, defect⟩ := content_of_read_error refused
    cases first : firstDefect? w.files files with
    | none =>
      obtain ⟨m, held⟩ := usable_of_firstDefect_none first file inside
      rw [defect] at held
      cases held
    | some d' =>
      obtain ⟨before, bad, after, rfl, usable, held⟩ := split_of_firstDefect first
      have same : t'.files = w.files := logs.files
      rw [← same] at usable held
      obtain ⟨stop', t'', went, _, logsThen⟩ := checkFiles_error standard now t' after usable held
      have ended : ((Call.validate (before ++ bad :: after)).perform s w now).on t = (.error stop', t'') := by
        rw [Call.perform, validate, on_bind_of_ok built, on_bind_of_error went]
      rw [program_of_select chosen, ended]
      dsimp only
      rw [stop'.conclude_stdout, logsThen.stdout, logs.stdout]
      rfl

theorem checks_depend_on_files_shortSymbol :
    let m : Message := ⟨"test token", "TN", 6, [], none, none⟩
    let checked : List (Text × Message) := [("m.yml", m), ("m.yml", m)]
    (program shortSymbolFile 0 ["-vv", "-o", "json", "instantiate", "validate", "m.yml", "m.yml"]).1 =
        (program shortSymbolFile 1 ["instantiate", "validate", "m.yml", "m.yml"]).1 ∧
      (∃ line, Json.print (.list (checked.map rowOf)) = .ok line ∧
        (program shortSymbolFile 0 ["-vv", "-o", "json", "instantiate", "validate", "m.yml", "m.yml"]).2.stdout =
          line ++ "\n") ∧
      (program shortSymbolFile 0 ["-o", "json", "instantiate", "validate", "m.yml", "none.yml"]).2.stdout = [] := by
  intro m checked
  have ready : ready? shortSymbolFile ["-vv", "-o", "json", "instantiate", "validate", "m.yml", "m.yml"] =
      some (Format.json.label, checked.map Prod.fst) := by decide +kernel
  have ready' : ready? shortSymbolFile ["instantiate", "validate", "m.yml", "m.yml"] =
      some (Format.table.label, checked.map Prod.fst) := by decide +kernel
  have held : ∀ p ∈ checked, MessageFile.read shortSymbolFile.files p.1 = .ok p.2 := by decide +kernel
  obtain ⟨alike, _, rows⟩ := (checks_depend_on_files ready ready' (by decide) 0 1).1 checked rfl held held
  obtain ⟨line, printed, shown, _⟩ := rows (by decide) rfl
  have missing : ready? shortSymbolFile ["-o", "json", "instantiate", "validate", "m.yml", "none.yml"] =
      some (Format.json.label, [("m.yml" : Text), "none.yml"]) := by decide +kernel
  have refused : ∃ file ∈ [("m.yml" : Text), "none.yml"], ∃ stop,
      MessageFile.read shortSymbolFile.files file = .error stop :=
    ⟨"none.yml", by decide, unusable "File not found: none.yml", by decide +kernel⟩
  exact ⟨alike, ⟨line, printed, shown⟩, (checks_depend_on_files missing missing (by decide) 0 0).2 refused⟩

end Command

end TokenIntake
