import TokenIntake.Proofs.Command.Report

namespace TokenIntake.Command

open Run MessageFile

def Run.code : Except Stop Unit → Nat
  | .ok _ => 0
  | .error stop => stop.code

theorem conclude_code (x : Run Unit) (t : Terminal) : (conclude x t).1 = code (x.on t).1 := by
  rcases went : x.on t with ⟨result, t'⟩
  cases result with
  | ok u => rw [conclude_of_ok went]; rfl
  | error stop =>
    rw [conclude_of_error went]
    exact stop.conclude_code t'

theorem program_code_of_select {w : Settings.World} {args : List Text} {s : Session} {call : Call} {t : Terminal}
    (chosen : (select w args).on (Terminal.new w.files) = (.ok (s, call), t)) (now : Nat) :
    (program w now args).1 = code ((call.perform s w now).on t).1 := by
  rw [program, conclude_code, run, on_bind_of_ok chosen]

namespace Instantiate

def rejectionLine (file reason : Text) : Text := "Rejected " ++ file ++ ": " ++ reason

def validLine (count : Nat) : Text := Text.ofNat count ++ " instantiate message(s) valid"

def verdictLines (results : List Result) : List Text :=
  let rejected := results.filter fun r => r.2.hasErrors
  if rejected.isEmpty then [validLine results.length]
  else rejected.map fun r => rejectionLine r.1 (r.2.error.getD [])

theorem verdict_on (results : List Result) (t : Terminal) :
    (verdict results).on t =
      (if results.any fun r => r.2.hasErrors then .error (.exit rejectedCode) else .ok (),
        (verdictLines results).foldl Terminal.printError t) := by
  have said : ∀ (rs : List Result) (line : Result → Text) (t : Terminal),
      (rs.forM fun r => Run.printError (line r)).on t = (.ok ⟨⟩, (rs.map line).foldl Terminal.printError t) := by
    intro rs line
    induction rs with
    | nil => exact fun t => rfl
    | cons r rest ih =>
      intro t
      rw [List.forM, on_bind_of_ok (on_printError _ t)]
      exact ih (t.printError (line r))
  have anyRejected : (results.any fun r => r.2.hasErrors) = !(results.filter fun r => r.2.hasErrors).isEmpty := by
    induction results with
    | nil => rfl
    | cons r rest ih => cases errors : r.2.hasErrors <;> simp [errors, ih]
  unfold verdict verdictLines
  dsimp only
  rw [anyRejected]
  cases (results.filter fun r => r.2.hasErrors).isEmpty with
  | true => rfl
  | false =>
    simp only [Bool.false_eq_true, if_false, Bool.not_false, if_true]
    rw [on_bind_of_ok (said _ _ t)]
    rfl

def rejected (fs : Files) (file : Text) : Bool :=
  match content fs file with
  | .ok m => !m.validate.isOk
  | .error _ => false

theorem Judged.rejected {fs : Files} {e : Engine} {now : Nat} {r : Result} (standard : e.rules = Rule.standard)
    (judged : Judged fs e now r) : r.2.hasErrors = rejected fs r.1 := by
  obtain ⟨m, held, result⟩ := judged
  rw [result, (Engine.check_of_standard standard now m).2.hasErrors, Instantiate.rejected, held]

theorem present_of_whole {s : Session} {v : Value} {line : Text} (rendered : s.render none v = .ok line)
    (whole : line.hasSurrogate = false) (t : Terminal) :
    (s.present none v).on t =
      (.ok (), { t with stdout := t.stdout ++ Terminal.withoutSequences (line ++ "\n") }) := by
  rw [Session.present, rendered]
  exact on_print_of_whole whole t

theorem present_of_surrogate {s : Session} {v : Value} {line : Text} (rendered : s.render none v = .ok line)
    (broken : line.hasSurrogate = true) (t : Terminal) :
    ∃ message, (s.present none v).on t = (.error (.failure message), t) := by
  rw [Session.present, rendered]
  exact on_print_of_surrogate broken t

theorem rejected_of_results {fs : Files} {e : Engine} {now : Nat} (standard : e.rules = Rule.standard)
    {results : List Result} (judged : ∀ r ∈ results, Judged fs e now r) :
    (results.any fun r => r.2.hasErrors) = (results.map Prod.fst).any (rejected fs) := by
  induction results with
  | nil => rfl
  | cons r rest ih =>
    rw [List.map_cons, List.any_cons, List.any_cons, (judged r List.mem_cons_self).rejected standard,
      ih fun other inside => judged other (List.mem_cons_of_mem r inside)]

def firstDefect? (fs : Files) : List Text → Option Defect
  | [] => none
  | file :: rest => match content fs file with
    | .ok _ => firstDefect? fs rest
    | .error d => some d

theorem usable_of_firstDefect_none {fs : Files} {files : List Text} (none : firstDefect? fs files = .none) :
    ∀ file ∈ files, ∃ m, content fs file = .ok m := by
  induction files with
  | nil => exact fun file inside => nomatch inside
  | cons file rest ih =>
    cases held : content fs file with
    | error d => simp [firstDefect?, held] at none
    | ok m =>
      simp only [firstDefect?, held] at none
      exact List.forall_mem_cons.mpr ⟨⟨m, held⟩, ih none⟩

theorem split_of_firstDefect {fs : Files} {files : List Text} {d : Defect} (first : firstDefect? fs files = some d) :
    ∃ before file after, files = before ++ file :: after ∧ (∀ file ∈ before, ∃ m, content fs file = .ok m) ∧
      content fs file = .error d := by
  induction files with
  | nil => cases first
  | cons file rest ih =>
    cases held : content fs file with
    | error other =>
      simp only [firstDefect?, held, Option.some.injEq] at first
      exact ⟨[], file, rest, rfl, fun file none => (nomatch none), first ▸ held⟩
    | ok m =>
      simp only [firstDefect?, held] at first
      obtain ⟨before, bad, after, rfl, usable, defect⟩ := ih first
      exact ⟨file :: before, bad, after, rfl, List.forall_mem_cons.mpr ⟨⟨m, held⟩, usable⟩, defect⟩

def exitCode (fs : Files) (format : Text) (files : List Text) : Nat :=
  match firstDefect? fs files with
  | some d => d.code
  | none => if garbled format files || files.any (rejected fs) then rejectedCode else 0

variable {s : Session} {w : Settings.World} {e : Engine} {t t' : Terminal}

theorem validate_code (known : (Format.ofLabel? s.format).isSome = true) (standard : e.rules = Rule.standard)
    (built : (engine s w).on t = (.ok e, t')) (now : Nat) (files : List Text) :
    code ((validate s w now files).on t).1 = exitCode t'.files s.format files := by
  rw [validate, on_bind_of_ok built, exitCode]
  cases first : firstDefect? t'.files files with
  | some d =>
    obtain ⟨before, file, after, rfl, usable, held⟩ := split_of_firstDefect first
    obtain ⟨stop, t'', went, code, _⟩ := checkFiles_error standard now t' after usable held
    rw [on_bind_of_error went]
    exact code
  | none =>
    obtain ⟨results, t'', went, _, names, judged⟩ :=
      checkFiles_ok standard now t' (usable_of_firstDefect_none first)
    obtain ⟨line, rendered, shows⟩ := render_report known judged
    rw [on_bind_of_ok went]
    rw [names] at shows
    dsimp only
    -- rejections are told only behind the report, so a report that cannot be printed hides them
    cases bad : garbled s.format files with
    | true =>
      obtain ⟨message, refused⟩ := present_of_surrogate rendered (shows.trans bad) t''
      rw [on_bind_of_error refused]
      rfl
    | false =>
      rw [on_bind_of_ok (present_of_whole rendered (shows.trans bad) t''), verdict_on,
        rejected_of_results standard judged, names, Bool.false_or]
      split <;> rfl

/-- The exit code that is promised: one for any file without a message, and one for any rejection otherwise. -/
def promisedCode (fs : Files) (files : List Text) : Nat :=
  if files.any fun file => !(content fs file).isOk then unusableCode
  else if files.any (rejected fs) then rejectedCode
  else 0

theorem any_unusable (fs : Files) (files : List Text) :
    (files.any fun file => !(content fs file).isOk) = (firstDefect? fs files).isSome := by
  induction files with
  | nil => rfl
  | cons file rest ih =>
    rw [List.any_cons, ih]
    cases held : content fs file with
    | ok m => simp [firstDefect?, held, Except.isOk, Except.toBool]
    | error d => simp [firstDefect?, held, Except.isOk, Except.toBool]

theorem exitCode_promised_iff (fs : Files) (format : Text) (files : List Text) :
    exitCode fs format files = promisedCode fs files ↔
      (∀ d, firstDefect? fs files = some d → d.isKnown = true) ∧
        (firstDefect? fs files = none → garbled format files = true → files.any (rejected fs) = true) := by
  rw [exitCode, promisedCode, any_unusable]
  cases firstDefect? fs files with
  | some d => cases d <;> simp [Defect.code, Defect.isKnown, unusableCode]
  | none => cases garbled format files <;> cases files.any (rejected fs) <;> simp [rejectedCode]

end Instantiate

open Instantiate

/-- The format and the files of a call for checks, if the command is reached and an engine is built for it. -/
def ready? (w : Settings.World) (args : List Text) : Option (Text × List Text) :=
  match (select w args).on (Terminal.new w.files) with
  | (.ok (s, .validate files), t) =>
    match (engine s w).on t with
    | (.ok _, _) => some (s.format, files)
    | (.error _, _) => none
  | _ => none

theorem of_ready {w : Settings.World} {args files : List Text} {format : Text}
    (ready : ready? w args = some (format, files)) :
    ∃ s t e t', (select w args).on (Terminal.new w.files) = (.ok (s, .validate files), t) ∧
      (engine s w).on t = (.ok e, t') ∧ s.format = format := by
  unfold ready? at ready
  split at ready
  · rename_i s files' t chosen
    split at ready
    · rename_i e t' built
      cases ready
      exact ⟨s, t, e, t', chosen, built, rfl⟩
    · cases ready
  · cases ready

theorem prepared_of_ready {w : Settings.World} {args files : List Text} {format : Text}
    (ready : ready? w args = some (format, files)) :
    ∃ s t e t', (select w args).on (Terminal.new w.files) = (.ok (s, .validate files), t) ∧
      (engine s w).on t = (.ok e, t') ∧ s.format = format ∧ (Format.ofLabel? s.format).isSome = true ∧
      e.rules = Rule.standard ∧ (Terminal.new w.files).Logs t' := by
  obtain ⟨s, t, e, t', chosen, built, same⟩ := of_ready ready
  obtain ⟨_, given⟩ := select_prepares w args (Terminal.new w.files)
  obtain ⟨_, givenThen⟩ := engine_prepares s w t
  rw [chosen] at given
  rw [built] at givenThen
  obtain ⟨⟨known, _⟩, logs⟩ := given _ rfl
  obtain ⟨⟨options, made⟩, logsThen⟩ := givenThen e rfl
  have standard : e.rules = Rule.standard := Engine.Built.rules_afterCalls (.inr made) []
  exact ⟨s, t, e, t', chosen, built, same, known, standard, logs.trans logsThen⟩

/-- The exit code is the promised one, unless the first file without a message has a defect that the command
does not know, or all messages are valid and their table cannot be printed. -/
theorem validate_exitCode {w : Settings.World} {args files : List Text} {format : Text}
    (ready : ready? w args = some (format, files)) (now : Nat) :
    (program w now args).1 = exitCode w.files format files ∧
      ((program w now args).1 = promisedCode w.files files ↔
        (∀ d, firstDefect? w.files files = some d → d.isKnown = true) ∧
          (firstDefect? w.files files = none → garbled format files = true →
            files.any (rejected w.files) = true)) := by
  obtain ⟨s, t, e, t', chosen, built, rfl, known, standard, logs⟩ := prepared_of_ready ready
  have unchanged : t'.files = w.files := logs.files
  have left : (program w now args).1 = exitCode w.files s.format files := by
    rw [program_code_of_select chosen, ← unchanged]
    exact validate_code known standard built now files
  exact ⟨left, by rw [left]; exact exitCode_promised_iff w.files s.format files⟩

def worldWith (name content : Text) : Settings.World where
  files := (Files.new ["work"]).put ["work", name] (.file content.utf8)
  environment := []
  directory := "/work"
  home := "/work/home"

def shortSymbolFile : Settings.World :=
  worldWith "m.yml" "name: test token\nsymbol: TN\ndecimals: 6\ninitial_balances: []\n"

theorem validate_exitCode_shortSymbol :
    ready? shortSymbolFile ["instantiate", "validate", "m.yml"] = some (Format.table.label, [("m.yml" : Text)]) ∧
      (program shortSymbolFile 0 ["instantiate", "validate", "m.yml"]).1 = rejectedCode := by
  have ready : ready? shortSymbolFile ["instantiate", "validate", "m.yml"] =
      some (Format.table.label, [("m.yml" : Text)]) := by decide +kernel
  exact ⟨ready, (validate_exitCode ready 0).1.trans (by decide +kernel)⟩

def impossibleDateFile : Settings.World := worldWith "m.yml" "name: 2020-13-45\n"

theorem impossibleDate_exitCode :
    ready? impossibleDateFile ["instantiate", "validate", "m.yml"] = some (Format.table.label, [("m.yml" : Text)]) ∧
      firstDefect? impossibleDateFile.files ["m.yml"] = some .valueless ∧
      promisedCode impossibleDateFile.files ["m.yml"] = unusableCode ∧
      (program impossibleDateFile 0 ["instantiate", "validate", "m.yml"]).1 = rejectedCode := by
  decide +kernel

end TokenIntake.Command
