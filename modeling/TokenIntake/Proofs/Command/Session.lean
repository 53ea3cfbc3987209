import TokenIntake.Proofs.Command.Run
import TokenIntake.Proofs.Settings.Snapshot
import TokenIntake.Proofs.Settings.Whispers

namespace TokenIntake.Command

open Run

namespace Session

variable {s : Session} {w : Settings.World}

/-- The settings of the session are those that there are in the world, and its manager keeps them. -/
structure Loaded (s : Session) (w : Settings.World) : Prop where
  kept : ∃ m, s.manager = some m ∧ m.cache = some s.settings
  merged : ∃ sources, Settings.Merged w s.file s.profile s.settings sources

theorem loaded_of_load {s' : Session} (done : (s.load w).value = (s', .ok ())) : s'.Loaded w := by
  unfold load at done
  rw [Traced.value_bind] at done
  match loaded : ((Settings.Manager.new s.file s.profile).load w).value with
  | (m, .error f) =>
    rw [loaded] at done
    cases done
  | (m, .ok settings) =>
    rw [loaded] at done
    cases done
    obtain ⟨ls, applied, merged⟩ := Settings.applied_of_load rfl (congrArg Prod.snd loaded)
    cases loaded.symm.trans (Settings.load_of_applied rfl applied merged)
    exact ⟨⟨_, rfl, rfl⟩, ls.map Settings.Layer.source, ls, applied, merged, rfl⟩

theorem Loaded.wellKeyed (loaded : s.Loaded w) {key : Text} {v : Value}
    (found : Settings.get? s.settings key = some v) : v.WellKeyed := by
  obtain ⟨_, merged⟩ := loaded.merged
  exact Value.at?_wellKeyed merged.wellKeyed found

theorem Loaded.on_get? (loaded : s.Loaded w) (key : Text) (t : Terminal) :
    (Run.own (s.get? w key)).on t = (.ok (.ok (Settings.get? s.settings key)), t) := by
  obtain ⟨m, isManager, kept⟩ := loaded.kept
  have quiet : s.get? w key = pure (.ok (Settings.get? s.settings key)) := by
    unfold get? Settings.Manager.get? Settings.Manager.load
    rw [isManager]
    dsimp only
    rw [kept]
    rfl
  rw [quiet]
  exact congrArg _ (Terminal.showOwn_nil t)

theorem whispers_load (s : Session) (w : Settings.World) : Settings.Whispers (s.load w) := by
  unfold load
  refine .bind (Settings.whispers_load _ w) fun found => ?_
  dsimp only
  split
  · exact .pure _
  · exact .bind (.log rfl) fun _ => .pure _

end Session

theorem Terminal.showOwn_of_whispers {α : Type} {x : Traced α} (whispers : Settings.Whispers x) {t : Terminal}
    {least : Log.Level} (set : t.ownThreshold = some least) (loud : Log.Level.debug.rank < least.rank) :
    t.showOwn x.events = t := by
  have hidden : Log.replay (some least) x.events = ([], some least) :=
    whispers.hidden fun r whispered => by rw [whispered]; exact loud
  obtain ⟨files, stdout, stderr, own, checks⟩ := t
  cases set
  simp [showOwn, hidden, printRecords]

theorem parse_prepares (spec : Spec) (args : List Text) : (parse spec args).Prepares fun _ => True := by
  unfold parse
  refine .stopping (fun _ => rfl) ?_
  split
  · exact .stop _
  · refine .stopping (print_files _) ?_
    refine .bind .get fun t _ => ?_
    dsimp only
    split
    · exact .stop _
    · exact .stop _
    · exact .pure trivial

theorem parse_quiet (spec : Spec) (args : List Text) : (parse spec args).Quiet := by
  unfold parse
  refine .stopping ?_
  split
  · exact .stop _
  · refine .stopping (.bind .get fun t => ?_)
    dsimp only
    split
    · exact .stop _
    · exact .stop _
    · exact .pure _

theorem resolve_prepares (spec : Spec) (args : List Text) : (resolve spec args).Prepares fun _ => True := by
  cases args with
  | nil => exact .stop _
  | cons name args =>
    unfold resolve
    refine .ite (.pure trivial) (.ite (.bind (.map (parse_prepares spec _)) fun _ _ => .stop _) (.stop _))

theorem resolve_quiet (spec : Spec) (args : List Text) : (resolve spec args).Quiet := by
  cases args with
  | nil => exact .stop _
  | cons name args =>
    unfold resolve
    exact .ite (.pure _) (.ite (.bind (.bind (parse_quiet spec _) fun _ => .pure _) fun _ => .stop _) (.stop _))

theorem refuseSetting_prepares {α : Type} {property : α → Prop} (hint complaint : Text) (v : Value) :
    (refuseSetting hint complaint v : Run α).Prepares property := by
  unfold refuseSetting
  split
  · exact .stop _
  · exact .stop _

theorem configuredVerbosity_prepares (configured : Option Value) :
    (configuredVerbosity configured).Prepares fun _ => True := by
  unfold configuredVerbosity
  dsimp only
  split
  · exact .pure trivial
  · exact .stop _
  · exact refuseSetting_prepares _ _ _

theorem chosenFormat_prepares (asked : Option Text) (configured : Option Value) :
    (chosenFormat asked configured).Prepares fun label => (Format.ofLabel? label).isSome = true := by
  unfold chosenFormat chosenFormat.unsupported
  dsimp only
  split
  · split
    · rename_i known
      exact .pure known
    · exact refuseSetting_prepares _ _ _
  · exact refuseSetting_prepares _ _ _

theorem lookUp_prepares (s : Session) (w : Settings.World) (key : Text) : (lookUp s w key).Prepares fun _ => True := by
  refine .bind (.own _) fun result _ => ?_
  cases result with
  | ok found => exact .pure trivial
  | error f => exact .stop _

theorem lookUp_on {s : Session} {w : Settings.World} (loaded : s.Loaded w) (key : Text) (t : Terminal) :
    (lookUp s w key).on t = (.ok (Settings.get? s.settings key), t) := by
  rw [lookUp, on_bind_of_ok (loaded.on_get? key t)]
  rfl

theorem openSession_prepares (w : Settings.World) (line : Line) :
    (openSession w line).Prepares fun s => (Format.ofLabel? s.format).isSome = true ∧ s.Loaded w := by
  unfold openSession
  refine .stopping (print_files _) ?_
  refine .bind (.setVerbosity _) fun _ _ => .bind (.own _) fun found done => ?_
  obtain ⟨s, result⟩ := found
  have format : ∀ s : Session, s.Loaded w → Prepares (do
      let format ← chosenFormat (line.value? "--output-format") (← lookUp s w "cli.output_format")
      Run.log .debug "CLI initialized with context"
      return { s with format := format }) fun s => (Format.ofLabel? s.format).isSome = true ∧ s.Loaded w := by
    intro s loaded
    exact .bind (lookUp_prepares s w _) fun _ _ => .bind (chosenFormat_prepares _ _) fun _ known =>
      .bind (.log _ _) fun _ _ => .pure ⟨known, loaded.kept, loaded.merged⟩
  dsimp only
  split
  · exact .stop _
  · exact .stop _
  · have loaded : s.Loaded w := Session.loaded_of_load done.symm
    split
    · refine .bind (lookUp_prepares s w _) fun _ _ => .bind (configuredVerbosity_prepares _) fun verbosity _ => ?_
      have same : ({ s with verbosity := verbosity } : Session).Loaded w := ⟨loaded.kept, loaded.merged⟩
      exact .ite (.bind (.setVerbosity _) fun _ _ => format _ same) (format _ same)
    · exact format s loaded

theorem readInstantiate_prepares (args : List Text) : (readInstantiate args).Prepares fun _ => True := by
  refine .bind (parse_prepares _ args) fun line _ => .bind (resolve_prepares _ line.rest) fun named _ => ?_
  refine .bind (.log _ _) fun _ _ => .ite ?_ (.ite ?_ ?_)
  · exact .bind (parse_prepares _ _) fun _ _ => .pure trivial
  · exact .bind (parse_prepares _ _) fun _ _ => .pure trivial
  · exact .bind (parse_prepares _ _) fun _ _ => .pure trivial

theorem readInspect_prepares (args : List Text) : (readInspect args).Prepares fun _ => True := by
  refine .bind (parse_prepares _ args) fun line _ => .bind (resolve_prepares _ line.rest) fun named _ => ?_
  refine .bind (.log _ _) fun _ _ => .ite ?_ ?_
  · exact .bind (parse_prepares _ _) fun _ _ => .pure trivial
  · exact .bind (.map (parse_prepares _ _)) fun _ _ => .pure trivial

theorem select_prepares (w : Settings.World) (args : List Text) :
    (select w args).Prepares fun chosen => (Format.ofLabel? chosen.1.format).isSome = true ∧ chosen.1.Loaded w := by
  have nothing : Prepares (pure none : Run (Option (Text × List Text))) fun _ => True := .pure trivial
  refine .bind (parse_prepares rootSpec args) fun line _ =>
    .ite (.bind nothing ?_) (.bind (.map (resolve_prepares _ _)) ?_)
  all_goals
    intro sub _
    refine .bind (openSession_prepares w line) fun s opened => ?_
    cases sub with
    | none => exact .pure opened
    | some named =>
      exact .ite (.bind (readInspect_prepares _) fun _ _ => .pure opened)
        (.bind (readInstantiate_prepares _) fun _ _ => .pure opened)

theorem engine_prepares (s : Session) (w : Settings.World) :
    (Instantiate.engine s w).Prepares fun e => ∃ options, (Engine.buildDefault options).value = .ok e := by
  refine .bind (.own _) fun loaded _ => ?_
  split
  · exact .stop _
  · split
    · exact .stop _
    · rename_i options _
      refine .bind (.checks _) fun result built => ?_
      split
      · exact .pure ⟨.map options, built.symm⟩
      · exact .stop _
      · exact .stop _
      · exact .stop _

theorem program_of_select {w : Settings.World} {args : List Text} {s : Session} {call : Call} {t : Terminal}
    (chosen : (select w args).on (Terminal.new w.files) = (.ok (s, call), t)) (now : Nat) :
    program w now args =
      match (call.perform s w now).on t with
      | (.ok (), t') => (0, t')
      | (.error stop, t') => stop.conclude t' := by
  rcases went : (call.perform s w now).on t with ⟨result, t'⟩
  have ran : (run w now args).on (Terminal.new w.files) = (result, t') := by
    rw [run, on_bind_of_ok chosen]
    exact went
  cases result with
  | ok u => exact conclude_of_ok ran
  | error stop => exact conclude_of_error ran

end TokenIntake.Command
