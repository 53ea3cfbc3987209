import Mathlib.Data.List.Induction
import TokenIntake.Proofs.Settings.Precedence

namespace TokenIntake.Settings

/-- Uses of a manager, and changes of the world around it. An assignment is made into what is then loaded; one into
settings that were given up before touches nothing that is kept. -/
inductive Operation where
  | load
  | get (key : Text)
  | sources
  | invalidate
  | assign (outer : List Text) (key : Text) (x : Value)
  | change (next : World)

namespace Operation

def world (w : World) : Operation → World
  | .change next => next
  | _ => w

def use (w : World) (m : Manager) : Operation → Manager
  | .load => (m.load w).value.1
  | .get key => (m.get? w key).value.1
  | .sources => (m.applied w).value.1
  | .invalidate => m.invalidate
  | .assign outer key x =>
    match (m.load w).value with
    | (m, .ok _) => (m.assign x (outer ++ [key])).toOption.getD m
    | (m, .error _) => m
  | .change _ => m

def worldAfter (w : World) (ops : List Operation) : World := ops.foldl world w

def run (w : World) (m : Manager) : List Operation → Manager
  | [] => m
  | op :: rest => run (op.world w) (op.use w m) rest

def Accesses : Operation → Prop
  | .load | .get _ | .sources | .assign .. => True
  | .invalidate | .change _ => False

def assigned (settings : Mapping) : Operation → Mapping
  | .assign outer key x =>
    match Settings.assign x (outer ++ [key]) (.map settings) with
    | .ok (.map settings) => settings
    | _ => settings
  | _ => settings

theorem kinds (op : Operation) : op = .invalidate ∨ (∃ next, op = .change next) ∨ op.Accesses := by
  cases op with
  | invalidate => exact .inl rfl
  | change next => exact .inr (.inl ⟨next, rfl⟩)
  | load => exact .inr (.inr trivial)
  | get key => exact .inr (.inr trivial)
  | sources => exact .inr (.inr trivial)
  | assign outer key x => exact .inr (.inr trivial)

end Operation

open Operation

def Merged (w : World) (file profile : Option Text) (settings : Mapping) (sources : List Text) : Prop :=
  ∃ ls, Applied w file profile ls ∧ Mapping.merge? (ls.map Layer.entries) = some settings ∧
    sources = ls.map Layer.source

theorem Merged.wellKeyed {w : World} {file profile : Option Text} {settings : Mapping} {sources : List Text}
    (merged : Merged w file profile settings sources) : (Value.map settings).WellKeyed := by
  obtain ⟨ls, applied, merged, _⟩ := merged
  rw [← merge_of_merge? merged]
  apply Mapping.merge_keeps Value.wellKeyed_hereditary
  simpa using applied.wellKeyed

/-- Nothing is given up, and settings are needed only where there are none to be had. -/
def Quiet (file profile : Option Text) : World → List Operation → Prop
  | _, [] => True
  | w, op :: rest =>
    op ≠ .invalidate ∧ (op.Accesses → ¬∃ settings sources, Merged w file profile settings sources) ∧
      Quiet file profile (op.world w) rest

def Begins (before : List Operation) : Prop := before = [] ∨ ∃ earlier, before = earlier ++ [.invalidate]

/-- What is kept after a history: nothing if the last span is quiet, and else what the layers gave at its first
access that was not in vain, with the assignments from there on. -/
inductive Snapshot (w : World) (file profile : Option Text) :
    List Operation → Option (Mapping × List Text) → Prop where
  | none {before span : List Operation} (begins : Begins before)
    (quiet : Quiet file profile (worldAfter w before) span) : Snapshot w file profile (before ++ span) none
  | taken {before vain later : List Operation} {op : Operation} {settings : Mapping} {sources : List Text}
    (begins : Begins before) (quiet : Quiet file profile (worldAfter w before) vain) (accesses : op.Accesses)
    (merged : Merged (worldAfter w (before ++ vain)) file profile settings sources) (kept : .invalidate ∉ later) :
    Snapshot w file profile (before ++ (vain ++ op :: later)) (some ((op :: later).foldl assigned settings, sources))

structure Answers (m : Manager) (w : World) (settings : Mapping) (sources : List Text) : Prop where
  load : (m.load w).value.2 = .ok settings
  get : ∀ key, (m.get? w key).value.2 = .ok (Settings.get? settings key)
  sources : (m.applied w).value.2 = .ok sources

structure Refuses (m : Manager) (w : World) : Prop where
  load : ∃ f, (m.load w).value.2 = .error f
  get : ∀ key, ∃ f, (m.get? w key).value.2 = .error f
  sources : ∃ f, (m.applied w).value.2 = .error f

section Load

variable {m : Manager} {w : World} {settings : Mapping} {sources : List Text}

theorem load_of_kept (kept : m.cache = some settings) : (m.load w).value = (m, .ok settings) := by
  unfold Manager.load
  rw [kept]
  rfl

theorem load_of_merged (fresh : m.cache = none) (merged : Merged w m.file m.profile settings sources) :
    (m.load w).value = ({ m with sources := sources, cache := some settings }, .ok settings) := by
  obtain ⟨ls, applied, all, rfl⟩ := merged
  exact load_of_applied fresh applied all

theorem load_in_vain (fresh : m.cache = none)
    (vain : ¬∃ settings sources, Merged w m.file m.profile settings sources) :
    ∃ left f, (m.load w).value = ({ m with sources := left }, .error f) := by
  unfold Manager.load
  rw [fresh]
  dsimp only
  rw [Traced.value_bind]
  match reached : (layers w m.file m.profile).value with
  | (ls, some f) => exact ⟨ls.map Layer.source, f, rfl⟩
  | (ls, none) =>
    have applied := layers_eq_iff.mp reached
    dsimp only
    cases merged : Mapping.merge? (ls.map Layer.entries) with
    | none => exact ⟨ls.map Layer.source, .tooDeep, rfl⟩
    | some settings => exact (vain ⟨settings, _, ls, applied, merged, rfl⟩).elim

theorem answers_of_load {m' : Manager} (loaded : (m.load w).value = (m', .ok settings))
    (same : m'.sources = sources) : Answers m w settings sources where
  load := by rw [loaded]
  get key := value_get loaded key
  sources := by
    rw [value_applied loaded, same]
    rfl

theorem refuses_of_load {m' : Manager} {f : Fault} (failed : (m.load w).value = (m', .error f)) : Refuses m w where
  load := ⟨f, by rw [failed]⟩
  get key := ⟨f, value_get failed key⟩
  sources := ⟨f, value_applied failed⟩

end Load

structure Keeps (m : Manager) (file profile : Option Text) (kept : Option (Mapping × List Text)) : Prop where
  file : m.file = file
  profile : m.profile = profile
  cache : m.cache = kept.map Prod.fst
  sources : ∀ s ∈ kept, m.sources = s.2

section Step

variable {m : Manager} {w : World} {file profile : Option Text} {settings : Mapping} {sources : List Text}
  {op : Operation}

theorem keeps_new (file profile : Option Text) : Keeps (.new file profile) file profile none :=
  ⟨rfl, rfl, rfl, by simp⟩

theorem use_invalidate {kept : Option (Mapping × List Text)} (keeps : Keeps m file profile kept) :
    Keeps (Operation.use w m .invalidate) file profile none :=
  ⟨keeps.file, keeps.profile, rfl, by simp⟩

theorem use_of_load {m' : Manager} (loaded : (m.load w).value = (m', .ok settings))
    (keeps : Keeps m' file profile (some (settings, sources))) (accesses : op.Accesses) :
    Keeps (op.use w m) file profile (some (assigned settings op, sources)) := by
  have had : Keeps (m.load w).value.1 file profile (some (settings, sources)) := by rwa [loaded]
  cases op with
  | load => exact had
  | get key => exact had
  | sources => exact had
  | invalidate => cases accesses
  | change next => cases accesses
  | assign outer key x =>
    have kept : m'.cache = some settings := keeps.cache
    dsimp only [Operation.use, assigned]
    rw [loaded]
    dsimp only [Manager.assign]
    rw [kept]
    dsimp only
    cases done : Settings.assign x (outer ++ [key]) (.map settings) with
    | error f => exact keeps
    | ok v =>
      cases v with
      | map entries =>
        refine ⟨keeps.file, keeps.profile, rfl, ?_⟩
        intro s isKept
        cases isKept
        exact keeps.sources (settings, sources) rfl
      | scalar s => exact keeps
      | list xs => exact keeps
      | graph g => exact keeps

theorem use_of_failed {m' : Manager} {f : Fault} (failed : (m.load w).value = (m', .error f))
    (accesses : op.Accesses) : op.use w m = m' := by
  have left : (m.load w).value.1 = m' := congrArg Prod.fst failed
  cases op with
  | load => exact left
  | get key => exact left
  | sources => exact left
  | invalidate => cases accesses
  | change next => cases accesses
  | assign outer key x =>
    dsimp only [Operation.use]
    rw [failed]

theorem use_kept (keeps : Keeps m file profile (some (settings, sources))) (goesOn : op ≠ .invalidate) :
    Keeps (op.use w m) file profile (some (assigned settings op, sources)) := by
  rcases op.kinds with rfl | ⟨next, rfl⟩ | accesses
  · exact (goesOn rfl).elim
  · exact keeps
  · exact use_of_load (load_of_kept keeps.cache) keeps accesses

theorem use_taken (keeps : Keeps m file profile none) (accesses : op.Accesses)
    (merged : Merged w file profile settings sources) :
    Keeps (op.use w m) file profile (some (assigned settings op, sources)) := by
  obtain ⟨rfl, rfl, fresh, _⟩ := keeps
  apply use_of_load (load_of_merged fresh merged) _ accesses
  exact ⟨rfl, rfl, rfl, by simp⟩

theorem use_vain (keeps : Keeps m file profile none) (goesOn : op ≠ .invalidate)
    (vain : op.Accesses → ¬∃ settings sources, Merged w file profile settings sources) :
    Keeps (op.use w m) file profile none := by
  rcases op.kinds with rfl | ⟨next, rfl⟩ | accesses
  · exact (goesOn rfl).elim
  · exact keeps
  · obtain ⟨rfl, rfl, fresh, _⟩ := keeps
    obtain ⟨left, f, failed⟩ := load_in_vain fresh (vain accesses)
    rw [use_of_failed failed accesses]
    exact ⟨rfl, rfl, fresh, by simp⟩

theorem use_keeps {kept : Option (Mapping × List Text)} (keeps : Keeps m file profile kept) (w : World)
    (op : Operation) : ∃ kept, Keeps (op.use w m) file profile kept := by
  by_cases ends : op = .invalidate
  · subst ends
    exact ⟨none, use_invalidate keeps⟩
  · match kept with
    | some (now, used) => exact ⟨_, use_kept keeps ends⟩
    | none =>
      by_cases taken : op.Accesses ∧ ∃ settings sources, Merged w file profile settings sources
      · obtain ⟨accesses, settings, sources, merged⟩ := taken
        exact ⟨_, use_taken keeps accesses merged⟩
      · exact ⟨none, use_vain keeps ends (not_and.mp taken)⟩

end Step

section Run

variable {m : Manager} {w : World} {file profile : Option Text} {settings : Mapping} {sources : List Text}
  {ops : List Operation}

theorem run_append (w : World) (m : Manager) (first second : List Operation) :
    run w m (first ++ second) = run (worldAfter w first) (run w m first) second := by
  induction first generalizing w m with
  | nil => rfl
  | cons op rest ih => exact ih (op.world w) (op.use w m)

theorem run_kept (keeps : Keeps m file profile (some (settings, sources))) (goesOn : .invalidate ∉ ops) :
    Keeps (run w m ops) file profile (some (ops.foldl assigned settings, sources)) := by
  induction ops generalizing w m settings with
  | nil => exact keeps
  | cons op rest ih =>
    have now : op ≠ .invalidate := fun same => goesOn (same ▸ List.mem_cons_self)
    have later : .invalidate ∉ rest := fun inside => goesOn (List.mem_cons_of_mem op inside)
    exact ih (use_kept keeps now) later

theorem run_quiet (keeps : Keeps m file profile none) (quiet : Quiet file profile w ops) :
    Keeps (run w m ops) file profile none := by
  induction ops generalizing w m with
  | nil => exact keeps
  | cons op rest ih =>
    obtain ⟨goesOn, vain, quiet⟩ := quiet
    exact ih (use_vain keeps goesOn vain) quiet

theorem run_keeps {kept : Option (Mapping × List Text)} (keeps : Keeps m file profile kept) (w : World)
    (ops : List Operation) : ∃ kept, Keeps (run w m ops) file profile kept := by
  induction ops generalizing w m kept with
  | nil => exact ⟨kept, keeps⟩
  | cons op rest ih =>
    obtain ⟨_, keeps⟩ := use_keeps keeps w op
    exact ih keeps (op.world w)

theorem run_begins {before : List Operation} (begins : Begins before) (w : World) :
    Keeps (run w (.new file profile) before) file profile none := by
  rcases begins with rfl | ⟨earlier, rfl⟩
  · exact keeps_new file profile
  · obtain ⟨kept, keeps⟩ := run_keeps (keeps_new file profile) w earlier
    rw [run_append]
    exact use_invalidate (w := worldAfter w earlier) keeps

theorem run_snapshot {kept : Option (Mapping × List Text)} (snapshot : Snapshot w file profile ops kept) :
    Keeps (run w (.new file profile) ops) file profile kept := by
  cases snapshot with
  | none begins quiet =>
    rw [run_append]
    exact run_quiet (run_begins begins w) quiet
  | taken begins quiet accesses merged kept =>
    rw [run_append, run_append]
    have vain := run_quiet (run_begins (w := w) begins) quiet
    apply run_kept _ kept
    apply use_taken vain accesses
    simpa [worldAfter] using merged

theorem quiet_append {first second : List Operation} (quiet : Quiet file profile w first)
    (goesOn : Quiet file profile (worldAfter w first) second) : Quiet file profile w (first ++ second) := by
  induction first generalizing w with
  | nil => exact goesOn
  | cons op rest ih =>
    obtain ⟨now, vain, quiet⟩ := quiet
    exact ⟨now, vain, ih quiet goesOn⟩

theorem exists_snapshot (w : World) (file profile : Option Text) (ops : List Operation) :
    ∃ kept, Snapshot w file profile ops kept := by
  -- by the last operation, since it is the end of a history that goes on in its span or ends it
  induction ops using List.reverseRecOn with
  | nil =>
    have snapshot : Snapshot w file profile ([] ++ []) none := .none (.inl rfl) trivial
    exact ⟨none, snapshot⟩
  | append_singleton ops op ih =>
    obtain ⟨kept, snapshot⟩ := ih
    by_cases ends : op = .invalidate
    · have begins : Begins (ops ++ [op]) := .inr ⟨ops, by rw [ends]⟩
      have snapshot : Snapshot w file profile (ops ++ [op] ++ []) none := .none begins trivial
      rw [List.append_nil] at snapshot
      exact ⟨none, snapshot⟩
    · cases snapshot with
      | @none before span begins quiet =>
        rw [List.append_assoc]
        by_cases taken : op.Accesses ∧ ∃ settings used,
            Merged (worldAfter w (before ++ span)) file profile settings used
        · obtain ⟨accesses, settings, used, merged⟩ := taken
          exact ⟨_, .taken begins quiet accesses merged (by simp)⟩
        · have vain := not_and.mp taken
          have same : worldAfter (worldAfter w before) span = worldAfter w (before ++ span) := by simp [worldAfter]
          exact ⟨none, .none begins (quiet_append quiet ⟨ends, same ▸ vain, trivial⟩)⟩
      | @taken before vain later first settings used begins quiet accesses merged goesOn =>
        have still : .invalidate ∉ later ++ [op] := by
          intro inside
          rcases List.mem_append.mp inside with before | last
          · exact goesOn before
          · exact ends (List.mem_singleton.mp last).symm
        rw [List.append_assoc, List.append_assoc, List.cons_append]
        exact ⟨_, .taken begins quiet accesses merged still⟩

end Run

def Shows (m : Manager) (w : World) (file profile : Option Text) : Option (Mapping × List Text) → Prop
  | some (settings, used) => Answers m w settings used
  | none =>
    (∀ settings used, Merged w file profile settings used → Answers m w settings used) ∧
      ((¬∃ settings used, Merged w file profile settings used) → Refuses m w)

theorem Keeps.shows {m : Manager} {file profile : Option Text} {kept : Option (Mapping × List Text)}
    (keeps : Keeps m file profile kept) (w : World) : Shows m w file profile kept := by
  match kept with
  | some (settings, used) =>
    have same : m.sources = used := keeps.sources _ rfl
    exact answers_of_load (load_of_kept keeps.cache) same
  | none =>
    obtain ⟨rfl, rfl, fresh, _⟩ := keeps
    constructor
    · intro settings used merged
      exact answers_of_load (load_of_merged fresh merged) rfl
    · intro vain
      obtain ⟨left, f, failed⟩ := load_in_vain fresh vain
      exact refuses_of_load failed

/-- Every history has a snapshot, and whatever it is, the manager shows it in any world that it is asked in. -/
theorem settings_snapshot (w : World) (file profile : Option Text) (ops : List Operation) :
    (∃ kept, Snapshot w file profile ops kept) ∧
      ∀ kept, Snapshot w file profile ops kept →
        ∀ now, Shows (run w (.new file profile) ops) now file profile kept :=
  ⟨exists_snapshot w file profile ops, fun _ snapshot now => (run_snapshot snapshot).shows now⟩

def barren : World := { clashing with files := .new ["work"] }

def restless : List Operation :=
  [.load, .change clashing, .load, .assign ["cli"] "verbose" (.int 5), .change barren]

def restlessSettings : Mapping :=
  [(.text "cli", .map [(.text "verbose", .int 5)]),
    (.text "validator", .map [(.text "validator_id", .text "tokenmsg_cli_validator"),
      (.text "log_level", .text "WARNING")])]

theorem settings_snapshot_restless :
    ∃ used, Merged clashing (some ".tokenmsg.json") none clashingSettings used ∧
      Snapshot barren (some ".tokenmsg.json") none restless (some (restlessSettings, used)) ∧
      ∀ now, Shows (run barren (.new (some ".tokenmsg.json") none) restless) now (some ".tokenmsg.json") none
        (some (restlessSettings, used)) := by
  have loaded :
      ((Manager.new (some ".tokenmsg.json") none).load clashing).value.2.toOption = some clashingSettings := by
    decide +kernel
  obtain ⟨ls, applied, all⟩ := applied_of_load rfl (eq_ok_of_toOption loaded)
  have merged : Merged clashing (some ".tokenmsg.json") none clashingSettings (ls.map Layer.source) :=
    ⟨ls, applied, all, rfl⟩
  have vain : ¬∃ settings used, Merged barren (some ".tokenmsg.json") none settings used := by
    rintro ⟨settings, used, ls, applied, _⟩
    have failed : (layers barren (some ".tokenmsg.json") none).value.2.isSome = true := by decide +kernel
    rw [layers_eq_iff.mpr applied] at failed
    cases failed
  have quiet : Quiet (some ".tokenmsg.json") none barren [.load, .change clashing] :=
    ⟨by simp, fun _ => vain, by simp, fun accesses => accesses.elim, trivial⟩
  have snapshot : Snapshot barren (some ".tokenmsg.json") none ([] ++ ([.load, .change clashing] ++
      .load :: [.assign ["cli"] "verbose" (.int 5), .change barren])) (some (_, ls.map Layer.source)) :=
    .taken (.inl rfl) quiet trivial merged (by simp)
  have changed : [.load, .assign ["cli"] "verbose" (.int 5), .change barren].foldl assigned clashingSettings =
      restlessSettings := by decide +kernel
  rw [changed] at snapshot
  exact ⟨_, merged, snapshot, (settings_snapshot barren _ none restless).2 _ snapshot⟩

end TokenIntake.Settings
