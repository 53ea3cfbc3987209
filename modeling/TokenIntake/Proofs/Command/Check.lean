import TokenIntake.Proofs.Check.Agreement
import TokenIntake.Proofs.Command.MessageFile
import TokenIntake.Proofs.Command.Session

namespace TokenIntake.Command.Instantiate

open Run MessageFile

variable {e : Engine} {now : Nat} {file : Text} {rest : List Text} {t : Terminal}

/-- A result as the standard rules give it for the message in the file. -/
def Judged (fs : Files) (e : Engine) (now : Nat) (r : Result) : Prop :=
  ∃ m, content fs r.1 = .ok m ∧ r.2 = (e.opening now m).judged m

theorem checkFiles_cons_of_ok (standard : e.rules = Rule.standard) {m : Message}
    (held : content t.files file = .ok m) :
    (checkFiles e now (file :: rest)).on t =
      ((fun rs => (file, (e.opening now m).judged m) :: rs) <$>
        checkFiles (e.check now m).value.1 now rest).on (t.showChecks (e.check now m).events) := by
  have checked := (Engine.check_of_standard standard now m).1
  rw [checkFiles, on_bind_of_ok (on_get t), read_of_content_ok held, on_bind_of_ok (on_lift _ _),
    on_bind_of_ok (on_checks _ _)]
  dsimp only
  rw [checked]
  rfl

theorem checkFiles_cons_of_error {d : Defect} (held : content t.files file = .error d) :
    ∃ stop, (checkFiles e now (file :: rest)).on t = (.error stop, t) ∧ stop.code = d.code := by
  obtain ⟨stop, refused, code⟩ := read_of_content_error held
  refine ⟨stop, ?_, code⟩
  rw [checkFiles, on_bind_of_ok (on_get t), refused]
  exact on_bind_of_error (on_lift _ t) _

def judgedResult (e : Engine) (now : Nat) (p : Text × Message) : Result := (p.1, (e.opening now p.2).judged p.2)

theorem checkFiles_held (standard : e.rules = Rule.standard) (now : Nat) {checked : List (Text × Message)}
    (t : Terminal) (held : ∀ p ∈ checked, content t.files p.1 = .ok p.2) :
    ∃ t', (checkFiles e now (checked.map Prod.fst)).on t = (.ok (checked.map (judgedResult e now)), t') ∧
      t.Logs t' := by
  -- the engine is another one behind each file, but alike, and so its results are those of the first
  induction checked generalizing e t with
  | nil => exact ⟨t, rfl, .refl t⟩
  | cons p rest ih =>
    obtain ⟨here, others⟩ := List.forall_mem_cons.mp held
    have alike := Engine.check_alike e now p.2
    have same : judgedResult (e.check now p.2).value.1 now = judgedResult e now := by
      funext q
      rw [judgedResult, judgedResult, alike.opening]
    obtain ⟨t', went, logs⟩ := ih (alike.rules.trans standard) (t.showChecks (e.check now p.2).events) others
    rw [same] at went
    refine ⟨t', ?_, .trans (.showChecks t _) logs⟩
    rw [List.map_cons, checkFiles_cons_of_ok standard here]
    exact on_bind_of_ok went _

theorem exists_checked {fs : Files} {files : List Text} (usable : ∀ file ∈ files, ∃ m, content fs file = .ok m) :
    ∃ checked : List (Text × Message), checked.map Prod.fst = files ∧ ∀ p ∈ checked, content fs p.1 = .ok p.2 := by
  induction files with
  | nil => exact ⟨[], rfl, List.forall_mem_nil _⟩
  | cons file rest ih =>
    obtain ⟨⟨m, here⟩, others⟩ := List.forall_mem_cons.mp usable
    obtain ⟨checked, names, held⟩ := ih others
    exact ⟨(file, m) :: checked, by rw [List.map_cons, names], List.forall_mem_cons.mpr ⟨here, held⟩⟩

theorem judged_of_held {fs : Files} {checked : List (Text × Message)} (e : Engine) (now : Nat)
    (held : ∀ p ∈ checked, content fs p.1 = .ok p.2) :
    ∀ r ∈ checked.map (judgedResult e now), Judged fs e now r :=
  List.forall_mem_map.mpr fun p inside => ⟨p.2, held p inside, rfl⟩

theorem checkFiles_ok (standard : e.rules = Rule.standard) (now : Nat) {files : List Text} (t : Terminal)
    (usable : ∀ file ∈ files, ∃ m, content t.files file = .ok m) :
    ∃ results t', (checkFiles e now files).on t = (.ok results, t') ∧ t.Logs t' ∧
      results.map Prod.fst = files ∧ ∀ r ∈ results, Judged t.files e now r := by
  obtain ⟨checked, rfl, held⟩ := exists_checked usable
  obtain ⟨t', went, logs⟩ := checkFiles_held standard now t held
  exact ⟨_, t', went, logs, by rw [List.map_map]; rfl, judged_of_held e now held⟩

theorem checkFiles_error (standard : e.rules = Rule.standard) (now : Nat) {before : List Text} {d : Defect}
    (t : Terminal) (after : List Text) (usable : ∀ file ∈ before, ∃ m, content t.files file = .ok m)
    (held : content t.files file = .error d) :
    ∃ stop t', (checkFiles e now (before ++ file :: after)).on t = (.error stop, t') ∧ stop.code = d.code ∧
      t.Logs t' := by
  induction before generalizing e t with
  | nil =>
    obtain ⟨stop, went, code⟩ := checkFiles_cons_of_error held
    exact ⟨stop, t, went, code, .refl t⟩
  | cons first before ih =>
    obtain ⟨m, heldFirst⟩ := usable first List.mem_cons_self
    have alike := Engine.check_alike e now m
    have others : ∀ file ∈ before, ∃ m, content t.files file = .ok m := (List.forall_mem_cons.mp usable).2
    obtain ⟨stop, t', went, code, logs⟩ :=
      ih (alike.rules.trans standard) (t.showChecks (e.check now m).events) others held
    refine ⟨stop, t', ?_, code, .trans (.showChecks t _) logs⟩
    rw [List.cons_append, checkFiles_cons_of_ok standard heldFirst]
    exact on_bind_of_error went _

end TokenIntake.Command.Instantiate
