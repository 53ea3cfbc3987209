import TokenIntake.Command.MessageFile
import TokenIntake.Proofs.Except
import TokenIntake.Proofs.Message.Grammar

namespace TokenIntake.Command

def Stop.code (s : Stop) : Nat := (s.conclude (.new (.new []))).1

theorem Stop.conclude_code (s : Stop) (t : Terminal) : (s.conclude t).1 = s.code := by
  cases s <;> rfl

namespace MessageFile

inductive Defect where
  | unanswered
  | missing
  | unreadable
  | malformed
  | valueless
  | notMapping
  | undecodable
deriving DecidableEq

namespace Defect

def isKnown : Defect → Bool
  | .unanswered | .valueless => false
  | .missing | .unreadable | .malformed | .notMapping | .undecodable => true

def code (d : Defect) : Nat := if d.isKnown then unusableCode else 1

def ofFault : DataFile.Fault → Defect
  | .files .. | .encoding _ => .unreadable
  | .json (.malformed ..) | .yaml .malformed => .malformed
  | .json _ | .yaml _ => .valueless

end Defect

def data (fs : Files) (p : Path) : Except DataFile.Fault Value := do
  let bytes ← DataFile.contents fs p
  if DataFile.isYaml p then DataFile.ofYaml bytes else DataFile.ofJson bytes

def content (fs : Files) (file : Text) : Except Defect Message :=
  match fs.exists? (Path.ofText file) with
  | .error _ => .error .unanswered
  | .ok false => .error .missing
  | .ok true =>
    match data fs (Path.ofText file) with
    | .error f => .error (.ofFault f)
    | .ok v =>
      match v.entries?, Message.decode v with
      | none, _ => .error .notMapping
      | some _, .bad _ => .error .undecodable
      | some _, .good m => .ok m

theorem faultStop_code (source : Text) (f : DataFile.Fault) : (faultStop source f).code = (Defect.ofFault f).code := by
  cases f with
  | files path f => rfl
  | encoding f => rfl
  | json e => cases e <;> rfl
  | yaml f => cases f <;> rfl

theorem readData_of_there {fs : Files} {file : Text} (there : fs.exists? (Path.ofText file) = .ok true) :
    readData fs file = match data fs (Path.ofText file) with
      | .error f => .error (faultStop file f)
      | .ok v => match v.entries? with
        | some entries => .ok entries
        | none => .error (unusable (file ++ " must contain a single message object")) := by
  unfold readData data
  simp only [there, mapError_ok, bind, Except.bind, Bool.not_true, Bool.false_eq_true, if_false]
  cases DataFile.contents fs (Path.ofText file) with
  | error f => rfl
  | ok bytes =>
    simp only [mapError_ok]
    cases (if DataFile.isYaml (Path.ofText file) then DataFile.ofYaml bytes else DataFile.ofJson bytes) with
    | error f => rfl
    | ok v => rfl

theorem read_of_readData {fs : Files} {file : Text} {fields : Mapping} (given : readData fs file = .ok fields) :
    read fs file = decode file fields := by
  unfold read
  rw [given]
  rfl

theorem read_content (fs : Files) (file : Text) :
    match content fs file with
    | .ok m => read fs file = .ok m
    | .error d => ∃ stop, read fs file = .error stop ∧ stop.code = d.code := by
  unfold content
  cases there : fs.exists? (Path.ofText file) with
  | error f =>
    refine ⟨.failure (f.message (Path.ofText file).text), ?_, rfl⟩
    simp only [read, readData, there, mapError_error, bind, Except.bind]
  | ok present =>
    cases present with
    | false =>
      refine ⟨unusable ("File not found: " ++ file), ?_, rfl⟩
      simp only [read, readData, there, mapError_ok, bind, Except.bind, Bool.not_false, if_true]
    | true =>
      have reading := readData_of_there there
      cases held : data fs (Path.ofText file) with
      | error f =>
        rw [held] at reading
        exact ⟨faultStop file f, by simp only [read, reading, bind, Except.bind], faultStop_code file f⟩
      | ok v =>
        rw [held] at reading
        dsimp only at reading ⊢
        cases mapping : v.entries? with
        | none =>
          rw [mapping] at reading
          refine ⟨unusable (file ++ " must contain a single message object"), ?_, rfl⟩
          simp only [read, reading, bind, Except.bind]
        | some fields =>
          rw [mapping] at reading
          cases decoded : Message.decode v with
          | bad issues =>
            rw [Message.decode_of_entries mapping] at decoded
            refine ⟨unusable (Issue.report file issues), ?_, rfl⟩
            rw [read_of_readData reading]
            unfold decode
            rw [decoded]
          | good m =>
            rw [Message.decode_of_entries mapping] at decoded
            rw [read_of_readData reading]
            unfold decode
            rw [decoded]

theorem read_of_content_ok {fs : Files} {file : Text} {m : Message} (held : content fs file = .ok m) :
    read fs file = .ok m := by
  have reading := read_content fs file
  rw [held] at reading
  exact reading

theorem read_of_content_error {fs : Files} {file : Text} {d : Defect} (held : content fs file = .error d) :
    ∃ stop, read fs file = .error stop ∧ stop.code = d.code := by
  have reading := read_content fs file
  rw [held] at reading
  exact reading

theorem content_of_read_ok {fs : Files} {file : Text} {m : Message} (given : read fs file = .ok m) :
    content fs file = .ok m := by
  have reading := read_content fs file
  cases held : content fs file with
  | ok m' =>
    rw [held, given] at reading
    exact congrArg Except.ok (Except.ok.inj reading).symm
  | error d =>
    rw [held, given] at reading
    obtain ⟨stop, refused, _⟩ := reading
    cases refused

theorem content_of_read_error {fs : Files} {file : Text} {stop : Stop} (refused : read fs file = .error stop) :
    ∃ d, content fs file = .error d := by
  cases held : content fs file with
  | ok m =>
    rw [read_of_content_ok held] at refused
    cases refused
  | error d => exact ⟨d, rfl⟩

theorem whole_of_content {fs : Files} {file : Text} {m : Message} (held : content fs file = .ok m) :
    m.name.hasSurrogate = false ∧ m.symbol.hasSurrogate = false := by
  unfold content at held
  split at held
  · cases held
  · cases held
  · split at held
    · cases held
    · split at held
      · cases held
      · cases held
      · rename_i decoded
        cases held
        exact Message.whole_of_decode decoded

end MessageFile

end TokenIntake.Command
