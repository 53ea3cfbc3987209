import TokenIntake.Command.Terminal
import TokenIntake.Proofs.Text.Ascii

namespace TokenIntake

open Text

theorem Utf8.obstacle?_eq_none_iff (t : Text) : obstacle? (fun _ => false) t = none ↔ t.hasSurrogate = false := by
  have place : ∀ u : Text, u.drop (u.takeWhile fun c => !c.isSurrogate || false).length =
      u.dropWhile fun c => !c.isSurrogate || false := by
    intro u
    have whole := List.takeWhile_append_dropWhile (p := fun c => !CodePoint.isSurrogate c || false) (l := u)
    conv => lhs; arg 2; rw [← whole]
    exact List.drop_left
  have ends : ∀ u : Text, (u.dropWhile fun c => !c.isSurrogate || false).takeWhile CodePoint.isSurrogate = [] ↔
      u.hasSurrogate = false := by
    intro u
    induction u with
    | nil => simp [hasSurrogate]
    | cons c rest ih =>
      cases surrogate : c.isSurrogate with
      | true => simp [hasSurrogate, surrogate]
      | false => simpa [hasSurrogate, surrogate] using ih
  rw [← ends t]
  unfold obstacle?
  dsimp only
  rw [place]
  split
  · rename_i none
    simp only [none]
  · rename_i some
    simpa using some

namespace Command

namespace Terminal

theorem dropWhile_drops (low : CodePoint → Bool) (whole : ∀ c, low c = true → c.isSurrogate = false) (t : Text) :
    ∃ dropped, t = dropped ++ t.dropWhile low ∧ hasSurrogate dropped = false :=
  ⟨t.takeWhile low, List.takeWhile_append_dropWhile.symm, (hasSurrogate_eq_false_iff _).mpr fun c inside =>
    whole c (List.all_eq_true.mp List.all_takeWhile c inside)⟩

theorem isSurrogate_of_range {c : CodePoint} {least most : Nat} (small : most < 0xD800)
    (range : (least ≤ c.val && c.val ≤ most) = true) : c.isSurrogate = false := by
  simp only [Bool.and_eq_true, decide_eq_true_eq] at range
  simp only [CodePoint.isSurrogate, Bool.and_eq_false_iff, decide_eq_false_iff_not]
  omega

theorem afterSequence?_drops {t after : Text} (found : afterSequence? t = some after) :
    ∃ sequence, t = sequence ++ after ∧ hasSurrogate sequence = false := by
  unfold afterSequence? at found
  split at found
  · rename_i a b rest
    split at found
    · rename_i opened
      simp only [Bool.and_eq_true, decide_eq_true_eq, CodePoint.is] at opened
      have first : a.isSurrogate = false := by simp [CodePoint.isSurrogate, opened.1]
      have second : b.isSurrogate = false := by
        rw [opened.2]
        decide
      dsimp only at found
      obtain ⟨parameters, whole, wholeParameters⟩ :=
        dropWhile_drops (fun c => 0x30 ≤ c.val && c.val ≤ 0x3F) (fun c => isSurrogate_of_range (by decide)) rest
      obtain ⟨intermediates, others, wholeIntermediates⟩ :=
        dropWhile_drops (fun c => 0x20 ≤ c.val && c.val ≤ 0x2F) (fun c => isSurrogate_of_range (by decide))
          (rest.dropWhile fun c => 0x30 ≤ c.val && c.val ≤ 0x3F)
      split at found
      · rename_i c behind left
        split at found
        · rename_i last
          cases found
          rw [left] at others
          have closing : c.isSurrogate = false := isSurrogate_of_range (by decide) last
          refine ⟨[a, b] ++ parameters ++ intermediates ++ [c], ?_, ?_⟩
          · rw [whole, others]
            simp
          · simp only [hasSurrogate_append, wholeParameters, wholeIntermediates]
            simp [hasSurrogate, first, second, closing]
        · cases found
      · cases found
    · cases found
  · cases found

theorem hasSurrogate_withoutSequences (t : Text) : (withoutSequences t).hasSurrogate = t.hasSurrogate := by
  -- without fuel the text stays as it is, so any fuel will do
  have step : ∀ fuel (t : Text), (withoutSequencesFuel fuel t).hasSurrogate = t.hasSurrogate := by
    intro fuel
    induction fuel with
    | zero => exact fun t => rfl
    | succ fuel ih =>
      intro t
      cases t with
      | nil => rfl
      | cons c rest =>
        rw [withoutSequencesFuel]
        cases found : afterSequence? (c :: rest) with
        | none =>
          dsimp only
          exact congrArg (c.isSurrogate || ·) (ih rest)
        | some after =>
          obtain ⟨sequence, whole, without⟩ := afterSequence?_drops found
          dsimp only
          rw [ih after, whole, hasSurrogate_append, without, Bool.false_or]
  exact step t.length t

theorem withoutSequences_of_noEscape {t : Text} (noEscape : ∀ c ∈ t, c.val ≠ 0x1B) : withoutSequences t = t := by
  have step : ∀ fuel (t : Text), (∀ c ∈ t, c.val ≠ 0x1B) → withoutSequencesFuel fuel t = t := by
    intro fuel
    induction fuel with
    | zero => exact fun t _ => rfl
    | succ fuel ih =>
      intro t noEscape
      cases t with
      | nil => rfl
      | cons c rest =>
        obtain ⟨first, others⟩ := List.forall_mem_cons.mp noEscape
        have none : afterSequence? (c :: rest) = none := by
          unfold afterSequence?
          split
          · rename_i split
            cases split
            simp [first]
          · rfl
        rw [withoutSequencesFuel, none]
        exact congrArg (c :: ·) (ih rest others)
  exact step t.length t noEscape

theorem noEscape_of_legible {t : Text} (legible : Legible t) : ∀ c ∈ t, c.val ≠ 0x1B := by
  intro c inside control
  have shown := legible c inside
  simp [CodePoint.isLegible, control] at shown

theorem withoutSequences_of_legible {t : Text} (legible : Legible t) : withoutSequences t = t :=
  withoutSequences_of_noEscape (noEscape_of_legible legible)

variable {t : Terminal} {line : Text}

theorem print_of_whole (whole : line.hasSurrogate = false) :
    t.print line = .ok { t with stdout := t.stdout ++ withoutSequences (line ++ "\n") } := by
  have clear : Utf8.obstacle? (fun _ => false) (withoutSequences (line ++ "\n")) = none := by
    rw [Utf8.obstacle?_eq_none_iff, hasSurrogate_withoutSequences, hasSurrogate_append, whole]
    rfl
  unfold print
  dsimp only
  rw [clear]

theorem print_of_surrogate (broken : line.hasSurrogate = true) : ∃ message, t.print line = .error message := by
  cases found : Utf8.obstacle? (fun _ => false) (withoutSequences (line ++ "\n")) with
  | some obstacle =>
    refine ⟨obstacle.message, ?_⟩
    unfold print
    dsimp only
    rw [found]
  | none =>
    rw [Utf8.obstacle?_eq_none_iff, hasSurrogate_withoutSequences, hasSurrogate_append, broken] at found
    cases found

theorem showOwn_nil (t : Terminal) : t.showOwn [] = t := by
  obtain ⟨files, stdout, stderr, own, checks⟩ := t
  simp [showOwn, printRecords, Log.replay]

/-- Between the two nothing was written but log records. -/
structure Logs (t t' : Terminal) : Prop where
  files : t'.files = t.files
  stdout : t'.stdout = t.stdout
  stderr : ∃ records : List Log.Record, t'.stderr = t.stderr ++ records.flatMap recordLine

namespace Logs

variable {t t' t'' : Terminal}

theorem refl (t : Terminal) : Logs t t := ⟨rfl, rfl, [], (List.append_nil _).symm⟩

theorem trans (first : Logs t t') (second : Logs t' t'') : Logs t t'' := by
  obtain ⟨records, said⟩ := first.stderr
  obtain ⟨more, saidThen⟩ := second.stderr
  refine ⟨second.files.trans first.files, second.stdout.trans first.stdout, records ++ more, ?_⟩
  rw [saidThen, said, List.append_assoc, List.flatMap_append]

theorem showOwn (t : Terminal) (events : List Log.Event) : Logs t (t.showOwn events) := ⟨rfl, rfl, _, rfl⟩

theorem showChecks (t : Terminal) (events : List Log.Event) : Logs t (t.showChecks events) := ⟨rfl, rfl, _, rfl⟩

theorem setThresholds (t : Terminal) (level : Log.Level) : Logs t (t.setThresholds level) :=
  ⟨rfl, rfl, [], (List.append_nil _).symm⟩

end Logs

def errorLine (line : Text) : Text := spelledOut (withoutSequences (line ++ "\n"))

theorem printErrors_outputs (lines : List Text) (t : Terminal) :
    (lines.foldl printError t).stdout = t.stdout ∧
      (lines.foldl printError t).stderr = t.stderr ++ lines.flatMap errorLine := by
  induction lines generalizing t with
  | nil => exact ⟨rfl, (List.append_nil _).symm⟩
  | cons line lines ih =>
    obtain ⟨quiet, said⟩ := ih (t.printError line)
    refine ⟨quiet, ?_⟩
    rw [List.foldl_cons, said, List.flatMap_cons, ← List.append_assoc]
    rfl

end Terminal

end Command

end TokenIntake
