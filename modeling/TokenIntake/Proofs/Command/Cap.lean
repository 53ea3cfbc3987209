import TokenIntake.Proofs.Command.ExitCode
import TokenIntake.Proofs.Json.Indented
import TokenIntake.Proofs.Yaml.Word

namespace TokenIntake.Command

open Run Render Instantiate

structure MintingReport where
  policy : Text
  minter : Option Text
  cap : Option Text

namespace MintingReport

def ofMint : Option Minter → MintingReport
  | none => ⟨"disabled", none, none⟩
  | some ⟨minter, none⟩ => ⟨"uncapped", some minter, none⟩
  | some ⟨minter, some cap⟩ => ⟨"capped", some minter, some (Text.ofNat cap.val)⟩

def toValue (r : MintingReport) : Value :=
  .map [
    (.text "minting_policy", .text r.policy),
    (.text "minter", Summary.textOrNull r.minter),
    (.text "cap", Summary.textOrNull r.cap)]

/-- A line for each entry, with the value in the same column. -/
def table (r : MintingReport) : Text :=
  Text.join "\n" [
    "minting_policy       " ++ r.policy,
    "minter               " ++ r.minter.getD "-",
    "cap                  " ++ r.cap.getD "-"]

/-- A line for each entry, though a minter may be folded into more, and the cap as a text. -/
def yaml (r : MintingReport) : Text :=
  Text.join "\n" [
    "minting_policy: " ++ r.policy,
    Yaml.entryText "minter" (r.minter.elim .null .text),
    "cap: " ++ r.cap.elim ("null" : Text) fun cap => "'" ++ cap ++ "'"]

def joined (r : MintingReport) : MintingReport := { r with minter := r.minter.map Text.joined }

theorem capReport_eq (m : Message) : capReport m = (ofMint m.mint).toValue := by
  obtain ⟨_, _, _, _, mint, _⟩ := m
  cases mint with
  | none => rfl
  | some minter => obtain ⟨_, _ | cap⟩ := minter <;> rfl

theorem ofMint_legible (mint : Option Minter) :
    (ofMint mint).policy.Legible ∧ ((ofMint mint).cap.getD "-").Legible ∧
      ∀ t, (ofMint mint).cap = some t → t.hasSurrogate = false := by
  have words : Text.Legible "disabled" ∧ Text.Legible "uncapped" ∧ Text.Legible "capped" ∧ Text.Legible "-" := by
    decide
  obtain ⟨disabled, uncapped, capped, dash⟩ := words
  cases mint with
  | none => exact ⟨disabled, dash, fun t none => nomatch none⟩
  | some minter =>
    obtain ⟨_, _ | cap⟩ := minter
    · exact ⟨uncapped, dash, fun t none => nomatch none⟩
    · have digits := Text.legible_ofNat cap.val
      exact ⟨capped, digits, fun t same => Option.some.inj same ▸ digits.hasSurrogate⟩

variable (r : MintingReport)

theorem table_toValue : Render.table defaultKeyWidth r.toValue = .ok r.table := by
  obtain ⟨policy, minter, cap⟩ := r
  cases minter <;> cases cap <;> rfl

theorem table_parts (mint : Option Minter) : ∃ before behind, Text.Legible before ∧ Text.Legible behind ∧
    (ofMint mint).table = before ++ ((ofMint mint).minter.getD "-" ++ behind) := by
  obtain ⟨policy, cap, _⟩ := ofMint_legible mint
  have first : Text.Legible "minting_policy       " := by decide
  have second : Text.Legible "\nminter               " := by decide
  have third : Text.Legible "\ncap                  " := by decide
  refine ⟨"minting_policy       " ++ ((ofMint mint).policy ++ "\nminter               "),
    "\ncap                  " ++ (ofMint mint).cap.getD "-",
    (Text.legible_append _ _).mpr ⟨first, (Text.legible_append _ _).mpr ⟨policy, second⟩⟩,
    (Text.legible_append _ _).mpr ⟨third, cap⟩, ?_⟩
  rw [table]
  simp only [Text.join, List.append_assoc]
  rfl

theorem hasSurrogate_table (mint : Option Minter) :
    (ofMint mint).table.hasSurrogate = (ofMint mint).minter.any Text.hasSurrogate := by
  obtain ⟨before, behind, wholeBefore, wholeBehind, table⟩ := table_parts mint
  rw [table, Text.hasSurrogate_append, Text.hasSurrogate_append, wholeBefore.hasSurrogate, wholeBehind.hasSurrogate,
    Bool.false_or, Bool.or_false]
  cases (ofMint mint).minter <;> rfl

theorem withoutSequences_table {mint : Option Minter}
    (noEscape : ∀ minter ∈ (ofMint mint).minter, ∀ c ∈ minter, c.val ≠ 0x1B) :
    Terminal.withoutSequences ((ofMint mint).table ++ "\n") = (ofMint mint).table ++ "\n" := by
  obtain ⟨before, behind, legible, legibleBehind, table⟩ := table_parts mint
  have minter : ∀ c ∈ (ofMint mint).minter.getD "-", c.val ≠ 0x1B := by
    cases some : (ofMint mint).minter with
    | none => exact Terminal.noEscape_of_legible (t := "-") (by decide)
    | some t => exact noEscape t some
  refine Terminal.withoutSequences_of_noEscape fun c inside => ?_
  rw [table] at inside
  simp only [List.mem_append] at inside
  rcases inside with (front | here | back) | ending
  · exact Terminal.noEscape_of_legible legible c front
  · exact minter c here
  · exact Terminal.noEscape_of_legible legibleBehind c back
  · exact Terminal.noEscape_of_legible (t := "\n") (by decide) c ending

theorem toValue_carries : r.toValue.Carries (r.policy :: (r.minter.toList ++ r.cap.toList)) 1 := by
  have fields := Value.Carries.object (v := r.toValue) rfl ["minting_policy", "minter", "cap"] rfl (by decide)
    (by decide) (.cons (Value.carries_text _ 0) (.cons (Value.carries_textOrNull _ 0)
      (.cons (Value.carries_textOrNull _ 0) .nil)))
  simpa using fields

theorem entryText_policy (mint : Option Minter) :
    Yaml.entryText "minting_policy" (.text (ofMint mint).policy) = "minting_policy: " ++ (ofMint mint).policy := by
  have words : ∀ policy ∈ (["disabled", "uncapped", "capped"] : List Text),
      Yaml.entryText "minting_policy" (.text policy) = "minting_policy: " ++ policy := by decide +kernel
  refine words _ ?_
  cases mint with
  | none => exact List.mem_cons_self
  | some minter =>
    obtain ⟨_, _ | cap⟩ := minter
    · exact List.mem_cons_of_mem _ List.mem_cons_self
    · exact List.mem_cons_of_mem _ (List.mem_cons_of_mem _ List.mem_cons_self)

theorem entryText_cap (mint : Option Minter) : Yaml.entryText "cap" ((ofMint mint).cap.elim .null .text) =
    "cap: " ++ (ofMint mint).cap.elim ("null" : Text) fun cap => "'" ++ cap ++ "'" := by
  have nothing : Yaml.entryText "cap" .null = "cap: null" := by decide +kernel
  cases mint with
  | none => exact nothing
  | some minter =>
    obtain ⟨_, _ | cap⟩ := minter
    · exact nothing
    · exact Yaml.entryText_ofNat "cap" cap.val

theorem yaml_ends (r : MintingReport) : ∃ (t : Text) (c : CodePoint), r.yaml = t ++ [c] ∧ c.is '\n' = false := by
  let above := ("minting_policy: " ++ r.policy) ++ "\n" ++ Yaml.entryText "minter" (r.minter.elim .null .text) ++ "\n"
  have lines : r.yaml = above ++ ("cap: " ++ r.cap.elim ("null" : Text) fun cap => "'" ++ cap ++ "'") := by
    simp only [yaml, Text.join, above, List.append_assoc]
  rw [lines]
  cases r.cap with
  | none =>
    refine ⟨above ++ "cap: nul", 'l', ?_, by decide⟩
    rw [List.append_assoc above]
    rfl
  | some cap =>
    refine ⟨above ++ ("cap: '" ++ cap), '\'', ?_, by decide⟩
    rw [List.append_assoc above]
    rfl

theorem print_toValue (mint : Option Minter) : Yaml.print (ofMint mint).toValue = .ok (ofMint mint).yaml := by
  let r := ofMint mint
  let entries : List (Text × Scalar) :=
    [("minting_policy", .text r.policy), ("minter", r.minter.elim .null .text), ("cap", r.cap.elim .null .text)]
  have isFlat : r.toValue = .map (Yaml.flat entries) := by
    obtain ⟨policy, minter, cap⟩ := r
    cases minter <;> cases cap <;> rfl
  have textOrNull : ∀ t : Option Text, Scalar.isPlain (t.elim .null .text) = true := by
    intro t
    cases t <;> rfl
  have plain : ∀ e ∈ entries, e.2.isPlain = true :=
    List.forall_mem_cons.mpr
      ⟨rfl, List.forall_mem_cons.mpr ⟨textOrNull _, List.forall_mem_singleton.mpr (textOrNull _)⟩⟩
  have keys : ∀ key ∈ entries.map Prod.fst, Yaml.isSimpleKey (.text key) = true := by
    show ∀ key ∈ (["minting_policy", "minter", "cap"] : List Text), Yaml.isSimpleKey (.text key) = true
    decide +kernel
  have printed := Yaml.print_flat (List.cons_ne_nil _ _) plain fun e inside =>
    keys e.1 (List.mem_map_of_mem inside)
  have lines : Text.join "\n" (entries.map fun e => Yaml.entryText e.1 e.2) = r.yaml := by
    simp only [entries, List.map_cons, List.map_nil, r, entryText_policy, entryText_cap, yaml]
  obtain ⟨t, c, ends, whole⟩ := yaml_ends r
  rw [← isFlat, lines, ends, Yaml.dropEndWhile_lineBreak whole, ← ends] at printed
  exact printed

theorem toValue_inj {r r' : MintingReport} (same : r.toValue = r'.toValue) : r = r' := by
  obtain ⟨policy, minter, cap⟩ := r
  obtain ⟨policy', minter', cap'⟩ := r'
  cases minter <;> cases cap <;> cases minter' <;> cases cap' <;> simp_all [toValue, Summary.textOrNull]

theorem joined_toValue (mint : Option Minter) : (ofMint mint).toValue.joined = (ofMint mint).joined.toValue := by
  have asIs : ∀ t : Text, t.hasSurrogate = false → t.joined = t :=
    fun t whole => (Text.joined_eq_self_iff t).mpr (Text.paired_of_whole whole)
  obtain ⟨legible, _, digits⟩ := ofMint_legible mint
  have policy : (Value.text (ofMint mint).policy).joined = .text (ofMint mint).policy :=
    congrArg Value.text (asIs _ legible.hasSurrogate)
  have minter : (Summary.textOrNull (ofMint mint).minter).joined =
      Summary.textOrNull ((ofMint mint).minter.map Text.joined) := by
    cases (ofMint mint).minter <;> rfl
  have cap : (Summary.textOrNull (ofMint mint).cap).joined = Summary.textOrNull (ofMint mint).cap := by
    cases some : (ofMint mint).cap with
    | none => rfl
    | some t => exact congrArg Value.text (asIs t (digits t some))
  rw [toValue, Value.joined_map, List.map_cons, List.map_cons, List.map_cons, policy, minter, cap]
  rfl

theorem joined_eq_self_iff : r.joined = r ↔ r.minter.any Text.paired = false := by
  obtain ⟨policy, minter, cap⟩ := r
  cases minter with
  | none => simp [joined]
  | some t => simp [joined, Text.joined_eq_self_iff]

end MintingReport

/-- The format and the file of a call for a cap, if the command is reached. -/
def asksCap? (w : Settings.World) (args : List Text) : Option (Format × Text) :=
  match (select w args).on (Terminal.new w.files) with
  | (.ok (s, .cap file), _) => (Format.ofLabel? s.format).map fun format => (format, file)
  | _ => none

section

variable {w : Settings.World} {args : List Text} {format : Format} {file : Text} {m : Message}

theorem of_asksCap (asked : asksCap? w args = some (format, file)) :
    ∃ s t, (select w args).on (Terminal.new w.files) = (.ok (s, .cap file), t) ∧
      Format.ofLabel? s.format = some format ∧ (Terminal.new w.files).Logs t := by
  unfold asksCap? at asked
  split at asked
  · rename_i s file' t chosen
    obtain ⟨format', label, same⟩ := Option.map_eq_some_iff.mp asked
    cases same
    obtain ⟨_, given⟩ := select_prepares w args (Terminal.new w.files)
    rw [chosen] at given
    exact ⟨s, t, chosen, label, (given _ rfl).2⟩
  · cases asked

theorem cap_of_rendered (asked : asksCap? w args = some (format, file))
    (held : MessageFile.read w.files file = .ok m) (now : Nat) {line : Text}
    (rendered : render format defaultKeyWidth (capReport m) = .ok line) :
    (program w now args).1 = (if line.hasSurrogate then 1 else 0) ∧
      (program w now args).2.stdout =
        if line.hasSurrogate then [] else Terminal.withoutSequences (line ++ "\n") := by
  obtain ⟨s, t, chosen, label, logs⟩ := of_asksCap asked
  have read : MessageFile.read t.files file = .ok m := by
    have same : t.files = w.files := logs.files
    rw [same, held]
  have shown : s.render none (capReport m) = .ok line := by
    simp only [Session.render, renderAs, label]
    exact rendered
  have performed : ((Call.cap file).perform s w now).on t = (s.present none (capReport m)).on t := by
    rw [Call.perform, cap, on_bind_of_ok (on_get t), read, on_bind_of_ok (on_lift _ _)]
  rw [program_of_select chosen, performed]
  cases whole : line.hasSurrogate with
  | false =>
    rw [present_of_whole shown whole t]
    exact ⟨rfl, by rw [logs.stdout]; rfl⟩
  | true =>
    obtain ⟨message, refused⟩ := present_of_surrogate shown whole t
    rw [refused]
    exact ⟨rfl, ((Stop.failure message).conclude_stdout t).trans logs.stdout⟩

/-- In every format the command shows the policy, the minter and the cap of any message, and ends well; but a table
fails for a minter with a surrogate, and neighbouring surrogates come back from JSON as one code point. -/
theorem cap_shows (asked : asksCap? w args = some (format, file)) (held : MessageFile.read w.files file = .ok m)
    (now : Nat) :
    let r := MintingReport.ofMint m.mint
    (program w now args).1 = (if format = .table ∧ r.minter.any Text.hasSurrogate then 1 else 0) ∧
      match format with
      | .table =>
        (program w now args).2.stdout =
          (if r.minter.any Text.hasSurrogate then [] else Terminal.withoutSequences (r.table ++ "\n")) ∧
        ((∀ minter ∈ r.minter, ∀ c ∈ minter, c.val ≠ 0x1B) →
          Terminal.withoutSequences (r.table ++ "\n") = r.table ++ "\n")
      | .json =>
        ∃ line, Json.print r.toValue = .ok line ∧ (program w now args).2.stdout = line ++ "\n" ∧
          Json.parse (line ++ "\n") = .ok r.joined.toValue ∧
          (Json.parse (line ++ "\n") = .ok r.toValue ↔ r.minter.any Text.paired = false)
      | .yaml =>
        Yaml.print r.toValue = .ok r.yaml ∧ (program w now args).2.stdout = r.yaml ++ "\n" ∧
          ∀ minter ∈ r.minter, Yaml.style (Yaml.resolve minter = .text) false minter = .plain →
            (∀ c ∈ minter, c.is ' ' = false) → Yaml.entryText "minter" (.text minter) = "minter: " ++ minter := by
  intro r
  have report : capReport m = r.toValue := MintingReport.capReport_eq m
  -- what a writer of structured text prints is legible, so nothing is in its way
  have printed : ∀ line : Text, render format defaultKeyWidth r.toValue = .ok line → line.Legible →
      (program w now args).1 = 0 ∧ (program w now args).2.stdout = line ++ "\n" := by
    intro line rendered legible
    obtain ⟨code, stdout⟩ := cap_of_rendered asked held now (report ▸ rendered)
    have ended : Text.Legible (line ++ "\n") := (Text.legible_append _ _).mpr ⟨legible, by decide⟩
    rw [legible.hasSurrogate] at code stdout
    exact ⟨code, stdout.trans (Terminal.withoutSequences_of_legible ended)⟩
  cases format with
  | table =>
    obtain ⟨code, stdout⟩ := cap_of_rendered asked held now (report ▸ r.table_toValue)
    rw [MintingReport.hasSurrogate_table] at code stdout
    exact ⟨by simpa using code, stdout, MintingReport.withoutSequences_table⟩
  | json =>
    have carries := r.joined.toValue_carries
    obtain ⟨line, written, parsed⟩ := Json.parse_print r.toValue_carries.exact
      (MintingReport.joined_toValue m.mint ▸ carries.keyed) (Nat.le_trans r.toValue_carries.shallow (by decide))
    have back := parsed "\n" (Json.blank_newLine 0)
    rw [MintingReport.joined_toValue] at back
    obtain ⟨code, stdout⟩ := printed line (by rw [render, written]; rfl) (Json.print_legible written)
    refine ⟨code, line, written, stdout, back, ?_⟩
    rw [back, ← r.joined_eq_self_iff, Except.ok.injEq]
    exact ⟨MintingReport.toValue_inj, congrArg _⟩
  | yaml =>
    have written : Yaml.print r.toValue = .ok r.yaml := MintingReport.print_toValue m.mint
    obtain ⟨code, stdout⟩ := printed r.yaml (by rw [render, written]; rfl) (Yaml.print_legible written)
    exact ⟨code, written, stdout, fun minter _ plain word => Yaml.entryText_word plain word⟩

end

def zeroCapFile : Settings.World :=
  worldWith "m.yml"
    "name: test token\nsymbol: TNT\ndecimals: 6\ninitial_balances: []\nmint:\n  minter: alice\n  cap: '0'\n"

theorem cap_shows_zeroCap :
    let r : MintingReport := ⟨"capped", some "alice", some "0"⟩
    (program zeroCapFile 0 ["-o", "json", "instantiate", "cap", "m.yml"]).1 = 0 ∧
      ∃ line, (program zeroCapFile 0 ["-o", "json", "instantiate", "cap", "m.yml"]).2.stdout = line ++ "\n" ∧
        Json.parse (line ++ "\n") = .ok r.toValue := by
  intro r
  let m : Message := ⟨"test token", "TNT", 6, [], some ⟨"alice", some ⟨0, by decide⟩⟩, none⟩
  have asked : asksCap? zeroCapFile ["-o", "json", "instantiate", "cap", "m.yml"] =
      some (Format.json, ("m.yml" : Text)) := by decide +kernel
  have held : MessageFile.read zeroCapFile.files "m.yml" = .ok m := by decide +kernel
  obtain ⟨code, line, _, stdout, parsed, _⟩ := cap_shows asked held 0
  exact ⟨code, line, stdout, parsed⟩

def surrogateMinterFile : Settings.World :=
  worldWith "m.json" ("\x7b\"name\":\"test token\",\"symbol\":\"TNT\",\"decimals\":6,\"initial_balances\":[]," ++
    "\"mint\":\x7b\"minter\":\"x\\ud800\"\x7d\x7d")

theorem surrogateMinter_cap :
    asksCap? surrogateMinterFile ["instantiate", "cap", "m.json"] = some (Format.table, ("m.json" : Text)) ∧
      MessageFile.read surrogateMinterFile.files "m.json" =
        .ok ⟨"test token", "TNT", 6, [], some ⟨['x', ⟨0xD800, by decide⟩], none⟩, none⟩ ∧
      (program surrogateMinterFile 0 ["instantiate", "cap", "m.json"]).1 = 1 ∧
      (program surrogateMinterFile 0 ["instantiate", "cap", "m.json"]).2.stdout = [] := by
  decide +kernel

end TokenIntake.Command
