import TokenIntake.Proofs.Check.SummaryLines
import TokenIntake.Proofs.Command.Report

namespace TokenIntake

open Text Render

/-- A text is that of a summary line by line: there is one line for each key and each starts with its key. -/
def Summary.ByLine (width : Nat) (t : Text) : Prop :=
  List.Forall₂ (fun key line => Text.padEnd key width <+: line) keys t.lines

namespace Command.Instantiate

def cutTexts (r : Result) : List Text :=
  shownName r.1 :: ((r.2.message.map Message.symbol).toList ++ r.2.error.toList).map fun t => t.take rowWidth

theorem breaks_rowCell (t : Text) : (rowCell t).breaks = Text.breaks (t.take rowWidth) := breaks_padEnd _ _

theorem breaks_rowCell_getD (o : Option Text) :
    (rowCell (o.getD "-")).breaks = ((o.toList.map fun t => t.take rowWidth).map breaks).sum := by
  rw [breaks_rowCell]
  cases o with
  | none => rfl
  | some t => exact (Nat.add_zero _).symm

theorem breaks_rowLine (r : Result) : (rowLine r).breaks = ((cutTexts r).map breaks).sum := by
  have outcome : (rowCell r.2.summary.outcome.label).breaks = 0 := by
    cases r.2.summary.outcome <;> rfl
  rw [rowLine, breaks_join (by decide)]
  simp only [List.map_cons, List.map_nil, List.sum_cons, List.sum_nil, breaks_rowCell_getD, outcome,
    breaks_rowCell (Path.ofText r.1).name, cutTexts, List.map_append, List.sum_append, Nat.zero_add, Nat.add_zero]
  rfl

theorem rowLines_unbroken_iff {results : List Result} :
    (∀ t ∈ heading :: underline :: results.map rowLine, ('\n' : CodePoint) ∉ t) ↔
      ∀ r ∈ results, ∀ text ∈ cutTexts r, ('\n' : CodePoint) ∉ text := by
  have head : ('\n' : CodePoint) ∉ heading ∧ ('\n' : CodePoint) ∉ underline := by decide +kernel
  simp only [List.forall_mem_cons, List.forall_mem_map, ← breaks_eq_zero_iff (t := rowLine _), breaks_rowLine,
    sum_breaks_eq_zero_iff]
  exact ⟨fun all => all.2.2, fun all => ⟨head.1, head.2, all⟩⟩

theorem report_lines {results : List Result} (several : 2 ≤ results.length) (keyWidth : Int) :
    ∃ t, table keyWidth (report results) = .ok t ∧
      t.lines.length = 2 + results.length + (results.map fun r => ((cutTexts r).map breaks).sum).sum ∧
      (t.lines = heading :: underline :: results.map rowLine ↔
        ∀ r ∈ results, ∀ text ∈ cutTexts r, ('\n' : CodePoint) ∉ text) := by
  refine ⟨_, table_report several keyWidth, ?_, ?_⟩
  · have head : heading.breaks = 0 ∧ underline.breaks = 0 := by decide +kernel
    rw [lines_join (List.cons_ne_nil _ _), length_flatMap_lines]
    simp only [List.length_cons, List.length_map, List.map_cons, List.sum_cons, List.map_map, head, Function.comp_def,
      breaks_rowLine]
    omega
  · rw [lines_join (List.cons_ne_nil _ _), flatMap_lines_eq_self_iff, rowLines_unbroken_iff]

def Listed (m : Message) (r : Result) : Prop :=
  ∃ (e : Engine) (now : Nat), (∀ rule ∈ e.rules, rule.IsStandard) ∧ (e.check now m).value.2 = .ok r.2

theorem Listed.cutTexts_unbroken_iff {m : Message} {r : Result} (listed : Listed m r) :
    (∀ text ∈ cutTexts r, ('\n' : CodePoint) ∉ text) ↔
      ('\n' : CodePoint) ∉ shownName r.1 ∧ ('\n' : CodePoint) ∉ m.symbol.take rowWidth := by
  obtain ⟨e, now, standard, verdict⟩ := listed
  have terse := Engine.check_terse standard verdict
  have error : ∀ t ∈ r.2.error.toList, ('\n' : CodePoint) ∉ t.take rowWidth := fun t inside broken =>
    terse.error t (Option.mem_toList.mp inside) (List.mem_of_mem_take broken)
  simp only [cutTexts, terse.message, Option.map_some, Option.toList_some, List.forall_mem_cons, List.map_append,
    List.forall_mem_append, List.forall_mem_map, List.map_cons, List.map_nil]
  exact ⟨fun all => ⟨all.1, all.2.1.1⟩, fun all => ⟨all.1, ⟨all.2, List.forall_mem_nil _⟩, error⟩⟩

/-- Reports are by line where nothing that they show has a line feed: for an engine with standard rules this is the
name and the symbol of a message, and in a report on several files what it shows of their names and symbols. -/
theorem reports_by_line {keyWidth : Int} {width : Nat} (possible : checkedWidth keyWidth = .ok width) :
    (∀ (e : Engine) (now : Nat) (m : Message) (c : Context), (e.check now m).value.2 = .ok c →
      (Scalar.isLong (.int c.results.length) = true →
        table keyWidth c.summary.toValue = .error (.unwritable .longInteger)) ∧
      (Scalar.isLong (.int c.results.length) = false → ∃ t, table keyWidth c.summary.toValue = .ok t ∧
        t.lines.length = 12 + (c.texts.map breaks).sum ∧
        (Summary.ByLine width t ↔ ∀ text ∈ c.texts, ('\n' : CodePoint) ∉ text)) ∧
      ((∀ rule ∈ e.rules, rule.IsStandard) → ∃ t, table keyWidth c.summary.toValue = .ok t ∧
        t.lines.length = 12 + m.name.breaks + m.symbol.breaks ∧
        (Summary.ByLine width t ↔ ('\n' : CodePoint) ∉ m.name ∧ ('\n' : CodePoint) ∉ m.symbol))) ∧
    ∀ results : List Result, 2 ≤ results.length → ∃ t, table keyWidth (report results) = .ok t ∧
      t.lines.length = 2 + results.length + (results.map fun r => ((cutTexts r).map breaks).sum).sum ∧
      (t.lines = heading :: underline :: results.map rowLine ↔
        ∀ r ∈ results, ∀ text ∈ cutTexts r, ('\n' : CodePoint) ∉ text) ∧
      ∀ r ∈ results, ∀ m, Listed m r → ((∀ text ∈ cutTexts r, ('\n' : CodePoint) ∉ text) ↔
        ('\n' : CodePoint) ∉ shownName r.1 ∧ ('\n' : CodePoint) ∉ m.symbol.take rowWidth) := by
  refine ⟨fun e now m c verdict => ?_, fun results several => ?_⟩
  · obtain ⟨refused, shown⟩ := Summary.table_lines c possible
    refine ⟨refused, shown, fun standard => ?_⟩
    have terse := Engine.check_terse standard verdict
    have short := Scalar.isLong_of_small (Nat.le_trans terse.few_results (by decide))
    obtain ⟨t, made, count, byLine⟩ := shown short
    rw [terse.sum_breaks, ← Nat.add_assoc] at count
    exact ⟨t, made, count, byLine.trans terse.texts_unbroken_iff⟩
  · obtain ⟨t, made, count, rows⟩ := report_lines several keyWidth
    exact ⟨t, made, count, rows, fun r _ m listed => listed.cutTexts_unbroken_iff⟩

def firstVerdict (m : Message) : Context := ((Engine.fresh Options.defaults).opening 1 m).judged m

theorem check_firstVerdict (m : Message) : ((Engine.fresh Options.defaults).check 1 m).value.2 = .ok (firstVerdict m) :=
  (Engine.check_of_standard rfl 1 m).1

theorem fresh_standard : ∀ rule ∈ (Engine.fresh Options.defaults).rules, rule.IsStandard :=
  fun rule inside => ⟨rule, inside, rfl⟩

def forged : Message :=
  { shortSymbolMessage with name := "abc\nsymbol               FAKE", symbol := "TNT" }

def forgedData : Value :=
  .map [(.text "name", .text "abc\nsymbol               FAKE"),
    (.text "symbol", .text "TNT"), (.text "decimals", .int 6),
    (.text "initial_balances", .list [])]

theorem reports_by_line_forged :
    checkedWidth 20 = .ok 20 ∧
      (∃ t, table 20 (firstVerdict shortSymbolMessage).summary.toValue = .ok t ∧ t.lines.length = 12 ∧
        Summary.ByLine 20 t) ∧
      (∃ t, table 20 (firstVerdict forged).summary.toValue = .ok t ∧ t.lines.length = 13 ∧ ¬Summary.ByLine 20 t) ∧
      ∃ t, table 20 (report [("a.json", firstVerdict shortSymbolMessage), ("b.json", firstVerdict forged)]) = .ok t ∧
        t.lines = [heading, underline, rowLine ("a.json", firstVerdict shortSymbolMessage),
          rowLine ("b.json", firstVerdict forged)] := by
  have possible : checkedWidth 20 = .ok 20 := rfl
  obtain ⟨summaries, reports⟩ := reports_by_line possible
  obtain ⟨_, _, short⟩ := summaries _ _ _ _ (check_firstVerdict shortSymbolMessage)
  obtain ⟨_, _, broken⟩ := summaries _ _ _ _ (check_firstVerdict forged)
  obtain ⟨t, made, count, byLine⟩ := short fresh_standard
  obtain ⟨t', made', count', byLine'⟩ := broken fresh_standard
  obtain ⟨t'', made'', _, rows, _⟩ :=
    reports [("a.json", firstVerdict shortSymbolMessage), ("b.json", firstVerdict forged)] (Nat.le_refl 2)
  refine ⟨possible, ⟨t, made, count, byLine.mpr (by decide)⟩, ⟨t', made', count', ?_⟩, t'', made'', ?_⟩
  · exact fun same => absurd (byLine'.mp same) (by decide)
  · exact rows.mpr (by decide +kernel)

def forgedLines : List Text :=
  ["name                 abc", "symbol               FAKE", "symbol               TNT", "decimals             6",
    "cap                  -", "minting_policy       disabled", "error                -", "error_kind           -",
    "errors               -", "warnings             -", "rules_passed         3", "rules_total          3",
    "validation_result    approved"]

theorem forged_symbol_line :
    Message.decode forgedData = .good forged ∧
      ((Engine.fresh Options.defaults).check 1 forged).value.2 = .ok (firstVerdict forged) ∧
      (firstVerdict forged).summary.outcome = .approved ∧
      ∃ t, table 20 (firstVerdict forged).summary.toValue = .ok t ∧
        t.lines = forgedLines ∧ ¬Summary.ByLine 20 t := by
  have decoded : Message.decode forgedData = .good forged := by decide +kernel
  have approved : (firstVerdict forged).summary.outcome = .approved := by decide +kernel
  have made : table 20 (firstVerdict forged).summary.toValue = .ok (join "\n" forgedLines) := by decide +kernel
  have split : (join "\n" forgedLines).lines = forgedLines := by decide +kernel
  refine ⟨decoded, check_firstVerdict forged, approved, _, made, split, fun byLine => ?_⟩
  have twelve := byLine.length_eq
  rw [split] at twelve
  exact absurd twelve (by decide +kernel)

end Command.Instantiate

end TokenIntake
