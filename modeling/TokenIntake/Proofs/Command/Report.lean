import TokenIntake.Proofs.Check.Summary
import TokenIntake.Proofs.Command.Check
import TokenIntake.Proofs.Json.Ascii
import TokenIntake.Proofs.Json.Writable
import TokenIntake.Proofs.Yaml.Anchor
import TokenIntake.Proofs.Yaml.Ascii

namespace TokenIntake.Command.Instantiate

open Run MessageFile Render

def shownName (file : Text) : Text := (Path.ofText file).name.take rowWidth

/-- A table of several rows that shows some part of a name which is no UTF-8. -/
def garbled (format : Text) (files : List Text) : Bool :=
  Format.ofLabel? format = some .table && 2 ≤ files.length && files.any fun file => (shownName file).hasSurrogate

variable {fs : Files} {e : Engine} {now : Nat} {r : Result}

theorem Judged.parts (judged : Judged fs e now r) :
    r.2.Whole ∧ r.2.results.length ≤ 3 ∧ ∃ m, r.2.message = some m ∧ m.name.hasSurrogate = false ∧
      m.symbol.hasSurrogate = false := by
  obtain ⟨m, held, result⟩ := judged
  obtain ⟨name, symbol⟩ := whole_of_content held
  have whole : ((e.opening now m).judged m).Whole := (Context.Whole.opening e now m).judged m
  rw [result]
  exact ⟨whole, Context.length_results_judged _ m, m, Context.message_judged _ m, name, symbol⟩

theorem Judged.summary (judged : Judged fs e now r) :
    ∃ es, r.2.summary.toValue = .map es ∧ ∀ e ∈ es, Summary.TidyField e := by
  obtain ⟨whole, few, m, message, name, symbol⟩ := judged.parts
  exact Summary.toValue_tidy whole message name symbol few

def headers : List Scalar := [.text "file", .text "symbol", .text "result", .text "error"]

theorem cellUnder_row (r : Result) :
    cellUnder (row r) (.text "file") = .ok (rowCell (Path.ofText r.1).name) ∧
      cellUnder (row r) (.text "symbol") =
        (cell (Summary.textOrNull (r.2.message.map Message.symbol))).map rowCell ∧
      cellUnder (row r) (.text "result") = .ok (rowCell r.2.summary.outcome.label) ∧
      cellUnder (row r) (.text "error") = (cell (Summary.textOrNull r.2.error)).map rowCell :=
  ⟨rfl, rfl, rfl, rfl⟩

def heading : Text := Text.join " | " (headers.map fun h => Text.padEnd h.display rowWidth)

def underline : Text := List.replicate (headers.length * 17) ('-' : CodePoint)

def rowLine (r : Result) : Text :=
  Text.join " | " ([(Path.ofText r.1).name, (r.2.message.map Message.symbol).getD "-", r.2.summary.outcome.label,
    r.2.error.getD "-"].map rowCell)

theorem row_eq (r : Result) : Render.row headers (row r) = .ok (rowLine r) := by
  obtain ⟨file, symbol, result, error⟩ := cellUnder_row r
  rw [Summary.cell_textOrNull] at symbol error
  simp only [Render.row, headers, List.mapM_cons, List.mapM_nil, file, symbol, result, error]
  rfl

theorem rows_eq (results : List Result) :
    rows headers (results.map row) = .ok (Text.join "\n" (heading :: underline :: results.map rowLine)) := by
  have lines : (results.map row).mapM (Render.row headers) = .ok (results.map rowLine) := by
    rw [List.mapM_map]
    exact mapM_eq_map fun r _ => row_eq r
  rw [Render.rows, lines]
  rfl

theorem table_report {results : List Result} (several : 2 ≤ results.length) (keyWidth : Int) :
    table keyWidth (report results) = .ok (Text.join "\n" (heading :: underline :: results.map rowLine)) := by
  match results, several with
  | r :: next :: rest, _ => exact rows_eq (r :: next :: rest)

theorem hasSurrogate_rowCell (t : Text) : (rowCell t).hasSurrogate = Text.hasSurrogate (t.take rowWidth) :=
  Text.hasSurrogate_padEnd _ _

theorem rowCell_whole {t : Text} (whole : t.hasSurrogate = false) : (rowCell t).hasSurrogate = false := by
  rw [hasSurrogate_rowCell]
  exact Text.hasSurrogate_of_subset (List.take_subset _ _) whole

theorem hasSurrogate_rowLine (judged : Judged fs e now r) :
    (rowLine r).hasSurrogate = (shownName r.1).hasSurrogate := by
  obtain ⟨whole, _, m, message, _, symbol⟩ := judged.parts
  have outcome : Text.hasSurrogate r.2.summary.outcome.label = false := by
    cases r.2.summary.outcome <;> decide
  have error : (r.2.error.getD "-").hasSurrogate = false := by
    cases recorded : r.2.error with
    | none => decide
    | some t => exact whole.error t recorded
  rw [rowLine, Text.hasSurrogate_join (by decide)]
  simp only [List.map_cons, List.map_nil, List.any_cons, List.any_nil, hasSurrogate_rowCell (Path.ofText r.1).name,
    message, Option.map_some, Option.getD_some, rowCell_whole symbol, rowCell_whole outcome, rowCell_whole error,
    Bool.or_false]
  rfl

theorem hasSurrogate_rowLines {results : List Result} (judged : ∀ r ∈ results, Judged fs e now r) :
    (Text.join "\n" (heading :: underline :: results.map rowLine)).hasSurrogate =
      (results.map Prod.fst).any fun file => (shownName file).hasSurrogate := by
  have head : heading.hasSurrogate = false ∧ underline.hasSurrogate = false := by decide
  rw [Text.hasSurrogate_join (by decide), List.any_cons, List.any_cons, head.1, head.2, List.any_map, List.any_map,
    Bool.false_or, Bool.false_or, Bool.eq_iff_iff, List.any_eq_true, List.any_eq_true]
  exact exists_congr fun r => and_congr_right fun inside => by
    rw [Function.comp_apply, Function.comp_apply, hasSurrogate_rowLine (judged r inside)]

theorem row_plain (r : Result) : (row r).Plain ∧ (row r).depth ≤ 1 := by
  have scalars : ∀ e ∈ [(Scalar.text "file", Value.text (Path.ofText r.1).name),
      (.text "symbol", Summary.textOrNull (r.2.message.map Message.symbol)),
      (.text "result", .text r.2.summary.outcome.label), (.text "error", Summary.textOrNull r.2.error)],
      (∃ t, e.1 = .text t) ∧ e.2.Plain ∧ e.2.depth ≤ 0 := by
    have optional : ∀ o, (Summary.textOrNull o).Plain ∧ (Summary.textOrNull o).depth ≤ 0 := by
      intro o
      cases o with
      | none => exact ⟨.scalar rfl, Nat.le_refl 0⟩
      | some t => exact ⟨.text t, Nat.le_refl 0⟩
    simp only [List.forall_mem_cons]
    exact ⟨⟨⟨_, rfl⟩, .text _, Nat.le_refl 0⟩, ⟨⟨_, rfl⟩, optional _⟩, ⟨⟨_, rfl⟩, .text _, Nat.le_refl 0⟩,
      ⟨⟨_, rfl⟩, optional _⟩, by simp⟩
  exact ⟨.map (fun e inside => (scalars e inside).1) fun e inside => (scalars e inside).2.1,
    Value.depth_map_le fun e inside => (scalars e inside).2.2⟩

theorem report_plain {results : List Result} (judged : ∀ r ∈ results, Judged fs e now r) :
    (report results).Plain ∧ (report results).depth ≤ 2 := by
  have several : ∀ rs : List Result, (Value.list (rs.map row)).Plain ∧ (Value.list (rs.map row)).depth ≤ 2 := by
    intro rs
    have each : ∀ x ∈ rs.map row, x.Plain ∧ x.depth ≤ 1 := by
      intro x inside
      obtain ⟨r, _, rfl⟩ := List.mem_map.mp inside
      exact row_plain r
    exact ⟨.list fun x inside => (each x inside).1, Value.depth_list_le fun x inside => (each x inside).2⟩
  unfold report
  split
  · rename_i r
    obtain ⟨es, summary, tidy⟩ := (judged r List.mem_cons_self).summary
    rw [summary]
    refine ⟨.map (fun e inside => ?_) fun e inside => (tidy e inside).2.plain,
      Value.depth_map_le fun e inside => (tidy e inside).2.depth⟩
    obtain ⟨⟨t, named, _⟩, _⟩ := tidy e inside
    exact ⟨t, named⟩
  · exact several results

theorem render_report {s : Session} (known : (Format.ofLabel? s.format).isSome = true) {results : List Result}
    (judged : ∀ r ∈ results, Judged fs e now r) :
    ∃ t, s.render none (report results) = .ok t ∧ t.hasSurrogate = garbled s.format (results.map Prod.fst) := by
  obtain ⟨plain, shallow⟩ := report_plain judged
  obtain ⟨format, label⟩ := Option.isSome_iff_exists.mp known
  have rendered : s.render none (report results) = Render.render format defaultKeyWidth (report results) := by
    simp only [Session.render, renderAs, label]
  rw [rendered]
  unfold garbled
  rw [label]
  cases format with
  | json =>
    obtain ⟨t, printed⟩ := (Json.print_ok_iff_of_plain plain).mpr (Nat.le_trans shallow (by decide))
    exact ⟨t, by rw [Render.render, printed]; rfl, (Json.print_legible printed).hasSurrogate⟩
  | yaml =>
    obtain ⟨t, printed⟩ := Yaml.print_ok plain (Nat.lt_of_le_of_lt shallow (by decide))
    exact ⟨t, by rw [Render.render, printed]; rfl, (Yaml.print_legible printed).hasSurrogate⟩
  | table =>
    rw [Render.render]
    cases results with
    | nil => exact ⟨[], rfl, rfl⟩
    | cons r rest =>
      cases rest with
      | nil =>
        obtain ⟨es, summary, tidy⟩ := (judged r List.mem_cons_self).summary
        have width : checkedWidth defaultKeyWidth = .ok 20 := rfl
        obtain ⟨t, shown, whole⟩ := table_of_tidy width tidy
        exact ⟨t, by rw [report, summary]; exact shown, whole⟩
      | cons next more =>
        refine ⟨_, rows_eq (r :: next :: more), ?_⟩
        rw [hasSurrogate_rowLines judged]
        have several : 2 ≤ ((r :: next :: more).map Prod.fst).length := by
          rw [List.length_map]
          exact Nat.le_add_left 2 more.length
        simp only [several]
        rfl

end TokenIntake.Command.Instantiate
