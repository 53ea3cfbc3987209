import Mathlib.Data.List.Forall2
import TokenIntake.Proofs.Yaml.Anchor

namespace TokenIntake

theorem Scalar.canBeShared_of_isPlain {s : Scalar} (plain : s.isPlain = true) :
    Graph.canBeShared (.scalar s) = false := by
  cases s with
  | time t => cases plain
  | _ => rfl

namespace Yaml

namespace Pen

/-- The same pen on paper on which something is written already. -/
def behind (p : Pen) (before : Text) : Pen := { p with written := p.written ++ before }

variable {p : Pen} {before : Text}

theorem text_behind : (p.behind before).text = before.reverse ++ p.text := List.reverse_append

@[simp] theorem put_behind (t : Text) : (p.behind before).put t = (p.put t).behind before := by
  simp only [put, behind, List.append_assoc]

@[simp] theorem lineBreak_behind : (p.behind before).lineBreak = p.lineBreak.behind before := rfl

@[simp] theorem inText_behind : (p.behind before).inText = p.inText.behind before := rfl

@[simp] theorem column_behind : (p.behind before).column = p.column := rfl

theorem ite_behind (c : Prop) [Decidable c] (p q : Pen) :
    (if c then p.behind before else q.behind before) = (if c then p else q).behind before := by
  split <;> rfl

@[simp] theorem indent_behind (n : Nat) : (p.behind before).indent n = (p.indent n).behind before := by
  have filled : ∀ q : Pen, (if (q.behind before).column < n then
      { (q.behind before).put (Text.spaces (n - (q.behind before).column)) with blank := true } else q.behind before) =
      (if q.column < n then { q.put (Text.spaces (n - q.column)) with blank := true } else q).behind before := by
    intro q
    rw [← ite_behind, put_behind]
    rfl
  unfold Pen.indent
  dsimp only
  rw [lineBreak_behind, ite_behind]
  exact filled _

@[simp] theorem indicator_behind (t : Text) (apart blank indention : Bool) :
    (p.behind before).indicator t apart blank indention = (p.indicator t apart blank indention).behind before := by
  simp [indicator, behind, put]

@[simp] theorem plainParts_behind (fold : Bool) (ind : Nat) (parts : List (Bool × Text)) :
    (p.behind before).plainParts fold ind parts = (p.plainParts fold ind parts).behind before := by
  induction parts generalizing p with
  | nil => rfl
  | cons part rest ih =>
    rw [plainParts, plainParts, column_behind]
    split
    · rw [indent_behind, inText_behind, ih]
    · rw [put_behind, ih]

@[simp] theorem plain_behind (t : Text) (fold : Bool) (ind : Nat) :
    (p.behind before).plain t fold ind = (p.plain t fold ind).behind before := by
  have apart : (if (p.behind before).blank then p.behind before else (p.behind before).put " ") =
      (if p.blank then p else p.put " ").behind before := by
    rw [put_behind]
    exact ite_behind _ _ _
  unfold Pen.plain
  split
  · rfl
  · dsimp only
    rw [apart, inText_behind, plainParts_behind]

@[simp] theorem breaks_behind (part : Text) :
    part.foldl (fun q _ => q.lineBreak) (p.behind before) = (part.foldl (fun q _ => q.lineBreak) p).behind before := by
  induction part generalizing p with
  | nil => rfl
  | cons c part ih => rw [List.foldl_cons, List.foldl_cons, lineBreak_behind, ih]

@[simp] theorem singleParts_behind (fold : Bool) (ind : Nat) (first : Bool) (parts : List (Kind × Text)) :
    (p.behind before).singleParts fold ind first parts = (p.singleParts fold ind first parts).behind before := by
  induction parts generalizing p first with
  | nil => rfl
  | cons part rest ih =>
    obtain ⟨kind, t⟩ := part
    cases kind with
    | space =>
      rw [singleParts, singleParts, column_behind]
      split
      · rw [indent_behind, ih]
      · rw [put_behind, ih]
    | «break» => rw [singleParts, singleParts, lineBreak_behind, breaks_behind, indent_behind, ih]
    | mark => rw [singleParts, singleParts, put_behind, ih]
    | other => rw [singleParts, singleParts, put_behind, ih]

@[simp] theorem singleQuoted_behind (t : Text) (fold : Bool) (ind : Nat) :
    (p.behind before).singleQuoted t fold ind = (p.singleQuoted t fold ind).behind before := by
  simp only [singleQuoted, indicator_behind, singleParts_behind]

theorem backslash_behind (needed : Bool) :
    (if needed then (p.behind before).put "\\" else p.behind before) =
      (if needed then p.put "\\" else p).behind before := by
  rw [put_behind]
  exact ite_behind _ _ _

@[simp] theorem doubleParts_behind (fold : Bool) (ind last i : Nat) (held t : Text) :
    (p.behind before).doubleParts fold ind last i held t = (p.doubleParts fold ind last i held t).behind before := by
  induction t generalizing p i held with
  | nil => exact put_behind _
  | cons c rest ih =>
    rw [doubleParts, doubleParts]
    cases escape? c with
    | some e =>
      dsimp only
      rw [put_behind, put_behind, column_behind]
      split
      · rw [put_behind, indent_behind, inText_behind, backslash_behind, ih]
      · exact ih _ _
    | none =>
      dsimp only
      rw [column_behind]
      split
      · rw [put_behind, put_behind, indent_behind, inText_behind, backslash_behind, ih]
      · exact ih _ _

@[simp] theorem doubleQuoted_behind (t : Text) (fold : Bool) (ind : Nat) :
    (p.behind before).doubleQuoted t fold ind = (p.doubleQuoted t fold ind).behind before := by
  simp only [doubleQuoted, indicator_behind, doubleParts_behind]

theorem indention_indicator (t : Text) (apart blank : Bool) : (p.indicator t apart blank).indention = false :=
  Bool.and_false _

theorem indention_plainParts (bare : p.indention = false) (fold : Bool) (ind : Nat) (parts : List (Bool × Text)) :
    (p.plainParts fold ind parts).indention = false := by
  induction parts generalizing p with
  | nil => exact bare
  | cons part rest ih =>
    rw [plainParts]
    split
    · exact ih rfl
    · exact ih bare

theorem indention_plain (bare : p.indention = false) (t : Text) (fold : Bool) (ind : Nat) :
    (p.plain t fold ind).indention = false := by
  unfold Pen.plain
  split
  · exact bare
  · exact indention_plainParts rfl fold ind _

theorem indent_zero (bare : p.indention = false) : p.indent 0 = p.lineBreak := by
  simp [Pen.indent, bare, lineBreak]

theorem lineBreak_eq_behind : p.lineBreak = fresh.behind (('\n' : CodePoint) :: p.written) := rfl

end Pen

section Scalars

variable {p : Pen} {before : Text} {s : Scalar}

theorem writeText_behind (indent : Nat) (simpleKey resolves : Bool) (t : Text) :
    writeText (p.behind before) indent simpleKey resolves t =
      (writeText p indent simpleKey resolves t).behind before := by
  unfold writeText
  split
  · exact Pen.plain_behind _ _ _
  · exact Pen.singleQuoted_behind _ _ _
  · exact Pen.doubleQuoted_behind _ _ _

theorem indention_writeText (bare : p.indention = false) (indent : Nat) (simpleKey resolves : Bool) (t : Text) :
    (writeText p indent simpleKey resolves t).indention = false := by
  unfold writeText
  split
  · exact Pen.indention_plain bare _ _ _
  · exact Pen.indention_indicator _ _ _
  · exact Pen.indention_indicator _ _ _

theorem writeScalar_of_isPlain (plain : s.isPlain = true) (p : Pen) (indent : Option Nat) (place : Place) :
    writeScalar p indent place s =
      writeText p ((indent.map (· + 2)).getD 2) (place = .key) (resolve (scalarText s) = tagOf s) (scalarText s) := by
  cases s with
  | bytes bs => cases plain
  | _ => rfl

theorem writeScalar_behind (plain : s.isPlain = true) (indent : Option Nat) (place : Place) :
    writeScalar (p.behind before) indent place s = (writeScalar p indent place s).behind before := by
  rw [writeScalar_of_isPlain plain, writeScalar_of_isPlain plain, writeText_behind]

theorem indention_writeScalar (plain : s.isPlain = true) (bare : p.indention = false) (indent : Option Nat)
    (place : Place) : (writeScalar p indent place s).indention = false := by
  rw [writeScalar_of_isPlain plain]
  exact indention_writeText bare _ _ _ _

def Pen.name (p : Pen) (key : Text) : Pen :=
  (writeScalar (p.indent 0) (some 0) .key (.text key)).indicator ":" false

def Pen.entry (p : Pen) (key : Text) (s : Scalar) : Pen := writeScalar (p.name key) (some 0) .value s

def entryText (key : Text) (s : Scalar) : Text := (Pen.fresh.entry key s).text

theorem Pen.entry_behind (plain : s.isPlain = true) (key : Text) :
    (p.behind before).entry key s = (p.entry key s).behind before := by
  rw [Pen.entry, Pen.name, Pen.indent_behind, writeScalar_behind rfl, Pen.indicator_behind, writeScalar_behind plain]
  rfl

theorem Pen.indention_entry (plain : s.isPlain = true) (p : Pen) (key : Text) : (p.entry key s).indention = false :=
  indention_writeScalar plain (Pen.indention_indicator _ _ _) _ _

theorem Pen.text_entry (plain : s.isPlain = true) (bare : p.indention = false) (key : Text) :
    (p.entry key s).text = p.text ++ "\n" ++ entryText key s := by
  have same : p.entry key s = p.lineBreak.entry key s := by
    rw [Pen.entry, Pen.name, Pen.indent_zero bare]
    rfl
  rw [same, Pen.lineBreak_eq_behind, Pen.entry_behind plain, Pen.text_behind, List.reverse_cons]
  rfl

theorem Pen.text_entries {es : List (Text × Scalar)} (plain : ∀ e ∈ es, e.2.isPlain = true)
    (bare : p.indention = false) :
    (es.foldl (fun p e => p.entry e.1 e.2) p).indention = false ∧
      (es.foldl (fun p e => p.entry e.1 e.2) p).text =
        Text.join "\n" (p.text :: es.map fun e => entryText e.1 e.2) := by
  induction es generalizing p with
  | nil => exact ⟨bare, rfl⟩
  | cons e es ih =>
    obtain ⟨now, later⟩ := List.forall_mem_cons.mp plain
    obtain ⟨ended, written⟩ := ih later (Pen.indention_entry now p e.1)
    refine ⟨ended, ?_⟩
    rw [List.foldl_cons, written, Pen.text_entry now bare, List.map_cons]
    cases es with
    | nil => rfl
    | cons e' es => simp only [Text.join, List.map_cons, List.append_assoc]

end Scalars

section Table

variable {g g' : Graph} {e : Text × Scalar} {n : Nat × Nat}

def Stands (g : Graph) (e : Text × Scalar) (n : Nat × Nat) : Prop :=
  g.cells[n.1]? = some (.scalar (.text e.1)) ∧ g.cells[n.2]? = some (.scalar e.2)

theorem Stands.mono (stands : Stands g e n) (more : g.Extends g') : Stands g' e n :=
  ⟨more _ _ stands.1, more _ _ stands.2⟩

def flat (es : List (Text × Scalar)) : Mapping := es.map fun e => (.text e.1, .scalar e.2)

theorem addEntries_flat (es : List (Text × Scalar)) (g : Graph) :
    g.Extends (g.addEntries (flat es)).1 ∧
      List.Forall₂ (Stands (g.addEntries (flat es)).1) es (g.addEntries (flat es)).2 := by
  induction es generalizing g with
  | nil => exact ⟨.refl g, .nil⟩
  | cons e es ih =>
    obtain ⟨key, s⟩ := e
    let named := g.add (.scalar (.text key))
    let valued := named.1.add (.scalar s)
    have before : g.Extends valued.1 := (Graph.extends_add g _).trans (Graph.extends_add named.1 _)
    have here : Stands valued.1 (key, s) (named.2, valued.2) :=
      ⟨Graph.extends_add named.1 _ _ _ (Graph.cell_add g _), Graph.cell_add named.1 _⟩
    obtain ⟨behind, others⟩ := ih valued.1
    exact ⟨before.trans behind, .cons (here.mono behind) others⟩

variable {es : List (Text × Scalar)} {ns : List (Nat × Nat)}

theorem meetFrom_isPlain {n : Nat} {s : Scalar} (here : g.cells[n]? = some (.scalar s)) (plain : s.isPlain = true)
    (room : Nat) (m : Meetings) :
    Meetings.meetFrom g room m n = .ok { m with met := m.met.setIfInBounds n true } := by
  unfold Meetings.meetFrom
  rw [Graph.cell_of_getElem? here]
  dsimp only
  rw [Scalar.canBeShared_of_isPlain plain, Scalar.isLong_of_isPlain plain]
  rfl

theorem meetEntries_flat (stand : List.Forall₂ (Stands g) es ns) (plain : ∀ e ∈ es, e.2.isPlain = true) (room : Nat)
    (m : Meetings) :
    ∃ m', ns.foldlM (fun m e => do Meetings.meetFrom g room (← Meetings.meetFrom g room m e.1) e.2) m = .ok m' ∧
      m'.again = m.again := by
  induction stand generalizing m with
  | nil => exact ⟨m, rfl, rfl⟩
  | @cons e n es ns here _ ih =>
    obtain ⟨now, later⟩ := List.forall_mem_cons.mp plain
    have key := meetFrom_isPlain here.1 rfl room m
    have value := meetFrom_isPlain here.2 now room ⟨m.met.setIfInBounds n.1 true, m.again⟩
    obtain ⟨m', met, same⟩ := ih later ⟨(m.met.setIfInBounds n.1 true).setIfInBounds n.2 true, m.again⟩
    refine ⟨m', ?_, same⟩
    rw [List.foldlM_cons, key]
    exact (congrArg (· >>= _) value).trans met

theorem alias?_isPlain {n : Nat} {s : Scalar} (here : g.cells[n]? = some (.scalar s)) (plain : s.isPlain = true)
    (sheet : Sheet) (anchors : Anchors) : sheet.alias? g anchors n = none := by
  unfold Sheet.alias?
  rw [Graph.cell_of_getElem? here, Scalar.canBeShared_of_isPlain plain]
  rfl

theorem writeName_flat {n : Nat} {t : Text} (here : g.cells[n]? = some (.scalar (.text t)))
    (simple : isSimpleKey (.text t) = true) (sheet : Sheet) :
    (sheet.writeName g [] 0 n).pen = sheet.pen.name t := by
  have key : g.keyAt n = .text t := by
    rw [Graph.keyAt, Graph.cell_of_getElem? here]
  unfold Sheet.writeName
  dsimp only
  rw [key, if_pos simple, Sheet.writeKey, alias?_isPlain here rfl, key]
  rfl

theorem write_flat {n : Nat} {s : Scalar} (here : g.cells[n]? = some (.scalar s)) (plain : s.isPlain = true)
    (fuel : Nat) (place : Place) (sheet : Sheet) :
    (Sheet.write g [] (fuel + 1) (some 0) place sheet n).pen = writeScalar sheet.pen (some 0) place s := by
  rw [Sheet.write, alias?_isPlain here plain, Graph.cell_of_getElem? here]
  rfl

theorem writeMembers_flat (stand : List.Forall₂ (Stands g) es ns) (plain : ∀ e ∈ es, e.2.isPlain = true)
    (simple : ∀ e ∈ es, isSimpleKey (.text e.1) = true) (fuel : Nat) (sheet : Sheet) :
    (ns.foldl (fun sheet e => Sheet.write g [] (fuel + 1) (some 0) .value (sheet.writeName g [] 0 e.1) e.2)
      sheet).pen = es.foldl (fun p e => p.entry e.1 e.2) sheet.pen := by
  induction stand generalizing sheet with
  | nil => rfl
  | cons here _ ih =>
    obtain ⟨now, later⟩ := List.forall_mem_cons.mp plain
    obtain ⟨nowSimple, laterSimple⟩ := List.forall_mem_cons.mp simple
    rw [List.foldl_cons, ih later laterSimple, write_flat here.2 now, writeName_flat here.1 nowSimple]
    rfl

theorem meetFrom_map {n : Nat} (here : g.cells[n]? = some (.map ns)) {m : Meetings}
    (fresh : m.met[n]?.getD false = false) (room : Nat) :
    Meetings.meetFrom g (room + 1) m n =
      ns.foldlM (fun m e => do Meetings.meetFrom g room (← Meetings.meetFrom g room m e.1) e.2)
        ⟨m.met.setIfInBounds n true, m.again⟩ := by
  rw [Meetings.meetFrom, Graph.cell_of_getElem? here]
  dsimp only
  rw [fresh, Bool.and_false]
  rfl

theorem anchors_flat (root : g.cells[g.root]? = some (.map ns)) (stand : List.Forall₂ (Stands g) es ns)
    (plain : ∀ e ∈ es, e.2.isPlain = true) : Anchors.ofGraph g = .ok [] := by
  have fresh : (Array.replicate g.cells.size false)[g.root]?.getD false = false := by
    rw [Array.getElem?_replicate]
    split <;> rfl
  obtain ⟨m, met, again⟩ := meetEntries_flat stand plain (Meetings.maxNesting - 1)
    ⟨(Array.replicate g.cells.size false).setIfInBounds g.root true, []⟩
  have all : Meetings.meetFrom g Meetings.maxNesting ⟨Array.replicate g.cells.size false, []⟩ g.root = .ok m :=
    (meetFrom_map root fresh _).trans met
  unfold Anchors.ofGraph
  rw [all]
  exact congrArg (fun ns : List Nat => Except.ok ns.reverse) again

theorem write_root {n : Nat} (root : g.cells[n]? = some (.map ns)) (stand : List.Forall₂ (Stands g) es ns)
    (some : es ≠ []) (plain : ∀ e ∈ es, e.2.isPlain = true) (simple : ∀ e ∈ es, isSimpleKey (.text e.1) = true)
    {sheet : Sheet} (fresh : sheet.written[n]?.getD false = false) (fuel : Nat) :
    (Sheet.write g [] (fuel + 2) none .root sheet n).pen = es.foldl (fun p e => p.entry e.1 e.2) sheet.pen := by
  have unaliased : sheet.alias? g [] n = none := by
    unfold Sheet.alias?
    rw [fresh, Bool.and_false]
    rfl
  have members : ns.isEmpty = false := by
    cases stand with
    | nil => exact absurd rfl some
    | cons => rfl
  rw [Sheet.write, unaliased, Graph.cell_of_getElem? root]
  dsimp only
  rw [Sheet.writeMembers, members]
  exact writeMembers_flat stand plain simple fuel (sheet.begin [] n)

theorem text_flat (some : es ≠ []) (plain : ∀ e ∈ es, e.2.isPlain = true) :
    ((es.foldl (fun p e => p.entry e.1 e.2) Pen.fresh).indent 0).text =
      Text.join "\n" (es.map fun e => entryText e.1 e.2) ++ "\n" := by
  obtain ⟨e, es, rfl⟩ := List.exists_cons_of_ne_nil some
  obtain ⟨now, later⟩ := List.forall_mem_cons.mp plain
  obtain ⟨bare, text⟩ := Pen.text_entries later (Pen.indention_entry now Pen.fresh e.1)
  rw [List.foldl_cons, Pen.indent_zero bare, List.map_cons]
  exact List.reverse_cons.trans (congrArg (fun t : Text => t ++ ("\n" : Text)) text)

theorem dropEndWhile_lineBreak {t : Text} {c : CodePoint} (whole : c.is '\n' = false) :
    Text.dropEndWhile (t ++ [c] ++ "\n") (CodePoint.is '\n') = t ++ [c] := by
  have last : (t ++ [c] ++ ("\n" : Text)).reverse = ('\n' : CodePoint) :: c :: t.reverse := by
    rw [List.reverse_append, List.reverse_append]
    rfl
  rw [Text.dropEndWhile, last, List.dropWhile_cons_of_pos (by decide), List.dropWhile_cons_of_neg (by simp [whole]),
    List.reverse_cons, List.reverse_reverse]

theorem print_flat (some : es ≠ []) (plain : ∀ e ∈ es, e.2.isPlain = true)
    (simple : ∀ e ∈ es, isSimpleKey (.text e.1) = true) :
    print (.map (flat es)) =
      .ok (Text.dropEndWhile (Text.join "\n" (es.map fun e => entryText e.1 e.2) ++ "\n") (CodePoint.is '\n')) := by
  obtain ⟨_, stand⟩ := addEntries_flat es ⟨#[], 0⟩
  let table := (Graph.addEntries ⟨#[], 0⟩ (flat es)).1
  let numbers := (Graph.addEntries ⟨#[], 0⟩ (flat es)).2
  let g : Graph := Graph.ofValue (.map (flat es))
  have last : table.Extends g := Graph.extends_add table (.map numbers)
  have root : g.cells[g.root]? = Option.some (.map numbers) := Graph.cell_add table (.map numbers)
  have placed : List.Forall₂ (Stands g) es numbers := stand.imp fun _ _ here => here.mono last
  have unwritten : (Array.replicate g.cells.size false)[g.root]?.getD false = false := by
    rw [Array.getElem?_replicate]
    split <;> rfl
  have size : g.cells.size = table.cells.size + 1 := Array.size_push _
  have written : (Sheet.write g [] (g.cells.size + 1) none .root ⟨Pen.fresh, Array.replicate g.cells.size false⟩
      g.root).pen = es.foldl (fun p e => p.entry e.1 e.2) Pen.fresh := by
    rw [size]
    rw [size] at unwritten
    exact write_root root placed some plain simple unwritten _
  have opened : isOpenEnded (g.cell g.root) = false := by rw [Graph.cell_of_getElem? root]; rfl
  unfold print
  dsimp only
  rw [anchors_flat root placed plain]
  dsimp only [bind, Except.bind]
  rw [written, opened, text_flat some plain]
  rfl

end Table

end Yaml

end TokenIntake
