import TokenIntake.Proofs.Except
import TokenIntake.Proofs.Text.Ascii
import TokenIntake.Yaml.Writer

namespace TokenIntake

open Text

theorem Text.subset_of_mem_runs {κ : Type} [DecidableEq κ] (kind : CodePoint → κ) {t : Text} {run : κ × Text}
    (isRun : run ∈ runs kind t) : run.2 ⊆ t := by
  induction t generalizing run with
  | nil => cases isRun
  | cons c rest ih =>
    rw [runs] at isRun
    cases later : runs kind rest with
    | nil =>
      rw [later] at isRun
      rw [List.mem_singleton.mp isRun]
      simp
    | cons first more =>
      rw [later] at isRun ih
      have inRest : ∀ other ∈ first :: more, other.2 ⊆ c :: rest := fun other inside =>
        List.subset_cons_of_subset c (ih inside)
      dsimp only at isRun
      split at isRun
      · rcases List.mem_cons.mp isRun with rfl | later
        · exact List.cons_subset.mpr ⟨List.mem_cons_self, inRest first List.mem_cons_self⟩
        · exact inRest run (List.mem_cons_of_mem first later)
      · rcases List.mem_cons.mp isRun with rfl | later
        · simp
        · exact inRest run later

theorem Base64.isLegible_letter (n : Nat) : (letter n).isLegible = true := by
  have alphabet : Legible "ABCDEFGHIJKLMNOPQRSTUVWXYZabcdefghijklmnopqrstuvwxyz0123456789+/" := by decide
  unfold letter
  cases found : ("ABCDEFGHIJKLMNOPQRSTUVWXYZabcdefghijklmnopqrstuvwxyz0123456789+/" : Text)[n]? with
  | none => decide
  | some c => exact alphabet c (List.mem_of_getElem? found)

theorem Base64.legible_encode (bytes : List UInt8) : Legible (encode bytes) := by
  have padding : Legible ['=', '='] := by decide
  fun_induction encode bytes with
  | case1 a b c rest ih => simp only [legible_cons, isLegible_letter, ih, and_self]
  | case2 a b => simpa only [legible_cons, isLegible_letter, true_and] using ((legible_cons _ _).mp padding).2
  | case3 a => simpa only [legible_cons, isLegible_letter, true_and] using padding
  | case4 => exact legible_nil

theorem Base64.legible_encodeLines (bytes : List UInt8) : ∀ line ∈ encodeLines bytes, Legible line := by
  intro line inside
  obtain ⟨piece, _, rfl⟩ := List.mem_map.mp inside
  exact legible_encode piece

namespace Yaml

theorem isLegible_of_isPlainChar {c : CodePoint} (plain : isPlainChar c = true) : c.isLegible = true := by
  simp only [isPlainChar, CodePoint.is, Bool.or_eq_true, Bool.and_eq_true, decide_eq_true_eq] at plain
  rcases plain with rfl | ⟨least, most⟩
  · decide
  · exact CodePoint.isLegible_of_range (by omega) (by omega)

theorem legible_of_special {t : Text} (special : (!t.all isPlainChar) = false) : Legible t := fun c inside =>
  isLegible_of_isPlainChar (List.all_eq_true.mp (by simpa using special) c inside)

theorem legible_of_style {resolves simpleKey : Bool} {t : Text} (bare : style resolves simpleKey t ≠ .doubleQuoted) :
    Legible t := by
  cases t with
  | nil => exact legible_nil
  | cons c rest =>
    by_cases special : (!(c :: rest).all isPlainChar) = false
    · exact legible_of_special special
    · refine absurd ?_ bare
      rw [Bool.not_eq_false] at special
      simp only [style, analyze, special, Bool.or_true, Bool.true_or, Bool.not_true, Bool.and_false, Bool.false_and,
        Bool.false_eq_true, if_false]

namespace Pen

variable {p : Pen}

def Legible (p : Pen) : Prop := Text.Legible p.written

theorem legible_fresh : fresh.Legible := legible_nil

theorem Legible.text (legible : p.Legible) : Text.Legible p.text := (legible_reverse _).mpr legible

theorem Legible.put (legible : p.Legible) {t : Text} (more : Text.Legible t) : (p.put t).Legible :=
  (legible_append _ _).mpr ⟨(legible_reverse t).mpr more, legible⟩

theorem Legible.lineBreak (legible : p.Legible) : p.lineBreak.Legible := (legible_cons _ _).mpr ⟨by decide, legible⟩

theorem Legible.inText (legible : p.Legible) : p.inText.Legible := legible

theorem Legible.indent (legible : p.Legible) (n : Nat) : (p.indent n).Legible := by
  have filled : ∀ q : Pen, q.Legible →
      (if q.column < n then { q.put (spaces (n - q.column)) with blank := true } else q).Legible := by
    intro q before
    split
    · exact before.put (legible_spaces _)
    · exact before
  refine filled _ ?_
  split
  · exact legible.lineBreak
  · exact legible

theorem Legible.indicator (legible : p.Legible) {t : Text} (more : Text.Legible t) (apart blank indention : Bool) :
    (p.indicator t apart blank indention).Legible := by
  unfold Pen.indicator
  refine Legible.put legible ?_
  split
  · exact more
  · exact (legible_cons _ _).mpr ⟨by decide, more⟩

theorem Legible.plainParts (legible : p.Legible) (fold : Bool) (ind : Nat) (parts : List (Bool × Text))
    (each : ∀ part ∈ parts, Text.Legible part.2) : (p.plainParts fold ind parts).Legible := by
  induction parts generalizing p with
  | nil => exact legible
  | cons part rest ih =>
    have others := fun other inside => each other (List.mem_cons_of_mem part inside)
    rw [Pen.plainParts]
    split
    · exact ih (legible.indent ind).inText others
    · exact ih (legible.put (each part List.mem_cons_self)) others

theorem Legible.plain (legible : p.Legible) {t : Text} (more : Text.Legible t) (fold : Bool) (ind : Nat) :
    (p.plain t fold ind).Legible := by
  have apart : (if p.blank then p else p.put " ").Legible := by
    split
    · exact legible
    · exact legible.put (by decide)
  unfold Pen.plain
  split
  · exact legible
  · exact apart.inText.plainParts fold ind _ fun part isRun => more.subset (subset_of_mem_runs _ isRun)

theorem Legible.breaks (legible : p.Legible) (part : Text) : (part.foldl (fun p _ => p.lineBreak) p).Legible :=
  List.foldlRecOn part _ legible fun _ before _ _ => before.lineBreak

theorem Legible.singleParts (legible : p.Legible) (fold : Bool) (ind : Nat) (first : Bool) (parts : List (Kind × Text))
    (each : ∀ part ∈ parts, Text.Legible part.2) : (p.singleParts fold ind first parts).Legible := by
  induction parts generalizing p first with
  | nil => exact legible
  | cons part rest ih =>
    have others := fun other inside => each other (List.mem_cons_of_mem part inside)
    obtain ⟨kind, t⟩ := part
    have now : Text.Legible t := each (kind, t) List.mem_cons_self
    cases kind with
    | space =>
      rw [Pen.singleParts]
      split
      · exact ih (legible.indent ind) false others
      · exact ih (legible.put now) false others
    | «break» => exact ih ((legible.lineBreak.breaks t).indent ind) false others
    | mark => exact ih (legible.put ((legible_append t t).mpr ⟨now, now⟩)) false others
    | other => exact ih (legible.put now) false others

theorem Legible.singleQuoted (legible : p.Legible) {t : Text} (more : Text.Legible t) (fold : Bool) (ind : Nat) :
    (p.singleQuoted t fold ind).Legible := by
  have opened := legible.indicator (t := "'") (by decide) true false false
  have inside := opened.singleParts fold ind true _ fun part isRun => more.subset (subset_of_mem_runs Pen.kind isRun)
  exact inside.indicator (by decide) false false false

theorem isLegible_of_escape_none {c : CodePoint} (plain : escape? c = none) : c.isLegible = true := by
  unfold escape? at plain
  split at plain
  · cases plain
  · split at plain
    · rename_i printable
      simp only [Bool.and_eq_true, decide_eq_true_eq] at printable
      exact CodePoint.isLegible_of_range (by omega) (by omega)
    · split at plain
      · cases plain
      · split at plain <;> cases plain

theorem legible_escape {c : CodePoint} {e : Text} (escaped : escape? c = some e) : Text.Legible e := by
  have letter : ∀ pair ∈ letters, (CodePoint.ofChar pair.2).isLegible = true := by decide
  unfold escape? at escaped
  split at escaped
  · rename_i pair found
    cases escaped
    simpa using ⟨by decide, letter _ (List.mem_of_find?_eq_some found)⟩
  · split at escaped
    · cases escaped
    · split at escaped
      · cases escaped
        exact (legible_append _ _).mpr ⟨by decide, legible_upperHex _ _⟩
      · split at escaped
        · cases escaped
          exact (legible_append _ _).mpr ⟨by decide, legible_upperHex _ _⟩
        · cases escaped
          exact (legible_append _ _).mpr ⟨by decide, legible_upperHex _ _⟩

theorem Legible.backslash (legible : p.Legible) (needed : Bool) : (if needed then p.put "\\" else p).Legible := by
  split
  · exact legible.put (by decide)
  · exact legible

theorem Legible.doubleParts (legible : p.Legible) (fold : Bool) (ind last i : Nat) {held : Text}
    (waiting : Text.Legible held) (t : Text) : (p.doubleParts fold ind last i held t).Legible := by
  -- what is held is not on the paper yet, so it is a part of the invariant
  induction t generalizing p i held with
  | nil => exact legible.put ((legible_reverse held).mpr waiting)
  | cons c rest ih =>
    have released := legible.put ((legible_reverse held).mpr waiting)
    rw [Pen.doubleParts]
    cases escaped : escape? c with
    | some e =>
      have written := released.put (legible_escape escaped)
      dsimp only
      split
      · exact ih (((written.put (by decide)).indent ind).inText.backslash _) (i + 1) legible_nil
      · exact ih written (i + 1) legible_nil
    | none =>
      have itself := isLegible_of_escape_none escaped
      dsimp only
      split
      · exact ih (((released.put (by decide)).indent ind).inText.backslash _) (i + 1) (by simpa using itself)
      · exact ih legible (i + 1) ((legible_cons c held).mpr ⟨itself, waiting⟩)

theorem Legible.doubleQuoted (legible : p.Legible) (t : Text) (fold : Bool) (ind : Nat) :
    (p.doubleQuoted t fold ind).Legible := by
  have opened := legible.indicator (t := "\"") (by decide) true false false
  exact (opened.doubleParts fold ind _ 0 legible_nil t).indicator (by decide) false false false

theorem Legible.literal (legible : p.Legible) (ind : Nat) {lines : List Text}
    (each : ∀ line ∈ lines, Text.Legible line) : (p.literal ind lines).Legible := by
  have opened := (legible.indicator (t := "|") (by decide) true false false).lineBreak
  exact List.foldlRecOn lines _ opened fun before written line inside =>
    ((written.indent ind).put (each line inside)).lineBreak

end Pen

theorem Anchors.legible_name {as : Anchors} {n : Nat} {name : Text} (named : as.name? n = some name) :
    Legible name := by
  obtain ⟨i, _, rfl⟩ := Option.map_eq_some_iff.mp named
  exact (legible_append _ _).mpr ⟨by decide, legible_padded 3 (i + 1)⟩

theorem Tag.legible_written (tag : Tag) : Legible tag.written := by
  cases tag <;> decide

theorem Pen.Legible.writeBytes {p : Pen} (legible : p.Legible) (indent : Nat) (bytes : List UInt8) :
    (writeBytes p indent bytes).Legible := by
  have tagged := legible.indicator (Tag.legible_written .binary) true false false
  have lines := Base64.legible_encodeLines bytes
  unfold Yaml.writeBytes
  dsimp only
  cases written : Base64.encodeLines bytes with
  | nil => exact tagged.doubleQuoted [] true indent
  | cons line more => exact tagged.literal indent (written ▸ lines)

theorem Pen.Legible.writeText {p : Pen} (legible : p.Legible) (indent : Nat) (simpleKey resolves : Bool) (t : Text) :
    (writeText p indent simpleKey resolves t).Legible := by
  unfold Yaml.writeText
  split
  · rename_i chosen
    exact legible.plain (legible_of_style (by rw [chosen]; decide)) _ _
  · rename_i chosen
    exact legible.singleQuoted (legible_of_style (by rw [chosen]; decide)) _ _
  · exact legible.doubleQuoted _ _ _

theorem Pen.Legible.writeScalar {p : Pen} (legible : p.Legible) (indent : Option Nat) (place : Place) (s : Scalar) :
    (writeScalar p indent place s).Legible := by
  unfold Yaml.writeScalar
  dsimp only
  split
  · exact legible.writeBytes _ _
  · exact legible.writeText _ _ _ _

namespace Sheet

variable {s : Sheet} {g : Graph} {anchors : Anchors}

def Legible (s : Sheet) : Prop := s.pen.Legible

theorem Legible.alias {s' : Sheet} (legible : s.Legible) {n : Nat} (known : s.alias? g anchors n = some s') :
    s'.Legible := by
  unfold alias? at known
  split at known
  · cases known
    refine Pen.Legible.indicator legible ((legible_append _ _).mpr ⟨by decide, ?_⟩) true false false
    cases named : anchors.name? n with
    | none => exact legible_nil
    | some name => exact Anchors.legible_name named
  · cases known

theorem Legible.begin (legible : s.Legible) (anchors : Anchors) (n : Nat) : (s.begin anchors n).Legible := by
  unfold Legible Sheet.begin
  cases named : anchors.name? n with
  | none => exact legible
  | some name =>
    have anchor : Text.Legible ("&" ++ name) := (legible_append _ _).mpr ⟨by decide, Anchors.legible_name named⟩
    exact Pen.Legible.indicator legible anchor true false false

theorem Legible.writeScalar (legible : s.Legible) (indent : Option Nat) (place : Place) (x : Scalar) :
    (s.map fun p => Yaml.writeScalar p indent place x).Legible :=
  Pen.Legible.writeScalar legible indent place x

theorem Legible.writeKey (legible : s.Legible) (g : Graph) (anchors : Anchors) (indent : Nat) (place : Place)
    (n : Nat) : (s.writeKey g anchors indent place n).Legible := by
  unfold Sheet.writeKey
  cases known : s.alias? g anchors n with
  | some s' => exact legible.alias known
  | none => exact (legible.begin anchors n).writeScalar (some indent) place (g.keyAt n)

theorem Legible.writeName (legible : s.Legible) (g : Graph) (anchors : Anchors) (indent n : Nat) :
    (s.writeName g anchors indent n).Legible := by
  have indented : (s.map fun p => p.indent indent).Legible := Pen.Legible.indent legible indent
  unfold Sheet.writeName
  dsimp only
  split
  · exact Pen.Legible.indicator (indented.writeKey g anchors indent .key n) (by decide) false false false
  · have marked : ((s.map fun p => p.indent indent).map fun p => p.indicator "?" true false true).Legible :=
      Pen.Legible.indicator indented (by decide) true false true
    have named := marked.writeKey g anchors indent .value n
    exact Pen.Legible.indicator (Pen.Legible.indent named indent) (by decide) true false true

theorem Legible.indicators (legible : s.Legible) {first last : Text} (opens : Text.Legible first)
    (closes : Text.Legible last) : (s.map fun p => (p.indicator first true true).indicator last false).Legible :=
  Pen.Legible.indicator (Pen.Legible.indicator legible opens true true false) closes false false false

theorem Legible.writeItems (legible : s.Legible) (indent : Option Nat) (place : Place)
    {item : Nat → Sheet → Nat → Sheet} (each : ∀ inner s n, s.Legible → (item inner s n).Legible) (ns : List Nat) :
    (s.writeItems indent place item ns).Legible := by
  unfold Sheet.writeItems
  split
  · exact legible.indicators (by decide) (by decide)
  · refine List.foldlRecOn ns _ legible fun before written n _ => each _ _ n ?_
    exact Pen.Legible.indicator (Pen.Legible.indent written _) (by decide) true false true

theorem Legible.writeMembers {α : Type} (legible : s.Legible) (g : Graph) (anchors : Anchors) (indent : Option Nat)
    {member : Nat → Sheet → α → Sheet} (each : ∀ inner s e, s.Legible → (member inner s e).Legible) (key : α → Nat)
    (es : List α) : (s.writeMembers g anchors indent member key es).Legible := by
  unfold Sheet.writeMembers
  split
  · exact legible.indicators (by decide) (by decide)
  · exact List.foldlRecOn es _ legible fun before written e _ => each _ _ e (written.writeName g anchors _ (key e))

theorem Legible.write (legible : s.Legible) (g : Graph) (anchors : Anchors) (fuel : Nat) (indent : Option Nat)
    (place : Place) (n : Nat) : (write g anchors fuel indent place s n).Legible := by
  induction fuel generalizing indent place s n with
  | zero => exact legible
  | succ fuel ih =>
    unfold Sheet.write
    cases known : s.alias? g anchors n with
    | some s' => exact legible.alias known
    | none =>
      have begun := legible.begin anchors n
      dsimp only
      cases g.cell n with
      | scalar x => exact begun.writeScalar indent place x
      | list ns => exact begun.writeItems indent place (fun inner s m written => ih written (some inner) .item m) ns
      | pair l m =>
        exact begun.writeItems indent place (fun inner s m written => ih written (some inner) .item m) [l, m]
      | map es =>
        exact begun.writeMembers g anchors indent (fun inner s e written => ih written (some inner) .value e.2) _ es
      | set ns =>
        have tagged : ((s.begin anchors n).map fun p => p.indicator Tag.set.written true).Legible :=
          Pen.Legible.indicator begun (Tag.legible_written .set) true false false
        exact tagged.writeMembers g anchors indent
          (fun inner s _ written => written.writeScalar (some inner) .value .null) id ns

end Sheet

theorem print_legible {v : Value} {t : Text} (printed : print v = .ok t) : Legible t := by
  obtain ⟨anchors, _, printed⟩ := bind_eq_ok printed
  cases printed
  have ended : ∀ (p : Pen) (openEnded : Bool), p.Legible →
      Legible (if openEnded then p.text ++ "...\n" else p.text) := by
    intro p openEnded legible
    split
    · exact (legible_append _ _).mpr ⟨legible.text, by decide⟩
    · exact legible.text
  have fresh : Sheet.Legible ⟨Pen.fresh, Array.replicate (Graph.ofValue v).cells.size false⟩ := Pen.legible_fresh
  have written := fresh.write (Graph.ofValue v) anchors ((Graph.ofValue v).cells.size + 1) none .root
    (Graph.ofValue v).root
  exact (ended _ _ (Pen.Legible.indent written 0)).subset (dropEndWhile_subset _ _)

end Yaml

end TokenIntake
