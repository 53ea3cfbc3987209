import TokenIntake.Proofs.Except
import TokenIntake.Proofs.Value.Depth
import TokenIntake.Proofs.Value.Reading
import TokenIntake.Yaml.Writer

namespace TokenIntake

namespace Graph

variable {g g' g'' : Graph} {room n : Nat}

def Extends (g g' : Graph) : Prop := ∀ (n : Nat) (c : Cell), g.cells[n]? = some c → g'.cells[n]? = some c

theorem Extends.refl (g : Graph) : g.Extends g := fun _ _ here => here

theorem Extends.trans (first : g.Extends g') (second : g'.Extends g'') : g.Extends g'' :=
  fun n c here => second n c (first n c here)

theorem extends_add (g : Graph) (c : Cell) : g.Extends (g.add c).1 := by
  intro n c' here
  have inside : n < g.cells.size := by
    by_cases small : n < g.cells.size
    · exact small
    · rw [Array.getElem?_eq_none (by omega)] at here
      cases here
  simpa [add, Array.getElem?_push, Nat.ne_of_lt inside] using here

theorem cell_add (g : Graph) (c : Cell) : (g.add c).1.cells[(g.add c).2]? = some c := by
  simp [add]

theorem cell_of_getElem? {c : Cell} (here : g.cells[n]? = some c) : g.cell n = c := by
  rw [cell, here, Option.getD_some]

/-- Collections lie in one another at most `room` deep from a cell on, and no integer is too long. -/
inductive Fits (g : Graph) : Nat → Nat → Prop where
  | scalar {room n : Nat} {s : Scalar} (here : g.cells[n]? = some (.scalar s)) (short : s.isLong = false) :
    Fits g room n
  | list {room n : Nat} {ns : List Nat} (here : g.cells[n]? = some (.list ns)) (each : ∀ m ∈ ns, Fits g room m) :
    Fits g (room + 1) n
  | map {room n : Nat} {es : List (Nat × Nat)} (here : g.cells[n]? = some (.map es))
    (keys : ∀ e ∈ es, Fits g room e.1) (each : ∀ e ∈ es, Fits g room e.2) : Fits g (room + 1) n

theorem Fits.mono (fits : g.Fits room n) (more : g.Extends g') : g'.Fits room n := by
  induction fits with
  | scalar here short => exact .scalar (more _ _ here) short
  | list here each ih => exact .list (more _ _ here) ih
  | map here keys each ihKeys ihEach => exact .map (more _ _ here) ihKeys ihEach

def Holds (room : Nat) (g : Graph) (added : Graph × Nat) : Prop := g.Extends added.1 ∧ added.1.Fits room added.2

theorem addItems_holds {xs : List Value} (each : ∀ x ∈ xs, ∀ g : Graph, Holds room g (g.addValue x)) (g : Graph) :
    g.Extends (g.addItems xs).1 ∧ ∀ n ∈ (g.addItems xs).2, (g.addItems xs).1.Fits room n := by
  induction xs generalizing g with
  | nil => exact ⟨.refl g, fun n none => nomatch none⟩
  | cons x xs ih =>
    obtain ⟨now, here⟩ := each x List.mem_cons_self g
    obtain ⟨later, others⟩ := ih (fun y inside => each y (List.mem_cons_of_mem x inside)) (g.addValue x).1
    refine ⟨now.trans later, fun n inside => ?_⟩
    rcases List.mem_cons.mp inside with rfl | inside
    · exact here.mono later
    · exact others n inside

theorem addEntries_holds {es : List (Scalar × Value)} (keys : ∀ e ∈ es, e.1.isLong = false)
    (each : ∀ e ∈ es, ∀ g : Graph, Holds room g (g.addValue e.2)) (g : Graph) :
    g.Extends (g.addEntries es).1 ∧
      ∀ e ∈ (g.addEntries es).2, (g.addEntries es).1.Fits room e.1 ∧ (g.addEntries es).1.Fits room e.2 := by
  induction es generalizing g with
  | nil => exact ⟨.refl g, fun e none => nomatch none⟩
  | cons e es ih =>
    obtain ⟨k, x⟩ := e
    have key : (g.add (.scalar k)).1.Fits room (g.add (.scalar k)).2 :=
      .scalar (cell_add g _) (keys (k, x) List.mem_cons_self)
    -- what follows only extends the table, so key and value still fit at its end
    obtain ⟨now, here⟩ := each (k, x) List.mem_cons_self (g.add (.scalar k)).1
    obtain ⟨later, others⟩ := ih (fun f inside => keys f (List.mem_cons_of_mem _ inside))
      (fun f inside => each f (List.mem_cons_of_mem _ inside)) ((g.add (.scalar k)).1.addValue x).1
    refine ⟨((extends_add g _).trans now).trans later, fun f inside => ?_⟩
    rcases List.mem_cons.mp inside with rfl | inside
    · exact ⟨key.mono (now.trans later), here.mono later⟩
    · exact others f inside

theorem addValue_holds {v : Value} (plain : v.Plain) (g : Graph) (shallow : v.depth < room) :
    Holds room g (g.addValue v) := by
  induction plain generalizing g room with
  | scalar plain => exact ⟨extends_add g _, .scalar (cell_add g _) (Scalar.isLong_of_isPlain plain)⟩
  | @list xs each ih =>
    obtain ⟨room, rfl⟩ : ∃ r, room = r + 1 := ⟨room - 1, by omega⟩
    have items := addItems_holds (fun x inside g => ih x inside g
      (Nat.lt_of_lt_of_le (Value.depth_lt_of_mem_list inside) (Nat.le_of_lt_succ shallow))) g
    have last := extends_add (g.addItems xs).1 (.list (g.addItems xs).2)
    exact ⟨items.1.trans last, .list (cell_add _ _) fun n inside => (items.2 n inside).mono last⟩
  | @map es keys each ih =>
    obtain ⟨room, rfl⟩ : ∃ r, room = r + 1 := ⟨room - 1, by omega⟩
    have short : ∀ e ∈ es, e.1.isLong = false := by
      intro e inside
      obtain ⟨t, key⟩ := keys e inside
      rw [key]
      rfl
    have entries := addEntries_holds short (fun e inside g => ih e inside g
      (Nat.lt_of_lt_of_le (Value.depth_lt_of_mem_map inside) (Nat.le_of_lt_succ shallow))) g
    have last := extends_add (g.addEntries es).1 (.map (g.addEntries es).2)
    exact ⟨entries.1.trans last, .map (cell_add _ _) (fun e inside => (entries.2 e inside).1.mono last)
      fun e inside => (entries.2 e inside).2.mono last⟩

end Graph

namespace Yaml

theorem Meetings.meetFrom_ok {g : Graph} {room n : Nat} (fits : g.Fits room n) (m : Meetings) :
    ∃ m', meetFrom g room m n = .ok m' := by
  induction fits generalizing m with
  | scalar here short =>
    unfold meetFrom
    rw [Graph.cell_of_getElem? here]
    dsimp only
    split
    · exact ⟨_, rfl⟩
    · exact ⟨_, by rw [short]; rfl⟩
  | list here each ih =>
    unfold meetFrom
    rw [Graph.cell_of_getElem? here]
    dsimp only
    split
    · exact ⟨_, rfl⟩
    · exact foldlM_ok (fun n inside m => ih n inside m) _
  | map here keys each ihKeys ihEach =>
    unfold meetFrom
    rw [Graph.cell_of_getElem? here]
    dsimp only
    split
    · exact ⟨_, rfl⟩
    · refine foldlM_ok (fun e inside m => ?_) _
      obtain ⟨named, key⟩ := ihKeys e inside m
      obtain ⟨done, value⟩ := ihEach e inside named
      exact ⟨done, by rw [key]; exact value⟩

theorem print_ok {v : Value} (plain : v.Plain) (shallow : v.depth < Meetings.maxNesting) : ∃ t, print v = .ok t := by
  obtain ⟨_, fits⟩ := Graph.addValue_holds plain ⟨#[], 0⟩ shallow
  have root : (Graph.ofValue v).Fits Meetings.maxNesting (Graph.ofValue v).root := fits.mono fun _ _ here => here
  obtain ⟨m, met⟩ := Meetings.meetFrom_ok root ⟨Array.replicate (Graph.ofValue v).cells.size false, []⟩
  exact ⟨_, by simp only [print, Anchors.ofGraph, met, bind, Except.bind]; rfl⟩

end Yaml

end TokenIntake
