import TokenIntake.Log

namespace TokenIntake

namespace Log

def thresholdNames : List Text := ["CRITICAL", "FATAL", "ERROR", "WARN", "WARNING", "INFO", "DEBUG", "NOTSET"]

theorem threshold?_eq_none_iff (name : Text) : threshold? name = none ↔ name ∉ thresholdNames := by
  simp only [threshold?, Option.map_eq_none_iff, List.find?_eq_none, decide_eq_true_eq, thresholdNames]
  simp [eq_comm]

theorem replay_sublist {low high : Option Level} (lower : (effective low).rank ≤ (effective high).rank)
    (events : List Event) : (replay high events).1.Sublist (replay low events).1 := by
  induction events with
  | nil => exact .refl []
  | cons e rest ih =>
    cases e with
    | threshold least => exact .refl _
    | record r =>
      by_cases high' : (effective high).rank ≤ r.level.rank
      · have low' := Nat.le_trans lower high'
        simpa only [replay, high', low', if_true] using ih.cons_cons r
      · simp only [replay, high', if_false]
        split
        · exact ih.cons r
        · exact ih

theorem replay_sublist_iff (low high : Option Level) :
    (∀ events, (replay high events).1.Sublist (replay low events).1) ↔
      (effective low).rank ≤ (effective high).rank := by
  refine ⟨fun shows => ?_, replay_sublist⟩
  let r : Record := ⟨[], effective high, []⟩
  have shown : (replay high [.record r]).1 = [r] := if_pos (Nat.le_refl _)
  have seen : r ∈ (replay low [.record r]).1 := (shows [.record r]).subset (shown ▸ List.mem_singleton_self r)
  refine Nat.le_of_not_lt fun above => ?_
  have hidden : (replay low [.record r]).1 = [] := if_neg (Nat.not_le_of_lt above)
  rw [hidden] at seen
  cases seen

end Log

namespace Traced

variable {α β : Type} {property : Log.Record → Prop}

/-- Nothing is left on the way to the value but records with the property. -/
def Leaves (x : Traced α) (property : Log.Record → Prop) : Prop := ∀ e ∈ x.events, ∃ r, e = .record r ∧ property r

namespace Leaves

theorem pure (a : α) : Leaves (Pure.pure a) property := fun _ inside => nomatch inside

theorem log {logger : Text} {level : Log.Level} {message : Text} (has : property ⟨logger, level, message⟩) :
    Leaves (Traced.log logger level message) property :=
  List.forall_mem_singleton.mpr ⟨_, rfl, has⟩

theorem bind {x : Traced α} {f : α → Traced β} (first : x.Leaves property) (others : ∀ a, (f a).Leaves property) :
    (x >>= f).Leaves property := by
  intro e inside
  rcases List.mem_append.mp inside with now | later
  · exact first e now
  · exact others x.value e later

theorem threshold {x : Traced α} (records : x.Leaves property) (least : Option Log.Level) :
    (Log.replay least x.events).2 = least := by
  have step : ∀ events : List Log.Event, (∀ e ∈ events, ∃ r, e = .record r ∧ property r) →
      (Log.replay least events).2 = least := by
    intro events each
    induction events with
    | nil => rfl
    | cons e rest ih =>
      obtain ⟨⟨r, rfl, _⟩, others⟩ := List.forall_mem_cons.mp each
      exact ih others
  exact step x.events records

theorem hidden {x : Traced α} (records : x.Leaves property) {least : Option Log.Level}
    (below : ∀ r, property r → r.level.rank < (Log.effective least).rank) :
    Log.replay least x.events = ([], least) := by
  have step : ∀ events : List Log.Event, (∀ e ∈ events, ∃ r, e = .record r ∧ property r) →
      Log.replay least events = ([], least) := by
    intro events each
    induction events with
    | nil => rfl
    | cons e rest ih =>
      obtain ⟨⟨r, rfl, has⟩, others⟩ := List.forall_mem_cons.mp each
      simp only [Log.replay, ih others, if_neg (Nat.not_le_of_lt (below r has))]
  exact step x.events records

end Leaves

end Traced

end TokenIntake
