import TokenIntake.Proofs.Log
import TokenIntake.Settings.Manager

namespace TokenIntake.Settings

open Traced

/-- The way of the settings to a session is only whispered about. -/
def Whispers {α : Type} (x : Traced α) : Prop := x.Leaves fun r => r.level = .debug

theorem whispers_profileLayer (profile : Option Text) : Whispers (profileLayer profile) := by
  unfold profileLayer
  split
  · exact .pure _
  · exact .pure _
  · split
    · exact .pure _
    · exact .bind (.log rfl) fun _ => .pure _

theorem whispers_fileLayer (w : World) (file : Option Text) : Whispers (fileLayer w file) := by
  unfold fileLayer
  split
  · dsimp only
    split <;> exact .pure _
  · split
    · exact .pure _
    · exact .pure _
    · split
      · exact .pure _
      · exact .bind (.log rfl) fun _ => .pure _

theorem whispers_layer (env : Environment) (m : Mapping) : Whispers (Environment.layer env m) := by
  induction env generalizing m with
  | nil => exact .pure m
  | cons e rest ih =>
    obtain ⟨name, value⟩ := e
    unfold Environment.layer
    split
    · exact ih m
    · exact .bind (.log rfl) fun _ => ih m
    · exact ih _

theorem whispers_layers (w : World) (file profile : Option Text) : Whispers (layers w file profile) := by
  unfold layers
  refine .bind (whispers_profileLayer profile) fun profiles => ?_
  split
  · exact .pure _
  · refine .bind (whispers_fileLayer w file) fun fromFile => ?_
    split
    · exact .pure _
    · exact .bind (.bind (whispers_layer _ _) fun _ => .pure _) fun _ => .pure _

theorem whispers_load (m : Manager) (w : World) : Whispers (m.load w) := by
  unfold Manager.load
  split
  · exact .pure _
  · refine .bind (whispers_layers w _ _) fun found => ?_
    dsimp only
    split
    · exact .pure _
    · split <;> exact .pure _

end TokenIntake.Settings
