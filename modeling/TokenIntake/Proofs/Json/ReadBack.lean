import TokenIntake.Proofs.Check.Agreement
import TokenIntake.Proofs.Check.SummaryLines
import TokenIntake.Proofs.Json.Ascii
import TokenIntake.Proofs.Json.Indented
import TokenIntake.Proofs.Message.Grammar
import TokenIntake.Render.Format

namespace TokenIntake

namespace Value

/-- Stands for a collection that is met again inside itself, and for a set or a pair: nothing that can be unfolded. -/
def endless : Value := .graph ⟨#[], 0⟩

variable {v : Value}

end Value

namespace Json

open Value

/-- A text of ASCII that every reader that goes deep enough reads as the value. -/
structure Restores (t : Text) (v : Value) : Prop where
  ascii : ∀ c ∈ t, c.val < 0x80
  read : ∀ room, v.depth < room → parseWithin room t = .ok v

theorem Restores.parse {t : Text} {v : Value} (restores : Restores t v) (fits : v.depth ≤ maxLevel) :
    parse t = .ok v :=
  restores.read maxNesting (Nat.lt_of_le_of_lt fits maxLevel_lt_maxNesting)

end Json

namespace Summary

open Value

variable {c : Context}

theorem carries_nat {n : Nat} (short : n < 10 ^ maxIntDigits) (deep : Nat) : Carries (.int n) [] deep :=
  ⟨.int (by rwa [Int.natAbs_natCast]), wellKeyed_scalar _, Nat.zero_le _, rfl⟩

theorem carries_decimals (c : Context) :
    ∃ ts, Carries (match c.summary.decimals with | some n => .int n | none => .null) ts 1 := by
  cases given : c.summary.decimals with
  | none => exact ⟨_, carries_null 1⟩
  | some n =>
    obtain ⟨m, _, rfl⟩ := Option.map_eq_some_iff.mp given
    exact ⟨_, carries_nat (short_of_small (Nat.le_trans (Nat.le_of_lt m.decimals.isLt) (by decide))) 1⟩

theorem toValue_carries (few : c.results.length < 10 ^ maxIntDigits) : ∃ ts, c.summary.toValue.Carries ts 2 := by
  have passed := Nat.lt_of_le_of_lt (List.length_filter_le Prod.snd c.results) few
  have texts (ts : List Text) : Carries (.list (ts.map .text)) _ 1 := Carries.list (fun t => carries_text t 0) ts
  obtain ⟨_, decimals⟩ := carries_decimals c
  exact ⟨_, Carries.object rfl keys rfl (by decide) (by decide +kernel)
    (.cons (carries_textOrNull _ _) (.cons (carries_textOrNull _ _) (.cons decimals (.cons (carries_textOrNull _ _)
      (.cons (carries_textOrNull _ _) (.cons (carries_textOrNull _ _) (.cons (carries_textOrNull _ _)
        (.cons (texts _) (.cons (texts _) (.cons (carries_nat passed _) (.cons (carries_nat few _)
          (.cons (carries_text _ _) .nil))))))))))))⟩

end Summary

end TokenIntake
