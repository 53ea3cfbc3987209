import TokenIntake.Proofs.Check.Operation
import TokenIntake.Proofs.Message.Decode

namespace TokenIntake

namespace Engine

theorem check_of_standard {e : Engine} (standard : e.rules = Rule.standard) (now : Nat) (m : Message) :
    (e.check now m).value.2 = .ok ((e.opening now m).judged m) ∧
      ((e.opening now m).judged m).Reports m.validate := by
  constructor
  · rw [check_result, standard]
    exact runRules_standard rfl
  · exact Context.judged_reports rfl rfl rfl m

theorem Built.rules_afterCalls {given : Value} {e : Engine} (built : Built given e) (calls : List Call) :
    (e.afterCalls calls).rules = Rule.standard := by
  obtain ⟨options, rfl⟩ := built.exists_fresh
  rw [(afterCalls_alike (fresh options) calls).rules, rules_fresh]

end Engine

theorem Context.Reports.hasErrors {c : Context} {verdict : Except Rejection Unit} (reports : c.Reports verdict) :
    c.hasErrors = !verdict.isOk := by
  cases verdict with
  | ok u => exact reports.1
  | error r => exact reports.1

namespace Request

def ofData (v : Value) : Value := .map [(.text "msg", v)]

theorem ofData_brings_iff (v : Value) (m : Message) : Brings (ofData v) m ↔ Message.decode v = .good m := by
  have found : Mapping.field? [(.text "msg", v)] "msg" = some v := rfl
  rw [Message.decode_good_iff]
  constructor
  · rintro ⟨es, fields, mapping, inside, decoded⟩
    cases mapping
    rw [found] at inside
    exact ⟨fields, inside, decoded⟩
  · rintro ⟨fields, mapping, decoded⟩
    exact ⟨_, fields, rfl, by rw [found]; exact mapping, decoded⟩

end Request

theorem checkOnce_of_built {options : Value} {e : Engine} (made : (Engine.buildDefault options).value = .ok e)
    (now : Nat) (m : Message) : (checkOnce now m options).value = .ok (.ok m.validate.isOk) := by
  have standard : e.rules = Rule.standard := Engine.Built.rules_afterCalls (.inr made) []
  obtain ⟨checked, reports⟩ := Engine.check_of_standard standard now m
  simp only [checkOnce, Traced.value_bind, made, Traced.value_pure, checked, Except.map, reports.hasErrors,
    Bool.not_not]

namespace Engine

theorem process_of_good {e : Engine} {v : Value} {m : Message} (standard : e.rules = Rule.standard)
    (decoded : Message.decode v = .good m) (now : Nat) :
    (e.process now (Request.ofData v)).value.2 =
      .ok (.success ((e.opening now m).judged m).summary now e.validatorId) := by
  obtain ⟨checked, _⟩ := check_of_standard standard now m
  rw [process_of_brings ((Request.ofData_brings_iff v m).mpr decoded)]
  simp only [checked, Request.answer]

theorem process_of_bad {v : Value} (undecodable : ∀ m, Message.decode v ≠ .good m) (e : Engine) (now : Nat) :
    ∃ message, (e.process now (Request.ofData v)).value.2 = .ok (.error message e.validatorId) := by
  have none : ∀ m, ¬Request.Brings (Request.ofData v) m := fun m brings =>
    undecodable m ((Request.ofData_brings_iff v m).mp brings)
  rcases process_of_brings_none e now _ none with ⟨noMapping, _⟩ | ⟨message, refused⟩
  · cases noMapping
  · exact ⟨message, by rw [refused, Request.refuse]⟩

end Engine

/-- Data is refused exactly where it does not decode, and otherwise one verdict is reported by all. -/
theorem verdicts_agree {given : Value} {e : Engine} (built : Engine.Built given e) (calls : List Engine.Call)
    (now : Nat) (v : Value) :
    (∀ m, Message.decode v = .good m →
      ∃ c, ((e.afterCalls calls).check now m).value.2 = .ok c ∧ c.Reports m.validate ∧
        c.summary.outcome = (if m.validate.isOk then .approved else .rejected) ∧
        ((e.afterCalls calls).process now (Request.ofData v)).value.2 =
          .ok (.success c.summary now e.validatorId)) ∧
    ((∃ message, ((e.afterCalls calls).process now (Request.ofData v)).value.2 =
        .ok (.error message e.validatorId)) ↔ v.entries? = none ∨ ∀ m, Message.decode v ≠ .good m) ∧
    (∀ m, Message.decode v = .good m → ∀ options,
      (∃ single, (Engine.buildDefault options).value = .ok single) →
        (checkOnce now m options).value = .ok (.ok m.validate.isOk) ∧
        (checkRawOnce now v options).value = .ok (.ok (.ok m.validate.isOk))) ∧
    ∃ single, (Engine.buildDefault .null).value = .ok single := by
  have sameId := (Engine.afterCalls_alike e calls).validatorId
  have standard := built.rules_afterCalls calls
  refine ⟨?_, ⟨?_, ?_⟩, ?_, ⟨_, rfl⟩⟩
  · intro m decoded
    obtain ⟨checked, reports⟩ := Engine.check_of_standard standard now m
    refine ⟨_, checked, reports, ?_, ?_⟩
    · simp only [Context.summary, reports.hasErrors]
      cases m.validate <;> rfl
    · rw [Engine.process_of_good standard decoded, sameId]
  · rintro ⟨message, refused⟩
    refine .inr fun m decoded => ?_
    rw [Engine.process_of_good standard decoded] at refused
    cases refused
  · intro useless
    have undecodable : ∀ m, Message.decode v ≠ .good m := by
      rcases useless with noMapping | undecodable
      · intro m decoded
        obtain ⟨fields, mapping, _⟩ := (Message.decode_good_iff v m).mp decoded
        rw [noMapping] at mapping
        cases mapping
      · exact undecodable
    obtain ⟨message, refused⟩ := Engine.process_of_bad undecodable (e.afterCalls calls) now
    exact ⟨message, by rw [refused, sameId]⟩
  · rintro m decoded options ⟨single, made⟩
    have verdict := checkOnce_of_built made now m
    exact ⟨verdict, by simp only [checkRawOnce, decoded, Traced.value_bind, Traced.value_pure, verdict]⟩

def shortSymbol : Value :=
  .map [(.text "name", .text "test token"), (.text "symbol", .text "TN"), (.text "decimals", .int 6),
    (.text "initial_balances", .list [])]

def shortSymbolMessage : Message := ⟨"test token", "TN", 6, [], none, none⟩

theorem verdicts_agree_shortSymbol :
    Engine.Built .null (Engine.fresh Options.defaults) ∧ Message.decode shortSymbol = .good shortSymbolMessage ∧
      ∃ c, (((Engine.fresh Options.defaults).afterCalls [.process 1 .null, .check 2 shortSymbolMessage]).check 3
          shortSymbolMessage).value.2 = .ok c ∧ c.Reports (.error (.ofKind .symbol none)) := by
  have built : Engine.Built .null (Engine.fresh Options.defaults) := .inl rfl
  have decoded : Message.decode shortSymbol = .good shortSymbolMessage := by decide +kernel
  have agree := verdicts_agree built [.process 1 .null, .check 2 shortSymbolMessage] 3 shortSymbol
  obtain ⟨c, checked, reports, _⟩ := agree.1 _ decoded
  have verdict : shortSymbolMessage.validate = .error (.ofKind .symbol none) := rfl
  exact ⟨built, decoded, c, checked, verdict ▸ reports⟩

end TokenIntake
