import Mathlib.Data.List.Basic
import Mathlib.Data.List.Forall2
import TokenIntake.Proofs.Check.Operation
import TokenIntake.Proofs.Value.Assoc

namespace TokenIntake

namespace Engine

def names (e : Engine) : List Text := e.rules.map Rule.name

/-- The registry has each name once, in the order of the rules, and the rule under a number has the name that
leads to it. -/
structure InStep (e : Engine) : Prop where
  distinct : Assoc.Distinct id e.registry
  numbers : e.registry.map Prod.snd = e.order
  named : ∀ p ∈ e.registry, ∃ r, e.kept[p.2]? = some r ∧ r.name = p.1

namespace InStep

variable {e e' : Engine} {r : Rule} {name : Text} {n : Nat}

theorem rules_eq (inStep : e.InStep) : e.rules = e.registry.filterMap fun p => e.kept[p.2]? := by
  rw [rules, ← inStep.numbers, List.filterMap_map]
  rfl

theorem listed (inStep : e.InStep) :
    List.Forall₂ (fun p r => e.kept[p.2]? = some r ∧ r.name = p.1) e.registry e.rules := by
  have named := inStep.named
  rw [inStep.rules_eq]
  generalize e.registry = entries at named
  induction entries with
  | nil => exact .nil
  | cons p entries ih =>
    obtain ⟨r, here, name⟩ := named p List.mem_cons_self
    rw [List.filterMap_cons, here]
    exact .cons ⟨here, name⟩ (ih fun q inside => named q (List.mem_cons_of_mem p inside))

theorem names_eq (inStep : e.InStep) : e.registry.map Prod.fst = e.names := by
  have listed := inStep.listed
  rw [names]
  generalize e.registry = entries, e.rules = rules at listed
  induction listed with
  | nil => rfl
  | cons first _ ih => rw [List.map_cons, List.map_cons, ih, first.2]

theorem nodup (inStep : e.InStep) : e.names.Nodup := inStep.names_eq ▸ inStep.distinct

theorem apart_of_split (inStep : e.InStep) {before after : List Rule} (split : e.rules = before ++ r :: after) :
    (∀ s ∈ before, s.name ≠ r.name) ∧ ∀ s ∈ after, s.name ≠ r.name := by
  have nodup := inStep.nodup
  rw [names, split, List.map_append, List.map_cons] at nodup
  obtain ⟨_, later, apart⟩ := List.nodup_append.mp nodup
  constructor
  · intro s inside
    exact apart s.name (List.mem_map_of_mem inside) r.name List.mem_cons_self
  · intro s inside name
    exact (List.nodup_cons.mp later).1 (List.mem_map.mpr ⟨s, inside, name⟩)

theorem own (inStep : e.InStep) (found : e.number? name = some n) : ∀ p ∈ e.registry, p.2 = n → p.1 = name := by
  obtain ⟨q, inside, sameName, sameNumber⟩ := Assoc.exists_of_get?_eq_some found
  intro p other number
  obtain ⟨r, here, name⟩ := inStep.named q inside
  obtain ⟨r', here', name'⟩ := inStep.named p other
  rw [number, ← sameNumber, here] at here'
  cases here'
  exact name'.symm.trans (name.trans sameName)

theorem number?_eq_none_iff (inStep : e.InStep) : e.number? name = none ↔ name ∉ e.names := by
  rw [number?, Assoc.get?_eq_none_iff, ← inStep.names_eq, List.mem_map]
  constructor
  · rintro other ⟨p, inside, same⟩
    exact other p inside same
  · intro absent p inside same
    exact absent ⟨p, inside, same⟩

theorem of_alike (inStep : e.InStep) (alike : Alike e e') : e'.InStep := by
  refine ⟨alike.registry ▸ inStep.distinct, ?_, ?_⟩
  · rw [alike.registry, alike.order]
    exact inStep.numbers
  · rw [alike.registry, alike.kept]
    exact inStep.named

end InStep

section

variable {e : Engine} {r : Rule}

theorem kept_register (e : Engine) (r : Rule) : (e.register r).value.kept = e.kept ++ [r] := by
  simp only [register]
  split <;> rfl

theorem registry_register (e : Engine) (r : Rule) :
    (e.register r).value.registry = Assoc.put id e.registry r.name e.kept.length := by
  simp only [register]
  split <;> rfl

theorem order_register (e : Engine) (r : Rule) :
    (e.register r).value.order = match e.number? r.name with
      | some old => e.order.replace old e.kept.length
      | none => e.order ++ [e.kept.length] := by
  simp only [register]
  split <;> rfl

theorem registry_register_of_known (inStep : e.InStep) {old : Nat} (known : e.number? r.name = some old) :
    (e.register r).value.registry =
      e.registry.map fun p => if p.1 = r.name then (p.1, e.kept.length) else p := by
  obtain ⟨p, inside, same, _⟩ := Assoc.exists_of_get?_eq_some known
  rw [registry_register, Assoc.put_of_bound inStep.distinct ⟨p, inside, same⟩]
  rfl

theorem registry_register_of_new (new : e.number? r.name = none) :
    (e.register r).value.registry = e.registry ++ [(r.name, e.kept.length)] := by
  rw [registry_register, Assoc.put_of_fresh (Assoc.get?_eq_none_iff.mp new)]

theorem kept_register_of_some {s : Rule} {n : Nat} (here : e.kept[n]? = some s) :
    (e.register r).value.kept[n]? = some s := by
  obtain ⟨inside, _⟩ := List.getElem?_eq_some_iff.mp here
  rw [kept_register, List.getElem?_append_left inside, here]

theorem kept_register_new (e : Engine) (r : Rule) : (e.register r).value.kept[e.kept.length]? = some r := by
  rw [kept_register]
  simp

theorem InStep.register (inStep : e.InStep) (r : Rule) : (e.register r).value.InStep := by
  have earlier : ∀ p ∈ e.registry, ∃ s, (e.register r).value.kept[p.2]? = some s ∧ s.name = p.1 := by
    intro p inside
    obtain ⟨s, here, name⟩ := inStep.named p inside
    exact ⟨s, kept_register_of_some here, name⟩
  have distinct : Assoc.Distinct id (e.register r).value.registry := by
    rw [registry_register]
    exact inStep.distinct.put id r.name e.kept.length
  cases known : e.number? r.name with
  | some old =>
    refine ⟨distinct, ?_, ?_⟩
    · rw [registry_register, order_register, known, ← inStep.numbers]
      exact Assoc.values_put_eq_replace known (inStep.own known)
    · rw [registry_register_of_known inStep known, List.forall_mem_map]
      intro p inside
      split
      · rename_i same
        exact ⟨r, kept_register_new e r, same.symm⟩
      · exact earlier p inside
  | none =>
    refine ⟨distinct, ?_, ?_⟩
    · rw [registry_register_of_new known, order_register, known, ← inStep.numbers, List.map_append]
      rfl
    · rw [registry_register_of_new known, List.forall_mem_append, List.forall_mem_singleton]
      exact ⟨earlier, r, kept_register_new e r, rfl⟩

theorem rules_register_of_known (inStep : e.InStep) (known : r.name ∈ e.names) :
    (e.register r).value.rules = e.rules.map fun s => if s.name = r.name then r else s := by
  obtain ⟨old, number⟩ : ∃ old, e.number? r.name = some old :=
    Option.ne_none_iff_exists'.mp fun none => (inStep.number?_eq_none_iff.mp none) known
  rw [(inStep.register r).rules_eq, registry_register_of_known inStep number, List.filterMap_map, inStep.rules_eq,
    List.map_filterMap]
  refine List.filterMap_congr fun p inside => ?_
  obtain ⟨s, here, name⟩ := inStep.named p inside
  simp only [Function.comp_apply, here, Option.map_some, name]
  split
  · exact kept_register_new e r
  · exact kept_register_of_some here

theorem rules_register_of_new (inStep : e.InStep) (new : r.name ∉ e.names) :
    (e.register r).value.rules = e.rules ++ [r] := by
  have none := inStep.number?_eq_none_iff.mpr new
  rw [(inStep.register r).rules_eq, registry_register_of_new none, List.filterMap_append, inStep.rules_eq]
  congr 1
  · refine List.filterMap_congr fun p inside => ?_
    obtain ⟨s, here, _⟩ := inStep.named p inside
    rw [kept_register_of_some here, here]
  · simp [kept_register_new]

theorem rules_register_in_place (inStep : e.InStep) {before after : List Rule} {old : Rule}
    (split : e.rules = before ++ old :: after) (same : old.name = r.name) :
    (e.register r).value.rules = before ++ r :: after := by
  obtain ⟨earlier, later⟩ := inStep.apart_of_split split
  rw [same] at earlier later
  have untouched : ∀ rules : List Rule, (∀ s ∈ rules, s.name ≠ r.name) →
      (rules.map fun s => if s.name = r.name then r else s) = rules := by
    intro rules other
    rw [List.map_congr_left fun s inside => if_neg (other s inside), List.map_id']
  have known : r.name ∈ e.names := by
    rw [names, split, ← same]
    simp
  rw [rules_register_of_known inStep known, split, List.map_append, List.map_cons, if_pos same,
    untouched before earlier, untouched after later]

end

section

variable {e : Engine} {name : Text}

theorem unregister_of_known {number : Nat} (known : e.number? name = some number) :
    (e.unregister name).value =
      ({ e with order := e.order.erase number, registry := Assoc.erase id e.registry name }, true) := by
  simp [unregister, known]

theorem unregister_of_unknown (unknown : e.number? name = none) : (e.unregister name).value = (e, false) := by
  simp [unregister, unknown]

theorem InStep.unregister (inStep : e.InStep) (name : Text) : (e.unregister name).value.1.InStep := by
  cases known : e.number? name with
  | none =>
    rw [unregister_of_unknown known]
    exact inStep
  | some number =>
    rw [unregister_of_known known]
    have kept := Assoc.erase_of_distinct (k := name) inStep.distinct
    refine ⟨?_, ?_, ?_⟩
    · rw [kept]
      exact (List.filter_sublist.map _).nodup inStep.distinct
    · rw [← inStep.numbers]
      exact Assoc.values_erase_eq_erase known (inStep.own known)
    · rw [kept]
      exact fun p inside => inStep.named p (List.mem_filter.mp inside).1

theorem rules_unregister (inStep : e.InStep) (name : Text) :
    (e.unregister name).value.1.rules = e.rules.filter fun s => s.name ≠ name := by
  rw [(inStep.unregister name).rules_eq, inStep.rules_eq, List.filter_filterMap]
  cases known : e.number? name with
  | none =>
    rw [unregister_of_unknown known]
    refine List.filterMap_congr fun p inside => ?_
    obtain ⟨s, here, named⟩ := inStep.named p inside
    have other : p.1 ≠ name := Assoc.get?_eq_none_iff.mp known p inside
    simp [here, Option.filter_some, named, other]
  | some number =>
    rw [unregister_of_known known, Assoc.erase_of_distinct inStep.distinct, List.filterMap_filter]
    refine List.filterMap_congr fun p inside => ?_
    obtain ⟨s, here, named⟩ := inStep.named p inside
    by_cases same : p.1 = name
    · simp [here, Option.filter_some, named, same]
    · simp [here, Option.filter_some, named, same]

theorem unregister_found_iff (inStep : e.InStep) (name : Text) :
    (e.unregister name).value.2 = true ↔ name ∈ e.names := by
  cases known : e.number? name with
  | none =>
    rw [unregister_of_unknown known]
    exact ⟨fun none => (nomatch none), fun inside => (inStep.number?_eq_none_iff.mp known inside).elim⟩
  | some number =>
    have inside : name ∈ e.names := by
      by_contra absent
      rw [inStep.number?_eq_none_iff.mpr absent] at known
      cases known
    rw [unregister_of_known known]
    exact ⟨fun _ => inside, fun _ => rfl⟩

theorem rules_unregister_in_place (inStep : e.InStep) {before after : List Rule} {old : Rule}
    (split : e.rules = before ++ old :: after) :
    (e.unregister old.name).value.1.rules = before ++ after := by
  obtain ⟨earlier, later⟩ := inStep.apart_of_split split
  have untouched : ∀ rules : List Rule, (∀ s ∈ rules, s.name ≠ old.name) →
      (rules.filter fun s => s.name ≠ old.name) = rules :=
    fun rules other => List.filter_eq_self.mpr fun s inside => decide_eq_true (other s inside)
  rw [rules_unregister inStep, split, List.filter_append, List.filter_cons_of_neg (by simp),
    untouched before earlier, untouched after later]

theorem InStep.setEnabled (inStep : e.InStep) (name : Text) (enabled : Bool) :
    ((e.setEnabled? name enabled).getD e).InStep := by
  unfold setEnabled?
  cases e.number? name with
  | none => exact inStep
  | some number =>
    refine ⟨inStep.distinct, inStep.numbers, fun p inside => ?_⟩
    obtain ⟨s, here, named⟩ := inStep.named p inside
    by_cases same : number = p.2
    · refine ⟨{ s with enabled := enabled }, ?_, named⟩
      simp [same, here]
    · refine ⟨s, ?_, named⟩
      simp [same, here]

theorem rules_setEnabled (inStep : e.InStep) (name : Text) (enabled : Bool) :
    ((e.setEnabled? name enabled).getD e).rules =
      e.rules.map fun s => if s.name = name then { s with enabled := enabled } else s := by
  rw [(inStep.setEnabled name enabled).rules_eq, inStep.rules_eq, List.map_filterMap]
  unfold setEnabled?
  cases known : e.number? name with
  | none =>
    refine List.filterMap_congr fun p inside => ?_
    obtain ⟨s, here, named⟩ := inStep.named p inside
    have other : p.1 ≠ name := Assoc.get?_eq_none_iff.mp known p inside
    simp [here, named, other]
  | some number =>
    refine List.filterMap_congr fun p inside => ?_
    obtain ⟨s, here, named⟩ := inStep.named p inside
    have same : number = p.2 ↔ p.1 = name := by
      constructor
      · exact fun same => inStep.own known p inside same.symm
      · rintro rfl
        have bound := inStep.distinct.get?_of_mem inside
        rw [number?, bound, Option.some.injEq] at known
        exact known.symm
    by_cases asked : p.1 = name
    · simp [here, named, asked, same.mpr asked]
    · have other : number ≠ p.2 := fun again => asked (same.mp again)
      simp [here, named, asked, other]

end

theorem InStep.after {e : Engine} (inStep : e.InStep) (op : Operation) : (e.after op).InStep := by
  cases op with
  | call c => exact inStep.of_alike (afterCall_alike e c)
  | register r => exact inStep.register r
  | unregister name => exact inStep.unregister name
  | setEnabled name enabled => exact inStep.setEnabled name enabled
  | statistics => exact inStep

theorem InStep.afterAll {e : Engine} (inStep : e.InStep) (ops : List Operation) : (e.afterAll ops).InStep := by
  induction ops generalizing e with
  | nil => exact inStep
  | cons op ops ih => exact ih (inStep.after op)

theorem InStep.registerAll {e : Engine} (inStep : e.InStep) (rules : List Rule) :
    (e.registerAll rules).value.InStep := by
  induction rules generalizing e with
  | nil => exact inStep
  | cons r rules ih => exact ih (inStep.register r)

theorem inStep_fresh (options : Mapping) : (fresh options).InStep :=
  have empty : (Engine.mk options [] [] [] ⟨0, 0, 0, 0⟩).InStep :=
    ⟨List.nodup_nil, rfl, List.forall_mem_nil _⟩
  empty.registerAll Rule.standard

theorem InStep.place {e : Engine} (inStep : e.InStep) {i : Nat} {r : Rule} (here : e.rules[i]? = some r) :
    ∃ n, e.order[i]? = some n ∧ e.number? r.name = some n ∧ e.kept[n]? = some r := by
  obtain ⟨inside, rfl⟩ := List.getElem?_eq_some_iff.mp here
  have entries := inStep.listed.length_eq
  have short : i < e.registry.length := by omega
  obtain ⟨found, name⟩ := inStep.listed.get short inside
  simp only [List.get_eq_getElem] at found name
  have bound := inStep.distinct.get?_of_mem (List.getElem_mem short)
  refine ⟨e.registry[i].2, ?_, ?_, found⟩
  · rw [← inStep.numbers, List.getElem?_map, List.getElem?_eq_getElem short]
    rfl
  · rw [number?, name]
    exact bound

theorem after_unregister_of_absent {e : Engine} {name : Text} (inStep : e.InStep) (absent : name ∉ e.names) :
    e.after (.unregister name) = e := by
  rw [after, unregister_of_unknown (inStep.number?_eq_none_iff.mpr absent)]

end Engine

/-- After any operations the rules have distinct names, and the registry and the statistics list these names in the
order of the rules. The registry leads from a name to the very rule at its place. A rule that is registered takes
the place of the one whose name it has, or else the last one, and a rule that is removed leaves the others as they
are. -/
theorem registry_inStep {given : Value} {e₀ : Engine} (built : Engine.Built given e₀) (ops : List Engine.Operation) :
    let e := e₀.afterAll ops
    e.names.Nodup ∧ e.registry.map Prod.fst = e.names ∧
    (∀ (i : Nat) (r : Rule), e.rules[i]? = some r →
      ∃ n, e.order[i]? = some n ∧ e.number? r.name = some n ∧ e.kept[n]? = some r) ∧
    (e.statistics.ruleOrder = e.registry.map Prod.fst ∧ e.statistics.ruleCount = e.registry.length) ∧
    (∀ r before old after, e.rules = before ++ old :: after → old.name = r.name →
      (e.after (.register r)).rules = before ++ r :: after) ∧
    (∀ r, r.name ∉ e.names → (e.after (.register r)).rules = e.rules ++ [r]) ∧
    (∀ name, (e.unregister name).value.2 = true ↔ name ∈ e.names) ∧
    (∀ before old after, e.rules = before ++ old :: after →
      (e.after (.unregister old.name)).rules = before ++ after) ∧
    ∀ name, name ∉ e.names → e.after (.unregister name) = e := by
  intro e
  have inStep : e.InStep := by
    obtain ⟨options, fresh⟩ := built.exists_fresh
    exact (fresh ▸ Engine.inStep_fresh options).afterAll ops
  refine ⟨inStep.nodup, inStep.names_eq, fun i r => inStep.place, ⟨inStep.names_eq.symm, ?_⟩, ?_, ?_, ?_, ?_, ?_⟩
  · exact inStep.listed.length_eq.symm
  · exact fun r before old after => Engine.rules_register_in_place inStep
  · exact fun r => Engine.rules_register_of_new inStep
  · exact Engine.unregister_found_iff inStep
  · exact fun before old after => Engine.rules_unregister_in_place inStep
  · exact fun name => Engine.after_unregister_of_absent inStep

theorem registry_inStep_after_replacing :
    let second : Rule := { Rule.decimals with name := "symbol_format", enabled := false }
    let other : Rule := { Rule.decimals with name := "other" }
    let ops : List Engine.Operation := [.register second, .register other, .unregister "name_format",
      .setEnabled "symbol_format" true, .unregister "nobody", .call (.process 0 (.map []))]
    let e := (Engine.fresh Options.defaults).afterAll ops
    Engine.Built .null (Engine.fresh Options.defaults) ∧ e.names = ["symbol_format", "decimals", "other"] ∧
      e.order = [3, 2, 4] ∧ e.registry.map Prod.snd = [3, 2, 4] ∧ e.names.Nodup ∧
      e.after (.unregister "name_format") = e := by
  intro second other ops e
  have built : Engine.Built .null (Engine.fresh Options.defaults) := .inl rfl
  have names : e.names = ["symbol_format", "decimals", "other"] := by decide +kernel
  have absent : ("name_format" : Text) ∉ e.names := by
    rw [names]
    decide
  obtain ⟨nodup, _, _, _, _, _, _, _, unchanged⟩ := registry_inStep built ops
  exact ⟨built, names, by decide +kernel, by decide +kernel, nodup, unchanged "name_format" absent⟩

end TokenIntake
