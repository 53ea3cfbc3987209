import Mathlib.Data.List.Nodup
import TokenIntake.Check.Context
import TokenIntake.Message.Wire
import TokenIntake.Proofs.Json.Compact

namespace TokenIntake

/-- Data that JSON keeps, not too deep, and with surrogates in none but the texts `ts`. -/
structure Value.Carries (v : Value) (ts : List Text) (deep : Nat) : Prop where
  exact : v.Exact
  keyed : v.WellKeyed
  shallow : v.depth ≤ deep
  surrogates : v.hasSurrogate = ts.any Text.hasSurrogate

namespace Value

theorem hasSurrogate_map {es : List (Scalar × Value)} (keys : ∀ e ∈ es, ∃ t, e.1 = .text t ∧ t.hasSurrogate = false) :
    (Value.map es).hasSurrogate = es.any fun e => e.2.hasSurrogate := by
  rw [hasSurrogate, Reading.any_map]
  induction es with
  | nil => rfl
  | cons e es ih =>
    obtain ⟨⟨t, isText, whole⟩, others⟩ := List.forall_mem_cons.mp keys
    rw [List.any_cons, List.any_cons, ih others]
    simp only [isText, whole, Bool.false_or]
    rfl

theorem carries_null (deep : Nat) : Carries .null [] deep := ⟨.null, wellKeyed_scalar _, Nat.zero_le _, rfl⟩

theorem carries_text (t : Text) (deep : Nat) : Carries (.text t) [t] deep :=
  ⟨.text t, wellKeyed_scalar _, Nat.zero_le _, by simp; rfl⟩

theorem carries_textOrNull (o : Option Text) (deep : Nat) : Carries (Summary.textOrNull o) o.toList deep := by
  cases o with
  | none => exact carries_null deep
  | some t => exact carries_text t deep

theorem Carries.ofOption {α : Type} {wire : α → Value} {texts : α → List Text} {deep : Nat}
    (each : ∀ a, Carries (wire a) (texts a) deep) (o : Option α) :
    Carries (.ofOption wire o) (o.toList.flatMap texts) deep := by
  cases o with
  | none => exact carries_null deep
  | some a => simpa [Value.ofOption] using each a

theorem Carries.list {α : Type} {wire : α → Value} {texts : α → List Text} {deep : Nat}
    (each : ∀ a, Carries (wire a) (texts a) deep) (as : List α) :
    Carries (.list (as.map wire)) (as.flatMap texts) (deep + 1) where
  exact := .list (by simpa using fun a _ => (each a).exact)
  keyed := wellKeyed_list_iff.mpr (by simpa using fun a _ => (each a).keyed)
  shallow := depth_list_le (by simpa using fun a _ => (each a).shallow)
  surrogates := by
    rw [hasSurrogate, Reading.any_list, List.any_map, List.any_flatMap]
    congr 1
    funext a
    exact (each a).surrogates

theorem Carries.object {v : Value} {es : List (Scalar × Value)} {tss : List (List Text)} {deep : Nat}
    (isMap : v = .map es) (names : List Text) (named : es.map Prod.fst = names.map .text) (distinct : names.Nodup)
    (whole : ∀ t ∈ names, t.hasSurrogate = false) (each : List.Forall₂ (fun e ts => Carries e.2 ts deep) es tss) :
    Carries v tss.flatten (deep + 1) := by
  subst isMap
  have keys : ∀ e ∈ es, ∃ t, e.1 = .text t ∧ t.hasSurrogate = false := by
    intro e inside
    have key : e.1 ∈ names.map .text := named ▸ List.mem_map_of_mem inside
    obtain ⟨t, isName, same⟩ := List.mem_map.mp key
    exact ⟨t, same.symm, whole t isName⟩
  have parts : ∀ e ∈ es, ∃ ts, Carries e.2 ts deep := by
    intro e inside
    obtain ⟨i, bound, rfl⟩ := List.mem_iff_getElem.mp inside
    exact ⟨_, each.get bound (each.length_eq ▸ bound)⟩
  refine ⟨.map ?_ ?_, wellKeyed_map_iff.mpr ⟨?_, ?_⟩, depth_map_le ?_, ?_⟩
  · intro e inside
    obtain ⟨t, isText, _⟩ := keys e inside
    exact ⟨t, isText⟩
  · intro e inside
    obtain ⟨ts, carries⟩ := parts e inside
    exact carries.exact
  · have canon : es.map (fun e => e.1.canon) = (es.map Prod.fst).map Scalar.canon := by simp
    rw [Mapping.Distinct, Assoc.Distinct, canon, named, List.map_map]
    exact distinct.map fun a b same => Scalar.text.inj same
  · intro e inside
    obtain ⟨ts, carries⟩ := parts e inside
    exact carries.keyed
  · intro e inside
    obtain ⟨ts, carries⟩ := parts e inside
    exact carries.shallow
  · rw [hasSurrogate_map keys]
    clear named keys parts
    induction each with
    | nil => rfl
    | cons first _ ih => rw [List.any_cons, List.flatten_cons, List.any_append, first.surrogates, ih]

end Value

end TokenIntake
