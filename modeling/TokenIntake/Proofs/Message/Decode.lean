import Mathlib.Data.List.Forall2
import TokenIntake.Message.Decode

namespace TokenIntake

namespace Decoded

variable {α β : Type}

theorem map_eq_good_iff {f : α → β} {x : Decoded α} {b : β} : f <$> x = .good b ↔ ∃ a, x = .good a ∧ f a = b := by
  cases x with
  | good a => simp [Functor.map, map]
  | bad issues => simp [Functor.map, map]

theorem seq_eq_good_iff {f : Decoded (α → β)} {x : Decoded α} {b : β} :
    f <*> x = .good b ↔ ∃ g, f = .good g ∧ ∃ a, x = .good a ∧ g a = b := by
  constructor
  · intro good
    cases f with
    | good g =>
      cases x with
      | good a =>
        cases good
        exact ⟨g, rfl, a, rfl, rfl⟩
      | bad issues => cases good
    | bad issues => cases x <;> cases good
  · rintro ⟨g, rfl, a, rfl, rfl⟩
    rfl

theorem both_eq_good_iff {x : Decoded α} {y : Decoded β} {a : α} {b : β} :
    x.both y = .good (a, b) ↔ x = .good a ∧ y = .good b := by
  cases x <;> cases y <;> simp [both]

theorem check_eq_good_iff {f : α → Decoded β} {x : Decoded α} {b : β} :
    x.check f = .good b ↔ ∃ a, x = .good a ∧ f a = .good b := by
  cases x <;> simp [check]

theorem under_eq_good_iff {step : Issue.Step} {x : Decoded α} {a : α} : x.under step = .good a ↔ x = .good a := by
  cases x <;> simp [under]

theorem object_eq_good_iff {shape : Shape} {read : Mapping → Decoded α} {v : Value} {a : α} :
    object shape read v = .good a ↔ ∃ es, v.entries? = some es ∧ read es = .good a := by
  unfold object
  cases v.entries? <;> simp [fail]

theorem required_eq_good_iff {name : Text} {read : Value → Decoded α} {es : Mapping} {a : α} :
    required name read es = .good a ↔ ∃ v, es.field? name = some v ∧ read v = .good a := by
  rw [required, under_eq_good_iff]
  cases es.field? name <;> simp [fail]

theorem optional_eq_good_none_iff {name : Text} {read : Value → Decoded α} {es : Mapping} :
    optional name read es = .good none ↔ ∀ v, es.field? name = some v → v = .null := by
  unfold optional
  split
  · simp [*]
  · simp [*]
  · simp_all [under_eq_good_iff, map_eq_good_iff]

theorem optional_eq_good_some_iff {name : Text} {read : Value → Decoded α} {es : Mapping} {a : α} :
    optional name read es = .good (some a) ↔ ∃ v, es.field? name = some v ∧ v ≠ .null ∧ read v = .good a := by
  unfold optional
  split
  · simp [*]
  · simp [*]
  · simp_all [under_eq_good_iff, map_eq_good_iff]

theorem items_eq_good_iff {read : Value → Decoded α} {i : Nat} {vs : List Value} {as : List α} :
    items read i vs = .good as ↔ List.Forall₂ (fun v a => read v = .good a) vs as := by
  induction vs generalizing i as with
  | nil => cases as <;> simp [items]
  | cons v vs ih =>
    simp only [items, seq_eq_good_iff, map_eq_good_iff, under_eq_good_iff, exists_exists_and_eq_and, ih,
      List.forall₂_cons_left_iff]
    constructor
    · rintro ⟨a, first, as, rest, rfl⟩
      exact ⟨a, as, first, rest, rfl⟩
    · rintro ⟨a, as, first, rest, rfl⟩
      exact ⟨a, first, as, rest, rfl⟩

theorem list_eq_good_iff {read : Value → Decoded α} {v : Value} {as : List α} :
    list read v = .good as ↔ ∃ vs, v.items? = some vs ∧ List.Forall₂ (fun v a => read v = .good a) vs as := by
  unfold list
  cases v.items? with
  | none => simp [fail]
  | some vs => simp [items_eq_good_iff]

theorem plainText_eq_good_iff {v : Value} {t : Text} :
    plainText v = .good t ↔ v = .text t ∨ ∃ bs, v = .scalar (.bytes bs) ∧ Utf8.decode bs = .ok t := by
  unfold plainText
  split
  · simp
  · rename_i bs
    cases decoded : Utf8.decode bs <;> simp [fail, decoded]
  · rename_i noText noBytes
    refine iff_of_false (by simp [fail]) ?_
    rintro (rfl | ⟨bs, rfl, _⟩)
    · exact noText t rfl
    · exact noBytes bs rfl

theorem utf8Text_eq_good_iff {v : Value} {t : Text} :
    utf8Text v = .good t ↔ plainText v = .good t ∧ t.hasSurrogate = false := by
  simp only [utf8Text, check_eq_good_iff]
  constructor
  · rintro ⟨u, read, kept⟩
    cases whole : u.hasSurrogate with
    | true => simp [whole, fail] at kept
    | false =>
      simp only [whole] at kept
      cases kept
      exact ⟨read, whole⟩
  · rintro ⟨read, whole⟩
    exact ⟨t, read, by simp [whole]⟩

theorem byte_eq_good_iff {v : Value} {n : Fin 256} : byte v = .good n ↔ v = .int n.val := by
  unfold byte
  split
  · rename_i k
    have bound := n.isLt
    split
    · simp only [Decoded.good.injEq, Fin.ext_iff, Value.scalar.injEq, Scalar.int.injEq, Int.ofNat_eq_natCast]
      omega
    · simp only [fail, reduceCtorEq, Value.scalar.injEq, Scalar.int.injEq, Int.ofNat_eq_natCast, false_iff]
      omega
  · simp [fail]
  · simp_all [fail]

theorem uint128_eq_good_iff {v : Value} {u : Uint128} : uint128 v = .good u ↔ Uint128.ofValue v = .ok u := by
  unfold uint128
  cases Uint128.ofValue v <;> simp [fail]

end Decoded

open Decoded

namespace Message

theorem decode_of_entries {v : Value} {fields : Mapping} (mapping : v.entries? = some fields) :
    Message.decode v = Message.decode (.map fields) := by
  simp only [Message.decode, Decoded.object, mapping]
  rfl

theorem decode_good_iff (v : Value) (m : Message) :
    Message.decode v = .good m ↔ ∃ fields, v.entries? = some fields ∧ Message.decode (.map fields) = .good m := by
  cases mapping : v.entries? with
  | none =>
    have bad : Message.decode v = Decoded.fail (.notObject .message) := by
      simp only [Message.decode, Decoded.object, mapping]
    simp [bad, Decoded.fail]
  | some fields => simp [decode_of_entries mapping]

end Message

end TokenIntake
