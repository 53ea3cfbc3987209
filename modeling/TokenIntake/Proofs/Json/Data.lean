import TokenIntake.Json.Reader
import TokenIntake.Proofs.Except
import TokenIntake.Proofs.Text.Digits
import TokenIntake.Proofs.Value.Assoc
import TokenIntake.Proofs.Value.Depth
import TokenIntake.Proofs.Value.Reading

namespace TokenIntake

/-- What JSON can say. Its integers may be of any size, and two entries of a mapping may have one key. -/
inductive Value.Data : Value → Prop where
  | null : Data .null
  | bool (b : Bool) : Data (.bool b)
  | int (i : Int) : Data (.int i)
  | float (x : Binary64) : Data (.float x)
  | text (t : Text) : Data (.text t)
  | list {xs : List Value} (each : ∀ x ∈ xs, Data x) : Data (.list xs)
  | map {es : List (Scalar × Value)} (keys : ∀ e ∈ es, ∃ t, e.1 = .text t) (each : ∀ e ∈ es, Data e.2) :
    Data (.map es)

namespace Value

theorem data_list_iff {xs : List Value} : (Value.list xs).Data ↔ ∀ x ∈ xs, x.Data := by
  refine ⟨fun data => ?_, .list⟩
  cases data with
  | list each => exact each

theorem data_map_iff {es : List (Scalar × Value)} :
    (Value.map es).Data ↔ (∀ e ∈ es, ∃ t, e.1 = .text t) ∧ ∀ e ∈ es, e.2.Data := by
  refine ⟨fun data => ?_, fun ⟨keys, each⟩ => .map keys each⟩
  cases data with
  | map keys each => exact ⟨keys, each⟩

def hasLong (v : Value) : Bool := v.read (.any Scalar.isLong)

theorem hasLong_scalar (s : Scalar) : (Value.scalar s).hasLong = s.isLong := by
  rw [hasLong, read]
  rfl

theorem hasLong_list (xs : List Value) : (Value.list xs).hasLong = xs.any hasLong := Reading.any_list _ xs

theorem hasLong_map {es : List (Scalar × Value)} (keys : ∀ e ∈ es, ∃ t, e.1 = .text t) :
    (Value.map es).hasLong = es.any fun e => e.2.hasLong := by
  rw [hasLong, Reading.any_map, Bool.eq_iff_iff, List.any_eq_true, List.any_eq_true]
  refine exists_congr fun e => and_congr_right fun inside => ?_
  obtain ⟨t, isText⟩ := keys e inside
  rw [isText]
  rfl

def Sound (v : Value) : Prop := v.Data ∧ v.hasLong = false

theorem sound_scalar {s : Scalar} (data : (Value.scalar s).Data) (short : s.isLong = false) : Sound (.scalar s) :=
  ⟨data, (hasLong_scalar s).trans short⟩

theorem sound_list_iff {xs : List Value} : Sound (.list xs) ↔ ∀ x ∈ xs, Sound x := by
  rw [Sound, data_list_iff, hasLong_list, List.any_eq_false]
  simp only [Bool.not_eq_true, Sound, forall₂_and]

theorem sound_map_iff {es : List (Scalar × Value)} :
    Sound (.map es) ↔ ∀ e ∈ es, (∃ t, e.1 = .text t) ∧ Sound e.2 := by
  rw [Sound, data_map_iff, and_assoc, forall₂_and]
  refine and_congr_right fun keys => ?_
  rw [hasLong_map keys, List.any_eq_false]
  simp only [Bool.not_eq_true, Sound, forall₂_and]

def SoundWithin (room : Nat) (v : Value) : Prop := v.Sound ∧ v.depth ≤ room

theorem soundWithin_scalar {s : Scalar} (sound : (Value.scalar s).Sound) (room : Nat) : SoundWithin room (.scalar s) :=
  ⟨sound, Nat.zero_le room⟩

theorem soundWithin_list {room : Nat} {xs : List Value} (each : ∀ x ∈ xs, SoundWithin room x) :
    SoundWithin (room + 1) (.list xs) :=
  ⟨sound_list_iff.mpr fun x inside => (each x inside).1, depth_list_le fun x inside => (each x inside).2⟩

theorem soundWithin_map {room : Nat} {es : List (Scalar × Value)}
    (each : ∀ e ∈ es, (∃ t, e.1 = .text t) ∧ SoundWithin room e.2) : SoundWithin (room + 1) (.map es) :=
  ⟨sound_map_iff.mpr fun e inside => ⟨(each e inside).1, (each e inside).2.1⟩,
    depth_map_le fun e inside => (each e inside).2.2⟩

end Value

namespace Json

open Value

theorem digitsValue_lt {t : Text} (digits : ∀ c ∈ t, c.isDigit = true) : t.digitsValue < 10 ^ t.length := by
  have small : ∀ d ∈ t.reverse.map CodePoint.digitValue, d < 10 := by
    intro d inside
    obtain ⟨c, isItem, rfl⟩ := List.mem_map.mp inside
    have digit := CodePoint.isDigit_iff.mp (digits c (List.mem_reverse.mp isItem))
    rw [CodePoint.digitValue]
    omega
  have bound := Nat.ofDigits_lt_base_pow_length (b := 10) (by decide) small
  rwa [List.length_map, List.length_reverse, ← Text.positionalValue, ← Text.digitsValue_eq_positionalValue] at bound

theorem digits_of_wholePart {t whole rest : Text} (found : wholePart? t = some (whole, rest)) :
    ∀ c ∈ whole, c.isDigit = true := by
  cases t with
  | nil => cases found
  | cons c t =>
    rw [wholePart?] at found
    split at found
    · rename_i zero
      cases found
      exact List.forall_mem_singleton.mpr (zero ▸ by decide)
    · split at found
      · rename_i digit
        cases found
        exact List.forall_mem_cons.mpr ⟨digit, fun d inside => List.all_eq_true.mp List.all_takeWhile d inside⟩
      · cases found

theorem sound_of_readNumber {start t rest : Text} {negative : Bool} {s : Scalar}
    (read : readNumber start negative t = .ok (s, rest)) : Sound (.scalar s) := by
  unfold readNumber at read
  split at read
  · cases read
  · rename_i whole after found
    split at read
    · cases read
      exact sound_scalar (.float _) rfl
    · split at read
      · cases read
        exact sound_scalar (.float _) rfl
      · split at read
        · cases read
        · rename_i fits
          cases read
          have value := digitsValue_lt (digits_of_wholePart found)
          have most : 10 ^ whole.length ≤ 10 ^ maxIntDigits := Nat.pow_le_pow_right (by decide) (Nat.le_of_not_lt fits)
          have small := Nat.lt_of_lt_of_le value most
          refine sound_scalar (.int _) (Scalar.isLong_int ?_)
          cases negative <;> simpa using small

theorem sound_of_readScalar {t rest : Text} {s : Scalar} (read : readScalar t = .ok (s, rest)) :
    Sound (.scalar s) := by
  have spelled : ∀ entry ∈ words, Sound (.scalar entry.2) := by
    simp only [words, List.forall_mem_cons]
    exact ⟨sound_scalar .null rfl, sound_scalar (.bool true) rfl, sound_scalar (.bool false) rfl,
      sound_scalar (.float _) rfl, sound_scalar (.float _) rfl, sound_scalar (.float _) rfl, by simp⟩
  unfold readScalar at read
  split at read
  · rename_i found
    cases read
    exact spelled _ (List.mem_of_find?_eq_some found)
  · split at read
    · split at read
      · exact sound_of_readNumber read
      · exact sound_of_readNumber read
    · cases read

structure ReadsSound (fuel : Nat) : Prop where
  value : ∀ {room t v rest}, readValue fuel room t = .ok (v, rest) → SoundWithin room v
  items : ∀ {room t xs rest}, readItems fuel room t = .ok (xs, rest) → ∀ x ∈ xs, SoundWithin room x
  members : ∀ {room t es rest}, readMembers fuel room t = .ok (es, rest) →
    ∀ e ∈ es, (∃ name, e.1 = .text name) ∧ SoundWithin room e.2

variable {fuel room : Nat} {t rest : Text}

theorem ReadsSound.readValue (before : ReadsSound fuel) {v : Value}
    (read : readValue (fuel + 1) room t = .ok (v, rest)) : SoundWithin room v := by
  cases t with
  | nil => cases read
  | cons c t =>
    unfold Json.readValue at read
    split at read
    · obtain ⟨⟨s, after⟩, _, same⟩ := map_eq_ok read
      cases same
      exact soundWithin_scalar (sound_scalar (.text s) rfl) room
    · split at read
      · split at read
        · cases read
        · split at read
          · cases read
            exact soundWithin_list (List.forall_mem_nil _)
          · obtain ⟨⟨xs, after⟩, items, same⟩ := map_eq_ok read
            cases same
            exact soundWithin_list (before.items items)
        · cases read
      · split at read
        · split at read
          · cases read
          · split at read
            · cases read
              exact soundWithin_map (List.forall_mem_nil _)
            · obtain ⟨⟨es, after⟩, members, same⟩ := map_eq_ok read
              cases same
              exact soundWithin_map (before.members members)
          · cases read
        · obtain ⟨⟨s, after⟩, scalar, same⟩ := map_eq_ok read
          cases same
          exact soundWithin_scalar (sound_of_readScalar scalar) room

theorem ReadsSound.readItems (before : ReadsSound fuel) {xs : List Value}
    (read : readItems (fuel + 1) room t = .ok (xs, rest)) : ∀ x ∈ xs, SoundWithin room x := by
  rw [Json.readItems] at read
  split at read
  · cases read
  · rename_i x after item
    have first := before.value item
    split at read
    · split at read
      · cases read
        exact List.forall_mem_singleton.mpr first
      · split at read
        · obtain ⟨⟨others, _⟩, later, same⟩ := map_eq_ok read
          cases same
          exact List.forall_mem_cons.mpr ⟨first, before.items later⟩
        · cases read
    · cases read

theorem ReadsSound.readMembers (before : ReadsSound fuel) {es : List (Scalar × Value)}
    (read : readMembers (fuel + 1) room t = .ok (es, rest)) :
    ∀ e ∈ es, (∃ name, e.1 = .text name) ∧ SoundWithin room e.2 := by
  rw [Json.readMembers] at read
  split at read
  · cases read
  · rename_i name after named
    split at read
    · cases read
    · split at read
      · cases read
      · rename_i x after value
        have first := before.value value
        split at read
        · split at read
          · cases read
            exact List.forall_mem_singleton.mpr ⟨⟨name, rfl⟩, first⟩
          · split at read
            · obtain ⟨⟨others, _⟩, later, same⟩ := map_eq_ok read
              cases same
              exact List.forall_mem_cons.mpr ⟨⟨⟨name, rfl⟩, first⟩, before.members later⟩
            · cases read
        · cases read

end Json

end TokenIntake
