import TokenIntake.Value.Depth

namespace TokenIntake.Value

theorem itemsDepth_le_iff {xs : List Value} {n : Nat} : itemsDepth xs ≤ n ↔ ∀ x ∈ xs, x.depth ≤ n := by
  induction xs with
  | nil => simp [itemsDepth]
  | cons x xs ih => rw [itemsDepth, Nat.max_le, List.forall_mem_cons, ih]

theorem entriesDepth_le_iff {es : List (Scalar × Value)} {n : Nat} :
    entriesDepth es ≤ n ↔ ∀ e ∈ es, e.2.depth ≤ n := by
  induction es with
  | nil => simp [entriesDepth]
  | cons e es ih =>
    obtain ⟨k, x⟩ := e
    rw [entriesDepth, Nat.max_le, List.forall_mem_cons, ih]

theorem depth_list_le {xs : List Value} {n : Nat} (each : ∀ x ∈ xs, x.depth ≤ n) : (Value.list xs).depth ≤ n + 1 := by
  cases xs with
  | nil => exact Nat.zero_le _
  | cons x xs => exact Nat.succ_le_succ (itemsDepth_le_iff.mpr each)

theorem depth_map_le {es : List (Scalar × Value)} {n : Nat} (each : ∀ e ∈ es, e.2.depth ≤ n) :
    (Value.map es).depth ≤ n + 1 := by
  cases es with
  | nil => exact Nat.zero_le _
  | cons e es => exact Nat.succ_le_succ (entriesDepth_le_iff.mpr each)

theorem depth_lt_of_mem_list {x : Value} {xs : List Value} (inside : x ∈ xs) : x.depth < (Value.list xs).depth := by
  cases xs with
  | nil => cases inside
  | cons y ys => exact Nat.lt_succ_of_le (itemsDepth_le_iff.mp (Nat.le_refl (itemsDepth (y :: ys))) x inside)

theorem depth_lt_of_mem_map {e : Scalar × Value} {es : List (Scalar × Value)} (inside : e ∈ es) :
    e.2.depth < (Value.map es).depth := by
  cases es with
  | nil => cases inside
  | cons f fs => exact Nat.lt_succ_of_le (entriesDepth_le_iff.mp (Nat.le_refl (entriesDepth (f :: fs))) e inside)

theorem depth_map_le_iff {es : List (Scalar × Value)} {n : Nat} :
    (Value.map es).depth ≤ n ↔ ∀ e ∈ es, e.2.depth < n := by
  constructor
  · exact fun bound e inside => Nat.lt_of_lt_of_le (depth_lt_of_mem_map inside) bound
  · intro each
    cases es with
    | nil => exact Nat.zero_le n
    | cons e es =>
      obtain ⟨k, rfl⟩ : ∃ k, n = k + 1 := Nat.exists_eq_succ_of_ne_zero fun zero =>
        absurd (each e List.mem_cons_self) (by omega)
      exact depth_map_le fun e' inside => Nat.le_of_lt_succ (each e' inside)

theorem depth_list_le_iff {xs : List Value} {n : Nat} : (Value.list xs).depth ≤ n ↔ ∀ x ∈ xs, x.depth < n := by
  constructor
  · exact fun bound x inside => Nat.lt_of_lt_of_le (depth_lt_of_mem_list inside) bound
  · intro each
    cases xs with
    | nil => exact Nat.zero_le n
    | cons x xs =>
      obtain ⟨k, rfl⟩ : ∃ k, n = k + 1 := Nat.exists_eq_succ_of_ne_zero fun zero =>
        absurd (each x List.mem_cons_self) (by omega)
      exact depth_list_le fun x' inside => Nat.le_of_lt_succ (each x' inside)

end TokenIntake.Value
