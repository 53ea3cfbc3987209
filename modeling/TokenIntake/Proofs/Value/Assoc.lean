import TokenIntake.Value.Assoc

namespace TokenIntake.Assoc

variable {α β κ : Type} [DecidableEq κ] {key : α → κ} {entries more : List (α × β)} {k : α} {v : β}

theorem get?_eq_none_iff : get? key entries k = none ↔ ∀ e ∈ entries, key e.1 ≠ key k := by
  induction entries with
  | nil => simp [get?]
  | cons e rest ih =>
    by_cases same : key e.1 = key k
    · simp [get?, same]
    · simp [get?, same, ih]

theorem exists_of_get?_eq_some (bound : get? key entries k = some v) : ∃ e ∈ entries, key e.1 = key k ∧ e.2 = v := by
  induction entries with
  | nil => cases bound
  | cons e rest ih =>
    by_cases same : key e.1 = key k
    · simp only [get?, same, if_true] at bound
      exact ⟨e, List.mem_cons_self, same, Option.some.inj bound⟩
    · simp only [get?, same, if_false] at bound
      obtain ⟨e', inside, asked⟩ := ih bound
      exact ⟨e', List.mem_cons_of_mem e inside, asked⟩

theorem get?_congr {k' : α} (same : key k = key k') : get? key entries k = get? key entries k' := by
  induction entries with
  | nil => rfl
  | cons e rest ih => simp only [get?, same, ih]

theorem get?_append (entries more : List (α × β)) (k : α) :
    get? key (entries ++ more) k = (get? key entries k).or (get? key more k) := by
  induction entries with
  | nil => rfl
  | cons e rest ih =>
    by_cases same : key e.1 = key k
    · simp only [List.cons_append, get?, same, if_true, Option.some_or]
    · simp only [List.cons_append, get?, same, if_false, ih]

theorem Distinct.get?_of_mem (distinct : Distinct key entries) {e : α × β} (inside : e ∈ entries) :
    get? key entries e.1 = some e.2 := by
  induction entries with
  | nil => cases inside
  | cons first rest ih =>
    obtain ⟨fresh, others⟩ := List.nodup_cons.mp distinct
    rcases List.mem_cons.mp inside with rfl | later
    · simp [get?]
    · have other : key first.1 ≠ key e.1 := by
        intro same
        exact fresh (List.mem_map.mpr ⟨e, later, same.symm⟩)
      simpa [get?, other] using ih others later

theorem put_of_fresh (fresh : ∀ e ∈ entries, key e.1 ≠ key k) : put key entries k v = entries ++ [(k, v)] := by
  induction entries with
  | nil => rfl
  | cons e rest ih =>
    obtain ⟨other, fresh⟩ := List.forall_mem_cons.mp fresh
    simp only [put, other, if_false, ih fresh, List.cons_append]

theorem put_of_bound (distinct : Distinct key entries) (bound : ∃ e ∈ entries, key e.1 = key k) :
    put key entries k v = entries.map fun e => if key e.1 = key k then (e.1, v) else e := by
  induction entries with
  | nil =>
    obtain ⟨e, inside, _⟩ := bound
    cases inside
  | cons first rest ih =>
    obtain ⟨fresh, others⟩ := List.nodup_cons.mp distinct
    by_cases same : key first.1 = key k
    · have untouched : ∀ e ∈ rest, (if key e.1 = key k then (e.1, v) else e) = e := by
        intro e inside
        have other : key e.1 ≠ key k := fun again => fresh (List.mem_map.mpr ⟨e, inside, again.trans same.symm⟩)
        rw [if_neg other]
      rw [put, if_pos same, List.map_cons, if_pos same, List.map_congr_left untouched, List.map_id']
    · have later : ∃ e ∈ rest, key e.1 = key k := by
        obtain ⟨e, inside, asked⟩ := bound
        rcases List.mem_cons.mp inside with rfl | inside
        · exact (same asked).elim
        · exact ⟨e, inside, asked⟩
      rw [put, if_neg same, List.map_cons, if_neg same, ih others later]

theorem mem_put {e : α × β} (inside : e ∈ put key entries k v) :
    e ∈ entries ∨ e.2 = v ∧ key e.1 = key k ∧ (e.1 = k ∨ ∃ old, (e.1, old) ∈ entries) := by
  induction entries with
  | nil =>
    rw [List.mem_singleton.mp inside]
    exact .inr ⟨rfl, rfl, .inl rfl⟩
  | cons first rest ih =>
    by_cases same : key first.1 = key k
    · simp only [put, same, if_true, List.mem_cons] at inside
      rcases inside with rfl | later
      · exact .inr ⟨rfl, same, .inr ⟨first.2, List.mem_cons_self⟩⟩
      · exact .inl (List.mem_cons_of_mem first later)
    · simp only [put, same, if_false, List.mem_cons] at inside
      rcases inside with rfl | later
      · exact .inl List.mem_cons_self
      · rcases ih later with old | ⟨new, asked, isNew | ⟨old, among⟩⟩
        · exact .inl (List.mem_cons_of_mem first old)
        · exact .inr ⟨new, asked, .inl isNew⟩
        · exact .inr ⟨new, asked, .inr ⟨old, List.mem_cons_of_mem first among⟩⟩

theorem values_put {e : α × β} (inside : e ∈ put key entries k v) : e.2 = v ∨ ∃ e' ∈ entries, e'.2 = e.2 := by
  rcases mem_put inside with old | ⟨new, _⟩
  · exact .inr ⟨e, old, rfl⟩
  · exact .inl new

theorem put_ne_nil (entries : List (α × β)) (k : α) (v : β) : put key entries k v ≠ [] := by
  cases entries with
  | nil => simp [put]
  | cons first rest =>
    rw [put]
    split <;> simp

theorem Distinct.putAll (distinct : Distinct key entries) (more : List (α × β)) :
    Distinct key (putAll key entries more) := by
  induction more generalizing entries with
  | nil => exact distinct
  | cons e more ih => exact ih (distinct.put key e.1 e.2)

theorem values_putAll {e : α × β} (inside : e ∈ putAll key entries more) :
    ∃ e' ∈ entries ++ more, e'.2 = e.2 := by
  induction more generalizing entries with
  | nil => exact ⟨e, by simpa [putAll] using inside, rfl⟩
  | cons next more ih =>
    obtain ⟨e', among, value⟩ := ih inside
    rcases List.mem_append.mp among with old | later
    · rcases values_put old with new | ⟨e'', older, value'⟩
      · exact ⟨next, by simp, new.symm.trans value⟩
      · exact ⟨e'', List.mem_append_left _ older, value'.trans value⟩
    · exact ⟨e', by simp [later], value⟩

omit [DecidableEq κ] in
theorem distinct_nil : Distinct key ([] : List (α × β)) := List.nodup_nil

theorem distinct_ofPairs (pairs : List (α × β)) : Distinct key (ofPairs key pairs) := distinct_nil.putAll pairs

theorem values_ofPairs {pairs : List (α × β)} {e : α × β} (inside : e ∈ ofPairs key pairs) :
    ∃ e' ∈ pairs, e'.2 = e.2 := by
  obtain ⟨e', among, value⟩ := values_putAll inside
  exact ⟨e', among, value⟩

theorem putAll_of_distinct (distinct : Distinct key (entries ++ more)) :
    putAll key entries more = entries ++ more := by
  induction more generalizing entries with
  | nil => simp [putAll]
  | cons e more ih =>
    have fresh : ∀ e' ∈ entries, key e'.1 ≠ key e.1 := by
      intro e' inside same
      rw [Distinct, List.map_append, List.nodup_append] at distinct
      exact distinct.2.2 _ (List.mem_map.mpr ⟨e', inside, rfl⟩) _ (List.mem_map.mpr ⟨e, List.mem_cons_self, rfl⟩) same
    have shifted : entries ++ e :: more = (entries ++ [e]) ++ more := by simp
    rw [shifted] at distinct ⊢
    have step : Assoc.putAll key entries (e :: more) = Assoc.putAll key (put key entries e.1 e.2) more := rfl
    rw [step, put_of_fresh fresh, ih distinct]

theorem Distinct.ofPairs {pairs : List (α × β)} (distinct : Distinct key pairs) : ofPairs key pairs = pairs :=
  putAll_of_distinct distinct

theorem erase_of_distinct (distinct : Distinct key entries) :
    erase key entries k = entries.filter fun e => key e.1 ≠ key k := by
  induction entries with
  | nil => rfl
  | cons first rest ih =>
    obtain ⟨fresh, others⟩ := List.nodup_cons.mp distinct
    by_cases same : key first.1 = key k
    · have kept : ∀ e ∈ rest, decide (key e.1 ≠ key k) = true := by
        intro e inside
        refine decide_eq_true fun again => fresh (List.mem_map.mpr ⟨e, inside, ?_⟩)
        exact again.trans same.symm
      rw [erase, if_pos same, List.filter_cons_of_neg (by simp [same]), List.filter_eq_self.mpr kept]
    · rw [erase, if_neg same, List.filter_cons_of_pos (by simp [same]), ih others]

theorem values_put_eq_replace [DecidableEq β] {old : β} (bound : get? key entries k = some old)
    (own : ∀ e ∈ entries, e.2 = old → key e.1 = key k) :
    (put key entries k v).map Prod.snd = (entries.map Prod.snd).replace old v := by
  induction entries with
  | nil => cases bound
  | cons first rest ih =>
    by_cases same : key first.1 = key k
    · simp only [get?, same, if_true, Option.some.injEq] at bound
      simp [put, same, bound]
    · have other : first.2 ≠ old := fun value => same (own first List.mem_cons_self value)
      simp only [get?, same, if_false] at bound
      have later := ih bound fun e inside => own e (List.mem_cons_of_mem first inside)
      simp [put, same, List.replace_cons, beq_eq_false_iff_ne.mpr other.symm, later]

theorem values_erase_eq_erase [DecidableEq β] {old : β} (bound : get? key entries k = some old)
    (own : ∀ e ∈ entries, e.2 = old → key e.1 = key k) :
    (erase key entries k).map Prod.snd = (entries.map Prod.snd).erase old := by
  induction entries with
  | nil => cases bound
  | cons first rest ih =>
    by_cases same : key first.1 = key k
    · simp only [get?, same, if_true, Option.some.injEq] at bound
      simp [erase, same, bound]
    · have other : first.2 ≠ old := fun value => same (own first List.mem_cons_self value)
      simp only [get?, same, if_false] at bound
      have later := ih bound fun e inside => own e (List.mem_cons_of_mem first inside)
      simp [erase, same, other, later]

end TokenIntake.Assoc
