import Mathlib.Data.List.Nodup
import TokenIntake.Proofs.Settings.MergeLaws

namespace TokenIntake

/-- The same value but for the order of entries: mappings have the same keys, and the same value under each of them. -/
inductive Value.Same : Value → Value → Prop where
  | refl (v : Value) : Same v v
  | map {es fs : Mapping} (keys : (es.map Prod.fst).Perm (fs.map Prod.fst))
    (each : ∀ k v w, es.get? k = some v → fs.get? k = some w → Same v w) : Same (.map es) (.map fs)

namespace Mapping

variable {es fs earlier : Mapping}

theorem get?_of_keys (keys : (es.map Prod.fst).Perm (fs.map Prod.fst)) (k : Scalar) :
    (es.get? k = none ∧ fs.get? k = none) ∨ ∃ v w, es.get? k = some v ∧ fs.get? k = some w := by
  have among : ∀ m : Mapping, m.contains k = true ↔ ∃ k' ∈ m.map Prod.fst, k'.canon = k.canon := by
    intro m
    simp [contains_iff]
  have alike : (es.get? k).isSome = (fs.get? k).isSome := by
    refine Bool.eq_iff_iff.mpr ((among es).trans (Iff.trans ?_ (among fs).symm))
    simp only [keys.mem_iff]
  cases bound : es.get? k with
  | none =>
    rw [bound] at alike
    exact .inl ⟨rfl, Option.isNone_iff_eq_none.mp (Option.isSome_eq_false_iff.mp alike.symm)⟩
  | some v =>
    rw [bound] at alike
    obtain ⟨w, bound'⟩ := Option.isSome_iff_exists.mp alike.symm
    exact .inr ⟨v, w, rfl, bound'⟩

theorem nodup_keys (distinct : es.Distinct) : (es.map Prod.fst).Nodup := by
  have keys : ((es.map Prod.fst).map Scalar.canon).Nodup := by
    rw [List.map_map]
    exact distinct
  exact List.Nodup.of_map Scalar.canon keys

theorem text_mem_keys_iff (texts : ∀ e ∈ es, ∃ t, e.1 = .text t) {t : Text} :
    .text t ∈ es.map Prod.fst ↔ (es.field? t).isSome = true := by
  have free : es.field? t = none ↔ ∀ e ∈ es, e.1.canon ≠ .text t := Assoc.get?_eq_none_iff
  rw [Option.isSome_iff_ne_none, Ne, free, List.mem_map]
  constructor
  · rintro ⟨e, inside, isKey⟩ none
    exact none e inside (congrArg Scalar.canon isKey)
  · intro some
    by_contra none
    refine some fun e inside isKey => none ⟨e, inside, ?_⟩
    obtain ⟨t', isText⟩ := texts e inside
    rw [isText] at isKey ⊢
    exact isKey

theorem exists_field? (texts : ∀ e ∈ es, ∃ t, e.1 = .text t) {k : Scalar} {v : Value} (bound : es.get? k = some v) :
    ∃ t, ∀ m : Mapping, m.get? k = m.field? t := by
  obtain ⟨e, inside, same, _⟩ := Assoc.exists_of_get?_eq_some bound
  obtain ⟨t, isText⟩ := texts e inside
  exact ⟨t, fun m => Assoc.get?_congr (same.symm.trans (congrArg Scalar.canon isText))⟩

theorem keys_perm (distinct : es.Distinct) (distinct' : fs.Distinct) (texts : ∀ e ∈ es, ∃ t, e.1 = .text t)
    (texts' : ∀ e ∈ fs, ∃ t, e.1 = .text t) (same : ∀ t, (es.field? t).isSome = (fs.field? t).isSome) :
    (es.map Prod.fst).Perm (fs.map Prod.fst) := by
  rw [List.perm_ext_iff_of_nodup (nodup_keys distinct) (nodup_keys distinct')]
  have only : ∀ {m : Mapping} {k : Scalar}, (∀ e ∈ m, ∃ t, e.1 = .text t) → k ∈ m.map Prod.fst →
      ∃ t, k = .text t := by
    intro m k texts inside
    obtain ⟨e, isEntry, rfl⟩ := List.mem_map.mp inside
    exact texts e isEntry
  have alike : ∀ t, .text t ∈ es.map Prod.fst ↔ .text t ∈ fs.map Prod.fst := by
    intro t
    rw [text_mem_keys_iff texts, text_mem_keys_iff texts', same]
  intro k
  constructor
  · intro inside
    obtain ⟨t, rfl⟩ := only texts inside
    exact (alike t).mp inside
  · intro inside
    obtain ⟨t, rfl⟩ := only texts' inside
    exact (alike t).mpr inside

theorem same_over (distinctEarlier : earlier.Distinct) (distinct : es.Distinct) (distinct' : fs.Distinct)
    (keys : (es.map Prod.fst).Perm (fs.map Prod.fst))
    (each : ∀ k v w, es.get? k = some v → fs.get? k = some w →
      Value.Same (Value.over (earlier.get? k) v) (Value.over (earlier.get? k) w)) :
    Value.Same (.map (Mapping.over earlier es)) (.map (Mapping.over earlier fs)) := by
  refine .map ?_ fun k v w lower upper => ?_
  · have new : ∀ m : Mapping, (m.filter fun e => !earlier.contains e.1).map Prod.fst =
        (m.map Prod.fst).filter fun k => !earlier.contains k := by
      intro m
      rw [List.filter_map]
      rfl
    rw [(over_joins distinctEarlier distinct).keys, (over_joins distinctEarlier distinct').keys, new, new]
    exact (keys.filter _).append_left _
  · rw [get?_over distinct] at lower
    rw [get?_over distinct'] at upper
    rcases get?_of_keys keys k with ⟨unbound, unbound'⟩ | ⟨x, y, bound, bound'⟩
    · rw [unbound] at lower
      rw [unbound'] at upper
      cases Option.some.inj (lower.symm.trans upper)
      exact .refl v
    · rw [bound] at lower
      rw [bound'] at upper
      cases lower
      cases upper
      exact each k x y bound bound'

end Mapping

namespace Value

variable {v w : Value} {es fs : Mapping}

theorem Same.get? (same : Same (.map es) (.map fs)) (k : Scalar) : Option.Rel Same (es.get? k) (fs.get? k) := by
  cases same with
  | refl v =>
    cases es.get? k with
    | none => exact .none
    | some v => exact .some (.refl v)
  | map keys each =>
    rcases Mapping.get?_of_keys keys k with ⟨unbound, unbound'⟩ | ⟨v, w, bound, bound'⟩
    · rw [unbound, unbound']
      exact .none
    · rw [bound, bound']
      exact .some (each k v w bound bound')

theorem Same.eq_nil_iff (same : Same (.map es) (.map fs)) : es = [] ↔ fs = [] := by
  cases same with
  | refl v => exact Iff.rfl
  | map keys each =>
    have count := keys.length_eq
    rw [List.length_map, List.length_map] at count
    rw [← List.length_eq_zero_iff, count, List.length_eq_zero_iff]

theorem Same.at? (same : Same v w) (path : List Text) : Option.Rel Same (v.at? path) (w.at? path) := by
  induction path generalizing v w with
  | nil => exact .some same
  | cons k rest ih =>
    cases same with
    | refl v =>
      cases v.at? (k :: rest) with
      | none => exact .none
      | some v => exact .some (.refl v)
    | @map es fs keys each =>
      rw [at?_cons_of_entries rfl, at?_cons_of_entries rfl]
      have found : Option.Rel Same (es.field? k) (fs.field? k) := (Same.map keys each).get? (.text k)
      revert found
      generalize es.field? k = a
      generalize fs.field? k = b
      rintro (inner | _)
      · exact ih inner
      · exact .none

theorem same_getD {found found' : Option Value} (same : Option.Rel Same found found') (fallback : Value) :
    Same (found.getD fallback) (found'.getD fallback) := by
  cases same with
  | some same => exact same
  | none => exact .refl fallback

theorem Same.over {o : Option Value} (keyedOld : ∀ old ∈ o, old.WellKeyed) (same : Same v w) (keyed : v.WellKeyed)
    (keyed' : w.WellKeyed) : Same (Value.over o v) (Value.over o w) := by
  induction same generalizing o with
  | refl v => exact .refl _
  | @map es fs keys each ih =>
    obtain ⟨distinct, parts⟩ := wellKeyed_map_iff.mp keyed
    obtain ⟨distinct', parts'⟩ := wellKeyed_map_iff.mp keyed'
    cases below : o.bind entries? with
    | none =>
      rw [over_of_no_earlier below, over_of_no_earlier below]
      exact .map keys each
    | some earlier =>
      obtain ⟨old, rfl, opened⟩ := Option.bind_eq_some_iff.mp below
      have keyedEarlier := (keyedOld old rfl).entries opened
      rw [Value.over, Value.over, below]
      obtain ⟨distinctEarlier, _⟩ := wellKeyed_map_iff.mp keyedEarlier
      refine Mapping.same_over distinctEarlier distinct distinct' keys fun k v w bound bound' => ?_
      refine ih k v w bound bound' (fun old isOld => ?_) (get?_wellKeyed keyed bound) (get?_wellKeyed keyed' bound')
      exact get?_wellKeyed keyedEarlier isOld

end Value

theorem Mapping.same_merge {lower : List Mapping} {es fs : Mapping}
    (keyedLower : ∀ m ∈ lower, (Value.map m).WellKeyed) (same : Value.Same (.map es) (.map fs))
    (keyed : (Value.map es).WellKeyed) (keyed' : (Value.map fs).WellKeyed) :
    Value.Same (.map (merge (lower ++ [es]))) (.map (merge (lower ++ [fs]))) := by
  have keyedMerged : ∀ old ∈ some (Value.map (merge lower)), old.WellKeyed := by
    simpa using merge_keeps Value.wellKeyed_hereditary keyedLower
  rw [merge_snoc, merge_snoc]
  exact same.over keyedMerged keyed keyed'

end TokenIntake
