import TokenIntake.Proofs.Value.Sharing
import TokenIntake.Settings.Merge

namespace TokenIntake

/-- Values that share none of their parts. -/
inductive Value.Tree : Value → Prop where
  | scalar (s : Scalar) : Tree (.scalar s)
  | list {xs : List Value} (each : ∀ x ∈ xs, Tree x) : Tree (.list xs)
  | map {es : List (Scalar × Value)} (each : ∀ e ∈ es, Tree e.2) : Tree (.map es)

theorem Value.Tree.eq_map {v : Value} {es : Mapping} (tree : v.Tree) (mapping : v.entries? = some es) :
    v = .map es ∧ ∀ e ∈ es, e.2.Tree := by
  cases tree with
  | scalar s => cases mapping
  | list each => cases mapping
  | map each =>
    cases mapping
    exact ⟨rfl, each⟩

theorem Value.over_none (v : Value) : Value.over none v = v := by
  cases v with
  | scalar s => rfl
  | list xs => rfl
  | map es => rw [Value.over, Option.bind_none]
  | graph g => rw [Value.over]

namespace Mapping

variable {earlier entries : Mapping}

theorem get?_put (m : Mapping) (k k' : Scalar) (v : Value) :
    get? (put m k v) k' = if k.canon = k'.canon then some v else get? m k' := Assoc.get?_put Scalar.canon m k k' v

theorem get?_cons (e : Scalar × Value) (m : Mapping) (k : Scalar) :
    get? (e :: m) k = if e.1.canon = k.canon then some e.2 else get? m k := rfl

theorem get?_append (m more : Mapping) (k : Scalar) : get? (m ++ more) k = (get? m k).or (get? more k) :=
  Assoc.get?_append m more k

theorem field?_put (m : Mapping) (name name' : Text) (v : Value) :
    field? (put m (.text name) v) name' = if name = name' then some v else field? m name' := by
  rw [field?, field?, get?_put]
  simp only [Scalar.canon, Scalar.text.injEq]

theorem contains_put_of_ne {k k' : Scalar} (other : k.canon ≠ k'.canon) (m : Mapping) (v : Value) :
    contains (put m k v) k' = contains m k' := by
  have asked := get?_put m k k' v
  rw [if_neg other] at asked
  exact congrArg Option.isSome asked

theorem Distinct.put {m : Mapping} (distinct : m.Distinct) (k : Scalar) (v : Value) : (Mapping.put m k v).Distinct :=
  Assoc.Distinct.put Scalar.canon distinct k v

theorem get?_rest {e : Scalar × Value} (distinct : Distinct (e :: entries)) {k : Scalar}
    (same : k.canon = e.1.canon) : get? entries k = none := by
  obtain ⟨fresh, _⟩ := List.nodup_cons.mp distinct
  apply Assoc.get?_eq_none_iff.mpr
  intro e' inside again
  exact fresh (List.mem_map.mpr ⟨e', inside, again.trans same⟩)

theorem get?_putAll (distinct : entries.Distinct) (m : Mapping) (k : Scalar) :
    get? (putAll m entries) k = (get? entries k).or (get? m k) := by
  induction entries generalizing m with
  | nil => rfl
  | cons e rest ih =>
    obtain ⟨_, others⟩ := List.nodup_cons.mp distinct
    have step : putAll m (e :: rest) = putAll (put m e.1 e.2) rest := rfl
    rw [step, ih others, get?_put, get?_cons]
    by_cases same : e.1.canon = k.canon
    · rw [if_pos same, if_pos same, get?_rest distinct same.symm]
      rfl
    · rw [if_neg same, if_neg same]

theorem get?_over (distinct : entries.Distinct) (k : Scalar) :
    get? (Mapping.over earlier entries) k =
      (get? entries k).elim (get? earlier k) fun new => some (Value.over (get? earlier k) new) := by
  induction entries generalizing earlier with
  | nil => rfl
  | cons e rest ih =>
    obtain ⟨_, others⟩ := List.nodup_cons.mp distinct
    rw [Mapping.over, ih others, get?_put, get?_cons]
    by_cases same : e.1.canon = k.canon
    · have asked : get? earlier e.1 = get? earlier k := Assoc.get?_congr same
      rw [if_pos same, if_pos same, get?_rest distinct same.symm, asked]
      rfl
    · rw [if_neg same, if_neg same]

theorem over_eq (distinctEarlier : earlier.Distinct) (distinct : entries.Distinct) :
    Mapping.over earlier entries =
      earlier.map (fun e => (e.1, (get? entries e.1).elim e.2 (Value.over (some e.2)))) ++
        entries.filter fun e => !contains earlier e.1 := by
  induction entries generalizing earlier with
  | nil =>
    have same : ∀ e ∈ earlier, (e.1, (get? [] e.1).elim e.2 (Value.over (some e.2))) = e := fun _ _ => rfl
    rw [List.map_congr_left same, List.map_id', List.filter_nil, List.append_nil]
    rfl
  | cons e rest ih =>
    obtain ⟨fresh, others⟩ := List.nodup_cons.mp distinct
    have kept : ∀ v, rest.filter (fun x => !contains (put earlier e.1 v) x.1) =
        rest.filter fun x => !contains earlier x.1 := by
      intro v
      apply List.filter_congr
      intro x inside
      have other : e.1.canon ≠ x.1.canon := fun same => fresh (List.mem_map.mpr ⟨x, inside, same.symm⟩)
      rw [contains_put_of_ne other]
    rw [Mapping.over, ih (distinctEarlier.put e.1 _) others, kept]
    cases bound : get? earlier e.1 with
    | some old =>
      -- the entry keeps its place below, and no other one of either mapping has its key
      have isBound : contains earlier e.1 = true := congrArg Option.isSome bound
      have among : ∃ x ∈ earlier, x.1.canon = e.1.canon := by
        obtain ⟨x, inside, same, _⟩ := Assoc.exists_of_get?_eq_some bound
        exact ⟨x, inside, same⟩
      have filtered : (e :: rest).filter (fun x => !contains earlier x.1) =
          rest.filter fun x => !contains earlier x.1 := by
        rw [List.filter_cons_of_neg]
        simp [isBound]
      rw [filtered, put, Assoc.put_of_bound distinctEarlier among, List.map_map]
      congr 1
      apply List.map_congr_left
      intro x inside
      by_cases same : x.1.canon = e.1.canon
      · have value : x.2 = old := by
          have here := distinctEarlier.get?_of_mem inside
          rw [Assoc.get?_congr same] at here
          exact Option.some.inj (here.symm.trans bound)
        have now : get? (e :: rest) x.1 = some e.2 := if_pos same.symm
        simp only [Function.comp_apply, same, if_true, get?_rest distinct same, now, value, Option.elim_none,
          Option.elim_some]
      · have now : get? (e :: rest) x.1 = get? rest x.1 := if_neg fun again => same again.symm
        simp only [Function.comp_apply, same, if_false, now]
    | none =>
      -- the entry comes after all that are below, where `rest` cannot meet it again
      have isFree : contains earlier e.1 = false := congrArg Option.isSome bound
      have free := Assoc.get?_eq_none_iff.mp bound
      have filtered : (e :: rest).filter (fun x => !contains earlier x.1) =
          e :: rest.filter fun x => !contains earlier x.1 := by
        rw [List.filter_cons_of_pos]
        simp [isFree]
      have untouched : ∀ x ∈ earlier, get? (e :: rest) x.1 = get? rest x.1 := by
        intro x inside
        exact if_neg fun same => free x inside same.symm
      rw [filtered, put, Assoc.put_of_fresh free, Value.over_none, List.map_append, List.append_assoc]
      congr 1
      · apply List.map_congr_left
        intro x inside
        rw [untouched x inside]
      · simp [get?_rest distinct rfl]

theorem distinct_append_new (distinctEarlier : earlier.Distinct) (distinct : entries.Distinct)
    (f : Scalar × Value → Value) :
    Distinct (earlier.map (fun e => (e.1, f e)) ++ entries.filter fun e => !contains earlier e.1) := by
  rw [Distinct, Assoc.Distinct, List.map_append, List.map_map, List.nodup_append]
  refine ⟨distinctEarlier, distinct.sublist (List.filter_sublist.map _), ?_⟩
  intro a lower b upper same
  obtain ⟨e, inside, rfl⟩ := List.mem_map.mp lower
  obtain ⟨e', kept, rfl⟩ := List.mem_map.mp upper
  have bound := Assoc.Distinct.get?_of_mem distinctEarlier inside
  have asked : get? earlier e'.1 = some e.2 := (Assoc.get?_congr same.symm).trans bound
  have isBound : contains earlier e'.1 = true := congrArg Option.isSome asked
  have isFree := (List.mem_filter.mp kept).2
  simp [isBound] at isFree

end Mapping

namespace Value

variable {old new : Value} {earlier entries : Mapping}

theorem over_of_no_entries (o : Option Value) (other : new.entries? = none) : Value.over o new = new := by
  cases new with
  | scalar s => rfl
  | list xs => rfl
  | map es => cases other
  | graph g =>
    cases o with
    | none => exact over_none _
    | some old =>
      rw [Value.over]
      cases old with
      | map earlier => rw [Value.onto, other]
      | scalar s => rfl
      | list xs => rfl
      | graph h => rfl

theorem over_of_no_earlier {o : Option Value} (other : o.bind entries? = none) : Value.over o new = new := by
  cases o with
  | none => exact over_none new
  | some old =>
    cases new with
    | scalar s => rfl
    | list xs => rfl
    | map es => rw [Value.over, other]
    | graph g =>
      rw [Value.over]
      cases old with
      | map earlier => cases other
      | scalar s => rfl
      | list xs => rfl
      | graph h => rfl

theorem ontoEntries_eq (earlier : List (Scalar × Value)) :
    ontoEntries entries earlier =
      earlier.map fun e => (e.1, (Mapping.get? entries e.1).elim e.2 fun new => Value.onto new e.2) := by
  induction earlier with
  | nil => rfl
  | cons e rest ih =>
    rw [ontoEntries, List.map_cons, ih]
    cases Mapping.get? entries e.1 <;> rfl

theorem onto_map (distinct : earlier.Distinct) (keyed : new.WellKeyed) (mapping : new.entries? = some entries)
    (each : ∀ e ∈ earlier, ∀ x : Value, x.WellKeyed → Value.onto x e.2 = Value.over (some e.2) x) :
    Value.onto new (.map earlier) = .map (Mapping.over earlier entries) := by
  obtain ⟨distinctEntries, parts⟩ := wellKeyed_map_iff.mp (keyed.entries mapping)
  rw [Value.onto, mapping, Mapping.over_eq distinct distinctEntries]
  dsimp only
  rw [ontoEntries_eq]
  congr 2
  apply List.map_congr_left
  intro e inside
  cases bound : Mapping.get? entries e.1 with
  | none => rfl
  | some x =>
    obtain ⟨e', among, _, value⟩ := Assoc.exists_of_get?_eq_some bound
    rw [Option.elim_some, Option.elim_some, each e inside x (value ▸ parts e' among)]

theorem Tree.onto_eq_over (tree : old.Tree) (keyedOld : old.WellKeyed) (keyed : new.WellKeyed) :
    Value.onto new old = Value.over (some old) new := by
  induction tree generalizing new with
  | scalar s =>
    have same : Value.over (some (.scalar s)) new = new := over_of_no_earlier rfl
    rw [same]
    rfl
  | @list xs _ _ =>
    have same : Value.over (some (.list xs)) new = new := over_of_no_earlier rfl
    rw [same]
    rfl
  | @map es _ ih =>
    obtain ⟨distinct, parts⟩ := wellKeyed_map_iff.mp keyedOld
    cases mapping : new.entries? with
    | none => rw [over_of_no_entries _ mapping, Value.onto, mapping]
    | some entries =>
      have inwards := onto_map distinct keyed mapping fun e inside x keyed => ih e inside (parts e inside) keyed
      cases new with
      | scalar s => cases mapping
      | list xs => cases mapping
      | map entries' =>
        cases mapping
        rw [inwards, Value.over]
        rfl
      | graph g => rw [Value.over]

theorem over_of_entries (keyedOld : old.WellKeyed) (keyed : new.WellKeyed) (unshared : new.Tree ∨ old.Tree)
    (below : old.entries? = some earlier) (above : new.entries? = some entries) :
    Value.over (some old) new = .map (Mapping.over earlier entries) := by
  cases new with
  | scalar s => cases above
  | list xs => cases above
  | map entries' =>
    cases above
    rw [Value.over, Option.bind_some, below]
  | graph g =>
    rcases unshared with tree | tree
    · cases tree
    · obtain ⟨rfl, each⟩ := tree.eq_map below
      obtain ⟨distinct, parts⟩ := wellKeyed_map_iff.mp keyedOld
      rw [Value.over]
      apply onto_map distinct keyed above
      intro e inside x keyed
      exact (each e inside).onto_eq_over (parts e inside) keyed

structure Hereditary (property : Value → Prop) : Prop where
  parts : ∀ {v : Value} {es : Mapping}, property v → v.entries? = some es → es.Distinct ∧ ∀ e ∈ es, property e.2
  whole : ∀ {es : Mapping}, es.Distinct → (∀ e ∈ es, property e.2) → property (.map es)

namespace Hereditary

variable {property : Value → Prop}

theorem onto (hereditary : Hereditary property) (has : property old) (hasNew : property new) :
    property (Value.onto new old) := by
  induction old generalizing new with
  | scalar s => exact hasNew
  | list xs _ => exact hasNew
  | graph g => exact hasNew
  | map earlier ih =>
    obtain ⟨distinct, parts⟩ := hereditary.parts has rfl
    cases mapping : new.entries? with
    | none =>
      rw [Value.onto, mapping]
      exact hasNew
    | some entries =>
      obtain ⟨distinctNew, partsNew⟩ := hereditary.parts hasNew mapping
      rw [Value.onto, mapping]
      dsimp only
      rw [ontoEntries_eq]
      apply hereditary.whole
      · exact Mapping.distinct_append_new distinct distinctNew _
      · intro e inside
        rcases List.mem_append.mp inside with lower | upper
        · obtain ⟨e', among, rfl⟩ := List.mem_map.mp lower
          cases bound : Mapping.get? entries e'.1 with
          | none => exact parts e' among
          | some x =>
            obtain ⟨e'', above, _, value⟩ := Assoc.exists_of_get?_eq_some bound
            exact ih e' among (parts e' among) (value ▸ partsNew e'' above)
        · exact partsNew e (List.mem_filter.mp upper).1

theorem mapping_over (hereditary : Hereditary property)
    (each : ∀ e ∈ entries, ∀ o : Option Value, (∀ old ∈ o, property old) → property (Value.over o e.2))
    (has : property (.map earlier)) : property (.map (Mapping.over earlier entries)) := by
  induction entries generalizing earlier with
  | nil => exact has
  | cons e rest ih =>
    obtain ⟨now, later⟩ := List.forall_mem_cons.mp each
    obtain ⟨distinct, parts⟩ := hereditary.parts has rfl
    rw [Mapping.over]
    apply ih later
    have value : property (Value.over (Mapping.get? earlier e.1) e.2) := by
      apply now
      intro old bound
      obtain ⟨e', among, _, rfl⟩ := Assoc.exists_of_get?_eq_some bound
      exact parts e' among
    apply hereditary.whole (distinct.put e.1 _)
    intro e' inside
    rcases Assoc.values_put inside with new | ⟨e'', among, same⟩
    · rw [new]
      exact value
    · exact same ▸ parts e'' among

theorem merged (hereditary : Hereditary property) {o : Option Value} (has : ∀ old ∈ o, property old)
    (hasNew : property new) : property (Value.over o new) := by
  induction new generalizing o with
  | scalar s => exact hasNew
  | list xs _ => exact hasNew
  | graph g =>
    cases o with
    | none =>
      rw [over_none]
      exact hasNew
    | some old =>
      rw [Value.over]
      exact hereditary.onto (has old rfl) hasNew
  | map entries ih =>
    obtain ⟨distinct, parts⟩ := hereditary.parts hasNew rfl
    cases below : o.bind entries? with
    | none =>
      rw [over_of_no_earlier below]
      exact hasNew
    | some earlier =>
      obtain ⟨old, rfl, opened⟩ := Option.bind_eq_some_iff.mp below
      obtain ⟨distinctOld, partsOld⟩ := hereditary.parts (has old rfl) opened
      rw [Value.over, below]
      exact hereditary.mapping_over (fun e inside o has => ih e inside has (parts e inside))
        (hereditary.whole distinctOld partsOld)

end Hereditary

theorem wellKeyed_hereditary : Hereditary WellKeyed where
  parts keyed mapping := wellKeyed_map_iff.mp (keyed.entries mapping)
  whole distinct each := wellKeyed_map_iff.mpr ⟨distinct, each⟩

theorem tree_hereditary : Hereditary fun v => v.WellKeyed ∧ v.Tree where
  parts := by
    intro v es both mapping
    obtain ⟨keyed, tree⟩ := both
    obtain ⟨rfl, each⟩ := tree.eq_map mapping
    obtain ⟨distinct, parts⟩ := wellKeyed_map_iff.mp keyed
    exact ⟨distinct, fun e inside => ⟨parts e inside, each e inside⟩⟩
  whole distinct each :=
    ⟨wellKeyed_map_iff.mpr ⟨distinct, fun e inside => (each e inside).1⟩, .map fun e inside => (each e inside).2⟩

end Value

end TokenIntake
