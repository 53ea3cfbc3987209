import TokenIntake.Proofs.Settings.Merge

namespace TokenIntake

/-- Where a path leads: to a value, to a key that is not bound, or into something that is no mapping. -/
inductive Reach where
  | found (v : Value)
  | absent
  | blocked

def Reach.above : Reach → Option Value → Option Value
  | .absent, below => below
  | .blocked, _ => none
  | .found v, below =>
    match v.entries?, below.bind Value.entries? with
    | some new, some earlier => some (.map (Mapping.merge [earlier, new]))
    | _, _ => some v

def Value.reach (v : Value) : List Text → Reach
  | [] => .found v
  | k :: rest =>
    match v.entries? with
    | some es =>
      match Mapping.field? es k with
      | some inner => inner.reach rest
      | none => .absent
    | none => .blocked

def Settings.resolve : List Mapping → List Text → Option Value
  | [], _ => none
  | top :: rest, path => (Value.reach (.map top) path).above (resolve rest path)

namespace Value

variable {v : Value} {es : Mapping} {k : Text}

theorem at?_cons_of_entries (mapping : v.entries? = some es) (rest : List Text) :
    v.at? (k :: rest) = (Mapping.field? es k).bind fun inner => inner.at? rest := by
  rw [at?, mapping]
  dsimp only
  cases Mapping.field? es k <;> rfl

theorem at?_cons_of_no_entries (other : v.entries? = none) (rest : List Text) : v.at? (k :: rest) = none := by
  rw [at?, other]

theorem reach_cons_of_entries (mapping : v.entries? = some es) (rest : List Text) :
    v.reach (k :: rest) = (Mapping.field? es k).elim .absent fun inner => inner.reach rest := by
  rw [reach, mapping]
  dsimp only
  cases Mapping.field? es k <;> rfl

theorem reach_cons_of_no_entries (other : v.entries? = none) (rest : List Text) : v.reach (k :: rest) = .blocked := by
  rw [reach, other]

theorem reach_over_none (v : Value) (path : List Text) : (v.reach path).above none = v.at? path := by
  induction path generalizing v with
  | nil =>
    cases mapping : v.entries? <;> simp [reach, at?, Reach.above, mapping]
  | cons k rest ih =>
    cases mapping : v.entries? with
    | none =>
      rw [reach_cons_of_no_entries mapping, at?_cons_of_no_entries mapping]
      rfl
    | some es =>
      rw [reach_cons_of_entries mapping, at?_cons_of_entries mapping]
      cases Mapping.field? es k with
      | none => rfl
      | some inner => exact ih inner

theorem Tree.entries (tree : v.Tree) (mapping : v.entries? = some es) : (Value.map es).Tree :=
  .map (tree.eq_map mapping).2

theorem get?_tree (tree : (Value.map es).Tree) {k : Scalar} (bound : es.get? k = some v) : v.Tree := by
  obtain ⟨e, inside, _, rfl⟩ := Assoc.exists_of_get?_eq_some bound
  exact (tree.eq_map rfl).2 e inside

theorem get?_wellKeyed (keyed : (Value.map es).WellKeyed) {k : Scalar} (bound : es.get? k = some v) : v.WellKeyed := by
  obtain ⟨e, inside, _, rfl⟩ := Assoc.exists_of_get?_eq_some bound
  exact (wellKeyed_map_iff.mp keyed).2 e inside

theorem at?_wellKeyed {x : Value} {path : List Text} (keyed : v.WellKeyed) (found : v.at? path = some x) :
    x.WellKeyed := by
  induction path generalizing v with
  | nil =>
    cases found
    exact keyed
  | cons k rest ih =>
    cases mapping : v.entries? with
    | none =>
      rw [at?_cons_of_no_entries mapping] at found
      cases found
    | some es =>
      rw [at?_cons_of_entries mapping] at found
      obtain ⟨inner, bound, found⟩ := Option.bind_eq_some_iff.mp found
      exact ih (get?_wellKeyed (keyed.entries mapping) bound) found

end Value

namespace Mapping

variable {earlier entries : Mapping}

theorem over_nil (distinct : entries.Distinct) : Mapping.over [] entries = entries := by
  have new : ∀ e ∈ entries, (!contains [] e.1) = true := fun _ _ => rfl
  rw [over_eq Assoc.distinct_nil distinct, List.map_nil, List.nil_append, List.filter_eq_self.mpr new]

theorem merge_pair (distinct : earlier.Distinct) : merge [earlier, entries] = Mapping.over earlier entries := by
  rw [merge, List.foldl_cons, List.foldl_cons, List.foldl_nil, over_nil distinct]

end Mapping

namespace Value

variable {earlier entries : Mapping}

/-- The induction is on the path: where both layers bind its first key to a mapping, the rest of it leads through
the two mappings merged, and everywhere else only one of the layers counts. -/
theorem at?_over (keyedEarlier : (Value.map earlier).WellKeyed) (keyed : (Value.map entries).WellKeyed)
    (unshared : (Value.map entries).Tree ∨ (Value.map earlier).Tree) {path : List Text} (some : path ≠ []) :
    (Value.map (Mapping.over earlier entries)).at? path =
      ((Value.map entries).reach path).above ((Value.map earlier).at? path) := by
  induction path generalizing earlier entries with
  | nil => exact (some rfl).elim
  | cons k rest ih =>
    obtain ⟨distinct, _⟩ := wellKeyed_map_iff.mp keyed
    have bound : Mapping.field? (Mapping.over earlier entries) k = (Mapping.field? entries k).elim
        (Mapping.field? earlier k) fun new => .some (Value.over (Mapping.field? earlier k) new) :=
      Mapping.get?_over distinct (.text k)
    rw [at?_cons_of_entries rfl, at?_cons_of_entries rfl, reach_cons_of_entries rfl, bound]
    cases above : Mapping.field? entries k with
    | none => rfl
    | some new =>
      have keyedNew := get?_wellKeyed keyed above
      rw [Option.elim_some, Option.elim_some, Option.bind_some]
      cases opened : new.entries? with
      | none =>
        rw [over_of_no_entries _ opened]
        cases rest with
        | nil => simp [at?, reach, Reach.above, opened]
        | cons next rest =>
          rw [at?_cons_of_no_entries opened, reach_cons_of_no_entries opened]
          rfl
      | some upper =>
        cases lower : (Mapping.field? earlier k).bind entries? with
        | none =>
          rw [over_of_no_earlier lower]
          cases rest with
          | nil => simp [at?, reach, Reach.above, opened, lower]
          | cons next rest =>
            have nothing : ((Mapping.field? earlier k).bind fun old => old.at? (next :: rest)) = none := by
              cases below : Mapping.field? earlier k with
              | none => rfl
              | some old =>
                rw [below, Option.bind_some] at lower
                exact at?_cons_of_no_entries lower rest
            rw [nothing, reach_over_none]
        | some inner =>
          obtain ⟨old, below, openedOld⟩ := Option.bind_eq_some_iff.mp lower
          have keyedOld := get?_wellKeyed keyedEarlier below
          have unsharedHere : new.Tree ∨ old.Tree := by
            rcases unshared with tree | tree
            · exact .inl (get?_tree tree above)
            · exact .inr (get?_tree tree below)
          rw [below, over_of_entries keyedOld keyedNew unsharedHere openedOld opened, Option.bind_some]
          cases rest with
          | nil =>
            obtain ⟨distinctOld, _⟩ := wellKeyed_map_iff.mp (keyedOld.entries openedOld)
            simp [at?, reach, Reach.above, opened, openedOld, Mapping.merge_pair distinctOld]
          | cons next rest =>
            have unsharedInside : (Value.map upper).Tree ∨ (Value.map inner).Tree := by
              rcases unsharedHere with tree | tree
              · exact .inl (tree.entries opened)
              · exact .inr (tree.entries openedOld)
            rw [ih (keyedOld.entries openedOld) (keyedNew.entries opened) unsharedInside (List.cons_ne_nil next rest),
              reach_cons_of_entries opened, reach_cons_of_entries rfl, at?_cons_of_entries openedOld,
              at?_cons_of_entries rfl]

end Value

def Settings.Unshared : List Mapping → Prop
  | [] => True
  | top :: rest => ((Value.map top).Tree ∨ ∀ es ∈ rest, (Value.map es).Tree) ∧ Unshared rest

namespace Mapping

theorem merge_snoc (layers : List Mapping) (top : Mapping) :
    merge (layers ++ [top]) = Mapping.over (merge layers) top := by
  rw [merge, List.foldl_append]
  rfl

theorem merge_keeps {property : Value → Prop} (hereditary : Value.Hereditary property) {layers : List Mapping}
    (each : ∀ es ∈ layers, property (.map es)) : property (.map (merge layers)) := by
  have start : property (.map []) := hereditary.whole Assoc.distinct_nil (by simp)
  rw [merge]
  generalize ([] : Mapping) = m at start
  induction layers generalizing m with
  | nil => exact start
  | cons top rest ih =>
    obtain ⟨now, later⟩ := List.forall_mem_cons.mp each
    obtain ⟨_, parts⟩ := hereditary.parts now rfl
    apply ih later
    exact hereditary.mapping_over (fun e inside o has => hereditary.merged has (parts e inside)) start

end Mapping

theorem Settings.at?_merge {layers : List Mapping} (keyed : ∀ es ∈ layers, (Value.map es).WellKeyed)
    (unshared : Unshared layers) {path : List Text} (some : path ≠ []) :
    (Value.map (Mapping.merge layers.reverse)).at? path = resolve layers path := by
  induction layers with
  | nil =>
    obtain ⟨k, rest, rfl⟩ := List.exists_cons_of_ne_nil some
    rfl
  | cons top rest ih =>
    obtain ⟨keyedTop, keyedRest⟩ := List.forall_mem_cons.mp keyed
    obtain ⟨oneTree, others⟩ := unshared
    have keyedLower : (Value.map (Mapping.merge rest.reverse)).WellKeyed := by
      apply Mapping.merge_keeps Value.wellKeyed_hereditary
      simpa using keyedRest
    have unsharedHere : (Value.map top).Tree ∨ (Value.map (Mapping.merge rest.reverse)).Tree := by
      rcases oneTree with tree | trees
      · exact .inl tree
      · have both : ∀ es ∈ rest.reverse, (Value.map es).WellKeyed ∧ (Value.map es).Tree := by
          intro es inside
          have among := List.mem_reverse.mp inside
          exact ⟨keyedRest es among, trees es among⟩
        exact .inr (Mapping.merge_keeps Value.tree_hereditary both).2
    rw [List.reverse_cons, Mapping.merge_snoc, Value.at?_over keyedLower keyedTop unsharedHere some,
      ih keyedRest others, resolve]

end TokenIntake
