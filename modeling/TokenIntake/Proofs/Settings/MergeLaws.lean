import Mathlib.Data.List.Induction
import TokenIntake.Proofs.Settings.Resolve
import TokenIntake.Proofs.Value.Depth

namespace TokenIntake

namespace Mapping

variable {earlier entries es fs : Mapping} {f : Value → Value → Value}

theorem contains_iff {m : Mapping} {k : Scalar} : contains m k = true ↔ ∃ e ∈ m, e.1.canon = k.canon := by
  constructor
  · intro bound
    obtain ⟨v, found⟩ := Option.isSome_iff_exists.mp bound
    obtain ⟨e, inside, same, _⟩ := Assoc.exists_of_get?_eq_some found
    exact ⟨e, inside, same⟩
  · rintro ⟨e, inside, same⟩
    cases bound : get? m k with
    | none => exact absurd same (Assoc.get?_eq_none_iff.mp bound e inside)
    | some v => exact congrArg Option.isSome bound

theorem contains_of_mem {m : Mapping} {e : Scalar × Value} (inside : e ∈ m) : contains m e.1 = true :=
  contains_iff.mpr ⟨e, inside, rfl⟩

/-- One mapping over another one, with `f` between the two values of a key that both have. -/
def join (f : Value → Value → Value) (earlier entries : Mapping) : Mapping :=
  earlier.map (fun e => (e.1, (get? entries e.1).elim e.2 (f e.2))) ++ entries.filter fun e => !contains earlier e.1

theorem contains_join (k : Scalar) :
    contains (join f earlier entries) k = (contains earlier k || contains entries k) := by
  rw [Bool.eq_iff_iff, Bool.or_eq_true]
  simp only [contains_iff, join, List.mem_append]
  constructor
  · rintro ⟨e, lower | upper, same⟩
    · obtain ⟨e', inside, rfl⟩ := List.mem_map.mp lower
      exact .inl ⟨e', inside, same⟩
    · exact .inr ⟨e, (List.mem_filter.mp upper).1, same⟩
  · rintro (⟨e, inside, same⟩ | ⟨e, inside, same⟩)
    · exact ⟨_, .inl (List.mem_map_of_mem inside), same⟩
    · cases bound : contains earlier e.1 with
      | true =>
        obtain ⟨e', below, again⟩ := contains_iff.mp bound
        exact ⟨_, .inl (List.mem_map_of_mem below), again.trans same⟩
      | false => exact ⟨e, .inr (List.mem_filter.mpr ⟨inside, by simp [bound]⟩), same⟩

theorem filter_new_eq_nil (known : ∀ e ∈ entries, contains earlier e.1 = true) :
    (entries.filter fun e => !contains earlier e.1) = [] :=
  List.filter_eq_nil_iff.mpr fun e inside => by simp [known e inside]

theorem join_self (distinct : es.Distinct) (idempotent : ∀ e ∈ es, f e.2 e.2 = e.2) : join f es es = es := by
  have same : ∀ e ∈ es, (e.1, (get? es e.1).elim e.2 (f e.2)) = e := by
    intro e inside
    rw [get?, Assoc.Distinct.get?_of_mem distinct inside, Option.elim_some, idempotent e inside]
  rw [join, List.map_congr_left same, List.map_id', filter_new_eq_nil fun e => contains_of_mem, List.append_nil]

theorem join_join (distinct : entries.Distinct) (idempotent : ∀ e ∈ entries, f e.2 e.2 = e.2)
    (absorbs : ∀ e ∈ earlier, ∀ x ∈ entries, f (f e.2 x.2) x.2 = f e.2 x.2) :
    join f (join f earlier entries) entries = join f earlier entries := by
  have known : ∀ e ∈ entries, contains (join f earlier entries) e.1 = true := by
    intro e inside
    rw [contains_join, contains_of_mem inside, Bool.or_true]
  have same : ∀ e ∈ join f earlier entries, (e.1, (get? entries e.1).elim e.2 (f e.2)) = e := by
    intro e inside
    rcases List.mem_append.mp inside with lower | upper
    · obtain ⟨e', below, rfl⟩ := List.mem_map.mp lower
      cases bound : get? entries e'.1 with
      | none => simp
      | some x =>
        obtain ⟨e'', above, _, rfl⟩ := Assoc.exists_of_get?_eq_some bound
        simp [absorbs e' below e'' above]
    · have above := (List.mem_filter.mp upper).1
      rw [get?, Assoc.Distinct.get?_of_mem distinct above, Option.elim_some, idempotent e above]
  rw [join, List.map_congr_left same, List.map_id', filter_new_eq_nil known, List.append_nil]

theorem over_eq_join (distinctEarlier : earlier.Distinct) (distinct : entries.Distinct) :
    Mapping.over earlier entries = join (fun old => Value.over (some old)) earlier entries :=
  over_eq distinctEarlier distinct

theorem over_distinct (distinctEarlier : earlier.Distinct) (distinct : entries.Distinct) :
    (Mapping.over earlier entries).Distinct := by
  rw [over_eq_join distinctEarlier distinct]
  exact distinct_append_new distinctEarlier distinct _

end Mapping

namespace Value

variable {v new old : Value} {earlier entries : Mapping}

theorem onto_eq_join (mapping : new.entries? = some entries) (earlier : Mapping) :
    Value.onto new (.map earlier) = .map (Mapping.join (fun old new => Value.onto new old) earlier entries) := by
  rw [Value.onto, mapping]
  dsimp only
  rw [ontoEntries_eq]
  rfl

theorem over_self (keyed : v.WellKeyed) : Value.over (some v) v = v := by
  induction v with
  | scalar s => exact over_of_no_entries _ rfl
  | list xs => exact over_of_no_entries _ rfl
  | graph g =>
    rw [Value.over]
    rfl
  | map es ih =>
    obtain ⟨distinct, parts⟩ := wellKeyed_map_iff.mp keyed
    have merged : Value.over (some (.map es)) (.map es) = .map (Mapping.over es es) := by
      rw [Value.over]
      rfl
    rw [merged, Mapping.over_eq_join distinct distinct, Mapping.join_self distinct]
    exact fun e inside => ih e inside (parts e inside)

theorem onto_self (keyed : v.WellKeyed) : Value.onto v v = v := by
  induction v with
  | scalar s => rfl
  | list xs => rfl
  | graph g => rfl
  | map es ih =>
    obtain ⟨distinct, parts⟩ := wellKeyed_map_iff.mp keyed
    rw [onto_eq_join rfl, Mapping.join_self distinct]
    exact fun e inside => ih e inside (parts e inside)

theorem onto_onto (keyed : new.WellKeyed) : Value.onto new (Value.onto new old) = Value.onto new old := by
  induction old generalizing new with
  | scalar s => exact onto_self keyed
  | list xs => exact onto_self keyed
  | graph g => exact onto_self keyed
  | map earlier ih =>
    cases mapping : new.entries? with
    | none =>
      have same : Value.onto new (.map earlier) = new := by rw [Value.onto, mapping]
      rw [same]
      exact onto_self keyed
    | some entries =>
      obtain ⟨distinct, parts⟩ := wellKeyed_map_iff.mp (keyed.entries mapping)
      rw [onto_eq_join mapping, onto_eq_join mapping, Mapping.join_join distinct]
      · exact fun e inside => onto_self (parts e inside)
      · exact fun e below x above => ih e below (parts x above)

theorem over_over {o : Option Value} (keyedOld : ∀ old ∈ o, old.WellKeyed) (keyed : v.WellKeyed) :
    Value.over (some (Value.over o v)) v = Value.over o v := by
  induction v generalizing o with
  | scalar s => rw [over_of_no_entries o rfl, over_of_no_entries _ rfl]
  | list xs => rw [over_of_no_entries o rfl, over_of_no_entries _ rfl]
  | graph g =>
    cases o with
    | none =>
      rw [over_none]
      exact over_self keyed
    | some old =>
      rw [Value.over, Value.over]
      exact onto_onto keyed
  | map entries ih =>
    obtain ⟨distinct, parts⟩ := wellKeyed_map_iff.mp keyed
    cases below : o.bind entries? with
    | none =>
      rw [over_of_no_earlier below]
      exact over_self keyed
    | some earlier =>
      obtain ⟨old, rfl, opened⟩ := Option.bind_eq_some_iff.mp below
      obtain ⟨distinctOld, partsOld⟩ := wellKeyed_map_iff.mp ((keyedOld old rfl).entries opened)
      have merged : Value.over (some old) (.map entries) = .map (Mapping.over earlier entries) := by
        rw [Value.over, below]
      have again : Value.over (some (.map (Mapping.over earlier entries))) (.map entries) =
          .map (Mapping.over (Mapping.over earlier entries) entries) := by
        rw [Value.over]
        rfl
      -- a value of the upper mapping was put over one of the lower mapping, or stands where there was none
      rw [merged, again, Mapping.over_eq_join (Mapping.over_distinct distinctOld distinct) distinct,
        Mapping.over_eq_join distinctOld distinct, Mapping.join_join distinct]
      · exact fun e inside => over_self (parts e inside)
      · intro e lower x upper
        refine ih x upper (fun old same => ?_) (parts x upper)
        exact Option.mem_some_iff.mp same ▸ partsOld e lower

end Value

def Value.mappingAt? (v : Value) : List Scalar → Option Mapping
  | [] => v.entries?
  | k :: rest => (v.entries?.bind fun es => es.get? k).bind fun inner => inner.mappingAt? rest

/-- One mapping merged over another one as far as its keys go, and what they bind unless both bind a mapping. -/
structure Mapping.Joins (lower upper merged : Mapping) : Prop where
  distinct : merged.Distinct
  keys : merged.map Prod.fst = lower.map Prod.fst ++ (upper.filter fun e => !lower.contains e.1).map Prod.fst
  bound : ∀ k, merged.contains k = (lower.contains k || upper.contains k)
  kept : ∀ k, upper.get? k = none → merged.get? k = lower.get? k
  replaced : ∀ k v, upper.get? k = some v → v.entries? = none ∨ (lower.get? k).bind Value.entries? = none →
    merged.get? k = some v

theorem Mapping.over_joins {lower upper : Mapping} (distinctLower : lower.Distinct) (distinct : upper.Distinct) :
    lower.Joins upper (Mapping.over lower upper) where
  distinct := over_distinct distinctLower distinct
  keys := by
    rw [over_eq_join distinctLower distinct, join, List.map_append, List.map_map]
    rfl
  bound k := by rw [over_eq_join distinctLower distinct, contains_join]
  kept k unbound := by
    rw [get?_over distinct, unbound]
    rfl
  replaced k v bound different := by
    rw [get?_over distinct, bound, Option.elim_some]
    rcases different with other | none
    · rw [Value.over_of_no_entries _ other]
    · rw [Value.over_of_no_earlier none]

namespace Value

variable {v old : Value} {earlier entries es fs : Mapping} {path : List Scalar}

theorem mappingAt?_opened (leads : v.mappingAt? path = some es) :
    ∃ inner, v.entries? = some inner ∧ (Value.map inner).mappingAt? path = some es := by
  cases opened : v.entries? with
  | none => cases path <;> simp [mappingAt?, opened] at leads
  | some inner =>
    refine ⟨inner, rfl, leads ▸ ?_⟩
    cases path with
    | nil => exact opened.symm
    | cons k rest =>
      rw [mappingAt?, mappingAt?, opened]
      rfl

theorem mappingAt?_cons {k : Scalar} {rest : List Scalar}
    (leads : (Value.map earlier).mappingAt? (k :: rest) = some es) :
    ∃ v, earlier.get? k = some v ∧ v.mappingAt? rest = some es :=
  Option.bind_eq_some_iff.mp leads

theorem mappingAt?_over (keyedEarlier : (Value.map earlier).WellKeyed) (keyed : (Value.map entries).WellKeyed)
    (unshared : (Value.map entries).Tree ∨ (Value.map earlier).Tree)
    (lower : (Value.map earlier).mappingAt? path = some es) (upper : (Value.map entries).mappingAt? path = some fs) :
    (Value.map (Mapping.over earlier entries)).mappingAt? path = some (Mapping.over es fs) ∧
      es.Distinct ∧ fs.Distinct := by
  induction path generalizing earlier entries with
  | nil =>
    cases lower
    cases upper
    exact ⟨rfl, (wellKeyed_map_iff.mp keyedEarlier).1, (wellKeyed_map_iff.mp keyed).1⟩
  | cons k rest ih =>
    obtain ⟨old, boundOld, leadsOld⟩ := mappingAt?_cons lower
    obtain ⟨new, boundNew, leadsNew⟩ := mappingAt?_cons upper
    -- both bind the first key to a mapping, so the rest of the path leads through these two merged
    obtain ⟨innerOld, openedOld, leadsOld⟩ := mappingAt?_opened leadsOld
    obtain ⟨innerNew, openedNew, leadsNew⟩ := mappingAt?_opened leadsNew
    have keyedOld := get?_wellKeyed keyedEarlier boundOld
    have keyedNew := get?_wellKeyed keyed boundNew
    have unsharedHere : new.Tree ∨ old.Tree := by
      rcases unshared with tree | tree
      · exact .inl (get?_tree tree boundNew)
      · exact .inr (get?_tree tree boundOld)
    have unsharedInside : (Value.map innerNew).Tree ∨ (Value.map innerOld).Tree := by
      rcases unsharedHere with tree | tree
      · exact .inl (tree.entries openedNew)
      · exact .inr (tree.entries openedOld)
    have merged : Mapping.get? (Mapping.over earlier entries) k = some (.map (Mapping.over innerOld innerNew)) := by
      rw [Mapping.get?_over (wellKeyed_map_iff.mp keyed).1, boundNew, boundOld, Option.elim_some,
        over_of_entries keyedOld keyedNew unsharedHere openedOld openedNew]
    obtain ⟨leads, distinct⟩ :=
      ih (keyedOld.entries openedOld) (keyedNew.entries openedNew) unsharedInside leadsOld leadsNew
    refine ⟨?_, distinct⟩
    show (Mapping.get? (Mapping.over earlier entries) k).bind (fun inner => inner.mappingAt? rest) = _
    rw [merged]
    exact leads

theorem depth_over (tree : v.Tree) (keyed : v.WellKeyed) (treeOld : old.Tree) (keyedOld : old.WellKeyed) {n : Nat}
    (below : old.depth ≤ n) (above : v.depth ≤ n) : (Value.over (some old) v).depth ≤ n := by
  induction tree generalizing old n with
  | scalar s => rwa [over_of_no_entries _ rfl]
  | list each => rwa [over_of_no_entries _ rfl]
  | @map entries _ ih =>
    cases opened : old.entries? with
    | none => rwa [over_of_no_earlier (o := some old) opened]
    | some earlier =>
      obtain ⟨rfl, trees⟩ := treeOld.eq_map opened
      obtain ⟨distinct, parts⟩ := wellKeyed_map_iff.mp keyed
      obtain ⟨distinctOld, partsOld⟩ := wellKeyed_map_iff.mp keyedOld
      have lower := depth_map_le_iff.mp below
      have upper := depth_map_le_iff.mp above
      rw [over_of_entries keyedOld keyed (.inr treeOld) opened rfl, Mapping.over_eq_join distinctOld distinct,
        depth_map_le_iff]
      intro e inside
      rcases List.mem_append.mp inside with isLower | isUpper
      · obtain ⟨e', isOld, rfl⟩ := List.mem_map.mp isLower
        have shallow := lower e' isOld
        cases bound : Mapping.get? entries e'.1 with
        | none => simpa [bound] using shallow
        | some x =>
          obtain ⟨e'', isNew, _, rfl⟩ := Assoc.exists_of_get?_eq_some bound
          obtain ⟨k, rfl⟩ : ∃ k, n = k + 1 := Nat.exists_eq_succ_of_ne_zero (Nat.ne_zero_of_lt shallow)
          have merged := ih e'' isNew (parts e'' isNew) (trees e' isOld) (partsOld e' isOld)
            (Nat.le_of_lt_succ shallow) (Nat.le_of_lt_succ (upper e'' isNew))
          simpa [bound] using Nat.lt_succ_of_le merged
      · exact upper e (List.mem_filter.mp isUpper).1

end Value

namespace Mapping

variable {a b : Mapping} {xs ys : List Mapping}

def Shallow (m : Mapping) : Prop := ∀ e ∈ m, e.2.depth ≤ maxCopyDepth

theorem shallow_iff {m : Mapping} : m.Shallow ↔ (Value.map m).depth ≤ maxCopyDepth + 1 := by
  rw [Value.depth_map_le_iff]
  exact forall₂_congr fun e _ => Nat.lt_succ_iff.symm

theorem merge?_eq_some_iff {layers : List Mapping} {m : Mapping} :
    merge? layers = some m ↔ (∀ layer ∈ layers, layer.Shallow) ∧ merge layers = m := by
  have deep : (layers.any fun entries => entries.any fun e => maxCopyDepth < e.2.depth) = false ↔
      ∀ layer ∈ layers, layer.Shallow := by
    simp [Shallow]
  rw [merge?, ← deep]
  split
  · rename_i some
    simp [some]
  · rename_i none
    simp [none]

theorem over_shallow (keyedA : (Value.map a).WellKeyed) (treeA : (Value.map a).Tree)
    (keyedB : (Value.map b).WellKeyed) (treeB : (Value.map b).Tree) (shallowA : a.Shallow) (shallowB : b.Shallow) :
    (Mapping.over a b).Shallow := by
  have deep := Value.depth_over treeB keyedB treeA keyedA (shallow_iff.mp shallowA) (shallow_iff.mp shallowB)
  rwa [Value.over_of_entries keyedA keyedB (.inl treeB) rfl rfl, ← shallow_iff] at deep

theorem merge_shallow (nested : ∀ m ∈ xs, (Value.map m).WellKeyed ∧ (Value.map m).Tree)
    (shallow : ∀ m ∈ xs, m.Shallow) : (merge xs).Shallow := by
  induction xs using List.reverseRecOn with
  | nil => exact List.forall_mem_nil _
  | append_singleton xs top ih =>
    obtain ⟨nestedLower, nestedTop⟩ := List.forall_mem_append.mp nested
    obtain ⟨shallowLower, shallowTop⟩ := List.forall_mem_append.mp shallow
    obtain ⟨keyed, tree⟩ := nestedTop top List.mem_cons_self
    obtain ⟨keyedLower, treeLower⟩ := merge_keeps Value.tree_hereditary nestedLower
    rw [merge_snoc]
    exact over_shallow keyedLower treeLower keyed tree (ih nestedLower shallowLower) (shallowTop top List.mem_cons_self)

theorem merge_singleton (distinct : a.Distinct) : merge [a] = a := over_nil distinct

theorem merge_append (keyed : ∀ m ∈ xs, (Value.map m).WellKeyed) : merge (xs ++ ys) = merge (merge xs :: ys) := by
  have distinct := (Value.wellKeyed_map_iff.mp (merge_keeps Value.wellKeyed_hereditary keyed)).1
  have first : Mapping.over [] (merge xs) = merge xs := over_nil distinct
  rw [merge, List.foldl_append, merge.eq_1 (merge xs :: ys), List.foldl_cons, first]
  rfl

theorem merge_self (keyed : (Value.map a).WellKeyed) : merge [a, a] = a := by
  have distinct := (Value.wellKeyed_map_iff.mp keyed).1
  have same := Value.over_self keyed
  rw [Value.over, Option.bind_some] at same
  rw [merge_pair distinct]
  exact Value.map.inj same

theorem merge_again (keyedA : (Value.map a).WellKeyed) (keyedB : (Value.map b).WellKeyed) :
    merge [merge [a, b], b] = merge [a, b] := by
  have distinctA := (Value.wellKeyed_map_iff.mp keyedA).1
  have distinctB := (Value.wellKeyed_map_iff.mp keyedB).1
  have same := Value.over_over (o := some (.map a)) (fun old isA => Option.mem_some_iff.mp isA ▸ keyedA) keyedB
  rw [Value.over, Value.over, Option.bind_some, Option.bind_some] at same
  rw [merge_pair distinctA, merge_pair (over_distinct distinctA distinctB)]
  exact Value.map.inj same

theorem merge?_append (nested : ∀ m ∈ xs, (Value.map m).WellKeyed ∧ (Value.map m).Tree) :
    ((merge? xs).bind fun m => merge? (m :: ys)) = merge? (xs ++ ys) := by
  apply Option.ext
  intro m
  rw [Option.bind_eq_some_iff, merge?_eq_some_iff, List.forall_mem_append,
    merge_append fun m inside => (nested m inside).1]
  constructor
  · rintro ⟨first, merged, all⟩
    obtain ⟨shallow, rfl⟩ := merge?_eq_some_iff.mp merged
    obtain ⟨later, rfl⟩ := merge?_eq_some_iff.mp all
    exact ⟨⟨shallow, (List.forall_mem_cons.mp later).2⟩, rfl⟩
  · rintro ⟨⟨shallow, later⟩, rfl⟩
    have first := merge_shallow nested shallow
    exact ⟨merge xs, merge?_eq_some_iff.mpr ⟨shallow, rfl⟩,
      merge?_eq_some_iff.mpr ⟨List.forall_mem_cons.mpr ⟨first, later⟩, rfl⟩⟩

/-- The laws of merging. They hold for all layers, even those too deep to be copied, which are refused; of two layers
that meet at a level only one may hold values that share their parts. -/
theorem merge_laws (keyedA : (Value.map a).WellKeyed) (keyedB : (Value.map b).WellKeyed)
    (keyed : ∀ m ∈ xs, (Value.map m).WellKeyed) (ys : List Mapping) :
    (merge [a] = a ∧ merge [a, []] = a ∧ merge [[], a] = a ∧ merge [a, a] = a) ∧
      merge [merge [a, b], b] = merge [a, b] ∧
      merge (xs ++ ys) = merge (merge xs :: ys) ∧
      ((Value.map b).Tree ∨ (Value.map a).Tree → ∀ path lower upper, (Value.map a).mappingAt? path = some lower →
        (Value.map b).mappingAt? path = some upper →
          ∃ merged, (Value.map (merge [a, b])).mappingAt? path = some merged ∧ lower.Joins upper merged) ∧
      (∀ layers m, merge? layers = some m ↔ (∀ layer ∈ layers, layer.Shallow) ∧ merge layers = m) ∧
      ((∀ m ∈ xs, (Value.map m).Tree) → ((merge? xs).bind fun m => merge? (m :: ys)) = merge? (xs ++ ys)) := by
  have distinct := (Value.wellKeyed_map_iff.mp keyedA).1
  have last : merge [a, []] = a := merge_pair distinct
  have first : merge [[], a] = a := (merge_pair Assoc.distinct_nil).trans (over_nil distinct)
  refine ⟨⟨merge_singleton distinct, last, first, merge_self keyedA⟩, merge_again keyedA keyedB, merge_append keyed,
    ?_, fun _ _ => merge?_eq_some_iff, ?_⟩
  · intro unshared path lower upper leadsLower leadsUpper
    obtain ⟨leads, distinctLower, distinctUpper⟩ :=
      Value.mappingAt?_over keyedA keyedB unshared leadsLower leadsUpper
    rw [merge_pair distinct]
    exact ⟨_, leads, over_joins distinctLower distinctUpper⟩
  · intro trees
    exact merge?_append fun m inside => ⟨keyed m inside, trees m inside⟩

def lowerLayer : Mapping :=
  [(.text "cli", .map [(.text "format", .text "table"), (.text "page", .map [(.text "size", .int 10)])]),
    (.text "log", .text "info"), (.int 1, .list [])]

/-- Over the lower layer this has a mapping in the place of a text, a number in that of a mapping, and the same key in
another spelling. -/
def upperLayer : Mapping :=
  [(.text "log", .map [(.text "level", .text "debug")]), (.bool true, .null),
    (.text "cli", .map [(.text "page", .int 5), (.text "color", .bool true)])]

def mergedLayer : Mapping :=
  [(.text "cli", .map [(.text "format", .text "table"), (.text "page", .int 5), (.text "color", .bool true)]),
    (.text "log", .map [(.text "level", .text "debug")]), (.int 1, .null)]

theorem merge_laws_clashing :
    ((Value.map lowerLayer).WellKeyed ∧ (Value.map upperLayer).WellKeyed ∧ (Value.map lowerLayer).Tree ∧
        (Value.map upperLayer).Tree) ∧
      merge [lowerLayer, upperLayer] = mergedLayer ∧ merge [mergedLayer, upperLayer] = mergedLayer ∧
      ((merge? [lowerLayer, upperLayer]).bind fun m => merge? [m, lowerLayer]) =
        merge? [lowerLayer, upperLayer, lowerLayer] ∧
      ∃ lower upper merged, (Value.map lowerLayer).mappingAt? [.text "cli"] = some lower ∧
        (Value.map upperLayer).mappingAt? [.text "cli"] = some upper ∧
        (Value.map mergedLayer).mappingAt? [.text "cli"] = some merged ∧ lower.Joins upper merged := by
  have keyedLower : (Value.map lowerLayer).WellKeyed := by
    simp only [lowerLayer, Value.WellKeyed, Value.WellKeyedEntries, Value.WellKeyedItems, Distinct, Assoc.Distinct]
    decide +kernel
  have keyedUpper : (Value.map upperLayer).WellKeyed := by
    simp only [upperLayer, Value.WellKeyed, Value.WellKeyedEntries, Distinct, Assoc.Distinct]
    decide +kernel
  have treeLower : (Value.map lowerLayer).Tree := by
    refine .map (List.forall_mem_cons.mpr ⟨.map ?_, List.forall_mem_cons.mpr ⟨.scalar _,
      List.forall_mem_singleton.mpr (.list (List.forall_mem_nil _))⟩⟩)
    exact List.forall_mem_cons.mpr ⟨.scalar _,
      List.forall_mem_singleton.mpr (.map (List.forall_mem_singleton.mpr (.scalar _)))⟩
  have treeUpper : (Value.map upperLayer).Tree := by
    refine .map (List.forall_mem_cons.mpr ⟨.map (List.forall_mem_singleton.mpr (.scalar _)),
      List.forall_mem_cons.mpr ⟨.scalar _, List.forall_mem_singleton.mpr (.map ?_)⟩⟩)
    exact List.forall_mem_cons.mpr ⟨.scalar _, List.forall_mem_singleton.mpr (.scalar _)⟩
  have merged : merge [lowerLayer, upperLayer] = mergedLayer := by decide +kernel
  have keyed : ∀ m ∈ [lowerLayer, upperLayer], (Value.map m).WellKeyed :=
    List.forall_mem_cons.mpr ⟨keyedLower, List.forall_mem_singleton.mpr keyedUpper⟩
  have trees : ∀ m ∈ [lowerLayer, upperLayer], (Value.map m).Tree :=
    List.forall_mem_cons.mpr ⟨treeLower, List.forall_mem_singleton.mpr treeUpper⟩
  obtain ⟨_, again, _, joins, _, grouped⟩ := merge_laws keyedLower keyedUpper keyed [lowerLayer]
  rw [merged] at again joins
  obtain ⟨inner, leads, joined⟩ := joins (.inl treeUpper) [.text "cli"] _ _ rfl rfl
  exact ⟨⟨keyedLower, keyedUpper, treeLower, treeUpper⟩, merged, again, grouped trees, _, _, inner, rfl, rfl, leads,
    joined⟩

end Mapping

end TokenIntake
