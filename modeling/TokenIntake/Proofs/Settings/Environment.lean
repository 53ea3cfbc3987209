import TokenIntake.Proofs.Settings.Order
import TokenIntake.Proofs.Settings.Refusal

namespace TokenIntake

namespace Text

variable {t : Text} {sep : CodePoint} {first second : Text}

theorem cut_eq_iff (some : second ≠ []) :
    t.cut sep = (first, second) ↔ t = first ++ sep :: second ∧ sep ∉ first := by
  constructor
  · intro cut
    obtain ⟨rfl, rest⟩ := Prod.mk.inj cut
    have parts : t.takeWhile (· ≠ sep) ++ t.dropWhile (· ≠ sep) = t := List.takeWhile_append_dropWhile
    cases from_ : t.dropWhile (· ≠ sep) with
    | nil =>
      rw [from_] at rest
      exact (some rest.symm).elim
    | cons c more =>
      have isSep : c = sep := by
        have stopped := List.head_dropWhile_not (· ≠ sep) (by rw [from_]; exact List.cons_ne_nil c more)
        simp only [from_, List.head_cons] at stopped
        simpa using stopped
      rw [from_, List.drop_one, List.tail_cons] at rest
      rw [from_, isSep, rest] at parts
      refine ⟨parts.symm, fun inside => ?_⟩
      have kept := List.all_eq_true.mp List.all_takeWhile sep inside
      simp at kept
  · rintro ⟨rfl, none⟩
    have passed : ∀ c ∈ first, decide (c ≠ sep) = true := by
      intro c inside
      exact decide_eq_true fun same => none (same ▸ inside)
    rw [cut, List.takeWhile_append_of_pos passed, List.dropWhile_append_of_pos passed]
    simp

theorem lowerAfter_congr {before before' : Text}
    (alike : ∀ cs : Text, meetsCased (cs ++ before) = meetsCased (cs ++ before')) :
    lowerAfter before t = lowerAfter before' t := by
  induction t generalizing before before' with
  | nil => rfl
  | cons c rest ih =>
    have here : meetsCased before = meetsCased before' := alike []
    have later : lowerAfter (c :: before) rest = lowerAfter (c :: before') rest := by
      apply ih
      intro cs
      have extended := alike (cs ++ [c])
      simpa using extended
    rw [lowerAfter, lowerAfter, here, later]

theorem lowerAfter_append (before : Text) (noSigma : ∀ c ∈ first, c.val ≠ 0x3A3) (second : Text) :
    lowerAfter before (first ++ second) =
      first.flatMap CodePoint.lower ++ lowerAfter (first.reverse ++ before) second := by
  induction first generalizing before with
  | nil => rfl
  | cons c rest ih =>
    obtain ⟨plain, others⟩ := List.forall_mem_cons.mp noSigma
    rw [List.cons_append, lowerAfter, if_neg plain, ih _ others]
    simp

theorem meetsCased_underscore (cs more : Text) : meetsCased (cs ++ ('_' : CodePoint) :: more) = meetsCased cs := by
  have stops : CodePoint.isCaseIgnorable '_' = false := by decide +kernel
  have uncased : CodePoint.isCased '_' = false := by decide +kernel
  unfold meetsCased
  rw [List.dropWhile_append]
  cases left : cs.dropWhile CodePoint.isCaseIgnorable with
  | nil => simp [stops, uncased]
  | cons c rest => simp

end Text

namespace Environment

variable {name s o : Text} {m m' : Mapping} {env env' : Environment} {x : Scalar}

/-- After the common start, the name is in lower case a section and an option with an underscore between them, the
section being what stands before the first underscore. -/
def Sets (name s o : Text) : Prop :=
  ∃ rest, name = nameStart ++ rest ∧ Text.lower rest = s ++ ('_' : CodePoint) :: o ∧ ('_' : CodePoint) ∉ s ∧
    s ≠ [] ∧ o ≠ []

theorem role_eq_option_iff : role name = .option s o ↔ Sets name s o := by
  unfold role
  by_cases starts : nameStart.isPrefixOf name = true
  · obtain ⟨rest, rfl⟩ := List.isPrefixOf_iff_prefix.mp starts
    have given : (nameStart ++ rest).drop nameStart.length = rest := List.drop_left
    have only : ∀ {rest'}, nameStart ++ rest = nameStart ++ rest' → rest' = rest := fun same =>
      (List.append_cancel_left same).symm
    rw [if_pos starts, given]
    constructor
    · intro role
      split at role
      rename_i part option cut
      split at role
      · cases role
      · rename_i full
        cases role
        simp only [Bool.or_eq_true, List.isEmpty_iff, not_or] at full
        obtain ⟨parts, first⟩ := (Text.cut_eq_iff full.2).mp cut
        exact ⟨rest, rfl, parts, first, full⟩
    · rintro ⟨rest', same, parts, first, named, optional⟩
      rw [only same] at parts
      rw [(Text.cut_eq_iff optional).mpr ⟨parts, first⟩]
      simp [named, optional]
  · rw [if_neg starts]
    constructor
    · intro role
      cases role
    · rintro ⟨rest, rfl, _⟩
      exact (starts (List.isPrefixOf_iff_prefix.mpr ⟨rest, rfl⟩)).elim

theorem lower_of_sets (sets : Sets name s o) :
    Text.lower name = nameStart.flatMap CodePoint.lower ++ (s ++ ('_' : CodePoint) :: o) := by
  obtain ⟨rest, rfl, parts, _⟩ := sets
  have plain : ∀ c ∈ nameStart, c.val ≠ 0x3A3 := by decide
  have alone : Text.lowerAfter (nameStart.reverse ++ []) rest = Text.lowerAfter [] rest := by
    apply Text.lowerAfter_congr
    intro cs
    rw [List.append_nil, List.append_nil]
    exact Text.meetsCased_underscore cs (nameStart.reverse.drop 1)
  rw [Text.lower, Text.lowerAfter_append [] plain, alone, ← parts]
  rfl

/-- What the last variable that sets an option sets it to. -/
def setting? (env : Environment) (s o : Text) : Option Scalar :=
  (env.reverse.find? fun e => role e.1 = .option s o).map fun e => parseValue e.2

theorem setting?_cons (e : Text × Text) (rest : Environment) (s o : Text) :
    setting? (e :: rest) s o =
      (setting? rest s o).or (if role e.1 = .option s o then some (parseValue e.2) else none) := by
  unfold setting?
  rw [List.reverse_cons, List.find?_append]
  cases rest.reverse.find? fun e => role e.1 = .option s o with
  | some found => rfl
  | none => by_cases sets : role e.1 = .option s o <;> simp [sets]

theorem setting?_eq_some_iff : setting? env s o = some x ↔
    ∃ before name value after, env = before ++ (name, value) :: after ∧ Sets name s o ∧
      (∀ e ∈ after, ¬Sets e.1 s o) ∧ x = parseValue value := by
  unfold setting?
  rw [Option.map_eq_some_iff]
  simp only [List.find?_eq_some_iff_append, decide_eq_true_eq, Bool.not_eq_true', decide_eq_false_iff_not,
    role_eq_option_iff]
  constructor
  · rintro ⟨⟨name, value⟩, ⟨sets, after, before, order, others⟩, rfl⟩
    refine ⟨before.reverse, name, value, after.reverse, ?_, sets, ?_, rfl⟩
    · rw [← List.reverse_reverse env, order]
      simp
    · simpa using others
  · rintro ⟨before, name, value, after, rfl, sets, others, rfl⟩
    exact ⟨(name, value), ⟨sets, after.reverse, before.reverse, by simp, by simpa using others⟩, rfl⟩

def Apart (env : Environment) : Prop := (env.map fun e => Text.lower e.1).Nodup

theorem setting?_of_apart (apart : env.Apart) :
    setting? env s o = some x ↔ ∃ e ∈ env, Sets e.1 s o ∧ x = parseValue e.2 := by
  rw [setting?_eq_some_iff]
  constructor
  · rintro ⟨before, name, value, after, rfl, sets, _, isValue⟩
    exact ⟨(name, value), by simp, sets, isValue⟩
  · rintro ⟨⟨name, value⟩, inside, sets, isValue⟩
    obtain ⟨before, after, rfl⟩ := List.append_of_mem inside
    refine ⟨before, name, value, after, rfl, sets, fun e later again => ?_, isValue⟩
    -- two variables that set the same option would have the same name in lower case
    unfold Apart at apart
    rw [List.map_append, List.map_cons] at apart
    obtain ⟨fresh, _⟩ := List.nodup_cons.mp (List.nodup_append.mp apart).2.1
    exact fresh (List.mem_map.mpr ⟨e, later, (lower_of_sets again).trans (lower_of_sets sets).symm⟩)

theorem setting?_perm (perm : env.Perm env') (apart : env.Apart) (s o : Text) :
    setting? env s o = setting? env' s o := by
  have apart' : env'.Apart := (perm.map fun e : Text × Text => Text.lower e.1).nodup_iff.mp apart
  apply Option.ext
  intro x
  rw [setting?_of_apart apart, setting?_of_apart apart']
  simp only [perm.mem_iff]

def optionsOf (m : Mapping) (s : Text) : Mapping :=
  match m.field? s with
  | some (.map options) => options
  | _ => []

theorem optionsOf_bind (m : Mapping) (s o : Text) (x : Scalar) (s' : Text) :
    optionsOf (bind m s o x) s' =
      if s = s' then Mapping.put (optionsOf m s) (.text o) (.scalar x) else optionsOf m s' := by
  have put : bind m s o x = Mapping.put m (.text s) (.map (Mapping.put (optionsOf m s) (.text o) (.scalar x))) := rfl
  rw [put, optionsOf, Mapping.field?_put]
  by_cases same : s = s'
  · rw [if_pos same, if_pos same]
  · rw [if_neg same, if_neg same]
    rfl

def bound (m : Mapping) (e : Text × Text) : Mapping :=
  match role e.1 with
  | .foreign | .incomplete => m
  | .option s o => bind m s o (parseValue e.2)

theorem value_layer (env : Environment) (m : Mapping) : (layer env m).value = env.foldl bound m := by
  induction env generalizing m with
  | nil => rfl
  | cons e rest ih =>
    obtain ⟨name, value⟩ := e
    rw [layer, List.foldl_cons, bound]
    cases role name with
    | foreign => exact ih m
    | incomplete => exact ih m
    | option s o => exact ih (bind m s o (parseValue value))

theorem bound_of_ignored (ignored : ¬∃ s o, Sets name s o) (m : Mapping) (value : Text) :
    bound m (name, value) = m := by
  unfold bound
  cases isRole : role name with
  | foreign => rfl
  | incomplete => rfl
  | option s o => exact (ignored ⟨s, o, role_eq_option_iff.mp isRole⟩).elim

theorem option_bound (m : Mapping) (e : Text × Text) (s o : Text) :
    (optionsOf (bound m e) s).field? o =
      if role e.1 = .option s o then some (.scalar (parseValue e.2)) else (optionsOf m s).field? o := by
  unfold bound
  cases role e.1 with
  | foreign => simp
  | incomplete => simp
  | option s' o' =>
    dsimp only
    rw [optionsOf_bind]
    by_cases here : s' = s <;> simp [here, Mapping.field?_put]

theorem option_layer (env : Environment) (m : Mapping) (s o : Text) :
    (optionsOf (layer env m).value s).field? o =
      ((setting? env s o).map Value.scalar).or ((optionsOf m s).field? o) := by
  rw [value_layer]
  induction env generalizing m with
  | nil => rfl
  | cons e rest ih =>
    rw [List.foldl_cons, ih, option_bound, setting?_cons]
    cases setting? rest s o with
    | some later => rfl
    | none => by_cases here : role e.1 = .option s o <;> simp [here]

structure Flat (m : Mapping) : Prop where
  distinct : m.Distinct
  each : ∀ e ∈ m, ∃ o x, e = (.text o, .scalar x)

structure Sectioned (m : Mapping) : Prop where
  distinct : m.Distinct
  each : ∀ e ∈ m, ∃ s options, e = (.text s, .map options) ∧ options ≠ [] ∧ Flat options

theorem flat_nil : Flat [] := ⟨Assoc.distinct_nil, by simp⟩

theorem sectioned_nil : Sectioned [] := ⟨Assoc.distinct_nil, by simp⟩

theorem Flat.texts (flat : Flat m) : ∀ e ∈ m, ∃ t, e.1 = .text t := by
  intro e inside
  obtain ⟨o, _, rfl⟩ := flat.each e inside
  exact ⟨o, rfl⟩

theorem Sectioned.texts (sectioned : Sectioned m) : ∀ e ∈ m, ∃ t, e.1 = .text t := by
  intro e inside
  obtain ⟨s, _, rfl, _⟩ := sectioned.each e inside
  exact ⟨s, rfl⟩

theorem Sectioned.field? (sectioned : Sectioned m) (s : Text) :
    m.field? s = none ∧ optionsOf m s = [] ∨
      m.field? s = some (.map (optionsOf m s)) ∧ optionsOf m s ≠ [] ∧ Flat (optionsOf m s) := by
  unfold optionsOf
  cases bound : m.field? s with
  | none => exact .inl ⟨rfl, rfl⟩
  | some v =>
    obtain ⟨e, inside, _, rfl⟩ := Assoc.exists_of_get?_eq_some bound
    obtain ⟨_, options, rfl, some, flat⟩ := sectioned.each e inside
    exact .inr ⟨rfl, some, flat⟩

theorem Sectioned.flat (sectioned : Sectioned m) (s : Text) : Flat (optionsOf m s) := by
  rcases sectioned.field? s with ⟨_, none⟩ | ⟨_, _, flat⟩
  · rw [none]
    exact flat_nil
  · exact flat

theorem Sectioned.at? (sectioned : Sectioned m) (s o : Text) :
    Value.at? (.map m) [s, o] = (optionsOf m s).field? o := by
  rw [Value.at?_cons_of_entries rfl]
  rcases sectioned.field? s with ⟨unbound, none⟩ | ⟨found, _⟩
  · rw [unbound, none]
    rfl
  · rw [found, Option.bind_some, Value.at?_cons_of_entries rfl]
    cases (optionsOf m s).field? o <;> rfl

theorem key_put {v : Value} {e : Scalar × Value} (texts : ∀ e ∈ m, ∃ t, e.1 = .text t)
    (inside : e ∈ Mapping.put m (.text s) v) : e ∈ m ∨ e.2 = v ∧ ∃ t, e.1 = .text t := by
  rcases Assoc.mem_put inside with old | ⟨new, _, isNew | ⟨old, among⟩⟩
  · exact .inl old
  · exact .inr ⟨new, s, isNew⟩
  · exact .inr ⟨new, texts (e.1, old) among⟩

theorem Flat.put (flat : Flat m) (o : Text) (x : Scalar) : Flat (Mapping.put m (.text o) (.scalar x)) := by
  refine ⟨flat.distinct.put _ _, fun e inside => ?_⟩
  rcases key_put flat.texts inside with old | ⟨new, o', isText⟩
  · exact flat.each e old
  · exact ⟨o', x, Prod.ext isText new⟩

theorem Sectioned.bind (sectioned : Sectioned m) (s o : Text) (x : Scalar) : Sectioned (bind m s o x) := by
  refine ⟨sectioned.distinct.put _ _, fun e inside => ?_⟩
  rcases key_put sectioned.texts inside with old | ⟨new, s', isText⟩
  · exact sectioned.each e old
  · exact ⟨s', _, Prod.ext isText new, Assoc.put_ne_nil _ _ _, (sectioned.flat s).put o x⟩

theorem Sectioned.layer (sectioned : Sectioned m) (env : Environment) : Sectioned (layer env m).value := by
  rw [value_layer]
  induction env generalizing m with
  | nil => exact sectioned
  | cons e rest ih =>
    apply ih
    unfold bound
    cases role e.1 with
    | foreign => exact sectioned
    | incomplete => exact sectioned
    | option s o => exact sectioned.bind s o _

theorem option_layer_nil (env : Environment) (s o : Text) :
    (optionsOf (layer env []).value s).field? o = (setting? env s o).map Value.scalar := by
  rw [option_layer]
  exact Option.or_none

theorem at?_layer (env : Environment) (s o : Text) :
    Value.at? (.map (layer env []).value) [s, o] = (setting? env s o).map Value.scalar := by
  rw [(sectioned_nil.layer env).at?, option_layer_nil]

theorem value_layer_ignored (ignored : ¬∃ s o, Sets name s o) (before after : Environment) (value : Text)
    (m : Mapping) : (layer (before ++ (name, value) :: after) m).value = (layer (before ++ after) m).value := by
  rw [value_layer, value_layer, List.foldl_append, List.foldl_append, List.foldl_cons, bound_of_ignored ignored]

theorem Sectioned.shallow (sectioned : Sectioned m) : m.Shallow := by
  intro e inside
  obtain ⟨_, options, rfl, _, flat⟩ := sectioned.each e inside
  have deep : (Value.map options).depth ≤ 0 + 1 := by
    apply Value.depth_map_le
    intro f among
    obtain ⟨_, _, rfl⟩ := flat.each f among
    exact Nat.le_refl 0
  exact Nat.le_trans deep (by decide)

theorem Flat.same (flat : Flat m) (flat' : Flat m') (alike : ∀ o, m.field? o = m'.field? o) :
    Value.Same (.map m) (.map m') := by
  refine .map (Mapping.keys_perm flat.distinct flat'.distinct flat.texts flat'.texts fun t => by rw [alike]) ?_
  intro k v w bound bound'
  obtain ⟨t, isText⟩ := Mapping.exists_field? flat.texts bound
  rw [isText] at bound bound'
  cases Option.some.inj (bound.symm.trans ((alike t).trans bound'))
  exact .refl v

theorem Sectioned.same (sectioned : Sectioned m) (sectioned' : Sectioned m')
    (alike : ∀ s o, (optionsOf m s).field? o = (optionsOf m' s).field? o) : Value.Same (.map m) (.map m') := by
  have some_iff : ∀ {m : Mapping}, Sectioned m → ∀ s,
      (m.field? s).isSome = true ↔ ∃ o, ((optionsOf m s).field? o).isSome = true := by
    intro m sectioned s
    rcases sectioned.field? s with ⟨unbound, none⟩ | ⟨found, some, flat⟩
    · rw [unbound, none]
      simp [Mapping.field?, Mapping.get?, Assoc.get?]
    · obtain ⟨e, first⟩ := List.exists_mem_of_ne_nil _ some
      obtain ⟨o, x, rfl⟩ := flat.each e first
      have bound := (Mapping.text_mem_keys_iff flat.texts).mp (List.mem_map_of_mem first)
      exact iff_of_true (by rw [found]; rfl) ⟨o, bound⟩
  have keys : (m.map Prod.fst).Perm (m'.map Prod.fst) := by
    apply Mapping.keys_perm sectioned.distinct sectioned'.distinct sectioned.texts sectioned'.texts
    intro s
    rw [Bool.eq_iff_iff, some_iff sectioned, some_iff sectioned']
    simp only [alike]
  refine .map keys fun k v w bound bound' => ?_
  obtain ⟨s, isText⟩ := Mapping.exists_field? sectioned.texts bound
  rw [isText] at bound bound'
  rcases sectioned.field? s with ⟨unbound, _⟩ | ⟨found, _, flat⟩
  · cases unbound.symm.trans bound
  · rcases sectioned'.field? s with ⟨unbound, _⟩ | ⟨found', _, flat'⟩
    · cases unbound.symm.trans bound'
    · cases found.symm.trans bound
      cases found'.symm.trans bound'
      exact flat.same flat' (alike s)

theorem same_layer (perm : env.Perm env') (apart : env.Apart) :
    Value.Same (.map (layer env []).value) (.map (layer env' []).value) := by
  apply (sectioned_nil.layer env).same (sectioned_nil.layer env')
  intro s o
  rw [option_layer_nil, option_layer_nil, setting?_perm perm apart]

end Environment

namespace Settings

section Reordered

variable {files : Files} {directory home : Path} {env env' : Environment} {file profile : Option Text}
  {settings : Mapping}
  {sources : List Text}

theorem fileLayer_reordered :
    fileLayer ⟨files, env', directory, home⟩ file = fileLayer ⟨files, env, directory, home⟩ file := rfl

theorem merged_reordered (perm : env.Perm env') (apart : env.Apart)
    (merged : Merged ⟨files, env, directory, home⟩ file profile settings sources) :
    ∃ settings' sources', Merged ⟨files, env', directory, home⟩ file profile settings' sources' ∧
      Value.Same (.map settings) (.map settings') := by
  obtain ⟨ls, applied, merged, rfl⟩ := merged
  have keyed := applied.wellKeyed
  obtain ⟨profiles, fromFile, environment, named, found, set, rfl⟩ := applied
  have found' : FileApplied ⟨files, env', directory, home⟩ file fromFile := by
    rw [← fileLayer_eq_ok_iff] at found ⊢
    exact found
  have same := Environment.same_layer perm apart
  cases set with
  | silent nothing =>
    have nothing' : environmentEntries ⟨files, env', directory, home⟩ = [] := same.eq_nil_iff.mp nothing
    exact ⟨settings, _, ⟨_, ⟨profiles, fromFile, [], named, found', .silent nothing', rfl⟩, merged, rfl⟩, .refl _⟩
  | setting something =>
    have something' : environmentEntries ⟨files, env', directory, home⟩ ≠ [] := by
      intro nothing
      exact something (same.eq_nil_iff.mpr nothing)
    obtain ⟨shallow, rfl⟩ := Mapping.merge?_eq_some_iff.mp merged
    have written : ∀ l : Layer, (⟨"defaults", defaults⟩ :: (profiles ++ fromFile ++ [l])).map Layer.entries =
        (⟨"defaults", defaults⟩ :: (profiles ++ fromFile)).map Layer.entries ++ [l.entries] := by simp
    have keyedLower : ∀ es ∈ (⟨"defaults", defaults⟩ :: (profiles ++ fromFile)).map Layer.entries,
        (Value.map es).WellKeyed := by
      intro es inside
      obtain ⟨l, among, rfl⟩ := List.mem_map.mp inside
      exact keyed l (List.mem_append_left _ among)
    rw [written] at shallow
    refine ⟨_, _, ⟨_, ⟨profiles, fromFile, _, named, found', .setting something', rfl⟩,
      Mapping.merge?_eq_some_iff.mpr ⟨?_, rfl⟩, rfl⟩, ?_⟩
    · rw [written]
      intro es inside
      rcases List.mem_append.mp inside with lower | top
      · exact shallow es (List.mem_append_left _ lower)
      · rw [List.mem_singleton.mp top]
        exact (Environment.sectioned_nil.layer env').shallow
    · rw [written, written]
      exact Mapping.same_merge keyedLower same (layer_plain plain_nil).1 (layer_plain plain_nil).1

theorem load_reordered (perm : env.Perm env') (apart : env.Apart) (files : Files) (directory home : Path)
    (file profile : Option Text) :
    let m := Manager.new file profile
    (∃ f, (m.load ⟨files, env, directory, home⟩).value.2 = .error f ∧
      (m.load ⟨files, env', directory, home⟩).value.2 = .error f) ∨
      ∃ settings settings', (m.load ⟨files, env, directory, home⟩).value.2 = .ok settings ∧
        (m.load ⟨files, env', directory, home⟩).value.2 = .ok settings' ∧
        Value.Same (.map settings) (.map settings') := by
  intro m
  have apart' : env'.Apart := (perm.map fun e : Text × Text => Text.lower e.1).nodup_iff.mp apart
  cases loaded : (m.load ⟨files, env, directory, home⟩).value.2 with
  | ok settings =>
    rcases load_eq_ok_iff.mp loaded with kept | ⟨fresh, sources, merged⟩
    · cases kept
    · obtain ⟨settings', sources', merged', same⟩ := merged_reordered perm apart merged
      exact .inr ⟨settings, settings', rfl, load_eq_ok_iff.mpr (.inr ⟨rfl, sources', merged'⟩), same⟩
  | error f =>
    cases loaded' : (m.load ⟨files, env', directory, home⟩).value.2 with
    | ok settings' =>
      rcases load_eq_ok_iff.mp loaded' with kept | ⟨fresh, sources', merged'⟩
      · cases kept
      · obtain ⟨settings, sources, merged, _⟩ := merged_reordered perm.symm apart' merged'
        cases loaded.symm.trans (load_eq_ok_iff.mpr (.inr ⟨rfl, sources, merged⟩))
    | error g =>
      have failsAlike : ∀ f, (layers ⟨files, env, directory, home⟩ file profile).value.2 = some f ↔
          (layers ⟨files, env', directory, home⟩ file profile).value.2 = some f := by
        intro f
        rw [layers_fail_iff, layers_fail_iff, fileLayer_reordered]
      have reached : ∀ {w : World} {ls : List Layer}, Applied w file profile ls →
          (layers w file profile).value.2 = none := by
        intro w ls applied
        rw [layers_eq_iff.mpr applied]
      rcases (load_of_fresh_eq_error_iff rfl).mp loaded with failed | ⟨rfl, ls, applied, _⟩
      · rcases (load_of_fresh_eq_error_iff rfl).mp loaded' with failed' | ⟨_, ls, applied', _⟩
        · cases ((failsAlike f).mp failed).symm.trans failed'
          exact .inl ⟨f, rfl, rfl⟩
        · cases ((failsAlike f).mp failed).symm.trans (reached applied')
      · rcases (load_of_fresh_eq_error_iff rfl).mp loaded' with failed' | ⟨rfl, _⟩
        · cases ((failsAlike g).mpr failed').symm.trans (reached applied)
        · exact .inl ⟨.tooDeep, rfl, rfl⟩

/-- Both are refused for the same reason, or both answer, whatever the fallback, the same but for the order of
entries. -/
inductive Alike : Except Fault (Option Value) → Except Fault (Option Value) → Prop where
  | answered {found found' : Option Value}
    (same : ∀ fallback : Value, Value.Same (found.getD fallback) (found'.getD fallback)) :
    Alike (.ok found) (.ok found')
  | refused (f : Fault) : Alike (.error f) (.error f)

theorem get_reordered (perm : env.Perm env') (apart : env.Apart) (key : Text) :
    Alike ((Manager.new file profile).get? ⟨files, env, directory, home⟩ key).value.2
      ((Manager.new file profile).get? ⟨files, env', directory, home⟩ key).value.2 := by
  rcases load_reordered perm apart files directory home file profile with
    ⟨f, failed, failed'⟩ | ⟨settings, settings', loaded, loaded', same⟩
  · rw [value_get_of_load failed, value_get_of_load failed']
    exact .refused f
  · rw [value_get_of_load loaded, value_get_of_load loaded']
    exact .answered (Value.same_getD (same.at? (key.splitOn '.')))

end Reordered

open Environment in
/-- The layer of the environment binds what its variables set, for each option the last of them, and nothing else. So
where no two names are the same in lower case, their order is not seen in what settings answer. -/
theorem environment_layer (env : Environment) :
    let m := (Environment.layer env []).value
    (∀ s o v, Value.at? (.map m) [s, o] = some v ↔
      ∃ before name value after, env = before ++ (name, value) :: after ∧ Sets name s o ∧
        (∀ e ∈ after, ¬Sets e.1 s o) ∧ v = .scalar (parseValue value)) ∧
    Sectioned m ∧
    (∀ before name value after, env = before ++ (name, value) :: after → (¬∃ s o, Sets name s o) →
      (Environment.layer (before ++ after) []).value = m) ∧
    ∀ env', env.Perm env' → env.Apart → ∀ files directory home file profile key,
      Alike ((Manager.new file profile).get? ⟨files, env, directory, home⟩ key).value.2
        ((Manager.new file profile).get? ⟨files, env', directory, home⟩ key).value.2 := by
  refine ⟨fun s o v => ?_, sectioned_nil.layer env, ?_, ?_⟩
  · rw [at?_layer, Option.map_eq_some_iff]
    simp only [setting?_eq_some_iff]
    constructor
    · rintro ⟨x, ⟨before, name, value, after, order, sets, last, rfl⟩, rfl⟩
      exact ⟨before, name, value, after, order, sets, last, rfl⟩
    · rintro ⟨before, name, value, after, order, sets, last, rfl⟩
      exact ⟨_, ⟨before, name, value, after, order, sets, last, rfl⟩, rfl⟩
  · rintro before name value after rfl ignored
    exact (value_layer_ignored ignored before after value []).symm
  · intro env' perm apart files directory home file profile key
    exact get_reordered perm apart key

def mixed : Environment :=
  [("TOKENMSG_CLI_OUTPUT_FORMAT", "table"), ("tokenmsg_cli_verbose", "2"), ("TOKENMSG__VERBOSE", "1"),
    ("TOKENMSG_Validator_Log_Level", "no")]

theorem environment_layer_mixed :
    Value.at? (.map (Environment.layer mixed []).value) ["validator", "log_level"] = some (.bool false) ∧
      mixed.Apart ∧
      ∀ key, Alike
        ((Manager.new none (some "strict")).get?
          ⟨clashing.files, mixed, clashing.directory, clashing.home⟩ key).value.2
        ((Manager.new none (some "strict")).get?
          ⟨clashing.files, mixed.reverse, clashing.directory, clashing.home⟩ key).value.2 := by
  obtain ⟨bound, _, _, alike⟩ := environment_layer mixed
  have sets : Environment.Sets "TOKENMSG_Validator_Log_Level" "validator" "log_level" :=
    ⟨"Validator_Log_Level", by decide +kernel, by decide +kernel, by decide +kernel, by decide +kernel,
      by decide +kernel⟩
  have last : mixed = mixed.take 3 ++ [(("TOKENMSG_Validator_Log_Level" : Text), ("no" : Text))] := rfl
  have no : Value.bool false = .scalar (Environment.parseValue "no") := by decide +kernel
  have apart : mixed.Apart := by
    unfold Environment.Apart
    decide +kernel
  refine ⟨(bound _ _ _).mpr ⟨_, _, _, [], last, sets, List.forall_mem_nil _, no⟩, apart, fun key => ?_⟩
  exact alike mixed.reverse (List.reverse_perm mixed).symm apart _ _ _ _ _ key

end Settings

end TokenIntake
