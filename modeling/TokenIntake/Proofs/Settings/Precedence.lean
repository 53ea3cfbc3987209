import TokenIntake.Proofs.Settings.Layers

namespace TokenIntake.Settings

theorem merge_of_merge? {layers : List Mapping} {all : Mapping} (merged : Mapping.merge? layers = some all) :
    Mapping.merge layers = all := by
  unfold Mapping.merge? at merged
  split at merged
  · cases merged
  · exact Option.some.inj merged

theorem get?_join {path : List Text} (some : path ≠ []) (dotless : ∀ k ∈ path, ('.' : CodePoint) ∉ k)
    (settings : Mapping) : Settings.get? settings (Text.join "." path) = Value.at? (.map settings) path := by
  have parts := Text.splitOn_join some dotless
  rw [Settings.get?]
  exact congrArg _ parts

section Load

variable {m m' : Manager} {w : World} {result : Except Fault Mapping}

theorem value_get (loaded : (m.load w).value = (m', result)) (key : Text) :
    (m.get? w key).value.2 = result.map fun settings => Settings.get? settings key := by
  unfold Manager.get?
  rw [Traced.value_bind, loaded]
  rfl

theorem value_get_of_load (loaded : (m.load w).value.2 = result) (key : Text) :
    (m.get? w key).value.2 = result.map fun settings => Settings.get? settings key := by
  rw [← loaded]
  exact value_get rfl key

theorem value_applied (loaded : (m.load w).value = (m', result)) :
    (m.applied w).value.2 = result.map fun _ => m'.sources := by
  unfold Manager.applied
  rw [Traced.value_bind, loaded]
  rfl

end Load

section Fresh

variable {m : Manager} {w : World} {settings : Mapping} {ls : List Layer}

theorem load_of_applied (fresh : m.cache = none) (applied : Applied w m.file m.profile ls)
    (merged : Mapping.merge? (ls.map Layer.entries) = some settings) :
    (m.load w).value = ({ m with sources := ls.map Layer.source, cache := some settings }, .ok settings) := by
  unfold Manager.load
  rw [fresh]
  dsimp only
  rw [Traced.value_bind, layers_eq_iff.mpr applied]
  dsimp only
  rw [merged]
  rfl

theorem applied_of_load (fresh : m.cache = none) (loaded : (m.load w).value.2 = .ok settings) :
    ∃ ls, Applied w m.file m.profile ls ∧ Mapping.merge? (ls.map Layer.entries) = some settings := by
  unfold Manager.load at loaded
  rw [fresh] at loaded
  dsimp only at loaded
  rw [Traced.value_bind] at loaded
  match reached : (layers w m.file m.profile).value with
  | (ls, some f) =>
    rw [reached] at loaded
    cases loaded
  | (ls, none) =>
    rw [reached] at loaded
    dsimp only at loaded
    refine ⟨ls, layers_eq_iff.mp reached, ?_⟩
    cases merged : Mapping.merge? (ls.map Layer.entries) with
    | none =>
      rw [merged] at loaded
      cases loaded
    | some all =>
      rw [merged] at loaded
      cases loaded
      rfl

/-- What is found under a key is what the layers resolve to there, whatever else they bind. -/
theorem settings_precedence (fresh : m.cache = none) (loaded : (m.load w).value.2 = .ok settings) :
    ∃ ls, Applied w m.file m.profile ls ∧ (m.applied w).value.2 = .ok (ls.map Layer.source) ∧
      ∀ path : List Text, path ≠ [] → (∀ k ∈ path, ('.' : CodePoint) ∉ k) → ∀ fallback : Value,
        ((m.get? w (Text.join "." path)).value.2.map fun found => found.getD fallback) =
          .ok ((resolve (ls.map Layer.entries).reverse path).getD fallback) := by
  obtain ⟨ls, applied, merged⟩ := applied_of_load fresh loaded
  have result := load_of_applied fresh applied merged
  refine ⟨ls, applied, value_applied result, fun path some dotless fallback => ?_⟩
  have keyed : ∀ es ∈ (ls.map Layer.entries).reverse, (Value.map es).WellKeyed := by
    simpa using applied.wellKeyed
  have found := at?_merge keyed applied.unshared some
  rw [List.reverse_reverse, merge_of_merge? merged, ← get?_join some dotless] at found
  rw [value_get result, Except.map, found]
  rfl

end Fresh

def clashing : World where
  files := (Files.new ["work"]).put ["work", ".tokenmsg.json"] (.file (Text.utf8 "\x7b\"cli\": \"off\"\x7d"))
  environment := [("TOKENMSG_CLI_VERBOSE", "2")]
  directory := "/work"
  home := "/work/home"

def clashingSettings : Mapping :=
  [(.text "cli", .map [(.text "verbose", .int 2)]),
    (.text "validator", .map [(.text "validator_id", .text "tokenmsg_cli_validator"),
      (.text "log_level", .text "WARNING")])]

theorem settings_precedence_clashing :
    ((Manager.new none (some "strict")).load clashing).value.2 = .ok clashingSettings ∧
      ∃ ls, Applied clashing none (some "strict") ls ∧
        ((Manager.new none (some "strict")).applied clashing).value.2 = .ok (ls.map Layer.source) ∧
        ∀ fallback : Value,
          (((Manager.new none (some "strict")).get? clashing (Text.join "." ["cli", "output_format"])).value.2.map
            fun found => found.getD fallback) =
            .ok ((resolve (ls.map Layer.entries).reverse ["cli", "output_format"]).getD fallback) := by
  have loaded : ((Manager.new none (some "strict")).load clashing).value.2 = .ok clashingSettings := by
    have kept : ((Manager.new none (some "strict")).load clashing).value.2.toOption = some clashingSettings := by
      decide +kernel
    exact eq_ok_of_toOption kept
  obtain ⟨ls, applied, sources, found⟩ := settings_precedence (w := clashing) rfl loaded
  exact ⟨loaded, ls, applied, sources, found ["cli", "output_format"] (by decide) (by decide)⟩

end TokenIntake.Settings
