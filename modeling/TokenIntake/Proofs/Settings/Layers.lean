import TokenIntake.Proofs.Json.Settled
import TokenIntake.Proofs.Settings.Resolve
import TokenIntake.Proofs.Yaml.Keyed
import TokenIntake.Settings.Manager

namespace TokenIntake.Settings

inductive ProfileApplied : Option Text → List Layer → Prop where
  | none : ProfileApplied none []
  | unnamed : ProfileApplied (some []) []
  | known {label : Text} {p : Profile} (named : label ≠ []) (isKnown : Profile.ofLabel? label = some p) :
    ProfileApplied (some label) [⟨"profile:" ++ label, p.layer⟩]

inductive FileApplied (w : World) : Option Text → List Layer → Prop where
  | explicit {name : Text} {entries : Mapping} (named : name ≠ [])
    (there : w.files.exists? (.ofText name) = .ok true) (content : readFile w.files (.ofText name) = .ok entries) :
    FileApplied w (some name) [⟨"file:" ++ (Path.ofText name).text, entries⟩]
  | found {file : Option Text} {before after : List Path} {path : Path} {entries : Mapping}
    (unnamed : file = none ∨ file = some []) (order : w.searchPaths = before ++ path :: after)
    (missing : ∀ q ∈ before, w.files.exists? q = .ok false) (there : w.files.exists? path = .ok true)
    (content : readFile w.files path = .ok entries) : FileApplied w file [⟨"file:" ++ path.text, entries⟩]
  | nowhere {file : Option Text} (unnamed : file = none ∨ file = some [])
    (missing : ∀ q ∈ w.searchPaths, w.files.exists? q = .ok false) : FileApplied w file []

def environmentEntries (w : World) : Mapping := (Environment.layer w.environment []).value

inductive EnvironmentApplied (w : World) : List Layer → Prop where
  | silent (nothing : environmentEntries w = []) : EnvironmentApplied w []
  | setting (something : environmentEntries w ≠ []) : EnvironmentApplied w [⟨"environment", environmentEntries w⟩]

/-- The layers of a load in a world, the lowest first. -/
def Applied (w : World) (file profile : Option Text) (ls : List Layer) : Prop :=
  ∃ profiles files environment, ProfileApplied profile profiles ∧ FileApplied w file files ∧
    EnvironmentApplied w environment ∧ ls = ⟨"defaults", defaults⟩ :: (profiles ++ files ++ environment)

theorem profileLayer_eq_ok_iff {profile : Option Text} {ls : List Layer} :
    (profileLayer profile).value = .ok ls ↔ ProfileApplied profile ls := by
  constructor
  · intro applied
    match profile with
    | none =>
      cases applied
      exact .none
    | some [] =>
      cases applied
      exact .unnamed
    | some (c :: t) =>
      dsimp only [profileLayer] at applied
      cases known : Profile.ofLabel? (c :: t) with
      | none =>
        rw [known] at applied
        cases applied
      | some p =>
        rw [known] at applied
        cases applied
        exact .known (List.cons_ne_nil c t) known
  · intro applied
    cases applied with
    | none => rfl
    | unnamed => rfl
    | @known label p named isKnown =>
      obtain ⟨c, t, rfl⟩ := List.exists_cons_of_ne_nil named
      dsimp only [profileLayer]
      rw [isKnown]
      rfl

theorem find_eq_ok_none_iff {fs : Files} {paths : List Path} :
    find fs paths = .ok none ↔ ∀ q ∈ paths, fs.exists? q = .ok false := by
  induction paths with
  | nil => simp [find]
  | cons path rest ih =>
    rw [find, List.forall_mem_cons]
    cases fs.exists? path with
    | error f => simp
    | ok b => cases b <;> simp [ih]

theorem find_eq_ok_some_iff {fs : Files} {paths : List Path} {path : Path} :
    find fs paths = .ok (some path) ↔ ∃ before after, paths = before ++ path :: after ∧
      (∀ q ∈ before, fs.exists? q = .ok false) ∧ fs.exists? path = .ok true := by
  induction paths with
  | nil => simp [find]
  | cons first rest ih =>
    rw [find]
    constructor
    · intro found
      cases there : fs.exists? first with
      | error f =>
        rw [there] at found
        cases found
      | ok b =>
        rw [there] at found
        cases b with
        | true =>
          cases found
          exact ⟨[], rest, rfl, by simp, there⟩
        | false =>
          obtain ⟨before, after, rfl, missing, found⟩ := ih.mp found
          exact ⟨first :: before, after, rfl, List.forall_mem_cons.mpr ⟨there, missing⟩, found⟩
    · rintro ⟨before, after, order, missing, there⟩
      cases before with
      | nil =>
        obtain ⟨rfl, rfl⟩ := List.cons.inj order
        rw [there]
      | cons q before =>
        obtain ⟨rfl, rfl⟩ := List.cons.inj order
        obtain ⟨skipped, missing⟩ := List.forall_mem_cons.mp missing
        rw [skipped]
        exact ih.mpr ⟨before, after, rfl, missing, there⟩

theorem value_fileLayer_of_unnamed (w : World) {file : Option Text} (unnamed : file = none ∨ file = some []) :
    (fileLayer w file).value = (find w.files w.searchPaths).bind fun found =>
      found.elim (.ok []) fun path =>
        (readFile w.files path).map fun entries => [⟨"file:" ++ path.text, entries⟩] := by
  have search : (fileLayer w file).value = (fileLayer w none).value := by
    rcases unnamed with rfl | rfl <;> rfl
  rw [search]
  dsimp only [fileLayer]
  cases find w.files w.searchPaths with
  | error f => rfl
  | ok found =>
    cases found with
    | none => rfl
    | some path =>
      dsimp only [Except.bind, Option.elim]
      cases readFile w.files path <;> rfl

theorem value_fileLayer_of_named (w : World) {name : Text} (named : name ≠ []) :
    (fileLayer w (some name)).value = match w.files.exists? (.ofText name) with
      | .ok true => (readFile w.files (.ofText name)).map fun entries => [⟨"file:" ++ (Path.ofText name).text, entries⟩]
      | .ok false => .error (.refused (.notFound (.ofText name)))
      | .error g => .error (.search (.ofText name) g) := by
  obtain ⟨c, t, rfl⟩ := List.exists_cons_of_ne_nil named
  dsimp only [fileLayer]
  cases w.files.exists? (.ofText (c :: t)) with
  | error g => rfl
  | ok b => cases b <;> rfl

theorem fileLayer_eq_ok_iff {w : World} {file : Option Text} {ls : List Layer} :
    (fileLayer w file).value = .ok ls ↔ FileApplied w file ls := by
  by_cases unnamed : file = none ∨ file = some []
  · rw [value_fileLayer_of_unnamed w unnamed]
    constructor
    · intro applied
      obtain ⟨found, searched, applied⟩ := bind_eq_ok applied
      cases found with
      | none =>
        cases applied
        exact .nowhere unnamed (find_eq_ok_none_iff.mp searched)
      | some path =>
        obtain ⟨before, after, order, missing, there⟩ := find_eq_ok_some_iff.mp searched
        obtain ⟨entries, content, rfl⟩ := map_eq_ok applied
        exact .found unnamed order missing there content
    · intro applied
      cases applied with
      | explicit named there content =>
        rcases unnamed with none | empty
        · cases none
        · exact (named (Option.some.inj empty)).elim
      | @found _ before after path entries _ order missing there content =>
        have searched := find_eq_ok_some_iff.mpr ⟨before, after, order, missing, there⟩
        rw [searched]
        simp only [Except.bind, Option.elim_some, content]
        rfl
      | nowhere _ missing =>
        rw [find_eq_ok_none_iff.mpr missing]
        rfl
  · match file with
    | none => exact (unnamed (.inl rfl)).elim
    | some [] => exact (unnamed (.inr rfl)).elim
    | some (c :: t) =>
      rw [value_fileLayer_of_named w (List.cons_ne_nil c t)]
      constructor
      · intro applied
        cases there : w.files.exists? (.ofText (c :: t)) with
        | error f =>
          rw [there] at applied
          cases applied
        | ok b =>
          rw [there] at applied
          cases b with
          | false => cases applied
          | true =>
            obtain ⟨entries, content, rfl⟩ := map_eq_ok applied
            exact .explicit (List.cons_ne_nil c t) there content
      · intro applied
        cases applied with
        | explicit named there content =>
          rw [there]
          dsimp only
          rw [content]
          rfl
        | found unnamed' => exact (unnamed unnamed').elim
        | nowhere unnamed' => exact (unnamed unnamed').elim

theorem environmentLayer_eq_iff {w : World} {ls : List Layer} :
    (environmentLayer w).value = ls ↔ EnvironmentApplied w ls := by
  have written : (environmentLayer w).value =
      if (environmentEntries w).isEmpty then [] else [⟨"environment", environmentEntries w⟩] := rfl
  rw [written]
  cases set : environmentEntries w with
  | nil =>
    constructor
    · rintro rfl
      exact .silent set
    · intro applied
      cases applied with
      | silent _ => rfl
      | setting something => exact (something set).elim
  | cons e es =>
    have something : environmentEntries w ≠ [] := by simp [set]
    constructor
    · rintro rfl
      have applied := EnvironmentApplied.setting something
      rwa [set] at applied
    · intro applied
      cases applied with
      | silent nothing => exact (something nothing).elim
      | setting _ => simp [set]

theorem layers_eq_iff {w : World} {file profile : Option Text} {ls : List Layer} :
    (layers w file profile).value = (ls, none) ↔ Applied w file profile ls := by
  constructor
  · intro applied
    unfold layers at applied
    rw [Traced.value_bind] at applied
    cases named : (profileLayer profile).value with
    | error f =>
      rw [named] at applied
      cases applied
    | ok profiles =>
      rw [named] at applied
      dsimp only at applied
      rw [Traced.value_bind] at applied
      cases found : (fileLayer w file).value with
      | error f =>
        rw [found] at applied
        cases applied
      | ok files =>
        rw [found] at applied
        cases applied
        refine ⟨profiles, files, (environmentLayer w).value, profileLayer_eq_ok_iff.mp named,
          fileLayer_eq_ok_iff.mp found, environmentLayer_eq_iff.mp rfl, ?_⟩
        simp
  · rintro ⟨profiles, files, environment, named, found, set, rfl⟩
    unfold layers
    rw [Traced.value_bind, profileLayer_eq_ok_iff.mpr named]
    dsimp only
    rw [Traced.value_bind, fileLayer_eq_ok_iff.mpr found]
    dsimp only
    rw [Traced.value_bind, environmentLayer_eq_iff.mpr set]
    simp

theorem ofJson_wellKeyed {bytes : List UInt8} {v : Value} (read : DataFile.ofJson bytes = .ok v) :
    v.WellKeyed := by
  unfold DataFile.ofJson at read
  cases decoded : Utf8.decode bytes with
  | error f =>
    rw [decoded] at read
    cases read
  | ok t =>
    rw [decoded] at read
    exact Json.wellKeyed_of_parse (mapError_eq_ok read)

theorem readData_wellKeyed {fs : Files} {path : Path} {v : Value} (read : readData fs path = .ok v) :
    v.WellKeyed := by
  unfold readData at read
  cases there : DataFile.contents fs path with
  | error f =>
    rw [there] at read
    cases read
  | ok bytes =>
    rw [there] at read
    dsimp only at read
    by_cases yaml : DataFile.isYaml path = true
    · rw [if_pos yaml] at read
      exact Yaml.wellKeyed_of_read (mapError_eq_ok (mapError_eq_ok read))
    · rw [if_neg yaml] at read
      by_cases json : DataFile.isJson path = true
      · rw [if_pos json] at read
        exact ofJson_wellKeyed (mapError_eq_ok read)
      · rw [if_neg json] at read
        cases read

theorem readFile_wellKeyed {fs : Files} {path : Path} {entries : Mapping} (read : readFile fs path = .ok entries) :
    (Value.map entries).WellKeyed := by
  obtain ⟨v, content, opened⟩ := bind_eq_ok read
  have keyed := (readData_wellKeyed content).opened
  split at opened
  · cases opened
    exact Value.wellKeyed_hereditary.whole Assoc.distinct_nil (by simp)
  · rename_i es mapping
    cases opened
    exact mapping ▸ keyed
  · cases opened

def Plain (entries : Mapping) : Prop := (Value.map entries).WellKeyed ∧ (Value.map entries).Tree

theorem plain_nil : Plain [] := Value.tree_hereditary.whole Assoc.distinct_nil (by simp)

theorem Plain.put {m : Mapping} (plain : Plain m) (k : Scalar) {v : Value} (keyed : v.WellKeyed) (tree : v.Tree) :
    Plain (Mapping.put m k v) := by
  obtain ⟨distinct, parts⟩ := Value.tree_hereditary.parts plain rfl
  apply Value.tree_hereditary.whole (distinct.put k v)
  intro e inside
  rcases Assoc.values_put inside with new | ⟨e', among, same⟩
  · rw [new]
    exact ⟨keyed, tree⟩
  · exact same ▸ parts e' among

theorem bind_plain {m : Mapping} (plain : Plain m) (part option : Text) (s : Scalar) :
    Plain (Environment.bind m part option s) := by
  have section_ : ∀ options, Plain options →
      Plain (Mapping.put m (.text part) (.map (Mapping.put options (.text option) (.scalar s)))) := by
    intro options plainOptions
    obtain ⟨keyed, tree⟩ := plainOptions.put (.text option) (Value.wellKeyed_scalar s) (.scalar s)
    exact plain.put (.text part) keyed tree
  unfold Environment.bind
  split
  · rename_i options bound
    have inside := Value.get?_wellKeyed plain.1 bound
    exact section_ options ⟨inside, Value.get?_tree plain.2 bound⟩
  · exact section_ [] plain_nil

theorem layer_plain {env : Environment} {m : Mapping} (plain : Plain m) : Plain (Environment.layer env m).value := by
  induction env generalizing m with
  | nil => exact plain
  | cons variable_ rest ih =>
    obtain ⟨name, value⟩ := variable_
    unfold Environment.layer
    cases Environment.role name with
    | foreign => exact ih plain
    | incomplete => exact ih plain
    | option part option => exact ih (bind_plain plain part option _)

theorem plain_options {options : Mapping} (distinct : (options.map fun e => e.1.canon).Nodup)
    (scalars : ∀ e ∈ options, ∃ s, e.2 = .scalar s) : Plain options := by
  apply Value.tree_hereditary.whole distinct
  intro e inside
  obtain ⟨s, isScalar⟩ := scalars e inside
  rw [isScalar]
  exact ⟨Value.wellKeyed_scalar s, .scalar s⟩

theorem plain_sections {first second : Text} (other : first ≠ second) {a b : Mapping} (plainFirst : Plain a)
    (plainSecond : Plain b) : Plain [(.text first, .map a), (.text second, .map b)] := by
  apply Value.tree_hereditary.whole
  · simp [Mapping.Distinct, Assoc.Distinct, Scalar.canon, other]
  · simp only [List.forall_mem_cons]
    exact ⟨plainFirst, plainSecond, by simp⟩

theorem defaults_plain : Plain defaults :=
  plain_sections (by decide) (plain_options (by decide) (by simp)) (plain_options (by decide) (by simp))

theorem profile_plain (p : Profile) : Plain p.layer := by
  cases p with
  | development =>
    exact plain_sections (by decide) (plain_options (by decide) (by simp)) (plain_options (by decide) (by simp))
  | strict =>
    exact plain_sections (by decide) (plain_options (by decide) (by simp)) (plain_options (by decide) (by simp))

theorem ProfileApplied.plain {profile : Option Text} {ls : List Layer} (applied : ProfileApplied profile ls) :
    ∀ l ∈ ls, Plain l.entries := by
  intro l inside
  cases applied with
  | none => cases inside
  | unnamed => cases inside
  | @known label p _ _ =>
    rw [List.mem_singleton.mp inside]
    exact profile_plain p

theorem EnvironmentApplied.plain {w : World} {ls : List Layer} (applied : EnvironmentApplied w ls) :
    ∀ l ∈ ls, Plain l.entries := by
  intro l inside
  cases applied with
  | silent _ => cases inside
  | setting _ =>
    rw [List.mem_singleton.mp inside]
    exact layer_plain plain_nil

theorem FileApplied.wellKeyed {w : World} {file : Option Text} {ls : List Layer} (applied : FileApplied w file ls) :
    ∀ l ∈ ls, (Value.map l.entries).WellKeyed := by
  intro l inside
  cases applied with
  | explicit _ _ content =>
    rw [List.mem_singleton.mp inside]
    exact readFile_wellKeyed content
  | found _ _ _ _ content =>
    rw [List.mem_singleton.mp inside]
    exact readFile_wellKeyed content
  | nowhere _ _ => cases inside

theorem FileApplied.atMostOne {w : World} {file : Option Text} {ls : List Layer} (applied : FileApplied w file ls) :
    ls.length ≤ 1 := by
  cases applied <;> simp

section Applied

variable {w : World} {file profile : Option Text} {ls : List Layer}

theorem Applied.wellKeyed (applied : Applied w file profile ls) : ∀ l ∈ ls, (Value.map l.entries).WellKeyed := by
  obtain ⟨profiles, files, environment, named, found, set, rfl⟩ := applied
  intro l inside
  simp only [List.mem_cons, List.mem_append] at inside
  rcases inside with rfl | (inside | inside) | inside
  · exact defaults_plain.1
  · exact (named.plain l inside).1
  · exact found.wellKeyed l inside
  · exact (set.plain l inside).1

theorem unshared_of_trees {upper lower : List Mapping} (trees : ∀ es ∈ upper, (Value.map es).Tree)
    (unshared : Unshared lower) : Unshared (upper ++ lower) := by
  induction upper with
  | nil => exact unshared
  | cons top rest ih =>
    obtain ⟨tree, trees⟩ := List.forall_mem_cons.mp trees
    exact ⟨.inl tree, ih trees⟩

theorem Applied.unshared (applied : Applied w file profile ls) : Unshared (ls.map Layer.entries).reverse := by
  obtain ⟨profiles, files, environment, named, found, set, rfl⟩ := applied
  have below : ∀ es ∈ (profiles.map Layer.entries).reverse ++ [defaults], (Value.map es).Tree := by
    intro es inside
    simp only [List.mem_append, List.mem_reverse, List.mem_map, List.mem_singleton] at inside
    rcases inside with ⟨l, inside, rfl⟩ | rfl
    · exact (named.plain l inside).2
    · exact defaults_plain.2
  have lower : Unshared ((profiles.map Layer.entries).reverse ++ [defaults]) := by
    have all : Unshared (_ ++ []) := unshared_of_trees below trivial
    rwa [List.append_nil] at all
  have middle :
      Unshared ((files.map Layer.entries).reverse ++ ((profiles.map Layer.entries).reverse ++ [defaults])) := by
    have one := found.atMostOne
    match files with
    | [] => exact lower
    | [l] => exact ⟨.inr below, lower⟩
  have above : ∀ es ∈ (environment.map Layer.entries).reverse, (Value.map es).Tree := by
    intro es inside
    simp only [List.mem_reverse, List.mem_map] at inside
    obtain ⟨l, inside, rfl⟩ := inside
    exact (set.plain l inside).2
  have all := unshared_of_trees above middle
  simpa using all

end Applied

end TokenIntake.Settings
