import TokenIntake.Proofs.Settings.Snapshot

namespace TokenIntake

namespace DataFile

def parse? (path : Path) (bytes : List UInt8) : Option (Except Fault Value) :=
  if isYaml path then some (ofYaml bytes) else if isJson path then some (ofJson bytes) else none

def Fault.isFormless : Fault → Bool
  | .json (.malformed ..) | .yaml .malformed => true
  | .files .. | .encoding _ | .json _ | .yaml _ => false

theorem Fault.ofYaml_ne_files (f : Yaml.Fault) (place : Text) (g : Files.Fault) : ofYaml f ≠ .files place g := by
  cases f <;> simp [ofYaml]

variable {path : Path} {bytes : List UInt8} {f : Fault}

theorem ofYaml_ne_files (place : Text) (g : Files.Fault) : ofYaml bytes ≠ .error (.files place g) := by
  intro failed
  obtain ⟨f, _, same⟩ := mapError_eq_error failed
  exact Fault.ofYaml_ne_files f place g same.symm

theorem ofJson_ne_files (place : Text) (g : Files.Fault) : ofJson bytes ≠ .error (.files place g) := by
  intro failed
  unfold ofJson at failed
  cases decoded : Utf8.decode bytes with
  | error f =>
    rw [decoded] at failed
    cases failed
  | ok t =>
    rw [decoded] at failed
    obtain ⟨e, _, same⟩ := mapError_eq_error failed
    cases same

theorem ofFile_of_parse (parsed : parse? path bytes = some (.error f)) :
    Settings.Fault.ofFile path f = if f.isFormless then .refused (.unreadable path f) else .content f := by
  cases f with
  | files place g =>
    unfold parse? at parsed
    split at parsed
    · exact (ofYaml_ne_files place g (Option.some.inj parsed)).elim
    · split at parsed
      · exact (ofJson_ne_files place g (Option.some.inj parsed)).elim
      · cases parsed
  | encoding g => rfl
  | json e => cases e <;> rfl
  | yaml g => cases g <;> rfl

end DataFile

namespace Settings

inductive Spoilt (fs : Files) (path : Path) : Fault → Prop where
  | unreadable {f : Files.Fault} (unread : fs.read path = .error f) :
    Spoilt fs path (.refused (.unreadable path (.files path.text f)))
  | unknownFormat {bytes : List UInt8} (read : fs.read path = .ok bytes)
    (unknown : DataFile.parse? path bytes = none) : Spoilt fs path (.refused (.unknownFormat path))
  | malformed {bytes : List UInt8} {f : DataFile.Fault} (read : fs.read path = .ok bytes)
    (parsed : DataFile.parse? path bytes = some (.error f)) (formless : f.isFormless = true) :
    Spoilt fs path (.refused (.unreadable path f))
  | valueless {bytes : List UInt8} {f : DataFile.Fault} (read : fs.read path = .ok bytes)
    (parsed : DataFile.parse? path bytes = some (.error f)) (formed : f.isFormless = false) :
    Spoilt fs path (.content f)
  | notMapping {bytes : List UInt8} {v : Value} (read : fs.read path = .ok bytes)
    (parsed : DataFile.parse? path bytes = some (.ok v)) (something : v.opened ≠ .null) (other : v.entries? = none) :
    Spoilt fs path (.refused (.notMapping path))

/-- Where a file is looked for: at the path that is named, or along the search path as long as there is none. -/
inductive Sought (w : World) : Option Text → Path → Prop where
  | explicit {name : Text} (named : name ≠ []) : Sought w (some name) (.ofText name)
  | searched {file : Option Text} {before after : List Path} {path : Path} (unnamed : file = none ∨ file = some [])
    (order : w.searchPaths = before ++ path :: after) (missing : ∀ q ∈ before, w.files.exists? q = .ok false) :
    Sought w file path

inductive FileFails (w : World) : Option Text → Fault → Prop where
  | missing {name : Text} (named : name ≠ []) (gone : w.files.exists? (.ofText name) = .ok false) :
    FileFails w (some name) (.refused (.notFound (.ofText name)))
  | unanswered {file : Option Text} {path : Path} {f : Files.Fault} (sought : Sought w file path)
    (failed : w.files.exists? path = .error f) : FileFails w file (.search path f)
  | spoilt {file : Option Text} {path : Path} {f : Fault} (sought : Sought w file path)
    (there : w.files.exists? path = .ok true) (spoilt : Spoilt w.files path f) : FileFails w file f

/-- Why there are no merged settings. -/
inductive Fails (w : World) (file : Option Text) : Option Text → Fault → Prop where
  | unknownProfile {label : Text} (named : label ≠ []) (unknown : Profile.ofLabel? label = none) :
    Fails w file (some label) (.refused (.unknownProfile label))
  | file {profile : Option Text} {ls : List Layer} {f : Fault} (applied : ProfileApplied profile ls)
    (failed : FileFails w file f) : Fails w file profile f
  | tooDeep {profile : Option Text} {ls : List Layer} (applied : Applied w file profile ls)
    (deep : ∃ l ∈ ls, ∃ e ∈ l.entries, maxCopyDepth < e.2.depth) : Fails w file profile .tooDeep

section File

variable {fs : Files} {path : Path} {f : Fault}

theorem readData_of_unread {g : Files.Fault} (unread : fs.read path = .error g) :
    readData fs path = .error (.refused (.unreadable path (.files path.text g))) := by
  rw [readData, DataFile.contents, unread]
  rfl

theorem readData_of_read {bytes : List UInt8} (read : fs.read path = .ok bytes) :
    readData fs path = (DataFile.parse? path bytes).elim (.error (.refused (.unknownFormat path)))
      fun parsed => parsed.mapError (.ofFile path) := by
  rw [readData, DataFile.contents, read]
  dsimp only [mapError_ok, DataFile.parse?]
  split
  · rfl
  · split <;> rfl

theorem readFile_of_readData_ok {v : Value} (given : readData fs path = .ok v) :
    readFile fs path = match v.opened with
      | .null => .ok []
      | .map entries => .ok entries
      | _ => .error (.refused (.notMapping path)) := by
  rw [readFile, given]
  rfl

theorem readFile_of_readData_error (failed : readData fs path = .error f) : readFile fs path = .error f := by
  rw [readFile, failed]
  rfl

theorem readFile_eq_error_iff : readFile fs path = .error f ↔ Spoilt fs path f := by
  constructor
  · intro failed
    cases read : fs.read path with
    | error g =>
      rw [readFile_of_readData_error (readData_of_unread read)] at failed
      cases failed
      exact .unreadable read
    | ok bytes =>
      have given := readData_of_read read
      match parsed : DataFile.parse? path bytes with
      | none =>
        rw [parsed] at given
        rw [readFile_of_readData_error given] at failed
        cases failed
        exact .unknownFormat read parsed
      | some (.error g) =>
        rw [parsed, Option.elim_some, mapError_error, DataFile.ofFile_of_parse parsed] at given
        rw [readFile_of_readData_error given] at failed
        cases form : g.isFormless with
        | true =>
          rw [form] at failed
          cases failed
          exact .malformed read parsed form
        | false =>
          rw [form] at failed
          cases failed
          exact .valueless read parsed form
      | some (.ok v) =>
        rw [parsed] at given
        rw [readFile_of_readData_ok given] at failed
        split at failed
        · cases failed
        · cases failed
        · rename_i something other
          cases failed
          refine .notMapping read parsed something ?_
          unfold Value.entries?
          split
          · rename_i entries mapping
            exact (other entries mapping).elim
          · rfl
  · intro spoilt
    cases spoilt with
    | unreadable unread => exact readFile_of_readData_error (readData_of_unread unread)
    | unknownFormat read unknown =>
      apply readFile_of_readData_error
      rw [readData_of_read read, unknown]
      rfl
    | malformed read parsed formless =>
      apply readFile_of_readData_error
      rw [readData_of_read read, parsed, Option.elim_some, mapError_error, DataFile.ofFile_of_parse parsed, formless]
      rfl
    | valueless read parsed formed =>
      apply readFile_of_readData_error
      rw [readData_of_read read, parsed, Option.elim_some, mapError_error, DataFile.ofFile_of_parse parsed, formed]
      rfl
    | @notMapping bytes v read parsed something other =>
      have given : readData fs path = .ok v := by
        rw [readData_of_read read, parsed]
        rfl
      rw [readFile_of_readData_ok given]
      unfold Value.entries? at other
      split
      · rename_i nothing
        exact (something nothing).elim
      · rename_i entries mapping
        rw [mapping] at other
        cases other
      · rfl

end File

theorem find_eq_error_iff {fs : Files} {paths : List Path} {f : Fault} :
    find fs paths = .error f ↔ ∃ before path after g, f = .search path g ∧ paths = before ++ path :: after ∧
      (∀ q ∈ before, fs.exists? q = .ok false) ∧ fs.exists? path = .error g := by
  induction paths with
  | nil => simp [find]
  | cons first rest ih =>
    rw [find]
    constructor
    · intro failed
      cases there : fs.exists? first with
      | error g =>
        rw [there] at failed
        cases failed
        exact ⟨[], first, rest, g, rfl, rfl, by simp, there⟩
      | ok b =>
        rw [there] at failed
        cases b with
        | true => cases failed
        | false =>
          obtain ⟨before, path, after, g, same, rfl, missing, failed⟩ := ih.mp failed
          exact ⟨first :: before, path, after, g, same, rfl, List.forall_mem_cons.mpr ⟨there, missing⟩, failed⟩
    · rintro ⟨before, path, after, g, same, order, missing, failed⟩
      cases before with
      | nil =>
        obtain ⟨rfl, rfl⟩ := List.cons.inj order
        rw [failed, same]
      | cons q before =>
        obtain ⟨rfl, rfl⟩ := List.cons.inj order
        obtain ⟨skipped, missing⟩ := List.forall_mem_cons.mp missing
        rw [skipped]
        exact ih.mpr ⟨before, path, after, g, same, rfl, missing, failed⟩

section Layers

variable {w : World} {file profile : Option Text} {f : Fault}

theorem fileLayer_of_named_eq_error_iff {name : Text} (named : name ≠ []) :
    (fileLayer w (some name)).value = .error f ↔ FileFails w (some name) f := by
  have sought : Sought w (some name) (.ofText name) := .explicit named
  have only : ∀ {path}, Sought w (some name) path → path = .ofText name := by
    intro path sought
    cases sought with
    | explicit => rfl
    | searched unnamed => simp [named] at unnamed
  rw [value_fileLayer_of_named w named]
  constructor
  · intro failed
    match there : w.files.exists? (.ofText name) with
    | .error g =>
      rw [there] at failed
      cases failed
      exact .unanswered sought there
    | .ok false =>
      rw [there] at failed
      cases failed
      exact .missing named there
    | .ok true =>
      rw [there] at failed
      have spoilt := readFile_eq_error_iff.mp (map_eq_error failed)
      exact .spoilt sought there spoilt
  · intro fails
    cases fails with
    | missing _ gone => rw [gone]
    | unanswered sought failed =>
      obtain rfl := only sought
      rw [failed]
    | spoilt sought there spoilt =>
      obtain rfl := only sought
      rw [there]
      dsimp only
      rw [readFile_eq_error_iff.mpr spoilt]
      rfl

theorem fileLayer_of_unnamed_eq_error_iff (unnamed : file = none ∨ file = some []) :
    (fileLayer w file).value = .error f ↔ FileFails w file f := by
  rw [value_fileLayer_of_unnamed w unnamed]
  constructor
  · intro failed
    rcases bind_eq_error failed with failed | ⟨found, searched, failed⟩
    · obtain ⟨before, path, after, g, rfl, order, missing, failed⟩ := find_eq_error_iff.mp failed
      exact .unanswered (.searched unnamed order missing) failed
    · cases found with
      | none => cases failed
      | some path =>
        obtain ⟨before, after, order, missing, there⟩ := find_eq_ok_some_iff.mp searched
        have spoilt := readFile_eq_error_iff.mp (map_eq_error failed)
        exact .spoilt (.searched unnamed order missing) there spoilt
  · intro fails
    cases fails with
    | missing named gone => simp [named] at unnamed
    | unanswered sought failed =>
      cases sought with
      | explicit named => simp [named] at unnamed
      | searched _ order missing =>
        rw [find_eq_error_iff.mpr ⟨_, _, _, _, rfl, order, missing, failed⟩]
        rfl
    | spoilt sought there spoilt =>
      cases sought with
      | explicit named => simp [named] at unnamed
      | searched _ order missing =>
        rw [find_eq_ok_some_iff.mpr ⟨_, _, order, missing, there⟩]
        simp only [Except.bind, Option.elim_some, readFile_eq_error_iff.mpr spoilt]
        rfl

theorem fileLayer_eq_error_iff : (fileLayer w file).value = .error f ↔ FileFails w file f := by
  match file with
  | none => exact fileLayer_of_unnamed_eq_error_iff (.inl rfl)
  | some [] => exact fileLayer_of_unnamed_eq_error_iff (.inr rfl)
  | some (c :: t) => exact fileLayer_of_named_eq_error_iff (List.cons_ne_nil c t)

theorem profileLayer_eq_error_iff : (profileLayer profile).value = .error f ↔
    ∃ label, profile = some label ∧ label ≠ [] ∧ Profile.ofLabel? label = none ∧
      f = .refused (.unknownProfile label) := by
  match profile with
  | none => simp [profileLayer]
  | some [] => simp [profileLayer]
  | some (c :: t) =>
    dsimp only [profileLayer]
    cases known : Profile.ofLabel? (c :: t) with
    | none => simp [known, eq_comm]
    | some p => simp [known]

theorem layers_fail_iff : (layers w file profile).value.2 = some f ↔
    (profileLayer profile).value = .error f ∨
      (∃ ls, (profileLayer profile).value = .ok ls) ∧ (fileLayer w file).value = .error f := by
  unfold layers
  rw [Traced.value_bind]
  cases (profileLayer profile).value with
  | error g => simp
  | ok profiles =>
    dsimp only
    rw [Traced.value_bind]
    cases (fileLayer w file).value with
    | error g => simp
    | ok files => simp

theorem merge?_eq_none_iff {layers : List Layer} : Mapping.merge? (layers.map Layer.entries) = none ↔
    ∃ l ∈ layers, ∃ e ∈ l.entries, maxCopyDepth < e.2.depth := by
  unfold Mapping.merge?
  split
  · rename_i deep
    simpa using deep
  · rename_i shallow
    simpa using shallow

end Layers

section Load

variable {m : Manager} {w : World} {settings : Mapping} {f : Fault}

theorem load_eq_ok_iff : (m.load w).value.2 = .ok settings ↔
    m.cache = some settings ∨ m.cache = none ∧ ∃ sources, Merged w m.file m.profile settings sources := by
  cases cache : m.cache with
  | some kept =>
    rw [load_of_kept cache]
    simp
  | none =>
    constructor
    · intro loaded
      obtain ⟨ls, applied, merged⟩ := applied_of_load cache loaded
      exact .inr ⟨rfl, ls.map Layer.source, ls, applied, merged, rfl⟩
    · rintro (kept | ⟨_, sources, merged⟩)
      · cases kept
      · rw [load_of_merged cache merged]

theorem load_of_fresh_eq_error_iff (fresh : m.cache = none) : (m.load w).value.2 = .error f ↔
    (layers w m.file m.profile).value.2 = some f ∨
      f = .tooDeep ∧ ∃ ls, Applied w m.file m.profile ls ∧ Mapping.merge? (ls.map Layer.entries) = none := by
  unfold Manager.load
  rw [fresh]
  dsimp only
  rw [Traced.value_bind]
  match reached : (layers w m.file m.profile).value with
  | (ls, some g) =>
    have unapplied : ∀ ls, ¬Applied w m.file m.profile ls := by
      intro ls applied
      rw [layers_eq_iff.mpr applied] at reached
      cases reached
    simp [unapplied]
  | (ls, none) =>
    have only : ∀ ls', Applied w m.file m.profile ls' ↔ ls' = ls := by
      intro ls'
      rw [← layers_eq_iff, reached]
      simp [eq_comm]
    dsimp only
    cases merged : Mapping.merge? (ls.map Layer.entries) with
    | none => simp [only, merged, eq_comm]
    | some settings => simp [only, merged]

theorem load_eq_error_iff : (m.load w).value.2 = .error f ↔ m.cache = none ∧ Fails w m.file m.profile f := by
  cases cache : m.cache with
  | some kept =>
    rw [load_of_kept cache]
    simp
  | none =>
    rw [load_of_fresh_eq_error_iff cache, layers_fail_iff, profileLayer_eq_error_iff, fileLayer_eq_error_iff]
    simp only [profileLayer_eq_ok_iff, merge?_eq_none_iff, true_and]
    constructor
    · rintro ((⟨label, isNamed, named, unknown, rfl⟩ | ⟨⟨ls, applied⟩, failed⟩) | ⟨rfl, ls, applied, deep⟩)
      · rw [isNamed]
        exact .unknownProfile named unknown
      · exact .file applied failed
      · exact .tooDeep applied deep
    · intro fails
      generalize m.profile = profile at fails ⊢
      cases fails with
      | unknownProfile named unknown => exact .inl (.inl ⟨_, rfl, named, unknown, rfl⟩)
      | file applied failed => exact .inl (.inr ⟨⟨_, applied⟩, failed⟩)
      | tooDeep applied deep => exact .inr ⟨rfl, _, applied, deep⟩

theorem cache_of_failed (failed : (m.load w).value.2 = .error f) : (m.load w).value.1.cache = none := by
  obtain ⟨fresh, _⟩ := load_eq_error_iff.mp failed
  have vain : ¬∃ settings sources, Merged w m.file m.profile settings sources := by
    rintro ⟨settings, sources, merged⟩
    rw [load_of_merged fresh merged] at failed
    cases failed
  obtain ⟨left, _, loaded⟩ := load_in_vain fresh vain
  rw [loaded]
  exact fresh

end Load

/-- A load either gives merged settings or has a reason to fail, and then keeps nothing. Every failure is a refusal
but for a path of which it cannot be told whether it is there, a file with something in it that has no value, and
data that lies too deep to be merged. -/
theorem load_outcome (m : Manager) (w : World) :
    (∀ settings, (m.load w).value.2 = .ok settings ↔
      m.cache = some settings ∨ m.cache = none ∧ ∃ sources, Merged w m.file m.profile settings sources) ∧
    (∀ f, (m.load w).value.2 = .error f ↔ m.cache = none ∧ Fails w m.file m.profile f) ∧
    (∀ f, (m.load w).value.2 = .error f → (m.load w).value.1.cache = none) ∧
    ((∃ settings, (m.load w).value.2 = .ok settings) ∨ (∃ r, (m.load w).value.2 = .error (.refused r)) ↔
      m.cache = none → (∀ path f, ¬Fails w m.file m.profile (.search path f)) ∧
        (∀ f, ¬Fails w m.file m.profile (.content f)) ∧ ¬Fails w m.file m.profile .tooDeep) := by
  refine ⟨fun settings => load_eq_ok_iff, fun f => load_eq_error_iff, fun f => cache_of_failed, ?_⟩
  constructor
  · rintro promised fresh
    have refused : ∀ f, Fails w m.file m.profile f → ∃ r, f = .refused r := by
      intro f fails
      have failed := load_eq_error_iff.mpr ⟨fresh, fails⟩
      rcases promised with ⟨settings, loaded⟩ | ⟨r, refused⟩
      · rw [loaded] at failed
        cases failed
      · rw [refused] at failed
        exact ⟨r, (Except.error.inj failed).symm⟩
    refine ⟨fun path f fails => ?_, fun f fails => ?_, fun fails => ?_⟩
    · cases (refused _ fails).choose_spec
    · cases (refused _ fails).choose_spec
    · cases (refused _ fails).choose_spec
  · intro foreseen
    cases loaded : (m.load w).value.2 with
    | ok settings => exact .inl ⟨settings, rfl⟩
    | error f =>
      obtain ⟨fresh, fails⟩ := load_eq_error_iff.mp loaded
      obtain ⟨found, valued, shallow⟩ := foreseen fresh
      cases f with
      | refused r => exact .inr ⟨r, rfl⟩
      | search path f => exact (found path f fails).elim
      | content f => exact (valued f fails).elim
      | tooDeep => exact (shallow fails).elim

def defective : World where
  files := ((Files.new ["work"]).put ["work", "c.toml"] (.file [])).put ["work", "c.json"] (.file [0xFF])
  environment := []
  directory := "/work"
  home := "/work/home"

theorem load_outcome_toml :
    Fails defective (some "c.toml") none (.refused (.unknownFormat "c.toml")) ∧
      ((Manager.new (some "c.toml") none).load defective).value.2 = .error (.refused (.unknownFormat "c.toml")) ∧
      ((Manager.new (some "c.toml") none).load defective).value.1.cache = none := by
  have read : defective.files.read (.ofText "c.toml") = .ok [] := by decide +kernel
  have spoilt : Spoilt defective.files (.ofText "c.toml") (.refused (.unknownFormat "c.toml")) :=
    .unknownFormat read (by decide +kernel)
  have fails : Fails defective (some "c.toml") none (.refused (.unknownFormat "c.toml")) :=
    .file .none (.spoilt (.explicit (by decide)) (by decide +kernel) spoilt)
  obtain ⟨_, failed, left, _⟩ := load_outcome (.new (some "c.toml") none) defective
  have refused := (failed _).mpr ⟨rfl, fails⟩
  exact ⟨fails, refused, left _ refused⟩

theorem undecodable_file_not_refused :
    let result := ((Manager.new (some "c.json") none).load defective).value.2
    result = .error (.content (.encoding ⟨0xFF, 0, 0, .invalidStart⟩)) ∧ ∀ r, result ≠ .error (.refused r) := by
  intro result
  have met : result = .error (.content (.encoding ⟨0xFF, 0, 0, .invalidStart⟩)) := rfl
  refine ⟨met, fun r => ?_⟩
  rw [met]
  simp

end Settings

end TokenIntake
