import TokenIntake.Proofs.Check.Operation
import TokenIntake.Proofs.Except
import TokenIntake.Proofs.Settings.Merge

namespace TokenIntake

namespace Mapping

/-- Values of two elements each, and the entries that they are. A first element that is no scalar but can be a key is a
pair itself, and what it binds is not kept, since no option is looked up under it. -/
inductive IsPairs : List Value → List (Scalar × Value) → Prop where
  | nil : IsPairs [] []
  | cons {x v : Value} {k : Scalar} {xs : List Value} {es : List (Scalar × Value)}
    (pair : elements? x = some [.scalar k, v]) (rest : IsPairs xs es) : IsPairs (x :: xs) ((k, v) :: es)
  | passed {x k v : Value} {xs : List Value} {es : List (Scalar × Value)} (pair : elements? x = some [k, v])
    (other : ∀ s, k ≠ .scalar s) (hashable : unhashable? k = none) (rest : IsPairs xs es) : IsPairs (x :: xs) es

theorem ofElements_ok_iff {i : Nat} {xs : List Value} {es : List (Scalar × Value)} :
    ofElements i xs = .ok es ↔ IsPairs xs es := by
  constructor
  · intro read
    induction xs generalizing i es with
    | nil =>
      cases read
      exact .nil
    | cons x rest ih =>
      rw [ofElements] at read
      split at read
      · cases read
      · rename_i pair
        obtain ⟨later, further, rfl⟩ := map_eq_ok read
        exact .cons pair (ih further)
      · rename_i k v other pair
        cases hashable : unhashable? k with
        | some kind =>
          rw [hashable] at read
          cases read
        | none =>
          rw [hashable] at read
          exact .passed pair (fun s same => other s same) hashable (ih read)
      · cases read
  · intro pairs
    induction pairs generalizing i with
    | nil => rfl
    | cons pair _ ih => rw [ofElements, pair, ih]; rfl
    | @passed x k v xs es pair other hashable _ ih =>
      cases k with
      | scalar s => exact absurd rfl (other s)
      | list _ | map _ | graph _ =>
        rw [ofElements, pair]
        dsimp only
        rw [hashable, ih]

end Mapping

namespace Options

/-- The options that a value stands for: none if it is empty, the entries of a mapping, and otherwise those of its
pairs, of which the last for a key counts. -/
inductive Gives : Value → Mapping → Prop where
  | nothing {v : Value} (empty : v.truthy = false) : Gives v []
  | entries {v : Value} {es : Mapping} (more : v.truthy = true) (mapping : v.entries? = some es) : Gives v es
  | pairs {v : Value} {xs : List Value} {es : List (Scalar × Value)} (more : v.truthy = true)
      (other : v.entries? = none) (elements : Mapping.elements? v = some xs)
      (each : Mapping.IsPairs xs es) : Gives v (Mapping.ofPairs es)

variable {v asked : Value} {given m : Mapping}

theorem gives_iff : Gives v given ↔ ofGiven v = .ok given := by
  constructor
  · intro gives
    cases gives with
    | nothing empty => rw [ofGiven, empty]; rfl
    | entries more mapping => rw [ofGiven, if_pos more, Mapping.ofValue, mapping]
    | pairs more other elements each =>
      rw [ofGiven, if_pos more, Mapping.ofValue, other, elements]
      dsimp only
      rw [Mapping.ofElements_ok_iff.mpr each]
      rfl
  · intro read
    unfold ofGiven Mapping.ofValue at read
    split at read
    · rename_i more
      split at read
      · rename_i mapping
        cases read
        exact .entries more mapping
      · rename_i other
        split at read
        · rename_i elements
          obtain ⟨es, each, rfl⟩ := map_eq_ok read
          exact .pairs more other elements (Mapping.ofElements_ok_iff.mp each)
        · cases read
    · rename_i empty
      cases read
      exact .nothing (Bool.eq_false_iff.mpr empty)

theorem Gives.unique {given' : Mapping} (gives : Gives v given) (gives' : Gives v given') : given = given' :=
  Except.ok.inj ((gives_iff.mp gives).symm.trans (gives_iff.mp gives'))

theorem Gives.distinct (gives : Gives v given) (keyed : v.WellKeyed) : given.Distinct := by
  cases gives with
  | nothing => exact Assoc.distinct_nil
  | entries _ mapping => exact (Value.wellKeyed_map_iff.mp (keyed.entries mapping)).1
  | pairs => exact Assoc.distinct_ofPairs _

theorem ofGiven_map (es : Mapping) : ofGiven (.map es) = .ok es := by
  cases es with
  | nil => rfl
  | cons e rest => rfl

theorem get?_fill (m defaults : Mapping) (k : Scalar) :
    (fill m defaults).get? k = (m.get? k).or (defaults.get? k) := by
  induction defaults generalizing m with
  | nil => exact (Option.or_none).symm
  | cons e rest ih =>
    have step : fill m (e :: rest) = fill (if m.contains e.1 then m else m ++ [e]) rest := rfl
    rw [step, ih, Mapping.get?_cons]
    by_cases there : m.contains e.1 = true
    · obtain ⟨old, bound⟩ := Option.isSome_iff_exists.mp there
      rw [if_pos there]
      split
      · rename_i same
        have asked : m.get? k = some old := (Assoc.get?_congr same).symm.trans bound
        rw [asked, Option.some_or, Option.some_or]
      · rfl
    · rw [if_neg there, Mapping.get?_append, Option.or_assoc, Mapping.get?_cons]
      split <;> rfl

def Identified (config : Scalar → Option Value) : Prop :=
  ∃ id : Text, id ≠ [] ∧ config (.text "validator_id") = some (.text id)

def level (config : Scalar → Option Value) : Value := (config (.text "log_level")).getD .null

theorem level_get? (options : Mapping) : level options.get? = (options.field? "log_level").getD .null := rfl

/-- A level that is empty, or that has one of the names there are, in whichever case. -/
def Known (asked : Value) : Prop :=
  asked.truthy = true → ∃ name least, asked.shown = .ok name ∧ Log.threshold? name.upperAscii = some least

structure Unknown (asked : Value) (name : Text) : Prop where
  more : asked.truthy = true
  shown : asked.shown = .ok name
  none : Log.threshold? name.upperAscii = none

structure Unwritten (asked : Value) (u : Unwritable) : Prop where
  more : asked.truthy = true
  shown : asked.shown = .error u

theorem Known.not_unwritten (known : Known asked) (u : Unwritable) : ¬Unwritten asked u := by
  rintro ⟨more, shown⟩
  obtain ⟨name, least, named, _⟩ := known more
  cases named.symm.trans shown

theorem Known.not_unknown (known : Known asked) (name : Text) : ¬Unknown asked name := by
  rintro ⟨more, shown, none⟩
  obtain ⟨name', least, shown', named⟩ := known more
  cases shown.symm.trans shown'
  cases none.symm.trans named

theorem Unknown.not_unwritten {name : Text} (unknown : Unknown asked name) (u : Unwritable) : ¬Unwritten asked u := by
  rintro ⟨_, shown⟩
  cases unknown.shown.symm.trans shown

theorem validatorId?_eq_some_iff {id : Text} :
    validatorId? m = some id ↔ id ≠ [] ∧ m.field? "validator_id" = some (.text id) := by
  unfold validatorId?
  constructor
  · intro found
    split at found
    · rename_i c rest bound
      cases found
      exact ⟨List.cons_ne_nil c rest, bound⟩
    · cases found
  · rintro ⟨some, bound⟩
    obtain ⟨c, rest, rfl⟩ := List.exists_cons_of_ne_nil some
    rw [bound]

theorem validatorId?_eq_none_iff : validatorId? m = none ↔ ¬Identified m.get? := by
  rw [Option.eq_none_iff_forall_ne_some, Identified, not_exists]
  exact forall_congr' fun id => not_congr validatorId?_eq_some_iff

inductive Asks (asked : Value) : Except Fault (Option (Option Log.Level)) → Prop where
  | nothing (empty : asked.truthy = false) : Asks asked (.ok none)
  | threshold {name : Text} {least : Option Log.Level} (more : asked.truthy = true) (shown : asked.shown = .ok name)
      (named : Log.threshold? name.upperAscii = some least) : Asks asked (.ok (some least))
  | unknown {name : Text} (unknown : Unknown asked name) : Asks asked (.error (.logLevel name))
  | unwritten {u : Unwritable} (unwritten : Unwritten asked u) : Asks asked (.error (.unwritable u))

theorem threshold?_asks (asked : Value) : Asks asked (threshold? asked) := by
  unfold threshold?
  cases more : asked.truthy with
  | false => exact .nothing more
  | true =>
    cases shown : asked.shown with
    | error u => exact .unwritten ⟨more, shown⟩
    | ok name =>
      simp only [mapError_ok, bind, Except.bind, if_true]
      cases named : Log.threshold? name.upperAscii with
      | none => exact .unknown ⟨more, shown, named⟩
      | some least => exact .threshold more shown named

theorem Asks.known {least : Option (Option Log.Level)} (asks : Asks asked (.ok least)) : Known asked := by
  intro more
  cases asks with
  | nothing empty => cases empty.symm.trans more
  | threshold _ shown named => exact ⟨_, _, shown, named⟩

def standard : Mapping :=
  [(.text "validator_id", .text "tokenmsg_default_validator"), (.text "log_level", .null)]

end Options

namespace Engine

open Options

/-- What a configuration comes to: an engine that has it, or what is wrong with it, the identifier first. -/
inductive Outcome (config : Scalar → Option Value) : Except Options.Fault Engine → Prop where
  | built {options : Mapping} (identified : Identified config) (known : Known (level config))
      (same : ∀ k, options.get? k = config k) : Outcome config (.ok (fresh options))
  | unidentified (none : ¬Identified config) : Outcome config (.error .validatorId)
  | unknown {name : Text} (identified : Identified config) (unknown : Unknown (level config) name) :
      Outcome config (.error (.logLevel name))
  | unwritten {u : Unwritable} (identified : Identified config) (unwritten : Unwritten (level config) u) :
      Outcome config (.error (.unwritable u))

theorem ofOptions_outcome (given : Mapping) :
    Outcome (fun k => (given.get? k).or (Options.defaults.get? k)) (ofOptions given).value := by
  have filled : (fun k => (given.get? k).or (Options.defaults.get? k)) = (fill given Options.defaults).get? :=
    funext fun k => (get?_fill given Options.defaults k).symm
  rw [filled, value_ofOptions]
  cases found : validatorId? (fill given Options.defaults) with
  | none => exact .unidentified (validatorId?_eq_none_iff.mp found)
  | some id =>
    have identified : Identified (fill given Options.defaults).get? := ⟨id, validatorId?_eq_some_iff.mp found⟩
    have asks := threshold?_asks (level (fill given Options.defaults).get?)
    dsimp only
    rw [← level_get?]
    generalize threshold? (level (fill given Options.defaults).get?) = asked at asks ⊢
    cases asked with
    | ok least => exact .built identified asks.known fun _ => rfl
    | error fault =>
      cases asks with
      | unknown unknown => exact .unknown identified unknown
      | unwritten unwritten => exact .unwritten identified unwritten

theorem buildDefault_outcome {v : Value} {given : Mapping} (gives : Gives v given) (distinct : given.Distinct) :
    Outcome (fun k => (given.get? k).or (standard.get? k)) (buildDefault v).value := by
  have config : ∀ k, ((Mapping.putAll [(.text "validator_id", .text "tokenmsg_default_validator")] given).get? k).or
      (Options.defaults.get? k) = (given.get? k).or (standard.get? k) := by
    intro k
    rw [Mapping.get?_putAll distinct, Option.or_assoc]
    congr 1
    simp only [standard, Options.defaults, Mapping.get?_cons]
    split <;> rfl
  rw [buildDefault, gives_iff.mp gives, ← funext config]
  exact ofOptions_outcome _

end Engine

end TokenIntake
