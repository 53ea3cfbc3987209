import TokenIntake.Proofs.Message.Decode
import TokenIntake.Proofs.Settings.Merge

namespace TokenIntake

open Decoded

namespace Decoded

variable {α β : Type}

@[simp] theorem issues_map (f : α → β) (x : Decoded α) : (f <$> x).issues = x.issues := by
  cases x <;> rfl

@[simp] theorem issues_seq (f : Decoded (α → β)) (x : Decoded α) : (f <*> x).issues = f.issues ++ x.issues := by
  cases f <;> cases x <;> simp [Seq.seq, both, map, issues]

@[simp] theorem issues_both (x : Decoded α) (y : Decoded β) : (x.both y).issues = x.issues ++ y.issues := by
  cases x <;> cases y <;> simp [both, issues]

@[simp] theorem issues_under (step : Issue.Step) (x : Decoded α) :
    (x.under step).issues = x.issues.map (Issue.under step) := by
  cases x <;> rfl

theorem issues_check (f : α → Decoded β) (x : Decoded α) :
    (x.check f).issues = x.issues ∨ ∃ a, x = .good a ∧ (x.check f).issues = (f a).issues := by
  cases x with
  | good a => exact .inr ⟨a, rfl, rfl⟩
  | bad issues => exact .inl rfl

/-- At most one issue, and that with the value as a whole. -/
def Plain (read : Value → Decoded α) : Prop :=
  ∀ v, (read v).issues = [] ∨ ∃ complaint, (read v).issues = [⟨[], complaint⟩]

theorem plainText_plain : Plain plainText := by
  intro v
  unfold plainText
  split
  · exact .inl rfl
  · split
    · exact .inl rfl
    · exact .inr ⟨_, rfl⟩
  · exact .inr ⟨_, rfl⟩

theorem utf8Text_plain : Plain utf8Text := by
  intro v
  rcases issues_check (fun t => if Text.hasSurrogate t then fail .notUtf8 else .good t) (plainText v) with
    same | ⟨t, _, same⟩
  · rw [utf8Text, same]
    exact plainText_plain v
  · rw [utf8Text, same]
    split
    · exact .inr ⟨_, rfl⟩
    · exact .inl rfl

theorem byte_plain : Plain byte := by
  intro v
  unfold byte
  split
  · split
    · exact .inl rfl
    · exact .inr ⟨_, rfl⟩
  · exact .inr ⟨_, rfl⟩
  · exact .inr ⟨_, rfl⟩

theorem uint128_plain : Plain uint128 := by
  intro v
  unfold uint128
  split
  · exact .inl rfl
  · exact .inr ⟨_, rfl⟩

end Decoded

namespace Shape

def Model : Shape → Type
  | .message => Message
  | .allocation => Allocation
  | .minter => Minter
  | .marketing => Marketing
  | .logo => Logo
  | .image => Image

def decode : (s : Shape) → Value → Decoded s.Model
  | .message => Message.decode
  | .allocation => Allocation.decode
  | .minter => Minter.decode
  | .marketing => Marketing.decode
  | .logo => Logo.decode
  | .image => Image.decode

def declared : Shape → List Text
  | .message => ["name", "symbol", "decimals", "initial_balances", "mint", "marketing"]
  | .allocation => ["address", "amount"]
  | .minter => ["minter", "cap"]
  | .marketing => ["project", "description", "marketing", "logo"]
  | .logo => ["url", "embedded"]
  | .image => ["svg", "png"]

inductive Holds : Shape → Text → Shape → Prop
  | mint : Holds .message "mint" .minter
  | marketing : Holds .message "marketing" .marketing
  | logo : Holds .marketing "logo" .logo
  | embedded : Holds .logo "embedded" .image

/-- Of two places in an object the one that is declared first; in a list of objects, the one in the earlier object. -/
inductive Before : Shape → List Issue.Step → List Issue.Step → Prop
  | field {s : Shape} {a b : Text} {p q : List Issue.Step} (order : [a, b].Sublist s.declared) :
      Before s (.field a :: p) (.field b :: q)
  | inside {s s' : Shape} {name : Text} {p q : List Issue.Step} (holds : s.Holds name s') (before : Before s' p q) :
      Before s (.field name :: p) (.field name :: q)
  | item {i j : Nat} {p q : List Issue.Step} (order : i < j) :
      Before .message (.field "initial_balances" :: .index i :: p) (.field "initial_balances" :: .index j :: q)
  | insideItem {i : Nat} {p q : List Issue.Step} (before : Before .allocation p q) :
      Before .message (.field "initial_balances" :: .index i :: p) (.field "initial_balances" :: .index i :: q)

theorem declared_nodup (s : Shape) : s.declared.Nodup := by
  cases s <;> decide +kernel

theorem Before.ne {s : Shape} {p q : List Issue.Step} (before : Before s p q) : p ≠ q := by
  induction before with
  | @field s a b p q order =>
    intro same
    cases same
    exact List.pairwise_iff_forall_sublist.mp s.declared_nodup order rfl
  | inside _ _ ih => exact fun same => ih (List.cons.inj same).2
  | item order =>
    intro same
    cases same
    exact Nat.lt_irrefl _ order
  | insideItem _ ih => exact fun same => ih (List.cons.inj (List.cons.inj same).2).2

end Shape

structure Field where
  name : Text
  wrong : Option Value → List Issue

namespace Field

variable {α : Type} (name : Text) (read : Value → Decoded α)

def required : Field where
  name := name
  wrong
    | some v => (read v).issues
    | none => [⟨[], .missing⟩]

def optional : Field where
  name := name
  wrong held := (held.filter (· ≠ .null)).elim [] fun v => (read v).issues

def issues (f : Field) (es : Mapping) : List Issue := (f.wrong (es.field? f.name)).map (Issue.under (.field f.name))

theorem issues_required (es : Mapping) : (Decoded.required name read es).issues = (required name read).issues es := by
  rw [Decoded.required, issues_under, issues, required]
  cases es.field? name <;> rfl

theorem issues_optional (es : Mapping) : (Decoded.optional name read es).issues = (optional name read).issues es := by
  rw [issues, optional, Decoded.optional]
  split
  · rename_i absent
    rw [absent]
    rfl
  · rename_i null
    rw [null]
    rfl
  · rename_i v real bound
    have notNull : v ≠ .null := real
    simp [bound, Option.filter, notNull]

end Field

namespace Shape

def fields : Shape → List Field
  | .message => [.required "name" utf8Text, .required "symbol" utf8Text, .required "decimals" byte,
      .required "initial_balances" (list Allocation.decode), .optional "mint" Minter.decode,
      .optional "marketing" Marketing.decode]
  | .allocation => [.required "address" plainText, .required "amount" uint128]
  | .minter => [.required "minter" plainText, .optional "cap" uint128]
  | .marketing => [.optional "project" plainText, .optional "description" plainText,
      .optional "marketing" plainText, .optional "logo" Logo.decode]
  | .logo => [.optional "url" plainText, .optional "embedded" Image.decode]
  | .image => [.optional "svg" plainText, .optional "png" plainText]

theorem names_fields (s : Shape) : s.fields.map Field.name = s.declared := by
  cases s <;> rfl

theorem decode_of_no_entries (s : Shape) {v : Value} (other : v.entries? = none) :
    (s.decode v).issues = [⟨[], .notObject s⟩] := by
  cases s
  all_goals
    simp only [decode, Message.decode, Allocation.decode, Minter.decode, Marketing.decode, Logo.decode, Image.decode,
      object, other]
    rfl

section

variable {v : Value} {es : Mapping} (mapping : v.entries? = some es)

include mapping

theorem issues_message : (Message.decode v).issues = message.fields.flatMap fun f => f.issues es := by
  simp only [Message.decode, object, mapping, issues_seq, issues_map, Field.issues_required, Field.issues_optional,
    fields, List.flatMap_cons, List.flatMap_nil, List.append_nil, List.append_assoc]

theorem issues_allocation : (Allocation.decode v).issues = allocation.fields.flatMap fun f => f.issues es := by
  simp only [Allocation.decode, object, mapping, issues_seq, issues_map, Field.issues_required, fields,
    List.flatMap_cons, List.flatMap_nil, List.append_nil]

theorem issues_minter : (Minter.decode v).issues = minter.fields.flatMap fun f => f.issues es := by
  simp only [Minter.decode, object, mapping, issues_seq, issues_map, Field.issues_required, Field.issues_optional,
    fields, List.flatMap_cons, List.flatMap_nil, List.append_nil]

theorem issues_marketing : (Marketing.decode v).issues = marketing.fields.flatMap fun f => f.issues es := by
  simp only [Marketing.decode, object, mapping, issues_seq, issues_map, Field.issues_optional, fields,
    List.flatMap_cons, List.flatMap_nil, List.append_nil, List.append_assoc]

end

theorem issues_of_variants {α β γ : Type} {name name' : Text} {read : Value → Decoded α} {read' : Value → Decoded β}
    {choose : Option α × Option β → Decoded γ} {complaint : Issue.Complaint}
    (refuses : ∀ p, choose p = fail complaint ∨ (choose p).issues = []) (es : Mapping) :
    let chosen := ((Decoded.optional name read es).both (Decoded.optional name' read' es)).check choose
    chosen.issues = [⟨[], complaint⟩] ∨
      chosen.issues = [Field.optional name read, Field.optional name' read'].flatMap fun f => f.issues es := by
  intro chosen
  have clear := issues_both (Decoded.optional name read es) (Decoded.optional name' read' es)
  rw [Field.issues_optional, Field.issues_optional] at clear
  rw [List.flatMap_cons, List.flatMap_cons, List.flatMap_nil, List.append_nil, ← clear]
  rcases issues_check choose ((Decoded.optional name read es).both (Decoded.optional name' read' es)) with
    same | ⟨p, both, same⟩
  · exact .inr same
  · rcases refuses p with refused | nothing
    · exact .inl (by rw [same, refused]; rfl)
    · exact .inr (by rw [same, nothing, both]; rfl)

theorem image_refuses (p : Option Text × Option Text) :
    Image.ofVariants p = fail .imageVariants ∨ (Image.ofVariants p).issues = [] := by
  obtain ⟨_ | svg, _ | png⟩ := p
  · exact .inl rfl
  · exact .inr rfl
  · exact .inr rfl
  · exact .inl rfl

theorem logo_refuses (p : Option Text × Option Image) :
    Logo.ofVariants p = fail .logoVariants ∨ (Logo.ofVariants p).issues = [] := by
  obtain ⟨_ | url, _ | embedded⟩ := p
  · exact .inl rfl
  · exact .inr rfl
  · exact .inr rfl
  · exact .inl rfl

theorem issues_cases (s : Shape) (v : Value) :
    (∃ complaint, (s.decode v).issues = [⟨[], complaint⟩]) ∨
      ∃ es, v.entries? = some es ∧ (s.decode v).issues = s.fields.flatMap fun f => f.issues es := by
  cases mapping : v.entries? with
  | none => exact .inl ⟨_, s.decode_of_no_entries mapping⟩
  | some es =>
    cases s with
    | message => exact .inr ⟨es, rfl, issues_message mapping⟩
    | allocation => exact .inr ⟨es, rfl, issues_allocation mapping⟩
    | minter => exact .inr ⟨es, rfl, issues_minter mapping⟩
    | marketing => exact .inr ⟨es, rfl, issues_marketing mapping⟩
    | logo =>
      rw [decode, Logo.decode, object, mapping]
      exact (issues_of_variants logo_refuses es).imp (fun lone => ⟨_, lone⟩) fun same => ⟨es, rfl, same⟩
    | image =>
      rw [decode, Image.decode, object, mapping]
      exact (issues_of_variants image_refuses es).imp (fun lone => ⟨_, lone⟩) fun same => ⟨es, rfl, same⟩

end Shape

section

variable {α : Type} {name : Text} {read : Value → Decoded α} {s s' : Shape}

def Shape.BeforeIn (s : Shape) (name : Text) (p q : List Issue.Step) : Prop :=
  s.Before (.field name :: p) (.field name :: q)

def Field.Ordered (f : Field) (s : Shape) : Prop :=
  ∀ held, ((f.wrong held).map Issue.place).Pairwise (s.BeforeIn f.name)

theorem Field.required_ordered (each : ∀ v, ((read v).issues.map Issue.place).Pairwise (s.BeforeIn name)) :
    (Field.required name read).Ordered s := by
  intro held
  cases held with
  | none => exact List.pairwise_singleton _ _
  | some v => exact each v

theorem Field.optional_ordered (each : ∀ v, ((read v).issues.map Issue.place).Pairwise (s.BeforeIn name)) :
    (Field.optional name read).Ordered s := by
  intro held
  rw [optional]
  dsimp only
  cases held.filter (· ≠ .null) with
  | none => exact List.Pairwise.nil
  | some v => exact each v

theorem Decoded.Plain.ordered (plain : Plain read) (v : Value) :
    ((read v).issues.map Issue.place).Pairwise (s.BeforeIn name) := by
  rcases plain v with none | ⟨complaint, one⟩
  · rw [none]
    exact List.Pairwise.nil
  · rw [one]
    exact List.pairwise_singleton _ _

theorem Shape.Holds.ordered (holds : s.Holds name s')
    (each : ∀ v, ((s'.decode v).issues.map Issue.place).Pairwise s'.Before) (v : Value) :
    ((s'.decode v).issues.map Issue.place).Pairwise (s.BeforeIn name) :=
  (each v).imp fun before => .inside holds before

theorem Field.place_of_issues {f : Field} {es : Mapping} {p : List Issue.Step}
    (inside : p ∈ (f.issues es).map Issue.place) : ∃ q, p = .field f.name :: q := by
  obtain ⟨i, isIssue, rfl⟩ := List.mem_map.mp inside
  obtain ⟨i', _, rfl⟩ := List.mem_map.mp isIssue
  exact ⟨i'.place, rfl⟩

theorem Shape.ordered_of_fields (each : ∀ f ∈ s.fields, f.Ordered s) (v : Value) :
    ((s.decode v).issues.map Issue.place).Pairwise s.Before := by
  rcases s.issues_cases v with ⟨complaint, lone⟩ | ⟨es, _, same⟩
  · rw [lone]
    exact List.pairwise_singleton _ _
  · rw [same, List.map_flatMap, List.pairwise_flatMap]
    constructor
    · intro f inside
      have own := each f inside (es.field? f.name)
      rw [List.pairwise_map] at own
      rw [Field.issues, List.map_map, List.pairwise_map]
      exact own
    · refine List.pairwise_iff_forall_sublist.mpr fun {f g} pair p inF q inG => ?_
      obtain ⟨p', rfl⟩ := Field.place_of_issues inF
      obtain ⟨q', rfl⟩ := Field.place_of_issues inG
      have names := pair.map Field.name
      rw [names_fields] at names
      exact .field names

theorem items_ordered (each : ∀ v, ((Allocation.decode v).issues.map Issue.place).Pairwise Shape.allocation.Before)
    (i : Nat) (vs : List Value) :
    ((items Allocation.decode i vs).issues.map Issue.place).Pairwise (Shape.message.BeforeIn "initial_balances") ∧
      ∀ p ∈ (items Allocation.decode i vs).issues.map Issue.place, ∃ j q, i ≤ j ∧ p = .index j :: q := by
  induction vs generalizing i with
  | nil => exact ⟨List.Pairwise.nil, List.forall_mem_nil _⟩
  | cons v rest ih =>
    obtain ⟨later, numbers⟩ := ih (i + 1)
    have own : ∀ p ∈ ((Allocation.decode v).issues.map (Issue.under (.index i))).map Issue.place,
        ∃ q, p = .index i :: q := by
      intro p inside
      obtain ⟨i', isIssue, rfl⟩ := List.mem_map.mp inside
      obtain ⟨i'', _, rfl⟩ := List.mem_map.mp isIssue
      exact ⟨i''.place, rfl⟩
    rw [items, issues_seq, issues_map, issues_under, List.map_append]
    constructor
    · refine List.pairwise_append.mpr ⟨?_, later, ?_⟩
      · have first := each v
        rw [List.pairwise_map] at first
        rw [List.map_map, List.pairwise_map]
        exact first.imp fun before => .insideItem before
      · intro p first q second
        obtain ⟨p', rfl⟩ := own p first
        obtain ⟨j, q', least, rfl⟩ := numbers q second
        exact .item least
    · intro p inside
      rcases List.mem_append.mp inside with first | second
      · obtain ⟨q, rfl⟩ := own p first
        exact ⟨i, q, Nat.le_refl i, rfl⟩
      · obtain ⟨j, q, least, rfl⟩ := numbers p second
        exact ⟨j, q, Nat.le_of_succ_le least, rfl⟩

theorem list_ordered (each : ∀ v, ((Allocation.decode v).issues.map Issue.place).Pairwise Shape.allocation.Before)
    (v : Value) :
    ((list Allocation.decode v).issues.map Issue.place).Pairwise (Shape.message.BeforeIn "initial_balances") := by
  unfold list
  split
  · exact (items_ordered each 0 _).1
  · exact List.pairwise_singleton _ _

/-- From the innermost objects outwards, since the order in an object builds on the order in those that it holds. -/
theorem Shape.issues_ordered (s : Shape) (v : Value) : ((s.decode v).issues.map Issue.place).Pairwise s.Before := by
  have allocations := ordered_of_fields (s := .allocation) <| by
    simp only [fields, List.forall_mem_cons]
    exact ⟨Field.required_ordered plainText_plain.ordered, Field.required_ordered uint128_plain.ordered,
      List.forall_mem_nil _⟩
  have minters := ordered_of_fields (s := .minter) <| by
    simp only [fields, List.forall_mem_cons]
    exact ⟨Field.required_ordered plainText_plain.ordered, Field.optional_ordered uint128_plain.ordered,
      List.forall_mem_nil _⟩
  have images := ordered_of_fields (s := .image) <| by
    simp only [fields, List.forall_mem_cons]
    exact ⟨Field.optional_ordered plainText_plain.ordered, Field.optional_ordered plainText_plain.ordered,
      List.forall_mem_nil _⟩
  have logos := ordered_of_fields (s := .logo) <| by
    simp only [fields, List.forall_mem_cons]
    exact ⟨Field.optional_ordered plainText_plain.ordered, Field.optional_ordered (Holds.embedded.ordered images),
      List.forall_mem_nil _⟩
  have marketings := ordered_of_fields (s := .marketing) <| by
    simp only [fields, List.forall_mem_cons]
    exact ⟨Field.optional_ordered plainText_plain.ordered, Field.optional_ordered plainText_plain.ordered,
      Field.optional_ordered plainText_plain.ordered, Field.optional_ordered (Holds.logo.ordered logos),
      List.forall_mem_nil _⟩
  have messages := ordered_of_fields (s := .message) <| by
    simp only [fields, List.forall_mem_cons]
    exact ⟨Field.required_ordered utf8Text_plain.ordered, Field.required_ordered utf8Text_plain.ordered,
      Field.required_ordered byte_plain.ordered, Field.required_ordered (list_ordered allocations),
      Field.optional_ordered (Holds.mint.ordered minters), Field.optional_ordered (Holds.marketing.ordered marketings),
      List.forall_mem_nil _⟩
  cases s with
  | message => exact messages v
  | allocation => exact allocations v
  | minter => exact minters v
  | marketing => exact marketings v
  | logo => exact logos v
  | image => exact images v

theorem Shape.places_distinct (s : Shape) (v : Value) : ((s.decode v).issues.map Issue.place).Nodup :=
  (s.issues_ordered v).imp Before.ne

end

def Issue.concerns (i : Issue) (name : Text) : Bool := i.place.head? = some (.field name)

theorem Field.filter_issues (f : Field) (es : Mapping) (name : Text) :
    (f.issues es).filter (fun i => !i.concerns name) = if f.name = name then [] else f.issues es := by
  have concerned : ∀ i ∈ f.issues es, i.concerns name = decide (f.name = name) := by
    intro i inside
    obtain ⟨i', _, rfl⟩ := List.mem_map.mp inside
    simp [Issue.concerns, Issue.under]
  split
  · rename_i same
    exact List.filter_eq_nil_iff.mpr fun i inside => by simp [concerned i inside, same]
  · rename_i other
    exact List.filter_eq_self.mpr fun i inside => by simp [concerned i inside, other]

theorem Message.other_issues (es : Mapping) (name : Text) (v : Value) :
    (Message.decode (.map (es.put (.text name) v))).issues.filter (fun i => !i.concerns name) =
      (Message.decode (.map es)).issues.filter fun i => !i.concerns name := by
  rw [Shape.issues_message rfl, Shape.issues_message rfl, List.filter_flatMap, List.filter_flatMap]
  apply List.flatMap_congr
  intro f _
  rw [Field.filter_issues, Field.filter_issues]
  split
  · rfl
  · rename_i other
    rw [Field.issues, Field.issues, Mapping.field?_put, if_neg fun same => other same.symm]

end TokenIntake
