import TokenIntake.Proofs.Message.Issues

namespace TokenIntake

open Decoded

/-- One object is another one redrafted: its members stand in another order, a member that is no field was put in (or
left out, the other way round), or an object in it was redrafted. -/
inductive Shape.Redraft : Shape → Value → Value → Prop
  | reorder {s : Shape} {v w : Value} {es fs : Mapping} (old : v.entries? = some es) (new : w.entries? = some fs)
      (distinct : es.Distinct) (perm : es.Perm fs) : Redraft s v w
  | add {s : Shape} {v w x : Value} {before after : Mapping} {k : Scalar} (old : v.entries? = some (before ++ after))
      (new : w.entries? = some (before ++ (k, x) :: after)) (undeclared : ∀ name ∈ s.declared, k ≠ .text name) :
      Redraft s v w
  | inside {s s' : Shape} {v w x y : Value} {before after : Mapping} {name : Text}
      (old : v.entries? = some (before ++ (.text name, x) :: after))
      (new : w.entries? = some (before ++ (.text name, y) :: after)) (holds : s.Holds name s')
      (redraft : Redraft s' x y) : Redraft s v w
  | insideItem {v w xs ys x y : Value} {before after : Mapping} {first last : List Value}
      (old : v.entries? = some (before ++ (.text "initial_balances", xs) :: after))
      (new : w.entries? = some (before ++ (.text "initial_balances", ys) :: after))
      (oldItems : xs.items? = some (first ++ x :: last)) (newItems : ys.items? = some (first ++ y :: last))
      (redraft : Redraft .allocation x y) : Redraft .message v w
  | symm {s : Shape} {v w : Value} (redraft : Redraft s v w) : Redraft s w v
  | trans {s : Shape} {u v w : Value} (first : Redraft s u v) (second : Redraft s v w) : Redraft s u w

namespace Mapping

variable {es fs before after : Mapping}

theorem field?_perm (distinct : es.Distinct) (perm : es.Perm fs) (name : Text) : es.field? name = fs.field? name := by
  have distinct' : fs.Distinct := (perm.map fun e : Scalar × Value => e.1.canon).nodup_iff.mp distinct
  cases bound : es.field? name with
  | none =>
    symm
    apply Assoc.get?_eq_none_iff.mpr
    intro e inside
    exact Assoc.get?_eq_none_iff.mp bound e (perm.mem_iff.mpr inside)
  | some v =>
    obtain ⟨e, inside, same, rfl⟩ := Assoc.exists_of_get?_eq_some bound
    have found := Assoc.Distinct.get?_of_mem distinct' (perm.mem_iff.mp inside)
    rw [Assoc.get?_congr same] at found
    exact found.symm

theorem field?_add {k : Scalar} {x : Value} {name : Text} (other : k ≠ .text name) :
    field? (before ++ (k, x) :: after) name = field? (before ++ after) name := by
  have different : k.canon ≠ (Scalar.text name).canon := by
    cases k with
    | float f =>
      simp only [Scalar.canon]
      split <;> simp
    | text t => exact other
    | _ => simp [Scalar.canon]
  have passed : get? ((k, x) :: after) (.text name) = get? after (.text name) := if_neg different
  rw [field?, field?, get?_append, get?_append, passed]

/-- Two mappings that differ in what they bind one name to, if in anything. -/
structure Replaced (es fs : Mapping) (name : Text) (x y : Value) : Prop where
  others : ∀ {name'}, name' ≠ name → es.field? name' = fs.field? name'
  here : es.field? name = fs.field? name ∨ (es.field? name = some x ∧ fs.field? name = some y)

theorem replaced_of_append {name : Text} {x y : Value} :
    Replaced (before ++ (.text name, x) :: after) (before ++ (.text name, y) :: after) name x y where
  others other := by
    have different : Scalar.text name ≠ .text _ := fun same => other (Scalar.text.inj same).symm
    rw [field?_add different, field?_add different]
  here := by
    have bound : ∀ z, get? ((.text name, z) :: after) (.text name) = some z := fun z => if_pos rfl
    simp only [field?, get?_append, bound]
    cases get? before (.text name) with
    | some z => exact .inl rfl
    | none => exact .inr ⟨rfl, rfl⟩

namespace Replaced

variable {α : Type} {read : Value → Decoded α} {name name' : Text} {x y : Value}

theorem required_other (replaced : Replaced es fs name x y) (other : name' ≠ name) :
    required name' read es = required name' read fs := by
  rw [required, required, replaced.others other]

theorem optional_other (replaced : Replaced es fs name x y) (other : name' ≠ name) :
    Decoded.optional name' read es = Decoded.optional name' read fs := by
  rw [Decoded.optional, Decoded.optional, replaced.others other]

variable (read) in
theorem required_here (replaced : Replaced es fs name x y) (same : read x = read y) :
    required name read es = required name read fs := by
  rcases replaced.here with equal | ⟨old, new⟩
  · rw [required, required, equal]
  · rw [required, required, old, new]
    dsimp only
    rw [same]

variable (read) in
theorem optional_here (replaced : Replaced es fs name x y) (real : x ≠ .null) (real' : y ≠ .null)
    (same : read x = read y) : Decoded.optional name read es = Decoded.optional name read fs := by
  rcases replaced.here with equal | ⟨old, new⟩
  · rw [Decoded.optional, Decoded.optional, equal]
  · rw [Decoded.optional, Decoded.optional, old, new]
    simp [same]

end Replaced

end Mapping

theorem Decoded.items_replace {α : Type} {read : Value → Decoded α} {x y : Value} (same : read x = read y)
    (first last : List Value) (i : Nat) : items read i (first ++ x :: last) = items read i (first ++ y :: last) := by
  induction first generalizing i with
  | nil => rw [List.nil_append, List.nil_append, items, items, same]
  | cons v rest ih => rw [List.cons_append, List.cons_append, items, items, ih]

theorem Decoded.list_replace {α : Type} {read : Value → Decoded α} {xs ys x y : Value} {first last : List Value}
    (old : xs.items? = some (first ++ x :: last)) (new : ys.items? = some (first ++ y :: last))
    (same : read x = read y) : list read xs = list read ys := by
  rw [list, list, old, new]
  exact items_replace same first last 0

theorem Value.ne_null_of_entries {v : Value} {es : Mapping} (mapping : v.entries? = some es) : v ≠ .null := by
  rintro rfl
  cases mapping

namespace Shape

variable {s s' : Shape} {v w x y : Value} {es fs : Mapping} {name : Text}

theorem decode_congr (old : v.entries? = some es) (new : w.entries? = some fs)
    (same : ∀ name ∈ s.declared, es.field? name = fs.field? name) : s.decode v = s.decode w := by
  cases s with
  | message =>
    show Message.decode v = Message.decode w
    simp (disch := decide) only [Message.decode, object, old, new, required, Decoded.optional, same]
  | allocation =>
    show Allocation.decode v = Allocation.decode w
    simp (disch := decide) only [Allocation.decode, object, old, new, required, same]
  | minter =>
    show Minter.decode v = Minter.decode w
    simp (disch := decide) only [Minter.decode, object, old, new, required, Decoded.optional, same]
  | marketing =>
    show Marketing.decode v = Marketing.decode w
    simp (disch := decide) only [Marketing.decode, object, old, new, Decoded.optional, same]
  | logo =>
    show Logo.decode v = Logo.decode w
    simp (disch := decide) only [Logo.decode, object, old, new, Decoded.optional, same]
  | image =>
    show Image.decode v = Image.decode w
    simp (disch := decide) only [Image.decode, object, old, new, Decoded.optional, same]

theorem decode_inside (old : v.entries? = some es) (new : w.entries? = some fs) (holds : s.Holds name s')
    (replaced : Mapping.Replaced es fs name x y) (real : x ≠ .null) (real' : y ≠ .null)
    (same : s'.decode x = s'.decode y) : s.decode v = s.decode w := by
  cases holds with
  | mint =>
    have here := replaced.optional_here Minter.decode real real' same
    show Message.decode v = Message.decode w
    simp (disch := decide) only [Message.decode, object, old, new, replaced.required_other, replaced.optional_other,
      here]
  | marketing =>
    have here := replaced.optional_here Marketing.decode real real' same
    show Message.decode v = Message.decode w
    simp (disch := decide) only [Message.decode, object, old, new, replaced.required_other, replaced.optional_other,
      here]
  | logo =>
    have here := replaced.optional_here Logo.decode real real' same
    show Marketing.decode v = Marketing.decode w
    simp (disch := decide) only [Marketing.decode, object, old, new, replaced.optional_other, here]
  | embedded =>
    have here := replaced.optional_here Image.decode real real' same
    show Logo.decode v = Logo.decode w
    simp (disch := decide) only [Logo.decode, object, old, new, replaced.optional_other, here]

theorem decode_items {xs ys : Value} (old : v.entries? = some es) (new : w.entries? = some fs)
    (replaced : Mapping.Replaced es fs "initial_balances" xs ys)
    (same : list Allocation.decode xs = list Allocation.decode ys) : message.decode v = message.decode w := by
  have here := replaced.required_here (list Allocation.decode) same
  show Message.decode v = Message.decode w
  simp (disch := decide) only [Message.decode, object, old, new, replaced.required_other, replaced.optional_other,
    here]

theorem Redraft.has_entries (redraft : s.Redraft v w) : (∃ es, v.entries? = some es) ∧ ∃ es, w.entries? = some es := by
  induction redraft with
  | reorder old new => exact ⟨⟨_, old⟩, _, new⟩
  | add old new => exact ⟨⟨_, old⟩, _, new⟩
  | inside old new => exact ⟨⟨_, old⟩, _, new⟩
  | insideItem old new => exact ⟨⟨_, old⟩, _, new⟩
  | symm _ ih => exact ih.symm
  | trans _ _ ih ih' => exact ⟨ih.1, ih'.2⟩

theorem Redraft.decode_eq (redraft : s.Redraft v w) : s.decode v = s.decode w := by
  induction redraft with
  | reorder old new distinct perm => exact decode_congr old new fun name _ => Mapping.field?_perm distinct perm name
  | add old new undeclared =>
    exact decode_congr old new fun name field => (Mapping.field?_add (undeclared name field)).symm
  | inside old new holds redraft ih =>
    obtain ⟨⟨_, real⟩, _, real'⟩ := redraft.has_entries
    exact decode_inside old new holds Mapping.replaced_of_append (Value.ne_null_of_entries real)
      (Value.ne_null_of_entries real') ih
  | insideItem old new oldItems newItems _ ih =>
    exact decode_items old new Mapping.replaced_of_append (list_replace oldItems newItems ih)
  | symm _ ih => exact ih.symm
  | trans _ _ ih ih' => exact ih.trans ih'

end Shape

/-- Decoding sees the declared fields of the objects and nothing else. Its issues are in order, one at a place, and
those of one field are none of the other fields' business. -/
theorem decoding_by_declared_fields {v : Value} {es : Mapping} (object : v.entries? = some es) :
    (∀ w, Shape.message.Redraft v w → Message.decode v = Message.decode w) ∧
      (∀ issues, Message.decode v = .bad issues →
        (issues.map Issue.place).Nodup ∧ (issues.map Issue.place).Pairwise Shape.message.Before) ∧
      ∀ (field : Text) (x : Value),
        (Message.decode (.map (es.put (.text field) x))).issues.filter (fun i => !i.concerns field) =
          (Message.decode v).issues.filter fun i => !i.concerns field := by
  refine ⟨fun w redraft => redraft.decode_eq, fun issues refused => ?_, fun field x => ?_⟩
  · have distinct := Shape.message.places_distinct v
    have ordered := Shape.message.issues_ordered v
    rw [Shape.decode, refused] at distinct ordered
    exact ⟨distinct, ordered⟩
  · rw [Message.decode_of_entries object]
    exact Message.other_issues es field x

/-- An object with something wrong in nearly every field. What its first allocation has beside the fields, its minter
and its embedded image are left open. -/
def troubled (memos minter image : Mapping) : Mapping :=
  [(.text "name", .int 7), (.text "decimals", .int 256),
    (.text "initial_balances", .list [
      .map ((.text "address", .text "first") :: (.text "amount", .text "+1") :: memos),
      .map [(.text "amount", .bool true)]]),
    (.text "mint", .map minter),
    (.text "marketing", .map [(.text "logo", .map [(.text "url", .text "a"), (.text "embedded", .map image)])])]

def badMinter : Mapping := [(.text "minter", .null), (.text "cap", .int (-1))]

def annotated : Mapping := (.text "note", .int 1) :: troubled [(.text "memo", .null)] badMinter []

def redrafted : Mapping := troubled [] badMinter.reverse [(.int 1, .list [])]

theorem annotated_redraft : Shape.message.Redraft (.map annotated) (.map redrafted) := by
  have noNote : Shape.message.Redraft (.map annotated) (.map (troubled [(.text "memo", .null)] badMinter [])) :=
    .symm (@Shape.Redraft.add _ _ _ _ [] _ _ rfl rfl (by decide +kernel))
  have noMemo : Shape.message.Redraft (.map (troubled [(.text "memo", .null)] badMinter []))
      (.map (troubled [] badMinter [])) :=
    @Shape.Redraft.insideItem _ _ _ _ _ _ ((troubled [] [] []).take 2) _ [] _ rfl rfl rfl rfl <|
      .symm (@Shape.Redraft.add _ _ _ _ [_, _] [] _ rfl rfl (by decide +kernel))
  have distinct : (badMinter.map fun e => e.1.canon).Nodup := by decide +kernel
  have reversed : Shape.message.Redraft (.map (troubled [] badMinter []))
      (.map (troubled [] badMinter.reverse [])) :=
    @Shape.Redraft.inside _ _ _ _ _ _ ((troubled [] [] []).take 3) _ _ rfl rfl .mint <|
      .reorder rfl rfl distinct (List.reverse_perm badMinter).symm
  have odder : Shape.message.Redraft (.map (troubled [] badMinter.reverse [])) (.map redrafted) :=
    @Shape.Redraft.inside _ _ _ _ _ _ ((troubled [] badMinter.reverse []).take 4) [] _ rfl rfl .marketing <|
      @Shape.Redraft.inside _ _ _ _ _ _ [] [] _ rfl rfl .logo <|
      @Shape.Redraft.inside _ _ _ _ _ _ [_] [] _ rfl rfl .embedded <|
      @Shape.Redraft.add _ _ _ _ [] [] _ rfl rfl (by decide +kernel)
  exact ((noNote.trans noMemo).trans reversed).trans odder

def trouble : List Issue :=
  [⟨[.field "name"], .notText⟩, ⟨[.field "symbol"], .missing⟩, ⟨[.field "decimals"], .above255⟩,
    ⟨[.field "initial_balances", .index 0, .field "amount"], .amount .notDigits⟩,
    ⟨[.field "initial_balances", .index 1, .field "address"], .missing⟩,
    ⟨[.field "initial_balances", .index 1, .field "amount"], .amount .wrongKind⟩,
    ⟨[.field "mint", .field "minter"], .notText⟩, ⟨[.field "mint", .field "cap"], .amount .outOfRange⟩,
    ⟨[.field "marketing", .field "logo", .field "embedded"], .imageVariants⟩]

theorem decoding_by_declared_fields_annotated :
    (Value.map annotated).entries? = some annotated ∧ Message.decode (.map annotated) = .bad trouble ∧
      Message.decode (.map redrafted) = .bad trouble ∧
      ((trouble.map Issue.place).Nodup ∧ (trouble.map Issue.place).Pairwise Shape.message.Before) ∧
      (Message.decode (.map (annotated.put (.text "mint") .null))).issues.filter (fun i => !i.concerns "mint") =
        trouble.take 6 ++ trouble.drop 8 := by
  have object : (Value.map annotated).entries? = some annotated := rfl
  have refused : Message.decode (.map annotated) = .bad trouble := by decide +kernel
  obtain ⟨same, ordered, others⟩ := decoding_by_declared_fields object
  have rest : (Decoded.issues (Message.decode (.map annotated))).filter (fun i => !i.concerns "mint") =
      trouble.take 6 ++ trouble.drop 8 := by
    decide +kernel
  exact ⟨object, refused, (same _ annotated_redraft).symm.trans refused, ordered _ refused,
    (others "mint" .null).trans rest⟩

end TokenIntake
