namespace TokenIntake

variable {ε ε' α β : Type}

@[simp] theorem mapError_ok (f : ε → ε') (a : α) : (Except.ok a).mapError f = .ok a := rfl

@[simp] theorem mapError_error (f : ε → ε') (e : ε) : (Except.error e : Except ε α).mapError f = .error (f e) := rfl

theorem bind_eq_ok {x : Except ε α} {f : α → Except ε β} {b : β} (done : x >>= f = .ok b) :
    ∃ a, x = .ok a ∧ f a = .ok b := by
  cases x with
  | error e => cases done
  | ok a => exact ⟨a, rfl, done⟩

theorem map_eq_ok {x : Except ε α} {f : α → β} {b : β} (done : x.map f = .ok b) :
    ∃ a, x = .ok a ∧ b = f a := by
  cases x with
  | error e => cases done
  | ok a =>
    cases done
    exact ⟨a, rfl, rfl⟩

theorem mapError_eq_ok {x : Except ε α} {f : ε → ε'} {a : α} (done : x.mapError f = .ok a) : x = .ok a := by
  cases x with
  | error e => cases done
  | ok a' =>
    cases done
    rfl

theorem bind_eq_error {x : Except ε α} {f : α → Except ε β} {e : ε} (failed : x >>= f = .error e) :
    x = .error e ∨ ∃ a, x = .ok a ∧ f a = .error e := by
  cases x with
  | error e' =>
    cases failed
    exact .inl rfl
  | ok a => exact .inr ⟨a, rfl, failed⟩

theorem map_eq_error {x : Except ε α} {f : α → β} {e : ε} (failed : x.map f = .error e) : x = .error e := by
  cases x with
  | error e' =>
    cases failed
    rfl
  | ok a => cases failed

theorem mapError_eq_error {x : Except ε α} {f : ε → ε'} {e' : ε'} (failed : x.mapError f = .error e') :
    ∃ e, x = .error e ∧ e' = f e := by
  cases x with
  | ok a => cases failed
  | error e =>
    cases failed
    exact ⟨e, rfl, rfl⟩

theorem eq_ok_of_toOption {x : Except ε α} {a : α} (some : x.toOption = some a) : x = .ok a := by
  cases x with
  | error e => cases some
  | ok a' =>
    cases some
    rfl

theorem mapM_ok {f : α → Except ε β} {property : β → Prop} {xs : List α}
    (each : ∀ x ∈ xs, ∃ b, f x = .ok b ∧ property b) : ∃ bs, xs.mapM f = .ok bs ∧ ∀ b ∈ bs, property b := by
  induction xs with
  | nil => exact ⟨[], rfl, by simp⟩
  | cons x xs ih =>
    obtain ⟨b, now, has⟩ := each x List.mem_cons_self
    obtain ⟨bs, later, others⟩ := ih fun y inside => each y (List.mem_cons_of_mem x inside)
    refine ⟨b :: bs, by rw [List.mapM_cons, now, later]; rfl, ?_⟩
    exact List.forall_mem_cons.mpr ⟨has, others⟩

theorem mapM_eq_map {f : α → Except ε β} {g : α → β} {xs : List α} (each : ∀ x ∈ xs, f x = .ok (g x)) :
    xs.mapM f = .ok (xs.map g) := by
  induction xs with
  | nil => rfl
  | cons x xs ih =>
    rw [List.mapM_cons, each x List.mem_cons_self, ih fun y inside => each y (List.mem_cons_of_mem x inside)]
    rfl

theorem mapM_error {f : α → Except ε β} {e : ε} {xs : List α} (each : ∀ x ∈ xs, (∃ b, f x = .ok b) ∨ f x = .error e)
    (some : ∃ x ∈ xs, f x = .error e) : xs.mapM f = .error e := by
  induction xs with
  | nil =>
    obtain ⟨x, inside, _⟩ := some
    cases inside
  | cons x xs ih =>
    rw [List.mapM_cons]
    rcases each x List.mem_cons_self with ⟨b, now⟩ | failed
    · obtain ⟨y, inside, failed⟩ := some
      rcases List.mem_cons.mp inside with rfl | later
      · rw [now] at failed
        cases failed
      · rw [now, ih (fun z isLater => each z (List.mem_cons_of_mem x isLater)) ⟨y, later, failed⟩]
        rfl
    · rw [failed]
      rfl

theorem foldlM_ok {f : β → α → Except ε β} {xs : List α} (each : ∀ x ∈ xs, ∀ b, ∃ b', f b x = .ok b') (b : β) :
    ∃ b', xs.foldlM f b = .ok b' := by
  induction xs generalizing b with
  | nil => exact ⟨b, rfl⟩
  | cons x xs ih =>
    obtain ⟨b', now⟩ := each x List.mem_cons_self b
    rw [List.foldlM_cons, now]
    exact ih (fun y inside => each y (List.mem_cons_of_mem x inside)) b'

/-- Fails exactly where there is a reason, and for one of those that there are. -/
structure FailsFor (x : Except ε α) (reason : ε → Prop) : Prop where
  of_error : ∀ e, x = .error e → reason e
  fails : ∀ e, reason e → ∃ e', x = .error e'

namespace FailsFor

variable {x : Except ε α} {reason reason' : ε → Prop}

theorem of_ok {a : α} (given : x = .ok a) (never : ∀ e, ¬reason e) : FailsFor x reason := by
  refine ⟨fun e failed => ?_, fun e fails => absurd fails (never e)⟩
  rw [given] at failed
  cases failed

theorem gives (outcome : FailsFor x reason) (never : ∀ e, ¬reason e) : ∃ a, x = .ok a := by
  cases given : x with
  | ok a => exact ⟨a, rfl⟩
  | error e => exact absurd (outcome.of_error e given) (never e)

theorem congr (outcome : FailsFor x reason) (same : ∀ e, reason e ↔ reason' e) : FailsFor x reason' :=
  ⟨fun e failed => (same e).mp (outcome.of_error e failed), fun e fails => outcome.fails e ((same e).mpr fails)⟩

theorem map (outcome : FailsFor x reason) (f : α → β) : FailsFor (x.map f) reason := by
  refine ⟨fun e failed => outcome.of_error e (map_eq_error failed), fun e fails => ?_⟩
  obtain ⟨e', failed⟩ := outcome.fails e fails
  exact ⟨e', by rw [failed]; rfl⟩

theorem mapError (outcome : FailsFor x reason) (f : ε → ε') :
    FailsFor (x.mapError f) fun e' => ∃ e, reason e ∧ e' = f e := by
  constructor
  · intro e' failed
    obtain ⟨e, inner, same⟩ := mapError_eq_error failed
    exact ⟨e, outcome.of_error e inner, same⟩
  · rintro e' ⟨e, fails, rfl⟩
    obtain ⟨e', failed⟩ := outcome.fails e fails
    exact ⟨f e', by rw [failed]; rfl⟩

theorem bind (outcome : FailsFor x reason) {f : α → Except ε β} (next : ∀ a, FailsFor (f a) reason') :
    FailsFor (x >>= f) fun e => reason e ∨ reason' e := by
  constructor
  · intro e failed
    rcases bind_eq_error failed with now | ⟨a, _, later⟩
    · exact .inl (outcome.of_error e now)
    · exact .inr ((next a).of_error e later)
  · intro e fails
    cases given : x with
    | error e' => exact ⟨e', rfl⟩
    | ok a =>
      rcases fails with fails | fails
      · obtain ⟨e', failed⟩ := outcome.fails e fails
        rw [given] at failed
        cases failed
      · exact (next a).fails e fails

theorem mapM {f : α → Except ε β} {reason : α → ε → Prop} {xs : List α}
    (each : ∀ x ∈ xs, FailsFor (f x) (reason x)) : FailsFor (xs.mapM f) fun e => ∃ x ∈ xs, reason x e := by
  induction xs with
  | nil => exact .of_ok rfl fun e ⟨x, inside, _⟩ => nomatch inside
  | cons x xs ih =>
    obtain ⟨first, others⟩ := List.forall_mem_cons.mp each
    have whole (b : β) (bs : List β) : FailsFor (.ok (b :: bs) : Except ε (List β)) fun _ => False :=
      .of_ok rfl fun _ => id
    rw [List.mapM_cons]
    refine (first.bind fun b => (ih others).bind (whole b)).congr fun e => ?_
    simp only [List.mem_cons, exists_eq_or_imp, or_false]

theorem forM {f : α → Except ε PUnit} {reason : α → ε → Prop} {xs : List α}
    (each : ∀ x ∈ xs, FailsFor (f x) (reason x)) : FailsFor (xs.forM f) fun e => ∃ x ∈ xs, reason x e := by
  induction xs with
  | nil => exact .of_ok rfl fun e ⟨x, inside, _⟩ => nomatch inside
  | cons x xs ih =>
    obtain ⟨first, others⟩ := List.forall_mem_cons.mp each
    refine (first.bind fun _ => ih others).congr fun e => ?_
    simp only [List.mem_cons, exists_eq_or_imp]

end FailsFor

end TokenIntake
