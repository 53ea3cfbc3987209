import TokenIntake.Text.Basic

namespace TokenIntake

namespace Log

inductive Level where
  | debug
  | info
  | warning
  | error
  | critical
deriving DecidableEq

def Level.rank : Level → Nat
  | .debug => 10
  | .info => 20
  | .warning => 30
  | .error => 40
  | .critical => 50

def Level.label : Level → Text
  | .debug => "DEBUG"
  | .info => "INFO"
  | .warning => "WARNING"
  | .error => "ERROR"
  | .critical => "CRITICAL"

structure Record where
  logger : Text
  level : Level
  message : Text
deriving DecidableEq

/-- A threshold of `none` means that none is set. -/
inductive Event where
  | record (r : Record)
  | threshold (least : Option Level)
deriving DecidableEq

def effective (threshold : Option Level) : Level := threshold.getD .warning

def threshold? (name : Text) : Option (Option Level) :=
  let named : List (Text × Option Level) :=
    [("CRITICAL", some .critical), ("FATAL", some .critical), ("ERROR", some .error), ("WARN", some .warning),
      ("WARNING", some .warning), ("INFO", some .info), ("DEBUG", some .debug), ("NOTSET", none)]
  (named.find? fun (n, _) => n = name).map Prod.snd

/-- The records shown, and the threshold at the end. -/
def replay (threshold : Option Level) : List Event → List Record × Option Level
  | [] => ([], threshold)
  | .threshold least :: rest => replay least rest
  | .record r :: rest =>
    let (shown, last) := replay threshold rest
    (if (effective threshold).rank ≤ r.level.rank then r :: shown else shown, last)

theorem replay_append (threshold : Option Level) (first second : List Event) :
    replay threshold (first ++ second) =
      ((replay threshold first).1 ++ (replay (replay threshold first).2 second).1,
        (replay (replay threshold first).2 second).2) := by
  induction first generalizing threshold with
  | nil => rfl
  | cons e rest ih =>
    cases e with
    | threshold least => exact ih least
    | record r =>
      simp only [List.cons_append, replay, ih]
      split <;> rfl

end Log

structure Traced (α : Type) where
  value : α
  events : List Log.Event

namespace Traced

variable {α β : Type}

instance : Monad Traced where
  pure a := ⟨a, []⟩
  bind x f := ⟨(f x.value).value, x.events ++ (f x.value).events⟩

@[simp] theorem value_pure (a : α) : (pure a : Traced α).value = a := rfl

@[simp] theorem value_bind (x : Traced α) (f : α → Traced β) : (x >>= f).value = (f x.value).value := rfl

@[simp] theorem events_bind (x : Traced α) (f : α → Traced β) :
    (x >>= f).events = x.events ++ (f x.value).events := rfl

def log (logger : Text) (level : Log.Level) (message : Text) : Traced Unit :=
  ⟨(), [.record ⟨logger, level, message⟩]⟩

def setThreshold (least : Option Log.Level) : Traced Unit := ⟨(), [.threshold least]⟩

end Traced

end TokenIntake
