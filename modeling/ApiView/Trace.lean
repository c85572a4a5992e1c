import ApiView.Failure

/-!
# Traced computations

A computation that may fail and writes log lines on the way. The lines that were written before a
failure are kept.

* `LogLine`: a line of the log;
* `Traced`: the lines written and the outcome;
* `Traced.note`, `Traced.fail`: write a line, fail.
-/

namespace ApiView

inductive Level
  | debug
  | info
  | warning
deriving DecidableEq, Repr

inductive Channel
  | operations
  | legacyOperations
  | parameters
  | security
  | view
deriving DecidableEq, Repr

structure LogLine where
  level : Level
  channel : Channel
  text : String
deriving DecidableEq, Repr

def Level.word : Level → String
  | .debug => "DEBUG"
  | .info => "INFO"
  | .warning => "WARNING"

def Channel.name : Channel → String
  | .operations => "specview.generator.base"
  | .legacyOperations => "specview.generator.swagger1"
  | .parameters => "specview.generator.params"
  | .security => "specview.generator.security"
  | .view => "specview.generator.view"

def LogLine.written (line : LogLine) : String :=
  line.level.word ++ " " ++ line.channel.name ++ ": " ++ line.text

/-- The lines that a computation wrote, and how it ended. -/
structure Traced (α : Type) where
  log : List LogLine
  outcome : Except Failure α

namespace Traced

variable {α β : Type}

protected def pure (a : α) : Traced α :=
  ⟨[], .ok a⟩

protected def bind (x : Traced α) (f : α → Traced β) : Traced β :=
  match x.outcome with
  | .ok a => ⟨x.log ++ (f a).log, (f a).outcome⟩
  | .error e => ⟨x.log, .error e⟩

instance : Monad Traced where
  pure := Traced.pure
  bind := Traced.bind

def ofExcept (r : Except Failure α) : Traced α :=
  ⟨[], r⟩

instance : MonadLift (Except Failure) Traced where
  monadLift := ofExcept

def note (level : Level) (channel : Channel) (text : String) : Traced Unit :=
  ⟨[⟨level, channel, text⟩], .ok ()⟩

def fail (e : Failure) : Traced α :=
  ⟨[], .error e⟩

/-! ## Outcomes -/

@[simp]
theorem outcome_pure (a : α) : (pure a : Traced α).outcome = .ok a := rfl

@[simp]
theorem outcome_ofExcept (r : Except Failure α) : (ofExcept r).outcome = r := rfl

@[simp]
theorem outcome_lift (r : Except Failure α) : (liftM r : Traced α).outcome = r := rfl

@[simp]
theorem outcome_note (level : Level) (channel : Channel) (text : String) :
    (note level channel text).outcome = .ok () := rfl

@[simp]
theorem outcome_fail (e : Failure) : (fail e : Traced α).outcome = .error e := rfl

/-- The outcome of a sequence is the sequence of the outcomes: the log never matters. -/
@[simp]
theorem outcome_bind (x : Traced α) (f : α → Traced β) :
    (x >>= f).outcome = x.outcome >>= fun a => (f a).outcome := by
  cases h : x.outcome <;> simp [bind, Traced.bind, h, Except.bind]

end Traced
end ApiView
