import ModelFormula.Failure

/-!
# Journals

A computation of the model gives an outcome and the entries it leaves in the log.  The entries are
data: who prints them, and whether printing itself fails, is decided where a session replays them.

* `Journal` — an outcome with the entries made up to it.
* `Journal.outcome_bind`, `Journal.outcome_pure`, … — the outcome of a combined computation depends
  on the outcomes of its parts alone.
-/

set_option autoImplicit false

namespace ModelFormula

/-- How grave a log entry is, in increasing order. -/
inductive Severity where
  | debug
  | info
  | warning
  | error
  | critical
  deriving DecidableEq, Repr, Inhabited

namespace Severity

def rank : Severity → Nat
  | .debug => 10
  | .info => 20
  | .warning => 30
  | .error => 40
  | .critical => 50

def name : Severity → String
  | .debug => "DEBUG"
  | .info => "INFO"
  | .warning => "WARNING"
  | .error => "ERROR"
  | .critical => "CRITICAL"

def all : List Severity := [.debug, .info, .warning, .error, .critical]

def ofName? (s : String) : Option Severity := all.find? (·.name == s)

end Severity

/-- The methods of a logger. -/
inductive Method where
  | debug
  | info
  | warning
  | error
  deriving DecidableEq, Repr

/-- Every method logs at a severity of its own. -/
def Method.severity : Method → Severity
  | .debug => .debug
  | .info => .info
  | .warning => .warning
  | .error => .error

/-- One log entry: the logger it is for, the method called, the message and its facts. -/
structure Entry where
  logger : String
  method : Method
  message : String
  facts : List (String × String) := []
  deriving DecidableEq, Repr

def Entry.severity (e : Entry) : Severity := e.method.severity

/-- The line of an entry: the message and the facts, set apart by bars. -/
def Entry.line (e : Entry) : String :=
  " | ".intercalate (e.message :: e.facts.map fun fact => fact.1 ++ "=" ++ fact.2)

/-- An outcome and the log entries made on the way to it. -/
structure Journal (α : Type) where
  outcome : Except Failure α
  entries : List Entry

namespace Journal

variable {α β : Type}

protected def pure (a : α) : Journal α := ⟨.ok a, []⟩

protected def bind (x : Journal α) (f : α → Journal β) : Journal β :=
  match x.outcome with
  | .ok a => ⟨(f a).outcome, x.entries ++ (f a).entries⟩
  | .error e => ⟨.error e, x.entries⟩

instance : Monad Journal where
  pure := Journal.pure
  bind := Journal.bind

/-- A computation that leaves no entries. -/
def quiet (x : Except Failure α) : Journal α := ⟨x, []⟩

/-- One entry. -/
def record (e : Entry) : Journal Unit := ⟨.ok (), [e]⟩

def fail (e : Failure) : Journal α := quiet (.error e)

instance : MonadLift (Except Failure) Journal where
  monadLift := quiet

@[simp] theorem outcome_pure (a : α) : (pure a : Journal α).outcome = .ok a := rfl

@[simp] theorem outcome_quiet (x : Except Failure α) : (quiet x).outcome = x := rfl

@[simp] theorem outcome_record (e : Entry) : (record e).outcome = .ok () := rfl

@[simp] theorem outcome_bind (x : Journal α) (f : α → Journal β) :
    (x >>= f).outcome = x.outcome >>= fun a => (f a).outcome := by
  obtain ⟨o, es⟩ := x
  cases o <;> rfl

@[simp] theorem outcome_map (f : α → β) (x : Journal α) :
    (f <$> x).outcome = f <$> x.outcome := by
  obtain ⟨o, es⟩ := x
  cases o <;> rfl

@[simp] theorem entries_pure (a : α) : (pure a : Journal α).entries = [] := rfl

@[simp] theorem entries_quiet (x : Except Failure α) : (quiet x).entries = [] := rfl

end Journal

end ModelFormula
