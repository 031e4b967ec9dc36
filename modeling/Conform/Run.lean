import Conform.Fault

/-
  Runs: what happens when a validation is carried out, as data. A run notes what can be observed
  on the way, may reach a point from which it goes on only when it is awaited, and ends with an
  answer or a fault. The same run can therefore be read in two ways: with every point of waiting
  passed (`atOnce`, and `awaited` as whoever waits for it sees it), or as a synchronous run that may
  not reach one (`refusingAwait`).
-/

namespace Conform

/-- How important a log record is. -/
inductive LogLevel where
  | debug
  | info
  | warning
deriving DecidableEq, Repr

def LogLevel.name : LogLevel → String
  | .debug => "DEBUG"
  | .info => "INFO"
  | .warning => "WARNING"

/-- A line in the log of a part of the library. -/
structure LogRecord where
  level : LogLevel
  source : String
  message : String
deriving DecidableEq, Repr

structure LeafCall where
  leaf : String
  value : Value
  /-- Whether the answer of the leaf has to be waited for. -/
  waits : Bool
deriving Repr

/-- What can be observed during a run. -/
inductive Event where
  /-- A check that reports its calls was called with a value. -/
  | called (name : String) (value : Value)
  /-- The function of a leaf was carried out. -/
  | entered (call : LeafCall)
  | logged (record : LogRecord)
deriving Repr

/-- A run that ends with an answer or a fault. -/
inductive Run (α : Type) where
  | done (answer : α)
  | raised (fault : Fault)
  | note (event : Event) (rest : Run α)
  | await (rest : Run α)
deriving Repr

namespace Run

variable {α β : Type}

/-- One run after another, the second one starting from the answer of the first. -/
def bind : Run α → (α → Run β) → Run β
  | .done a, next => next a
  | .raised fault, _ => .raised fault
  | .note event rest, next => .note event (rest.bind next)
  | .await rest, next => .await (rest.bind next)

/-- One run after another, except that from the first point of waiting on a function takes over
what is left of the first one. -/
def takenOver : Run α → (α → Run β) → (Run α → Run β) → Run β
  | .done a, next, _ => next a
  | .raised fault, _, _ => .raised fault
  | .note event rest, next, resume => .note event (rest.takenOver next resume)
  | .await rest, _, resume => .await (resume rest)

instance : Monad Run where
  pure := .done
  bind := .bind

/-- The run that ends at once with an answer or a fault. -/
def ofExcept : Except Fault α → Run α
  | .ok a => .done a
  | .error fault => .raised fault

/-- The run with every point of waiting passed. -/
def atOnce : Run α → Run α
  | .done a => .done a
  | .raised fault => .raised fault
  | .note event rest => .note event rest.atOnce
  | .await rest => rest.atOnce

/-- The run as whoever waits for it sees it: every point of waiting is passed, and a fault at the
end is one that leaves a run that is waited for. -/
def awaited : Run α → Run α
  | .done a => .done a
  | .raised fault => .raised fault.awaited
  | .note event rest => .note event rest.awaited
  | .await rest => rest.awaited

/-- The run up to the first point of waiting, where it ends as given instead. -/
def refusingAwait : Run α → Run α → Run α
  | .done a, _ => .done a
  | .raised fault, _ => .raised fault
  | .note event rest, refusal => .note event (rest.refusingAwait refusal)
  | .await _, refusal => refusal

/-- The run up to the first point of waiting; no answer if it has one. -/
def start : Run α → Run (Option α)
  | .done a => .done (some a)
  | .raised fault => .raised fault
  | .note event rest => .note event rest.start
  | .await _ => .done none

/-- Everything that is observed on the way, in order, up to the first point of waiting if the run
is not awaited. -/
def events : Run α → List Event
  | .done _ => []
  | .raised _ => []
  | .note event rest => event :: rest.events
  | .await _ => []

def records (run : Run α) : List LogRecord :=
  run.events.filterMap fun event => match event with
    | .logged entry => some entry
    | _ => none

/-- The calls that are reported on the way. -/
def calls (run : Run α) : List (String × Value) :=
  run.events.filterMap fun event => match event with
    | .called name x => some (name, x)
    | _ => none

/-- The leaves that are entered on the way. -/
def entries (run : Run α) : List LeafCall :=
  run.events.filterMap fun event => match event with
    | .entered call => some call
    | _ => none

/-- How the run ends if no point of waiting is left in it. -/
def outcome? : Run α → Option (Except Fault α)
  | .done a => some (.ok a)
  | .raised fault => some (.error fault)
  | .note _ rest => rest.outcome?
  | .await _ => none

/-- Whether the run reaches a point of waiting. -/
def reachesAwait : Run α → Bool
  | .done _ => false
  | .raised _ => false
  | .note _ rest => rest.reachesAwait
  | .await _ => true

@[simp] theorem bind_done (a : α) (next : α → Run β) : (Run.done a).bind next = next a := rfl

@[simp] theorem bind_raised (fault : Fault) (next : α → Run β) :
    (Run.raised fault).bind next = .raised fault := rfl

@[simp] theorem bind_note (event : Event) (rest : Run α) (next : α → Run β) :
    (Run.note event rest).bind next = .note event (rest.bind next) := rfl

@[simp] theorem bind_await (rest : Run α) (next : α → Run β) :
    (Run.await rest).bind next = .await (rest.bind next) := rfl

@[simp] theorem bind_eq (run : Run α) (next : α → Run β) : run >>= next = run.bind next := rfl

@[simp] theorem pure_eq (a : α) : (pure a : Run α) = .done a := rfl

@[simp] theorem bind_pure (run : Run α) : run.bind .done = run := by
  induction run with
  | done => rfl
  | raised => rfl
  | note event rest ih => simp [ih]
  | await rest ih => simp [ih]

theorem bind_assoc {γ : Type} (run : Run α) (f : α → Run β) (g : β → Run γ) :
    (run.bind f).bind g = run.bind fun a => (f a).bind g := by
  induction run with
  | done => rfl
  | raised => rfl
  | note event rest ih => simp [ih]
  | await rest ih => simp [ih]

instance : LawfulMonad Run :=
  LawfulMonad.mk' Run (fun run => bind_pure run) (fun _ _ => rfl) fun run f g => bind_assoc run f g

/-- It makes no difference where a run is taken over if the rest goes on as before. -/
theorem takenOver_bind (run : Run α) (next : α → Run β) :
    run.takenOver next (fun rest => rest.bind next) = run.bind next := by
  induction run with
  | done => rfl
  | raised => rfl
  | note event rest ih => simp [takenOver, ih]
  | await => rfl

@[simp] theorem atOnce_bind (run : Run α) (next : α → Run β) :
    (run.bind next).atOnce = run.atOnce.bind fun a => (next a).atOnce := by
  induction run with
  | done => rfl
  | raised => rfl
  | note event rest ih => simp [atOnce, ih]
  | await rest ih => simp [atOnce, ih]

@[simp] theorem atOnce_atOnce (run : Run α) : run.atOnce.atOnce = run.atOnce := by
  induction run with
  | done => rfl
  | raised => rfl
  | note event rest ih => simp [atOnce, ih]
  | await rest ih => simp [atOnce, ih]

@[simp] theorem awaited_bind (run : Run α) (next : α → Run β) :
    (run.bind next).awaited = run.awaited.bind fun a => (next a).awaited := by
  induction run with
  | done => rfl
  | raised => rfl
  | note event rest ih => simp [awaited, ih]
  | await rest ih => simp [awaited, ih]

@[simp] theorem awaited_awaited (run : Run α) : run.awaited.awaited = run.awaited := by
  induction run with
  | done => rfl
  | raised => simp [awaited]
  | note event rest ih => simp [awaited, ih]
  | await rest ih => simp [awaited, ih]

@[simp] theorem atOnce_awaited (run : Run α) : run.awaited.atOnce = run.awaited := by
  induction run with
  | done => rfl
  | raised => rfl
  | note event rest ih => simp [atOnce, awaited, ih]
  | await rest ih => simp [awaited, ih]

/-- Waiting for a run that answers at once makes a difference to its fault only. -/
theorem awaited_atOnce (run : Run α) : run.atOnce.awaited = run.awaited := by
  induction run with
  | done => rfl
  | raised => rfl
  | note event rest ih => simp [atOnce, awaited, ih]
  | await rest ih => simp [atOnce, awaited, ih]

@[simp] theorem atOnce_ofExcept (e : Except Fault α) : (ofExcept e).atOnce = ofExcept e := by
  cases e <;> rfl

@[simp] theorem awaited_ofExcept (e : Except Fault α) :
    (ofExcept e).awaited = ofExcept (e.mapError Fault.awaited) := by
  cases e <;> rfl

theorem reachesAwait_atOnce (run : Run α) : run.atOnce.reachesAwait = false := by
  induction run with
  | done => rfl
  | raised => rfl
  | note event rest ih => simp [atOnce, reachesAwait, ih]
  | await rest ih => simp [atOnce, ih]

theorem events_awaited (run : Run α) : run.awaited.events = run.atOnce.events := by
  induction run with
  | done => rfl
  | raised => rfl
  | note event rest ih => simp [atOnce, awaited, events, ih]
  | await rest ih => simp [atOnce, awaited, ih]

theorem outcome?_awaited (run : Run α) :
    run.awaited.outcome? = run.atOnce.outcome?.map (Except.mapError Fault.awaited) := by
  induction run with
  | done => rfl
  | raised => rfl
  | note event rest ih => exact ih
  | await rest ih => exact ih

/-- Whoever waits for a run gets the answer that it gives at once. -/
theorem outcome?_awaited_eq_ok {run : Run α} {a : α} :
    run.awaited.outcome? = some (.ok a) ↔ run.atOnce.outcome? = some (.ok a) := by
  induction run with
  | done => rfl
  | raised => simp [atOnce, awaited, outcome?]
  | note event rest ih => exact ih
  | await rest ih => exact ih

@[simp] theorem outcome?_done (a : α) : (Run.done a).outcome? = some (.ok a) := rfl

theorem outcome?_ofExcept (e : Except Fault α) : (ofExcept e).outcome? = some e := by
  cases e <;> rfl

/-- One run after another gives an answer if both do. -/
theorem outcome?_bind_eq_ok {run : Run α} {next : α → Run β} {b : β} :
    (run.bind next).outcome? = some (.ok b) ↔
      ∃ a, run.outcome? = some (.ok a) ∧ (next a).outcome? = some (.ok b) := by
  induction run with
  | done a => simp
  | raised => simp [outcome?]
  | note event rest ih => exact ih
  | await => simp [outcome?]

theorem outcome?_bind_of_ok {run : Run α} {a : α} (next : α → Run β)
    (h : run.outcome? = some (.ok a)) : (run.bind next).outcome? = (next a).outcome? := by
  induction run with
  | done => cases h; rfl
  | raised => cases h
  | note event rest ih => exact ih h
  | await => cases h

theorem outcome?_bind_of_error {run : Run α} {fault : Fault} (next : α → Run β)
    (h : run.outcome? = some (.error fault)) :
    (run.bind next).outcome? = some (.error fault) := by
  induction run with
  | done => cases h
  | raised => cases h; rfl
  | note event rest ih => exact ih h
  | await => cases h

/-- A run that is refused where it would have to wait gives no answer of its own. -/
theorem outcome?_refusingAwait_eq_ok {run refusal : Run α}
    (hrefusal : ∀ a, refusal.outcome? ≠ some (.ok a)) (a : α) :
    (run.refusingAwait refusal).outcome? = some (.ok a) ↔ run.outcome? = some (.ok a) := by
  induction run with
  | done => rfl
  | raised => rfl
  | note event rest ih => exact ih
  | await => simp [refusingAwait, outcome?, hrefusal]

theorem refusingAwait_of_not_reachesAwait {run : Run α} (h : run.reachesAwait = false)
    (refusal : Run α) :
    run.refusingAwait refusal = run := by
  induction run with
  | done => rfl
  | raised => rfl
  | note event rest ih => simp [refusingAwait, ih h]
  | await => simp [reachesAwait] at h

end Run
end Conform
