import Conform.Validator.Check
import Conform.Validator.Label

/-
  What a validator does, node by node, and the ways to use one. The body of a node ignores the
  node's own flags; `evaluate` heeds them. `validate` is the synchronous entry point: it refuses a
  run that reaches a point of waiting. `validateAsync` passes all such points.
-/

namespace Conform.Validator

mutual

/-- The run of a node without its own flags. -/
def body : Validator → Site → Value → Run Result
  | .function _ run _ _, _, x => run x
  | .conjunction children message true _, _, x => Check.collected message (checks children) x
  | .conjunction children message false _, _, x => Check.threaded message x (checks children) x
  | .disjunction children message _, _, x => Check.alternatives message (checks children) x
  | .exclusion children message _, _, x => Check.exclusion message (checks children) x
  | .negation child message _, _, x =>
    Check.negated message ⟨child.flags.guard (body child), child.describe?⟩ x
  | .replacement child e _, _, x =>
    Check.replaced e ⟨child.flags.guard (body child), child.describe?⟩ x
  | .throwing child _, _, x =>
    Check.throwing ⟨child.flags.guard (body child), child.describe?⟩ x
  | .conditional condition thenBranch otherwise message _, site, x =>
    Check.conditional message ⟨condition.flags.guard (body condition), condition.describe?⟩
      ⟨thenBranch.flags.guard (body thenBranch), thenBranch.describe?⟩
      ⟨otherwise.flags.guard (body otherwise), otherwise.describe?⟩ site x
  | .resolved choose _, site, x =>
    Check.chosen (fun parent =>
      ⟨(choose parent).flags.guard (body (choose parent)), (choose parent).describe?⟩) site x
  | .sized bounds message _, _, x => Check.sized message (checks bounds) x
  | .mapped fn child _, _, x =>
    Check.after fn ⟨child.flags.guard (body child), child.describe?⟩ x
  | .defaulted substitute child _, _, x =>
    child.flags.guard (body child) .plain (if x.isNull then substitute else x)
  | .pivot find message child _, _, x =>
    Check.pivoted find message ⟨child.flags.guard (body child), child.describe?⟩ x
  | .coercion target guard convert child _, _, x =>
    Check.coerced target ⟨guard.flags.guard (body guard), guard.describe?⟩ convert
      ⟨child.flags.guard (body child), child.describe?⟩ x
  | .member key child _, _, x =>
    Check.onField key ⟨child.flags.guard (body child), child.describe?⟩ x
  | .dispatch key cases _, _, x => Check.dispatched key (keyedChecks cases) x
  | .fields schema message _, _, x => Check.schema message (keyedChecks schema) x
  | .listPlaces validators _, _, x => Check.places (checks validators) x
  | .listItems item message _, _, x =>
    Check.everyItem message ⟨item.flags.guard (body item), item.describe?⟩ x

def checks : List Validator → List Check
  | [] => []
  | v :: vs => ⟨v.flags.guard (body v), v.describe?⟩ :: checks vs

/-- The checks of validators that are listed under keys. -/
def keyedChecks : List (Value × Validator) → List (Value × Check)
  | [] => []
  | (key, v) :: rest => (key, ⟨v.flags.guard (body v), v.describe?⟩) :: keyedChecks rest

end

/-- The run of a validator on a value in its place. -/
def evaluate (v : Validator) (site : Site) (x : Value) : Run Result :=
  v.flags.guard v.body site x

/-- What a validator does. -/
def toCheck (v : Validator) : Check := ⟨v.evaluate, v.describe?⟩

theorem toCheck_run (v : Validator) : v.toCheck.run = v.evaluate := rfl

theorem checks_eq_map (vs : List Validator) : checks vs = vs.map toCheck := by
  induction vs with
  | nil => rfl
  | cons v vs ih => rw [List.map_cons, ← ih]; rfl

theorem keyedChecks_eq_map (schema : List (Value × Validator)) :
    keyedChecks schema = schema.map fun entry => (entry.1, entry.2.toCheck) := by
  induction schema with
  | nil => rfl
  | cons entry rest ih => rw [List.map_cons, ← ih]; rfl

/-! ## The body of each node -/

theorem body_conjunction_collecting (children : List Validator) (message : Option Value) (f : Flags)
    (site : Site) (x : Value) : (Validator.conjunction children message true f).body site x =
      Check.collected message (children.map toCheck) x := by
  rw [← checks_eq_map]
  rfl

theorem body_conjunction_threading (children : List Validator) (message : Option Value) (f : Flags)
    (site : Site) (x : Value) : (Validator.conjunction children message false f).body site x =
      Check.threaded message x (children.map toCheck) x := by
  rw [← checks_eq_map]
  rfl

theorem body_disjunction (children : List Validator) (message : Option Value) (f : Flags)
    (site : Site) (x : Value) : (Validator.disjunction children message f).body site x =
      Check.alternatives message (children.map toCheck) x := by
  rw [← checks_eq_map]
  rfl

theorem body_exclusion (children : List Validator) (message : Option Value) (f : Flags)
    (site : Site) (x : Value) : (Validator.exclusion children message f).body site x =
      Check.exclusion message (children.map toCheck) x := by
  rw [← checks_eq_map]
  rfl

theorem body_negation (child : Validator) (message : Option Value) (f : Flags)
    (site : Site) (x : Value) : (Validator.negation child message f).body site x =
      Check.negated message child.toCheck x := rfl

theorem body_replacement (child : Validator) (e : Expectation) (f : Flags)
    (site : Site) (x : Value) : (Validator.replacement child e f).body site x =
      Check.replaced e child.toCheck x := rfl

theorem body_throwing (child : Validator) (f : Flags) (site : Site) (x : Value) :
    (Validator.throwing child f).body site x = Check.throwing child.toCheck x := rfl

theorem body_conditional (condition thenBranch otherwise : Validator) (message : Option Value)
    (f : Flags) (site : Site) (x : Value) :
    (Validator.conditional condition thenBranch otherwise message f).body site x =
      Check.conditional message condition.toCheck thenBranch.toCheck otherwise.toCheck site x := rfl

theorem body_resolved (choose : Entries → Validator) (f : Flags) (site : Site) (x : Value) :
    (Validator.resolved choose f).body site x =
      Check.chosen (fun parent => (choose parent).toCheck) site x := rfl

theorem body_sized (bounds : List Validator) (message : Option Value) (f : Flags) (site : Site)
    (x : Value) : (Validator.sized bounds message f).body site x =
      Check.sized message (bounds.map toCheck) x := by
  rw [← checks_eq_map]
  rfl

theorem body_mapped (fn : Value → Except Fault Value) (child : Validator) (f : Flags)
    (site : Site) (x : Value) : (Validator.mapped fn child f).body site x =
      Check.after fn child.toCheck x := rfl

theorem body_defaulted (substitute : Value) (child : Validator) (f : Flags) (site : Site)
    (x : Value) : (Validator.defaulted substitute child f).body site x =
      child.evaluate .plain (if x.isNull then substitute else x) := rfl

theorem body_pivot (find : Value → Except Fault (Option Value)) (message : String)
    (child : Validator) (f : Flags) (site : Site) (x : Value) :
    (Validator.pivot find message child f).body site x =
      Check.pivoted find message child.toCheck x := rfl

theorem body_coercion (target : String) (guard : Validator)
    (convert : Value → Except String Value) (child : Validator) (f : Flags) (site : Site)
    (x : Value) : (Validator.coercion target guard convert child f).body site x =
      Check.coerced target guard.toCheck convert child.toCheck x := rfl

theorem body_member (key : Value) (child : Validator) (f : Flags) (site : Site) (x : Value) :
    (Validator.member key child f).body site x = Check.onField key child.toCheck x := rfl

theorem body_dispatch (key : Value) (cases : List (Value × Validator)) (f : Flags) (site : Site)
    (x : Value) : (Validator.dispatch key cases f).body site x =
      Check.dispatched key (cases.map fun entry => (entry.1, entry.2.toCheck)) x := by
  rw [← keyedChecks_eq_map]
  rfl

theorem body_fields (schema : List (Value × Validator)) (message : Option Value) (f : Flags)
    (site : Site) (x : Value) : (Validator.fields schema message f).body site x =
      Check.schema message (schema.map fun entry => (entry.1, entry.2.toCheck)) x := by
  rw [← keyedChecks_eq_map]
  rfl

theorem body_listPlaces (validators : List Validator) (f : Flags) (site : Site) (x : Value) :
    (Validator.listPlaces validators f).body site x =
      Check.places (validators.map toCheck) x := by
  rw [← checks_eq_map]
  rfl

theorem body_listItems (item : Validator) (message : Option Value) (f : Flags) (site : Site)
    (x : Value) : (Validator.listItems item message f).body site x =
      Check.everyItem message item.toCheck x := rfl

@[simp] theorem body_withFlags (f : Flags) (v : Validator) : (v.withFlags f).body = v.body := by
  cases v <;> try rfl
  next children message collecting _ => cases collecting <;> rfl

theorem evaluate_withFlags (f : Flags) (v : Validator) (site : Site) (x : Value) :
    (v.withFlags f).evaluate site x = f.guard v.body site x := by
  rw [evaluate, flags_withFlags, body_withFlags]

theorem evaluate_of_unset {v : Validator} (h : v.flags = {}) (site : Site) (x : Value) :
    v.evaluate site x = v.body site x := by
  rw [evaluate, h, Flags.guard_unset]

/-! ## Entry points -/

/-- What becomes of a synchronous run of a validator that would have to wait. -/
def refusal (v : Validator) : Run Result :=
  .note (.logged ⟨.debug, "eskema.validator",
    "Async outcome reached the sync entry point of " ++ v.label⟩)
    (.raised (.asyncReached (some v.label)))

/-- The synchronous validation of a value. -/
def validate (v : Validator) (x : Value) (present : Bool) : Run Result :=
  (v.evaluate ⟨present, none⟩ x).refusingAwait v.refusal

/-- The validation of a value with all waiting done. -/
def validateAsync (v : Validator) (x : Value) (present : Bool) : Run Result :=
  (v.evaluate ⟨present, none⟩ x).awaited

/-- The run of the outermost node without its flags, up to the first point of waiting. -/
def check (v : Validator) (x : Value) : Run (Option Result) := (v.body .plain x).start

/-- The synchronous validation of a value, a failure being thrown. -/
def validateOrThrow (v : Validator) (x : Value) : Run Result := do
  let r ← v.validate x true
  if r.isValid then .done r else .raised r.thrown

def isValid (v : Validator) (x : Value) : Run Bool := do
  let r ← v.validate x true
  .done r.isValid

def isValidAsync (v : Validator) (x : Value) : Run Bool := do
  let r ← v.validateAsync x true
  .done r.isValid

theorem outcome?_refusal (v : Validator) :
    v.refusal.outcome? = some (.error (.asyncReached (some v.label))) := rfl

/-- The synchronous validation gives the answers of runs that need not wait. -/
theorem outcome?_validate_eq_ok {v : Validator} {x : Value} {present : Bool} (r : Result) :
    (v.validate x present).outcome? = some (.ok r) ↔
      (v.evaluate ⟨present, none⟩ x).outcome? = some (.ok r) := by
  refine Run.outcome?_refusingAwait_eq_ok (fun _ => ?_) r
  rw [outcome?_refusal]
  exact nofun

end Conform.Validator
