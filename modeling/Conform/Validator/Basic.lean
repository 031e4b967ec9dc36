import Conform.Run
import Conform.Value.Entries

/-
  Validators as trees. A leaf is a function from values to runs; the other nodes combine, change,
  select or take apart. Every node carries two flags that let a value pass unseen: an absent value
  whose key is there, and a key that is not there at all.
-/

namespace Conform

/-- What a validator lets pass before it looks at a value. -/
structure Flags where
  /-- The absent value passes where its key is there. -/
  nullable : Bool := false
  /-- A key that is not there passes. -/
  optional : Bool := false
deriving DecidableEq, Repr, Inhabited

inductive Validator where
  /-- A function with a name and, if it is known, what the function expects of a value. -/
  | function (name : String) (run : Value → Run Result)
      (describe : Option (Value → Except Fault Expectation)) (flags : Flags)
  /-- All children in order: each on what the one before it made of the value, up to the first
  failure, or, when collecting, all of them on the value itself. -/
  | conjunction (children : List Validator) (message : Option Value) (collecting : Bool)
    (flags : Flags)
  /-- The first child that accepts. -/
  | disjunction (children : List Validator) (message : Option Value) (flags : Flags)
  /-- No child accepts. -/
  | exclusion (children : List Validator) (message : Option Value) (flags : Flags)
  /-- The child does not accept. -/
  | negation (child : Validator) (message : Option Value) (flags : Flags)
  /-- The child, with one fixed expectation for its failures. -/
  | replacement (child : Validator) (expectation : Expectation) (flags : Flags)
  /-- The child, whose failures are thrown. -/
  | throwing (child : Validator) (flags : Flags)
  /-- One of two validators, chosen by whether the enclosing map meets a condition. -/
  | conditional (condition thenBranch otherwise : Validator) (message : Option Value)
    (flags : Flags)
  /-- A validator chosen from the enclosing map. -/
  | resolved (choose : Entries → Validator) (flags : Flags)
  /-- The length of the value, checked in order. -/
  | sized (bounds : List Validator) (message : Option Value) (flags : Flags)
  /-- The child on what a function makes of the value. -/
  | mapped (fn : Value → Except Fault Value) (child : Validator) (flags : Flags)
  /-- The child, with a value in place of an absent one. -/
  | defaulted (substitute : Value) (child : Validator) (flags : Flags)
  /-- The child on what is found inside the value, if it is found. -/
  | pivot (find : Value → Except Fault (Option Value)) (message : String) (child : Validator)
      (flags : Flags)
  /-- The child on the value converted to another type, if a guard accepts it. -/
  | coercion (target : String) (guard : Validator) (convert : Value → Except String Value)
      (child : Validator) (flags : Flags)
  /-- The child on the value under a key, the whole map being kept. -/
  | member (key : Value) (child : Validator) (flags : Flags)
  /-- The validator that is listed for the value under a key. -/
  | dispatch (key : Value) (cases : List (Value × Validator)) (flags : Flags)
  /-- A validator for each key of a map. -/
  | fields (schema : List (Value × Validator)) (message : Option Value) (flags : Flags)
  /-- A validator for each place in a list. -/
  | listPlaces (validators : List Validator) (flags : Flags)
  /-- One validator for every item of a list. -/
  | listItems (item : Validator) (message : Option Value) (flags : Flags)

namespace Validator

/-- The flags of the outermost node. -/
def flags : Validator → Flags
  | .function _ _ _ f => f
  | .conjunction _ _ _ f => f
  | .disjunction _ _ f => f
  | .exclusion _ _ f => f
  | .negation _ _ f => f
  | .replacement _ _ f => f
  | .throwing _ f => f
  | .conditional _ _ _ _ f => f
  | .resolved _ f => f
  | .sized _ _ f => f
  | .mapped _ _ f => f
  | .defaulted _ _ f => f
  | .pivot _ _ _ f => f
  | .coercion _ _ _ _ f => f
  | .member _ _ f => f
  | .dispatch _ _ f => f
  | .fields _ _ f => f
  | .listPlaces _ f => f
  | .listItems _ _ f => f

/-- The same validator with other flags on the outermost node. -/
def withFlags (f : Flags) : Validator → Validator
  | .function name run describe _ => .function name run describe f
  | .conjunction children message collecting _ => .conjunction children message collecting f
  | .disjunction children message _ => .disjunction children message f
  | .exclusion children message _ => .exclusion children message f
  | .negation child message _ => .negation child message f
  | .replacement child expectation _ => .replacement child expectation f
  | .throwing child _ => .throwing child f
  | .conditional condition thenBranch otherwise message _ =>
    .conditional condition thenBranch otherwise message f
  | .resolved choose _ => .resolved choose f
  | .sized bounds message _ => .sized bounds message f
  | .mapped fn child _ => .mapped fn child f
  | .defaulted substitute child _ => .defaulted substitute child f
  | .pivot find message child _ => .pivot find message child f
  | .coercion target guard convert child _ => .coercion target guard convert child f
  | .member key child _ => .member key child f
  | .dispatch key cases _ => .dispatch key cases f
  | .fields schema message _ => .fields schema message f
  | .listPlaces validators _ => .listPlaces validators f
  | .listItems item message _ => .listItems item message f

/-- Whether an absent value whose key is there passes. -/
def isNullable (v : Validator) : Bool := v.flags.nullable

/-- Whether a key that is not there passes. -/
def isOptional (v : Validator) : Bool := v.flags.optional

/-- The validator with the given flags, a flag that is not given being kept. -/
def copyWith (nullable? optional? : Option Bool) (v : Validator) : Validator :=
  v.withFlags ⟨nullable?.getD v.flags.nullable, optional?.getD v.flags.optional⟩

/-- The validator, which now lets an absent value pass whose key is there. -/
def nullable (v : Validator) : Validator := v.copyWith (some true) none

/-- The validator, which now lets a key pass that is not there. -/
def optional (v : Validator) : Validator := v.copyWith none (some true)

/-- Whether the validator needs the enclosing map to decide. -/
def isContextual : Validator → Bool
  | .conditional _ _ _ _ _ => true
  | .resolved _ _ => true
  | _ => false

/-- What the function of a leaf expects of a value, if it is known. -/
def describe? : Validator → Option (Value → Except Fault Expectation)
  | .function _ _ describe _ => describe
  | .sized _ message _ => some fun x => .ok
    { message := messageOr message (.str "a value of the required length"), value := x,
      code := some Code.lengthOutOfRange.text }
  | _ => none

@[simp] theorem flags_withFlags (f : Flags) (v : Validator) : (v.withFlags f).flags = f := by
  cases v <;> rfl

@[simp] theorem withFlags_flags (v : Validator) : v.withFlags v.flags = v := by
  cases v <;> rfl

@[simp] theorem withFlags_withFlags (f g : Flags) (v : Validator) :
    (v.withFlags g).withFlags f = v.withFlags f := by
  cases v <;> rfl

@[simp] theorem describe?_withFlags (f : Flags) (v : Validator) :
    (v.withFlags f).describe? = v.describe? := by
  cases v <;> rfl

@[simp] theorem isContextual_withFlags (f : Flags) (v : Validator) :
    (v.withFlags f).isContextual = v.isContextual := by
  cases v <;> rfl

end Validator
end Conform
