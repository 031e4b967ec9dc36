import Conform.Conversion.Basic
import Conform.Validator.Evaluate

/-
  Validators by how they are composed: a tree of the ways in which the library puts validators
  together, over functions that it does not provide. `build` gives the validator of a tree, and,
  for an observer, the same validator with its calls of these functions noted. A call is noted when
  it ends, with the fault that it ended with, so that the notes of a run tell where a fault comes
  from. To write a key is to call for its text, which a key gives unless there is a whole number
  with too many digits in it; only a text that is not given is noted.
-/

namespace Conform

/-- What is called that the library does not provide. -/
inductive Callee where
  | leaf (name : String)
  /-- What a leaf expects of a value. -/
  | expectation
  | transform
  /-- What chooses a validator from a map. -/
  | choice
  /-- The texts of the keys of a map. -/
  | keyTexts
deriving DecidableEq

/-- A call of what the library does not provide. -/
structure UserCall where
  callee : Callee
  value : Value
  /-- The fault that the call ended with, if it did not answer. -/
  fault : Option Fault

/-- If it is the texts of keys that a call did not give, then a key of the map has none. -/
def UserCall.IsWarranted (call : UserCall) : Prop :=
  call.callee = .keyTexts →
    call.fault = some .tooManyDigits ∧ Validator.showsKeys call.value = false

/-- How calls are noted, if they are. -/
abbrev Observer := Option (UserCall → LeafCall)

namespace Run

variable {α : Type}

/-- The run with a note at its end, and without other notes of leaves. -/
def concluding (ending : Option Fault → LeafCall) : Run α → Run α
  | .done a => .note (.entered (ending none)) (.done a)
  | .raised fault => .note (.entered (ending (some fault))) (.raised fault)
  | .note (.entered _) rest => rest.concluding ending
  | .note (.called name x) rest => .note (.called name x) (rest.concluding ending)
  | .note (.logged entry) rest => .note (.logged entry) (rest.concluding ending)
  | .await rest => .await (rest.concluding ending)

/-- The run of a function that is called with a value. -/
def observed (run : Run α) (o : Observer) (callee : Callee) (x : Value) : Run α :=
  match o with
  | none => run
  | some write => run.concluding fun fault => write ⟨callee, x, fault⟩

end Run

/-- A way in which a validator is composed. -/
inductive Composition where
  /-- A function with a name and, if it is known, what the function expects of a value. -/
  | leaf (name : String) (run : Value → Run Result)
      (expectation : Option (Value → Except Fault Expectation))
  | withFlags (f : Flags) (child : Composition)
  | allOf (children : List Composition) (message : Option Value) (collecting : Bool)
  | anyOf (children : List Composition) (message : Option Value)
  | noneOf (children : List Composition) (message : Option Value)
  | not (child : Composition) (message : Option Value)
  | and (first second : Composition)
  | withExpectation (child : Composition) (e : Expectation)
  | when (condition thenBranch otherwise : Composition) (message : Option Value)
  /-- A composition chosen from the enclosing map. The choice may fail, and only then it is a call
  to note: otherwise the composition stands for it. -/
  | resolve (choose : Entries → Except Fault Composition)
  | length (bounds : List Composition) (message : Option Value)
  | transform (fn : Value → Except Fault Value) (child : Composition)
  | defaultTo (substitute : Value) (child : Composition)
  | convert (c : Conversion) (child : Composition) (message : Option Value)
  | pickKeys (keys : List String) (child : Composition)
  | pluckKey (key : String) (child : Composition)
  | flattenKeys (delimiter : String) (child : Composition)
  | getField (key : String) (child : Composition)
  | switchBy (key : String) (cases : List (Value × Composition))
  | mapOf (schema : List (Value × Composition)) (message : Option Value)
  | strictMapOf (schema : List (Value × Composition)) (message : Option Value)
  | listOf (children : List Composition)
  | listEach (child : Composition) (message : Option Value)

namespace Composition

/-- What the function of a leaf expects of a value, if it is known. -/
def expectation? : Composition → Option (Value → Except Fault Expectation)
  | .leaf _ _ expectation => expectation
  | .withFlags _ child => child.expectation?
  | _ => none

/-- The validator with the call of its expectation noted where it accepts. A negation calls it
there. -/
def asking (o : Observer) (expectation : Option (Value → Except Fault Expectation))
    (v : Validator) : Validator :=
  match o, expectation with
  | some write, some expectation =>
    .function "denied" (fun x => (v.evaluate .plain x).bind fun r =>
      if r.isValid then
        ((Run.ofExcept (expectation x)).observed (some write) .expectation x).bind fun _ => .done r
      else .done r) (some expectation) {}
  | _, _ => v

/-- The validator on what a function makes of the value, with the call noted. -/
def transforming (o : Observer) (fn : Value → Except Fault Value) (v : Validator) : Validator :=
  match o with
  | none => .transform fn v
  | some write =>
    .function "transform" (fun x =>
      ((Run.ofExcept (fn x)).observed (some write) .transform x).bind (v.evaluate .plain)) none {}

/-- The validator with a note where it cannot write the keys of a value. -/
def writing (o : Observer) (writes : Value → Bool) (v : Validator) : Validator :=
  match o with
  | none => v
  | some write =>
    .function "writing" (fun x => if writes x then v.evaluate .plain x
      else (Run.raised .tooManyDigits).observed (some write) .keyTexts x) none {}

/-- Whether the keys of a map that are not declared can be written, if they have to be. -/
def writesUnknown (declared : List Value) (message : Option Value) : Value → Bool
  | .map entries =>
    (Validator.unknownKeysMessage message (Validator.undeclared declared entries)).isOk
  | _ => true

/-- The validator of a choice that failed. -/
def refusing (o : Observer) (parent : Entries) (fault : Fault) : Validator :=
  .function "choice" (fun _ => (Run.raised fault).observed o .choice (.map parent)) none {}

mutual

/-- The validator of a composition, with its calls noted if there is an observer. -/
def build (o : Observer) : Composition → Validator
  | .leaf name run expectation =>
    .function name (fun x => (run x).observed o (.leaf name) x) expectation {}
  | .withFlags f child => (build o child).withFlags f
  | .allOf children message collecting => .allOf (buildAll o children) message collecting
  | .anyOf children message => .anyOf (buildAll o children) message
  | .noneOf children message => .noneOf (buildDenied o children) message
  | .not child message =>
    -- A message that replaces the expectation keeps it from being called.
    .not (if (replacing? message).isSome then build o child
      else asking o child.expectation? (build o child)) message
  | .and first second => (build o first).and (build o second)
  | .withExpectation child e => (build o child).withExpectation e
  | .when condition thenBranch otherwise message =>
    .when (build o condition) (build o thenBranch) (build o otherwise) message
  | .resolve choose => .resolve fun parent => buildChosen o parent (choose parent)
  | .length bounds message => .length (buildAll o bounds) message
  | .transform fn child => transforming o fn (build o child)
  | .defaultTo substitute child => .defaultTo substitute (build o child)
  | .convert c child message => c.apply (build o child) message
  | .pickKeys keys child => .pickKeys keys (build o child)
  | .pluckKey key child => .pluckKey (.str key) (build o child)
  | .flattenKeys delimiter child =>
    writing o Validator.showsKeys (.flattenKeys delimiter (build o child))
  | .getField key child => .getField (.str key) (build o child)
  | .switchBy key cases => .switchBy (.str key) (buildUnder o cases)
  | .mapOf schema message => .mapOf (buildUnder o schema) message
  | .strictMapOf schema message =>
    let fields := buildUnder o schema
    (Validator.mapOf fields none).and (writing o (writesUnknown (Schema.keys fields) message)
      (.onlyKeys (Schema.keys fields) message))
  | .listOf children => .listOf (buildAll o children)
  | .listEach child message => .listEach (build o child) message

def buildAll (o : Observer) : List Composition → List Validator
  | [] => []
  | child :: rest => build o child :: buildAll o rest

def buildDenied (o : Observer) : List Composition → List Validator
  | [] => []
  | child :: rest => asking o child.expectation? (build o child) :: buildDenied o rest

def buildUnder (o : Observer) : List (Value × Composition) → List (Value × Validator)
  | [] => []
  | (key, child) :: rest => (key, build o child) :: buildUnder o rest

/-- The validator of a choice from a map. -/
def buildChosen (o : Observer) (parent : Entries) : Except Fault Composition → Validator
  | .ok child => build o child
  | .error fault => refusing o parent fault

end

mutual

/-- The whole numbers that a composition writes can be shown: the lengths of its lists of validators
for places, and those in the keys of its schemas. -/
def ShowsNumbers : Composition → Prop
  | .leaf _ _ _ => True
  | .withFlags _ child => ShowsNumbers child
  | .allOf children _ _ => AllShowNumbers children
  | .anyOf children _ => AllShowNumbers children
  | .noneOf children _ => AllShowNumbers children
  | .not child _ => ShowsNumbers child
  | .and first second => ShowsNumbers first ∧ ShowsNumbers second
  | .withExpectation child _ => ShowsNumbers child
  | .when condition thenBranch otherwise _ =>
    ShowsNumbers condition ∧ ShowsNumbers thenBranch ∧ ShowsNumbers otherwise
  | .resolve choose => ∀ parent, ChoiceShowsNumbers (choose parent)
  | .length bounds _ => AllShowNumbers bounds
  | .transform _ child => ShowsNumbers child
  | .defaultTo _ child => ShowsNumbers child
  | .convert _ child _ => ShowsNumbers child
  | .pickKeys _ child => ShowsNumbers child
  | .pluckKey _ child => ShowsNumbers child
  | .flattenKeys _ child => ShowsNumbers child
  | .getField _ child => ShowsNumbers child
  | .switchBy _ cases => AllUnderShowNumbers cases
  | .mapOf schema _ =>
    (∀ entry ∈ schema, entry.1.isShowable = true) ∧ AllUnderShowNumbers schema
  | .strictMapOf schema _ =>
    (∀ entry ∈ schema, entry.1.isShowable = true) ∧ AllUnderShowNumbers schema
  | .listOf children => (Value.int children.length).isShowable = true ∧ AllShowNumbers children
  | .listEach child _ => ShowsNumbers child

def AllShowNumbers : List Composition → Prop
  | [] => True
  | child :: rest => ShowsNumbers child ∧ AllShowNumbers rest

def AllUnderShowNumbers : List (Value × Composition) → Prop
  | [] => True
  | (_, child) :: rest => ShowsNumbers child ∧ AllUnderShowNumbers rest

def ChoiceShowsNumbers : Except Fault Composition → Prop
  | .ok child => ShowsNumbers child
  | .error _ => True

end

theorem buildAll_eq_map (o : Observer) (children : List Composition) :
    buildAll o children = children.map fun child => child.build o := by
  induction children with
  | nil => rw [buildAll, List.map_nil]
  | cons child rest ih => rw [buildAll, ih, List.map_cons]

theorem buildDenied_eq_map (o : Observer) (children : List Composition) :
    buildDenied o children =
      children.map fun child => asking o child.expectation? (child.build o) := by
  induction children with
  | nil => rw [buildDenied, List.map_nil]
  | cons child rest ih => rw [buildDenied, ih, List.map_cons]

theorem buildUnder_eq_map (o : Observer) (entries : List (Value × Composition)) :
    buildUnder o entries = entries.map fun entry => (entry.1, entry.2.build o) := by
  induction entries with
  | nil => rw [buildUnder, List.map_nil]
  | cons entry rest ih =>
    obtain ⟨key, child⟩ := entry
    rw [buildUnder, ih, List.map_cons]

def validator (c : Composition) : Validator := c.build none

/-- Without an observer a map that may have no other keys is the usual one. -/
theorem validator_strictMapOf (schema : List (Value × Composition)) (message : Option Value) :
    (strictMapOf schema message).validator = .strictMapOf (buildUnder none schema) message := by
  rw [validator, build]
  rfl

/-- The validator of a composition with its calls noted. -/
def noting (note : UserCall → LeafCall) (c : Composition) : Validator := c.build (some note)

/-! ## Predicates and the operator for "or" -/

def ofPredicate (p : Predicate) (message : Option Value) : Composition :=
  .leaf p.leafName ((Validator.ofPredicate p message).body .plain) (some (p.expectation message))

theorem validator_ofPredicate (p : Predicate) (message : Option Value) :
    (ofPredicate p message).validator = Validator.ofPredicate p message := by
  rw [validator, ofPredicate, build]
  rfl

/-- The flags of the outermost node. -/
def flags : Composition → Flags
  | .withFlags f _ => f
  | _ => {}

/-- The members of a choice without a message. -/
def members? : Composition → Option (List Composition)
  | .anyOf children none => some children
  | .withFlags _ child => child.members?
  | _ => none

/-- The parts of a choice that can be taken into another one, or the composition itself. -/
def choices (c : Composition) : List Composition :=
  match c.members?, c.flags with
  | some children, ⟨false, false⟩ => children
  | _, _ => [c]

/-- One of the compositions accepts. -/
def or (c d : Composition) : Composition := .anyOf (c.choices ++ d.choices) none

theorem flags_build (o : Observer) (c : Composition) : (c.build o).flags = c.flags := by
  cases c with
  | withFlags f child => rw [build, flags, Validator.flags_withFlags]
  | transform fn child =>
    simp only [build, flags]
    cases o <;> rfl
  | flattenKeys delimiter child =>
    simp only [build, flags]
    cases o <;> rfl
  | convert conversion child message =>
    simp only [build, flags, Conversion.apply, Validator.withMessage?]
    split <;> rfl
  | _ =>
    simp only [build, flags]
    rfl

/-- The members of a validator that is a choice without a message. -/
def builtMembers? : Validator → Option (List Validator)
  | .disjunction vs none _ => some vs
  | _ => none

theorem disjuncts_eq (v : Validator) : v.disjuncts = match builtMembers? v, v.flags with
    | some vs, ⟨false, false⟩ => vs
    | _, _ => [v] := by
  cases v with
  | disjunction vs message f =>
    obtain ⟨nullable, optional⟩ := f
    cases message <;> cases nullable <;> cases optional <;> rfl
  | _ => rfl

theorem builtMembers?_withFlags (f : Flags) (v : Validator) :
    builtMembers? (v.withFlags f) = builtMembers? v := by
  cases v <;> try rfl
  next children message _ => cases message <;> rfl

theorem builtMembers?_build (o : Observer) : (c : Composition) →
    builtMembers? (c.build o) = c.members?.map fun children =>
      children.map fun child => child.build o
  | .anyOf children none => by
    simp only [build, members?, buildAll_eq_map]
    rfl
  | .withFlags f child => by
    rw [build, builtMembers?_withFlags, members?]
    exact builtMembers?_build o child
  | .transform _ _ | .flattenKeys _ _ => by
    simp only [build, members?]
    cases o <;> rfl
  | .convert _ _ _ => by
    simp only [build, members?, Conversion.apply, Validator.withMessage?]
    split <;> rfl
  | .anyOf _ (some _) | .leaf _ _ _ | .length _ _ | .allOf _ _ _ | .noneOf _ _ | .not _ _
  | .and _ _ | .withExpectation _ _ | .when _ _ _ _ | .resolve _ | .defaultTo _ _ | .pickKeys _ _
  | .pluckKey _ _ | .getField _ _ | .switchBy _ _ | .mapOf _ _ | .strictMapOf _ _ | .listOf _
  | .listEach _ _ => by
    simp only [build, members?]
    rfl

/-- The parts of a choice are built one by one. -/
theorem disjuncts_build (o : Observer) (c : Composition) :
    (c.build o).disjuncts = c.choices.map fun child => child.build o := by
  rw [disjuncts_eq, builtMembers?_build, flags_build, choices]
  cases c.members? with
  | none => rfl
  | some children =>
    obtain ⟨nullable, optional⟩ := c.flags
    cases nullable <;> cases optional <;> rfl

/-- The operator for "or" makes a choice. -/
theorem build_or (o : Observer) (c d : Composition) :
    (c.or d).build o = (c.build o).or (d.build o) := by
  rw [or, build, buildAll_eq_map, List.map_append, ← disjuncts_build, ← disjuncts_build]
  rfl

end Composition
end Conform
