import Conform.Report

/-
  Faults: what stops a program instead of becoming part of a result. A fault is either one of the
  library's own, which carries named values for programs, or a wrong use of a part of it, or comes
  from a function that a user supplied.
-/

namespace Conform

/-- The coercions that a builder tells apart. -/
inductive CoercionKind where
  | int
  | float
  | bool
  | string
  | datetime
  | json
  | custom
deriving DecidableEq, Repr

def CoercionKind.name : CoercionKind → String
  | .int => "int"
  | .float => "float"
  | .bool => "bool"
  | .string => "string"
  | .datetime => "datetime"
  | .json => "json"
  | .custom => "custom"

/-- Why a file cannot be read. -/
inductive FileProblem where
  | missing
  | directory
  | nameTooLong
deriving DecidableEq, Repr

def FileProblem.message : FileProblem → String
  | .missing => "[Errno 2] No such file or directory"
  | .directory => "[Errno 21] Is a directory"
  | .nameTooLong => "[Errno 36] File name too long"

/-- Why a definition describes no validator. Paths lead from the root of the definition. -/
inductive DefinitionProblem where
  | rootNotMap (found : Kind)
  | sourceNotSupported (found : Kind)
  | notMap (path : String) (found : Kind)
  | unknownType (path type : String)
  | contextualConstraints (path type : String)
  | constraintsNotList (path : String)
  | childrenNotList (path key : String)
  | valuesNotList (path : String)
  | fieldsNotMap (path : String)
  | missing (path key : String) (type : Value)
  | boundsReversed (path : String) (low high : Value)
  | unreadableDocument
  | unreadableDocumentFile (path : String)
  | unreadableJsonFile (path problem : String)
  | unreadableFile (path : String) (problem : FileProblem)
deriving Repr

namespace DefinitionProblem

/-- The text of a problem. -/
def message : DefinitionProblem → String
  | .rootNotMap _ => "Validator definition must be a mapping"
  | .sourceNotSupported found => "Invalid source type: <class '" ++ found.fullName ++ "'>"
  | .notMap path _ => "Validator definition at " ++ path ++ " must be a mapping"
  | .unknownType path type => "Unknown validator type '" ++ type ++ "' at " ++ path
  | .contextualConstraints path type =>
    "'constraints' are not supported on " ++ type ++ " at " ++ path
  | .constraintsNotList path => "'constraints' at " ++ path ++ " must be a list"
  | .childrenNotList path key => "'" ++ key ++ "' at " ++ path ++ " must be a list"
  | .valuesNotList path => "'values' at " ++ path ++ " must be a list"
  | .fieldsNotMap path => "'fields' at " ++ path ++ " must be a mapping"
  | .missing path key type => "Missing '" ++ key ++ "' for " ++ type.display ++ " at " ++ path
  | .boundsReversed path low high =>
    "Range min (" ++ low.display ++ ") cannot be greater than max (" ++ high.display ++ ") at "
      ++ path
  | .unreadableDocument => "Failed to parse YAML definition"
  | .unreadableDocumentFile path => "Failed to parse YAML file " ++ path
  | .unreadableJsonFile path problem => "Failed to parse JSON file " ++ path ++ ": " ++ problem
  | .unreadableFile path problem =>
    "Failed to read validator file " ++ path ++ ": " ++ problem.message ++ ": " ++ Text.quoted path

/-- The named values of a problem. -/
def context : DefinitionProblem → Details
  | .rootNotMap found => [("found", .str found.name)]
  | .notMap path found => [("path", .str path), ("found", .str found.name)]
  | .unknownType path type => [("path", .str path), ("type", .str type)]
  | .contextualConstraints path type => [("path", .str path), ("type", .str type)]
  | .constraintsNotList path => [("path", .str path)]
  | .childrenNotList path key => [("path", .str path), ("key", .str key)]
  | .valuesNotList path => [("path", .str path)]
  | .fieldsNotMap path => [("path", .str path)]
  | .missing path key _ => [("path", .str path), ("key", .str key)]
  | .boundsReversed path low high => [("path", .str path), ("min", low), ("max", high)]
  | _ => []

end DefinitionProblem

/-- What stops a program. -/
inductive Fault where
  /-- A fault of the library in general, with a message and named values. -/
  | general (message : String) (context : Details)
  /-- A wrong use of a builder, with a message and named values. -/
  | building (message : String) (context : Details)
  /-- A value was to be taken out of the map after a coercion. -/
  | pluckAfterCoercion (key : Value) (kind : CoercionKind)
  /-- A definition that describes no validator, with a message and named values. -/
  | configuration (message : String) (context : Details)
  /-- A definition that describes no validator. -/
  | definition (problem : DefinitionProblem)
  /-- A synchronous run reached an asynchronous check, perhaps in the validator so named. -/
  | asyncReached (whereabouts : Option String)
  /-- A validation that throws has failed. -/
  | validationFailed (result : Result)
  /-- A failed result was to be made without an expectation. -/
  | failureWithoutExpectation
  /-- The first expectation of a valid result was asked for. -/
  | noExpectation
  /-- A report was asked for on a valid result. -/
  | reportOnValid
  /-- A valid result was to be thrown. -/
  | throwOnValid
  /-- The least value of a range is greater than the greatest one. -/
  | boundsReversed (low high : Value)
  /-- The end of a period comes before its start. -/
  | periodReversed (start finish : String)
  /-- A whole number that is no byte was looked for among bytes. -/
  | byteOutOfRange
  /-- A document holds a number or a day that cannot be, with the message about it. -/
  | badScalar (message : String)
  /-- A value was to be shown in which a whole number has too many digits. -/
  | tooManyDigits
  /-- A number is too large for the operation that needs it. -/
  | numberTooLarge
  /-- A text that may be the path of a file is too long for one. -/
  | pathTooLong
  /-- A path has a null character. -/
  | nullInPath
  /-- A key was asked for that a map does not have. -/
  | keyMissing
  /-- A place was asked for beyond the end of the kind of sequence. -/
  | indexOutOfRange (sequence : String)
  /-- The first of no bytes was asked for. -/
  | emptyBytes
  /-- A pattern that cannot be read. -/
  | badPattern
  /-- A function raised a fault of its own. -/
  | userFault (message : String)
  /-- A value of the wrong type was given to an operation. -/
  | wrongType
  /-- Something was asked of a value that it does not have. -/
  | noSuchMember
  /-- A function raised the signal that ends an iteration. -/
  | endOfIteration (message : String)
  /-- The signal that ends an iteration was raised in a run that is waited for. -/
  | awaitedEndOfIteration
deriving Repr

inductive FaultKind where
  | general
  | building
  | configuration
  | async
  | validationFailed
  | value
  | index
  | runtime
  | type
  | member
  | key
  | pattern
  | overflow
  | file
  | iteration
deriving DecidableEq, Repr

namespace Fault

def kind : Fault → FaultKind
  | .general _ _ => .general
  | .building _ _ => .building
  | .pluckAfterCoercion _ _ => .building
  | .configuration _ _ => .configuration
  | .definition _ => .configuration
  | .asyncReached _ => .async
  | .validationFailed _ => .validationFailed
  | .failureWithoutExpectation => .value
  | .noExpectation => .index
  | .reportOnValid => .value
  | .throwOnValid => .value
  | .boundsReversed _ _ => .value
  | .periodReversed _ _ => .value
  | .byteOutOfRange => .value
  | .badScalar _ => .value
  | .tooManyDigits => .value
  | .numberTooLarge => .overflow
  | .pathTooLong => .file
  | .nullInPath => .value
  | .keyMissing => .key
  | .indexOutOfRange _ => .index
  | .emptyBytes => .index
  | .badPattern => .pattern
  | .userFault _ => .runtime
  | .wrongType => .type
  | .noSuchMember => .member
  | .endOfIteration _ => .iteration
  | .awaitedEndOfIteration => .runtime

/-- The text of a fault; wrong uses of the language have none that is fixed. -/
def message? : Fault → Option String
  | .general message _ => some message
  | .building message _ => some message
  | .pluckAfterCoercion key kind =>
    some ("Cannot pluck '" ++ key.display ++ "' after a " ++ kind.name ++ " coercion")
  | .configuration message _ => some message
  | .definition problem => some problem.message
  | .asyncReached whereabouts =>
    let base := "Cannot call validate() on a validator chain that contains async operations. "
      ++ "Use validate_async() instead."
    some (match nonEmpty? whereabouts with
      | some name => base ++ " (Context: " ++ name ++ ")"
      | none => base)
  | .validationFailed result => some result.standardReport
  | .failureWithoutExpectation => some "A failed result needs at least one expectation"
  | .noExpectation => some "A valid result has no expectations"
  | .reportOnValid => some "build_failure_message() requires an invalid result"
  | .throwOnValid => some "ValidatorFailedError requires an invalid result"
  | .boundsReversed low high =>
    some ("min (" ++ low.display ++ ") cannot be greater than max (" ++ high.display ++ ")")
  | .periodReversed start finish =>
    some ("end (" ++ finish ++ ") must not be before start (" ++ start ++ ")")
  | .byteOutOfRange => some "byte must be in range(0, 256)"
  | .badScalar message => some message
  | .tooManyDigits => some (Text.tooManyDigitsMessage none)
  | .indexOutOfRange sequence => some (sequence ++ " index out of range")
  | .emptyBytes => some "index out of range"
  | .userFault message => some message
  | .nullInPath => some "embedded null byte"
  | .endOfIteration message => some message
  | .awaitedEndOfIteration => some "coroutine raised StopIteration"
  | .numberTooLarge => none
  | .pathTooLong => none
  | .keyMissing => none
  | .badPattern => none
  | .wrongType => none
  | .noSuchMember => none

/-- The named values of a fault of the library's own. -/
def context? : Fault → Option Details
  | .general _ context => some context
  | .building _ context => some context
  | .pluckAfterCoercion key kind => some [("key", key), ("coercion", .str kind.name)]
  | .configuration _ context => some context
  | .definition problem => some problem.context
  | .asyncReached whereabouts =>
    some (match nonEmpty? whereabouts with
      | some name => [("where", .str name)]
      | none => [])
  | .validationFailed result =>
    some [("errors", .int result.expectations.length),
      ("codes", .list (result.codes.map .str))]
  | _ => none

/-- The fault as it leaves a run that is waited for. The signal that ends an iteration does not: it
would end the waiting, and another fault takes its place. -/
def awaited : Fault → Fault
  | .endOfIteration _ => .awaitedEndOfIteration
  | fault => fault

theorem awaited_of_ne {fault : Fault} (h : ∀ message, fault ≠ .endOfIteration message) :
    fault.awaited = fault := by
  cases fault with
  | endOfIteration message => exact absurd rfl (h message)
  | _ => rfl

@[simp] theorem awaited_awaited (fault : Fault) : fault.awaited.awaited = fault.awaited := by
  cases fault <;> rfl

/-- The named values given with a fault: the details, or the context if there are none. -/
def contextOf (context details : Option Details) : Details :=
  match details with
  | some (d :: ds) => d :: ds
  | _ => context.getD []

end Fault

/-- A failed result with these expectations, of which there must be one. -/
def Result.failure (value : Value) (expectations : List Expectation) (given : Value := .null) :
    Except Fault Result :=
  if expectations.isEmpty then .error .failureWithoutExpectation
  else .ok ⟨value, expectations, given⟩

/-- The first thing that is wrong. -/
def Result.firstExpectation (r : Result) : Except Fault Expectation :=
  match r.expectations with
  | [] => .error .noExpectation
  | e :: _ => .ok e

/-- The text that a function makes of the value, which must be one that can be shown. -/
def Value.shownBy (text : Value → String) (x : Value) : Except Fault String :=
  if x.isShowable then .ok (text x) else .error .tooManyDigits

/-- What is wrong, in one line. Every message must be text. -/
def Result.shortDescription (r : Result) : Except Fault String :=
  if r.isValid then .ok "Valid"
  else if r.expectations.all Expectation.isDescribable then
    match texts? (r.expectations.map Expectation.description) with
    | some texts => .ok (Text.joinWith ", " texts)
    | none => .error .wrongType
  else .error .tooManyDigits

/-- What is wrong, in one line with the value. -/
def Result.description (r : Result) : Except Fault String := do
  let short ← r.shortDescription
  let value ← r.value.shownBy Value.pretty
  pure (if r.isValid then "Valid: " ++ value else short ++ " (value: " ++ value ++ ")")

def Result.checkedReport (r : Result) (maxValueLength maxErrors : Int) : Except Fault String :=
  if r.isValid then .error .reportOnValid
  else if r.isReportable maxErrors then .ok (r.report maxValueLength maxErrors)
  else .error .tooManyDigits

def Result.thrown (r : Result) : Fault :=
  if r.isValid then .throwOnValid
  else if r.isReportable Result.usualMaxErrors then .validationFailed r
  else .tooManyDigits

section

variable {ε α β : Type}

/-- A computation that goes on with the answer of another one gives an answer if both do. -/
theorem exists_of_bind_eq_ok {made : Except ε α} {next : α → Except ε β} {b : β}
    (h : made.bind next = .ok b) : ∃ a, made = .ok a ∧ next a = .ok b := by
  cases made with
  | error fault => cases h
  | ok a => exact ⟨a, rfl, h⟩

theorem exists_of_map_eq_ok {made : Except ε α} {f : α → β} {b : β} (h : made.map f = .ok b) :
    ∃ a, made = .ok a ∧ f a = b := by
  cases made with
  | error fault => cases h
  | ok a => exact ⟨a, rfl, Except.ok.inj h⟩

theorem toOption_eq_some {made : Except ε α} {a : α} :
    made.toOption = some a ↔ made = .ok a := by
  cases made <;> simp [Except.toOption]

end

end Conform
