import Conform.Validator.Basic
import Conform.Validator.Walk

/-
  How checks combine. A check is what a validator does, apart from how it was put together: a run
  for each value in its place. The functions here give the run of a node from the checks of its
  children; none of them looks at a validator. Combinations of several checks are walks through
  them, and so are the checks of the parts of a value.
-/

namespace Conform

/-- Where a value stands: whether its key is there and, for the field of a map, the map. -/
structure Site where
  present : Bool := true
  parent : Option Entries := none

/-- The place of a value that is no field. -/
def Site.plain : Site := ⟨true, none⟩

/-- What a validator does with a value, and what it is known to expect of one. -/
structure Check where
  run : Site → Value → Run Result
  describe : Option (Value → Except Fault Expectation)

def Flags.letPass (f : Flags) (site : Site) (x : Value) : Bool :=
  (x.isNull && site.present && f.nullable) || (!site.present && f.optional)

def Flags.guard (f : Flags) (body : Site → Value → Run Result) (site : Site) (x : Value) :
    Run Result :=
  if f.letPass site x then .done (.success x) else body site x

theorem Flags.letPass_unset (site : Site) (x : Value) : Flags.letPass {} site x = false := by
  simp [Flags.letPass]

theorem Flags.guard_unset (body : Site → Value → Run Result) (site : Site) (x : Value) :
    Flags.guard {} body site x = body site x := by
  rw [Flags.guard, Flags.letPass_unset]
  rfl

namespace Check

/-! ## Negation -/

/-- The expectation that the value does not meet another one. -/
def denial (x : Value) (e : Expectation) : Expectation :=
  { e with
    message := .str ("not " ++ e.message.display)
    value := x
    code := firstNonEmpty e.code (some Code.notExpected.text) }

/-- The expectation of a check that says nothing of its own. -/
def passed (x : Value) : Expectation :=
  { message := .str "passed", value := x, code := some Code.notExpected.text }

/-- The expectation that a check which accepts the value should have rejected it. -/
def denied (c : Check) (x : Value) : Except Fault Expectation :=
  (match c.describe with
    | some describe => describe x
    | none => .ok (passed x)).map (denial x)

/-- Accepts the values that the check rejects. -/
def negated (message : Option Value) (c : Check) (x : Value) : Run Result := do
  let r ← c.run .plain x
  if r.isValid then
    match replacing? message with
    | some text =>
      .done (.refusal x { message := text, value := x, code := some Code.notExpected.text })
    | none => do
      let e ← Run.ofExcept (c.denied x)
      .done (.refusal x e)
  else .done (.success x)

/-! ## Several checks -/

/-- A failed result on a value that came in as it is, if there are expectations. -/
def settle (message : Option Value) (x : Value) : List Expectation → Option Result
  | [] => none
  | e :: es => some (Result.override message ⟨x, e :: es, x⟩)

/-- Each check on what the one before it made of the value. The first failure ends the walk. -/
def threading (message : Option Value) (given : Value) : Walk Check Value where
  visit c x := c.run .plain x
  step _ r _ := .ok (if r.isValid then .inr r.value else .inl (r.override message))
  finish x := .success x given

/-- All checks in order, each on what the one before it made of the value. The first failure is
the result. -/
def threaded (message : Option Value) (given : Value) (cs : List Check) (x : Value) : Run Result :=
  (threading message given).start cs x

/-- Each check on the same value. What is wrong with it is gathered. -/
def collecting (message : Option Value) (x : Value) : Walk Check (List Expectation) where
  visit c _ := c.run .plain x
  step _ r es := .ok (.inr (es ++ r.expectations))
  finish es := (settle message x es).getD (.success x x)

/-- All checks on the same value. The failures of all of them are the result. -/
def collected (message : Option Value) (cs : List Check) (x : Value) : Run Result :=
  (collecting message x).start cs []

/-- The expectation of a choice that has nothing else to say. -/
def noneMatched (x : Value) : Expectation :=
  { message := .str "at least one validator to pass", value := x,
    code := some Code.noneMatched.text }

/-- Each check on the same value. The first one that accepts ends the walk. -/
def choosing (message : Option Value) (x : Value) : Walk Check (List Expectation) where
  visit c _ := c.run .plain x
  step _ r es := .ok (if r.isValid then .inl r else .inr (es ++ r.expectations))
  finish es := Result.override message ⟨x, if es.isEmpty then [noneMatched x] else es, x⟩

/-- The first check that accepts. -/
def alternatives (message : Option Value) (cs : List Check) (x : Value) : Run Result :=
  (choosing message x).start cs []

/-- Each check on the same value. Every check that accepts is denied. -/
def excluding (message : Option Value) (x : Value) : Walk Check (List Expectation) where
  visit c _ := c.run .plain x
  step c r es :=
    if r.isValid then (c.denied x).map fun e => .inr (es ++ [e]) else .ok (.inr es)
  finish es := (settle message x es).getD (.success x x)

/-- No check accepts. -/
def exclusion (message : Option Value) (cs : List Check) (x : Value) : Run Result :=
  (excluding message x).start cs []

theorem threaded_nil (message : Option Value) (given x : Value) :
    threaded message given [] x = .done (.success x given) := rfl

theorem threaded_cons (message : Option Value) (given : Value) (c : Check) (cs : List Check)
    (x : Value) : threaded message given (c :: cs) x = (c.run .plain x).bind fun r =>
      if r.isValid then threaded message given cs r.value else .done (r.override message) := by
  rw [threaded, Walk.start_cons]
  congr 1
  funext r
  cases h : r.isValid <;> simp [Walk.afterStep, threading, threaded, Run.ofExcept, h]

theorem collecting_cons (message : Option Value) (x : Value) (c : Check) (cs : List Check)
    (es : List Expectation) : (collecting message x).start (c :: cs) es =
      (c.run .plain x).bind fun r => (collecting message x).start cs (es ++ r.expectations) := by
  rw [Walk.start_cons]
  rfl

theorem choosing_cons (message : Option Value) (x : Value) (c : Check) (cs : List Check)
    (es : List Expectation) : (choosing message x).start (c :: cs) es =
      (c.run .plain x).bind fun r =>
        if r.isValid then .done r else (choosing message x).start cs (es ++ r.expectations) := by
  rw [Walk.start_cons]
  congr 1
  funext r
  cases h : r.isValid <;> simp [Walk.afterStep, choosing, Run.ofExcept, h]

/-! ## One check -/

/-- The check with one expectation for its failures. The code of the check's own first failure
goes before the code of the expectation. -/
def replaced (e : Expectation) (c : Check) (x : Value) : Run Result := do
  let r ← c.run .plain x
  match r.expectations with
  | [] => .done r
  | first :: _ =>
    .done (.refusal r.value { e with value := x, code := firstNonEmpty first.code e.code } x)

/-- The check, whose failures are thrown and noted in the log. -/
def throwing (c : Check) (x : Value) : Run Result := do
  let r ← c.run .plain x
  if r.isValid then .done (.success r.value)
  else match r.thrown with
    | .validationFailed r =>
      .note (.logged ⟨.debug, "eskema.combinators", r.summary⟩) (.raised (.validationFailed r))
    | fault => .raised fault

/-! ## Context -/

/-- The result of a check that was used without an enclosing map. -/
def misuse (name : String) (x : Value) : Result :=
  .refusal x
    { message :=
        .str ("`" ++ name ++ "` validator can only be used inside an `eskema` map validator"),
      value := x, code := some Code.whenOutsideSchema.text }

/-- The result with the message of a choice for all failures. -/
def relabelled (message : Option Value) (x : Value) (r : Result) : Result :=
  match replacing? message, r.expectations with
  | some text, first :: _ => .refusal x { message := text, value := x, code := first.code }
  | _, _ => r

theorem isValid_relabelled (message : Option Value) (x : Value) (r : Result) :
    (relabelled message x r).isValid = r.isValid := by
  unfold relabelled
  split
  · next h => simp [Result.isValid, Result.refusal, h]
  · rfl

/-- One of two checks, chosen by whether the enclosing map passes a third one. -/
def conditional (message : Option Value) (condition thenBranch otherwise : Check) (site : Site)
    (x : Value) : Run Result :=
  match site.parent with
  | none => .done (misuse "when" x)
  | some parent => do
    let met ← condition.run .plain (.map parent)
    let r ← (if met.isValid then thenBranch else otherwise).run ⟨site.present, none⟩ x
    .done (relabelled message x r)

/-- A check chosen from the enclosing map. -/
def chosen (choose : Entries → Check) (site : Site) (x : Value) : Run Result :=
  match site.parent with
  | none => .done (misuse "resolve" x)
  | some parent => (choose parent).run ⟨site.present, none⟩ x

/-! ## Other values in place of the value -/

/-- Checks of the length of the value, which itself stays as it is. -/
def sized (message : Option Value) (bounds : List Check) (x : Value) : Run Result :=
  match x.size? with
  | none =>
    .done (.refusal x
      { message := messageOr message (.str "a value with a length"), value := x,
        code := some Code.typeMismatch.text,
        data := some [("expected", .str "sized"), ("found", .str x.kindName)] })
  | some size => do
    let r ← threaded none (.int size) bounds (.int size)
    .done ⟨x, r.expectations.map fun e =>
      { message := messageOr message (.str ("length " ++ e.message.display)), value := x,
        code := some Code.lengthOutOfRange.text, data := some [("length", .int size)] }, .null⟩

/-- The check on what a function makes of the value. -/
def after (fn : Value → Except Fault Value) (c : Check) (x : Value) : Run Result := do
  let y ← Run.ofExcept (fn x)
  c.run .plain y

/-- The check on the value found inside the value. -/
def pivoted (find : Value → Except Fault (Option Value)) (message : String) (c : Check)
    (x : Value) : Run Result := do
  match ← Run.ofExcept (find x) with
  | some y => c.run .plain y
  | none =>
    .done (.refusal x
      { message := .str message, value := x, code := some Code.missingKey.text })

def unconvertible (target : String) (x : Value) (problem : String) : Expectation :=
  { message := .str ("a value convertible to " ++ target), value := x,
    code := some Code.coercionFailed.text,
    data := some [("target", .str target), ("error", .str problem)] }

/-- The check on the converted value, if the guard accepts it. -/
def coerced (target : String) (guard : Check) (convert : Value → Except String Value) (c : Check)
    (x : Value) : Run Result := do
  let r ← guard.run .plain x
  if r.isValid then
    match convert x with
    | .ok y => c.run .plain y
    | .error problem => .done (.refusal x (unconvertible target x problem))
  else .done r

/-! ## Parts of the value -/

/-- Expectations one level further out: a message in place of theirs, a code where they have none,
and the segment in front of their place. -/
def outward (message : Option Value) (code : Code) (segment : String) (e : Expectation) :
    Expectation :=
  Expectation.under segment
    { e with message := messageOr message e.message, code := firstNonEmpty e.code code.text }

def keySegment (key : Value) : String := "." ++ key.display

/-- The segment of a path that leads to a key, which must be one that can be shown. -/
def segmentOf (key : Value) : Except Fault String := key.shownBy keySegment

theorem segmentOf_of_isShowable {key : Value} (h : key.isShowable = true) :
    segmentOf key = .ok (keySegment key) := if_pos h

theorem segmentOf_of_not_isShowable {key : Value} (h : key.isShowable = false) :
    segmentOf key = .error .tooManyDigits := if_neg (Bool.eq_false_iff.mp h)

/-- The segment of a path that leads to a place in a list. -/
def indexSegment (index : Nat) : String := "[" ++ Text.decimal index ++ "]"

/-- The result on a value with parts: the expectations of the parts, or the value as it is. -/
def wholeOf (x : Value) (es : List Expectation) : Result := ⟨x, es, .null⟩

/-- A part of a value: the segment of a path that leads to it, and the run of its check. -/
abbrev Part := String × Run Result

/-- The parts of a value in order. What is wrong with them is gathered with its place. -/
def inspecting (message : Option Value) (code : Code) (x : Value) :
    Walk Part (List Expectation) where
  visit part _ := part.2
  step part r es := .ok (.inr (es ++ r.expectations.map (outward message code part.1)))
  finish es := wholeOf x es

/-- The checks of the parts of a value. -/
def inspected (message : Option Value) (code : Code) (x : Value) (parts : List Part) : Run Result :=
  (inspecting message code x).start parts []

theorem inspecting_cons (message : Option Value) (code : Code) (x : Value) (part : Part)
    (parts : List Part) (es : List Expectation) :
    (inspecting message code x).start (part :: parts) es = part.2.bind fun r =>
      (inspecting message code x).start parts
        (es ++ r.expectations.map (outward message code part.1)) := by
  rw [Walk.start_cons]
  rfl

/-- The field of a map under a key. Its place is named before it is checked. -/
def fieldPart (entries : Entries) (key : Value) (c : Check) : Part :=
  (keySegment key, do
    let _ ← Run.ofExcept (segmentOf key)
    c.run ⟨entries.hasKey key, some entries⟩ ((entries.find? key).getD .null))

theorem fieldPart_of_isShowable {key : Value} (h : key.isShowable = true) (entries : Entries)
    (c : Check) : fieldPart entries key c =
      (keySegment key,
        c.run ⟨entries.hasKey key, some entries⟩ ((entries.find? key).getD .null)) := by
  rw [fieldPart, segmentOf_of_isShowable h]
  rfl

theorem fieldPart_of_not_isShowable {key : Value} (h : key.isShowable = false) (entries : Entries)
    (c : Check) : fieldPart entries key c = (keySegment key, .raised .tooManyDigits) := by
  rw [fieldPart, segmentOf_of_not_isShowable h]
  rfl

/-- A check for each key of a map. -/
def schema (message : Option Value) (checks : List (Value × Check)) (x : Value) : Run Result :=
  match x with
  | .map entries =>
    inspected message .mapFieldFailed x
      (checks.map fun (key, c) => fieldPart entries key c)
  | _ => .raised .wrongType

/-- The items of a list, each with the run that its place has for it. -/
def itemParts (runAt : Nat → Value → Run Result) (items : List Value) : List Part :=
  items.zipIdx.map fun (y, index) => (indexSegment index, runAt index y)

def everyItem (message : Option Value) (c : Check) (x : Value) : Run Result :=
  match x with
  | .list items =>
    inspected message .listItemFailed x (itemParts (fun _ y => c.run .plain y) items)
  | _ => .raised .wrongType

/-- The run of an item by the check of its place. An item without one cannot be checked. -/
def runAtPlace (checks : List Check) (index : Nat) (y : Value) : Run Result :=
  match checks[index]? with
  | some c => c.run .plain y
  | none => .raised (.indexOutOfRange "list")

def places (checks : List Check) (x : Value) : Run Result :=
  match x with
  | .list items => inspected none .listItemFailed x (itemParts (runAtPlace checks) items)
  | _ => .raised .wrongType

/-- The value under a key, which must be there. -/
def lookUp (key x : Value) : Except Fault Value :=
  match x with
  | .map entries => match Entries.find? entries key with
    | some y => .ok y
    | none => .error .keyMissing
  | _ => .error .wrongType

/-- The check on the value under a key. A failure is a failure of the whole map. -/
def onField (key : Value) (c : Check) (x : Value) : Run Result := do
  let y ← Run.ofExcept (lookUp key x)
  let r ← c.run .plain y
  if r.isValid then .done r
  else do
    let segment ← Run.ofExcept (segmentOf key)
    .done ⟨x, r.expectations.map (Expectation.under segment), .null⟩

/-- The check that is listed for a value; a value that can be no key has none. -/
def listedFor (y : Value) (cases : List (Value × Check)) : Option Check :=
  if y.isHashable then (cases.find? fun (key, _) => y.equals key).map (·.2) else none

/-- The expectation that a map has one of the listed values under a key. -/
def unknownCase (key : Value) (options : List Value) (x found : Value) : Expectation :=
  { message := .str "unknown type", value := x, path := some (keySegment key),
    code := some Code.noneMatched.text,
    data := some [("key", key), ("found", found), ("options", .list options)] }

/-- The check that is listed for the value under a key, on the whole map, which stays as it is. -/
def dispatched (key : Value) (cases : List (Value × Check)) (x : Value) : Run Result := do
  let y ← Run.ofExcept (lookUp key x)
  match listedFor y cases with
  | none => do
    let _ ← Run.ofExcept (segmentOf key)
    .done (.refusal x (unknownCase key (cases.map (·.1)) x y))
  | some c => do
    let r ← c.run .plain x
    .done (if r.isValid then .success x else r)

end Check
end Conform
