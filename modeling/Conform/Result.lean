import Conform.Expectation

/-
  Results of a validation: the value as it came out, the expectations it did not meet and the
  value as it went in, where that is known. A result is valid exactly when it carries no
  expectation.
-/

namespace Conform

/-- The outcome of a validation. -/
structure Result where
  value : Value
  expectations : List Expectation := []
  given : Value := .null
deriving Inhabited, Repr

namespace Result

/-- Whether nothing was found wrong. -/
def isValid (r : Result) : Bool := r.expectations.isEmpty

/-- A valid result. -/
def success (value : Value) (given : Value := .null) : Result := ⟨value, [], given⟩

/-- An invalid result with one expectation. -/
def refusal (value : Value) (e : Expectation) (given : Value := .null) : Result :=
  ⟨value, [e], given⟩

/-- Both results in one: the expectations of both, and the second value if the second result is
valid. -/
def merge (r s : Result) : Result :=
  ⟨if s.isValid then s.value else r.value, r.expectations ++ s.expectations, r.given⟩

/-- The result with the function applied to every expectation. -/
def mapExpectations (f : Expectation → Expectation) (r : Result) : Result :=
  { r with expectations := r.expectations.map f }

/-- The result with one expectation for all of its own if the message replaces them: it keeps the
code of the first one. -/
def override (message : Option Value) (r : Result) : Result :=
  match replacing? message, r.expectations with
  | some text, first :: _ =>
    refusal r.value { message := text, value := r.value, code := first.code } r.given
  | _, _ => r

def toMap (r : Result) : Value :=
  .map [(.str "valid", .bool r.isValid), (.str "value", r.value),
    (.str "expectations", .list (r.expectations.map Expectation.toMap))]

@[simp] theorem isValid_success (x given : Value) : (success x given).isValid = true := rfl

@[simp] theorem isValid_refusal (x : Value) (e : Expectation) (given : Value) :
    (refusal x e given).isValid = false := rfl

theorem isValid_iff {r : Result} : r.isValid = true ↔ r.expectations = [] := by
  simp [isValid]

@[simp] theorem isValid_merge (r s : Result) :
    (r.merge s).isValid = (r.isValid && s.isValid) := by
  cases h : r.expectations <;> simp [merge, isValid, h]

@[simp] theorem isValid_mapExpectations (f : Expectation → Expectation) (r : Result) :
    (r.mapExpectations f).isValid = r.isValid := by
  cases r with
  | mk value expectations given => cases expectations <;> rfl

@[simp] theorem isValid_override (message : Option Value) (r : Result) :
    (r.override message).isValid = r.isValid := by
  unfold override
  split
  · next h => simp [isValid, refusal, h]
  · rfl

theorem override_of_none {message : Option Value} (h : replacing? message = none) (r : Result) :
    r.override message = r := by
  rw [override, h]

/-- A message takes the place of all expectations; the code is that of the first one. -/
theorem expectations_override {message : Option Value} {text : Value}
    (h : replacing? message = some text) {r : Result} {first : Expectation}
    {rest : List Expectation} (hr : r.expectations = first :: rest) :
    (r.override message).expectations =
      [{ message := text, value := r.value, code := first.code }] := by
  rw [override, h, hr]
  rfl

end Result
end Conform
