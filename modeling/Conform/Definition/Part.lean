import Conform.Run
import Conform.Structure

/-
  The parts of a definition. Every value in it is given what it means as a node, before anything
  is known about where it stands: a function from the path of the place to the run that makes the
  validator. A node then only chooses among its parts.
-/

namespace Conform.Definition

/-- A value of a definition with its meaning as a node and with its own parts. -/
structure Part where
  value : Value
  node : String → Run Validator
  items : List Part
  settings : List (Value × Part)

/-- The parts of a map by their keys. -/
abbrev Settings := List (Value × Part)

namespace Settings

/-- The part under a key. -/
def get? (s : Settings) (key : String) : Option Part :=
  (s.find? fun entry => (Value.str key).equals entry.1).map (·.2)

/-- The value under a key; the absent value if there is none. -/
def value (s : Settings) (key : String) : Value := ((s.get? key).map Part.value).getD .null

/-- Whether the value under a key counts as true. -/
def isOn (s : Settings) (key : String) : Bool := (s.value key).isTruthy

/-- The value under a key unless it is absent. -/
def value? (s : Settings) (key : String) : Option Value :=
  if (s.value key).isNull then none else some (s.value key)

/-- The name of the type that the settings give, in small letters. -/
def typeName (s : Settings) : String :=
  match s.get? "type" with
  | some p => String.ofList (Text.lower p.value.display.toList)
  | none => ""

end Settings

/-- The name of the type of a node; a part that is no map has none. -/
def Part.typeName (p : Part) : String :=
  match p.value with
  | .map _ => Settings.typeName p.settings
  | _ => ""

/-- A run that goes on only if the values can be shown. -/
def requireShowable (values : List Value) : Run Unit :=
  if values.all Value.isShowable then .done () else .raised .tooManyDigits

/-- A run that logs a record about a definition. -/
def log (level : LogLevel) (message : String) : Run Unit :=
  .note (.logged ⟨level, "eskema.factory", message⟩) (.done ())

/-- A run that ends because a definition describes no validator. -/
def reject {α : Type} (problem : DefinitionProblem) : Run α := .raised (.definition problem)

end Conform.Definition
