import Conform.Json.Printer

/-
  Values as they appear in messages: the way they would stand in a JSON document where that is
  possible, and otherwise their display or their literal.
-/

namespace Conform.Value

/-- The value as JSON, or its literal if it has no form. -/
def jsonOrLiteral (x : Value) : String :=
  match Json.write Json.readable x with
  | .ok text => text
  | .error _ => x.literal

/-- The value as it appears in a message. -/
def pretty : Value → String
  | .null => "null"
  | .bool b => if b then "true" else "false"
  | .str s => "\"" ++ s ++ "\""
  | .list xs => (Value.list xs).jsonOrLiteral
  | .tuple xs => (Value.tuple xs).jsonOrLiteral
  | .map entries => (Value.map entries).jsonOrLiteral
  | x => x.display

end Conform.Value
