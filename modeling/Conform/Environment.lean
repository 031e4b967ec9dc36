import Conform.Fault

/-
  What the library is given from outside: the compiler of regular expressions and the reader of
  documents. Nothing is assumed of either, so that whatever is said of validators and definitions
  holds with all of them.
-/

namespace Conform

/-- Why a text holds no document. -/
inductive DocumentProblem where
  /-- The form is broken. -/
  | malformed
  /-- The form is sound, but a part of it has no value. -/
  | fault (f : Fault)
deriving Repr

/-- What the library is given from outside. -/
class Environment where
  /-- What an expression finds in a text, by its written form, which not every text is. -/
  compile : String → Except Fault (String → Bool)
  /-- The value of the document in a text. -/
  readDocument : String → Except DocumentProblem Value

/-- A compiled expression with its written form. -/
inductive Expression where
  /-- An expression that describes pieces of text. -/
  | text (source : String) (occursIn : String → Bool)
  /-- An expression that describes pieces of bytes. It cannot be looked for in a text. -/
  | bytes (source : List UInt8)

namespace Expression

/-- The written form. -/
def source : Expression → Value
  | .text source _ => .str source
  | .bytes source => .bytes source

def occursIn : Expression → String → Except Fault Bool
  | .text _ occursIn, s => .ok (occursIn s)
  | .bytes _, _ => .error .wrongType

end Expression

/-- An expression as it is given: written, or compiled already. -/
inductive GivenExpression where
  | written (source : String)
  | compiled (e : Expression)

namespace GivenExpression

/-- The written form. -/
def source : GivenExpression → Value
  | .written source => .str source
  | .compiled e => e.source

def compile [Environment] : GivenExpression → Except Fault Expression
  | .written source => (Environment.compile source).map (.text source)
  | .compiled e => .ok e

theorem source_of_compile [Environment] {given : GivenExpression} {e : Expression}
    (h : given.compile = .ok e) : e.source = given.source := by
  cases given with
  | written source =>
    obtain ⟨occursIn, -, rfl⟩ := exists_of_map_eq_ok h
    rfl
  | compiled e' =>
    obtain rfl := Except.ok.inj h
    rfl

end GivenExpression
end Conform
