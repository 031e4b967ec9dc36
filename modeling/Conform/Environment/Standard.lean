import Conform.Conversion.Parsing
import Conform.Environment
import Conform.Pattern.Matching
import Conform.Pattern.Reader
import Conform.Yaml.Content

/-
  One environment that can be run: the patterns and the documents that this library can read
  itself. Of patterns it refuses characters that are given by their names, and of documents block
  scalars, references and tags.
-/

namespace Conform

def Pattern.Problem.toFault : Pattern.Problem → Fault
  | .malformed => .badPattern
  | .tooOften => .numberTooLarge
  | .tooManyDigits count => .badScalar (Text.tooManyDigitsMessage (some count))
  | .twoAlphabets => .badScalar "ASCII and UNICODE flags are incompatible"

def Yaml.Problem.toDocumentProblem : Yaml.Problem → DocumentProblem
  | .malformed => .malformed
  | .tooManyDigits count => .fault (.badScalar (Text.tooManyDigitsMessage (some count)))
  | .noDigits base =>
    .fault (.badScalar ("invalid literal for int() with base " ++ Text.decimal base ++ ": ''"))
  | .numberTooLarge => .fault .numberTooLarge
  | .calendar error => .fault (.badScalar (Conversion.calendarMessage error))
  | .noCharacter => .fault (.badScalar "chr() arg not in range(0x110000)")

/-- The environment with the readers of this library. -/
@[reducible] def Environment.standard : Environment where
  compile source := ((Pattern.read source).mapError Pattern.Problem.toFault).map Pattern.occursIn
  readDocument text := (Yaml.read text).mapError Yaml.Problem.toDocumentProblem

end Conform
