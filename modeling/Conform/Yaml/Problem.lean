import Conform.Calendar.Date

/-
  What can be wrong with a document. Most documents without a value have a broken form; the others
  name a number, a day or a character that cannot be.
-/

namespace Conform.Yaml

/-- Why a document has no value. -/
inductive Problem where
  /-- The form is broken. -/
  | malformed
  /-- A whole number has too many decimal digits. -/
  | tooManyDigits (count : Nat)
  /-- A whole number has no digits after the mark for its base. -/
  | noDigits (base : Nat)
  /-- A number is too large for the operation that needs it. -/
  | numberTooLarge
  /-- A day or a time has a number out of range. -/
  | calendar (error : CalendarError)
  /-- The code in an escape is greater than that of any character. -/
  | noCharacter
deriving DecidableEq, Repr

end Conform.Yaml
