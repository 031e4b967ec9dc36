import Conform.Text.Blank
import Conform.Text.Case
import Conform.Text.DecimalDigit
import Conform.Text.WordChar

/-
  Patterns: expressions that describe pieces of text. Digits, blanks and word characters are those
  of every script, or those of ASCII alone where a pattern asks for that. A character that ignores
  case matches every form of the same letter. Groups remember what they matched last, and later
  parts of a pattern can ask for it again.
-/

namespace Conform

/-- Which characters count as the same. -/
inductive Casing where
  | exact
  /-- The two forms of an ASCII letter. -/
  | ascii
  /-- All forms of a letter of any script. -/
  | letters
deriving DecidableEq, Repr

/-- A kind of characters. -/
inductive CharKind where
  | digit
  | blank
  | word
deriving DecidableEq, Repr

/-- A member of a class of characters. -/
inductive ClassItem where
  /-- A range without characters if it ends before it starts. -/
  | range (first last : Char)
  | kind (k : CharKind) (ascii negated : Bool)
deriving DecidableEq, Repr

/-- An expression that describes pieces of text. -/
inductive Pattern where
  /-- The empty piece. -/
  | empty
  | char (casing : Casing) (c : Char)
  /-- Any character, line breaks only if they are allowed. -/
  | any (breaks : Bool)
  | oneOf (casing : Casing) (negated : Bool) (items : List ClassItem)
  /-- The start of the text, or of a line. -/
  | lineStart (everyLine : Bool)
  /-- The end of the text or the place before its final line break, or the end of a line. -/
  | lineEnd (everyLine : Bool)
  | textStart
  | textEnd
  /-- The start or the end of a word, or a place that is neither. -/
  | wordEdge (ascii negated : Bool)
  | sequence (p q : Pattern)
  /-- The first pattern if it leads to a match of all, else the second one. -/
  | choice (p q : Pattern)
  /-- As many pieces as lead to a match of all, or as few. -/
  | repeated (p : Pattern) (least : Nat) (most : Option Nat) (few : Bool)
  /-- A numbered group, which remembers the piece. -/
  | group (number : Nat) (p : Pattern)
  /-- The piece that a group remembers, once more. -/
  | again (casing : Casing) (number : Nat)
  /-- The first piece that is found. What follows must match behind it and behind no other. -/
  | atomic (p : Pattern)
  /-- A place where a piece starts, or where none does. -/
  | ahead (negated : Bool) (p : Pattern)
  /-- A place so many characters before which a piece starts, or none does. -/
  | behind (negated : Bool) (width : Nat) (p : Pattern)
  /-- One pattern if a group remembers a piece, the other one if it does not. -/
  | ifGroup (number : Nat) (p q : Pattern)
deriving DecidableEq, Repr

namespace CharKind

open Text

/-- Whether the character is of the kind, ASCII characters alone being so if that is asked for. -/
def holds (ascii : Bool) : CharKind → Char → Bool
  | .digit, c => if ascii then c.isDigit else isDecimalDigit c
  | .blank, c => if ascii then c == ' ' || (0x09 ≤ c.toNat && c.toNat ≤ 0x0D) else isBlank c
  | .word, c => if ascii then c == '_' || c.isAlphanum else isWordChar c

end CharKind

namespace Casing

open Text

/-- The characters that become the given small one. -/
def capitalsOf (small : Char) : List Char :=
  (if small.isLower then [small.toUpper] else []) ++
    lowerRuns.filterMap fun run =>
      let code := ((small.toNat : Int) - run.shift).toNat
      if run.covers code && run.target code == small.toNat then some (Char.ofNat code) else none

/-- The small form of the character, or the character itself. -/
def small : Casing → Char → Char
  | .exact, c => c
  | .ascii, c => c.toLower
  | .letters, c => lowerChar c

/-- Whether two characters count as the same. -/
def same : Casing → Char → Char → Bool
  | .exact, c, d => c == d
  | .ascii, c, d => c.toLower == d.toLower
  | .letters, c, d => (caseClass (lowerChar c)).contains (lowerChar d)

/-- Every character that counts as the given one. -/
def forms : Casing → Char → List Char
  | .exact, c => [c]
  | .ascii, c => [c.toLower, c.toUpper]
  | .letters, c => (caseClass (lowerChar c)).flatMap fun small => small :: capitalsOf small

end Casing

/-- Whether the character, or one that counts as it, belongs to the item. -/
def ClassItem.holds (casing : Casing) (item : ClassItem) (c : Char) : Bool :=
  match item with
  | .range first last => (casing.forms c).any fun d => first ≤ d && d ≤ last
  | .kind k ascii negated => k.holds ascii (casing.small c) != negated

def Pattern.classHolds (casing : Casing) (negated : Bool) (items : List ClassItem) (c : Char) :
    Bool :=
  items.any (fun item => item.holds casing c) != negated

end Conform
