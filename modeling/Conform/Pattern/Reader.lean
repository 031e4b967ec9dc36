import Conform.Pattern.Reading

/-
  Patterns read from their written form: characters, classes, places, groups of all kinds,
  references to groups, conditions, alternatives, repetitions, comments, and flags for the whole
  pattern or for a group. The one construct that is refused is a character given by its name.
-/

namespace Conform.Pattern

open Text

def sequenceOf : List Pattern → Pattern
  | [] => .empty
  | [p] => p
  | p :: ps => .sequence p (sequenceOf ps)

/-- The terms of a sequence as one pattern, where they are given last one first. -/
def patternOf (terms : List Term) : Pattern := sequenceOf (terms.reverse.map Term.pattern)

/-- What follows a space or a comment, which may stand between the parts in some modes. -/
def skipSpacing? (mode : Mode) (text : List Char) : Option (List Char) :=
  match mode.spaced, text with
  | true, '#' :: rest => some (afterComment '\n' rest)
  | true, c :: rest => if CharKind.blank.holds true c then some rest else none
  | _, _ => none

mutual

/-- Alternatives up to a closing parenthesis or the end, and the rest. -/
def readChoice : Nat → Bool → Mode → Reading → List Char →
    Except Problem (Pattern × Reading × List Char)
  | 0, _, _, _, _ => .error .malformed
  | fuel + 1, isWhole, mode, reading, text => do
    let (terms, reading, rest) ← readTerms fuel isWhole mode reading [] text
    match rest with
    | '|' :: rest => do
      let mode := if isWhole then reading.mode else mode
      let (q, reading, rest) ← readOthers fuel mode reading rest
      pure (.choice (patternOf terms) q, reading, rest)
    | rest => pure (patternOf terms, reading, rest)

/-- The alternatives after the first one. -/
def readOthers : Nat → Mode → Reading → List Char → Except Problem (Pattern × Reading × List Char)
  | 0, _, _, _ => .error .malformed
  | fuel + 1, mode, reading, text => do
    let (terms, reading, rest) ← readTerms fuel false mode reading [] text
    match rest with
    | '|' :: rest => do
      let (q, reading, rest) ← readOthers fuel mode reading rest
      pure (.choice (patternOf terms) q, reading, rest)
    | rest => pure (patternOf terms, reading, rest)

/-- The terms of a sequence, last one first, those read so far being given, and the rest. Flags
for the whole pattern stand only at its start. -/
def readTerms : Nat → Bool → Mode → Reading → List Term → List Char →
    Except Problem (List Term × Reading × List Char)
  | 0, _, _, _, _, _ => .error .malformed
  | fuel + 1, mayFlag, mode, reading, terms, text =>
    let more := fun reading (term : Term) rest =>
      readTerms fuel mayFlag mode reading (term :: terms) rest
    match skipSpacing? mode text, text with
    | some rest, _ => readTerms fuel mayFlag mode reading terms rest
    | none, [] => .ok (terms, reading, [])
    | none, '|' :: rest => .ok (terms, reading, '|' :: rest)
    | none, ')' :: rest => .ok (terms, reading, ')' :: rest)
    | none, '(' :: rest => do
      let (opening, rest) ← wellFormed (readOpening rest)
      match opening with
      | .comment => readTerms fuel mayFlag mode reading terms rest
      | .flags on =>
        if mayFlag && terms.isEmpty then
          let reading := reading.setFlags on
          readTerms fuel mayFlag reading.mode reading terms rest
        else .error .malformed
      | .again name => do
        let term ← wellFormed ((reading.numberOf? name).bind (reading.refer? mode))
        more reading term rest
      | .condition name => do
        let number ← wellFormed (reading.conditionOf? name)
        let reading ← wellFormed (reading.ask? number)
        let (p, q, reading, rest) ← readBranches fuel mode reading rest
        more reading ⟨.ifGroup number p q, .piece⟩ rest
      | .group kind => do
        let inside ← wellFormed (kind.enter? reading)
        let (p, inside, rest) ← readContents fuel (kind.mode mode) inside rest
        let (term, reading) := kind.leave reading inside p
        more reading term rest
    | none, '[' :: rest => do
      let (term, rest) ← wellFormed (readClass mode rest)
      more reading term rest
    | none, '\\' :: rest => do
      match ← wellFormed (readEscape mode rest) with
      | (.term term, rest) => more reading term rest
      | (.again number, rest) =>
        let term ← wellFormed (reading.refer? mode number)
        more reading term rest
    | none, '.' :: rest => more reading ⟨.any mode.breaks, .piece⟩ rest
    | none, '^' :: rest => more reading ⟨.lineStart mode.everyLine, .place⟩ rest
    | none, '$' :: rest => more reading ⟨.lineEnd mode.everyLine, .place⟩ rest
    | none, c :: rest =>
      match takeQuantifier (c :: rest) with
      | some (count, rest) => do
        let (preference, rest) := takePreference rest
        let terms ← wellFormed (repeatLast (← count) preference terms)
        readTerms fuel mayFlag mode { reading with repeats := true } terms rest
      | none => more reading ⟨.char mode.casing c, .piece⟩ rest

/-- The one or two branches of a condition up to its closing parenthesis, and the rest. -/
def readBranches : Nat → Mode → Reading → List Char →
    Except Problem (Pattern × Pattern × Reading × List Char)
  | 0, _, _, _ => .error .malformed
  | fuel + 1, mode, reading, text => do
    let (first, reading, rest) ← readTerms fuel false mode reading [] text
    let (second, reading, rest) ← match rest with
      | '|' :: rest => readTerms fuel false mode reading [] rest
      | rest => pure ([], reading, rest)
    match rest with
    | ')' :: rest => pure (patternOf first, patternOf second, reading, rest)
    | _ => .error .malformed

/-- The contents of a group up to its closing parenthesis, and the rest. -/
def readContents : Nat → Mode → Reading → List Char →
    Except Problem (Pattern × Reading × List Char)
  | 0, _, _, _ => .error .malformed
  | fuel + 1, mode, reading, text => do
    let (p, reading, rest) ← readChoice fuel false mode reading text
    match rest with
    | ')' :: rest => pure (p, reading, rest)
    | _ => .error .malformed

end

/-- The pattern with the given written form. At most four steps in a row use up no character, so
four times the length is fuel enough. -/
def read (source : String) : Except Problem Pattern := do
  let text := source.toList
  let (p, reading, rest) ← readChoice (4 * text.length + 4) true {} {} text
  match reading.problem? rest with
  | some problem => .error problem
  | none => pure p

end Conform.Pattern
