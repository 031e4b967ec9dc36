import Conform.Text.Decimal
import Conform.Yaml.Problem

/-
  The tokens of a document. Indentation opens and closes block lists and block maps; a scalar, a
  list or a map becomes a key when a colon follows it on its line. Anchors, tags, directives and
  block scalars are not supported. A text that cannot be cut further ends with a token that says
  why.
-/

namespace Conform.Yaml

open Text

inductive Token where
  | documentStart
  | documentEnd
  | blockList
  | blockMap
  | blockEnd
  | entry
  | key
  | value
  | openList
  | closeList
  | openMap
  | closeMap
  | comma
  | scalar (text : String) (plain : Bool)
  /-- The place from where on the text has no tokens. -/
  | flaw (problem : Problem)
deriving DecidableEq, Repr

/-- What may become a key: its place among the tokens and in the text, and whether nothing else is
possible where it stands. -/
structure KeyCandidate where
  position : Nat
  isRequired : Bool
  index : Nat
  line : Nat
  column : Nat

/-- How far a text has been read. -/
structure Cursor where
  rest : List Char
  index : Nat := 0
  line : Nat := 0
  column : Nat := 0

namespace Cursor

/-- Whether the character ends a line. -/
def isBreak (c : Char) : Bool :=
  c == '\n' || c == '\r' || c == '\u0085' || c == '\u2028' || c == '\u2029'

/-- Whether a token can end before the character; the end of the text is one. -/
def isBlankOrEnd : Option Char → Bool
  | none => true
  | some c => c == ' ' || c == '\t' || isBreak c

/-- The next character. -/
def peek (c : Cursor) : Option Char := c.rest.head?

/-- The character after a number of others. -/
def peekAt (c : Cursor) (n : Nat) : Option Char := (c.rest.drop n).head?

/-- The cursor after characters on the same line. A byte order mark takes up no column. -/
def forward (c : Cursor) (n : Nat) : Cursor :=
  { c with
    rest := c.rest.drop n
    index := c.index + n
    column := c.column + (c.rest.take n).countP (· != '\uFEFF') }

/-- The cursor after a line break, with the text that the break stands for. -/
def takeBreak (c : Cursor) : String × Cursor :=
  let after (n : Nat) : Cursor := ⟨c.rest.drop n, c.index + n, c.line + 1, 0⟩
  match c.rest with
  | '\r' :: '\n' :: _ => ("\n", after 2)
  | '\u2028' :: _ => ("\u2028", after 1)
  | '\u2029' :: _ => ("\u2029", after 1)
  | _ :: _ => ("\n", after 1)
  | [] => ("", c)

/-- Whether the next character ends a line. -/
def atBreak (c : Cursor) : Bool := c.peek.any isBreak

/-- The cursor after the characters of a class. -/
def skipWhile (c : Cursor) (accepts : Char → Bool) : Cursor :=
  c.forward (c.rest.takeWhile accepts).length

/-- Whether a mark for the start or the end of a document stands here. -/
def atDocumentMark (c : Cursor) : Bool :=
  let mark := c.rest.take 3
  (mark == ['-', '-', '-'] || mark == ['.', '.', '.']) && isBlankOrEnd (c.peekAt 3)

/-- The cursor after spaces, comments and line breaks, and whether a line break was among them. -/
def skipToToken : Nat → Cursor → Bool → Cursor × Bool
  | 0, c, broken => (c, broken)
  | fuel + 1, c, broken =>
    let c := c.skipWhile (· == ' ')
    let c := if c.peek == some '#' then c.skipWhile (!isBreak ·) else c
    if c.atBreak then skipToToken fuel c.takeBreak.2 true else (c, broken)

/-! ## Scalars in quotes -/

/-- The characters that letters after a backslash stand for. -/
def escapes : List (Char × Char) := [
  ('0', '\x00'), ('a', '\x07'), ('b', '\x08'), ('t', '\t'), ('\t', '\t'), ('n', '\n'),
  ('v', '\x0b'), ('f', '\x0c'), ('r', '\r'), ('e', '\x1b'), (' ', ' '), ('"', '"'),
  ('\\', '\\'), ('/', '/'), ('N', '\u0085'), ('_', '\u00a0'), ('L', '\u2028'), ('P', '\u2029')]

/-- The number of hexadecimal digits after a letter after a backslash. -/
def escapeLength? (c : Char) : Option Nat :=
  match c with
  | 'x' => some 2
  | 'u' => some 4
  | 'U' => some 8
  | _ => none

/-- The line breaks after a line break inside quotes, blanks being passed over. No document may end
there. -/
def quotedBreaks : Nat → Cursor → Except Problem (List String × Cursor)
  | 0, c => .ok ([], c)
  | fuel + 1, c =>
    if c.atDocumentMark then .error .malformed
    else
      let c := c.skipWhile fun d => d == ' ' || d == '\t'
      if c.atBreak then
        let (text, c) := c.takeBreak
        (quotedBreaks fuel c).map fun (texts, c) => (text :: texts, c)
      else .ok ([], c)

/-- The text that a line break and the breaks after it stand for: one break is a space. -/
def foldedBreak (first : String) (others : List String) : String :=
  (if first != "\n" then first else if others.isEmpty then " " else "") ++ String.join others

/-- The character that hexadecimal digits give. -/
def escapedChar (digits : List Nat) : Except Problem Char :=
  let code := numberOf 16 digits
  if code < 0x110000 then .ok (Char.ofNat code)
  else if code < Nat.pow 2 31 then .error .noCharacter
  else .error .numberTooLarge

/-- The text up to the closing quote, and the cursor after it. -/
def quotedText (double : Bool) : Nat → Cursor → Except Problem (String × Cursor)
  | 0, _ => .error .malformed
  | fuel + 1, c =>
    let continueWith (text : String) (c : Cursor) : Except Problem (String × Cursor) :=
      (quotedText double fuel c).map fun (rest, c) => (text ++ rest, c)
    match c.rest with
    | [] => .error .malformed
    | '\x27' :: '\x27' :: _ =>
      if double then continueWith "'" (c.forward 1) else continueWith "'" (c.forward 2)
    | '\x27' :: _ => if double then continueWith "'" (c.forward 1) else .ok ("", c.forward 1)
    | '"' :: _ => if double then .ok ("", c.forward 1) else continueWith "\"" (c.forward 1)
    | '\\' :: d :: more =>
      if !double then continueWith "\\" (c.forward 1)
      else match escapes.find? (·.1 == d), escapeLength? d with
        | some (_, e), _ => continueWith (String.singleton e) (c.forward 2)
        | none, some count =>
          match (more.take count).mapM hexValue? with
          | some digits =>
            if digits.length = count then do
              let e ← escapedChar digits
              continueWith (String.singleton e) (c.forward (2 + count))
            else .error .malformed
          | none => .error .malformed
        | none, none =>
          if isBreak d then do
            let (texts, c) ← quotedBreaks (c.rest.length + 1) (c.forward 1).takeBreak.2
            continueWith (String.join texts) c
          else .error .malformed
    | '\\' :: _ => if double then .error .malformed else continueWith "\\" (c.forward 1)
    | d :: _ =>
      if d == ' ' || d == '\t' then
        let gap := c.rest.takeWhile fun d => d == ' ' || d == '\t'
        let after := c.forward gap.length
        if after.atBreak then continueWith "" after
        else continueWith (String.ofList gap) after
      else if isBreak d then do
        let (first, c) := c.takeBreak
        let (others, c) ← quotedBreaks (c.rest.length + 1) c
        continueWith (foldedBreak first others) c
      else continueWith (String.singleton d) (c.forward 1)

/-! ## Scalars without quotes -/

/-- The number of characters up to the end of a piece of a scalar without quotes. -/
def plainLength (inFlow : Bool) : List Char → Nat
  | [] => 0
  | d :: rest =>
    let ends := isBlankOrEnd (some d)
      || (d == ':' && (isBlankOrEnd rest.head?
        || (inFlow && rest.head?.any fun e => ",[]\x7b\x7d".toList.contains e)))
      || (inFlow && ",?[]\x7b\x7d".toList.contains d)
    if ends then 0 else plainLength inFlow rest + 1

/-- The breaks after a line break in a scalar without quotes, spaces being passed over, and whether
a document ends there. -/
def plainBreaks : Nat → Cursor → List String × Bool × Cursor
  | 0, c => ([], false, c)
  | fuel + 1, c =>
    let c := c.skipWhile (· == ' ')
    if c.atBreak then
      let (text, c) := c.takeBreak
      if c.atDocumentMark then ([text], true, c)
      else
        let (texts, ended, c) := plainBreaks fuel c
        (text :: texts, ended, c)
    else ([], false, c)

/-- The text between two pieces of a scalar without quotes, whether a line break is in it, and the
cursor after it. -/
def plainGap (c : Cursor) : String × Bool × Cursor :=
  let spaces := c.rest.takeWhile (· == ' ')
  let c := c.forward spaces.length
  if c.atBreak then
    let (first, c) := c.takeBreak
    if c.atDocumentMark then ("", true, c)
    else
      let (others, ended, c) := plainBreaks (c.rest.length + 1) c
      (if ended then "" else foldedBreak first others, true, c)
  else (String.ofList spaces, false, c)

/-- The scalar without quotes that starts here, indented at least as given, whether the text after
it starts a line, and the cursor after it. -/
def plainText (inFlow : Bool) (indent : Int) : Nat → String → Bool → Cursor → String × Bool × Cursor
  | 0, _, broken, c => ("", broken, c)
  | fuel + 1, gap, broken, c =>
    let count := if c.peek == some '#' then 0 else plainLength inFlow c.rest
    if count = 0 then ("", broken, c)
    else
      let piece := gap ++ String.ofList (c.rest.take count)
      let (gap, broken, c) := (c.forward count).plainGap
      if gap == "" || c.peek == some '#' || (!inFlow && (c.column : Int) < indent) then
        (piece, broken, c)
      else
        let (rest, broken, c) := plainText inFlow indent fuel gap broken c
        (piece ++ rest, broken, c)

end Cursor

/-- A text in the course of being cut into tokens. -/
structure Scan where
  cursor : Cursor
  tokens : Array Token := #[]
  /-- The columns of the open blocks, the innermost one first. -/
  indents : List Int := []
  /-- The number of open brackets and braces. -/
  depth : Int := 0
  /-- Whether a key may start here. -/
  mayStartKey : Bool := true
  /-- What may become a key, for each number of open brackets. -/
  candidates : List (Int × KeyCandidate) := []

namespace Scan

/-- The column of the innermost block; none is open left of the text. -/
def indent (s : Scan) : Int := s.indents.head?.getD (-1)

/-- Whether brackets are open. -/
def inFlow (s : Scan) : Bool := s.depth != 0

/-- The scan with one token more. -/
def push (t : Token) (s : Scan) : Scan := { s with tokens := s.tokens.push t }

/-- The scan with the blocks closed that lie further right than the column. -/
def closeBlocks (s : Scan) (column : Int) : Scan :=
  if s.inFlow then s
  else
    let closed := s.indents.takeWhile (column < ·)
    { s with
      indents := s.indents.drop closed.length
      tokens := s.tokens ++ (closed.map fun _ => Token.blockEnd).toArray }

/-- The scan without candidates that are too far back. None of them may have had to be a key. -/
def dropStale (s : Scan) : Except Problem Scan :=
  let isStale (k : KeyCandidate) : Bool :=
    k.line != s.cursor.line || 1024 < s.cursor.index - k.index
  if s.candidates.any fun (_, k) => isStale k && k.isRequired then .error .malformed
  else .ok { s with candidates := s.candidates.filter fun (_, k) => !isStale k }

/-- The scan without a candidate at this depth. It may not have had to be a key. -/
def dropCandidate (s : Scan) : Except Problem Scan :=
  if s.candidates.any fun (depth, k) => depth == s.depth && k.isRequired then .error .malformed
  else .ok { s with candidates := s.candidates.filter (·.1 != s.depth) }

/-- The scan with what starts here as a candidate, if a key may start here. -/
def addCandidate (s : Scan) : Except Problem Scan :=
  if s.mayStartKey then do
    let c := s.cursor
    let required := !s.inFlow && s.indent == c.column
    let s ← s.dropCandidate
    pure { s with
      candidates := (s.depth, ⟨s.tokens.size, required, c.index, c.line, c.column⟩)
        :: s.candidates }
  else .ok s

/-- The scan with a block opened at a column that lies further right than the innermost one. The
token for it is put at the given place among the tokens. -/
def openBlock (t : Token) (column : Int) (place : Nat) (s : Scan) : Scan :=
  if s.indent < column then
    { s with
      indents := column :: s.indents
      tokens := (s.tokens.toList.take place ++ t :: s.tokens.toList.drop place).toArray }
  else s

/-- The start of a list or a map in brackets. -/
def openFlow (t : Token) (s : Scan) : Except Problem Scan := do
  let s ← s.addCandidate
  let s := s.push t
  pure { s with depth := s.depth + 1, mayStartKey := true, cursor := s.cursor.forward 1 }

/-- The end of a list or a map in brackets. -/
def closeFlow (t : Token) (s : Scan) : Except Problem Scan := do
  let s ← s.dropCandidate
  let s := s.push t
  pure { s with depth := s.depth - 1, mayStartKey := false, cursor := s.cursor.forward 1 }

/-- A comma between brackets. -/
def addComma (s : Scan) : Except Problem Scan := do
  let s ← s.dropCandidate
  pure { s.push .comma with mayStartKey := true, cursor := s.cursor.forward 1 }

/-- The hyphen in front of an item of a block list. -/
def addEntry (s : Scan) : Except Problem Scan := do
  if !s.inFlow && !s.mayStartKey then .error .malformed
  else
    let s := if s.inFlow then s else s.openBlock .blockList s.cursor.column s.tokens.size
    let s ← s.dropCandidate
    pure { s.push .entry with mayStartKey := true, cursor := s.cursor.forward 1 }

/-- The mark in front of a key that is no candidate. -/
def addKey (s : Scan) : Except Problem Scan := do
  if !s.inFlow && !s.mayStartKey then .error .malformed
  else
    let s := if s.inFlow then s else s.openBlock .blockMap s.cursor.column s.tokens.size
    let s ← s.dropCandidate
    pure { s.push .key with mayStartKey := !s.inFlow, cursor := s.cursor.forward 1 }

/-- The colon after a key. -/
def addValue (s : Scan) : Except Problem Scan := do
  match s.candidates.find? (·.1 == s.depth) with
  | some (_, k) =>
    let tokens := (s.tokens.toList.take k.position ++ Token.key
      :: s.tokens.toList.drop k.position).toArray
    let s := { s with tokens := tokens, candidates := s.candidates.filter (·.1 != s.depth) }
    let s := if s.inFlow then s else s.openBlock .blockMap k.column k.position
    pure { s.push .value with mayStartKey := false, cursor := s.cursor.forward 1 }
  | none =>
    if !s.inFlow && !s.mayStartKey then .error .malformed
    else
      let s := if s.inFlow then s else s.openBlock .blockMap s.cursor.column s.tokens.size
      let s ← s.dropCandidate
      pure { s.push .value with mayStartKey := !s.inFlow, cursor := s.cursor.forward 1 }

def addQuoted (double : Bool) (s : Scan) : Except Problem Scan := do
  let s ← s.addCandidate
  let (text, c) ← Cursor.quotedText double (s.cursor.rest.length + 1) (s.cursor.forward 1)
  pure { s.push (.scalar text false) with mayStartKey := false, cursor := c }

/-- A scalar without quotes. -/
def addPlain (s : Scan) : Except Problem Scan := do
  let s ← s.addCandidate
  let (text, broken, c) :=
    Cursor.plainText s.inFlow (s.indent + 1) (s.cursor.rest.length + 1) "" false s.cursor
  pure { s.push (.scalar text true) with mayStartKey := broken, cursor := c }

/-- A mark for the start or the end of a document. -/
def addMark (t : Token) (s : Scan) : Except Problem Scan := do
  let s ← (s.closeBlocks (-1)).dropCandidate
  pure { s.push t with mayStartKey := false, cursor := s.cursor.forward 3 }

/-- Whether a scalar without quotes can start with the next characters. -/
def startsPlain (s : Scan) (d : Char) : Bool :=
  let next := s.cursor.peekAt 1
  !(Cursor.isBlankOrEnd (some d) || "-?:,[]\x7b\x7d#&*!|>\x27\"%@\x60".toList.contains d)
    || (!Cursor.isBlankOrEnd next && (d == '-' || (!s.inFlow && (d == '?' || d == ':'))))

/-- The scan with the next token, which starts with the given character. -/
def addToken (d : Char) (s : Scan) : Except Problem Scan :=
  let next := s.cursor.peekAt 1
  if s.cursor.column == 0 && s.cursor.atDocumentMark then
    s.addMark (if d == '-' then .documentStart else .documentEnd)
  else match d with
    | '[' => s.openFlow .openList
    | '\x7b' => s.openFlow .openMap
    | ']' => s.closeFlow .closeList
    | '\x7d' => s.closeFlow .closeMap
    | ',' => s.addComma
    | '\x27' => s.addQuoted false
    | '"' => s.addQuoted true
    | d =>
      if d == '-' && Cursor.isBlankOrEnd next then s.addEntry
      else if d == '?' && (s.inFlow || Cursor.isBlankOrEnd next) then s.addKey
      else if d == ':' && (s.inFlow || Cursor.isBlankOrEnd next) then s.addValue
      else if s.startsPlain d then s.addPlain
      else .error .malformed

/-- The scan with the tokens up to the next one, and whether the text ends there. -/
def advance (s : Scan) : Except Problem (Scan × Bool) := do
  let (c, broken) := Cursor.skipToToken (s.cursor.rest.length + 1) s.cursor false
  let s := { s with cursor := c, mayStartKey := s.mayStartKey || (broken && !s.inFlow) }
  let s ← s.dropStale
  match s.cursor.peek with
  | none =>
    let s ← (s.closeBlocks (-1)).dropCandidate
    pure (s, true)
  | some d =>
    let s ← (s.closeBlocks s.cursor.column).addToken d
    pure (s, false)

/-- The tokens that are certain: no token for a key can be put in front of them any more. -/
def settled (s : Scan) : List Token :=
  match s.dropStale with
  | .error _ => []
  | .ok s => s.tokens.toList.take
    (s.candidates.foldl (fun n candidate => min n candidate.2.position) s.tokens.size)

/-- The tokens of the whole text, or the settled ones before a flaw. -/
def finish : Nat → Scan → List Token
  | 0, s => s.settled ++ [.flaw .malformed]
  | fuel + 1, s =>
    match s.advance with
    | .error problem => s.settled ++ [.flaw problem]
    | .ok (s, true) => s.tokens.toList
    | .ok (s, false) => finish fuel s

end Scan

/-- Whether the character may stand in a document. -/
def isAllowed (c : Char) : Bool :=
  c == '\t' || c == '\n' || c == '\r' || (' ' ≤ c && c ≤ '~') || c == '\u0085'
    || ('\u00a0' ≤ c && c.toNat ≤ 0xFFFD) || 0x10000 ≤ c.toNat

def Token.ofText (text : String) : List Token :=
  let chars := text.toList
  let chars := if chars.head? == some '\uFEFF' then chars.tail else chars
  if chars.all isAllowed then Scan.finish (chars.length + 1) { cursor := { rest := chars } }
  else [.flaw .malformed]

end Conform.Yaml
