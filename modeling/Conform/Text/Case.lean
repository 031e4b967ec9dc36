import Conform.Text.CaseTable

/-
  Small and capital forms of text. Most letters change alone; a small letter may become several
  capitals, the dotted capital i becomes two characters, and a capital sigma at the end of a word
  has a small form of its own.
-/

namespace Conform.Text

/-- The small form of a character when only one character may stand for it. -/
def lowerChar (c : Char) : Char :=
  if c.toNat < 0x80 then c.toLower
  else match lowerRuns.find? (·.covers c.toNat) with
    | some run => Char.ofNat (run.target c.toNat)
    | none => c

/-- The capital form of a character, which may take several. -/
def upperChars (c : Char) : List Char :=
  if c.toNat < 0x80 then [c.toUpper]
  else match upperRuns.find? (·.covers c.toNat) with
    | some run => [Char.ofNat (run.target c.toNat)]
    | none => match upperExpansions.find? (·.1 == c.toNat) with
      | some (_, expansion) => expansion.map Char.ofNat
      | none => [c]

/-- Whether the character is a letter with case that ends the search for one. -/
def isCased (c : Char) : Bool := casedRanges.contains c

/-- Whether the search for a letter with case passes over the character. -/
def isCaseIgnorable (c : Char) : Bool := caseIgnorableRanges.contains c

/-- Whether the first character that is not passed over is a letter with case. -/
def startsCased (text : List Char) : Bool :=
  match text.dropWhile isCaseIgnorable with
  | [] => false
  | c :: _ => isCased c

/-- The text in small letters. A capital sigma takes its final form after a letter with case and
before none. -/
def lower (text : List Char) : List Char := go [] text
where
  /-- The rest of the text, `before` being what precedes it, last character first. -/
  go (before : List Char) : List Char → List Char
    | [] => []
    | c :: rest =>
      let small :=
        if c == 'Σ' then
          if startsCased before && !startsCased rest then ['ς'] else ['σ']
        else if c == 'İ' then ['i', '\u0307']
        else [lowerChar c]
      small ++ go (c :: before) rest

/-- The text in capital letters. -/
def upper (text : List Char) : List Char := text.flatMap upperChars

/-- The small characters that count as the given small character when case is ignored. -/
def caseClass (small : Char) : List Char :=
  small :: (((caseVariants.find? (·.1 == small.toNat)).map (·.2)).getD []).map Char.ofNat

theorem upper_append (s t : List Char) : upper (s ++ t) = upper s ++ upper t := by
  simp [upper]

end Conform.Text
