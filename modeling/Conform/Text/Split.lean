/-
  Cutting text at a separator, and putting a separator between pieces.
-/

namespace Conform.Text

/-- What follows the separator, if the text starts with it. -/
def afterStart? : List Char → List Char → Option (List Char)
  | [], text => some text
  | _ :: _, [] => none
  | a :: separator, c :: text => if a == c then afterStart? separator text else none

/-- The pieces between the occurrences of the separator, found from the left. An empty separator
occurs nowhere. -/
def splitOn (separator text : List Char) : List (List Char) := go [] 0 text
where
  /-- The pieces of the rest, `piece` being the characters since the last occurrence, last one
  first, and `skip` the number of characters that belong to an occurrence already found. -/
  go (piece : List Char) (skip : Nat) : List Char → List (List Char)
    | [] => [piece.reverse]
    | c :: rest =>
      match skip with
      | n + 1 => go piece n rest
      | 0 =>
        if !separator.isEmpty && (afterStart? separator (c :: rest)).isSome then
          piece.reverse :: go [] (separator.length - 1) rest
        else go (c :: piece) 0 rest

/-- The text with every occurrence of the character replaced by the given text. -/
def replaceChar (old : Char) (new : List Char) (text : List Char) : List Char :=
  text.flatMap fun c => if c == old then new else [c]

def occursIn (piece : List Char) : List Char → Bool
  | [] => piece.isEmpty
  | c :: rest => (afterStart? piece (c :: rest)).isSome || occursIn piece rest

/-- The strings one after the other with the separator between them. -/
def joinWith (separator : String) (pieces : List String) : String := separator.intercalate pieces

@[simp] theorem joinWith_nil (separator : String) : joinWith separator [] = "" := by
  simp [joinWith]

@[simp] theorem joinWith_singleton (separator piece : String) :
    joinWith separator [piece] = piece := by
  simp [joinWith]

@[simp] theorem joinWith_cons_cons (separator piece next : String) (rest : List String) :
    joinWith separator (piece :: next :: rest) =
      piece ++ separator ++ joinWith separator (next :: rest) := by
  simp [joinWith]

end Conform.Text
