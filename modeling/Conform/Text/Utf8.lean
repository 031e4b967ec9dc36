/-
  Text from bytes in UTF-8. Bytes that are not well formed are read as replacement characters:
  one for each longest piece that could have started a character.
-/

namespace Conform.Text

/-- The bytes that may follow the first byte of a character of several bytes: how many, and the
bounds of the second one. -/
def continuation? (first : Nat) : Option (Nat × Nat × Nat) :=
  if 0xC2 ≤ first ∧ first ≤ 0xDF then some (1, 0x80, 0xBF)
  else if first = 0xE0 then some (2, 0xA0, 0xBF)
  else if first = 0xED then some (2, 0x80, 0x9F)
  else if 0xE1 ≤ first ∧ first ≤ 0xEF then some (2, 0x80, 0xBF)
  else if first = 0xF0 then some (3, 0x90, 0xBF)
  else if first = 0xF4 then some (3, 0x80, 0x8F)
  else if 0xF1 ≤ first ∧ first ≤ 0xF3 then some (3, 0x80, 0xBF)
  else none

/-- A character that is still being read: the bits so far, how many bytes it still needs and the
bounds of the next one. -/
structure OpenChar where
  bits : Nat
  missing : Nat
  low : Nat
  high : Nat

/-- The text that the bytes spell. -/
def decodeUtf8 (bytes : List UInt8) : List Char := go none (bytes.map UInt8.toNat)
where
  /-- The character that starts with this byte, or the state after its first byte. -/
  start (b : Nat) : List Char × Option OpenChar :=
    if b < 0x80 then ([Char.ofNat b], none)
    else match continuation? b with
      | some (count, low, high) =>
        ([], some ⟨b % Nat.pow 2 (6 - count), count, low, high⟩)
      | none => (['\uFFFD'], none)
  /-- The rest of the text. -/
  go (open? : Option OpenChar) : List Nat → List Char
    | [] => if open?.isSome then ['\uFFFD'] else []
    | b :: rest =>
      match open? with
      | none => (start b).1 ++ go (start b).2 rest
      | some char =>
        if char.low ≤ b ∧ b ≤ char.high then
          let bits := char.bits * 64 + b % 64
          if char.missing = 1 then Char.ofNat bits :: go none rest
          else go (some ⟨bits, char.missing - 1, 0x80, 0xBF⟩) rest
        else '\uFFFD' :: ((start b).1 ++ go (start b).2 rest)

end Conform.Text
