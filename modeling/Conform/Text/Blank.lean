import Conform.Text.CodeRange

/-
  Blank characters, and the operations on text that look at nothing else: cutting blanks off the
  ends, putting one space for each run of blanks, and the words between the blanks. The class is
  the white space of every script, with the four information separators.
-/

namespace Conform.Text

/-- Every blank character. -/
def blankRanges : CodeRanges := [
  (0x09, 0x0D), (0x1C, 0x20), (0x85, 0x85), (0xA0, 0xA0), (0x1680, 0x1680), (0x2000, 0x200A),
  (0x2028, 0x2029), (0x202F, 0x202F), (0x205F, 0x205F), (0x3000, 0x3000)]

def isBlank (c : Char) : Bool := blankRanges.contains c

def trimStart (text : List Char) : List Char := text.dropWhile isBlank

def trimEnd (text : List Char) : List Char := (trimStart text.reverse).reverse

/-- The text without the blanks at both ends. -/
def trim (text : List Char) : List Char := trimEnd (trimStart text)

/-- The text with one space for each run of blanks. -/
def squeeze (text : List Char) : List Char := go false text
where
  /-- The text after a character that was blank if `inRun` says so. -/
  go (inRun : Bool) : List Char → List Char
    | [] => []
    | c :: rest =>
      if isBlank c then
        if inRun then go true rest else ' ' :: go true rest
      else c :: go false rest

/-- The text with one space between its words and none around them. -/
def collapse (text : List Char) : List Char := trim (squeeze text)

/-- The longest pieces of the text that hold no blank, in order. -/
def words (text : List Char) : List (List Char) :=
  (text.splitBy fun a b => isBlank a == isBlank b).filter fun piece => !piece.any isBlank

theorem isBlank_space : isBlank ' ' = true := by decide

theorem isBlank_of_isWhitespace {c : Char} (h : c.isWhitespace = true) : isBlank c = true := by
  simp only [Char.isWhitespace, Bool.or_eq_true, decide_eq_true_eq] at h
  rcases h with ((rfl | rfl) | rfl) | rfl <;> decide

theorem trimStart_blank_cons {c : Char} (h : isBlank c = true) (text : List Char) :
    trimStart (c :: text) = trimStart text := by
  simp [trimStart, h]

theorem trimStart_of_not_blank {c : Char} (h : isBlank c = false) (text : List Char) :
    trimStart (c :: text) = c :: text := by
  simp [trimStart, h]

theorem trimStart_eq_self {text : List Char} (h : ∀ c ∈ text.head?, isBlank c = false) :
    trimStart text = text := by
  cases text with
  | nil => rfl
  | cons c rest => exact trimStart_of_not_blank (h c rfl) rest

theorem not_isBlank_head_trimStart (text : List Char) :
    ∀ c ∈ (trimStart text).head?, isBlank c = false := by
  intro c hc
  have hnot := List.head?_dropWhile_not isBlank text
  rw [← trimStart, Option.mem_def.mp hc] at hnot
  exact hnot

theorem trimEnd_eq_self {text : List Char} (h : ∀ c ∈ text.getLast?, isBlank c = false) :
    trimEnd text = text := by
  rw [trimEnd, trimStart_eq_self (by rwa [List.head?_reverse]), List.reverse_reverse]

/-- The text without the blanks at its end is a beginning of it, and blanks follow. -/
theorem exists_trimEnd (text : List Char) :
    ∃ after, text = trimEnd text ++ after ∧ ∀ c ∈ after, isBlank c = true := by
  refine ⟨(text.reverse.takeWhile isBlank).reverse, ?_, fun c hc => ?_⟩
  · rw [trimEnd, trimStart, ← List.reverse_append, List.takeWhile_append_dropWhile,
      List.reverse_reverse]
  · exact List.all_eq_true.mp List.all_takeWhile c (List.mem_reverse.mp hc)

theorem exists_trimStart (text : List Char) :
    ∃ before, text = before ++ trimStart text ∧ ∀ c ∈ before, isBlank c = true :=
  ⟨text.takeWhile isBlank, List.takeWhile_append_dropWhile.symm,
    List.all_eq_true.mp List.all_takeWhile⟩

theorem exists_trim (text : List Char) :
    ∃ before after, text = before ++ trim text ++ after ∧ (∀ c ∈ before, isBlank c = true) ∧
      ∀ c ∈ after, isBlank c = true := by
  obtain ⟨before, hstart, hbefore⟩ := exists_trimStart text
  obtain ⟨after, hend, hafter⟩ := exists_trimEnd (trimStart text)
  refine ⟨before, after, ?_, hbefore, hafter⟩
  rw [trim, List.append_assoc, ← hend, ← hstart]

theorem not_isBlank_getLast_trim (text : List Char) :
    ∀ c ∈ (trim text).getLast?, isBlank c = false := by
  rw [trim, trimEnd, List.getLast?_reverse]
  exact not_isBlank_head_trimStart _

theorem not_isBlank_head_trim (text : List Char) :
    ∀ c ∈ (trim text).head?, isBlank c = false := by
  intro c hc
  obtain ⟨after, hend, -⟩ := exists_trimEnd (trimStart text)
  have hhead : c ∈ (trimStart text).head? := by
    rw [hend, List.head?_append, ← trim, Option.mem_def.mp hc]
    rfl
  exact not_isBlank_head_trimStart text c hhead

theorem trim_eq_self {text : List Char} (hhead : ∀ c ∈ text.head?, isBlank c = false)
    (hlast : ∀ c ∈ text.getLast?, isBlank c = false) : trim text = text := by
  rw [trim, trimStart_eq_self hhead, trimEnd_eq_self hlast]

@[simp] theorem trim_trim (text : List Char) : trim (trim text) = trim text :=
  trim_eq_self (not_isBlank_head_trim text) (not_isBlank_getLast_trim text)

/-- An ending without blanks stays, and so does what it ends. -/
theorem trim_append {ending : List Char} (hne : ending ≠ [])
    (h : ∀ c ∈ ending, isBlank c = false) (text : List Char) :
    trim (text ++ ending) = trimStart text ++ ending := by
  have hstart : trimStart (text ++ ending) = trimStart text ++ ending := by
    induction text with
    | nil => exact trimStart_eq_self fun c hc => h c (List.mem_of_mem_head? hc)
    | cons c rest ih =>
      cases hc : isBlank c with
      | true => rw [List.cons_append, trimStart_blank_cons hc, trimStart_blank_cons hc, ih]
      | false =>
        rw [List.cons_append, trimStart_of_not_blank hc, trimStart_of_not_blank hc,
          List.cons_append]
  have hlast : (trimStart text ++ ending).getLast? = ending.getLast? := by
    rw [List.getLast?_append, List.getLast?_eq_some_getLast hne]
    rfl
  rw [trim, hstart]
  refine trimEnd_eq_self fun c hc => h c (List.mem_of_getLast? ?_)
  rwa [hlast] at hc

end Conform.Text
