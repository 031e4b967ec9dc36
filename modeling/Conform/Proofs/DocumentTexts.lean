import Conform.Proofs.EqualValues
import Conform.Proofs.FlattenedKeys
import Conform.Proofs.SettledValues
import Conform.Proofs.WrittenStrings

/-
  Documents as texts. What is written for a value in JSON spells it (`Spells`): whatever stands
  behind it that no value goes on with, the value is read and nothing more. A list or a map spells
  what its parts do, if what is written for these is put between brackets (`spells_list`,
  `spells_map`), and the steps of the reader are enough as long as there are two for each character.

  Main result: `document_survives_its_text`. Floating-point numbers are no documents here, and keys
  are texts.
-/

namespace Conform

namespace Json

open Text

/-! ## Whole numbers -/

/-- Nothing is left, or a mark that no value goes on with. -/
def Ends (rest : List Char) : Prop := ∀ c ∈ rest.head?, c = ',' ∨ c = ']' ∨ c = '\x7d'

theorem ends_nil : Ends [] := nofun

theorem ends_cons {c : Char} (h : c = ',' ∨ c = ']' ∨ c = '\x7d') (rest : List Char) :
    Ends (c :: rest) := by
  intro d hd
  obtain rfl := Option.some.inj hd
  exact h

theorem isDigit_of_mem_toDigits {n : Nat} {c : Char} (h : c ∈ Nat.toDigits 10 n) :
    isDigit c = true :=
  Nat.isDigit_of_mem_toDigits (by decide) (by decide) h

theorem numberOf_digitValues (n : Nat) : numberOf 10 (digitValues (Nat.toDigits 10 n)) = n := by
  have hfold : ∀ digits : List Char,
      numberOf 10 (digitValues digits) = Nat.ofDigitChars 10 digits 0 := by
    intro digits
    rw [numberOf, digitValues, List.foldl_map, Nat.ofDigitChars_eq_foldl]
    simp only [Nat.mul_comm 10]
    rfl
  rw [hfold, Nat.ofDigitChars_ten_toDigits]

/-- Only the number zero starts with that digit. -/
theorem head?_toDigits_ne_zero {n : Nat} (hn : n ≠ 0) : (Nat.toDigits 10 n).head? ≠ some '0' := by
  induction n using Nat.strongRecOn with
  | _ n ih =>
    rw [Nat.toDigits_eq_if (by decide)]
    split
    · next hsmall =>
      have hdigits : ∀ d < 10, d ≠ 0 → Nat.digitChar d ≠ '0' := by decide
      intro h
      exact hdigits n hsmall hn (Option.some.inj h)
    · rw [List.head?_append_of_ne_nil _ Nat.toDigits_ne_nil]
      exact ih (n / 10) (by omega) (by omega)

theorem takeWhile_isDigit_of_ends {rest : List Char} (h : Ends rest) :
    rest.takeWhile isDigit = [] := by
  cases rest with
  | nil => rfl
  | cons c rest => obtain rfl | rfl | rfl := h c rfl <;> rfl

theorem takeFraction_of_ends {rest : List Char} (h : Ends rest) :
    takeFraction rest = ([], rest) := by
  cases rest with
  | nil => rfl
  | cons c rest => obtain rfl | rfl | rfl := h c rfl <;> rfl

theorem takeExponent_of_ends {rest : List Char} (h : Ends rest) :
    takeExponent rest = (none, rest) := by
  cases rest with
  | nil => rfl
  | cons c rest => obtain rfl | rfl | rfl := h c rfl <;> rfl

theorem wholeDigits_toDigits (n : Nat) {rest : List Char} (h : Ends rest) :
    wholeDigits (Nat.toDigits 10 n ++ rest) = Nat.toDigits 10 n := by
  by_cases hn : n = 0
  · rw [hn, Nat.toDigits_zero]
    rfl
  · unfold wholeDigits
    split
    · next tail hdigits =>
      have hhead := head?_toDigits_ne_zero hn
      rw [← List.head?_append_of_ne_nil _ Nat.toDigits_ne_nil, hdigits] at hhead
      exact absurd rfl hhead
    · rw [List.takeWhile_append_of_pos fun c hc => isDigit_of_mem_toDigits hc,
        takeWhile_isDigit_of_ends h, List.append_nil]

/-- The digits of a number, behind a minus sign or without one, are read up to what ends it. -/
theorem readNumber_toDigits {n : Nat} (hn : (Nat.toDigits 10 n).length ≤ maxDigits)
    {rest : List Char} (h : Ends rest) {negative : Bool} {text : List Char}
    (hsign : (text.head? == some '-') = negative)
    (htext : (if negative then text.tail else text) = Nat.toDigits 10 n ++ rest) :
    readNumber text = .ok (.int (if negative then -n else n), rest) := by
  unfold readNumber
  simp only [hsign, htext, wholeDigits_toDigits n h]
  split
  · next hempty => exact absurd hempty Nat.toDigits_ne_nil
  · rw [List.drop_left, takeFraction_of_ends h]
    simp only [takeExponent_of_ends h]
    rw [List.isEmpty_nil, Option.isNone_none, Bool.and_self, if_pos rfl,
      if_neg (Nat.not_lt.mpr hn), numberOf_digitValues]

theorem ne_of_isDigit {c d : Char} (hc : isDigit c = true) (hd : isDigit d = false) : c ≠ d := by
  rintro rfl
  exact Bool.false_ne_true (hd.symm.trans hc)

/-- What starts with a digit is a number, and so is what has a digit behind a minus sign. -/
theorem readValue_of_isDigit {c : Char} (h : isDigit c = true) (fuel : Nat) (rest : List Char) :
    readValue (fuel + 1) (c :: rest) = readNumber (c :: rest) ∧
      readValue (fuel + 1) ('-' :: c :: rest) = readNumber ('-' :: c :: rest) := by
  -- No name starts with a digit, and the one with a minus sign goes on with a letter.
  have hnames : 'n' ≠ c ∧ 't' ≠ c ∧ 'f' ≠ c ∧ 'N' ≠ c ∧ 'I' ≠ c ∧ '-' ≠ c :=
    ⟨(ne_of_isDigit h rfl).symm, (ne_of_isDigit h rfl).symm, (ne_of_isDigit h rfl).symm,
      (ne_of_isDigit h rfl).symm, (ne_of_isDigit h rfl).symm, (ne_of_isDigit h rfl).symm⟩
  constructor
  · rw [readValue]
    · simp [readScalar, names, afterStart?, hnames]
    all_goals exact fun _ heq => ne_of_isDigit h rfl (List.cons.inj heq).1
  · rw [readValue]
    · simp [readScalar, names, afterStart?, hnames]
    all_goals exact fun _ heq => absurd (List.cons.inj heq).1 (by decide)

/-! ## Texts that spell values -/

/-- The text starts with no space, with no bracket that closes a list or a map, and with no byte
order mark. -/
def Starts (text : String) : Prop :=
  ∃ c cs, text.toList = c :: cs ∧ isSpace c = false ∧ c ≠ ']' ∧ c ≠ '\x7d' ∧ c ≠ '\uFEFF'

theorem Starts.append {s : String} (h : Starts s) (t : String) : Starts (s ++ t) := by
  obtain ⟨c, cs, hs, hc⟩ := h
  exact ⟨c, cs ++ t.toList, by rw [String.toList_append, hs, List.cons_append], hc⟩

theorem Starts.joinWith {text : String} (h : Starts text) (texts : List String) :
    Starts (joinWith ", " (text :: texts)) := by
  cases texts with
  | nil => rwa [joinWith_singleton]
  | cons next texts =>
    rw [joinWith_cons_cons]
    exact (h.append ", ").append _

theorem Starts.skipSpace {text : String} (h : Starts text) (rest : List Char) :
    skipSpace (text.toList ++ rest) = text.toList ++ rest := by
  obtain ⟨c, cs, htext, hspace, -⟩ := h
  rw [htext, List.cons_append, Json.skipSpace, List.dropWhile_cons, hspace]
  rfl

/-- Whatever stands behind the text that no value goes on with, the value is read and nothing more.
There is fuel enough with two steps for each character. -/
structure Spells (text : String) (x : Value) : Prop where
  starts : Starts text
  reads : ∀ (fuel : Nat) (rest : List Char), 2 * text.toList.length ≤ fuel → Ends rest →
    readValue fuel (text.toList ++ rest) = .ok (x, rest)

/-- It is enough that the value is read where there is any fuel, if that takes one step. -/
theorem spells_of_step {text : String} {x : Value} (hstarts : Starts text)
    (hstep : ∀ (fuel : Nat) (rest : List Char), 2 * text.toList.length ≤ fuel + 1 → Ends rest →
      readValue (fuel + 1) (text.toList ++ rest) = .ok (x, rest)) : Spells text x where
  starts := hstarts
  reads fuel rest hfuel hrest := by
    obtain ⟨c, cs, htext, -⟩ := hstarts
    obtain ⟨fuel, rfl⟩ : ∃ k, fuel = k + 1 :=
      ⟨fuel - 1, by rw [htext, List.length_cons] at hfuel; omega⟩
    exact hstep fuel rest hfuel hrest

theorem spells_null : Spells "null" .null :=
  spells_of_step ⟨'n', _, rfl, by decide⟩ fun _ _ _ _ => rfl

theorem spells_bool (b : Bool) : Spells (writeBool b) (.bool b) := by
  cases b with
  | true => exact spells_of_step ⟨'t', _, rfl, by decide⟩ fun _ _ _ _ => rfl
  | false => exact spells_of_step ⟨'f', _, rfl, by decide⟩ fun _ _ _ _ => rfl

theorem isSpace_of_isDigit {c : Char} (h : isDigit c = true) : isSpace c = false := by
  have hspaces : c ≠ ' ' ∧ c ≠ '\t' ∧ c ≠ '\n' ∧ c ≠ '\r' :=
    ⟨ne_of_isDigit h rfl, ne_of_isDigit h rfl, ne_of_isDigit h rfl, ne_of_isDigit h rfl⟩
  simp [isSpace, hspaces]

theorem spells_int {n : Int} (hn : (Nat.toDigits 10 n.natAbs).length ≤ maxDigits) :
    Spells (signedDecimal n) (.int n) := by
  obtain ⟨c, digits, hdigits⟩ :=
    List.exists_cons_of_ne_nil (Nat.toDigits_ne_nil (n := n.natAbs) (b := 10))
  have hc : isDigit c = true := isDigit_of_mem_toDigits (hdigits ▸ List.mem_cons_self)
  have hdecimal : (decimal n.natAbs).toList = c :: digits := String.toList_ofList.trans hdigits
  cases n with
  | ofNat n =>
    have htext : (signedDecimal (.ofNat n)).toList = c :: digits := hdecimal
    have hstarts : Starts (signedDecimal (.ofNat n)) :=
      ⟨c, digits, htext, isSpace_of_isDigit hc, ne_of_isDigit hc rfl, ne_of_isDigit hc rfl,
        ne_of_isDigit hc rfl⟩
    refine spells_of_step hstarts fun fuel rest _ hrest => ?_
    have hsign : ((c :: digits ++ rest).head? == some '-') = false :=
      beq_eq_false_iff_ne.mpr fun h => ne_of_isDigit hc rfl (Option.some.inj h)
    rw [htext, List.cons_append, (readValue_of_isDigit hc fuel _).1]
    exact readNumber_toDigits hn hrest hsign (congrArg (· ++ rest) hdigits.symm)
  | negSucc n =>
    have htext : (signedDecimal (.negSucc n)).toList = '-' :: c :: digits := by
      rw [signedDecimal, String.toList_append]
      exact congrArg (['-'] ++ ·) hdecimal
    refine spells_of_step ⟨'-', _, htext, by decide⟩ fun fuel rest _ hrest => ?_
    have hsign : (('-' :: c :: digits ++ rest).head? == some '-') = true := rfl
    rw [htext, List.cons_append, List.cons_append, (readValue_of_isDigit hc fuel _).2]
    exact readNumber_toDigits hn hrest hsign (congrArg (· ++ rest) hdigits.symm)

theorem toList_writeString (s : String) : (writeString strict s).toList =
    '"' :: (s.toList.flatMap (writeChar strict) ++ ['"']) := by
  rw [writeString, String.toList_ofList, List.cons_append]

theorem starts_writeString (s : String) : Starts (writeString strict s) :=
  ⟨'"', _, toList_writeString s, by decide⟩

theorem spells_str (s : String) : Spells (writeString strict s) (.str s) := by
  refine spells_of_step (starts_writeString s) fun fuel rest _ _ => ?_
  rw [toList_writeString, List.cons_append, List.append_assoc, List.singleton_append, readValue,
    readString_written]
  rfl

/-! ## Lists -/

theorem toList_joinWith_cons (text next : String) (texts : List String) :
    (joinWith ", " (text :: next :: texts)).toList =
      text.toList ++ ',' :: ' ' :: (joinWith ", " (next :: texts)).toList := by
  rw [joinWith_cons_cons, String.toList_append, String.toList_append, List.append_assoc]
  rfl

/-- Items with commas between them are read up to the bracket that closes the list. -/
theorem readItems_joined {texts : List String} {xs : List Value}
    (h : List.Forall₂ Spells texts xs) (hne : texts ≠ []) (fuel : Nat) (rest : List Char)
    (hfuel : 2 * (joinWith ", " texts).toList.length + 1 ≤ fuel) :
    readItems fuel ((joinWith ", " texts).toList ++ ']' :: rest) = .ok (xs, rest) := by
  induction h generalizing fuel with
  | nil => exact absurd rfl hne
  | @cons text x texts xs hx hxs ih =>
    obtain ⟨fuel, rfl⟩ : ∃ k, fuel = k + 1 := ⟨fuel - 1, by omega⟩
    cases hxs with
    | nil =>
      rw [joinWith_singleton] at hfuel ⊢
      rw [readItems, hx.reads fuel _ (by omega) (ends_cons (by decide) _)]
      rfl
    | @cons next y texts xs hy hxs =>
      have hspace : skipSpace (' ' :: ((joinWith ", " (next :: texts)).toList ++ ']' :: rest)) =
          (joinWith ", " (next :: texts)).toList ++ ']' :: rest :=
        (hy.starts.joinWith texts).skipSpace _
      rw [toList_joinWith_cons] at hfuel ⊢
      rw [List.length_append, List.length_cons, List.length_cons] at hfuel
      rw [List.append_assoc, List.cons_append, List.cons_append, readItems,
        hx.reads fuel _ (by omega) (ends_cons (by decide) _)]
      change (readItems fuel (skipSpace (' ' :: _))).bind _ = _
      rw [hspace, ih (by simp) fuel (by omega)]
      rfl

theorem spells_list {texts : List String} {xs : List Value} (h : List.Forall₂ Spells texts xs) :
    Spells ("[" ++ joinWith ", " texts ++ "]") (.list xs) := by
  have htext : ("[" ++ joinWith ", " texts ++ "]").toList =
      '[' :: ((joinWith ", " texts).toList ++ [']']) := by
    rw [String.toList_append, String.toList_append]
    rfl
  refine spells_of_step ⟨'[', _, htext, by decide⟩ fun fuel rest hfuel hrest => ?_
  rw [htext, List.length_cons, List.length_append, List.length_singleton] at hfuel
  rw [htext, List.cons_append, List.append_assoc, List.singleton_append]
  cases h with
  | nil => rfl
  | @cons text x texts xs hx hxs =>
    have hstarts : Starts (joinWith ", " (text :: texts)) := hx.starts.joinWith texts
    have hread := readItems_joined (.cons hx hxs) (by simp) fuel rest (by omega)
    rw [readValue, hstarts.skipSpace]
    obtain ⟨c, cs, hjoined, -, hbracket, -⟩ := hstarts
    rw [hjoined] at hread ⊢
    split
    · next heq => exact absurd (List.cons.inj heq).1 hbracket
    · rw [hread]
      rfl

/-! ## Maps -/

/-- The text spells an entry of a map: its key in quotes, then what spells its value behind a
colon. -/
def SpellsMember (text : String) (entry : Value × Value) : Prop :=
  ∃ key valueText, text = writeString strict key ++ ": " ++ valueText ∧ entry.1 = .str key ∧
    Spells valueText entry.2

theorem SpellsMember.starts {text : String} {entry : Value × Value} (h : SpellsMember text entry) :
    Starts text := by
  obtain ⟨key, valueText, rfl, -⟩ := h
  exact ((starts_writeString key).append ": ").append valueText

/-- Members with commas between them are read up to the brace that closes the map. -/
theorem readMembers_joined {texts : List String} {entries : List (Value × Value)}
    (h : List.Forall₂ SpellsMember texts entries) (hne : texts ≠ []) (fuel : Nat)
    (rest : List Char) (hfuel : 2 * (joinWith ", " texts).toList.length + 1 ≤ fuel) :
    readMembers fuel ((joinWith ", " texts).toList ++ '\x7d' :: rest) = .ok (entries, rest) := by
  induction h generalizing fuel with
  | nil => exact absurd rfl hne
  | @cons text entry texts entries hentry hentries ih =>
    obtain ⟨fuel, rfl⟩ : ∃ k, fuel = k + 1 := ⟨fuel - 1, by omega⟩
    obtain ⟨key, x⟩ := entry
    obtain ⟨key, valueText, rfl, rfl, hx⟩ := hentry
    have hmember : ∀ after, (writeString strict key ++ ": " ++ valueText).toList ++ after =
        '"' :: (key.toList.flatMap (writeChar strict) ++
          '"' :: ':' :: ' ' :: (valueText.toList ++ after)) := by
      intro after
      rw [String.toList_append, String.toList_append, toList_writeString]
      simp
    have hvalue : ∀ after, skipSpace (' ' :: (valueText.toList ++ after)) =
        valueText.toList ++ after := fun after => hx.starts.skipSpace after
    have hshorter : valueText.toList.length ≤
        (writeString strict key ++ ": " ++ valueText).toList.length := by
      rw [String.toList_append, List.length_append]
      omega
    cases hentries with
    | nil =>
      rw [joinWith_singleton] at hfuel ⊢
      rw [hmember, readMembers, readString_written]
      change (readValue fuel (skipSpace (' ' :: _))).bind _ = _
      rw [hvalue, hx.reads fuel _ (by omega) (ends_cons (by decide) _)]
      rfl
    | @cons next other texts entries hother hentries =>
      have hspace : skipSpace (' ' :: ((joinWith ", " (next :: texts)).toList ++ '\x7d' :: rest)) =
          (joinWith ", " (next :: texts)).toList ++ '\x7d' :: rest :=
        (hother.starts.joinWith texts).skipSpace _
      rw [toList_joinWith_cons] at hfuel ⊢
      rw [List.length_append, List.length_cons, List.length_cons] at hfuel
      rw [List.append_assoc, List.cons_append, List.cons_append, hmember, readMembers,
        readString_written]
      change (readValue fuel (skipSpace (' ' :: _))).bind _ = _
      rw [hvalue, hx.reads fuel _ (by omega) (ends_cons (by decide) _)]
      change (readMembers fuel (skipSpace (' ' :: _))).bind _ = _
      rw [hspace, ih (by simp) fuel (by omega)]
      rfl

theorem spells_map {texts : List String} {entries : List (Value × Value)}
    (h : List.Forall₂ SpellsMember texts entries)
    (hkeys : entries.Pairwise fun e f => f.1.equals e.1 = false) :
    Spells ("\x7b" ++ joinWith ", " texts ++ "\x7d") (.map entries) := by
  have htext : ("\x7b" ++ joinWith ", " texts ++ "\x7d").toList =
      '\x7b' :: ((joinWith ", " texts).toList ++ ['\x7d']) := by
    rw [String.toList_append, String.toList_append]
    rfl
  refine spells_of_step ⟨'\x7b', _, htext, by decide⟩ fun fuel rest hfuel hrest => ?_
  rw [htext, List.length_cons, List.length_append, List.length_singleton] at hfuel
  rw [htext, List.cons_append, List.append_assoc, List.singleton_append]
  cases h with
  | nil => rfl
  | @cons text entry texts entries hentry hentries =>
    have hstarts : Starts (joinWith ", " (text :: texts)) := hentry.starts.joinWith texts
    have hread := readMembers_joined (.cons hentry hentries) (by simp) fuel rest (by omega)
    rw [readValue, hstarts.skipSpace]
    obtain ⟨c, cs, hjoined, -, -, hbrace, -⟩ := hstarts
    rw [hjoined] at hread ⊢
    split
    · next heq => exact absurd (List.cons.inj heq).1 hbrace
    · rw [hread]
      change Except.ok (Value.map (Entries.ofPairs _), rest) = _
      rw [Entries.ofPairs_of_different hkeys]

end Json

/-! ## Documents -/

namespace Value

mutual

/-- Whether the value is a document without floating-point numbers: the absent value, truth values,
whole numbers with no more digits than can be shown, texts, lists, and maps under texts. -/
def isDocument : Value → Bool
  | .null | .bool _ | .str _ => true
  | .int n => (Nat.toDigits 10 n.natAbs).length ≤ Text.maxDigits
  | .list xs => areDocuments xs
  | .map entries => holdDocuments entries
  | _ => false

def areDocuments : List Value → Bool
  | [] => true
  | x :: xs => isDocument x && areDocuments xs

/-- Whether the entries have texts as keys and documents as values. -/
def holdDocuments : List (Value × Value) → Bool
  | [] => true
  | (.str _, x) :: rest => isDocument x && holdDocuments rest
  | _ => false

end

theorem areDocuments_iff {xs : List Value} :
    areDocuments xs = true ↔ ∀ x ∈ xs, x.isDocument = true := by
  induction xs with
  | nil => simp [areDocuments]
  | cons x xs ih => simp [areDocuments, ih]

theorem holdDocuments_iff {entries : List (Value × Value)} :
    holdDocuments entries = true ↔
      ∀ entry ∈ entries, (∃ key, entry.1 = .str key) ∧ entry.2.isDocument = true := by
  induction entries with
  | nil => simp [holdDocuments]
  | cons entry entries ih =>
    obtain ⟨key, x⟩ := entry
    cases key <;> simp [holdDocuments, ih]

end Value

namespace Json

open Text

/-- What is written for the value spells it. -/
def Writes (x : Value) : Prop := ∃ text, write strict x = .ok text ∧ Spells text x

theorem writes_list {xs : List Value} (h : ∀ x ∈ xs, Writes x) : Writes (.list xs) := by
  have hitems : ∃ texts, writeItems strict xs = .ok texts ∧ List.Forall₂ Spells texts xs := by
    induction xs with
    | nil => exact ⟨[], rfl, .nil⟩
    | cons x xs ih =>
      obtain ⟨⟨text, hwrite, hspells⟩, hrest⟩ := List.forall_mem_cons.mp h
      obtain ⟨texts, hwrites, hall⟩ := ih hrest
      exact ⟨text :: texts, by rw [writeItems, hwrite, hwrites]; rfl, .cons hspells hall⟩
  obtain ⟨texts, hwrites, hall⟩ := hitems
  exact ⟨_, by rw [write, hwrites]; rfl, spells_list hall⟩

theorem writes_map {entries : List (Value × Value)}
    (h : ∀ entry ∈ entries, (∃ key, entry.1 = .str key) ∧ Writes entry.2)
    (hkeys : entries.Pairwise fun e f => f.1.equals e.1 = false) : Writes (.map entries) := by
  have hmembers : ∃ texts, writeEntries strict entries = .ok texts ∧
      List.Forall₂ SpellsMember texts entries := by
    -- Members are written whether or not keys are equal.
    clear hkeys
    induction entries with
    | nil => exact ⟨[], rfl, .nil⟩
    | cons entry entries ih =>
      obtain ⟨⟨⟨key, hkey⟩, text, hwrite, hspells⟩, hrest⟩ := List.forall_mem_cons.mp h
      obtain ⟨texts, hwrites, hall⟩ := ih hrest
      obtain ⟨_, x⟩ := entry
      obtain rfl := hkey
      refine ⟨_ :: texts, ?_, .cons ⟨key, text, rfl, rfl, hspells⟩ hall⟩
      rw [writeEntries, hwrite, hwrites]
      rfl
  obtain ⟨texts, hwrites, hall⟩ := hmembers
  exact ⟨_, by rw [write, hwrites]; rfl, spells_map hall hkeys⟩

theorem lt_tooLong {n : Nat} (h : (Nat.toDigits 10 n).length ≤ maxDigits) : n < tooLong := by
  -- For any number of digits, so that the power is not computed.
  have hpower : ∀ k, 0 < k → (Nat.toDigits 10 n).length ≤ k → n < Nat.pow 10 k :=
    fun k hk => (Nat.length_toDigits_le_iff (by decide) hk).mp
  unfold tooLong
  exact hpower maxDigits (by decide) h

theorem writes_document {x : Value} (hdocument : x.isDocument = true)
    (hformed : x.isWellFormed = true) : Writes x := by
  induction x using Value.induction_on_parts with
  | _ x ih =>
    cases x with
    | null => exact ⟨_, rfl, spells_null⟩
    | bool b => exact ⟨_, rfl, spells_bool b⟩
    | str s => exact ⟨_, rfl, spells_str s⟩
    | int n =>
      have hdigits : (Nat.toDigits 10 n.natAbs).length ≤ maxDigits := of_decide_eq_true hdocument
      have hwrite : write strict (.int n) = .ok (signedDecimal n) := by
        rw [write, writeInt, if_pos (lt_tooLong hdigits)]
      exact ⟨_, hwrite, spells_int hdigits⟩
    | list xs =>
      refine writes_list fun y hy => ih y hy ?_ (Value.isWellFormed_of_mem_parts hformed hy)
      exact Value.areDocuments_iff.mp hdocument y hy
    | map entries =>
      have hentries := Value.holdDocuments_iff.mp hdocument
      refine writes_map (fun entry hentry => ⟨(hentries entry hentry).1, ?_⟩) ?_
      · have hpart : entry.2 ∈ (Value.map entries).parts :=
          List.mem_flatMap.mpr ⟨entry, hentry, by simp⟩
        exact ih _ hpart (hentries entry hentry).2 (Value.isWellFormed_of_mem_parts hformed hpart)
      · refine (Value.pairwise_keys hformed).imp_of_mem fun {e f} he hf hdifferent => ?_
        obtain ⟨s, hs⟩ := (hentries e he).1
        obtain ⟨t, ht⟩ := (hentries f hf).1
        rw [hs, ht] at hdifferent ⊢
        rwa [Value.equals_comm rfl rfl]
    | _ => cases hdocument

/-- What spells a value is the text of a document by itself. -/
theorem read_of_spells {text : String} {x : Value} (h : Spells text x) : read text = .ok x := by
  have hspace := h.starts.skipSpace []
  have hread := h.reads (2 * text.toList.length + 2) [] (by omega) ends_nil
  rw [List.append_nil] at hspace hread
  obtain ⟨c, cs, htext, -, -, -, hmark⟩ := h.starts
  have hhead : text.toList.head? ≠ some '\uFEFF' := by
    rw [htext]
    exact fun heq => hmark (Option.some.inj heq)
  rw [read, readChars, if_neg hhead, hspace, hread]
  rfl

end Json

/-! ## Main result -/

namespace Conversion

open Validator

/-- A document that is a list or a map can be made a text, and of that text the conversion from JSON
makes the document again. -/
theorem document_survives_its_text {x : Value} (hkind : x.kind = .list ∨ x.kind = .map)
    (hdocument : x.isDocument = true) (hformed : x.isWellFormed = true) :
    ∃ s, (Conversion.str.apply .valid none).Yields x (.str s) ∧
      (Conversion.json.apply .valid none).Yields (.str s) x := by
  have hjson : toText x = toText.json x := by
    cases x with
    | list | map => rfl
    | _ => exact hkind.elim nofun nofun
  have hpresent : Predicate.notNull.accepts x = .ok true := by
    cases x with
    | null => exact hkind.elim nofun nofun
    | _ => rfl
  obtain ⟨text, hwrite, hspells⟩ := Json.writes_document hdocument hformed
  have hconvert : toText x = .ok (.str text) := by rw [hjson, toText.json, hwrite]
  have hread : ofJson (.str text) = .ok x := by rw [ofJson, Json.read_of_spells hspells]
  refine ⟨text, ?_, ?_⟩
  · rw [yields_iff_accepts]
    exact (makes_iff _ _ _).mpr ⟨⟨x, (accepts_ofPredicate _ _ _ _).mpr ⟨hpresent, rfl⟩⟩, hconvert,
      (accepts_valid _ _).mpr rfl⟩
  · rw [yields_iff_accepts]
    exact (makes_iff _ _ _).mpr ⟨accepts_guard_of_first rfl rfl, hread, (accepts_valid _ _).mpr rfl⟩

/-- A map with characters that are escaped, one of them beyond the first plane. -/
def escapedDocument : Value :=
  .map [(.str "a\"\n", .list [.int (-12), .bool true, .null, .str "\u007f𝄞"]), (.str "", .map [])]

theorem document_survives_its_text_with_escapes :
    escapedDocument.isDocument = true ∧ escapedDocument.isWellFormed = true ∧
      ∃ s, (Conversion.str.apply .valid none).Yields escapedDocument (.str s) ∧
        (Conversion.json.apply .valid none).Yields (.str s) escapedDocument := by
  have hdocument : escapedDocument.isDocument = true := by decide +kernel
  have hformed : escapedDocument.isWellFormed = true := by decide +kernel
  exact ⟨hdocument, hformed, document_survives_its_text (.inr rfl) hdocument hformed⟩

end Conversion
end Conform
