import Conform.Calendar.Iso
import Conform.Fault

/-
  Characters and their bytes. The readers of the standard form take bytes: `encoded` says which
  bytes characters have, where bytes of ASCII stand for characters of a text
  (`exists_of_encoded_eq`), and which numbers digits among bytes write (`exists_of_digits?`).
-/

namespace Conform.Iso

open Text

/-! ## Bytes of characters -/

def charBytes (c : Char) : List Nat := (String.utf8EncodeChar c).map UInt8.toNat

/-- The bytes of characters one after the other. -/
def encoded (cs : List Char) : List Nat := cs.flatMap charBytes

theorem toList_eq_toList_data (bytes : ByteArray) : bytes.toList = bytes.data.toList := by
  have hloop : ∀ count i acc, bytes.size - i = count → i ≤ bytes.size →
      ByteArray.toList.loop bytes i acc = acc.reverse ++ bytes.data.toList.drop i := by
    intro count
    induction count with
    | zero =>
      intro i acc hcount hi
      have hend : bytes.data.toList.length ≤ i := by
        change bytes.size ≤ i
        omega
      rw [ByteArray.toList.loop.eq_def, if_neg (by omega), List.drop_eq_nil_of_le hend,
        List.append_nil]
    | succ count ih =>
      intro i acc hcount hi
      have hlt : i < bytes.size := by omega
      have hget : bytes.data.toList.drop i =
          bytes.get! i :: bytes.data.toList.drop (i + 1) := by
        rw [List.drop_eq_getElem_cons hlt]
        congr 1
        exact (getElem!_pos bytes.data i hlt).symm
      rw [ByteArray.toList.loop.eq_def, if_pos hlt, ih (i + 1) _ (by omega) hlt, hget,
        List.reverse_cons, List.append_assoc]
      rfl
  exact hloop bytes.size 0 [] rfl (Nat.zero_le _)

theorem bytesOf_ofList (cs : List Char) : bytesOf (String.ofList cs) = encoded cs := by
  rw [bytesOf, String.toUTF8, String.toByteArray_ofList, toList_eq_toList_data, List.utf8Encode,
    List.toList_data_toByteArray, List.map_flatMap]
  rfl

@[simp] theorem encoded_nil : encoded [] = [] := rfl

theorem encoded_cons (c : Char) (cs : List Char) : encoded (c :: cs) = charBytes c ++ encoded cs :=
  rfl

theorem encoded_append (cs ds : List Char) : encoded (cs ++ ds) = encoded cs ++ encoded ds :=
  List.flatMap_append

theorem charBytes_ascii {c : Char} (h : c.toNat < 0x80) : charBytes c = [c.toNat] := by
  have hval : c.val.toNat ≤ 127 := Nat.le_of_lt_succ h
  unfold charBytes String.utf8EncodeChar
  dsimp only
  rw [if_pos hval, List.map_singleton,
    UInt8.toNat_ofNat_of_lt' (Nat.lt_of_le_of_lt hval (by decide))]
  rfl

theorem encoded_ascii {cs : List Char} (h : ∀ c ∈ cs, c.toNat < 0x80) :
    encoded cs = cs.map Char.toNat := by
  induction cs with
  | nil => rfl
  | cons c cs ih =>
    rw [encoded_cons, charBytes_ascii (h c List.mem_cons_self),
      ih fun d hd => h d (List.mem_cons_of_mem c hd)]
    rfl

/-- The first byte of a character from beyond ASCII tells how many bytes it has. -/
theorem charBytes_beyond {c : Char} (h : ¬ c.toNat < 0x80) :
    ∃ b rest, charBytes c = b :: rest ∧ 0x80 ≤ b ∧ characterLength b = (charBytes c).length := by
  have hval : ¬ c.val.toNat ≤ 127 := fun hle => h (Nat.lt_succ_of_le hle)
  have htwo : ∀ n, 0xC0 ≤ n → n < 0xE0 →
      0x80 ≤ (UInt8.ofNat n).toNat ∧ characterLength (UInt8.ofNat n).toNat = 2 := by
    intro n hlow hhigh
    rw [UInt8.toNat_ofNat_of_lt' (Nat.lt_trans hhigh (by decide)), characterLength,
      if_neg (by omega), if_pos hhigh]
    exact ⟨by omega, rfl⟩
  have hthree : ∀ n, 0xE0 ≤ n → n < 0xF0 →
      0x80 ≤ (UInt8.ofNat n).toNat ∧ characterLength (UInt8.ofNat n).toNat = 3 := by
    intro n hlow hhigh
    rw [UInt8.toNat_ofNat_of_lt' (Nat.lt_trans hhigh (by decide)), characterLength,
      if_neg (by omega), if_neg (by omega), if_pos hhigh]
    exact ⟨by omega, rfl⟩
  have hfour : ∀ n, 0xF0 ≤ n → n < 0x100 →
      0x80 ≤ (UInt8.ofNat n).toNat ∧ characterLength (UInt8.ofNat n).toNat = 4 := by
    intro n hlow hhigh
    rw [UInt8.toNat_ofNat_of_lt' hhigh, characterLength, if_neg (by omega), if_neg (by omega),
      if_neg (by omega)]
    exact ⟨by omega, rfl⟩
  unfold charBytes String.utf8EncodeChar
  dsimp only
  rw [if_neg hval]
  split
  · exact ⟨_, _, rfl, htwo _ (by omega) (by omega)⟩
  · split
    · exact ⟨_, _, rfl, hthree _ (by omega) (by omega)⟩
    · exact ⟨_, _, rfl, hfour _ (by omega) (by omega)⟩

theorem characterLength_charBytes (c : Char) :
    ∃ b rest, charBytes c = b :: rest ∧ characterLength b = (charBytes c).length := by
  by_cases h : c.toNat < 0x80
  · rw [charBytes_ascii h]
    exact ⟨_, _, rfl, if_pos h⟩
  · obtain ⟨b, rest, hbytes, -, hlength⟩ := charBytes_beyond h
    exact ⟨b, rest, hbytes, hlength⟩

/-- Where the bytes start with bytes of ASCII, the text starts with the characters that have
them. -/
theorem exists_of_encoded_eq {cs : List Char} {front rest : List Nat}
    (h : encoded cs = front ++ rest) (hascii : ∀ b ∈ front, b < 0x80) :
    ∃ start ending, cs = start ++ ending ∧ start.map Char.toNat = front ∧
      encoded ending = rest := by
  induction front generalizing cs with
  | nil => exact ⟨[], cs, rfl, rfl, h⟩
  | cons b front ih =>
    cases cs with
    | nil => cases h
    | cons c cs =>
      rw [encoded_cons] at h
      have hb := hascii b List.mem_cons_self
      by_cases hc : c.toNat < 0x80
      · rw [charBytes_ascii hc] at h
        obtain ⟨hcode, hrest⟩ := List.cons.inj h
        obtain ⟨start, ending, hcs, hstart, hending⟩ :=
          ih hrest fun d hd => hascii d (List.mem_cons_of_mem b hd)
        refine ⟨c :: start, ending, by rw [hcs]; rfl, ?_, hending⟩
        rw [List.map_cons, hstart, hcode]
      · obtain ⟨d, more, hbytes, hlarge, -⟩ := charBytes_beyond hc
        rw [hbytes] at h
        have hsame := (List.cons.inj h).1
        omega

/-! ## Digits -/

/-- The byte is an ASCII digit. -/
def IsDigit (b : Nat) : Prop := 0x30 ≤ b ∧ b ≤ 0x39

instance (b : Nat) : Decidable (IsDigit b) := inferInstanceAs (Decidable (0x30 ≤ b ∧ b ≤ 0x39))

theorem isDigit_toNat_iff {c : Char} : IsDigit c.toNat ↔ c.isDigit = true := by
  rw [Char.isDigit, Bool.and_eq_true, decide_eq_true_eq, decide_eq_true_eq]
  rfl

theorem charBytes_of_isDigit {c : Char} (h : c.isDigit = true) : charBytes c = [c.toNat] := by
  have hdigit := isDigit_toNat_iff.mpr h
  exact charBytes_ascii (Nat.lt_of_le_of_lt hdigit.2 (by decide))

/-- The number that digits spell. -/
def valueOf (digits : List Nat) : Nat := numberOf 10 (digits.map (· - 0x30))

theorem digit?_of_isDigit {b : Nat} (h : IsDigit b) : digit? b = some (b - 0x30) := if_pos h

theorem isDigit_of_digit? {b n : Nat} (h : digit? b = some n) : IsDigit b ∧ n = b - 0x30 := by
  unfold digit? at h
  split at h
  · next hdigit => exact ⟨hdigit, (Option.some.inj h).symm⟩
  · cases h

theorem valueOf_cons (b : Nat) (digits : List Nat) :
    valueOf (b :: digits) = (b - 0x30) * Nat.pow 10 digits.length + valueOf digits := by
  have hfold : ∀ (ds : List Nat) (n : Nat), ds.foldl (fun n digit => n * 10 + digit) n =
      n * Nat.pow 10 ds.length + numberOf 10 ds := by
    intro ds
    induction ds with
    | nil => intro n; rw [numberOf]; exact (Nat.mul_one n).symm
    | cons d ds ih =>
      intro n
      have hcons : numberOf 10 (d :: ds) = d * Nat.pow 10 ds.length + numberOf 10 ds := by
        rw [numberOf, List.foldl_cons, ih, Nat.zero_mul, Nat.zero_add]
      have hpow : Nat.pow 10 (d :: ds).length = 10 * Nat.pow 10 ds.length := Nat.pow_succ'
      rw [List.foldl_cons, ih, hcons, hpow, Nat.add_mul, Nat.mul_assoc, Nat.add_assoc]
  rw [valueOf, List.map_cons, numberOf, List.foldl_cons, hfold, List.length_map, Nat.zero_mul,
    Nat.zero_add]
  rfl

theorem digits?_append (digits rest : List Nat) (h : ∀ b ∈ digits, IsDigit b) :
    digits? digits.length (digits ++ rest) = some (valueOf digits, rest) := by
  induction digits with
  | nil => rfl
  | cons b digits ih =>
    rw [List.length_cons, List.cons_append, digits?, digit?_of_isDigit (h b List.mem_cons_self),
      ih fun d hd => h d (List.mem_cons_of_mem b hd), valueOf_cons]

theorem exists_of_digits? {count n : Nat} {bytes rest : List Nat}
    (h : digits? count bytes = some (n, rest)) :
    ∃ digits, bytes = digits ++ rest ∧ digits.length = count ∧ (∀ b ∈ digits, IsDigit b) ∧
      n = valueOf digits := by
  induction count generalizing bytes n rest with
  | zero =>
    obtain ⟨rfl, rfl⟩ := Prod.mk.inj (Option.some.inj h)
    exact ⟨[], rfl, rfl, nofun, rfl⟩
  | succ count ih =>
    cases bytes with
    | nil => cases h
    | cons b bytes =>
      rw [digits?] at h
      split at h
      · next k m rest' hdigit hdigits =>
        obtain ⟨rfl, rfl⟩ := Prod.mk.inj (Option.some.inj h)
        obtain ⟨hb, rfl⟩ := isDigit_of_digit? hdigit
        obtain ⟨digits, rfl, hlength, hall, rfl⟩ := ih hdigits
        refine ⟨b :: digits, rfl, by rw [List.length_cons, hlength],
          List.forall_mem_cons.mpr ⟨hb, hall⟩, ?_⟩
        rw [valueOf_cons, hlength]
      · cases h

theorem exists_of_digits?_two {n : Nat} {bytes rest : List Nat}
    (h : digits? 2 bytes = some (n, rest)) :
    ∃ a b, bytes = a :: b :: rest ∧ IsDigit a ∧ IsDigit b ∧ n = valueOf [a, b] := by
  obtain ⟨digits, rfl, hlength, hall, rfl⟩ := exists_of_digits? h
  match digits, hlength with
  | [a, b], _ => exact ⟨a, b, rfl, hall a (by simp), hall b (by simp), rfl⟩

end Conform.Iso
