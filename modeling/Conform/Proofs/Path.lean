import Conform.Validator.Check

/-
  Paths into a value, as the segments that lead from the whole to a part. `pathText_injective`: if
  all keys on the way are texts without the signs that start a segment, then the text of a path
  can be decoded.
-/

namespace Conform

/-- A step from a value to one of its parts. -/
inductive Segment where
  | key (k : Value)
  | index (i : Nat)

namespace Segment

def text : Segment → String
  | .key k => Check.keySegment k
  | .index i => Check.indexSegment i

/-- The code that the value with the part gives to failures that have none. -/
def code : Segment → Code
  | .key _ => .mapFieldFailed
  | .index _ => .listItemFailed

def starts (c : Char) : Prop := c = '.' ∨ c = '['

/-- A segment in whose text nothing but its first character starts a segment. -/
def IsPlain : Segment → Prop
  | .key (.str k) => ∀ c ∈ k.toList, ¬ starts c
  | .key _ => False
  | .index _ => True

theorem toList_text_key (k : String) : (text (.key (.str k))).toList = '.' :: k.toList := by
  simp [text, Check.keySegment, Value.display_str]

theorem toList_text_index (i : Nat) :
    (text (.index i)).toList = '[' :: (Nat.toDigits 10 i ++ [']']) := by
  simp [text, Check.indexSegment, Text.decimal]

theorem text_ne_empty (s : Segment) : s.text ≠ "" := by
  cases s <;> simp [text, Check.keySegment, Check.indexSegment]

end Segment

def pathText : List Segment → String
  | [] => ""
  | s :: path => s.text ++ pathText path

def pathText? : List Segment → Option String
  | [] => none
  | path => some (pathText path)

@[simp] theorem pathText?_cons (s : Segment) (path : List Segment) :
    pathText? (s :: path) = some (pathText (s :: path)) := rfl

theorem toList_pathText_cons (s : Segment) (path : List Segment) :
    (pathText (s :: path)).toList = s.text.toList ++ (pathText path).toList := by
  rw [pathText, String.toList_append]

/-! ## Decoding -/

/-- Two texts that are the same up to a first stop are the same before and after it. -/
theorem append_inj_at_stop {stop : Char → Prop} {u v r s : List Char} (hu : ∀ c ∈ u, ¬ stop c)
    (hv : ∀ c ∈ v, ¬ stop c) (hr : ∀ c ∈ r.head?, stop c) (hs : ∀ c ∈ s.head?, stop c)
    (h : u ++ r = v ++ s) : u = v ∧ r = s := by
  induction u generalizing v with
  | nil =>
    cases v with
    | nil => exact ⟨rfl, h⟩
    | cons c v =>
      obtain rfl : r = c :: (v ++ s) := h
      exact absurd (hr c rfl) (hv c List.mem_cons_self)
  | cons c u ih =>
    cases v with
    | nil =>
      obtain rfl : c :: (u ++ r) = s := h
      exact absurd (hs c rfl) (hu c List.mem_cons_self)
    | cons d v =>
      obtain ⟨rfl, htail⟩ := List.cons.inj h
      obtain ⟨rfl, hrest⟩ := ih (fun c hc => hu c (List.mem_cons_of_mem _ hc))
        (fun c hc => hv c (List.mem_cons_of_mem _ hc)) htail
      exact ⟨rfl, hrest⟩

/-- What follows a segment starts the next one. -/
theorem starts_head?_pathText {path : List Segment} (h : ∀ s ∈ path, s.IsPlain) :
    ∀ c ∈ (pathText path).toList.head?, Segment.starts c := by
  cases path with
  | nil => simp [pathText]
  | cons s path =>
    intro c hc
    rw [toList_pathText_cons] at hc
    cases s with
    | key k =>
      cases k with
      | str k =>
        rw [Segment.toList_text_key] at hc
        cases hc
        exact .inl rfl
      | _ => exact absurd (h _ List.mem_cons_self) id
    | index i =>
      rw [Segment.toList_text_index] at hc
      cases hc
      exact .inr rfl

theorem toDigits_injective {m n : Nat} (h : Nat.toDigits 10 m = Nat.toDigits 10 n) : m = n := by
  rw [← Nat.ofDigitChars_ten_toDigits (n := m), h, Nat.ofDigitChars_ten_toDigits]

theorem bracket_not_mem_toDigits (n : Nat) : ∀ c ∈ Nat.toDigits 10 n, ¬ c = ']' := by
  intro c hc
  have hdigit := Nat.isDigit_of_mem_toDigits (by decide) (by decide) hc
  rintro rfl
  exact absurd hdigit (by decide)

/-- The first segment of a path can be told from its text, and so can the text of the rest. -/
theorem pathText_cons_inj {s t : Segment} {path trail : List Segment}
    (hpath : ∀ u ∈ s :: path, u.IsPlain) (htrail : ∀ u ∈ t :: trail, u.IsPlain)
    (h : pathText (s :: path) = pathText (t :: trail)) :
    s = t ∧ pathText path = pathText trail := by
  have hlist : s.text.toList ++ (pathText path).toList =
      t.text.toList ++ (pathText trail).toList := by
    rw [← toList_pathText_cons, ← toList_pathText_cons, h]
  have hs := hpath s List.mem_cons_self
  have ht := htrail t List.mem_cons_self
  have hpath' := starts_head?_pathText fun u hu => hpath u (List.mem_cons_of_mem _ hu)
  have htrail' := starts_head?_pathText fun u hu => htrail u (List.mem_cons_of_mem _ hu)
  cases s with
  | key a =>
    cases a with
    | str a =>
      cases t with
      | key b =>
        cases b with
        | str b =>
          rw [Segment.toList_text_key, Segment.toList_text_key] at hlist
          obtain ⟨hkey, hrest⟩ := append_inj_at_stop hs ht hpath' htrail' (List.cons.inj hlist).2
          rw [String.toList_inj.mp hkey, String.toList_inj.mp hrest]
          exact ⟨rfl, rfl⟩
        | _ => exact absurd ht id
      | index j =>
        rw [Segment.toList_text_key, Segment.toList_text_index] at hlist
        exact absurd (List.cons.inj hlist).1 (by decide)
    | _ => exact absurd hs id
  | index i =>
    cases t with
    | key b =>
      cases b with
      | str b =>
        rw [Segment.toList_text_key, Segment.toList_text_index] at hlist
        exact absurd (List.cons.inj hlist).1 (by decide)
      | _ => exact absurd ht id
    | index j =>
      rw [Segment.toList_text_index, Segment.toList_text_index, List.cons_append,
        List.cons_append, List.append_assoc, List.append_assoc] at hlist
      obtain ⟨hdigits, hrest⟩ := append_inj_at_stop (bracket_not_mem_toDigits i)
        (bracket_not_mem_toDigits j) (by simp) (by simp) (List.cons.inj hlist).2
      rw [toDigits_injective hdigits, String.toList_inj.mp (List.cons.inj hrest).2]
      exact ⟨rfl, rfl⟩

/-- A path can be told from its text. -/
theorem pathText_injective {path trail : List Segment} (hpath : ∀ s ∈ path, s.IsPlain)
    (htrail : ∀ s ∈ trail, s.IsPlain) (h : pathText path = pathText trail) : path = trail := by
  induction path generalizing trail with
  | nil =>
    cases trail with
    | nil => rfl
    | cons t trail => simp [pathText, t.text_ne_empty] at h
  | cons s path ih =>
    cases trail with
    | nil => simp [pathText, s.text_ne_empty] at h
    | cons t trail =>
      obtain ⟨rfl, hrest⟩ := pathText_cons_inj hpath htrail h
      rw [ih (fun u hu => hpath u (List.mem_cons_of_mem _ hu))
        (fun u hu => htrail u (List.mem_cons_of_mem _ hu)) hrest]

theorem pathText?_injective {path trail : List Segment} (hpath : ∀ s ∈ path, s.IsPlain)
    (htrail : ∀ s ∈ trail, s.IsPlain) (h : pathText? path = pathText? trail) : path = trail := by
  cases path with
  | nil =>
    cases trail with
    | nil => rfl
    | cons => cases h
  | cons =>
    cases trail with
    | nil => cases h
    | cons => exact pathText_injective hpath htrail (Option.some.inj h)

end Conform
