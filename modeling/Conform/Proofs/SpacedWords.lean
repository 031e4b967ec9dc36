import Conform.Proofs.EntryPoints
import Conform.Proofs.SettledValues
import Mathlib.Data.List.SplitBy

/-
  The words of a text. `HoldsWords` says which words stand in a text, and in which order: the
  longest pieces without blanks, between which there is nothing but blanks. A text holds one list of
  words only, and `words` finds it (`holdsWords_iff`). Everything that is done to blanks is then
  told by what it does to the words: blanks at the ends belong to no word, and neither do those that
  are squeezed into one space (`words_collapse`). What is left of a text when its blanks are
  collapsed is a function of its words (`collapse_eq_intercalate`).

  Main result: `collapsed_text_is_its_words`. Words, squeezing and trimming look at one class of
  characters, `isBlank`, and nothing here depends on which ones are in it, apart from the space.
-/

namespace Conform

namespace Text

/-! ## Words in a text -/

/-- The words that stand in a text, in order. A word has no blank in it, and what follows it is at
its end or starts with a blank, so no word could be longer. -/
inductive HoldsWords : List Char → List (List Char) → Prop
  | nil : HoldsWords [] []
  | blank {c : Char} {text : List Char} {ws : List (List Char)} (hc : isBlank c = true)
      (htext : HoldsWords text ws) : HoldsWords (c :: text) ws
  | word {word text : List Char} {ws : List (List Char)} (hne : word ≠ [])
      (hword : ∀ c ∈ word, isBlank c = false) (hend : ∀ c ∈ text.head?, isBlank c = true)
      (htext : HoldsWords text ws) : HoldsWords (word ++ text) (word :: ws)

/-- A piece of which all characters are blank, or none, is not cut up any further. -/
theorem splitBy_of_uniform {piece : List Char} (hne : piece ≠ []) {blank : Bool}
    (h : ∀ c ∈ piece, isBlank c = blank) :
    piece.splitBy (fun a b => isBlank a == isBlank b) = [piece] := by
  refine List.splitBy_of_isChain hne (List.Pairwise.isChain ?_)
  refine List.pairwise_of_forall_mem_list fun a ha b hb => ?_
  rw [h a ha, h b hb, beq_self_eq_true]

theorem words_of_blanks {gap : List Char} (h : ∀ c ∈ gap, isBlank c = true) : words gap = [] := by
  cases gap with
  | nil => rfl
  | cons c gap =>
    rw [words, splitBy_of_uniform (List.cons_ne_nil c gap) h]
    simp [h c List.mem_cons_self]

theorem words_of_word {word : List Char} (hne : word ≠ []) (h : ∀ c ∈ word, isBlank c = false) :
    words word = [word] := by
  have hplain : word.any isBlank = false := List.any_eq_false.mpr fun c hc => by simp [h c hc]
  rw [words, splitBy_of_uniform hne h, List.filter_singleton, hplain]
  rfl

/-- Two texts have the words of both if one ends in a blank where the other starts with none, or
the other way round. -/
theorem words_append {before after : List Char}
    (h : ∀ a ∈ before.getLast?, ∀ b ∈ after.head?, isBlank a ≠ isBlank b) :
    words (before ++ after) = words before ++ words after := by
  have hcut : ∀ a ∈ before.getLast?, ∀ b ∈ after.head?, (isBlank a == isBlank b) = false :=
    fun a ha b hb => beq_eq_false_iff_ne.mpr (h a ha b hb)
  rw [words, List.splitBy_append hcut, List.filter_append]
  rfl

theorem words_cons_blank {c : Char} (hc : isBlank c = true) (text : List Char) :
    words (c :: text) = words text := by
  have hgap : ∀ {gap : List Char}, (∀ b ∈ gap, isBlank b = true) →
      words (gap ++ trimStart text) = words (trimStart text) := by
    intro gap hgap
    rw [words_append, words_of_blanks hgap, List.nil_append]
    intro a ha b hb
    rw [hgap a (List.mem_of_getLast? ha), not_isBlank_head_trimStart text b hb]
    decide
  obtain ⟨gap, htext, hblank⟩ := exists_trimStart text
  calc words (c :: text)
      = words ((c :: gap) ++ trimStart text) := by rw [List.cons_append, ← htext]
    _ = words (trimStart text) := hgap (List.forall_mem_cons.mpr ⟨hc, hblank⟩)
    _ = words (gap ++ trimStart text) := (hgap hblank).symm
    _ = words text := by rw [← htext]

theorem HoldsWords.words_eq {text : List Char} {ws : List (List Char)} (h : HoldsWords text ws) :
    words text = ws := by
  induction h with
  | nil => rfl
  | blank hc _ ih => rw [words_cons_blank hc, ih]
  | word hne hword hend _ ih =>
    rw [words_append, words_of_word hne hword, ih, List.singleton_append]
    intro a ha b hb
    rw [hword a (List.mem_of_getLast? ha), hend b hb]
    decide

/-- Every text holds some words. A character that is not blank is a word by itself, or belongs to
the word that follows it at once. -/
theorem exists_holdsWords (text : List Char) : ∃ ws, HoldsWords text ws := by
  induction text with
  | nil => exact ⟨[], .nil⟩
  | cons c text ih =>
    obtain ⟨ws, h⟩ := ih
    cases hc : isBlank c with
    | true => exact ⟨ws, .blank hc h⟩
    | false =>
      have halone : ∀ b ∈ [c], isBlank b = false := List.forall_mem_singleton.mpr hc
      cases h with
      | nil => exact ⟨[[c]], .word (List.cons_ne_nil c []) halone nofun .nil⟩
      | blank hb htext =>
        refine ⟨_, .word (List.cons_ne_nil c []) halone (fun b' hb' => ?_) (.blank hb htext)⟩
        obtain rfl := Option.some.inj hb'
        exact hb
      | word hne hword hend htext =>
        exact ⟨_, .word (List.cons_ne_nil c _) (List.forall_mem_cons.mpr ⟨hc, hword⟩) hend htext⟩

theorem holdsWords_words (text : List Char) : HoldsWords text (words text) := by
  obtain ⟨ws, h⟩ := exists_holdsWords text
  rwa [h.words_eq]

theorem holdsWords_iff {text : List Char} {ws : List (List Char)} :
    HoldsWords text ws ↔ ws = words text :=
  ⟨fun h => h.words_eq.symm, fun h => h ▸ holdsWords_words text⟩

/-! ## Blanks around words -/

theorem HoldsWords.append {before after : List Char} {ws vs : List (List Char)} {c : Char}
    (hc : isBlank c = true) (h : HoldsWords before ws) (hafter : HoldsWords after vs) :
    HoldsWords (before ++ c :: after) (ws ++ vs) := by
  induction h with
  | nil => exact .blank hc hafter
  | blank hb _ ih => exact .blank hb ih
  | @word word text ws hne hword hend _ ih =>
    rw [List.append_assoc]
    refine .word hne hword (fun b hb => ?_) ih
    cases text with
    | nil =>
      obtain rfl := Option.some.inj hb
      exact hc
    | cons => exact hend b hb

/-- A blank parts the words in front of it from those behind it. -/
theorem words_append_blank {c : Char} (hc : isBlank c = true) (before after : List Char) :
    words (before ++ c :: after) = words before ++ words after :=
  ((holdsWords_words before).append hc (holdsWords_words after)).words_eq

theorem words_blanks_append {gap : List Char} (h : ∀ c ∈ gap, isBlank c = true)
    (text : List Char) : words (gap ++ text) = words text := by
  induction gap with
  | nil => rfl
  | cons c gap ih =>
    obtain ⟨hc, hgap⟩ := List.forall_mem_cons.mp h
    rw [List.cons_append, words_cons_blank hc, ih hgap]

theorem words_append_blanks (text : List Char) {gap : List Char}
    (h : ∀ c ∈ gap, isBlank c = true) : words (text ++ gap) = words text := by
  cases gap with
  | nil => rw [List.append_nil]
  | cons c gap =>
    obtain ⟨hc, hgap⟩ := List.forall_mem_cons.mp h
    rw [words_append_blank hc, words_of_blanks hgap, List.append_nil]

theorem words_trim (text : List Char) : words (trim text) = words text := by
  obtain ⟨before, after, htext, hbefore, hafter⟩ := exists_trim text
  have hwords : words (before ++ trim text ++ after) = words (trim text) := by
    rw [words_append_blanks _ hafter, words_blanks_append hbefore]
  rw [← hwords, ← htext]

/-! ## Blanks between words -/

/-- A word is left as it is. -/
theorem squeeze_go_word {word : List Char} (hne : word ≠ [])
    (h : ∀ c ∈ word, isBlank c = false) (inRun : Bool) (text : List Char) :
    squeeze.go inRun (word ++ text) = word ++ squeeze.go false text := by
  induction word generalizing inRun with
  | nil => exact absurd rfl hne
  | cons c word ih =>
    obtain ⟨hc, hword⟩ := List.forall_mem_cons.mp h
    rw [List.cons_append, squeeze.go, hc, if_neg Bool.false_ne_true, List.cons_append]
    cases word with
    | nil => rfl
    | cons b word => rw [ih (List.cons_ne_nil b word) hword]

/-- The words of a text stay when its blanks are squeezed, whatever stood in front of it. -/
theorem HoldsWords.squeeze_go {text : List Char} {ws : List (List Char)} (h : HoldsWords text ws)
    (inRun : Bool) : HoldsWords (squeeze.go inRun text) ws := by
  induction h generalizing inRun with
  | nil => exact .nil
  | blank hc _ ih =>
    rw [squeeze.go, if_pos hc]
    cases inRun with
    | true => exact ih true
    | false => exact .blank isBlank_space (ih true)
  | @word word text ws hne hword hend _ ih =>
    rw [squeeze_go_word hne hword]
    refine .word hne hword (fun b hb => ?_) (ih false)
    cases text with
    | nil => cases hb
    | cons c text =>
      rw [squeeze.go, hend c rfl] at hb
      obtain rfl := Option.some.inj hb
      exact isBlank_space

theorem words_squeeze (text : List Char) : words (squeeze text) = words text :=
  ((holdsWords_words text).squeeze_go false).words_eq

/-- No word is lost, and they stay in order. -/
theorem words_collapse (text : List Char) : words (collapse text) = words text := by
  rw [collapse, words_trim, words_squeeze]

theorem not_isBlank_getLast_right {before text : List Char}
    (h : ∀ c ∈ (before ++ text).getLast?, isBlank c = false) :
    ∀ c ∈ text.getLast?, isBlank c = false := by
  intro c hc
  refine h c ?_
  rw [List.getLast?_append, Option.mem_def.mp hc]
  rfl

/-- A squeezed text that starts with a blank starts with a space, and no blank follows. -/
theorem IsSqueezed.trimStart_cons {c : Char} {text : List Char} (h : IsSqueezed (c :: text))
    (hc : isBlank c = true) : c = ' ' ∧ trimStart (c :: text) = text := by
  have hnext : ∀ b ∈ text.head?, isBlank b = false := fun b hb =>
    Bool.eq_false_iff.mpr fun hblank => (List.isChain_cons.mp h.single).1 b hb ⟨hc, hblank⟩
  exact ⟨h.spaces c List.mem_cons_self hc,
    (trimStart_blank_cons hc text).trans (trimStart_eq_self hnext)⟩

theorem trimStart_word_append {word : List Char} (hne : word ≠ [])
    (h : ∀ c ∈ word, isBlank c = false) (text : List Char) :
    trimStart (word ++ text) = word ++ text := by
  obtain ⟨c, word, rfl⟩ := List.exists_cons_of_ne_nil hne
  exact trimStart_of_not_blank (h c List.mem_cons_self) _

/-- A squeezed text that ends with a word is its words with a space between them, apart from the
blank that it may start with. -/
theorem HoldsWords.trimStart_eq {text : List Char} {ws : List (List Char)} (h : HoldsWords text ws)
    (hsqueezed : IsSqueezed text) (hlast : ∀ c ∈ text.getLast?, isBlank c = false) :
    trimStart text = [' '].intercalate ws := by
  induction h with
  | nil => rfl
  | @blank c text ws hc _ ih =>
    have htext : IsSqueezed text := @IsSqueezed.of_append_right [c] text hsqueezed
    rw [trimStart_blank_cons hc, ih htext (@not_isBlank_getLast_right [c] text hlast)]
  | @word word text ws hne hword hend htext ih =>
    have hsqueezed : IsSqueezed text := hsqueezed.of_append_right
    have hlast : ∀ c ∈ text.getLast?, isBlank c = false := not_isBlank_getLast_right hlast
    have hwords := ih hsqueezed hlast
    rw [trimStart_word_append hne hword]
    cases text with
    | nil =>
      obtain rfl : [] = ws := htext.words_eq
      rw [List.append_nil, List.intercalate_singleton]
    | cons c text =>
      -- The one blank behind the word is the space, and another word follows.
      obtain ⟨rfl, htrim⟩ := hsqueezed.trimStart_cons (hend c rfl)
      rw [htrim] at hwords
      have hne' : ws ≠ [] := by
        rintro rfl
        obtain rfl : text = [] := hwords
        exact Bool.false_ne_true ((hlast ' ' rfl).symm.trans isBlank_space)
      obtain ⟨next, ws, rfl⟩ := List.exists_cons_of_ne_nil hne'
      rw [List.intercalate_cons_cons, ← hwords, List.append_assoc, List.singleton_append]

/-- A text without superfluous blanks is its words with one space between each two. -/
theorem collapse_eq_intercalate (text : List Char) :
    collapse text = [' '].intercalate (words text) := by
  have hends : trimStart (collapse text) = collapse text :=
    trimStart_eq_self (not_isBlank_head_trim _)
  rw [← hends, ← words_collapse]
  exact (holdsWords_words _).trimStart_eq (isSqueezed_collapse text) (not_isBlank_getLast_trim _)

/-- A tab and a line feed part two words, and a wide space stands behind the last one. -/
example : collapse "\t one\t\ntwo \u2003".toList = "one two".toList := by decide

/-! ## Strings -/

def wordsOf (s : String) : List String := (words s.toList).map String.ofList

/-- The words of a string with one space between each two. -/
def spaced (s : String) : String := joinWith " " (wordsOf s)

theorem map_toList_wordsOf (s : String) : (wordsOf s).map String.toList = words s.toList := by
  rw [wordsOf, List.map_map]
  exact (List.map_congr_left fun word _ => String.toList_ofList).trans (List.map_id _)

theorem toList_spaced (s : String) : (spaced s).toList = collapse s.toList := by
  rw [spaced, joinWith, String.toList_intercalate, map_toList_wordsOf, collapse_eq_intercalate]
  rfl

theorem spaced_eq (s : String) : spaced s = String.ofList (collapse s.toList) := by
  rw [← toList_spaced, String.ofList_toList]

@[simp] theorem wordsOf_spaced (s : String) : wordsOf (spaced s) = wordsOf s := by
  rw [wordsOf, toList_spaced, words_collapse, wordsOf]

theorem wordsOf_append_space (s t : String) :
    wordsOf (s ++ " " ++ t) = wordsOf s ++ wordsOf t := by
  have htext : (s ++ " " ++ t).toList = s.toList ++ ' ' :: t.toList := by simp
  rw [wordsOf, htext, words_append_blank isBlank_space, List.map_append, wordsOf, wordsOf]

theorem spaced_append_space (s t : String) :
    spaced (s ++ " " ++ t) = spaced (spaced s ++ " " ++ spaced t) := by
  rw [spaced, spaced.eq_def (spaced s ++ " " ++ spaced t), wordsOf_append_space,
    wordsOf_append_space, wordsOf_spaced, wordsOf_spaced]

/-- No blank is at an end of the text, and those inside are single spaces. -/
structure IsSpaced (text : List Char) : Prop extends IsSqueezed text where
  head : ∀ c ∈ text.head?, isBlank c = false
  last : ∀ c ∈ text.getLast?, isBlank c = false

theorem isSpaced_collapse (text : List Char) : IsSpaced (collapse text) where
  toIsSqueezed := isSqueezed_collapse text
  head := not_isBlank_head_trim _
  last := not_isBlank_getLast_trim _

end Text

/-! ## Main result -/

namespace Validator

/-- Both entry points make the second value of the first one, whether its key is there or not. -/
def Delivers (v : Validator) (x y : Value) : Prop :=
  ∀ awaiting present, (v.validated awaiting x present).outcome? = some (.ok (.success y))

/-- What ends at once is delivered. -/
theorem delivers_of_evaluate {v : Validator} {x y : Value}
    (h : ∀ site, v.evaluate site x = .done (.success y)) : v.Delivers x y := by
  intro awaiting present
  refine outcome?_validated_of_some ?_
  rw [h, Run.carriedOut_done]
  rfl

end Validator

namespace Conversion

open Validator Text

/-- A conversion of texts hands what it makes to its child. -/
theorem evaluate_apply_text {c : Conversion} (hguard : c.guard = isString none)
    {child : Validator} (hinner : c.inner child = child) {s : String} {y : Value}
    (hconvert : c.convert (.str s) = .ok y) (site : Site) :
    (c.apply child none).evaluate site (.str s) = child.evaluate .plain y := by
  have hplain : c.apply child none = .coercion c.target c.guard c.convert (c.inner child) {} := rfl
  rw [hplain, evaluate_of_unset rfl, body_coercion, Check.coerced, hconvert, hguard, hinner]
  rfl

theorem convert_collapsed (s : String) : collapsed.convert (.str s) = .ok (.str (spaced s)) := by
  rw [spaced_eq]
  rfl

theorem convert_pieces_of_blanks (s : String) :
    (pieces .null).convert (.str s) = .ok (.list ((wordsOf s).map .str)) := by
  rw [wordsOf, List.map_map]
  rfl

theorem evaluate_collapsed (child : Validator) (site : Site) (s : String) :
    (collapsed.apply child none).evaluate site (.str s) =
      child.evaluate .plain (.str (spaced s)) :=
  evaluate_apply_text rfl rfl (convert_collapsed s) site

theorem evaluate_trimmed (child : Validator) (site : Site) (s : String) :
    (trimmed.apply child none).evaluate site (.str s) =
      child.evaluate .plain (.str (String.ofList (trim s.toList))) :=
  evaluate_apply_text rfl rfl rfl site

theorem delivers_collapsed (s : String) :
    (collapsed.apply .valid none).Delivers (.str s) (.str (spaced s)) :=
  delivers_of_evaluate fun site => by rw [evaluate_collapsed]; rfl

/-- What collapsing the blanks of a text makes of it, at both entry points, is its words with one
space between each two, a word being a longest piece without blanks; they are also the pieces that
a text is split into at its blanks. Nothing changes when the text is trimmed before or after, and
the parts of a text may be collapsed before the whole. -/
theorem collapsed_text_is_its_words (s : String) :
    (collapsed.apply .valid none).Delivers (.str s) (.str (joinWith " " (wordsOf s))) ∧
      (∀ ws, HoldsWords s.toList ws ↔ ws = (wordsOf s).map String.toList) ∧
      ((pieces .null).apply .valid none).Delivers (.str s) (.list ((wordsOf s).map .str)) ∧
      IsSpaced (spaced s).toList ∧ wordsOf (spaced s) = wordsOf s ∧
      (collapsed.apply (trimmed.apply .valid none) none).Delivers (.str s) (.str (spaced s)) ∧
      (trimmed.apply (collapsed.apply .valid none) none).Delivers (.str s) (.str (spaced s)) ∧
      ∀ t, (collapsed.apply .valid none).Delivers (.str (s ++ " " ++ t))
          (.str (spaced (s ++ " " ++ t))) ∧
        (collapsed.apply .valid none).Delivers (.str (spaced s ++ " " ++ spaced t))
          (.str (spaced (s ++ " " ++ t))) := by
  refine ⟨delivers_collapsed s, fun ws => ?_, ?_, ?_, wordsOf_spaced s, ?_, ?_, fun t => ⟨?_, ?_⟩⟩
  · rw [map_toList_wordsOf]
    exact holdsWords_iff
  · refine delivers_of_evaluate fun site => ?_
    rw [evaluate_apply_text rfl rfl (convert_pieces_of_blanks s)]
    rfl
  · rw [toList_spaced]
    exact isSpaced_collapse s.toList
  · refine delivers_of_evaluate fun site => ?_
    have htrim : String.ofList (trim (spaced s).toList) = spaced s := by
      rw [toList_spaced, collapse, trim_trim, ← collapse, spaced_eq]
    rw [evaluate_collapsed, evaluate_trimmed, htrim]
    rfl
  · refine delivers_of_evaluate fun site => ?_
    have htrim : spaced (String.ofList (trim s.toList)) = spaced s := by
      rw [spaced, wordsOf, String.toList_ofList, words_trim, ← wordsOf, ← spaced]
    rw [evaluate_trimmed, evaluate_collapsed, htrim]
    rfl
  · exact delivers_collapsed _
  · rw [spaced_append_space]
    exact delivers_collapsed _

end Conversion
end Conform
