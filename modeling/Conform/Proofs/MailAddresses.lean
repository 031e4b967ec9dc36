import Conform.Pattern.Reader
import Conform.Proofs.LeafAnswers
import Conform.Proofs.PatternEnds

/-
  Mail addresses. `Format.IsMailAddress` says how an address is spelled, a name and the labels of a
  domain, and the main result, `isEmail_iff`, that the pattern for addresses matches a text if it is
  an address or an address with one line break behind it: a place before the final line break counts
  as an end. So the check of a value accepts a text that is no address
  (`hasFormat_email_accepts_break`), but nothing else that is none (`decides_mail_addresses`).
-/

namespace Conform

namespace Format

open Pattern

/-! ## The spelling of addresses -/

def isNameChar (c : Char) : Bool :=
  c.isAlphanum || ".!#$%&'*+/=?^_\x60\x7b|\x7d~-".toList.contains c

def isLabelChar (c : Char) : Bool := c.isAlphanum || c == '-'

def IsName (name : List Char) : Prop := name ≠ [] ∧ ∀ c ∈ name, isNameChar c = true

def IsLabel (label : List Char) : Prop := label ≠ [] ∧ ∀ c ∈ label, isLabelChar c = true

/-- The labels make a domain: there are two or more, and the last one has two or more letters and
nothing else. -/
structure AreLabels (labels : List (List Char)) : Prop where
  several : 2 ≤ labels.length
  each : ∀ label ∈ labels, IsLabel label
  top : ∀ last ∈ labels.getLast?, 2 ≤ last.length ∧ ∀ c ∈ last, c.isAlpha = true

def IsMailAddress (text : List Char) : Prop :=
  ∃ name labels, text = name ++ '@' :: ['.'].intercalate labels ∧ IsName name ∧ AreLabels labels

theorem intercalate_dot (first : List Char) (others : List (List Char)) :
    ['.'].intercalate (first :: others) = first ++ (others.map ('.' :: ·)).flatten := by
  induction others generalizing first with
  | nil => simp [List.intercalate]
  | cons next others ih =>
    rw [List.map_cons, List.flatten_cons, List.cons_append, ← ih]
    rfl

theorem holds_range (first last c : Char) :
    (ClassItem.range first last).holds .exact c = (decide (first ≤ c) && decide (c ≤ last)) := by
  simp [ClassItem.holds, Casing.forms]

theorem holds_single (c d : Char) : (ClassItem.range d d).holds .exact c = (d == c) := by
  rw [holds_range, Bool.eq_iff_iff, Bool.and_eq_true, decide_eq_true_eq, decide_eq_true_eq,
    beq_iff_eq]
  exact ⟨fun h => Char.le_antisymm h.1 h.2, fun h => h ▸ ⟨Char.le_refl d, Char.le_refl d⟩⟩

theorem any_holds_single (listed : List Char) (c : Char) :
    (listed.map fun d => ClassItem.range d d).any (fun item => item.holds .exact c) =
      listed.contains c := by
  rw [List.any_map, List.contains_eq_any_beq]
  congr 1
  funext d
  exact (holds_single c d).trans Bool.beq_comm

/-- The letters are two ranges of characters. -/
theorem isAlpha_eq (c : Char) :
    c.isAlpha = (decide ('A' ≤ c ∧ c ≤ 'Z') || decide ('a' ≤ c) && decide (c ≤ 'z')) := rfl

theorem isAlphanum_eq (c : Char) :
    c.isAlphanum = (c.isAlpha || decide ('0' ≤ c) && decide (c ≤ '9')) := rfl

theorem classHolds_letter (c : Char) :
    classHolds .exact false [.range 'A' 'Z', .range 'a' 'z'] c = c.isAlpha := by
  simp [classHolds, holds_range, isAlpha_eq]

theorem classHolds_alphanum (items : List ClassItem) (c : Char) :
    classHolds .exact false ([.range 'A' 'Z', .range 'a' 'z', .range '0' '9'] ++ items) c =
      (c.isAlphanum || items.any fun item => item.holds .exact c) := by
  simp [classHolds, holds_range, isAlphanum_eq, isAlpha_eq, Bool.or_assoc]

theorem classHolds_name (c : Char) :
    classHolds .exact false ([.range 'A' 'Z', .range 'a' 'z', .range '0' '9'] ++
      ".!#$%&'*+/=?^_\x60\x7b|\x7d~-".toList.map fun c => .range c c) c = isNameChar c := by
  rw [classHolds_alphanum, any_holds_single, isNameChar]

theorem classHolds_label (c : Char) :
    classHolds .exact false [.range 'A' 'Z', .range 'a' 'z', .range '0' '9', .range '-' '-'] c =
      isLabelChar c := by
  refine (classHolds_alphanum [.range '-' '-'] c).trans ?_
  rw [List.any_cons, List.any_nil, Bool.or_false, holds_single, isLabelChar, Bool.beq_comm]

variable {before piece rest : List Char}

theorem mailName_describes : mailName.Describes before piece rest ↔ IsName piece := by
  unfold mailName
  rw [repeated_class_describes]
  simp only [classHolds_name, IsName, Nat.one_le_iff_ne_zero, ne_eq, List.length_eq_zero_iff]

theorem domainLabel_describes : domainLabel.Describes before piece rest ↔ IsLabel piece := by
  unfold domainLabel
  rw [repeated_class_describes]
  simp only [classHolds_label, IsLabel, Nat.one_le_iff_ne_zero, ne_eq, List.length_eq_zero_iff]

theorem topLabel_describes : topLabel.Describes before piece rest ↔
    2 ≤ piece.length ∧ ∀ c ∈ piece, c.isAlpha = true := by
  unfold topLabel
  rw [repeated_class_describes]
  simp only [classHolds_letter]

/-- A label with a dot in front. -/
theorem dotted_describes :
    (Pattern.sequence (.char .exact '.') domainLabel).Describes before piece rest ↔
      ∃ label, piece = '.' :: label ∧ IsLabel label := by
  rw [sequence_describes]
  simp only [char_describes, domainLabel_describes]
  constructor
  · rintro ⟨_, label, rfl, rfl, hlabel⟩
    exact ⟨label, rfl, hlabel⟩
  · rintro ⟨label, rfl, hlabel⟩
    exact ⟨['.'], label, rfl, rfl, hlabel⟩

theorem others_describes :
    (Pattern.repeated (.group 1 (.sequence (.char .exact '.') domainLabel)) 0 none false).Describes
      before piece rest ↔ ∃ labels : List (List Char), piece = (labels.map ('.' :: ·)).flatten ∧
        ∀ label ∈ labels, IsLabel label := by
  have htimes := times_iff fun before piece rest => @dotted_describes before piece rest
  constructor
  · rintro ⟨n, -, -, hpieces⟩
    obtain ⟨pieces, -, rfl, hdotted⟩ := (htimes n before piece rest).mp hpieces
    refine ⟨pieces.map List.tail, ?_, ?_⟩
    · rw [List.map_map]
      congr 1
      refine (List.map_congr_left fun part hpart => ?_).trans (List.map_id pieces) |>.symm
      obtain ⟨label, rfl, -⟩ := hdotted part hpart
      rfl
    · refine List.forall_mem_map.mpr fun part hpart => ?_
      obtain ⟨label, rfl, hlabel⟩ := hdotted part hpart
      exact hlabel
  · rintro ⟨labels, rfl, hlabels⟩
    refine ⟨labels.length, Nat.zero_le _, nofun, (htimes _ before _ rest).mpr
      ⟨labels.map ('.' :: ·), List.length_map _, rfl, fun part hpart => ?_⟩⟩
    obtain ⟨label, hlabel, rfl⟩ := List.mem_map.mp hpart
    exact ⟨label, rfl, hlabels label hlabel⟩

theorem isLabel_of_letters {label : List Char} (hlength : 2 ≤ label.length)
    (h : ∀ c ∈ label, c.isAlpha = true) : IsLabel label := by
  constructor
  · rintro rfl
    cases hlength
  · intro c hc
    rw [isLabelChar, isAlphanum_eq, h c hc]
    rfl

theorem areLabels_iff {first top : List Char} {others : List (List Char)} :
    AreLabels (first :: (others ++ [top])) ↔ IsLabel first ∧ (∀ label ∈ others, IsLabel label) ∧
      2 ≤ top.length ∧ ∀ c ∈ top, c.isAlpha = true := by
  have hlast : (first :: (others ++ [top])).getLast? = some top := by
    rw [← List.cons_append, List.getLast?_append]
    rfl
  constructor
  · rintro ⟨-, heach, htop⟩
    obtain ⟨hfirst, heach⟩ := List.forall_mem_cons.mp heach
    exact ⟨hfirst, fun label hlabel => heach label (List.mem_append_left _ hlabel), htop top hlast⟩
  · rintro ⟨hfirst, hothers, htop⟩
    refine ⟨by simp, List.forall_mem_cons.mpr ⟨hfirst, fun label hlabel => ?_⟩, fun last h => ?_⟩
    · rcases List.mem_append.mp hlabel with hother | hlabel
      · exact hothers label hother
      · rw [List.mem_singleton.mp hlabel]
        exact isLabel_of_letters htop.1 htop.2
    · obtain rfl : top = last := Option.some.inj (hlast.symm.trans h)
      exact htop

theorem AreLabels.exists_eq {labels : List (List Char)} (h : AreLabels labels) :
    ∃ first others top, labels = first :: (others ++ [top]) := by
  obtain ⟨hseveral, -, -⟩ := h
  cases labels with
  | nil => cases hseveral
  | cons first labels =>
    rcases List.eq_nil_or_concat labels with rfl | ⟨others, top, rfl⟩
    · exact absurd hseveral (Nat.not_succ_le_self 1)
    · exact ⟨first, others, top, by rw [List.concat_eq_append]⟩

/-- The pattern describes addresses at the end of a text, or before a line break that ends it. -/
theorem mailAddress_describes :
    mailAddress.Describes [] piece rest ↔
      IsMailAddress piece ∧ (rest = [] ∨ rest = ['\n']) := by
  have hstart : ∀ {piece rest}, (Pattern.lineStart false).Describes [] piece rest ↔ piece = [] :=
    ⟨And.left, fun h => ⟨h, rfl⟩⟩
  unfold mailAddress
  simp only [sequence_describes, hstart, mailName_describes, char_describes,
    domainLabel_describes, others_describes, topLabel_describes, lineEnd_describes]
  constructor
  · rintro ⟨_, _, rfl, rfl, name, _, rfl, hname, _, _, rfl, rfl, first, _, rfl, hfirst, _, _, rfl,
      ⟨others, rfl, hothers⟩, _, _, rfl, rfl, top, _, rfl, htop, rfl, hrest⟩
    refine ⟨⟨name, first :: (others ++ [top]), ?_, hname,
      areLabels_iff.mpr ⟨hfirst, hothers, htop⟩⟩, hrest⟩
    rw [intercalate_dot]
    simp
  · rintro ⟨⟨name, labels, rfl, hname, hlabels⟩, hrest⟩
    obtain ⟨first, others, top, rfl⟩ := hlabels.exists_eq
    obtain ⟨hfirst, hothers, htop⟩ := areLabels_iff.mp hlabels
    refine ⟨[], _, rfl, rfl, name, _, rfl, hname, ['@'], _, rfl, rfl, first, _, ?_, hfirst, _, _,
      rfl, ⟨others, rfl, hothers⟩, ['.'], _, rfl, rfl, top, [], rfl, htop, rfl, hrest⟩
    change ['.'].intercalate _ = _
    rw [intercalate_dot]
    simp

/-- A text is taken for a mail address if it is one, or one with a line break behind it. -/
theorem isEmail_iff (text : List Char) :
    isEmail text = true ↔
      ∃ address, IsMailAddress address ∧ (text = address ∨ text = address ++ ['\n']) := by
  rw [isEmail, matchesStart_iff (by decide), Description.StartsAt]
  simp only [mailAddress_describes]
  constructor
  · rintro ⟨address, rest, rfl, haddress, rfl | rfl⟩
    · exact ⟨address, haddress, .inl (List.append_nil address)⟩
    · exact ⟨address, haddress, .inr rfl⟩
  · rintro ⟨address, haddress, rfl | rfl⟩
    · exact ⟨text, [], (List.append_nil text).symm, haddress, .inl rfl⟩
    · exact ⟨address, ['\n'], rfl, haddress, .inr rfl⟩

/-- The pattern is the one that is written so. -/
theorem read_mailAddress :
    Pattern.read ("^[A-Za-z0-9.!#$%&'*+/=?^_\x60\x7b|\x7d~-]+@[A-Za-z0-9-]+" ++
      "(\\.[A-Za-z0-9-]+)*\\.[A-Za-z]\x7b2,\x7d$") = .ok mailAddress := by
  decide +kernel

/-! ## Characters of addresses -/

/-- A character that can be seen: ASCII, but no control character and no space. -/
def IsGraphic (c : Char) : Prop := '!' ≤ c ∧ c ≤ '~'

theorem isGraphic_iff {c : Char} : IsGraphic c ↔ 0x21 ≤ c.toNat ∧ c.toNat ≤ 0x7E := by
  rw [IsGraphic, Char.le_def, Char.le_def, UInt32.le_iff_toNat_le, UInt32.le_iff_toNat_le]
  exact Iff.rfl

theorem isBlank_of_isGraphic {c : Char} (h : IsGraphic c) : Text.isBlank c = false := by
  have houtside : ∀ range ∈ Text.blankRanges, range.2 < 0x21 ∨ 0x7E < range.1 := by decide
  rw [Bool.eq_false_iff, Text.isBlank, ne_eq, Text.CodeRanges.contains_iff]
  rintro ⟨range, hrange, hinside⟩
  have hrange := houtside range hrange
  have hgraphic := isGraphic_iff.mp h
  omega

theorem isGraphic_of_isAlphanum {c : Char} (h : c.isAlphanum = true) : IsGraphic c ∧ c ≠ '@' := by
  constructor
  · have hval : c.val.toNat = c.toNat := rfl
    simp only [isAlphanum_eq, isAlpha_eq, Bool.or_eq_true, Bool.and_eq_true, decide_eq_true_eq,
      Char.le_def, UInt32.le_iff_toNat_le, Char.reduceVal, UInt32.reduceToNat] at h
    rw [isGraphic_iff]
    omega
  · rintro rfl
    exact absurd h (by decide)

theorem isGraphic_of_isNameChar {c : Char} (h : isNameChar c = true) : IsGraphic c ∧ c ≠ '@' := by
  rcases Bool.or_eq_true_iff.mp h with halphanum | hlisted
  · exact isGraphic_of_isAlphanum halphanum
  · have hall : (".!#$%&'*+/=?^_\x60\x7b|\x7d~-".toList.all fun d =>
        '!' ≤ d && d ≤ '~' && d != '@') = true := by decide +kernel
    have hc := List.all_eq_true.mp hall c (List.contains_iff_mem.mp hlisted)
    rw [Bool.and_eq_true, Bool.and_eq_true, decide_eq_true_eq, decide_eq_true_eq, bne_iff_ne] at hc
    exact hc

theorem isGraphic_of_isLabelChar {c : Char} (h : isLabelChar c = true) : IsGraphic c ∧ c ≠ '@' := by
  rcases Bool.or_eq_true_iff.mp h with halphanum | hhyphen
  · exact isGraphic_of_isAlphanum halphanum
  · rw [eq_of_beq hhyphen]
    exact ⟨isGraphic_iff.mpr (by decide), by decide⟩

/-- All characters of an address can be seen, and one of them is the sign between its parts. -/
theorem IsMailAddress.chars {text : List Char} (h : IsMailAddress text) :
    (∀ c ∈ text, IsGraphic c) ∧ text.count '@' = 1 := by
  obtain ⟨name, labels, rfl, hname, hlabels⟩ := h
  have hnames : ∀ c ∈ name, IsGraphic c ∧ c ≠ '@' := fun c hc =>
    isGraphic_of_isNameChar (hname.2 c hc)
  have hdomain : ∀ c ∈ ['.'].intercalate labels, IsGraphic c ∧ c ≠ '@' := by
    obtain ⟨first, others, top, rfl⟩ := hlabels.exists_eq
    intro c hc
    rw [intercalate_dot, List.mem_append, List.mem_flatten] at hc
    have hchars : ∀ label ∈ first :: (others ++ [top]), c ∈ label → IsGraphic c ∧ c ≠ '@' :=
      fun label hlabel hc => isGraphic_of_isLabelChar ((hlabels.each label hlabel).2 c hc)
    rcases hc with hfirst | ⟨dotted, hdotted, hc⟩
    · exact hchars first List.mem_cons_self hfirst
    · obtain ⟨label, hlabel, rfl⟩ := List.mem_map.mp hdotted
      rcases List.mem_cons.mp hc with rfl | hc
      · exact ⟨isGraphic_iff.mpr (by decide), by decide⟩
      · exact hchars label (List.mem_cons_of_mem first hlabel) hc
  constructor
  · intro c hc
    rcases List.mem_append.mp hc with hc | hc
    · exact (hnames c hc).1
    · rcases List.mem_cons.mp hc with rfl | hc
      · exact isGraphic_iff.mpr (by decide)
      · exact (hdomain c hc).1
  · rw [List.count_append, List.count_cons_self,
      List.count_eq_zero.mpr fun hc => (hnames _ hc).2 rfl,
      List.count_eq_zero.mpr fun hc => (hdomain _ hc).2 rfl]

end Format

namespace Validator

open Format

theorem verdict?_hasFormat_email (message : Option Value) (awaiting present : Bool) (s : String) :
    ((hasFormat .email message).validated awaiting (.str s) present).verdict? =
      some (isEmail s.toList) :=
  verdict?_ofPredicate (isTotal_formatted .email) rfl message awaiting present

/-- The check of a value as a mail address decides every text: it accepts the addresses, and an
address with one line break behind it, and nothing else. All characters of an address can be seen,
and one of them is the sign between its two parts. -/
theorem decides_mail_addresses (message : Option Value) (awaiting present : Bool) (s : String) :
    (∃ accepted, ((hasFormat .email message).validated awaiting (.str s) present).verdict? =
        some accepted ∧
      (accepted = true ↔ ∃ address, IsMailAddress address ∧
        (s.toList = address ∨ s.toList = address ++ ['\n']))) ∧
    ∀ address, IsMailAddress address →
      (∀ c ∈ address, IsGraphic c ∧ Text.isBlank c = false) ∧ address.count '@' = 1 := by
  refine ⟨⟨isEmail s.toList, verdict?_hasFormat_email message awaiting present s,
    isEmail_iff s.toList⟩, fun address haddress => ?_⟩
  obtain ⟨hgraphic, hcount⟩ := haddress.chars
  exact ⟨fun c hc => ⟨hgraphic c hc, isBlank_of_isGraphic (hgraphic c hc)⟩, hcount⟩

/-- An address of two labels. -/
theorem isMailAddress_tagged : IsMailAddress "ada+b@mail.org".toList := by
  have hmail : IsLabel "mail".toList :=
    ⟨by decide, List.all_eq_true.mp (by decide +kernel)⟩
  refine ⟨"ada+b".toList, "mail".toList :: ([] ++ ["org".toList]), by decide, ?_, ?_⟩
  · exact ⟨by decide, List.all_eq_true.mp (by decide +kernel)⟩
  · exact areLabels_iff.mpr ⟨hmail, nofun, by decide, List.all_eq_true.mp (by decide +kernel)⟩

/-- It is accepted, also with a line break behind it. -/
theorem decides_tagged_address :
    ((hasFormat .email none).validated false (.str "ada+b@mail.org\n") true).verdict? =
      some true ∧
    "ada+b@mail.org".toList.count '@' = 1 := by
  obtain ⟨accepted, hverdict, haccepted⟩ :=
    (decides_mail_addresses none false true "ada+b@mail.org\n").1
  obtain rfl := haccepted.mpr ⟨_, isMailAddress_tagged, .inr (by decide)⟩
  exact ⟨hverdict, ((decides_mail_addresses none false true "").2 _ isMailAddress_tagged).2⟩

/-- Not only addresses are accepted: a line break behind one does no harm. -/
theorem hasFormat_email_accepts_break :
    ¬ ∀ s : String,
      ((hasFormat .email none).validated false (.str s) true).verdict? = some true ↔
        IsMailAddress s.toList := by
  intro haddresses
  have hmatches : isEmail "ada@example.com\n".toList = true := by decide +kernel
  have haccepted := (verdict?_hasFormat_email none false true _).trans (congrArg some hmatches)
  have hgraphic := ((haddresses _).mp haccepted).chars.1 '\n' (by decide)
  exact absurd (isGraphic_iff.mp hgraphic) (by decide)

end Validator
end Conform
