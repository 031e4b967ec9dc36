import Conform.Environment.Standard
import Conform.Proofs.DefinitionFlaws
import Conform.Validator.Evaluate

/-
  Which types of nodes are recognised. The type that a node gives may be any value; its name is the
  text of the value in small letters. The names of types hold letters and low lines only, and the
  text of a value that is no text, nor absent, nor a truth value, nor a floating-point number
  without an expansion, holds a character of another sort, which small letters leave as it is
  (`isMark`). So a value that is no text names a type in one case only: the absent value is written
  like the name of the type that accepts what no validator accepts.

  Main results:
  * `load_rejects_unnamed_types`: loading fails if a node that is built gives no type, or one that
    is neither a text that names a type nor the absent value.
  * `node_of_null_type`: a node with the absent value for its type is the node of that other type.
    So it does give a validator, and one that accepts everything if it has no members
    (`load_accepts_null_type`).
-/

namespace Conform

/-! ## Small letters -/

namespace Text

/-- Characters that no name of a type has, and that have no small form but themselves. -/
def isMark (c : Char) : Bool :=
  c.isDigit || ['.', '-', '[', '(', '\x7b', '\x27', '"'].contains c

theorem mem_lower_go {c : Char} (hsmall : lowerChar c = c) (hsigma : c ≠ 'Σ') (hdotted : c ≠ 'İ')
    {text : List Char} (h : c ∈ text) (before : List Char) : c ∈ lower.go before text := by
  induction text generalizing before with
  | nil => cases h
  | cons d rest ih =>
    rw [lower.go]
    cases List.mem_cons.mp h with
    | inl hhead =>
      refine List.mem_append_left _ ?_
      subst hhead
      simp [hsigma, hdotted, hsmall]
    | inr hrest => exact List.mem_append_right _ (ih hrest _)

/-- What is no letter has no other small form. -/
theorem lowerChar_of_not_letter {c : Char} (hascii : c.toNat < 0x80)
    (hletter : c.toNat < 0x41 ∨ 0x5A < c.toNat) : lowerChar c = c := by
  rw [lowerChar, if_pos hascii]
  refine dif_neg fun hcapital => ?_
  have hfrom : 0x41 ≤ c.toNat := UInt32.le_iff_toNat_le.mp hcapital.1
  have hto : c.toNat ≤ 0x5A := UInt32.le_iff_toNat_le.mp hcapital.2
  omega

theorem toNat_of_isMark {c : Char} (h : isMark c = true) :
    c.toNat < 0x80 ∧ (c.toNat < 0x41 ∨ 0x5A < c.toNat) := by
  rw [isMark, Bool.or_eq_true] at h
  cases h with
  | inl hdigit =>
    have hto : c.toNat ≤ 0x39 :=
      UInt32.le_iff_toNat_le.mp (of_decide_eq_true (Bool.and_eq_true_iff.mp hdigit).2)
    omega
  | inr hlisted =>
    have hall : ['.', '-', '[', '(', '\x7b', '\x27', '"'].all (fun d =>
        decide (d.toNat < 0x80 ∧ (d.toNat < 0x41 ∨ 0x5A < d.toNat))) = true := by decide
    exact of_decide_eq_true (List.all_eq_true.mp hall c (List.contains_iff_mem.mp hlisted))

/-- A mark stays in a text in small letters. -/
theorem exists_mark_lower {text : List Char} (h : ∃ c ∈ text, isMark c = true) :
    ∃ c ∈ lower text, isMark c = true := by
  obtain ⟨c, hc, hmark⟩ := h
  obtain ⟨hascii, hletter⟩ := toNat_of_isMark hmark
  have hsmall := lowerChar_of_not_letter hascii hletter
  have hsigma : c ≠ 'Σ' := fun hsame => absurd (hsame ▸ hascii) (by decide)
  have hdotted : c ≠ 'İ' := fun hsame => absurd (hsame ▸ hascii) (by decide)
  exact ⟨c, mem_lower_go hsmall hsigma hdotted hc [], hmark⟩

end Text

/-! ## Texts of values -/

def HasMark (text : String) : Prop := ∃ c ∈ text.toList, Text.isMark c = true

theorem hasMark_ofList {chars : List Char} {c : Char} (hc : c ∈ chars)
    (hmark : Text.isMark c = true) : HasMark (String.ofList chars) := by
  refine ⟨c, ?_, hmark⟩
  rwa [String.toList_ofList]

theorem HasMark.append_left {s t : String} (h : HasMark t) : HasMark (s ++ t) := by
  obtain ⟨c, hc, hmark⟩ := h
  refine ⟨c, ?_, hmark⟩
  rw [String.toList_append]
  exact List.mem_append_right _ hc

theorem HasMark.append_right {s t : String} (h : HasMark s) : HasMark (s ++ t) := by
  obtain ⟨c, hc, hmark⟩ := h
  refine ⟨c, ?_, hmark⟩
  rw [String.toList_append]
  exact List.mem_append_left _ hc

theorem exists_digit (n : Nat) : ∃ c ∈ Nat.toDigits 10 n, Text.isMark c = true := by
  obtain ⟨c, hc⟩ := List.exists_mem_of_ne_nil _ (Nat.toDigits_ne_nil (n := n) (b := 10))
  have hdigit : c.isDigit = true := Nat.isDigit_of_mem_toDigits (by decide) (by decide) hc
  refine ⟨c, hc, ?_⟩
  rw [Text.isMark, hdigit]
  rfl

theorem hasMark_decimal (n : Nat) : HasMark (Text.decimal n) := by
  obtain ⟨c, hc, hmark⟩ := exists_digit n
  exact hasMark_ofList hc hmark

theorem hasMark_signedDecimal (n : Int) : HasMark (Text.signedDecimal n) := by
  cases n with
  | ofNat n => exact hasMark_decimal n
  | negSucc n => exact (hasMark_decimal (n + 1)).append_left

theorem hasMark_paddedDecimal (width n : Nat) : HasMark (Text.paddedDecimal width n) := by
  obtain ⟨c, hc, hmark⟩ := exists_digit n
  exact hasMark_ofList (List.mem_append_right _ hc) hmark

theorem hasMark_decimalText (d : Binary64.Decimal) : HasMark d.text := by
  unfold Binary64.Decimal.text
  dsimp only
  split
  · -- positional: there is a point
    split
    · exact hasMark_ofList (c := '.') (by simp) (by decide)
    · split
      · exact hasMark_ofList (c := '.') (by simp) (by decide)
      · exact hasMark_ofList (c := '.') (by simp) (by decide)
  · exact (hasMark_paddedDecimal 2 _).append_left

/-- The text of a floating-point number has a digit or a point, or is one of three words. -/
theorem float_text_cases (x : Binary64) :
    HasMark x.text ∨ x.text = "nan" ∨ x.text = "inf" := by
  unfold Binary64.text
  cases x with
  | nan => exact .inr (.inl rfl)
  | infinite negative =>
    cases negative with
    | true => exact .inl ⟨'-', by decide, by decide⟩
    | false => exact .inr (.inr rfl)
  | finite negative m e =>
    refine .inl (HasMark.append_left ?_)
    split
    · exact ⟨'.', by decide, by decide⟩
    · exact hasMark_decimalText _

theorem hasMark_quotedBytes (bytes : List UInt8) : HasMark (Text.quotedBytes bytes) := by
  unfold Text.quotedBytes Text.quoteFor
  dsimp only
  split
  · exact hasMark_ofList (c := '"') (by simp) (by decide)
  · exact hasMark_ofList (c := '\x27') (by simp) (by decide)

theorem hasMark_dateText (d : Date) : HasMark d.text :=
  (hasMark_paddedDecimal 2 d.day).append_left

/-- What is neither a text nor absent has a mark in its text, or is a truth value or a
floating-point number without an expansion. -/
theorem display_cases {x : Value} (htext : ∀ s, x ≠ .str s) (hnull : x ≠ .null) :
    HasMark x.display ∨ x.display ∈ ["True", "False", "nan", "inf"] := by
  cases x with
  | null => exact absurd rfl hnull
  | str s => exact absurd rfl (htext s)
  | bool b =>
    cases b with
    | true => exact .inr (by decide)
    | false => exact .inr (by decide)
  | int n => exact .inl (hasMark_signedDecimal n)
  | float x =>
    have hcases := float_text_cases x
    have hdisplay : (Value.float x).display = x.text := rfl
    rw [hdisplay]
    rcases hcases with hmark | hnan | hinf
    · exact .inl hmark
    · exact .inr (by simp [hnan])
    · exact .inr (by simp [hinf])
  | bytes b => exact .inl (hasMark_quotedBytes b)
  | list xs => exact .inl (HasMark.append_right (HasMark.append_right ⟨'[', by decide, by decide⟩))
  | tuple xs =>
    have hopening : HasMark "(" := ⟨'(', by decide, by decide⟩
    change HasMark (Value.literal (.tuple xs)) ∨ _
    unfold Value.literal
    split
    · exact .inl hopening.append_right.append_right
    · exact .inl hopening.append_right.append_right
  | set xs =>
    change HasMark (Value.literal (.set xs)) ∨ _
    unfold Value.literal
    split
    · exact .inl ⟨'(', by decide, by decide⟩
    · exact .inl (HasMark.append_right (HasMark.append_right ⟨'\x7b', by decide, by decide⟩))
  | frozenset xs =>
    change HasMark (Value.literal (.frozenset xs)) ∨ _
    unfold Value.literal
    split
    · exact .inl ⟨'(', by decide, by decide⟩
    · exact .inl (HasMark.append_right (HasMark.append_right ⟨'(', by decide, by decide⟩))
  | map entries =>
    exact .inl (HasMark.append_right (HasMark.append_right ⟨'\x7b', by decide, by decide⟩))
  | datetime t =>
    have hdate := hasMark_dateText t.date
    exact .inl (hdate.append_right.append_right.append_right.append_right.append_right
      |>.append_right.append_right.append_right)
  | date d => exact .inl (hasMark_dateText d)

/-! ## Types of nodes -/

namespace Definition

theorem isMark_of_mem_name (type : NodeType) : ∀ c ∈ type.name.toList, Text.isMark c = false := by
  have hall : type.name.toList.all (fun c => !Text.isMark c) = true := by cases type <;> decide
  intro c hc
  have hmark := List.all_eq_true.mp hall c hc
  rwa [Bool.not_eq_true'] at hmark

theorem ofName?_lower_of_hasMark {text : String} (h : HasMark text) :
    NodeType.ofName? (String.ofList (Text.lower text.toList)) = none := by
  cases hname : NodeType.ofName? (String.ofList (Text.lower text.toList)) with
  | none => rfl
  | some type =>
    obtain ⟨c, hc, hmark⟩ := Text.exists_mark_lower h
    have hspelt : type.name.toList = Text.lower text.toList := by
      rw [NodeType.name_of_ofName? hname, String.toList_ofList]
    have hunmarked := isMark_of_mem_name type c (by rwa [hspelt])
    rw [hmark] at hunmarked
    cases hunmarked

/-- The node gives a text that names a type, in small letters or others. -/
def NamesType (x : Value) : Prop :=
  ∃ (entries : Entries) (s : String) (type : NodeType), x = .map entries ∧
    entries.get? "type" = some (.str s) ∧
    NodeType.ofName? (String.ofList (Text.lower s.toList)) = some type

/-- The node gives the absent value for its type. -/
def HasNullType (x : Value) : Prop :=
  ∃ entries : Entries, x = .map entries ∧ entries.get? "type" = some .null

theorem typeOf?_map (entries : Entries) :
    typeOf? (.map entries) = (entries.get? "type").bind fun x =>
      NodeType.ofName? (String.ofList (Text.lower x.display.toList)) := by
  have hempty : NodeType.ofName? "" = none := by decide
  simp only [typeOf?, typeNameOf]
  cases entries.get? "type" with
  | none => exact hempty
  | some x => rfl

/-- Types are recognised by their names, apart from the absent value. -/
theorem namesType_of_typeOf? {x : Value} {type : NodeType} (h : typeOf? x = some type) :
    NamesType x ∨ HasNullType x := by
  cases x with
  | map entries =>
    rw [typeOf?_map] at h
    obtain ⟨y, hgiven, hname⟩ := Option.bind_eq_some_iff.mp h
    by_cases hnull : y = .null
    · exact .inr ⟨entries, rfl, by rw [hgiven, hnull]⟩
    · by_cases htext : ∃ s, y = .str s
      · obtain ⟨s, hs⟩ := htext
        rw [hs] at hgiven hname
        exact .inl ⟨entries, s, type, rfl, hgiven, hname⟩
      · have hwords : ∀ word ∈ ["True", "False", "nan", "inf"],
            NodeType.ofName? (String.ofList (Text.lower word.toList)) = none := by
          decide +kernel
        have hunnamed : NodeType.ofName? (String.ofList (Text.lower y.display.toList)) = none := by
          cases display_cases (fun s hs => htext ⟨s, hs⟩) hnull with
          | inl hmark => exact ofName?_lower_of_hasMark hmark
          | inr hword => exact hwords _ hword
        rw [hunnamed] at hname
        cases hname
  | _ =>
    have hempty : NodeType.ofName? "" = none := by decide
    exact absurd (hempty.symm.trans h) nofun

/-- A value gives no type exactly if it neither names one nor gives the absent value for it. -/
theorem typeOf?_eq_none_iff (x : Value) : typeOf? x = none ↔ ¬ NamesType x ∧ ¬ HasNullType x := by
  constructor
  · intro h
    constructor
    · intro hnames
      obtain ⟨entries, s, type, hx, hgiven, hname⟩ := hnames
      have hdisplay : (Value.str s).display = s := rfl
      rw [hx, typeOf?_map, hgiven, Option.bind_some, hdisplay, hname] at h
      cases h
    · intro hnull
      obtain ⟨entries, hx, hgiven⟩ := hnull
      have hname : NodeType.ofName? (String.ofList (Text.lower Value.null.display.toList)) =
          some .noneOf := by decide +kernel
      rw [hx, typeOf?_map, hgiven, Option.bind_some, hname] at h
      cases h
  · intro h
    cases htype : typeOf? x with
    | none => rfl
    | some type => exact absurd (namesType_of_typeOf? htype) (not_or.mpr h)

section

variable [Environment]

theorem flawed_of_not_typed {x y : Value} (hbuilds : Builds x y) (h : typeOf? y = none) :
    Flawed x .configuration := by
  refine ⟨y, hbuilds, ?_⟩
  cases y with
  | map entries =>
    rw [ownFlaws_of_no_type h]
    exact List.mem_append_right _ (List.mem_singleton.mpr rfl)
  | _ => exact List.mem_singleton.mpr rfl

/-- Loading fails if the value that is read makes a validator somewhere of a value that gives no
type, or a type that is neither a text that names one nor the absent value. -/
theorem load_rejects_unnamed_types {source : Source} {x y : Value}
    (hread : source.read.outcome? = some (.ok x)) (hbuilds : Builds x y)
    (hunnamed : ¬ NamesType y) (hnull : ¬ HasNullType y) :
    ∃ fault, (load source).outcome? = some (.error fault) := by
  have htype : typeOf? y = none := (typeOf?_eq_none_iff y).mpr ⟨hunnamed, hnull⟩
  have hflawed : FlawedRoot x .configuration := .inr (flawed_of_not_typed hbuilds htype)
  obtain ⟨-, hnone⟩ | ⟨fault, hfault, -⟩ := failsBy_load hread
  · exact absurd hflawed (hnone .configuration)
  · exact ⟨fault, hfault⟩

end

/-- A list whose items are to be of a misspelt type. -/
theorem load_rejects_misspelt_item :
    ∃ fault, (@load .standard (.value (.map [(.str "type", .str "list"),
      (.str "items", .map [(.str "type", .str "strin")])]))).outcome? = some (.error fault) := by
  have htype : typeOf? (.map [(.str "type", .str "list"),
      (.str "items", .map [(.str "type", .str "strin")])]) = some .list := by decide +kernel
  have hitem : typeOf? (.map [(.str "type", .str "strin")]) = none := by decide +kernel
  have hpart : Value.map [(.str "type", .str "strin")] ∈ builtParts
      (.map [(.str "type", .str "list"), (.str "items", .map [(.str "type", .str "strin")])]) := by
    rw [builtParts_of_type htype]
    refine List.mem_append_left _ ?_
    simp [coreParts, setting, Entries.get?, Entries.find?, Value.equals, itemNodes]
  obtain ⟨hunnamed, hnull⟩ := (typeOf?_eq_none_iff _).mp hitem
  exact @load_rejects_unnamed_types .standard _ _ _ rfl (.inside hpart (.self _)) hunnamed hnull

/-- The absent value for a type has the same effect as the name of the type that accepts what no
validator accepts. -/
theorem node_of_null_type [Environment] {entries entries' : Entries}
    (hnull : entries.get? "type" = some .null)
    (hnone : entries'.get? "type" = some (.str "none"))
    (hsame : ∀ key, key ≠ "type" → entries'.get? key = entries.get? key) :
    (part (.map entries)).node = (part (.map entries')).node := by
  have hget : ∀ key, key ≠ "type" →
      Settings.get? (settingsOf entries) key = Settings.get? (settingsOf entries') key := by
    intro key hkey
    rw [get?_settingsOf, get?_settingsOf, hsame key hkey]
  have hvalue : ∀ key, key ≠ "type" →
      Settings.value (settingsOf entries) key = Settings.value (settingsOf entries') key := by
    intro key hkey
    rw [Settings.value, Settings.value, hget key hkey]
  have hname : Settings.typeName (settingsOf entries) = "none" := by
    rw [typeName_settingsOf, typeNameOf, hnull]
    decide +kernel
  have hname' : Settings.typeName (settingsOf entries') = "none" := by
    rw [typeName_settingsOf, typeNameOf, hnone]
    decide +kernel
  have hon : ∀ key, key ≠ "type" →
      Settings.isOn (settingsOf entries) key = Settings.isOn (settingsOf entries') key := by
    intro key hkey
    rw [Settings.isOn, Settings.isOn, hvalue key hkey]
  have hmessage : Settings.value? (settingsOf entries) "message" =
      Settings.value? (settingsOf entries') "message" := by
    rw [Settings.value?, Settings.value?, hvalue "message" (by decide)]
  funext path
  have hmembers : children (settingsOf entries) path "validators" =
      children (settingsOf entries') path "validators" := by
    rw [children, children, hget "validators" (by decide)]
  have hconstraints : constraintsOf (settingsOf entries) path =
      constraintsOf (settingsOf entries') path := by
    rw [constraintsOf, constraintsOf, hget "constraints" (by decide)]
  have hshown : requireShowable [Value.null] = requireShowable [Value.str "none"] := rfl
  have hnamed : NodeType.ofName? "none" = some .noneOf := rfl
  change nodeOf (settingsOf entries) path = nodeOf (settingsOf entries') path
  unfold nodeOf
  rw [hname, hname', value_settingsOf, value_settingsOf, setting, setting, hnull, hnone, hnamed]
  simp only [Option.getD_some, hshown, coreNode, hmembers, hconstraints, explained, flagged,
    hmessage, hon "nullable" (by decide), hon "optional" (by decide)]

/-- A node with the absent value for its type gives a validator, and one that accepts. -/
theorem load_accepts_null_type :
    ((@load .standard (.value (.map [(.str "type", .null)]))).bind fun v =>
      v.isValid (.int 1)).answer? = some true := by
  decide +kernel

end Definition
end Conform
