import Conform.Proofs.Accounting
import Conform.Proofs.ConvertedTexts
import Conform.Proofs.SameRuns
import Conform.Proofs.Targets
import Mathlib.Data.List.Chain

/-
  Conversions settle: what a conversion makes, it makes of itself again. A value of the type that is
  asked for passes the guard and is left as it is (`makes_of_targets`). On texts cut or collapsed at
  the blanks the type says too little, and what is done to the text has to come to an end: a text
  whose only blanks are single spaces is not squeezed any further (`squeeze_eq_self`).

  Main result: `made_value_stays`. The conversions to small and capital letters, to documents and to
  pieces are left out: a document may be a text that spells another one.
-/

namespace Conform

/-! ## Texts -/

namespace Text

/-- The blanks of the text are spaces, and none stands beside another. -/
structure IsSqueezed (text : List Char) : Prop where
  spaces : ∀ c ∈ text, isBlank c = true → c = ' '
  single : text.IsChain fun a b => ¬ (isBlank a = true ∧ isBlank b = true)

theorem IsSqueezed.of_append {before text after : List Char}
    (h : IsSqueezed (before ++ text ++ after)) : IsSqueezed text where
  spaces c hc := h.spaces c (List.mem_append_left _ (List.mem_append_right _ hc))
  single := h.single.left_of_append.right_of_append

theorem IsSqueezed.of_append_right {before text : List Char} (h : IsSqueezed (before ++ text)) :
    IsSqueezed text :=
  @IsSqueezed.of_append before text [] (by rwa [List.append_nil])

/-- The rest of a text after a blank starts without one when it is squeezed. -/
theorem isSqueezed_go (inRun : Bool) (text : List Char) :
    IsSqueezed (squeeze.go inRun text) ∧
      (inRun = true → ∀ c ∈ (squeeze.go inRun text).head?, isBlank c = false) := by
  induction text generalizing inRun with
  | nil => exact ⟨⟨nofun, .nil⟩, nofun⟩
  | cons c text ih =>
    rw [squeeze.go]
    cases hblank : isBlank c with
    | true =>
      obtain ⟨hrest, hhead⟩ := ih true
      cases inRun with
      | true => exact ⟨hrest, hhead⟩
      | false =>
        refine ⟨⟨?_, ?_⟩, nofun⟩
        · exact List.forall_mem_cons.mpr ⟨fun _ => rfl, hrest.spaces⟩
        · refine List.isChain_cons.mpr ⟨fun b hb hboth => ?_, hrest.single⟩
          rw [hhead rfl b hb] at hboth
          exact Bool.false_ne_true hboth.2
    | false =>
      obtain ⟨hrest, -⟩ := ih false
      refine ⟨⟨?_, ?_⟩, fun _ b hb => ?_⟩
      · refine List.forall_mem_cons.mpr ⟨fun hblank' => ?_, hrest.spaces⟩
        exact absurd (hblank.symm.trans hblank') Bool.false_ne_true
      · refine List.isChain_cons.mpr ⟨fun b _ hboth => ?_, hrest.single⟩
        exact Bool.false_ne_true (hblank.symm.trans hboth.1)
      · obtain rfl := Option.some.inj hb
        exact hblank

theorem isSqueezed_squeeze (text : List Char) : IsSqueezed (squeeze text) :=
  (isSqueezed_go false text).1

theorem squeeze_eq_self {text : List Char} (h : IsSqueezed text) : squeeze text = text := by
  have hgo : ∀ {text : List Char} {inRun : Bool}, IsSqueezed text →
      (inRun = true → ∀ c ∈ text.head?, isBlank c = false) → squeeze.go inRun text = text := by
    intro text
    induction text with
    | nil => exact fun _ _ => rfl
    | cons c text ih =>
      intro inRun h hhead
      have hrest : IsSqueezed text := @IsSqueezed.of_append_right [c] text h
      rw [squeeze.go]
      cases hblank : isBlank c with
      | true =>
        have hspace : c = ' ' := h.spaces c List.mem_cons_self hblank
        have hrun : inRun = false := by
          rw [Bool.eq_false_iff]
          exact fun hrun => Bool.false_ne_true ((hhead hrun c rfl).symm.trans hblank)
        have hnext : ∀ b ∈ text.head?, isBlank b = false := fun b hb =>
          Bool.eq_false_iff.mpr fun hb' => (List.isChain_cons.mp h.single).1 b hb ⟨hblank, hb'⟩
        rw [hrun, if_pos rfl, if_neg Bool.false_ne_true, ih hrest fun _ => hnext, hspace]
      | false => rw [if_neg Bool.false_ne_true, @ih false hrest nofun]
  exact hgo h nofun

theorem isSqueezed_collapse (text : List Char) : IsSqueezed (collapse text) := by
  obtain ⟨before, after, htext, -, -⟩ := exists_trim (squeeze text)
  exact .of_append (htext ▸ isSqueezed_squeeze text)

@[simp] theorem collapse_collapse (text : List Char) :
    collapse (collapse text) = collapse text := by
  have hsqueezed : IsSqueezed (trim (squeeze text)) := isSqueezed_collapse text
  rw [collapse, collapse, squeeze_eq_self hsqueezed, trim_trim]

end Text

namespace Validator

/-- A choice accepts what a member accepts, if the members before it answer at once. -/
theorem exists_accepts_anyOf {before : List Validator} (hanswers : ∀ w ∈ before, w.Answers)
    {v : Validator} {x y : Value} (h : v.Accepts x y) (after : List Validator)
    (message : Option Value) : ∃ z, (anyOf (before ++ v :: after) message).Accepts x z := by
  -- A member before it that accepts has the last word, and one that does not leaves nothing but
  -- what it found wrong.
  have hchoosing : ∀ es, ∃ z, ((Check.choosing message x).start
      ((before ++ v :: after).map toCheck) es).Accepts z := by
    induction before with
    | nil =>
      intro es
      obtain ⟨r, hr, hvalid, -⟩ := h
      rw [List.nil_append, List.map_cons, Check.choosing_cons, toCheck_run]
      refine ⟨r.value, Run.accepts_bind.mpr ⟨r, hr, ?_⟩⟩
      rw [if_pos hvalid, Run.accepts_done]
      exact ⟨hvalid, rfl⟩
    | cons w before ih =>
      intro es
      obtain ⟨hw, hbefore⟩ := List.forall_mem_cons.mp hanswers
      obtain ⟨r, hr⟩ := hw x
      rw [List.cons_append, List.map_cons, Check.choosing_cons, toCheck_run, hr, Run.bind_done]
      cases hvalid : r.isValid with
      | true => exact ⟨r.value, (Run.accepts_done r _).mpr ⟨hvalid, rfl⟩⟩
      | false => exact ih hbefore _
  simp only [Validator.Accepts, evaluate_anyOf]
  exact hchoosing []

end Validator

namespace Conversion

open Validator

/-! ## Values of the type that is asked for -/

/-- The conversions to a type, all values of which they leave as they are. -/
def toTypes : List Conversion := [
  .int, .intStrict, .intSafe, .float, .number, .bool, .boolStrict, .boolLenient, .str, .datetime,
  .dateOnly]

theorem accepts_guard_of_first {c : Conversion} {p : Predicate} {vs : List Validator} {y : Value}
    (hguard : c.guard = anyOf (ofPredicate p none :: vs) none) (haccepts : p.accepts y = .ok true) :
    ∃ g, c.guard.Accepts y g := by
  rw [hguard]
  exact @exists_accepts_anyOf [] nofun _ _ _ ((accepts_ofPredicate p none y y).mpr ⟨haccepts, rfl⟩)
    vs none

/-- The bound in front of a child takes what is in the range. -/
theorem accepts_inner_intSafe_iff (z : Value) :
    (Conversion.intSafe.inner .valid).Accepts z z ↔ Predicate.safeInt.accepts z = .ok true := by
  rw [inner, accepts_and]
  simp [accepts_ofPredicate, accepts_valid]

theorem makes_of_targets {c : Conversion} (hc : c ∈ toTypes) {y : Value} (h : c.Targets y) :
    c.Makes y y := by
  have hinner : c ≠ .intSafe → (c.inner .valid).Accepts y y := by
    intro hother
    cases c with
    | intSafe => exact absurd rfl hother
    | _ => exact (accepts_valid y y).mpr rfl
  rw [makes_iff]
  cases c with
  | int | intStrict =>
    obtain ⟨n, rfl⟩ := h
    exact ⟨accepts_guard_of_first rfl rfl, rfl, hinner nofun⟩
  | intSafe =>
    obtain ⟨n, rfl, hrange⟩ := h
    exact ⟨accepts_guard_of_first rfl rfl, rfl,
      (accepts_inner_intSafe_iff _).mpr ((accepts_safeInt_iff n).mpr hrange)⟩
  | float =>
    obtain ⟨z, rfl⟩ := h
    exact ⟨accepts_guard_of_first rfl rfl, rfl, hinner nofun⟩
  | number =>
    obtain ⟨n, rfl⟩ | ⟨z, rfl⟩ := h
    · exact ⟨accepts_guard_of_first rfl rfl, rfl, hinner nofun⟩
    · exact ⟨accepts_guard_of_first rfl rfl, rfl, hinner nofun⟩
  | bool | boolStrict | boolLenient =>
    obtain ⟨b, rfl⟩ := h
    exact ⟨accepts_guard_of_first rfl rfl, rfl, hinner nofun⟩
  | str =>
    obtain ⟨s, rfl⟩ := h
    exact ⟨⟨.str s, (accepts_ofPredicate _ _ _ _).mpr ⟨rfl, rfl⟩⟩, rfl, hinner nofun⟩
  | datetime =>
    obtain ⟨t, rfl⟩ := h
    exact ⟨accepts_guard_of_first rfl rfl, rfl, hinner nofun⟩
  | dateOnly =>
    obtain ⟨t, rfl, hhour, hminute, hsecond, hmicrosecond⟩ := h
    have hmidnight : t.atMidnight = t := by
      obtain ⟨date, hour, minute, second, microsecond, offset⟩ := t
      simp_all [DateTime.atMidnight]
    refine ⟨accepts_guard_of_first rfl rfl, ?_, hinner nofun⟩
    change Except.ok (Value.datetime t.atMidnight) = _
    rw [hmidnight]
  | _ => simp [toTypes] at hc

/-! ## Texts without some blanks -/

/-- What is done to a text and comes to an end leaves what it made as it is. -/
theorem makes_of_mapText {c : Conversion} {f : List Char → List Char}
    (hguard : c.guard = isString none) (hconvert : c.convert = mapText f)
    (hinner : c.inner .valid = .valid) (hends : ∀ text, f (f text) = f text) {x y : Value}
    (h : c.Makes x y) : c.Makes y y := by
  rw [makes_iff, hguard, hconvert, hinner] at h ⊢
  obtain ⟨-, hmapped, -⟩ := h
  cases x with
  | str s =>
    obtain rfl := Except.ok.inj hmapped
    refine ⟨⟨_, (accepts_ofPredicate _ _ _ _).mpr ⟨rfl, rfl⟩⟩, ?_, (accepts_valid _ _).mpr rfl⟩
    rw [mapText, String.toList_ofList, hends]
  | _ => cases hmapped

/-! ## Main result -/

/-- The conversions that leave what they make as it is. -/
def settling : List Conversion := toTypes ++ [.trimmed, .collapsed]

/-- What one of these conversions makes of a value is of the type that was asked for, and the
conversion makes the same of it again. -/
theorem made_value_stays {c : Conversion} (hc : c ∈ settling) {x y : Value}
    (h : (c.apply .valid none).Yields x y) :
    c.Targets y ∧ (c.apply .valid none).Yields y y := by
  rw [yields_iff_accepts] at h ⊢
  have htargets : c.Targets y := targets_of_makes h
  refine ⟨htargets, ?_⟩
  obtain htype | htext := List.mem_append.mp hc
  · exact makes_of_targets htype htargets
  · obtain rfl | rfl : c = .trimmed ∨ c = .collapsed := by simpa using htext
    · exact makes_of_mapText rfl rfl rfl Text.trim_trim h
    · exact makes_of_mapText rfl rfl rfl Text.collapse_collapse h

/-- A text in the standard form becomes the midnight of its day at the same offset, and that
midnight stays. -/
theorem made_value_stays_midnight :
    Conversion.dateOnly ∈ settling ∧
    (Conversion.dateOnly.apply .valid none).Yields (.str "2024-01-15T10:30:00+02:00")
      (.datetime ⟨⟨2024, 1, 15⟩, 0, 0, 0, 0, some (.fixed 7200000000)⟩) ∧
    (Conversion.dateOnly.apply .valid none).Yields
      (.datetime ⟨⟨2024, 1, 15⟩, 0, 0, 0, 0, some (.fixed 7200000000)⟩)
      (.datetime ⟨⟨2024, 1, 15⟩, 0, 0, 0, 0, some (.fixed 7200000000)⟩) := by
  have hlisted : Conversion.dateOnly ∈ settling := by simp [settling, toTypes]
  have hmakes : (Conversion.dateOnly.apply .valid none).Yields (.str "2024-01-15T10:30:00+02:00")
      (.datetime ⟨⟨2024, 1, 15⟩, 0, 0, 0, 0, some (.fixed 7200000000)⟩) := by
    rw [yields_iff_accepts]
    exact dateOnly_makes_iff.mpr ⟨⟨⟨2024, 1, 15⟩, 10, 30, 0, 0, some (.fixed 7200000000)⟩,
      toOption_eq_some.mp (by decide +kernel), rfl⟩
  exact ⟨hlisted, hmakes, (made_value_stays hlisted hmakes).2⟩

end Conversion
end Conform
