import Conform.Environment.Standard
import Conform.Proofs.DefinitionVerdicts
import Conform.Proofs.EntryPoints

/-
  Leaves answer. `Leaf` lists the leaves of the catalogue by the arguments that they are made of,
  and `Leaf.make` makes them. A leaf asks one partial operation of a value: an order, a length,
  membership, a search in a text, an order of times. `Leaf.suits` says which values have the
  operation, and the main result, `answers_unless_no_byte_is_sought`, that every leaf answers every
  value, suited or not, and rejects those that it does not suit, whatever compiles its expressions.

  There are two exceptions. Bytes can be asked for any whole number, also for one that is no byte,
  and there validation ends in the fault of the membership test
  (`contains_fails_on_bytes_for_no_byte`): a leaf takes the fault of a value without members for a
  rejection, but not this one. And an expression that was compiled to be looked for in bytes cannot
  be looked for in a text, where validation ends in the fault of the search.

  The bounds of a length are validators of the caller. `Leaf.Proper` asks of them that they answer
  every length, which leaves as bounds do (`proper_length_of_leaves`).
-/

namespace Conform

/-- A leaf of the catalogue, by the arguments that it is made of. -/
inductive Leaf where
  | type (types : List TypeName) (name : Option String) (excludeBool : Bool)
  | equal (expected : Value)
  | related (r : Relation) (limit : Value)
  | inRange (low high : Value)
  | oneOf (options : List Value)
  | length (bounds : List Validator)
  | empty
  | contains (item : Value)
  | hasKey (key : String)
  | matching (pattern : GivenExpression)
  | format (format : TextFormat)
  | numberText
  | date (check : DateCheck)
  | datesBetween (start finish : DateTime) (inclusiveStart inclusiveEnd : Bool)

namespace Leaf

/-- The validator of the leaf, if the catalogue accepts the arguments. -/
def make [Environment] (l : Leaf) (message : Option String) : Except Fault Validator :=
  let message := message.map Value.str
  match l with
  | .type types name excludeBool => .ok (Validator.isType types name message excludeBool)
  | .equal expected => .ok (Validator.isEqual expected message)
  | .related r limit => .ok (Validator.isRelated r limit message)
  | .inRange low high => Validator.isInRange low high message
  | .oneOf options => .ok (Validator.isOneOf options message)
  | .length bounds => .ok (Validator.length bounds message)
  | .empty => .ok (Validator.isEmpty message)
  | .contains item => .ok (Validator.contains item message)
  | .hasKey key => .ok (Validator.containsKey (.str key) message)
  | .matching pattern => Validator.matchesPattern pattern message
  | .format f => .ok (Validator.hasFormat f message)
  | .numberText => .ok (Validator.isNumberString message)
  | .date check => .ok (Validator.isDate check message)
  | .datesBetween start finish inclusiveStart inclusiveEnd =>
    Validator.isDateBetween (.datetime start) (.datetime finish) inclusiveStart inclusiveEnd message

/-- The arguments that the message of the leaf shows. -/
def shown : Leaf → List Value
  | .equal expected => [expected]
  | .related _ limit => [limit]
  | .inRange low high => [low, high]
  | .oneOf options => options
  | .contains item => [item]
  | _ => []

/-- The arguments can be used: those that are shown have no number with too many digits, and the
bounds of a length answer every length. -/
def Proper : Leaf → Prop
  | .length bounds => ∀ size : Nat,
    ∃ r, ((Validator.allOf bounds none false).evaluate .plain (.int size)).outcome? = some (.ok r)
  | l => l.shown.all Value.isShowable = true

/-- Whether the value has the operation that the leaf asks of it. -/
def suits (l : Leaf) (x : Value) : Bool :=
  match l with
  | .type _ _ _ | .equal _ | .oneOf _ => true
  | .related r limit => (x.related r limit).isSome
  | .inRange low high => (low.related .le x).isSome && (x.related .le high).isSome
  | .length _ | .empty => x.size?.isSome
  | .contains item =>
    match x.kind with
    | .str => item.kind == .str
    | .bytes => item.kind == .bytes || item.int?.isSome
    | .list | .tuple => true
    | .set | .frozenset => item.kind == .set || item.isHashable
    | .map => item.isHashable
    | _ => false
  | .hasKey _ => x.kind == .map
  | .matching _ | .format _ | .numberText => x.kind == .str
  | .date _ | .datesBetween _ _ _ _ => x.kind == .datetime

/-- Whether the leaf looks among bytes for a whole number that is no byte. -/
def seeksNoByte (l : Leaf) (x : Value) : Bool :=
  match l, x with
  | .contains item, .bytes _ => item.int?.any fun n => !decide (0 ≤ n ∧ n < 256)
  | _, _ => false

/-- Whether the leaf looks in a text for what was compiled to be looked for in bytes. -/
def seeksBytesInText (l : Leaf) (x : Value) : Bool :=
  match l, x with
  | .matching (.compiled (.bytes _)), .str _ => true
  | _, _ => false

/-- Whether the leaf looks in the value for something that cannot be looked for there. -/
def seeksInVain (l : Leaf) (x : Value) : Bool := l.seeksNoByte x || l.seeksBytesInText x

end Leaf

namespace Validator

variable {v : Validator} {x : Value} {suited : Bool}

/-- The validator answers the value, accepts it only if it suits it, and then hands it back. -/
def AnswersOn (v : Validator) (x : Value) (suited : Bool) : Prop :=
  ∀ site, ∃ r, (v.evaluate site x).outcome? = some (.ok r) ∧
    (r.isValid = true → r.value = x ∧ suited = true)

theorem answersOn_of_judges {d : Site → Bool} (h : ∀ site, (v.evaluate site x).Judges x (d site))
    (hsuited : ∀ site, d site = true → suited = true) : v.AnswersOn x suited := by
  intro site
  obtain ⟨r, hr, hvalid, hvalue⟩ := h site
  refine ⟨r, by rw [hr]; rfl, fun haccepts => ?_⟩
  have haccepted : d site = true := hvalid.symm.trans haccepts
  exact ⟨hvalue haccepted, hsuited site haccepted⟩

/-- The leaf of a predicate answers the values on which the predicate has an answer. -/
theorem answersOn_ofPredicate {p : Predicate} {ok : Bool} (hmessage : p.hasMessage = true)
    (hpattern : p ≠ .brokenPattern) (haccepts : p.accepts x = .ok ok)
    (hsuited : ok = true → suited = true) (message : Option Value) :
    (ofPredicate p message).AnswersOn x suited := by
  intro site
  cases ok with
  | true =>
    rw [evaluate_ofPredicate_of_accepts haccepts]
    exact ⟨_, rfl, fun _ => ⟨rfl, hsuited rfl⟩⟩
  | false =>
    rw [evaluate_ofPredicate_of_rejects haccepts, expectation_of_hasMessage hmessage hpattern]
    exact ⟨_, rfl, fun h => absurd h Bool.false_ne_true⟩

/-- A leaf of a predicate that is always answered gives its answer at both entry points. -/
theorem verdict?_ofPredicate {p : Predicate} {ok : Bool} (h : p.IsTotal)
    (haccepts : p.accepts x = .ok ok) (message : Option Value) (awaiting present : Bool) :
    ((ofPredicate p message).validated awaiting x present).verdict? = some ok := by
  obtain ⟨r, hr, hvalid, -⟩ := run_judges_ofPredicate h haccepts message ⟨present, none⟩
  rw [verdict?_validated_iff, hr, Run.carriedOut_done, Run.verdict?_done, hvalid]

/-- A leaf of a predicate that is always answered, and accepts only what suits it. -/
theorem answersOn_check {p : Predicate} (htotal : p.IsTotal)
    (hsuited : p.accepts x = .ok true → suited = true) (message : Option Value) :
    (ofPredicate p message).AnswersOn x suited := by
  obtain ⟨ok, hok⟩ := htotal.accepts x
  refine answersOn_ofPredicate htotal.hasMessage htotal.ne_brokenPattern hok (fun haccepts => ?_)
    message
  rw [haccepts] at hok
  exact hsuited hok

end Validator

namespace Leaf

open Validator

variable {l : Leaf} {message : Option String} {v : Validator}

theorem isSome_related_of_relatedOrFalse {r : Relation} {x y : Value}
    (h : Predicate.relatedOrFalse r x y = true) : (x.related r y).isSome = true := by
  unfold Predicate.relatedOrFalse at h
  cases hrelated : x.related r y with
  | none =>
    rw [hrelated] at h
    cases h
  | some holds => rfl

/-- Only the texts pass a check of texts. -/
theorem kind_of_formatted_accepts {format : TextFormat} {x : Value}
    (h : (Predicate.formatted format).accepts x = .ok true) : (x.kind == .str) = true := by
  cases x with
  | str s => rfl
  | _ => cases h

theorem kind_of_dated_accepts {check : DateCheck} {x : Value}
    (h : (Predicate.dated check).accepts x = .ok true) : (x.kind == .datetime) = true := by
  cases x with
  | datetime t => rfl
  | _ => cases h

theorem isSome_size?_of_lengthVerdict {ds : List Verdict} {x : Value}
    (h : lengthVerdict ds x = true) : x.size?.isSome = true := by
  unfold lengthVerdict at h
  cases hsize : x.size? with
  | none =>
    rw [hsize] at h
    cases h
  | some size => rfl

theorem contains_bytes {item : Value} {n : Int} (h : item.int? = some n) (b : List UInt8) :
    (Value.bytes b).contains item =
      if 0 ≤ n ∧ n < 256 then .ok (b.contains (UInt8.ofNat n.toNat))
      else .error .byteOutOfRange := by
  cases item with
  | int | bool =>
    obtain rfl := Option.some.inj h
    rfl
  | _ => cases h

theorem contains_among (item : Value) (xs : List Value) :
    Value.contains.among item xs =
      if item.kind == .set || item.isHashable then .ok (item.isAmong xs) else .error .unsuited := by
  cases item <;> rfl

theorem contains_of_seeksNoByte {item x : Value}
    (h : (Leaf.contains item).seeksNoByte x = true) :
    x.contains item = .error .byteOutOfRange := by
  cases x with
  | bytes b =>
    rw [seeksNoByte] at h
    cases hn : item.int? with
    | none =>
      rw [hn] at h
      cases h
    | some n =>
      rw [hn, Option.any_some, Bool.not_eq_true', decide_eq_false_iff_not] at h
      rw [contains_bytes hn, if_neg h]
  | _ => cases h

theorem contains_of_not_suits {item x : Value} (h : (Leaf.contains item).suits x = false) :
    x.contains item = .error .unsuited := by
  cases x with
  | str s =>
    cases item with
    | str => cases h
    | _ => rfl
  | bytes b =>
    cases item with
    | bytes | int | bool => cases h
    | _ => rfl
  | list | tuple => cases h
  | set xs | frozenset xs =>
    rw [Value.contains, contains_among]
    exact if_neg (Bool.eq_false_iff.mp h)
  | map entries =>
    rw [Value.contains]
    exact if_neg (Bool.eq_false_iff.mp h)
  | _ => rfl

theorem contains_of_suits {item x : Value} (h : (Leaf.contains item).suits x = true)
    (hbyte : (Leaf.contains item).seeksNoByte x = false) : ∃ b, x.contains item = .ok b := by
  cases x with
  | str s =>
    cases item with
    | str => exact ⟨_, rfl⟩
    | _ => cases h
  | bytes b =>
    cases item with
    | bytes => exact ⟨_, rfl⟩
    | int n | bool n =>
      simp only [seeksNoByte, Value.int?, Option.any_some, Bool.not_eq_false', decide_eq_true_eq]
        at hbyte
      exact ⟨_, (contains_bytes rfl b).trans (if_pos hbyte)⟩
    | _ => cases h
  | list | tuple => exact ⟨_, rfl⟩
  | set xs | frozenset xs =>
    rw [Value.contains, contains_among]
    exact ⟨_, if_pos h⟩
  | map entries =>
    rw [Value.contains]
    exact ⟨_, if_pos h⟩
  | _ => cases h

theorem eq_of_seeksBytesInText {x : Value} (h : l.seeksBytesInText x = true) :
    ∃ source s, l = .matching (.compiled (.bytes source)) ∧ x = .str s := by
  unfold seeksBytesInText at h
  split at h
  · exact ⟨_, _, rfl, rfl⟩
  · cases h

/-- Membership is answered, but for a number that is no byte: where it is not defined, the answer
is a rejection. -/
theorem accepts_contains {item x : Value} (h : (Leaf.contains item).seeksNoByte x = false) :
    ∃ ok, (Predicate.contains item).accepts x = .ok ok ∧
      (ok = true → (Leaf.contains item).suits x = true) := by
  cases hsuits : (Leaf.contains item).suits x with
  | true =>
    obtain ⟨b, hb⟩ := contains_of_suits hsuits h
    exact ⟨b, by rw [Predicate.accepts, hb], fun _ => rfl⟩
  | false =>
    refine ⟨false, ?_, fun h => absurd h Bool.false_ne_true⟩
    rw [Predicate.accepts, contains_of_not_suits hsuits]

/-- The search for an expression is answered, but in a text for one that looks into bytes: where
there is no text, the answer is a rejection. -/
theorem accepts_matching [Environment] {pattern : GivenExpression} {e : Expression} {x : Value}
    (hcompiled : pattern.compile = .ok e) (h : (Leaf.matching pattern).seeksBytesInText x = false) :
    ∃ ok, (Predicate.matching e).accepts x = .ok ok ∧
      (ok = true → (Leaf.matching pattern).suits x = true) := by
  cases x with
  | str s =>
    cases e with
    | text source occursIn => exact ⟨occursIn s, rfl, fun _ => rfl⟩
    | bytes source =>
      -- What is given in writing is compiled to be looked for in texts.
      cases pattern with
      | written => cases (exists_of_map_eq_ok hcompiled).choose_spec.2
      | compiled e =>
        obtain rfl := Except.ok.inj hcompiled
        cases h
  | _ => exact ⟨false, rfl, fun h => absurd h Bool.false_ne_true⟩

/-- The length of a value is answered if the bounds answer it. -/
theorem answersOn_length {bounds : List Validator} (message : Option Value) {x : Value}
    (hbounds : ∀ size : Nat,
      ∃ r, ((allOf bounds none false).evaluate .plain (.int size)).outcome? = some (.ok r)) :
    (Validator.length bounds message).AnswersOn x x.size?.isSome := by
  intro site
  rw [Validator.length, evaluate_of_unset rfl, body_sized, Check.sized]
  cases x.size? with
  | none => exact ⟨_, rfl, fun h => absurd h Bool.false_ne_true⟩
  | some size =>
    obtain ⟨r, hr⟩ := hbounds size
    rw [evaluate_of_unset rfl, allOf, body_conjunction_threading] at hr
    refine ⟨_, Run.outcome?_bind_eq_ok.mpr ⟨r, hr, rfl⟩, fun _ => ⟨rfl, rfl⟩⟩

/-- Validators in turn that all answer the value and hand it on. -/
theorem exists_outcome?_threaded {vs : List Validator} {x : Value}
    (h : ∀ v ∈ vs, ∃ suited, v.AnswersOn x suited) (given : Value) :
    ∃ r, (Check.threaded none given (vs.map toCheck) x).outcome? = some (.ok r) := by
  induction vs with
  | nil => exact ⟨_, rfl⟩
  | cons v vs ih =>
    obtain ⟨suited, hanswers⟩ := h v List.mem_cons_self
    obtain ⟨r, hr, hvalue⟩ := hanswers .plain
    obtain ⟨rest, hrest⟩ := ih fun w hw => h w (List.mem_cons_of_mem v hw)
    rw [List.map_cons, Check.threaded_cons, toCheck_run]
    cases hvalid : r.isValid with
    | true =>
      refine ⟨rest, Run.outcome?_bind_eq_ok.mpr ⟨r, hr, ?_⟩⟩
      rw [hvalid, if_pos rfl, (hvalue hvalid).1]
      exact hrest
    | false =>
      refine ⟨r.override none, Run.outcome?_bind_eq_ok.mpr ⟨r, hr, ?_⟩⟩
      rw [hvalid]
      rfl

theorem proper_contains_int {n : Int} (h : n.natAbs < Text.tooLong) :
    (Leaf.contains (.int n)).Proper := by
  change [Value.int n].all Value.isShowable = true
  rw [List.all_cons, Value.isShowable, decide_eq_true h]
  rfl

section

variable [Environment]

/-- A leaf with proper arguments answers every value in which it does not look for something that
cannot be looked for there. -/
theorem answersOn_of_make (hmade : l.make message = .ok v) (hproper : l.Proper) {x : Value}
    (hseeks : l.seeksInVain x = false) : v.AnswersOn x (l.suits x) := by
  obtain ⟨hbyte, hbytes⟩ := Bool.or_eq_false_iff.mp hseeks
  cases l with
  | type types name excludeBool =>
    obtain rfl := Except.ok.inj hmade
    exact answersOn_check (isTotal_isType _ _ _) (fun _ => rfl) _
  | equal expected =>
    obtain rfl := Except.ok.inj hmade
    exact answersOn_check (isTotal_equal ((Bool.and_eq_true_iff.mp hproper).1)) (fun _ => rfl) _
  | related r limit =>
    obtain rfl := Except.ok.inj hmade
    refine answersOn_check (isTotal_related ((Bool.and_eq_true_iff.mp hproper).1) r)
      (fun haccepts => ?_) _
    exact isSome_related_of_relatedOrFalse (Except.ok.inj haccepts)
  | inRange low high =>
    rw [eq_of_isInRange_eq_ok hmade]
    refine answersOn_check (isTotal_between hproper) (fun haccepts => ?_) _
    obtain ⟨hlow, hhigh⟩ := Bool.and_eq_true_iff.mp (Except.ok.inj haccepts)
    rw [suits, isSome_related_of_relatedOrFalse hlow, isSome_related_of_relatedOrFalse hhigh]
    rfl
  | oneOf options =>
    obtain rfl := Except.ok.inj hmade
    exact answersOn_check (isTotal_oneOf hproper) (fun _ => rfl) _
  | length bounds =>
    obtain rfl := Except.ok.inj hmade
    exact answersOn_length _ hproper
  | empty =>
    obtain rfl := Except.ok.inj hmade
    have hzero : ∀ y, ((isEqual (.int 0) none).evaluate .plain y).Judges y
        ((Predicate.equal (.int 0)).holds y) :=
      run_judges_check (isTotal_equal (isShowable_int (n := 0) (by decide))) none .plain
    have hempty : ∀ site, ((isEmpty (message.map .str)).evaluate site x).Judges x
        (lengthVerdict [fun _ => (Predicate.equal (.int 0)).holds] x) :=
      fun site => run_judges_length (.cons hzero .nil) _ site x
    exact answersOn_of_judges hempty fun _ => isSome_size?_of_lengthVerdict
  | contains item =>
    obtain rfl := Except.ok.inj hmade
    obtain ⟨ok, haccepts, hsuited⟩ := accepts_contains hbyte
    have hshown : (Predicate.contains item).hasMessage = true := hproper
    exact answersOn_ofPredicate hshown (fun h => Predicate.noConfusion h) haccepts hsuited _
  | hasKey key =>
    obtain rfl := Except.ok.inj hmade
    refine answersOn_check (isTotal_hasKey key) (fun haccepts => ?_) _
    cases x with
    | map entries => rfl
    | _ => cases haccepts
  | matching pattern =>
    obtain ⟨e, hcompiled, rfl⟩ := exists_of_map_eq_ok hmade
    obtain ⟨ok, haccepts, hsuited⟩ := accepts_matching hcompiled hbytes
    exact answersOn_ofPredicate rfl (fun h => Predicate.noConfusion h) haccepts hsuited _
  | format f =>
    obtain rfl := Except.ok.inj hmade
    exact answersOn_check (isTotal_formatted f) kind_of_formatted_accepts _
  | numberText =>
    obtain rfl := Except.ok.inj hmade
    have hjudges : ∀ f, ((hasFormat f none).evaluate .plain x).Judges x
        ((Predicate.formatted f).holds x) :=
      fun f => run_judges_check (isTotal_formatted f) none .plain x
    refine answersOn_of_judges
      (run_judges_anyOf (.cons (hjudges .int) (.cons (hjudges .float) .nil)) _) fun _ haccepts => ?_
    cases x with
    | str s => rfl
    | _ => cases haccepts
  | date check =>
    obtain rfl := Except.ok.inj hmade
    exact answersOn_check (isTotal_dated check) kind_of_dated_accepts _
  | datesBetween start finish inclusiveStart inclusiveEnd =>
    obtain ⟨first, last, rfl⟩ := exists_of_isDateBetween_eq_ok hmade
    exact answersOn_check (isTotal_dated _) kind_of_dated_accepts _

/-- Leaves are proper bounds of a length. -/
theorem proper_length_of_leaves {bounds : List Validator}
    (h : ∀ v ∈ bounds, ∃ l message, Leaf.make l message = .ok v ∧ l.Proper) :
    (Leaf.length bounds).Proper := by
  intro size
  rw [evaluate_of_unset rfl, allOf, body_conjunction_threading]
  refine exists_outcome?_threaded (fun v hv => ?_) _
  obtain ⟨l, message, hmade, hproper⟩ := h v hv
  have hseeks : l.seeksInVain (.int size) = false := by
    have hbytes : l.seeksBytesInText (.int size) = false := Bool.eq_false_iff.mpr fun hbytes => by
      obtain ⟨_, _, -, htext⟩ := eq_of_seeksBytesInText hbytes
      cases htext
    rw [seeksInVain, hbytes, Bool.or_false]
    cases l <;> rfl
  exact ⟨_, answersOn_of_make hmade hproper hseeks⟩

/-- Every leaf that the catalogue makes answers every value, and rejects the values that it does
not suit. Validation only fails where the leaf looks among bytes for a number that is no byte, and
where it looks in a text for an expression that was compiled to be looked for in bytes. -/
theorem answers_unless_no_byte_is_sought (hmade : l.make message = .ok v) (hproper : l.Proper)
    (x : Value) (present : Bool) :
    (l.seeksNoByte x = true → (v.validate x present).outcome? = some (.error .byteOutOfRange)) ∧
    (l.seeksBytesInText x = true →
      (v.validate x present).outcome? = some (.error .wrongType)) ∧
    (l.seeksInVain x = false → ∃ r, (v.validate x present).outcome? = some (.ok r) ∧
      (l.suits x = false → r.isValid = false) ∧ (r.isValid = true → r.value = x)) := by
  refine ⟨fun hbyte => ?_, fun hbytes => ?_, fun hseeks => ?_⟩
  · cases l with
    | contains item =>
      obtain rfl := Except.ok.inj hmade
      have haccepts : (Predicate.contains item).accepts x = .error .byteOutOfRange := by
        rw [Predicate.accepts, contains_of_seeksNoByte hbyte]
      refine Run.outcome?_refusingAwait_of_some ?_ _
      rw [Validator.contains, evaluate_ofPredicate, haccepts]
      rfl
    | _ => cases hbyte
  · obtain ⟨source, s, rfl, rfl⟩ := eq_of_seeksBytesInText hbytes
    obtain rfl := Except.ok.inj hmade
    have haccepts : (Predicate.matching (.bytes source)).accepts (.str s) = .error .wrongType := rfl
    refine Run.outcome?_refusingAwait_of_some ?_ _
    rw [evaluate_ofPredicate, haccepts]
    rfl
  · obtain ⟨r, hr, hanswer⟩ := answersOn_of_make hmade hproper hseeks ⟨present, none⟩
    refine ⟨r, (outcome?_validate_eq_ok r).mpr hr, fun hsuits => ?_,
      fun hvalid => (hanswer hvalid).1⟩
    cases hvalid : r.isValid with
    | true => exact absurd (hsuits.symm.trans (hanswer hvalid).2) Bool.false_ne_true
    | false => rfl

end

/-- The leaf that looks for 300 has no answer for two bytes, and rejects a number. -/
theorem contains_answers_number_not_bytes :
    ∃ v, @make .standard (.contains (.int 300)) none = .ok v ∧
      (v.validate (.bytes [0x61, 0x62]) true).outcome? = some (.error .byteOutOfRange) ∧
      ∃ r, (v.validate (.int 5) true).outcome? = some (.ok r) ∧ r.isValid = false := by
  have hmade : @make .standard (.contains (.int 300)) none =
      .ok (Validator.contains (.int 300) none) := rfl
  have hproper : (Leaf.contains (.int 300)).Proper := proper_contains_int (by decide +kernel)
  have hbytes :=
    (@answers_unless_no_byte_is_sought _ _ _ .standard hmade hproper (.bytes [0x61, 0x62]) true).1
  have hnumber :=
    (@answers_unless_no_byte_is_sought _ _ _ .standard hmade hproper (.int 5) true).2.2
  obtain ⟨r, hr, hrejects, -⟩ := hnumber rfl
  exact ⟨_, hmade, hbytes (by decide), r, hr, hrejects rfl⟩

/-- Not every leaf answers every value. -/
theorem contains_fails_on_bytes_for_no_byte :
    ¬ ∀ (l : Leaf) (v : Validator) (x : Value), @make .standard l none = .ok v → l.Proper →
      ∃ r, (v.validate x true).outcome? = some (.ok r) := by
  intro hanswers
  have hproper : (Leaf.contains (.int 300)).Proper := proper_contains_int (by decide +kernel)
  obtain ⟨r, hr⟩ := hanswers (.contains (.int 300)) _ (.bytes [0x61, 0x62]) rfl hproper
  cases hr

end Leaf
end Conform
