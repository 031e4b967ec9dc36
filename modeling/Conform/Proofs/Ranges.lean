import Conform.Proofs.EntryPoints
import Conform.Proofs.EqualValues

/-
  Ranges and their bounds. A lower bound asks the value whether it is at least the bound, a range
  asks the bound whether it is at most the value. Both come to the same, as the order of values can
  be read from either side (`related_swap`): two sequences are ordered by their first items that
  differ, and it does not matter which of two items is asked whether they differ (`equals_comm`).
  Where there is no order there is none from the other side.

  Main result: `range_joins_bounds`, on ranges of values and on periods between two times.
-/

namespace Conform

/-! ## The order from the other side -/

namespace Value

theorem compareSequences_swap {α : Type} [Ord α] [Std.OrientedOrd α] (as bs : List α) :
    (compareSequences as bs).swap = compareSequences bs as := by
  induction as generalizing bs with
  | nil => cases bs <;> rfl
  | cons a as ih =>
    cases bs with
    | nil => rfl
    | cons b bs =>
      rw [compareSequences, compareSequences, Std.OrientedOrd.eq_swap (a := b) (b := a)]
      cases compare a b with
      | eq => exact ih bs
      | lt | gt => rfl

theorem relatedNumbers_swap (r : Relation) (m n : Number) :
    relatedNumbers r.swap n m = relatedNumbers r m n := by
  rw [relatedNumbers, relatedNumbers, ← Number.compare?_swap m n]
  cases m.compare? n with
  | none => rfl
  | some o => exact r.holdsFor_swap o

theorem includes_swap (r : Relation) (xs ys : List Value) :
    includes r.swap ys xs = includes r xs ys := by
  cases r <;> rfl

section

variable {x y : Value}

theorem related_number {m : Number} (h : x.number? = some m) (r : Relation) :
    x.related r y = y.number?.map (relatedNumbers r m) := by
  cases x with
  | bool | int | float =>
    obtain rfl := Option.some.inj h
    rw [related]
  | _ => cases h

theorem related_members {xs : List Value} (h : x.members? = some xs) (r : Relation) :
    x.related r y = y.members?.map (includes r xs) := by
  cases x with
  | set | frozenset =>
    obtain rfl := Option.some.inj h
    rw [related]
  | _ => cases h

theorem related_eq_none_of_number {m : Number} (h : x.number? = some m) (hy : y.number? = none)
    (r : Relation) : y.related r x = none := by
  cases x with
  | bool | int | float =>
    cases y with
    | bool | int | float => cases hy
    | _ => simp [related, members?]
  | _ => cases h

theorem related_eq_none_of_members {xs : List Value} (h : x.members? = some xs)
    (hy : y.members? = none) (r : Relation) : y.related r x = none := by
  cases x with
  | set | frozenset =>
    cases y with
    | set | frozenset => cases hy
    | _ => simp [related, number?]
  | _ => cases h

/-- Sequences are ordered from either side if their items are. -/
theorem relatedItems_swap {r : Relation} {xs ys : List Value}
    (hitems : ∀ a ∈ xs, ∀ b ∈ ys, b.related r.swap a = a.related r b)
    (hequal : ∀ a ∈ xs, ∀ b ∈ ys, b.equals a = a.equals b) :
    relatedItems r.swap ys xs = relatedItems r xs ys := by
  induction xs generalizing ys with
  | nil =>
    cases ys with
    | nil => exact congrArg some (r.holdsFor_swap .eq)
    | cons b ys => exact congrArg some (r.holdsFor_swap .lt)
  | cons a xs ih =>
    cases ys with
    | nil => exact congrArg some (r.holdsFor_swap .gt)
    | cons b ys =>
      rw [relatedItems, relatedItems, hequal a List.mem_cons_self b List.mem_cons_self,
        hitems a List.mem_cons_self b List.mem_cons_self,
        ih (fun a' ha' b' hb' => hitems a' (List.mem_cons_of_mem _ ha') b'
            (List.mem_cons_of_mem _ hb'))
          fun a' ha' b' hb' => hequal a' (List.mem_cons_of_mem _ ha') b'
            (List.mem_cons_of_mem _ hb')]

/-- A relation holds between two values as the opposite relation does the other way round. -/
theorem related_swap (hx : x.isWellFormed = true) (hy : y.isWellFormed = true) (r : Relation) :
    y.related r.swap x = x.related r y := by
  induction x using induction_on_parts generalizing y with
  | _ x ih =>
    have hitems : ∀ {xs ys : List Value}, x.parts = xs → areWellFormed ys = true →
        relatedItems r.swap ys xs = relatedItems r xs ys := by
      rintro xs ys rfl hys
      have hparts : ∀ a ∈ x.parts, ∀ b ∈ ys, a.isWellFormed = true ∧ b.isWellFormed = true :=
        fun a ha b hb => ⟨isWellFormed_of_mem_parts hx ha, areWellFormed_iff.mp hys b hb⟩
      refine relatedItems_swap (fun a ha b hb => ?_) fun a ha b hb => ?_
      · exact ih a ha (hparts a ha b hb).1 (hparts a ha b hb).2
      · exact equals_comm (hparts a ha b hb).2 (hparts a ha b hb).1
    have hnumbers : ∀ {m}, x.number? = some m → y.related r.swap x = x.related r y := by
      intro m hm
      rw [related_number hm]
      cases hn : y.number? with
      | none => exact related_eq_none_of_number hm hn _
      | some n => rw [related_number hn, hm, Option.map_some, Option.map_some, relatedNumbers_swap]
    have hmembers : ∀ {xs}, x.members? = some xs → y.related r.swap x = x.related r y := by
      intro xs hxs
      rw [related_members hxs]
      cases hys : y.members? with
      | none => exact related_eq_none_of_members hxs hys _
      | some ys =>
        rw [related_members hys, hxs, Option.map_some, Option.map_some, includes_swap]
    cases x with
    | bool | int | float => exact hnumbers rfl
    | set | frozenset => exact hmembers rfl
    | null | map => cases y <;> simp [related, number?, members?]
    | str s =>
      cases y with
      | str t => simp [related, ← compareSequences_swap s.toList, Relation.holdsFor_swap]
      | _ => simp [related, number?, members?]
    | bytes b =>
      cases y with
      | bytes c => simp [related, ← compareSequences_swap b, Relation.holdsFor_swap]
      | _ => simp [related, number?, members?]
    | list xs =>
      cases y with
      | list ys =>
        rw [related, related]
        exact hitems rfl hy
      | _ => simp [related, number?, members?]
    | tuple xs =>
      cases y with
      | tuple ys =>
        rw [related, related]
        exact hitems rfl hy
      | _ => simp [related, number?, members?]
    | datetime t =>
      cases y with
      | datetime u =>
        rw [related, related, ← DateTime.compare?_swap t u, Option.map_map]
        congr 1
        funext o
        exact r.holdsFor_swap o
      | _ => simp [related, number?, members?]
    | date d =>
      cases y with
      | date e =>
        rw [related, related, Std.OrientedOrd.eq_swap (a := e.ordinal), Relation.holdsFor_swap]
      | _ => simp [related, number?, members?]

end

end Value

/-! ## Ranges -/

namespace Validator

/-- A leaf accepts what its predicate accepts, at either entry point. -/
theorem verdict?_ofPredicate_eq_true (p : Predicate) (message : Option Value) (awaiting : Bool)
    (x : Value) (present : Bool) :
    ((ofPredicate p message).validated awaiting x present).verdict? = some true ↔
      p.accepts x = .ok true := by
  rw [verdict?_validated_iff, evaluate_ofPredicate, Run.carriedOut_bind, Run.verdict?_bind]
  simp only [Run.outcome?_carriedOut_ofExcept_eq_ok]
  constructor
  · rintro ⟨accepted, haccepted, h⟩
    cases accepted with
    | true => exact haccepted
    | false =>
      rw [if_neg Bool.false_ne_true, Run.carriedOut_bind, Run.verdict?_bind] at h
      obtain ⟨e, -, h⟩ := h
      rw [Run.carriedOut_done, Run.verdict?_done, Result.isValid_refusal] at h
      cases h
  · intro h
    refine ⟨true, h, ?_⟩
    rw [if_pos rfl, Run.carriedOut_done]
    rfl

theorem relatedOrFalse_swap {x y : Value} (hx : x.isWellFormed = true) (hy : y.isWellFormed = true)
    (r : Relation) : Predicate.relatedOrFalse r.swap y x = Predicate.relatedOrFalse r x y :=
  congrArg (Option.getD · false) (Value.related_swap hx hy r)

theorem eq_of_isDateBetween_times {start finish : DateTime} {inclusiveStart inclusiveEnd : Bool}
    {message : Option Value} {v : Validator}
    (h : isDateBetween (.datetime start) (.datetime finish) inclusiveStart inclusiveEnd message =
      .ok v) :
    v = isDate (.between (.time start) (.time finish) inclusiveStart inclusiveEnd) message := by
  unfold isDateBetween at h
  split at h
  · cases h
  · next reversed _ =>
    cases reversed with
    | true => cases h
    | false => exact (Except.ok.inj h).symm

/-- A range accepts a value if the lower and the upper bound both do, whatever the kinds of the
bounds and of the value. A period accepts a time if it comes after the start and before the end,
each with the ends that count. -/
theorem range_joins_bounds (awaiting present : Bool) (x : Value) :
    (∀ (low high : Value) (message lowMessage highMessage : Option Value) (v : Validator),
      low.isWellFormed = true → x.isWellFormed = true → isInRange low high message = .ok v →
      ((v.validated awaiting x present).verdict? = some true ↔
        ((isRelated .ge low lowMessage).validated awaiting x present).verdict? = some true ∧
        ((isRelated .le high highMessage).validated awaiting x present).verdict? = some true)) ∧
    ∀ (start finish : DateTime) (inclusiveStart inclusiveEnd : Bool)
        (message startMessage endMessage : Option Value) (v : Validator),
      isDateBetween (.datetime start) (.datetime finish) inclusiveStart inclusiveEnd message =
        .ok v →
      ((v.validated awaiting x present).verdict? = some true ↔
        ((isDate (.after (.time start) inclusiveStart) startMessage).validated awaiting x
          present).verdict? = some true ∧
        ((isDate (.before (.time finish) inclusiveEnd) endMessage).validated awaiting x
          present).verdict? = some true) := by
  constructor
  · intro low high message lowMessage highMessage v hlow hx h
    rw [eq_of_isInRange_eq_ok h, isRelated, isRelated, verdict?_ofPredicate_eq_true,
      verdict?_ofPredicate_eq_true, verdict?_ofPredicate_eq_true, Predicate.accepts,
      Predicate.accepts, Predicate.accepts, ← relatedOrFalse_swap hlow hx .le]
    simp [Relation.swap]
  · intro start finish inclusiveStart inclusiveEnd message startMessage endMessage v h
    rw [eq_of_isDateBetween_times h, isDate, isDate, isDate, verdict?_ofPredicate_eq_true,
      verdict?_ofPredicate_eq_true, verdict?_ofPredicate_eq_true]
    cases x with
    | datetime t => simp [Predicate.accepts, DateCheck.accepts]
    | _ => simp [Predicate.accepts]

/-- The fifteenth of January at the given hour, so many hours ahead of universal time. -/
def januaryHour (hour : Nat) (ahead : Int) : DateTime :=
  ⟨⟨2024, 1, 15⟩, hour, 0, 0, 0, some (.fixed (ahead * 3600000000))⟩

/-- A list with a set in it lies between lists with equal sets, and nine o'clock between ten o'clock
two hours further east and noon. -/
theorem range_joins_bounds_inside_lists :
    (∃ v, isInRange (.list [.set [.int 1, .int 2], .int 0])
        (.list [.frozenset [.int 2, .bool true], .int 7]) none = .ok v ∧
      (v.validated false (.list [.frozenset [.bool true, .int 2], .int 7]) true).verdict? =
        some true) ∧
    ∃ v, isDateBetween (.datetime (januaryHour 10 2)) (.datetime (januaryHour 12 0)) false true
        none = .ok v ∧
      (v.validated true (.datetime (januaryHour 9 0)) true).verdict? = some true := by
  have hordered : (Value.list [.set [.int 1, .int 2], .int 0]).related .gt
      (.list [.frozenset [.int 2, .bool true], .int 7]) = some false := by decide +kernel
  have hforward : (Value.datetime (januaryHour 12 0)).related .lt
      (.datetime (januaryHour 10 2)) = some false := by decide +kernel
  refine ⟨⟨_, by rw [isInRange, hordered], ?_⟩, _, by rw [isDateBetween, hforward]; rfl, ?_⟩
  · refine ((range_joins_bounds false true _).1 (.list [.set [.int 1, .int 2], .int 0])
      (.list [.frozenset [.int 2, .bool true], .int 7]) none none none _ (by decide +kernel)
      (by decide +kernel) (by rw [isInRange, hordered])).mpr ⟨?_, ?_⟩
    · decide +kernel
    · decide +kernel
  · refine ((range_joins_bounds true true _).2 (januaryHour 10 2) (januaryHour 12 0) _ _ none none
      none _ (by rw [isDateBetween, hforward]; rfl)).mpr ⟨?_, ?_⟩
    · decide +kernel
    · decide +kernel

end Validator
end Conform
