import Conform.Proofs.PatternPieces

/-
  Where patterns match. The procedure `Pattern.run` tries a pattern together with what has to be
  done behind it. The invariant (`Performs`) is that both succeed if the pattern describes a piece
  behind which the rest succeeds. It holds for what does not look at groups (`Blind`), and what is
  done behind a part of a plain pattern is of that kind. A repetition gives up behind a step that
  stays where it started; nothing is lost, since such steps can be left out
  (`Description.exists_advancing`).

  Main results: `performs_run`, the pieces that are tried are those described, and `occursIn_iff`, a
  plain pattern occurs in a text if it describes a piece of it.
-/

namespace Conform.Pattern

/-! ## What is done behind a piece -/

/-- The place behind a piece. -/
def Place.behind (place : Place) (piece rest : List Char) : Place :=
  { place with index := place.index + piece.length, before := piece.reverse ++ place.before, rest }

/-- The places are apart by what the groups remember, if at all. -/
structure SameSpot (place other : Place) : Prop where
  index : place.index = other.index
  before : place.before = other.before
  rest : place.rest = other.rest

/-- Whether it succeeds does not depend on what the groups remember. -/
def Blind (onward : Onward) : Prop :=
  ∀ place other, SameSpot place other → (onward place).isSome = (onward other).isSome

/-- With anything behind it that does not look at groups, the step succeeds if a piece is described
behind which the rest succeeds. -/
def Performs (step : Step) (d : Description) : Prop :=
  ∀ place onward, Blind onward → ((step place onward).isSome = true ↔
    ∃ piece rest, place.rest = piece ++ rest ∧ d place.before piece rest ∧
      (onward (place.behind piece rest)).isSome = true)

section

variable {step step' : Step} {d e : Description} {place other : Place} {onward : Onward}

theorem Place.behind_append (place : Place) (first second rest : List Char) :
    place.behind (first ++ second) rest =
      (place.behind first (second ++ rest)).behind second rest := by
  simp only [Place.behind, List.length_append, List.reverse_append, List.append_assoc,
    Nat.add_assoc]

theorem SameSpot.behind (h : SameSpot place other) (piece rest : List Char) :
    SameSpot (place.behind piece rest) (other.behind piece rest) :=
  ⟨congrArg (· + piece.length) h.index, congrArg (piece.reverse ++ ·) h.before, rfl⟩

theorem blind_some : Blind some := fun _ _ _ => rfl

theorem Performs.blind (h : Performs step d) (hblind : Blind onward) :
    Blind fun next => step next onward := by
  intro place other hsame
  rw [Bool.eq_iff_iff, h place onward hblind, h other onward hblind, hsame.rest, hsame.before]
  simp only [fun piece rest => hblind _ _ (hsame.behind piece rest)]

theorem performs_stepIf (accepts : Char → Bool) : Performs (stepIf accepts) (.single accepts) := by
  rintro ⟨index, before, text, captures⟩ onward -
  cases text with
  | nil =>
    refine iff_of_false nofun ?_
    rintro ⟨piece, rest, hrest, ⟨c, rfl, -⟩, -⟩
    cases hrest
  | cons c text =>
    have hstep : (stepIf accepts ⟨index, before, c :: text, captures⟩ onward).isSome = true ↔
        accepts c = true ∧ (onward ⟨index + 1, c :: before, text, captures⟩).isSome = true := by
      simp only [stepIf, Place.next?]
      cases accepts c <;> simp
    rw [hstep]
    constructor
    · exact fun ⟨haccepts, hon⟩ => ⟨[c], text, rfl, ⟨c, rfl, haccepts⟩, hon⟩
    · rintro ⟨piece, rest, hrest, ⟨c', rfl, haccepts⟩, hon⟩
      obtain ⟨rfl, rfl⟩ := List.cons.inj hrest
      exact ⟨haccepts, hon⟩

theorem performs_stayIf (condition : List Char → List Char → Bool) :
    Performs (stayIf fun place => condition place.before place.rest) (.nowhere condition) := by
  intro place onward _
  have hstay : (stayIf (fun place => condition place.before place.rest) place onward).isSome =
      true ↔ condition place.before place.rest = true ∧ (onward place).isSome = true := by
    by_cases hholds : condition place.before place.rest = true <;> simp [stayIf, hholds]
  rw [hstay]
  constructor
  · exact fun ⟨hholds, hon⟩ => ⟨[], place.rest, rfl, ⟨rfl, hholds⟩, hon⟩
  · rintro ⟨piece, rest, hrest, ⟨rfl, hholds⟩, hon⟩
    obtain rfl : place.rest = rest := hrest
    exact ⟨hholds, hon⟩

theorem performs_onward :
    Performs (fun place onward => onward place) fun _ piece _ => piece = [] := by
  intro place onward _
  constructor
  · exact fun hon => ⟨[], place.rest, rfl, rfl, hon⟩
  · rintro ⟨piece, rest, hrest, rfl, hon⟩
    obtain rfl : place.rest = rest := hrest
    exact hon

theorem Performs.followedBy (h : Performs step d) (h' : Performs step' e) :
    Performs (fun place onward => step place fun next => step' next onward) (d.followedBy e) := by
  intro place onward hblind
  rw [h place _ (h'.blind hblind)]
  constructor
  · rintro ⟨first, rest, hrest, hfirst, hstep⟩
    obtain ⟨second, rest', hrest', hsecond, hon⟩ := (h' _ onward hblind).mp hstep
    obtain rfl : rest = second ++ rest' := hrest'
    refine ⟨first ++ second, rest', by rw [hrest, List.append_assoc],
      ⟨first, second, rfl, hfirst, hsecond⟩, ?_⟩
    rwa [Place.behind_append]
  · rintro ⟨piece, rest, hrest, ⟨first, second, rfl, hfirst, hsecond⟩, hon⟩
    rw [List.append_assoc] at hrest
    rw [Place.behind_append] at hon
    exact ⟨first, second ++ rest, hrest, hfirst,
      (h' _ onward hblind).mpr ⟨second, rest, rfl, hsecond, hon⟩⟩

theorem Performs.either (h : Performs step d) (h' : Performs step' e) :
    Performs (fun place onward => (step place onward).orElse fun _ => step' place onward)
      fun before piece rest => d before piece rest ∨ e before piece rest := by
  intro place onward hblind
  have heither : ((step place onward).orElse fun _ => step' place onward).isSome = true ↔
      (step place onward).isSome = true ∨ (step' place onward).isSome = true := by
    rw [Option.orElse_eq_or, Option.isSome_or, Bool.or_eq_true]
  rw [heither, h place onward hblind, h' place onward hblind]
  constructor
  · rintro (⟨piece, rest, hrest, hd, hon⟩ | ⟨piece, rest, hrest, he, hon⟩)
    · exact ⟨piece, rest, hrest, .inl hd, hon⟩
    · exact ⟨piece, rest, hrest, .inr he, hon⟩
  · rintro ⟨piece, rest, hrest, hd | he, hon⟩
    · exact .inl ⟨piece, rest, hrest, hd, hon⟩
    · exact .inr ⟨piece, rest, hrest, he, hon⟩

/-- What a group remembers makes no difference behind it. -/
theorem Performs.captured (h : Performs step d) (number : Nat) :
    Performs (fun place onward =>
      step (place.enter number) fun next => onward (next.leave number)) d := by
  intro place onward hblind
  have hleave : Blind fun next => onward (next.leave number) := fun place other hsame =>
    hblind _ _ ⟨hsame.index, hsame.before, hsame.rest⟩
  rw [h _ _ hleave]
  have hsame (piece rest : List Char) :
      SameSpot (((place.enter number).behind piece rest).leave number)
        (place.behind piece rest) := ⟨rfl, rfl, rfl⟩
  simp only [fun piece rest => hblind _ _ (hsame piece rest)]
  exact Iff.rfl

/-- Looking for a piece uses up nothing, whether one is to be found or none. -/
theorem performs_look {found : Place → Option Place} {starts : List Char → List Char → Prop}
    (h : ∀ place, (found place).isSome = true ↔ starts place.before place.rest) (negated : Bool) :
    Performs (fun place onward => look negated place (found place) onward)
      fun before piece rest => piece = [] ∧ (starts before rest ↔ negated = false) := by
  intro place onward hblind
  have hlook : (look negated place (found place) onward).isSome = true ↔
      (starts place.before place.rest ↔ negated = false) ∧ (onward place).isSome = true := by
    rw [← h place]
    cases hfound : found place with
    | none => cases negated <;> simp [look]
    | some there =>
      have hsame : SameSpot { place with captures := there.captures } place := ⟨rfl, rfl, rfl⟩
      cases negated <;> simp [look, hblind _ _ hsame]
  rw [hlook]
  constructor
  · exact fun ⟨hstarts, hon⟩ => ⟨[], place.rest, rfl, ⟨rfl, hstarts⟩, hon⟩
  · rintro ⟨piece, rest, hrest, ⟨rfl, hstarts⟩, hon⟩
    obtain rfl : place.rest = rest := hrest
    exact ⟨hstarts, hon⟩

theorem Performs.startsAt (h : Performs step d) (place : Place) :
    (step place some).isSome = true ↔ d.StartsAt place.before place.rest := by
  rw [h place some blind_some]
  simp [Description.StartsAt]

theorem back?_eq_some {width : Nat} {earlier : Place} :
    place.back? width = some earlier ↔ ∃ skipped before, skipped.length = width ∧
      place.before = skipped.reverse ++ before ∧ earlier = { place with
        index := place.index - width
        before := before
        rest := skipped ++ place.rest } := by
  rw [Place.back?]
  constructor
  · intro h
    split at h
    · next hlength =>
      refine ⟨(place.before.take width).reverse, place.before.drop width, ?_, ?_,
        (Option.some.inj h).symm⟩
      · rw [List.length_reverse, hlength]
      · rw [List.reverse_reverse, List.take_append_drop]
    · cases h
  · rintro ⟨skipped, before, rfl, hbefore, rfl⟩
    have htake : place.before.take skipped.length = skipped.reverse := by
      rw [hbefore, ← List.length_reverse, List.take_left]
    have hdrop : place.before.drop skipped.length = before := by
      rw [hbefore, ← List.length_reverse, List.drop_left]
    simp [htake, hdrop]

/-- A piece starts so many characters before the place. -/
theorem Performs.startsBehind (h : Performs step d) (width : Nat) (place : Place) :
    ((place.back? width).bind fun earlier => step earlier some).isSome = true ↔
      ∃ skipped before, skipped.length = width ∧ place.before = skipped.reverse ++ before ∧
        d.StartsAt before (skipped ++ place.rest) := by
  rw [Option.isSome_iff_exists]
  constructor
  · rintro ⟨there, hthere⟩
    obtain ⟨earlier, hback, hstep⟩ := Option.bind_eq_some_iff.mp hthere
    obtain ⟨skipped, before, hlength, hbefore, rfl⟩ := back?_eq_some.mp hback
    exact ⟨skipped, before, hlength, hbefore,
      (h.startsAt _).mp (Option.isSome_iff_exists.mpr ⟨there, hstep⟩)⟩
  · rintro ⟨skipped, before, hlength, hbefore, hstarts⟩
    obtain ⟨earlier, hearlier⟩ : ∃ earlier : Place, earlier = { place with
        index := place.index - width
        before := before
        rest := skipped ++ place.rest } := ⟨_, rfl⟩
    have hback := back?_eq_some.mpr ⟨skipped, before, hlength, hbefore, hearlier⟩
    have hstep : (step earlier some).isSome = true := by
      rw [h.startsAt, hearlier]
      exact hstarts
    obtain ⟨there, hthere⟩ := Option.isSome_iff_exists.mp hstep
    exact ⟨there, Option.bind_eq_some_iff.mpr ⟨earlier, hback, hthere⟩⟩

/-! ## Repetitions -/

theorem performs_times (h : Performs step d) (n : Nat) : Performs (times step n) (d.times n) := by
  induction n with
  | zero => exact performs_onward
  | succ n ih => exact h.followedBy ih

theorem isSome_further_succ {few : Bool} {limit : Nat} {last : Option Nat} :
    (further step few (limit + 1) last place onward).isSome = true ↔
      (onward place).isSome = true ∨ last ≠ some place.index ∧
        (step place fun next =>
          further step few limit (some place.index) next onward).isSome = true := by
  rw [further]
  by_cases hlast : last = some place.index
  · simp [hlast]
  · cases few <;> simp [hlast, Option.orElse_eq_or, or_comm]

theorem blind_further (h : Performs step d) (hblind : Blind onward) (few : Bool) (limit : Nat)
    (last : Option Nat) : Blind fun next => further step few limit last next onward := by
  induction limit generalizing last with
  | zero => exact hblind
  | succ limit ih =>
    intro place other hsame
    rw [Bool.eq_iff_iff, isSome_further_succ, isSome_further_succ, hblind _ _ hsame, hsame.index,
      h.blind (ih (some other.index)) _ _ hsame]

/-- What a repetition does beyond its least number of steps is made of pieces that are described. -/
theorem exists_of_further (h : Performs step d) (hblind : Blind onward) {few : Bool} {limit : Nat}
    {last : Option Nat} (hfurther : (further step few limit last place onward).isSome = true) :
    ∃ n ≤ limit, ∃ piece rest, place.rest = piece ++ rest ∧ d.times n place.before piece rest ∧
      (onward (place.behind piece rest)).isSome = true := by
  induction limit generalizing last place with
  | zero => exact ⟨0, Nat.le_refl 0, [], place.rest, rfl, rfl, hfurther⟩
  | succ limit ih =>
    rcases isSome_further_succ.mp hfurther with hon | ⟨-, hstep⟩
    · exact ⟨0, Nat.zero_le _, [], place.rest, rfl, rfl, hon⟩
    · obtain ⟨first, rest, hrest, hfirst, hothers⟩ :=
        (h place _ (blind_further h hblind few limit _)).mp hstep
      obtain ⟨n, hn, second, rest', hrest', hsecond, hon⟩ := ih hothers
      obtain rfl : rest = second ++ rest' := hrest'
      refine ⟨n + 1, Nat.succ_le_succ hn, first ++ second, rest',
        by rw [hrest, List.append_assoc], ⟨first, second, rfl, hfirst, hsecond⟩, ?_⟩
      rwa [Place.behind_append]

/-- It succeeds behind pieces that have characters: no step stays where it started. -/
theorem further_of_advancing (h : Performs step d) (hblind : Blind onward) (few : Bool)
    {k limit : Nat} (hk : k ≤ limit) {last : Option Nat} (hlast : last ≠ some place.index)
    {piece rest : List Char} (hrest : place.rest = piece ++ rest)
    (hpieces : d.advancing.times k place.before piece rest)
    (hon : (onward (place.behind piece rest)).isSome = true) :
    (further step few limit last place onward).isSome = true := by
  induction k generalizing limit last place piece with
  | zero =>
    obtain rfl : piece = [] := hpieces
    obtain rfl : place.rest = rest := hrest
    cases limit with
    | zero => exact hon
    | succ limit => exact isSome_further_succ.mpr (.inl hon)
  | succ k ih =>
    obtain ⟨first, second, rfl, ⟨hne, hfirst⟩, hsecond⟩ := hpieces
    obtain ⟨limit, rfl⟩ := Nat.exists_eq_add_of_le' (Nat.le_trans (Nat.succ_pos k) hk)
    rw [List.append_assoc] at hrest
    rw [Place.behind_append] at hon
    refine isSome_further_succ.mpr (.inr ⟨hlast,
      (h place _ (blind_further h hblind few limit _)).mpr ⟨first, second ++ rest, hrest, hfirst,
        ih (Nat.le_of_succ_le_succ hk) ?_ rfl hsecond hon⟩⟩)
    have hlength : 0 < first.length := List.length_pos_iff.mpr hne
    have hindex : (place.behind first (second ++ rest)).index = place.index + first.length := rfl
    rw [hindex, ne_eq, Option.some.injEq]
    omega

theorem add_le_of_le_stepLimit {least n : Nat} {most : Option Nat}
    (h : n ≤ stepLimit least most place) : ∀ m ∈ most, least + n ≤ max least m := by
  rintro m rfl
  have hmost : n ≤ m - least := Nat.le_trans h (Nat.min_le_left _ _)
  omega

theorem le_stepLimit {least n : Nat} {most : Option Nat} (h : ∀ m ∈ most, least + n ≤ max least m)
    (hlength : n ≤ place.rest.length) : n ≤ stepLimit least most place := by
  cases most with
  | none => exact Nat.le_succ_of_le hlength
  | some m =>
    have hmost := h m rfl
    exact Nat.le_min.mpr ⟨by omega, Nat.le_succ_of_le hlength⟩

/-- A repetition performs its steps, for it goes on for as many of them as can be needed. -/
theorem Performs.repeated (h : Performs step d) (least : Nat) (most : Option Nat) (few : Bool) :
    Performs (fun place onward => times step least place fun next =>
        further step few (stepLimit least most next) none next onward)
      fun before piece rest =>
        ∃ n, least ≤ n ∧ (∀ m ∈ most, n ≤ max least m) ∧ d.times n before piece rest := by
  intro place onward hblind
  have hfurther : Blind fun next =>
      further step few (stepLimit least most next) none next onward := by
    intro next other hsame
    have hlimit : stepLimit least most next = stepLimit least most other := by
      unfold stepLimit
      rw [hsame.rest]
    change (further step few (stepLimit least most next) none next onward).isSome = _
    rw [hlimit]
    exact blind_further h hblind few _ none _ _ hsame
  rw [performs_times h least place _ hfurther]
  constructor
  · rintro ⟨first, rest, hrest, hfirst, hothers⟩
    obtain ⟨n, hn, second, rest', hrest', hsecond, hon⟩ := exists_of_further h hblind hothers
    obtain rfl : rest = second ++ rest' := hrest'
    refine ⟨first ++ second, rest', by rw [hrest, List.append_assoc], ⟨least + n,
      Nat.le_add_right _ _, add_le_of_le_stepLimit hn,
      Description.times_add.mpr ⟨first, second, rfl, hfirst, hsecond⟩⟩, ?_⟩
    rwa [Place.behind_append]
  · rintro ⟨piece, rest, hrest, ⟨n, hleast, hmost, htimes⟩, hon⟩
    obtain ⟨k, rfl⟩ := Nat.exists_eq_add_of_le hleast
    obtain ⟨first, second, rfl, hfirst, hsecond⟩ := Description.times_add.mp htimes
    obtain ⟨j, hj, hlength, hadvancing⟩ := Description.exists_advancing hsecond
    rw [List.append_assoc] at hrest
    rw [Place.behind_append] at hon
    refine ⟨first, second ++ rest, hrest, hfirst, further_of_advancing h hblind few
      (le_stepLimit (fun m hm => ?_) ?_) nofun rfl hadvancing hon⟩
    · exact Nat.le_trans (Nat.add_le_add_left hj least) (hmost m hm)
    · exact Nat.le_trans hlength (by simp [Place.behind])

end

/-! ## Patterns -/

/-- The pieces that are tried are those that the pattern describes. -/
theorem performs_run {p : Pattern} (h : p.isPlain = true) : Performs p.run p.Describes := by
  induction p with
  | empty => exact performs_onward
  | char | any | oneOf => exact performs_stepIf _
  | lineStart everyLine =>
    exact performs_stayIf fun before _ =>
      before.isEmpty || (everyLine && before.head? == some '\n')
  | lineEnd everyLine =>
    exact performs_stayIf fun _ rest =>
      rest.isEmpty || rest == ['\n'] || (everyLine && rest.head? == some '\n')
  | textStart => exact performs_stayIf fun before _ => before.isEmpty
  | textEnd => exact performs_stayIf fun _ rest => rest.isEmpty
  | wordEdge ascii negated =>
    exact performs_stayIf fun before rest =>
      (before.head?.any (CharKind.word.holds ascii) != rest.head?.any (CharKind.word.holds ascii))
        != negated && !(before.isEmpty && rest.isEmpty)
  | sequence p q ihp ihq =>
    obtain ⟨hp, hq⟩ := Bool.and_eq_true_iff.mp h
    exact (ihp hp).followedBy (ihq hq)
  | choice p q ihp ihq =>
    obtain ⟨hp, hq⟩ := Bool.and_eq_true_iff.mp h
    exact (ihp hp).either (ihq hq)
  | repeated p least most few ih => exact (ih h).repeated least most few
  | group number p ih => exact (ih h).captured number
  | ahead negated p ih => exact performs_look (ih h).startsAt negated
  | behind negated width p ih => exact performs_look ((ih h).startsBehind width) negated
  | again | atomic | ifGroup => cases h

variable {p : Pattern}

/-- A plain pattern matches at the start of a text if it describes a piece there. -/
theorem matchesStart_iff (h : p.isPlain = true) {text : List Char} :
    p.matchesStart text = true ↔ p.Describes.StartsAt [] text :=
  (performs_run h).startsAt (.start text)

theorem occursFrom_iff (h : p.isPlain = true) {index : Nat} {before text : List Char} :
    p.occursFrom index before text = true ↔ ∃ skipped rest,
      text = skipped ++ rest ∧ p.Describes.StartsAt (skipped.reverse ++ before) rest := by
  induction text generalizing index before with
  | nil =>
    rw [occursFrom, (performs_run h).startsAt]
    constructor
    · exact fun hstarts => ⟨[], [], rfl, hstarts⟩
    · rintro ⟨skipped, rest, htext, hstarts⟩
      obtain ⟨rfl, rfl⟩ := List.append_eq_nil_iff.mp htext.symm
      exact hstarts
  | cons c text ih =>
    rw [occursFrom, Bool.or_eq_true, (performs_run h).startsAt, ih]
    constructor
    · rintro (hstarts | ⟨skipped, rest, rfl, hstarts⟩)
      · exact ⟨[], c :: text, rfl, hstarts⟩
      · refine ⟨c :: skipped, rest, rfl, ?_⟩
        rwa [List.reverse_cons, List.append_assoc]
    · rintro ⟨skipped, rest, htext, hstarts⟩
      cases skipped with
      | nil =>
        obtain rfl : c :: text = rest := htext
        exact .inl hstarts
      | cons d skipped =>
        obtain ⟨rfl, rfl⟩ := List.cons.inj htext
        rw [List.reverse_cons, List.append_assoc] at hstarts
        exact .inr ⟨skipped, rest, rfl, hstarts⟩

/-- A plain pattern occurs in a text if it describes a piece of it where the piece stands. -/
theorem occursIn_iff (h : p.isPlain = true) {text : String} :
    p.occursIn text = true ↔ ∃ skipped piece rest,
      text.toList = skipped ++ (piece ++ rest) ∧ p.Describes skipped.reverse piece rest := by
  rw [occursIn, occursFrom_iff h]
  simp only [List.append_nil]
  constructor
  · rintro ⟨skipped, _, htext, piece, rest, rfl, hpiece⟩
    exact ⟨skipped, piece, rest, htext, hpiece⟩
  · rintro ⟨skipped, piece, rest, htext, hpiece⟩
    exact ⟨skipped, piece ++ rest, htext, piece, rest, rfl, hpiece⟩

end Conform.Pattern
