import Conform.Pattern.Matching

/-
  What patterns describe. `Pattern.Describes` says which pieces of text a pattern describes, in
  their surroundings: a sequence two pieces of which one follows the other, a repetition as many
  pieces as it allows. It says nothing of patterns in which the order of choices counts: those that
  ask for what a group remembers, and those that give nothing back. All others are plain
  (`Pattern.isPlain`).
-/

namespace Conform.Pattern

/-! ## Pieces -/

/-- Pieces in their surroundings: the text before with its last character first, the piece, and the
text after it. -/
abbrev Description := List Char → List Char → List Char → Prop

namespace Description

/-- A piece of the one kind and behind it one of the other. -/
def followedBy (d e : Description) : Description := fun before piece rest =>
  ∃ first second, piece = first ++ second ∧ d before first (second ++ rest) ∧
    e (first.reverse ++ before) second rest

/-- So many pieces one behind the other. -/
def times (d : Description) : Nat → Description
  | 0 => fun _ piece _ => piece = []
  | n + 1 => d.followedBy (d.times n)

/-- A character of some kind. -/
def single (accepts : Char → Bool) : Description := fun _ piece _ =>
  ∃ c, piece = [c] ∧ accepts c = true

/-- No character, in surroundings of some kind. -/
def nowhere (condition : List Char → List Char → Bool) : Description := fun before piece rest =>
  piece = [] ∧ condition before rest = true

/-- A piece with at least one character. -/
def advancing (d : Description) : Description := fun before piece rest =>
  piece ≠ [] ∧ d before piece rest

/-- A piece starts between the text before and the text after it. -/
def StartsAt (d : Description) (before text : List Char) : Prop :=
  ∃ piece rest, text = piece ++ rest ∧ d before piece rest

variable {d : Description} {before piece rest : List Char}

theorem times_add {m n : Nat} :
    d.times (m + n) before piece rest ↔ (d.times m).followedBy (d.times n) before piece rest := by
  induction m generalizing before piece with
  | zero =>
    rw [Nat.zero_add]
    constructor
    · exact fun h => ⟨[], piece, rfl, rfl, h⟩
    · rintro ⟨_, second, rfl, rfl, h⟩
      exact h
  | succ m ih =>
    rw [Nat.succ_add]
    constructor
    · rintro ⟨first, second, rfl, hfirst, hsecond⟩
      obtain ⟨third, fourth, rfl, hthird, hfourth⟩ := ih.mp hsecond
      refine ⟨first ++ third, fourth, (List.append_assoc ..).symm,
        ⟨first, third, rfl, ?_, hthird⟩, ?_⟩
      · rwa [← List.append_assoc]
      · rwa [List.reverse_append, List.append_assoc]
    · rintro ⟨_, fourth, rfl, ⟨first, third, rfl, hfirst, hthird⟩, hfourth⟩
      refine ⟨first, third ++ fourth, List.append_assoc .., ?_,
        ih.mpr ⟨third, fourth, rfl, hthird, ?_⟩⟩
      · rwa [List.append_assoc]
      · rwa [List.reverse_append, List.append_assoc] at hfourth

/-- Pieces without characters can be left out, and no more others are possible than there are
characters. -/
theorem exists_advancing {n : Nat} (h : d.times n before piece rest) :
    ∃ k ≤ n, k ≤ piece.length ∧ d.advancing.times k before piece rest := by
  induction n generalizing before piece with
  | zero => exact ⟨0, Nat.le_refl 0, Nat.zero_le _, h⟩
  | succ n ih =>
    obtain ⟨first, second, rfl, hfirst, hsecond⟩ := h
    obtain ⟨k, hk, hlength, hfewer⟩ := ih hsecond
    cases first with
    | nil => exact ⟨k, Nat.le_succ_of_le hk, hlength, hfewer⟩
    | cons c first =>
      refine ⟨k + 1, Nat.succ_le_succ hk, ?_, c :: first, second, rfl, ⟨nofun, hfirst⟩, hfewer⟩
      rw [List.length_append, List.length_cons]
      omega

end Description

/-- Whether the order of choices plays no role for where the pattern matches. -/
def isPlain : Pattern → Bool
  | .again _ _ | .atomic _ | .ifGroup _ _ _ => false
  | .sequence p q | .choice p q => p.isPlain && q.isPlain
  | .repeated p _ _ _ | .group _ p | .ahead _ p | .behind _ _ p => p.isPlain
  | _ => true

/-- The pieces that a plain pattern describes. A limit of repetitions below the least number of them
is no limit for that number. -/
def Describes : Pattern → Description
  | .empty => fun _ piece _ => piece = []
  | .char casing c => .single fun d => casing.same c d
  | .any breaks => .single fun c => breaks || c != '\n'
  | .oneOf casing negated items => .single (classHolds casing negated items)
  | .lineStart everyLine =>
    .nowhere fun before _ => before.isEmpty || (everyLine && before.head? == some '\n')
  | .lineEnd everyLine =>
    .nowhere fun _ rest => rest.isEmpty || rest == ['\n'] || (everyLine && rest.head? == some '\n')
  | .textStart => .nowhere fun before _ => before.isEmpty
  | .textEnd => .nowhere fun _ rest => rest.isEmpty
  | .wordEdge ascii negated => .nowhere fun before rest =>
    (before.head?.any (CharKind.word.holds ascii) != rest.head?.any (CharKind.word.holds ascii))
      != negated && !(before.isEmpty && rest.isEmpty)
  | .sequence p q => p.Describes.followedBy q.Describes
  | .choice p q => fun before piece rest =>
    p.Describes before piece rest ∨ q.Describes before piece rest
  | .repeated p least most _ => fun before piece rest =>
    ∃ n, least ≤ n ∧ (∀ m ∈ most, n ≤ max least m) ∧ p.Describes.times n before piece rest
  | .group _ p => p.Describes
  | .ahead negated p => fun before piece rest =>
    piece = [] ∧ (p.Describes.StartsAt before rest ↔ negated = false)
  | .behind negated width p => fun before piece rest =>
    piece = [] ∧ ((∃ skipped before', skipped.length = width ∧
      before = skipped.reverse ++ before' ∧ p.Describes.StartsAt before' (skipped ++ rest)) ↔
        negated = false)
  | .again _ _ | .atomic _ | .ifGroup _ _ _ => fun _ _ _ => False

/-! ## Repeated pieces -/

theorem sequence_describes {p q : Pattern} {before piece rest : List Char} :
    (Pattern.sequence p q).Describes before piece rest ↔ ∃ first second, piece = first ++ second ∧
      p.Describes before first (second ++ rest) ∧
        q.Describes (first.reverse ++ before) second rest :=
  Iff.rfl

theorem char_describes {c : Char} {before piece rest : List Char} :
    (Pattern.char .exact c).Describes before piece rest ↔ piece = [c] := by
  constructor
  · rintro ⟨d, rfl, hd⟩
    rw [eq_of_beq hd]
  · rintro rfl
    exact ⟨c, rfl, beq_self_eq_true c⟩

theorem lineEnd_describes {before piece rest : List Char} :
    (Pattern.lineEnd false).Describes before piece rest ↔
      piece = [] ∧ (rest = [] ∨ rest = ['\n']) := by
  simp [Describes, Description.nowhere]

/-- Repeated pieces whose surroundings play no role. -/
theorem times_iff {d : Description} {accepts : List Char → Prop}
    (h : ∀ before piece rest, d before piece rest ↔ accepts piece) (n : Nat)
    (before piece rest : List Char) :
    d.times n before piece rest ↔
      ∃ pieces : List (List Char), pieces.length = n ∧ piece = pieces.flatten ∧
        ∀ part ∈ pieces, accepts part := by
  induction n generalizing before piece with
  | zero =>
    constructor
    · rintro rfl
      exact ⟨[], rfl, rfl, nofun⟩
    · rintro ⟨pieces, hlength, rfl, -⟩
      rw [List.length_eq_zero_iff.mp hlength]
      rfl
  | succ n ih =>
    constructor
    · rintro ⟨first, others, rfl, hfirst, hothers⟩
      obtain ⟨pieces, hlength, rfl, hpieces⟩ := (ih _ _).mp hothers
      exact ⟨first :: pieces, by rw [List.length_cons, hlength], rfl,
        List.forall_mem_cons.mpr ⟨(h _ _ _).mp hfirst, hpieces⟩⟩
    · rintro ⟨pieces, hlength, rfl, hpieces⟩
      cases pieces with
      | nil => cases hlength
      | cons first pieces =>
        obtain ⟨hfirst, hpieces⟩ := List.forall_mem_cons.mp hpieces
        exact ⟨first, pieces.flatten, rfl, (h _ _ _).mpr hfirst,
          (ih _ _).mpr ⟨pieces, Nat.succ.inj hlength, rfl, hpieces⟩⟩

/-- As many characters of a kind as are asked for. -/
theorem times_single_iff {accepts : Char → Bool} {n : Nat} {before piece rest : List Char} :
    (Description.single accepts).times n before piece rest ↔
      piece.length = n ∧ ∀ c ∈ piece, accepts c = true := by
  induction n generalizing before piece with
  | zero =>
    constructor
    · rintro rfl
      exact ⟨rfl, nofun⟩
    · rintro ⟨hlength, -⟩
      exact List.length_eq_zero_iff.mp hlength
  | succ n ih =>
    constructor
    · rintro ⟨first, others, rfl, ⟨c, rfl, hc⟩, hothers⟩
      obtain ⟨hlength, hall⟩ := ih.mp hothers
      exact ⟨congrArg Nat.succ hlength, List.forall_mem_cons.mpr ⟨hc, hall⟩⟩
    · rintro ⟨hlength, hall⟩
      cases piece with
      | nil => cases hlength
      | cons c piece =>
        obtain ⟨hc, hall⟩ := List.forall_mem_cons.mp hall
        exact ⟨[c], piece, rfl, ⟨c, rfl, hc⟩, ih.mpr ⟨Nat.succ.inj hlength, hall⟩⟩

/-- At least so many characters of a class. -/
theorem repeated_class_describes {negated : Bool} {items : List ClassItem} {least : Nat}
    {before piece rest : List Char} :
    (Pattern.repeated (.oneOf .exact negated items) least none false).Describes before piece rest ↔
      least ≤ piece.length ∧ ∀ c ∈ piece, classHolds .exact negated items c = true := by
  constructor
  · rintro ⟨n, hleast, -, htimes⟩
    obtain ⟨rfl, hall⟩ := times_single_iff.mp htimes
    exact ⟨hleast, hall⟩
  · rintro ⟨hleast, hall⟩
    exact ⟨piece.length, hleast, nofun, times_single_iff.mpr ⟨rfl, hall⟩⟩

end Conform.Pattern
