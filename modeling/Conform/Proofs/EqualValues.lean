import Conform.Proofs.EqualTimes
import Conform.Value.Order

/-
  Equality of values is transitive (`equals_trans`), and it does not matter which of two values is
  asked (`equals_comm`). The second fact needs well-formed values: sets are compared by their sizes
  and by looking for each member of the one among those of the other, and only if no two members of
  a set are equal is every member of the other one found then (`exists_partner`). Sets and maps
  that are built by adding members and keys are well-formed.

  No value is said to be equal to itself: what is no number is not.
-/

namespace Conform

/-! ## Numbers -/

namespace Number

variable {l m n : Number}

/-- Two scaled integers can be compared at every scale that is fine enough for both. -/
theorem compareScaled_eq_iff {low e f : Int} (he : low ≤ e) (hf : low ≤ f) (a b : Int) :
    compareScaled a e b f = .eq ↔
      a * Int.pow 2 (e - low).toNat = b * Int.pow 2 (f - low).toNat := by
  have hscale : ∀ {g : Int}, min e f ≤ g → (g - low).toNat =
      (g - min e f).toNat + (min e f - low).toNat := by omega
  have hadd : ∀ j k, Int.pow 2 (j + k) = Int.pow 2 j * Int.pow 2 k := fun j k => Int.pow_add 2 j k
  have hpositive : Int.pow 2 (min e f - low).toNat ≠ 0 := Int.pow_ne_zero (by decide)
  rw [compareScaled, Int.compare_eq_eq, hscale (Int.min_le_left e f),
    hscale (Int.min_le_right e f), hadd, hadd, ← Int.mul_assoc, ← Int.mul_assoc,
    Int.mul_eq_mul_right_iff hpositive]

theorem equals_iff : m.equals n = true ↔ m.compare? n = some .eq := beq_iff_eq

theorem equals_symm (h : m.equals n = true) : n.equals m = true := by
  rw [equals_iff, ← compare?_swap, equals_iff.mp h]
  rfl

theorem equals_trans (h : l.equals m = true) (h' : m.equals n = true) : l.equals n = true := by
  rw [equals_iff] at h h' ⊢
  cases m with
  | nan => cases l <;> cases h
  | infinite s =>
    -- An infinity is equal to itself and to nothing else.
    have hself : ∀ {k : Number}, k.compare? (.infinite s) = some .eq → k = .infinite s := by
      intro k hk
      cases k with
      | nan => cases hk
      | infinite t => cases s <;> cases t <;> first | rfl | cases hk
      | dyadic => cases s <;> cases hk
    rwa [hself h]
  | dyadic b f =>
    cases l with
    | nan => cases h
    | infinite s => cases s <;> cases h
    | dyadic a e =>
      cases n with
      | nan => cases h'
      | infinite t => cases t <;> cases h'
      | dyadic c g =>
        have hlow : min e (min f g) ≤ e ∧ min e (min f g) ≤ f ∧ min e (min f g) ≤ g := by omega
        rw [compare?, Option.some.injEq] at h h' ⊢
        rw [compareScaled_eq_iff hlow.1 hlow.2.1] at h
        rw [compareScaled_eq_iff hlow.2.1 hlow.2.2] at h'
        rw [compareScaled_eq_iff hlow.1 hlow.2.2, h, h']

end Number

namespace Value

/-! ## What a value is made of -/

/-- The values that a value is put together from. -/
def parts : Value → List Value
  | .list xs | .tuple xs | .set xs | .frozenset xs => xs
  | .map entries => entries.flatMap fun entry => [entry.1, entry.2]
  | _ => []

theorem mem_parts_map {entries : List (Value × Value)} {entry : Value × Value}
    (h : entry ∈ entries) :
    entry.1 ∈ (Value.map entries).parts ∧ entry.2 ∈ (Value.map entries).parts := by
  constructor <;> exact List.mem_flatMap.mpr ⟨entry, h, by simp⟩

theorem sizeOf_lt_of_mem_parts {x y : Value} (h : y ∈ x.parts) : sizeOf y < sizeOf x := by
  cases x with
  | list xs | tuple xs | set xs | frozenset xs =>
    have hsize : sizeOf y < sizeOf xs := List.sizeOf_lt_of_mem h
    simp only [list.sizeOf_spec, tuple.sizeOf_spec, set.sizeOf_spec, frozenset.sizeOf_spec]
    omega
  | map entries =>
    obtain ⟨⟨key, value⟩, hentry, hy⟩ := List.mem_flatMap.mp h
    have hsize := List.sizeOf_lt_of_mem hentry
    rw [Prod.mk.sizeOf_spec] at hsize
    rw [map.sizeOf_spec]
    obtain rfl | rfl : y = key ∨ y = value := by simpa using hy
    · omega
    · omega
  | _ => cases h

/-- What holds of a value if it holds of its parts holds of every value. -/
theorem induction_on_parts {P : Value → Prop} (h : ∀ x, (∀ y ∈ x.parts, P y) → P x) (x : Value) :
    P x :=
  h x fun y _ => induction_on_parts h y
termination_by sizeOf x
decreasing_by exact sizeOf_lt_of_mem_parts ‹_›

/-- Whether no value is equal to one behind it. -/
def areDifferent : List Value → Bool
  | [] => true
  | x :: xs => !x.isAmong xs && areDifferent xs

theorem areDifferent_iff {xs : List Value} :
    areDifferent xs = true ↔ xs.Pairwise fun x y => x.equals y = false := by
  induction xs with
  | nil => simp [areDifferent]
  | cons x xs ih => simp [areDifferent, isAmong, ih]

mutual

/-- Whether no set in the value has two equal members and no map two equal keys. -/
def isWellFormed : Value → Bool
  | .list xs => areWellFormed xs
  | .tuple xs => areWellFormed xs
  | .set xs => areDifferent xs && areWellFormed xs
  | .frozenset xs => areDifferent xs && areWellFormed xs
  | .map entries => areDifferent (entries.map (·.1)) && areWellFormedEntries entries
  | _ => true

def areWellFormed : List Value → Bool
  | [] => true
  | x :: xs => isWellFormed x && areWellFormed xs

def areWellFormedEntries : List (Value × Value) → Bool
  | [] => true
  | (key, x) :: rest => isWellFormed key && isWellFormed x && areWellFormedEntries rest

end

theorem areWellFormed_iff {xs : List Value} :
    areWellFormed xs = true ↔ ∀ x ∈ xs, x.isWellFormed = true := by
  induction xs with
  | nil => simp [areWellFormed]
  | cons x xs ih => simp [areWellFormed, ih]

theorem areWellFormedEntries_iff {entries : List (Value × Value)} :
    areWellFormedEntries entries = true ↔
      ∀ entry ∈ entries, entry.1.isWellFormed = true ∧ entry.2.isWellFormed = true := by
  induction entries with
  | nil => simp [areWellFormedEntries]
  | cons entry entries ih => simp [areWellFormedEntries, ih, and_assoc]

theorem isWellFormed_of_mem_parts {x y : Value} (h : x.isWellFormed = true) (hy : y ∈ x.parts) :
    y.isWellFormed = true := by
  cases x with
  | list xs | tuple xs => exact areWellFormed_iff.mp h y hy
  | set xs | frozenset xs => exact areWellFormed_iff.mp (Bool.and_eq_true_iff.mp h).2 y hy
  | map entries =>
    obtain ⟨entry, hentry, hy⟩ := List.mem_flatMap.mp hy
    obtain ⟨hkey, hvalue⟩ :=
      areWellFormedEntries_iff.mp (Bool.and_eq_true_iff.mp h).2 entry hentry
    obtain rfl | rfl : y = entry.1 ∨ y = entry.2 := by simpa using hy
    · exact hkey
    · exact hvalue
  | _ => cases hy

theorem pairwise_members {x : Value} {xs : List Value} (h : x.isWellFormed = true)
    (hxs : x.members? = some xs) : xs.Pairwise fun a b => a.equals b = false := by
  cases x with
  | set members | frozenset members =>
    obtain rfl := Option.some.inj hxs
    exact areDifferent_iff.mp (Bool.and_eq_true_iff.mp h).1
  | _ => cases hxs

theorem pairwise_keys {entries : List (Value × Value)}
    (h : (Value.map entries).isWellFormed = true) :
    entries.Pairwise fun e f => e.1.equals f.1 = false :=
  List.pairwise_map.mp (areDifferent_iff.mp (Bool.and_eq_true_iff.mp h).1)

/-! ## What it takes to be equal -/

section

variable {x y z : Value}

theorem equals_number {m : Number} (h : x.number? = some m) :
    x.equals y = true ↔ ∃ n, y.number? = some n ∧ m.equals n = true := by
  cases x with
  | bool | int | float =>
    obtain rfl := Option.some.inj h
    rw [equals]
    cases y.number? <;> simp
  | _ => cases h

theorem equalItems_iff {xs ys : List Value} :
    equalItems xs ys = true ↔ ∃ h : xs.length = ys.length,
      ∀ i (hi : i < xs.length), xs[i].equals ys[i] = true := by
  induction xs generalizing ys with
  | nil => cases ys <;> simp [equalItems]
  | cons x xs ih =>
    cases ys with
    | nil => simp [equalItems]
    | cons y ys =>
      rw [equalItems, Bool.and_eq_true, ih]
      constructor
      · rintro ⟨hfirst, hlength, hrest⟩
        refine ⟨congrArg (· + 1) hlength, fun i hi => ?_⟩
        cases i with
        | zero => exact hfirst
        | succ i => exact hrest i (Nat.lt_of_succ_lt_succ hi)
      · rintro ⟨hlength, hitems⟩
        exact ⟨hitems 0 (Nat.zero_lt_succ _), Nat.succ.inj hlength,
          fun i hi => hitems (i + 1) (Nat.succ_lt_succ hi)⟩

theorem equals_list {xs : List Value} :
    (Value.list xs).equals y = true ↔ ∃ ys, y = .list ys ∧ equalItems xs ys = true := by
  cases y <;> simp [equals]

theorem equals_tuple {xs : List Value} :
    (Value.tuple xs).equals y = true ↔ ∃ ys, y = .tuple ys ∧ equalItems xs ys = true := by
  cases y <;> simp [equals]

theorem allAmong_iff {xs ys : List Value} :
    allAmong xs ys = true ↔ ∀ a ∈ xs, ∃ b ∈ ys, a.equals b = true := by
  induction xs with
  | nil => simp [allAmong]
  | cons x xs ih => simp [allAmong, ih]

theorem equals_members {xs : List Value} (h : x.members? = some xs) :
    x.equals y = true ↔ ∃ ys, y.members? = some ys ∧ xs.length = ys.length ∧
      ∀ a ∈ xs, ∃ b ∈ ys, a.equals b = true := by
  cases x with
  | set members | frozenset members =>
    obtain rfl := Option.some.inj h
    rw [equals]
    cases y.members? <;> simp [allAmong_iff]
  | _ => cases h

theorem allEntriesAmong_iff {entries others : List (Value × Value)} :
    allEntriesAmong entries others = true ↔
      ∀ e ∈ entries, ∃ f ∈ others, e.1.equals f.1 = true ∧ e.2.equals f.2 = true := by
  induction entries with
  | nil => simp [allEntriesAmong]
  | cons entry entries ih =>
    obtain ⟨key, value⟩ := entry
    simp [allEntriesAmong, ih]

theorem equals_map {entries : List (Value × Value)} :
    (Value.map entries).equals y = true ↔ ∃ others, y = .map others ∧
      entries.length = others.length ∧
        ∀ e ∈ entries, ∃ f ∈ others, e.1.equals f.1 = true ∧ e.2.equals f.2 = true := by
  cases y <;> simp [equals, allEntriesAmong_iff]

theorem equals_datetime {t : DateTime} :
    (Value.datetime t).equals y = true ↔ ∃ u, y = .datetime u ∧ t.equals u = true := by
  cases y <;> simp [equals]

/-- Absent values, texts, bytes and days are equal to themselves and to nothing else. -/
theorem eq_of_equals (h : x.equals y = true)
    (hkind : x.kind ∈ [Kind.null, .str, .bytes, .date]) : y = x := by
  cases x with
  | null =>
    rw [equals] at h
    exact isNull_iff.mp h
  | str | bytes | date =>
    cases y <;> simp_all [equals]
  | _ => simp [kind] at hkind

/-! ## Transitivity and symmetry -/

theorem equals_trans (h : x.equals y = true) (h' : y.equals z = true) : x.equals z = true := by
  induction x using induction_on_parts generalizing y z with
  | _ x ih =>
    have hnumbers : ∀ {m}, x.number? = some m → x.equals z = true := by
      intro m hm
      obtain ⟨n, hn, hmn⟩ := (equals_number hm).mp h
      obtain ⟨k, hk, hnk⟩ := (equals_number hn).mp h'
      exact (equals_number hm).mpr ⟨k, hk, Number.equals_trans hmn hnk⟩
    have hitems : ∀ {xs ys zs : List Value}, x.parts = xs → equalItems xs ys = true →
        equalItems ys zs = true → equalItems xs zs = true := by
      rintro xs ys zs rfl hxy hyz
      obtain ⟨hlength, hxy⟩ := equalItems_iff.mp hxy
      obtain ⟨hlength', hyz⟩ := equalItems_iff.mp hyz
      exact equalItems_iff.mpr ⟨hlength.trans hlength', fun i hi =>
        ih _ (List.getElem_mem hi) (hxy i hi) (hyz i (hlength ▸ hi))⟩
    have hmembers : ∀ {xs}, x.members? = some xs → x.parts = xs → x.equals z = true := by
      rintro xs hxs rfl
      obtain ⟨ys, hys, hlength, hxy⟩ := (equals_members hxs).mp h
      obtain ⟨zs, hzs, hlength', hyz⟩ := (equals_members hys).mp h'
      refine (equals_members hxs).mpr ⟨zs, hzs, hlength.trans hlength', fun a ha => ?_⟩
      obtain ⟨b, hb, hab⟩ := hxy a ha
      obtain ⟨c, hc, hbc⟩ := hyz b hb
      exact ⟨c, hc, ih a ha hab hbc⟩
    cases x with
    | null | str | bytes | date =>
      obtain rfl := eq_of_equals h (by simp [kind])
      exact h'
    | bool | int | float => exact hnumbers rfl
    | list xs =>
      obtain ⟨ys, rfl, hxy⟩ := equals_list.mp h
      obtain ⟨zs, rfl, hyz⟩ := equals_list.mp h'
      exact equals_list.mpr ⟨zs, rfl, hitems rfl hxy hyz⟩
    | tuple xs =>
      obtain ⟨ys, rfl, hxy⟩ := equals_tuple.mp h
      obtain ⟨zs, rfl, hyz⟩ := equals_tuple.mp h'
      exact equals_tuple.mpr ⟨zs, rfl, hitems rfl hxy hyz⟩
    | set | frozenset => exact hmembers rfl rfl
    | map entries =>
      obtain ⟨others, rfl, hlength, hxy⟩ := equals_map.mp h
      obtain ⟨thirds, rfl, hlength', hyz⟩ := equals_map.mp h'
      refine equals_map.mpr ⟨thirds, rfl, hlength.trans hlength', fun e he => ?_⟩
      obtain ⟨f, hf, hkey, hvalue⟩ := hxy e he
      obtain ⟨g, hg, hkey', hvalue'⟩ := hyz f hf
      exact ⟨g, hg, ih _ (mem_parts_map he).1 hkey hkey', ih _ (mem_parts_map he).2 hvalue hvalue'⟩
    | datetime t =>
      obtain ⟨u, rfl, htu⟩ := equals_datetime.mp h
      obtain ⟨w, rfl, huw⟩ := equals_datetime.mp h'
      exact equals_datetime.mpr ⟨w, rfl, DateTime.equals_trans htu huw⟩

/-- If each of some values has a partner among no more others, and no two have the same one, each of
the others is a partner. -/
theorem exists_partner {α : Type} {R : α → α → Prop} {xs ys : List α}
    (hall : ∀ a ∈ xs, ∃ b ∈ ys, R a b)
    (hdifferent : xs.Pairwise fun a a' => ∀ b ∈ ys, R a b → ¬ R a' b)
    (hlength : ys.length ≤ xs.length) : ∀ b ∈ ys, ∃ a ∈ xs, R a b := by
  induction xs generalizing ys with
  | nil =>
    obtain rfl := List.eq_nil_of_length_eq_zero (Nat.le_zero.mp hlength)
    nofun
  | cons x xs ih =>
    obtain ⟨⟨y, hy, hxy⟩, hall⟩ := List.forall_mem_cons.mp hall
    obtain ⟨hfirst, hdifferent⟩ := List.pairwise_cons.mp hdifferent
    -- The partner of the first value is taken out, and the others still have theirs.
    obtain ⟨before, after, rfl⟩ := List.append_of_mem hy
    have hrest : ∀ b ∈ before ++ after, b ∈ before ++ y :: after := by
      intro b hb
      rw [List.mem_append, List.mem_cons]
      exact (List.mem_append.mp hb).imp_right .inr
    have hothers : ∀ b ∈ before ++ after, ∃ a ∈ xs, R a b := by
      refine ih (fun a ha => ?_) (hdifferent.imp fun h b hb => h b (hrest b hb)) ?_
      · obtain ⟨b, hb, hab⟩ := hall a ha
        rw [List.mem_append, List.mem_cons] at hb
        obtain hb | rfl | hb := hb
        · exact ⟨b, List.mem_append_left _ hb, hab⟩
        · exact absurd hab (hfirst a ha b hy hxy)
        · exact ⟨b, List.mem_append_right _ hb, hab⟩
      · simp only [List.length_append, List.length_cons] at hlength ⊢
        omega
    intro b hb
    rw [List.mem_append, List.mem_cons] at hb
    obtain hb | rfl | hb := hb
    · obtain ⟨a, ha, hab⟩ := hothers b (List.mem_append_left _ hb)
      exact ⟨a, List.mem_cons_of_mem _ ha, hab⟩
    · exact ⟨x, List.mem_cons_self, hxy⟩
    · obtain ⟨a, ha, hab⟩ := hothers b (List.mem_append_right _ hb)
      exact ⟨a, List.mem_cons_of_mem _ ha, hab⟩

theorem equals_symm (hx : x.isWellFormed = true) (hy : y.isWellFormed = true)
    (h : x.equals y = true) : y.equals x = true := by
  induction x using induction_on_parts generalizing y with
  | _ x ih =>
    have hpart : ∀ a ∈ x.parts, ∀ b ∈ y.parts, a.equals b = true → b.equals a = true :=
      fun a ha b hb => ih a ha (isWellFormed_of_mem_parts hx ha) (isWellFormed_of_mem_parts hy hb)
    -- What is equal to the same part is equal.
    have hjoin : ∀ a ∈ x.parts, ∀ a' ∈ x.parts, ∀ b ∈ y.parts, a.equals b = true →
        a'.equals b = true → a.equals a' = true :=
      fun a _ a' ha' b hb hab ha'b => equals_trans hab (hpart a' ha' b hb ha'b)
    have hnumbers : ∀ {m}, x.number? = some m → y.equals x = true := by
      intro m hm
      obtain ⟨n, hn, hmn⟩ := (equals_number hm).mp h
      exact (equals_number hn).mpr ⟨m, hm, Number.equals_symm hmn⟩
    have hitems : ∀ {xs ys : List Value}, x.parts = xs → y.parts = ys →
        equalItems xs ys = true → equalItems ys xs = true := by
      rintro xs ys rfl rfl hxy
      obtain ⟨hlength, hxy⟩ := equalItems_iff.mp hxy
      exact equalItems_iff.mpr ⟨hlength.symm, fun i hi =>
        hpart _ (List.getElem_mem (hlength ▸ hi)) _ (List.getElem_mem hi) (hxy i (hlength ▸ hi))⟩
    have hmembers : ∀ {xs}, x.members? = some xs → x.parts = xs → y.equals x = true := by
      rintro xs hxs rfl
      obtain ⟨ys, hys, hlength, hxy⟩ := (equals_members hxs).mp h
      have hys' : y.parts = ys := by
        cases y <;> first | exact Option.some.inj hys | cases hys
      subst hys'
      refine (equals_members hys).mpr ⟨_, hxs, hlength.symm, fun b hb => ?_⟩
      have hapart : x.parts.Pairwise fun a a' => ∀ b ∈ y.parts, a.equals b = true →
          ¬ a'.equals b = true := by
        refine (pairwise_members hx hxs).imp_of_mem fun {a a'} ha ha' hne b hb hab ha'b => ?_
        exact Bool.false_ne_true (hne.symm.trans (hjoin a ha a' ha' b hb hab ha'b))
      obtain ⟨a, ha, hab⟩ := exists_partner hxy hapart (Nat.le_of_eq hlength.symm) b hb
      exact ⟨a, ha, hpart a ha b hb hab⟩
    cases x with
    | null | str | bytes | date =>
      obtain rfl := eq_of_equals h (by simp [kind])
      exact h
    | bool | int | float => exact hnumbers rfl
    | list xs =>
      obtain ⟨ys, rfl, hxy⟩ := equals_list.mp h
      exact equals_list.mpr ⟨xs, rfl, hitems rfl rfl hxy⟩
    | tuple xs =>
      obtain ⟨ys, rfl, hxy⟩ := equals_tuple.mp h
      exact equals_tuple.mpr ⟨xs, rfl, hitems rfl rfl hxy⟩
    | set | frozenset => exact hmembers rfl rfl
    | map entries =>
      obtain ⟨others, rfl, hlength, hxy⟩ := equals_map.mp h
      refine equals_map.mpr ⟨entries, rfl, hlength.symm, fun f hf => ?_⟩
      have hapart : entries.Pairwise fun e e' => ∀ f ∈ others,
          e.1.equals f.1 = true ∧ e.2.equals f.2 = true →
            ¬ (e'.1.equals f.1 = true ∧ e'.2.equals f.2 = true) := by
        refine (pairwise_keys hx).imp_of_mem fun {e e'} he he' hne f hf hef he'f => ?_
        exact Bool.false_ne_true (hne.symm.trans (hjoin _ (mem_parts_map he).1 _
          (mem_parts_map he').1 _ (mem_parts_map hf).1 hef.1 he'f.1))
      obtain ⟨e, he, hkey, hvalue⟩ := exists_partner hxy hapart (Nat.le_of_eq hlength.symm) f hf
      exact ⟨e, he, hpart _ (mem_parts_map he).1 _ (mem_parts_map hf).1 hkey,
        hpart _ (mem_parts_map he).2 _ (mem_parts_map hf).2 hvalue⟩
    | datetime t =>
      obtain ⟨u, rfl, htu⟩ := equals_datetime.mp h
      exact equals_datetime.mpr ⟨t, rfl, DateTime.equals_symm htu⟩

/-- It does not matter which of two values is asked whether it is equal to the other one. -/
theorem equals_comm (hx : x.isWellFormed = true) (hy : y.isWellFormed = true) :
    x.equals y = y.equals x :=
  Bool.eq_iff_iff.mpr ⟨equals_symm hx hy, equals_symm hy hx⟩

end

end Value
end Conform
