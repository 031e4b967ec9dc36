import Conform.Proofs.EntryPoints
import Conform.Proofs.Path
import Mathlib.Data.List.Nodup

/-
  Nested maps under joined keys. The leaves of a map are its parts that are no maps themselves, each
  with the keys on the way to it (`Value.entryLeaves`). Flattening puts the leaves, depth first,
  under one key each, which is folded up on the way down (`flattenEntries_eq_map`): it is the keys
  on the way joined by the delimiter, except that empty keys at the start of the way leave no trace
  (`foldl_pathBelow_empty`).

  Main result: `flattened_leaves_under_joined_keys`. Leaves are told apart by their whole ways, so
  none is lost if no map is stored under the empty key and the delimiter is a character that no key
  has. Behind an empty key two leaves can come under one key
  (`flatten_merges_leaf_behind_empty_key`).
-/

namespace Conform

open Text

namespace Value

mutual

/-- The leaves of a value, depth first, each with the keys on the way to it. -/
def leaves : Value → List (List Value × Value)
  | .map entries => entryLeaves entries
  | x => [([], x)]

def entryLeaves : List (Value × Value) → List (List Value × Value)
  | [] => []
  | (key, x) :: rest =>
    (leaves x).map (fun leaf => (key :: leaf.1, leaf.2)) ++ entryLeaves rest

end

mutual

/-- All keys of the maps in the value are different texts with the property. -/
def KeyedBy (p : String → Prop) : Value → Prop
  | .map entries => (entries.map (·.1)).Nodup ∧ EntriesKeyedBy p entries
  | _ => True

/-- The keys of the entries are texts with the property, and so are those below them. -/
def EntriesKeyedBy (p : String → Prop) : List (Value × Value) → Prop
  | [] => True
  | (key, x) :: rest => (∃ s, key = .str s ∧ p s) ∧ KeyedBy p x ∧ EntriesKeyedBy p rest

end

theorem equals_texts (s t : String) : (Value.str s).equals (.str t) = (s == t) := by
  rw [equals]

theorem exists_cons_of_mem_entryLeaves {entries : List (Value × Value)} {leaf : List Value × Value}
    (h : leaf ∈ entryLeaves entries) :
    ∃ entry ∈ entries, ∃ inner ∈ leaves entry.2, leaf = (entry.1 :: inner.1, inner.2) := by
  induction entries with
  | nil => cases h
  | cons entry rest ih =>
    obtain ⟨key, x⟩ := entry
    rw [entryLeaves, List.mem_append, List.mem_map] at h
    rcases h with ⟨inner, hinner, rfl⟩ | h
    · exact ⟨(key, x), List.mem_cons_self, inner, hinner, rfl⟩
    · obtain ⟨entry, hentry, hleaf⟩ := ih h
      exact ⟨entry, List.mem_cons_of_mem _ hentry, hleaf⟩

/-- A leaf of a value that is no map is the value itself. -/
theorem leaves_of_ne_map {x : Value} (h : ∀ entries, x ≠ .map entries) : leaves x = [([], x)] := by
  cases x with
  | map entries => exact absurd rfl (h entries)
  | _ => rfl

mutual

/-- No two leaves have the same way. -/
theorem nodup_leaves {p : String → Prop} : (x : Value) → x.KeyedBy p →
    (x.leaves.map (·.1)).Nodup
  | .map entries, h => nodup_entryLeaves entries h.1 h.2
  | .null, _ | .bool _, _ | .int _, _ | .float _, _ | .str _, _ | .bytes _, _ | .list _, _
  | .tuple _, _ | .set _, _ | .frozenset _, _ | .datetime _, _ | .date _, _ =>
    List.nodup_singleton _

theorem nodup_entryLeaves {p : String → Prop} : (entries : List (Value × Value)) →
    (entries.map (·.1)).Nodup → EntriesKeyedBy p entries → ((entryLeaves entries).map (·.1)).Nodup
  | [], _, _ => .nil
  | (key, x) :: rest, hkeys, h => by
    obtain ⟨hkey, hrest⟩ := List.nodup_cons.mp hkeys
    have hfirst := nodup_leaves x h.2.1
    rw [entryLeaves, List.map_append, List.map_map, List.nodup_append]
    refine ⟨?_, nodup_entryLeaves rest hrest h.2.2, ?_⟩
    · have hcons : (x.leaves.map ((·.1) ∘ fun leaf => (key :: leaf.1, leaf.2))) =
          (x.leaves.map (·.1)).map (key :: ·) := by rw [List.map_map]; rfl
      rw [hcons]
      exact hfirst.map (List.cons_injective)
    · -- The ways behind this key start with it, the others with keys that are different.
      rintro way hway way' hway' rfl
      obtain ⟨inner, -, rfl⟩ := List.mem_map.mp hway
      obtain ⟨leaf, hleaf, hsame⟩ := List.mem_map.mp hway'
      obtain ⟨entry, hentry, _, -, rfl⟩ := exists_cons_of_mem_entryLeaves hleaf
      have hsamekey : entry.1 = key := (List.cons.inj hsame).1
      exact hkey (List.mem_map.mpr ⟨entry, hentry, hsamekey⟩)

end

mutual

/-- The keys on the way to a leaf have the property that all keys have. -/
theorem forall_keys_of_mem_leaves {p : String → Prop} : (x : Value) → x.KeyedBy p →
    ∀ leaf ∈ x.leaves, ∀ key ∈ leaf.1, ∃ s, key = .str s ∧ p s
  | .map entries, h => forall_keys_of_mem_entryLeaves entries h.2
  | .null, _ | .bool _, _ | .int _, _ | .float _, _ | .str _, _ | .bytes _, _ | .list _, _
  | .tuple _, _ | .set _, _ | .frozenset _, _ | .datetime _, _ | .date _, _ => by
    intro leaf hleaf key hkey
    obtain rfl := List.mem_singleton.mp hleaf
    cases hkey

theorem forall_keys_of_mem_entryLeaves {p : String → Prop} : (entries : List (Value × Value)) →
    EntriesKeyedBy p entries → ∀ leaf ∈ entryLeaves entries, ∀ key ∈ leaf.1,
      ∃ s, key = .str s ∧ p s
  | [], _ => nofun
  | (key, x) :: rest, h => by
    intro leaf hleaf k hk
    rw [entryLeaves, List.mem_append, List.mem_map] at hleaf
    rcases hleaf with ⟨inner, hinner, rfl⟩ | hleaf
    · rcases List.mem_cons.mp hk with rfl | hk
      · exact h.1
      · exact forall_keys_of_mem_leaves x h.2.1 inner hinner k hk
    · exact forall_keys_of_mem_entryLeaves rest h.2.2 leaf hleaf k hk

end

end Value

namespace Entries

theorem insert_of_hasKey_eq_false {entries : Entries} {key : Value}
    (h : entries.hasKey key = false) (x : Value) :
    entries.insert key x = entries ++ [(key, x)] := by
  induction entries with
  | nil => rfl
  | cons entry rest ih =>
    rw [hasKey, List.any_cons, Bool.or_eq_false_iff] at h
    rw [insert, insertBy, if_neg (by simp [h.1])]
    exact congrArg (entry :: ·) (ih h.2)

/-- Pairs whose keys are all different are the entries that result from setting them. -/
theorem ofPairs_of_different {pairs : List (Value × Value)}
    (h : pairs.Pairwise fun earlier later => later.1.equals earlier.1 = false) :
    ofPairs pairs = pairs := by
  have hset : ∀ (rest before : List (Value × Value)),
      (before ++ rest).Pairwise (fun earlier later => later.1.equals earlier.1 = false) →
      rest.foldl (fun entries pair => insertBy Value.equals entries pair.1 pair.2) before =
        before ++ rest := by
    intro rest
    induction rest with
    | nil => exact fun before _ => (List.append_nil before).symm
    | cons pair rest ih =>
      intro before hpairs
      have hnew : hasKey before pair.1 = false := by
        rw [hasKey, List.any_eq_false]
        intro entry hentry
        rw [(List.pairwise_append.mp hpairs).2.2 entry hentry pair List.mem_cons_self]
        exact Bool.false_ne_true
      have hinsert : insertBy Value.equals before pair.1 pair.2 = before ++ [pair] :=
        insert_of_hasKey_eq_false hnew pair.2
      rw [List.foldl_cons, hinsert, ih _ (by rwa [List.append_assoc]), List.append_assoc]
      rfl
  exact hset pairs [] h

end Entries

/-! ## Joined keys -/

namespace Text

theorem joinWith_join_cons (delimiter first next : String) (rest : List String) :
    joinWith delimiter ((first ++ delimiter ++ next) :: rest) =
      joinWith delimiter (first :: next :: rest) := by
  cases rest with
  | nil => simp
  | cons piece rest => simp [String.append_assoc]

theorem length_joinWith_dropWhile_le (delimiter : String) (skip : String → Bool)
    (pieces : List String) :
    (joinWith delimiter (pieces.dropWhile skip)).length ≤ (joinWith delimiter pieces).length := by
  induction pieces with
  | nil => exact Nat.le_refl _
  | cons piece rest ih =>
    cases hskip : skip piece with
    | false =>
      have hkept : (piece :: rest).dropWhile skip = piece :: rest :=
        List.dropWhile_cons_of_neg (by simp [hskip])
      exact Nat.le_of_eq (congrArg (fun kept => (joinWith delimiter kept).length) hkept)
    | true =>
      rw [List.dropWhile_cons_of_pos hskip]
      cases rest with
      | nil => simp
      | cons next rest =>
        rw [joinWith_cons_cons, String.length_append]
        exact Nat.le_add_left_of_le ih

/-- Pieces can be told from the text that joins them by a character that none of them has. -/
theorem joinWith_injective {c : Char} {pieces others : List String} (hne : pieces ≠ [])
    (hne' : others ≠ []) (hpieces : ∀ s ∈ pieces, c ∉ s.toList)
    (hothers : ∀ s ∈ others, c ∉ s.toList)
    (h : joinWith (String.singleton c) pieces = joinWith (String.singleton c) others) :
    pieces = others := by
  -- The first piece ends where the text ends or has the character.
  have hparts : ∀ (s : String) (rest : List String), ∃ tail,
      (joinWith (String.singleton c) (s :: rest)).toList = s.toList ++ tail ∧
        (rest = [] → tail = []) ∧
        (rest ≠ [] → tail = c :: (joinWith (String.singleton c) rest).toList) := by
    intro s rest
    cases rest with
    | nil => exact ⟨[], by simp, fun _ => rfl, fun h => absurd rfl h⟩
    | cons next rest => exact ⟨_, by simp, nofun, fun _ => rfl⟩
  induction pieces generalizing others with
  | nil => exact absurd rfl hne
  | cons s rest ih =>
    cases others with
    | nil => exact absurd rfl hne'
    | cons t rest' =>
      obtain ⟨tail, hs, hlast, hmore⟩ := hparts s rest
      obtain ⟨tail', ht, hlast', hmore'⟩ := hparts t rest'
      have hstops : ∀ (more : List String) (tail : List Char), (more = [] → tail = []) →
          (more ≠ [] → tail = c :: (joinWith (String.singleton c) more).toList) →
          ∀ d ∈ tail.head?, d = c := by
        intro more tail hlast hmore d hd
        cases more with
        | nil => rw [hlast rfl] at hd; cases hd
        | cons _ _ => rw [hmore nofun] at hd; exact (Option.some.inj hd).symm
      have hnot : ∀ {u : String}, c ∉ u.toList → ∀ d ∈ u.toList, ¬ d = c :=
        fun hu d hd heq => hu (heq ▸ hd)
      obtain ⟨hfirst, htails⟩ := append_inj_at_stop
        (hnot (hpieces s List.mem_cons_self)) (hnot (hothers t List.mem_cons_self))
        (hstops rest tail hlast hmore) (hstops rest' tail' hlast' hmore')
        (by rw [← hs, ← ht, h])
      obtain rfl := String.toList_inj.mp hfirst
      by_cases hrest : rest = []
      · by_cases hrest' : rest' = []
        · rw [hrest, hrest']
        · rw [hlast hrest, hmore' hrest'] at htails
          cases htails
      · by_cases hrest' : rest' = []
        · rw [hmore hrest, hlast' hrest'] at htails
          cases htails
        · rw [hmore hrest, hmore' hrest'] at htails
          rw [ih hrest hrest' (fun u hu => hpieces u (List.mem_cons_of_mem _ hu))
            (fun u hu => hothers u (List.mem_cons_of_mem _ hu))
            (String.toList_inj.mp (List.cons.inj htails).2)]

end Text

namespace Validator

open Value

/-- The keys on the way to a leaf, joined by the delimiter. -/
def joinedKeys (delimiter : String) (way : List Value) : String :=
  joinWith delimiter (way.map display)

/-- The key of a leaf in the flattened map: empty keys at the start of the way are passed over. -/
def leafKey (delimiter : String) (way : List Value) : String :=
  joinWith delimiter ((way.map display).dropWhile (· == ""))

theorem foldl_pathBelow_of_ne_empty (delimiter : String) {path : String} (h : path ≠ "")
    (way : List Value) :
    way.foldl (pathBelow delimiter) path = joinWith delimiter (path :: way.map display) := by
  induction way generalizing path with
  | nil => simp
  | cons key way ih =>
    have hbelow : pathBelow delimiter path key = path ++ delimiter ++ key.display := by
      simp [pathBelow, h]
    have hnext : path ++ delimiter ++ key.display ≠ "" := by simp [h]
    rw [List.foldl_cons, hbelow, ih hnext, joinWith_join_cons, List.map_cons]

theorem foldl_pathBelow_empty (delimiter : String) (way : List Value) :
    way.foldl (pathBelow delimiter) "" = leafKey delimiter way := by
  induction way with
  | nil => rfl
  | cons key way ih =>
    have hbelow : pathBelow delimiter "" key = key.display := rfl
    rw [List.foldl_cons, hbelow, leafKey, List.map_cons]
    by_cases hempty : key.display = ""
    · rw [hempty, ih, leafKey, List.dropWhile_cons_of_pos rfl]
    · rw [foldl_pathBelow_of_ne_empty delimiter hempty,
        List.dropWhile_cons_of_neg (by simpa using hempty)]

mutual

/-- A value is flattened by folding the keys on the way to each of its leaves. -/
theorem flattenEntry_eq_map (delimiter path : String) : (x : Value) →
    flattenEntry delimiter path x =
      x.leaves.map fun leaf => (.str (leaf.1.foldl (pathBelow delimiter) path), leaf.2)
  | .map entries => flattenEntries_eq_map delimiter path entries
  | .null | .bool _ | .int _ | .float _ | .str _ | .bytes _ | .list _ | .tuple _ | .set _
  | .frozenset _ | .datetime _ | .date _ => rfl

theorem flattenEntries_eq_map (delimiter path : String) : (entries : List (Value × Value)) →
    flattenEntries delimiter path entries =
      (entryLeaves entries).map fun leaf => (.str (leaf.1.foldl (pathBelow delimiter) path), leaf.2)
  | [] => rfl
  | (key, x) :: rest => by
    rw [flattenEntries, flattenEntry_eq_map delimiter _ x,
      flattenEntries_eq_map delimiter path rest, entryLeaves, List.map_append, List.map_map]
    rfl

end

mutual

/-- Texts can be shown, so keys that are texts never stop the flattening. -/
theorem showsKeys_of_keyedBy {p : String → Prop} : (x : Value) → x.KeyedBy p → showsKeys x = true
  | .map entries, h => showsEntryKeys_of_entriesKeyedBy entries h.2
  | .null, _ | .bool _, _ | .int _, _ | .float _, _ | .str _, _ | .bytes _, _ | .list _, _
  | .tuple _, _ | .set _, _ | .frozenset _, _ | .datetime _, _ | .date _, _ => rfl

theorem showsEntryKeys_of_entriesKeyedBy {p : String → Prop} : (entries : List (Value × Value)) →
    EntriesKeyedBy p entries → showsEntryKeys entries = true
  | [], _ => rfl
  | (_, x) :: rest, h => by
    obtain ⟨⟨s, rfl, -⟩, hx, hrest⟩ := h
    rw [showsEntryKeys, showsKeys_of_keyedBy x hx, showsEntryKeys_of_entriesKeyedBy rest hrest]
    rfl

end

/-- The leaves of a map with the keys that they have in the flattened map. -/
def flatEntries (delimiter : String) (entries : Entries) : Entries :=
  (entryLeaves entries).map fun leaf => (.str (leafKey delimiter leaf.1), leaf.2)

theorem flatten_map (delimiter : String) (entries : Entries) :
    flatten delimiter (.map entries) =
      if showsEntryKeys entries then
        .ok (some (.map (Entries.ofPairs (flatEntries delimiter entries))))
      else .error .tooManyDigits := by
  rw [flatten, flattenEntries_eq_map]
  simp only [foldl_pathBelow_empty]
  rfl

theorem evaluate_flattenKeys (delimiter : String) (v : Validator) (entries : Entries)
    (site : Site) :
    (flattenKeys delimiter v).evaluate site (.map entries) =
      if showsEntryKeys entries then
        v.evaluate .plain (.map (Entries.ofPairs (flatEntries delimiter entries)))
      else .raised .tooManyDigits := by
  rw [flattenKeys, evaluate_of_unset rfl, body_pivot, Check.pivoted, flatten_map]
  cases showsEntryKeys entries <;> rfl

theorem leafKey_of_head_ne_empty (delimiter : String) {key : Value} (h : key.display ≠ "")
    (way : List Value) : leafKey delimiter (key :: way) = joinedKeys delimiter (key :: way) := by
  rw [leafKey, joinedKeys, List.map_cons, List.dropWhile_cons_of_neg (by simpa using h)]

theorem leafKey_of_head_eq_empty (delimiter : String) {key : Value} (h : key.display = "")
    (way : List Value) : leafKey delimiter (key :: way) = leafKey delimiter way := by
  rw [leafKey, leafKey, List.map_cons, List.dropWhile_cons_of_pos (by simp [h])]

/-- Where nothing stands between the keys, it makes no difference to pass over empty ones. -/
theorem leafKey_of_delimiter_eq_empty (way : List Value) : leafKey "" way = joinedKeys "" way := by
  induction way with
  | nil => rfl
  | cons key way ih =>
    by_cases hempty : key.display = ""
    · rw [leafKey_of_head_eq_empty "" hempty, ih]
      cases way with
      | nil => simp [joinedKeys, hempty]
      | cons next way => simp [joinedKeys, hempty]
    · exact leafKey_of_head_ne_empty "" hempty way

/-- The key of a leaf is its joined keys unless its way starts with an empty key and goes on. -/
theorem leafKey_eq_joinedKeys_iff (delimiter : String) (way : List Value) :
    leafKey delimiter way = joinedKeys delimiter way ↔
      delimiter = "" ∨ way.head?.map display ≠ some "" ∨ way.length ≤ 1 := by
  match way with
  | [] => simp [leafKey, joinedKeys]
  | [key] =>
    have hsame : leafKey delimiter [key] = joinedKeys delimiter [key] := by
      by_cases hempty : key.display = "" <;> simp [leafKey, joinedKeys, hempty]
    simp [hsame]
  | key :: next :: way =>
    by_cases hempty : key.display = ""
    · have hjoined : joinedKeys delimiter (key :: next :: way) =
          delimiter ++ joinedKeys delimiter (next :: way) := by
        simp [joinedKeys, hempty]
      constructor
      · -- What is left of the way is no longer than the rest of it, joined without the delimiter.
        intro h
        have hle : (leafKey delimiter (next :: way)).length ≤
            (joinedKeys delimiter (next :: way)).length :=
          length_joinWith_dropWhile_le delimiter (· == "") ((next :: way).map display)
        rw [leafKey_of_head_eq_empty delimiter hempty, hjoined] at h
        rw [h, String.length_append] at hle
        have hzero : delimiter.length = 0 := by omega
        exact .inl (by simpa using hzero)
      · rintro (rfl | h | h)
        · exact leafKey_of_delimiter_eq_empty _
        · exact absurd (congrArg some hempty) h
        · simp at h
    · simp [leafKey_of_head_ne_empty delimiter hempty, hempty]

/-- If no map is stored under the empty key, every leaf comes under its joined keys. -/
theorem leafKey_of_no_map_behind_empty_key (delimiter : String) {entries : Entries}
    (h : ∀ entry ∈ entries, entry.1.display = "" → ∀ inner, entry.2 ≠ .map inner)
    {leaf : List Value × Value} (hleaf : leaf ∈ entryLeaves entries) :
    leafKey delimiter leaf.1 = joinedKeys delimiter leaf.1 := by
  obtain ⟨entry, hentry, inner, hinner, rfl⟩ := exists_cons_of_mem_entryLeaves hleaf
  by_cases hempty : entry.1.display = ""
  · rw [leaves_of_ne_map (h entry hentry hempty)] at hinner
    obtain rfl := List.mem_singleton.mp hinner
    exact (leafKey_eq_joinedKeys_iff delimiter [entry.1]).mpr (.inr (.inr (Nat.le_refl 1)))
  · exact leafKey_of_head_ne_empty delimiter hempty inner.1

/-- Ways whose keys are texts without the delimiting character can be told from their joined
keys. -/
theorem joinedKeys_injective {c : Char} {way other : List Value} (hne : way ≠ [])
    (hne' : other ≠ []) (hway : ∀ key ∈ way, ∃ s, key = .str s ∧ c ∉ s.toList)
    (hother : ∀ key ∈ other, ∃ s, key = .str s ∧ c ∉ s.toList)
    (h : joinedKeys (String.singleton c) way = joinedKeys (String.singleton c) other) :
    way = other := by
  have hfree : ∀ {way : List Value}, (∀ key ∈ way, ∃ s, key = .str s ∧ c ∉ s.toList) →
      ∀ s ∈ way.map display, c ∉ s.toList := by
    intro way hway s hs
    obtain ⟨key, hkey, rfl⟩ := List.mem_map.mp hs
    obtain ⟨t, rfl, hfree⟩ := hway key hkey
    exact hfree
  have hback : ∀ {way : List Value}, (∀ key ∈ way, ∃ s, key = .str s ∧ c ∉ s.toList) →
      way = (way.map display).map .str := by
    intro way hway
    rw [List.map_map]
    refine (List.map_id way).symm.trans (List.map_congr_left fun key hkey => ?_)
    obtain ⟨s, rfl, -⟩ := hway key hkey
    rfl
  have htexts := joinWith_injective (fun hnil => hne (List.map_eq_nil_iff.mp hnil))
    (fun hnil => hne' (List.map_eq_nil_iff.mp hnil)) (hfree hway) (hfree hother) h
  rw [hback hway, htexts, ← hback hother]

/-- Leaves whose keys on the way do not have the delimiting character come under different keys. -/
theorem flatEntries_different {c : Char} {entries : Entries}
    (hkeys : (Value.map entries).KeyedBy fun s => c ∉ s.toList)
    (hempty : ∀ entry ∈ entries, entry.1.display = "" → ∀ inner, entry.2 ≠ .map inner) :
    (flatEntries (String.singleton c) entries).Pairwise fun earlier later =>
      later.1.equals earlier.1 = false := by
  have hdifferent := List.pairwise_map.mp (nodup_entryLeaves entries hkeys.1 hkeys.2)
  rw [flatEntries, List.pairwise_map]
  refine hdifferent.imp_of_mem fun {leaf other} hleaf hother hways => ?_
  rw [leafKey_of_no_map_behind_empty_key _ hempty hleaf,
    leafKey_of_no_map_behind_empty_key _ hempty hother]
  have hne : ∀ leaf ∈ entryLeaves entries, leaf.1 ≠ [] := by
    intro leaf hleaf
    obtain ⟨_, _, _, _, rfl⟩ := exists_cons_of_mem_entryLeaves hleaf
    exact nofun
  rw [equals_texts, beq_eq_false_iff_ne]
  refine fun hsame => hways ?_
  exact (joinedKeys_injective (hne other hother) (hne leaf hleaf)
    (forall_keys_of_mem_entryLeaves entries hkeys.2 other hother)
    (forall_keys_of_mem_entryLeaves entries hkeys.2 leaf hleaf) hsame).symm

/-- Flattening a map, whose keys all need a text, as texts themselves have, sets its leaves in
order, each under the keys on its way joined by the delimiter, where empty keys at the start of a
way that goes on are passed over. If no map is stored under the empty key, these are the joined keys
of all leaves; and if moreover the delimiter is one character that no key has, then every leaf has
an entry of its own. -/
theorem flattened_leaves_under_joined_keys (delimiter : String) (entries : Entries)
    (present : Bool) :
    ((flattenKeys delimiter valid).validate (.map entries) present).outcome? =
        some (if showsEntryKeys entries then
          .ok (.success (.map (Entries.ofPairs (flatEntries delimiter entries))))
        else .error .tooManyDigits) ∧
      (EntriesKeyedBy (fun _ => True) entries → showsEntryKeys entries = true) ∧
      (∀ leaf ∈ entryLeaves entries, leafKey delimiter leaf.1 = joinedKeys delimiter leaf.1 ↔
        delimiter = "" ∨ leaf.1.head?.map display ≠ some "" ∨ leaf.1.length ≤ 1) ∧
      ((∀ entry ∈ entries, entry.1.display = "" → ∀ inner, entry.2 ≠ .map inner) →
        flatEntries delimiter entries =
            (entryLeaves entries).map (fun leaf => (.str (joinedKeys delimiter leaf.1), leaf.2)) ∧
          ∀ c, delimiter = String.singleton c →
            ((Value.map entries).KeyedBy fun s => c ∉ s.toList) →
            Entries.ofPairs (flatEntries delimiter entries) = flatEntries delimiter entries ∧
              ((flatEntries delimiter entries).map (·.1)).Nodup) := by
  refine ⟨Run.outcome?_refusingAwait_of_some ?_ _, showsEntryKeys_of_entriesKeyedBy entries,
    fun leaf _ => leafKey_eq_joinedKeys_iff _ _,
    fun hempty => ⟨List.map_congr_left fun leaf hleaf => ?_, ?_⟩⟩
  · rw [evaluate_flattenKeys]
    cases showsEntryKeys entries <;> rfl
  · rw [leafKey_of_no_map_behind_empty_key delimiter hempty hleaf]
  · rintro c rfl hkeys
    have hdifferent := flatEntries_different hkeys hempty
    refine ⟨Entries.ofPairs_of_different hdifferent, List.pairwise_map.mpr ?_⟩
    refine hdifferent.imp_of_mem fun {entry other} hentry _ hequals hsame => ?_
    obtain ⟨leaf, -, rfl⟩ := List.mem_map.mp hentry
    rw [← hsame, equals_texts, beq_self_eq_true] at hequals
    cases hequals

def nestedMap : Entries :=
  [(.str "a", .map [(.str "b", .int 1), (.str "c", .map [(.str "d", .int 2)])]), (.str "e", .int 3)]

theorem flattened_leaves_of_nested_map :
    ((flattenKeys "." valid).validate (.map nestedMap) true).outcome? =
        some (.ok (.success (.map
          [(.str "a.b", .int 1), (.str "a.c.d", .int 2), (.str "e", .int 3)]))) ∧
      (∀ entry ∈ nestedMap, entry.1.display = "" → ∀ inner, entry.2 ≠ .map inner) ∧
      (Value.map nestedMap).KeyedBy (fun s => '.' ∉ s.toList) := by
  have hempty : ∀ entry ∈ nestedMap, entry.1.display = "" → ∀ inner, entry.2 ≠ .map inner := by
    simp [nestedMap, display]
  have hkeys : (Value.map nestedMap).KeyedBy (fun s => '.' ∉ s.toList) := by
    simp [nestedMap, KeyedBy, EntriesKeyedBy]
  obtain ⟨hresult, -, -, hjoined⟩ := flattened_leaves_under_joined_keys "." nestedMap true
  obtain ⟨-, hown⟩ := hjoined hempty
  rw [(hown '.' rfl hkeys).1] at hresult
  exact ⟨hresult, hempty, hkeys⟩

/-- Behind an empty key the delimiter is missing, and a leaf there can take the place of another. -/
theorem flatten_merges_leaf_behind_empty_key :
    (Value.map [(.str "", .map [(.str "a", .int 1)])]).KeyedBy (fun s => '.' ∉ s.toList) ∧
      joinedKeys "." [.str "", .str "a"] = ".a" ∧
      ((flattenKeys "." valid).validate (.map [(.str "", .map [(.str "a", .int 1)])])
        true).outcome? = some (.ok (.success (.map [(.str "a", .int 1)]))) ∧
      ((flattenKeys "." valid).validate
        (.map [(.str "", .map [(.str "a", .int 1)]), (.str "a", .int 2)]) true).outcome? =
          some (.ok (.success (.map [(.str "a", .int 2)]))) := by
  have hmerged : Entries.ofPairs [(.str "a", .int 1), (.str "a", .int 2)] =
      [(.str "a", .int 2)] := by
    simp [Entries.ofPairs, Entries.ofPairsBy, Entries.insertBy, equals_texts]
  refine ⟨by simp [KeyedBy, EntriesKeyedBy], rfl, rfl, (outcome?_validate_eq_ok _).mpr ?_⟩
  have hflat : flatEntries "." [(.str "", .map [(.str "a", .int 1)]), (.str "a", .int 2)] =
      [(.str "a", .int 1), (.str "a", .int 2)] := rfl
  rw [evaluate_flattenKeys, hflat, hmerged]
  rfl

end Validator
end Conform
