import Conform.Proofs.Guards
import Conform.Proofs.Path
import Mathlib.Data.List.Nodup

/-
  Nested schemas of maps and lists, and the places in a value that one looks at. `locations` lists
  them depth first, by recursion on the schema alone: a leaf, or the guard of a map or list that
  does not let the value in. No place is listed twice (`nodup_paths`), and if the keys are texts
  without the signs that start a segment, no two places have the same path text
  (`nodup_pathTexts`).
-/

namespace Conform

/-- A schema of maps and lists over validators. -/
inductive Shape where
  | leaf (v : Validator)
  /-- A map with a shape for the value under each of some keys. -/
  | map (fields : List (Value × Shape)) (flags : Flags)
  /-- A list with one shape for all items. -/
  | each (item : Shape) (flags : Flags)
  /-- A list with one item for each of some shapes. -/
  | list (places : List Shape) (flags : Flags)

/-- A place in a value, and what is asked of the value there. -/
structure Location where
  path : List Segment
  asked : Validator
  site : Site
  value : Value

namespace Location

/-- The same location one level further out. -/
def below (segment : Segment) (l : Location) : Location := { l with path := segment :: l.path }

/-- Whether the validator gives a result, without waiting. -/
def Answers (l : Location) : Prop :=
  ∃ r, (l.asked.evaluate l.site l.value).outcome? = some (.ok r)

theorem answers_iff (l : Location) :
    l.Answers ↔ (l.asked.evaluate l.site l.value).outcome?.any Except.isOk = true := by
  rw [Answers]
  rcases (l.asked.evaluate l.site l.value).outcome? with _ | fault | r <;>
    simp [Except.isOk, Except.toBool]

instance (l : Location) : Decidable l.Answers := decidable_of_iff _ l.answers_iff.symm

/-- What the validator of the location itself finds wrong. -/
def own (l : Location) : List Expectation :=
  match (l.asked.evaluate l.site l.value).outcome? with
  | some (.ok r) => r.expectations
  | _ => []

theorem own_of_answer {l : Location} {r : Result}
    (h : (l.asked.evaluate l.site l.value).outcome? = some (.ok r)) : l.own = r.expectations := by
  rw [own, h]

/-- Whether something is wrong at the location. -/
def fails (l : Location) : Bool := !l.own.isEmpty

/-- The code of a failure at the location: its own unless that is missing or empty, else the one of
the innermost map or list around it. -/
def codeFor (l : Location) (code : Option String) : Option String :=
  match l.path.getLast? with
  | none => code
  | some segment => firstNonEmpty code (some segment.code.text)

/-- A failure at the location as it is reported for the whole value. -/
def reported (l : Location) (e : Expectation) : Expectation :=
  { e with path := pathText? l.path, code := l.codeFor e.code }

end Location

namespace Shape

def inParts (parts : List (Segment × List Location)) : List Location :=
  parts.flatMap fun part => part.2.map (Location.below part.1)

theorem exists_of_mem_inParts {parts : List (Segment × List Location)} {l : Location}
    (h : l ∈ inParts parts) :
    ∃ part ∈ parts, ∃ inner ∈ part.2, l = inner.below part.1 := by
  obtain ⟨part, hpart, hl⟩ := List.mem_flatMap.mp h
  obtain ⟨inner, hinner, rfl⟩ := List.mem_map.mp hl
  exact ⟨part, hpart, inner, hinner, rfl⟩

theorem inParts_cons (part : Segment × List Location) (parts : List (Segment × List Location)) :
    inParts (part :: parts) = part.2.map (Location.below part.1) ++ inParts parts := by
  rw [inParts, List.flatMap_cons, inParts]

mutual

def validator : Shape → Validator
  | .leaf v => v
  | .map fields f => (Validator.mapOf (fieldValidators fields) none).withFlags f
  | .each item f => (Validator.listEach (validator item) none).withFlags f
  | .list places f => (Validator.listOf (placeValidators places)).withFlags f

/-- The validators of shapes under keys. -/
def fieldValidators : List (Value × Shape) → Schema
  | [] => []
  | (key, s) :: rest => (key, validator s) :: fieldValidators rest

def placeValidators : List Shape → List Validator
  | [] => []
  | s :: rest => validator s :: placeValidators rest

end

/-- What is asked where a key cannot be shown: nothing can be said of what is under it. -/
def unnamed : Validator := .function "unnamed" (fun _ => .raised .tooManyDigits) none {}

theorem pathless_unnamed : unnamed.Pathless := by
  intro site x r h
  rw [Validator.evaluate_of_unset rfl] at h
  cases h

mutual

/-- The places that are looked at in a value, depth first, fields in the order of the shape and
items by index. Nothing is looked at where flags let the value pass, and nothing but the guard
where it is no map, no list, or a list of another length. -/
def locations : Shape → Site → Value → List Location
  | .leaf v, site, x => if v.flags.letPass site x then [] else [⟨[], v, site, x⟩]
  | .map fields f, site, x =>
    if f.letPass site x then []
    else match x with
      | .map entries => inParts (fieldLocations entries fields)
      | _ => [⟨[], Validator.isMap none, .plain, x⟩]
  | .each item f, site, x =>
    if f.letPass site x then []
    else match x with
      | .list items =>
        inParts (items.zipIdx.map fun (y, i) => (.index i, locations item .plain y))
      | _ => [⟨[], Validator.isList none, .plain, x⟩]
  | .list places f, site, x =>
    if f.letPass site x then []
    else match x with
      | .list items =>
        if items.length = places.length then inParts (placeLocations places 0 items)
        else [⟨[], Validator.lengthIs places.length, .plain, x⟩]
      | _ => [⟨[], Validator.isList none, .plain, x⟩]

/-- The fields of a map with their places. A key that is not there has the absent value. -/
def fieldLocations (entries : Entries) : List (Value × Shape) → List (Segment × List Location)
  | [] => []
  | (key, s) :: rest =>
    (.key key, if key.isShowable then
        locations s ⟨entries.hasKey key, some entries⟩ ((entries.find? key).getD .null)
      else [⟨[], unnamed, .plain, .map entries⟩])
      :: fieldLocations entries rest

/-- The items of a list with their places, from an index on. -/
def placeLocations : List Shape → Nat → List Value → List (Segment × List Location)
  | s :: rest, i, y :: ys => (.index i, locations s .plain y) :: placeLocations rest (i + 1) ys
  | _, _, _ => []

end

theorem locations_map (fields : List (Value × Shape)) (f : Flags) (site : Site) (x : Value) :
    locations (.map fields f) site x =
      if f.letPass site x then []
      else match x with
        | .map entries => inParts (fieldLocations entries fields)
        | _ => [⟨[], Validator.isMap none, .plain, x⟩] := by
  cases x <;> rfl

theorem locations_each (item : Shape) (f : Flags) (site : Site) (x : Value) :
    locations (.each item f) site x =
      if f.letPass site x then []
      else match x with
        | .list items =>
          inParts (items.zipIdx.map fun (y, i) => (.index i, locations item .plain y))
        | _ => [⟨[], Validator.isList none, .plain, x⟩] := by
  cases x <;> rfl

theorem locations_list (places : List Shape) (f : Flags) (site : Site) (x : Value) :
    locations (.list places f) site x =
      if f.letPass site x then []
      else match x with
        | .list items =>
          if items.length = places.length then inParts (placeLocations places 0 items)
          else [⟨[], Validator.lengthIs places.length, .plain, x⟩]
        | _ => [⟨[], Validator.isList none, .plain, x⟩] := by
  cases x <;> rfl

/-- The places in a value where something is wrong. -/
def failing (s : Shape) (site : Site) (x : Value) : List Location :=
  (s.locations site x).filter Location.fails

end Shape

/-! ## Properties of leaves and keys -/

namespace Shape

mutual

/-- All leaves have one property, and the keys of every map have another. -/
def Everywhere (leaf : Validator → Prop) (keys : List Value → Prop) : Shape → Prop
  | .leaf v => leaf v
  | .map fields _ => keys (fields.map (·.1)) ∧ EverywhereUnder leaf keys fields
  | .each item _ => Everywhere leaf keys item
  | .list places _ => EverywhereIn leaf keys places

def EverywhereUnder (leaf : Validator → Prop) (keys : List Value → Prop) :
    List (Value × Shape) → Prop
  | [] => True
  | (_, s) :: rest => Everywhere leaf keys s ∧ EverywhereUnder leaf keys rest

def EverywhereIn (leaf : Validator → Prop) (keys : List Value → Prop) : List Shape → Prop
  | [] => True
  | s :: rest => Everywhere leaf keys s ∧ EverywhereIn leaf keys rest

end

/-- The failures of the leaves carry no path of their own. -/
def PathlessLeaves (s : Shape) : Prop := s.Everywhere Validator.Pathless fun _ => True

/-- No map has two shapes for one key. -/
def DistinctKeys (s : Shape) : Prop := s.Everywhere (fun _ => True) List.Nodup

/-- All keys are texts without the signs that start a segment. -/
def PlainKeys (s : Shape) : Prop :=
  s.Everywhere (fun _ => True) fun keys => ∀ key ∈ keys, (Segment.key key).IsPlain

/-! ## Induction over locations -/

theorem segments_fieldLocations (entries : Entries) (fields : List (Value × Shape)) :
    (fieldLocations entries fields).map (·.1) = (fields.map (·.1)).map .key := by
  induction fields with
  | nil => rfl
  | cons field rest ih =>
    obtain ⟨key, s⟩ := field
    rw [fieldLocations, List.map_cons, ih]
    rfl

theorem segments_placeLocations (places : List Shape) (i : Nat) (items : List Value)
    (h : items.length = places.length) :
    (placeLocations places i items).map (·.1) = (List.range' i items.length).map .index := by
  induction places generalizing i items with
  | nil =>
    obtain rfl := List.length_eq_zero_iff.mp h
    rfl
  | cons s rest ih =>
    cases items with
    | nil => cases h
    | cons y ys =>
      rw [placeLocations, List.map_cons, ih _ _ (Nat.succ.inj h), List.length_cons,
        List.range'_succ, List.map_cons]

/-- A property of lists of locations that holds of leaves and guards and goes from the parts of a
value to the whole. -/
structure FromParts (leaf : Validator → Prop) (keys : List Value → Prop)
    (P : List Location → Prop) : Prop where
  passed : P []
  leaf : ∀ v site x, leaf v → P [⟨[], v, site, x⟩]
  guard : ∀ v x, v.Pathless → P [⟨[], v, .plain, x⟩]
  fields : ∀ parts ks, keys ks → parts.map (·.1) = ks.map .key → (∀ part ∈ parts, P part.2) →
    P (inParts parts)
  items : ∀ parts n, parts.map (·.1) = (List.range' 0 n).map .index →
    (∀ part ∈ parts, P part.2) → P (inParts parts)

variable {leaf : Validator → Prop} {keys : List Value → Prop} {P : List Location → Prop}

mutual

/-- What goes from parts to the whole holds of the locations of every shape. -/
theorem locations_induction (h : FromParts leaf keys P) : (s : Shape) →
    s.Everywhere leaf keys → (site : Site) → (x : Value) → P (s.locations site x)
  | .leaf v, hs, site, x => by
    rw [locations]
    split
    · exact h.passed
    · exact h.leaf v site x hs
  | .map fields f, hs, site, x => by
    rw [locations_map]
    split
    · exact h.passed
    · split
      · next entries _ =>
        exact h.fields _ _ hs.1 (segments_fieldLocations entries fields)
          (fieldLocations_induction h entries fields hs.2)
      · exact h.guard _ _ (Validator.pathless_ofPredicate _ _)
  | .each item f, hs, site, x => by
    rw [locations_each]
    split
    · exact h.passed
    · split
      · next items _ =>
        refine h.items _ items.length ?_ fun part hpart => ?_
        · rw [← List.zipIdx_map_snd, List.map_map, List.map_map]
          rfl
        · obtain ⟨entry, -, rfl⟩ := List.mem_map.mp hpart
          exact locations_induction h item hs .plain entry.1
      · exact h.guard _ _ (Validator.pathless_ofPredicate _ _)
  | .list places f, hs, site, x => by
    rw [locations_list]
    split
    · exact h.passed
    · split
      · next items _ =>
        split
        · next hlength =>
          exact h.items _ _ (segments_placeLocations places 0 items hlength)
            (placeLocations_induction h places hs 0 items)
        · exact h.guard _ _ (Validator.pathless_length _ _)
      · exact h.guard _ _ (Validator.pathless_ofPredicate _ _)

theorem fieldLocations_induction (h : FromParts leaf keys P) (entries : Entries) :
    (fields : List (Value × Shape)) → EverywhereUnder leaf keys fields →
    ∀ part ∈ fieldLocations entries fields, P part.2
  | [], _ => nofun
  | (key, s) :: rest, hs => by
    intro part hpart
    cases hpart with
    | head =>
      dsimp only
      split
      · exact locations_induction h s hs.1 _ _
      · exact h.guard _ _ pathless_unnamed
    | tail _ hrest => exact fieldLocations_induction h entries rest hs.2 part hrest

theorem placeLocations_induction (h : FromParts leaf keys P) : (places : List Shape) →
    EverywhereIn leaf keys places → (i : Nat) → (items : List Value) →
    ∀ part ∈ placeLocations places i items, P part.2
  | [], _, i, items => nofun
  | s :: rest, _, i, [] => nofun
  | s :: rest, hs, i, y :: ys => by
    intro part hpart
    cases hpart with
    | head => exact locations_induction h s hs.1 .plain y
    | tail _ hrest => exact placeLocations_induction h rest hs.2 (i + 1) ys part hrest

end

/-! ## No place twice -/

/-- Parts behind different segments share no location. -/
theorem nodup_inParts {parts : List (Segment × List Location)}
    (hsegments : (parts.map (·.1)).Nodup)
    (hparts : ∀ part ∈ parts, (part.2.map Location.path).Nodup) :
    ((inParts parts).map Location.path).Nodup := by
  have hpaths : (inParts parts).map Location.path =
      parts.flatMap fun part => (part.2.map Location.path).map (part.1 :: ·) := by
    simp only [inParts, List.map_flatMap, List.map_map]
    rfl
  rw [hpaths, List.nodup_flatMap]
  refine ⟨fun part hpart => (hparts part hpart).map fun _ _ h => (List.cons.inj h).2, ?_⟩
  refine (List.pairwise_map.mp hsegments).imp fun {p q} hne => ?_
  intro path hp hq
  obtain ⟨_, -, rfl⟩ := List.mem_map.mp hp
  obtain ⟨_, -, h⟩ := List.mem_map.mp hq
  exact hne (List.cons.inj h).1.symm

/-- No place is listed twice. -/
theorem nodup_paths {s : Shape} (h : s.DistinctKeys) (site : Site) (x : Value) :
    ((s.locations site x).map Location.path).Nodup := by
  refine locations_induction (P := fun ls => (ls.map Location.path).Nodup) ?_ s h site x
  refine ⟨List.nodup_nil, fun _ _ _ _ => List.nodup_singleton _,
    fun _ _ _ => List.nodup_singleton _, fun parts ks hks hsegments hparts => ?_,
    fun parts n hsegments hparts => ?_⟩
  · refine nodup_inParts ?_ hparts
    rw [hsegments]
    exact hks.map fun _ _ h => Segment.key.inj h
  · refine nodup_inParts ?_ hparts
    rw [hsegments]
    exact (List.nodup_range' 1).map fun _ _ h => Segment.index.inj h

theorem isPlain_inParts {parts : List (Segment × List Location)}
    (hsegments : ∀ segment ∈ parts.map (·.1), segment.IsPlain)
    (hparts : ∀ part ∈ parts, ∀ l ∈ part.2, ∀ segment ∈ l.path, segment.IsPlain) :
    ∀ l ∈ inParts parts, ∀ segment ∈ l.path, segment.IsPlain := by
  intro l hl segment hsegment
  obtain ⟨part, hpart, inner, hinner, rfl⟩ := exists_of_mem_inParts hl
  cases hsegment with
  | head => exact hsegments _ (List.mem_map_of_mem hpart)
  | tail _ h => exact hparts part hpart inner hinner segment h

theorem isPlain_of_mem_path {s : Shape} (h : s.PlainKeys) (site : Site) (x : Value) :
    ∀ l ∈ s.locations site x, ∀ segment ∈ l.path, segment.IsPlain := by
  refine locations_induction
    (P := fun ls => ∀ l ∈ ls, ∀ segment ∈ l.path, segment.IsPlain) ?_ s h site x
  refine ⟨nofun, ?_, ?_, fun parts ks hks hsegments hparts => ?_,
    fun parts n hsegments hparts => ?_⟩
  · rintro v site x - l hl
    obtain rfl := List.mem_singleton.mp hl
    exact nofun
  · rintro v x - l hl
    obtain rfl := List.mem_singleton.mp hl
    exact nofun
  · refine isPlain_inParts (fun segment hsegment => ?_) hparts
    rw [hsegments] at hsegment
    obtain ⟨key, hkey, rfl⟩ := List.mem_map.mp hsegment
    exact hks key hkey
  · refine isPlain_inParts (fun segment hsegment => ?_) hparts
    rw [hsegments] at hsegment
    obtain ⟨i, -, rfl⟩ := List.mem_map.mp hsegment
    exact trivial

/-- No two places have the same path text. -/
theorem nodup_pathTexts {s : Shape} (hdistinct : s.DistinctKeys) (hplain : s.PlainKeys)
    (site : Site) (x : Value) :
    ((s.locations site x).map fun l => pathText? l.path).Nodup := by
  have htexts : (s.locations site x).map (fun l => pathText? l.path) =
      ((s.locations site x).map Location.path).map pathText? := by
    rw [List.map_map]
    rfl
  rw [htexts]
  refine (nodup_paths hdistinct site x).map_on fun path hpath trail htrail => ?_
  obtain ⟨l, hl, rfl⟩ := List.mem_map.mp hpath
  obtain ⟨m, hm, rfl⟩ := List.mem_map.mp htrail
  exact pathText?_injective (isPlain_of_mem_path hplain site x l hl)
    (isPlain_of_mem_path hplain site x m hm)

end Shape
end Conform
