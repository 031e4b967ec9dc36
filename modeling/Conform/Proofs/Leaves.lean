import Conform.Proofs.RunRelation
import Conform.Validator.Compose

/-
  Other functions in the leaves of a validator. `mapLeaves` replaces them everywhere in the tree,
  also in validators that are chosen from the enclosing map, and leaves everything else as it is.
  `evaluate_mapLeaves`: if each new function is related to the one in its place, then so are the
  runs of the two trees. This is the only induction over validators that the comparison of runs
  needs.
-/

namespace Conform.Validator

mutual

def mapLeaves (f : String → (Value → Run Result) → Value → Run Result) : Validator → Validator
  | .function name run describe flags => .function name (f name run) describe flags
  | .conjunction children message collecting flags =>
    .conjunction (mapLeavesAll f children) message collecting flags
  | .disjunction children message flags => .disjunction (mapLeavesAll f children) message flags
  | .exclusion children message flags => .exclusion (mapLeavesAll f children) message flags
  | .negation child message flags => .negation (mapLeaves f child) message flags
  | .replacement child e flags => .replacement (mapLeaves f child) e flags
  | .throwing child flags => .throwing (mapLeaves f child) flags
  | .conditional condition thenBranch otherwise message flags =>
    .conditional (mapLeaves f condition) (mapLeaves f thenBranch) (mapLeaves f otherwise) message
      flags
  | .resolved choose flags => .resolved (fun parent => mapLeaves f (choose parent)) flags
  | .sized bounds message flags => .sized (mapLeavesAll f bounds) message flags
  | .mapped fn child flags => .mapped fn (mapLeaves f child) flags
  | .defaulted substitute child flags => .defaulted substitute (mapLeaves f child) flags
  | .pivot find message child flags => .pivot find message (mapLeaves f child) flags
  | .coercion target guard convert child flags =>
    .coercion target (mapLeaves f guard) convert (mapLeaves f child) flags
  | .member key child flags => .member key (mapLeaves f child) flags
  | .dispatch key cases flags => .dispatch key (mapLeavesUnder f cases) flags
  | .fields schema message flags => .fields (mapLeavesUnder f schema) message flags
  | .listPlaces validators flags => .listPlaces (mapLeavesAll f validators) flags
  | .listItems item message flags => .listItems (mapLeaves f item) message flags

/-- The validators with other functions in their leaves. -/
def mapLeavesAll (f : String → (Value → Run Result) → Value → Run Result) :
    List Validator → List Validator
  | [] => []
  | v :: vs => mapLeaves f v :: mapLeavesAll f vs

/-- The validators under keys with other functions in their leaves. -/
def mapLeavesUnder (f : String → (Value → Run Result) → Value → Run Result) :
    List (Value × Validator) → List (Value × Validator)
  | [] => []
  | (key, v) :: rest => (key, mapLeaves f v) :: mapLeavesUnder f rest

end

variable {f : String → (Value → Run Result) → Value → Run Result}

@[simp] theorem flags_mapLeaves (v : Validator) : (v.mapLeaves f).flags = v.flags := by
  cases v <;> rfl

@[simp] theorem describe?_mapLeaves (v : Validator) :
    (v.mapLeaves f).describe? = v.describe? := by
  cases v <;> rfl

theorem mapLeavesAll_eq_map (vs : List Validator) : mapLeavesAll f vs = vs.map (mapLeaves f) := by
  induction vs with
  | nil => rfl
  | cons v vs ih => rw [List.map_cons, ← ih]; rfl

theorem length_mapLeavesAll (vs : List Validator) : (mapLeavesAll f vs).length = vs.length := by
  rw [mapLeavesAll_eq_map, List.length_map]

theorem mapLeaves_allOf (vs : List Validator) (message : Option Value) (collecting : Bool) :
    (allOf vs message collecting).mapLeaves f =
      allOf (vs.map (mapLeaves f)) message collecting := by
  rw [← mapLeavesAll_eq_map]
  rfl

theorem mapLeaves_anyOf (vs : List Validator) (message : Option Value) :
    (anyOf vs message).mapLeaves f = anyOf (vs.map (mapLeaves f)) message := by
  rw [← mapLeavesAll_eq_map]
  rfl

theorem mapLeaves_noneOf (vs : List Validator) (message : Option Value) :
    (noneOf vs message).mapLeaves f = noneOf (vs.map (mapLeaves f)) message := by
  rw [← mapLeavesAll_eq_map]
  rfl

theorem mapLeaves_not (v : Validator) (message : Option Value) :
    (v.not message).mapLeaves f = (v.mapLeaves f).not message := rfl

/-- The functions of the leaves do not show in the label. -/
theorem label_mapLeaves : (v : Validator) → (v.mapLeaves f).label = v.label
  | .negation child _ _ => by rw [mapLeaves, label, label, label_mapLeaves child]
  | .conditional condition _ _ _ _ => by rw [mapLeaves, label, label, label_mapLeaves condition]
  | .conjunction _ _ _ _ | .disjunction _ _ _ | .exclusion _ _ _ => by
    rw [mapLeaves, label, label, length_mapLeavesAll]
  | .function _ _ _ _ | .replacement _ _ _ | .throwing _ _ | .resolved _ _ | .sized _ _ _
  | .mapped _ _ _ | .defaulted _ _ _ | .pivot _ _ _ _ | .coercion _ _ _ _ _ | .member _ _ _
  | .dispatch _ _ _ | .fields _ _ _ | .listPlaces _ _ | .listItems _ _ _ => by
    rw [mapLeaves, label, label]

variable {R : RunRelation}

/-- The checks are related if the bodies are: the flags and what is expected stay the same. -/
theorem related_of_body {v : Validator}
    (hbody : ∀ site x, R.Holds (v.body site x) ((v.mapLeaves f).body site x)) :
    Check.Related R v.toCheck (v.mapLeaves f).toCheck := by
  refine ⟨fun site x => ?_, (describe?_mapLeaves v).symm⟩
  change R.Holds (v.flags.guard v.body site x)
    ((v.mapLeaves f).flags.guard (v.mapLeaves f).body site x)
  rw [flags_mapLeaves]
  exact R.guard _ hbody site x

mutual

/-- One case for each kind of node: the children are related by induction, and the node keeps the
relation. -/
theorem body_mapLeaves (hf : ∀ name run x, R.Holds (run x) (f name run x)) :
    (v : Validator) → ∀ site x, R.Holds (v.body site x) ((v.mapLeaves f).body site x)
  | .function name run _ _, site, x => by
    rw [mapLeaves]
    exact hf name run x
  | .conjunction children message collecting _, site, x => by
    rw [mapLeaves]
    cases collecting with
    | true =>
      rw [body_conjunction_collecting, body_conjunction_collecting]
      exact R.collected (related_mapLeavesAll hf children) message x
    | false =>
      rw [body_conjunction_threading, body_conjunction_threading]
      exact R.threaded (related_mapLeavesAll hf children) message x x
  | .disjunction children message _, site, x => by
    rw [mapLeaves, body_disjunction, body_disjunction]
    exact R.alternatives (related_mapLeavesAll hf children) message x
  | .exclusion children message _, site, x => by
    rw [mapLeaves, body_exclusion, body_exclusion]
    exact R.exclusion (related_mapLeavesAll hf children) message x
  | .negation child message _, site, x => by
    rw [mapLeaves]
    exact R.negated (related_of_body (body_mapLeaves hf child)) message x
  | .replacement child e _, site, x => by
    rw [mapLeaves]
    exact R.replaced (related_of_body (body_mapLeaves hf child)) e x
  | .throwing child _, site, x => by
    rw [mapLeaves]
    exact R.throwing (related_of_body (body_mapLeaves hf child)) x
  | .conditional condition thenBranch otherwise message _, site, x => by
    rw [mapLeaves]
    exact R.conditional message
      (related_of_body (body_mapLeaves hf condition))
      (related_of_body (body_mapLeaves hf thenBranch))
      (related_of_body (body_mapLeaves hf otherwise)) site x
  | .resolved choose _, site, x => by
    rw [mapLeaves]
    exact R.chosen (fun parent => related_of_body (body_mapLeaves hf (choose parent))) site x
  | .sized bounds message _, site, x => by
    rw [mapLeaves, body_sized, body_sized]
    exact R.sized (related_mapLeavesAll hf bounds) message x
  | .mapped fn child _, site, x => by
    rw [mapLeaves]
    exact R.after (related_of_body (body_mapLeaves hf child)) fn x
  | .defaulted substitute child _, site, x => by
    rw [mapLeaves]
    exact (related_of_body (body_mapLeaves hf child)).run .plain _
  | .pivot find message child _, site, x => by
    rw [mapLeaves]
    exact R.pivoted (related_of_body (body_mapLeaves hf child)) find message x
  | .coercion target guard convert child _, site, x => by
    rw [mapLeaves]
    exact R.coerced (related_of_body (body_mapLeaves hf child)) target
      (related_of_body (body_mapLeaves hf guard)) convert x
  | .member key child _, site, x => by
    rw [mapLeaves]
    exact R.onField (related_of_body (body_mapLeaves hf child)) key x
  | .dispatch key cases _, site, x => by
    rw [mapLeaves, body_dispatch, body_dispatch]
    exact R.dispatched key (related_mapLeavesUnder hf cases) x
  | .fields schema message _, site, x => by
    rw [mapLeaves, body_fields, body_fields]
    exact R.schema message (related_mapLeavesUnder hf schema) x
  | .listPlaces validators _, site, x => by
    rw [mapLeaves, body_listPlaces, body_listPlaces]
    exact R.places (related_mapLeavesAll hf validators) x
  | .listItems item message _, site, x => by
    rw [mapLeaves]
    exact R.everyItem message (related_of_body (body_mapLeaves hf item)) x

theorem related_mapLeavesAll (hf : ∀ name run x, R.Holds (run x) (f name run x)) :
    (vs : List Validator) →
      List.Forall₂ (Check.Related R) (vs.map toCheck) ((mapLeavesAll f vs).map toCheck)
  | [] => by
    rw [mapLeavesAll]
    exact .nil
  | v :: vs => by
    rw [mapLeavesAll]
    exact .cons (related_of_body (body_mapLeaves hf v)) (related_mapLeavesAll hf vs)

theorem related_mapLeavesUnder (hf : ∀ name run x, R.Holds (run x) (f name run x)) :
    (entries : List (Value × Validator)) →
      List.Forall₂ R.Keyed (entries.map fun entry => (entry.1, entry.2.toCheck))
        ((mapLeavesUnder f entries).map fun entry => (entry.1, entry.2.toCheck))
  | [] => by
    rw [mapLeavesUnder]
    exact .nil
  | (key, v) :: rest => by
    rw [mapLeavesUnder]
    exact .cons ⟨rfl, related_of_body (body_mapLeaves hf v)⟩ (related_mapLeavesUnder hf rest)

end

/-- Leaves with related functions make related runs. -/
theorem evaluate_mapLeaves (hf : ∀ name run x, R.Holds (run x) (f name run x)) (v : Validator)
    (site : Site) (x : Value) : R.Holds (v.evaluate site x) ((v.mapLeaves f).evaluate site x) :=
  (related_of_body (body_mapLeaves hf v)).run site x

end Conform.Validator
