import Conform.Proofs.Guards

/-
  Choices below choices. A field of a map may be given a tree of choices: at every node a condition
  on the map, or a function of it, says where to go on, and at the leaves stand validators that
  need no map. `guided` is how such a tree is to be read: the map is handed on to every choice on
  the way. The library hands it to the first one only, and runs the branch that was chosen like a
  validator without an enclosing map. So a choice below a choice is never made: it reports its own
  misuse although a map is being validated (`nested_choice_reports_misuse`).
  `evaluate_mapOf_trees` is what a schema of trees does, for all trees: it reads each of them as if
  it were cut off below its first choice, with a leaf that reports the misuse in place of each
  choice that is cut off. Trees without a choice below a choice are read as they are to be.
-/

namespace Conform

/-- A tree of choices for the field of a map. -/
inductive DecisionTree where
  /-- A validator that does not need the enclosing map. -/
  | leaf (v : Validator) (plain : v.isContextual = false)
  | choice (condition : Validator) (met unmet : DecisionTree) (message : Option Value)
      (flags : Flags)
  | resolved (choose : Entries → DecisionTree) (flags : Flags)

namespace DecisionTree

def validator : DecisionTree → Validator
  | .leaf v _ => v
  | .choice condition met unmet message flags =>
    .conditional condition met.validator unmet.validator message flags
  | .resolved choose flags => .resolved (fun parent => (choose parent).validator) flags

/-- How a tree is to be read for a value of a map, whose key is there or not: every choice on the
way to a leaf looks at the map. -/
def guided (parent : Entries) (present : Bool) (x : Value) : DecisionTree → Run Result
  | .leaf v _ => v.evaluate ⟨present, none⟩ x
  | .choice condition met unmet message flags =>
    if flags.letPass ⟨present, some parent⟩ x then .done (.success x)
    else (condition.evaluate .plain (.map parent)).bind fun r =>
      (if r.isValid then met.guided parent present x else unmet.guided parent present x).bind
        fun out => .done (Check.relabelled message x out)
  | .resolved choose flags =>
    if flags.letPass ⟨present, some parent⟩ x then .done (.success x)
    else (choose parent).guided parent present x

/-- The field of a map under a key, with a tree for it that is read as it is to be. -/
def guidedPart (entries : Entries) (key : Value) (t : DecisionTree) : Check.Part :=
  (Check.keySegment key, do
    let _ ← Run.ofExcept (Check.segmentOf key)
    t.guided entries (entries.hasKey key) ((entries.find? key).getD .null))

/-- A leaf that reports the misuse of a choice. -/
def misused (name : String) (flags : Flags) : DecisionTree :=
  .leaf (.function name (fun x => .done (Check.misuse name x)) none flags) rfl

/-- The tree below a choice: a leaf stays, and a choice is cut off. -/
def asBranch : DecisionTree → DecisionTree
  | .leaf v plain => .leaf v plain
  | .choice _ _ _ _ flags => misused "when" flags
  | .resolved _ flags => misused "resolve" flags

/-- The tree without its choices below choices. -/
def cut : DecisionTree → DecisionTree
  | .leaf v plain => .leaf v plain
  | .choice condition met unmet message flags =>
    .choice condition met.asBranch unmet.asBranch message flags
  | .resolved choose flags => .resolved (fun parent => (choose parent).asBranch) flags

/-- The tree makes no choice. -/
def IsLeaf : DecisionTree → Prop
  | .leaf _ _ => True
  | _ => False

/-- There is no choice below a choice. -/
def IsFlat : DecisionTree → Prop
  | .leaf _ _ => True
  | .choice _ met unmet _ _ => met.IsLeaf ∧ unmet.IsLeaf
  | .resolved choose _ => ∀ parent, (choose parent).IsLeaf

theorem asBranch_of_isLeaf {t : DecisionTree} (h : t.IsLeaf) : t.asBranch = t := by
  cases t with
  | leaf => rfl
  | choice => exact h.elim
  | resolved => exact h.elim

/-- Nothing is cut off a tree without choices below choices. -/
theorem cut_of_isFlat {t : DecisionTree} (h : t.IsFlat) : t.cut = t := by
  cases t with
  | leaf => rfl
  | choice condition met unmet message flags =>
    rw [cut, asBranch_of_isLeaf h.1, asBranch_of_isLeaf h.2]
  | resolved choose flags =>
    rw [cut, funext fun parent => asBranch_of_isLeaf (h parent)]

/-! ## What the library makes of a tree -/

/-- Only choices look at the enclosing map. -/
theorem evaluate_of_not_isContextual {v : Validator} (h : v.isContextual = false) (present : Bool)
    (parent : Option Entries) (x : Value) :
    v.evaluate ⟨present, parent⟩ x = v.evaluate ⟨present, none⟩ x := by
  have hbody : v.body ⟨present, parent⟩ x = v.body ⟨present, none⟩ x := by
    cases v with
    | conditional => cases h
    | resolved => cases h
    | conjunction children message collecting flags => cases collecting <;> rfl
    | _ => rfl
  rw [Validator.evaluate, Flags.guard, hbody]
  rfl

/-- Below a choice a tree is run without the map. -/
theorem evaluate_asBranch (t : DecisionTree) (parent : Entries) (present : Bool) (x : Value) :
    t.validator.evaluate ⟨present, none⟩ x = t.asBranch.guided parent present x := by
  cases t with
  | leaf => rfl
  | choice => rfl
  | resolved => rfl

/-- As the validator of a field a tree is read with its choices below choices cut off. -/
theorem evaluate_validator (t : DecisionTree) (parent : Entries) (present : Bool) (x : Value) :
    t.validator.evaluate ⟨present, some parent⟩ x = t.cut.guided parent present x := by
  cases t with
  | leaf v plain => exact evaluate_of_not_isContextual plain present (some parent) x
  | choice condition met unmet message flags =>
    have hchosen : Check.conditional message condition.toCheck met.validator.toCheck
        unmet.validator.toCheck ⟨present, some parent⟩ x =
        (condition.evaluate .plain (.map parent)).bind fun r =>
          (if r.isValid then met.validator.evaluate ⟨present, none⟩ x
            else unmet.validator.evaluate ⟨present, none⟩ x).bind
              fun out => .done (Check.relabelled message x out) := by
      rw [Check.conditional]
      dsimp only
      congr 1
      funext r
      cases r.isValid <;> rfl
    rw [cut, guided, ← evaluate_asBranch, ← evaluate_asBranch, ← hchosen]
    rfl
  | resolved choose flags =>
    rw [cut, guided, ← evaluate_asBranch]
    rfl

/-- A choice below a choice lets pass what its flags let pass, and reports its misuse for all
other values. -/
theorem guided_asBranch_of_not_isLeaf {t : DecisionTree} (h : ¬ t.IsLeaf) :
    ∃ name, ∀ parent present x, t.asBranch.guided parent present x =
      if t.validator.flags.letPass ⟨present, none⟩ x then .done (.success x)
      else .done (Check.misuse name x) := by
  cases t with
  | leaf => exact absurd trivial h
  | choice => exact ⟨"when", fun _ _ _ => rfl⟩
  | resolved => exact ⟨"resolve", fun _ _ _ => rfl⟩

/-! ## Schemas of trees -/

/-- A schema of trees on a map reads each tree for its field as if it were cut off below its first
choice. If there is no choice below a choice, then this is the tree itself. A choice that is cut off
reports its misuse wherever it is reached, except for what its flags let pass. -/
theorem evaluate_mapOf_trees (trees : List (Value × DecisionTree)) (message : Option Value) :
    (∀ site (entries : Entries),
      (Validator.mapOf (trees.map fun entry => (entry.1, entry.2.validator)) message).evaluate site
          (.map entries) =
        (Check.inspected message .mapFieldFailed (.map entries)
          (trees.map fun entry => guidedPart entries entry.1 entry.2.cut)).bind fun r =>
            .done (if r.isValid then .success r.value (.map entries) else r)) ∧
      (∀ t : DecisionTree, t.IsFlat → t.cut = t) ∧
      ∀ t : DecisionTree, ¬ t.IsLeaf → ∃ name, ∀ parent present x,
        t.asBranch.guided parent present x =
          if t.validator.flags.letPass ⟨present, none⟩ x then .done (.success x)
          else .done (Check.misuse name x) := by
  refine ⟨fun site entries => ?_, fun t => cut_of_isFlat, fun t => guided_asBranch_of_not_isLeaf⟩
  have hparts : (trees.map fun entry => (entry.1, entry.2.validator)).map
      (fun entry => Check.fieldPart entries entry.1 entry.2.toCheck) =
        trees.map fun entry => guidedPart entries entry.1 entry.2.cut := by
    rw [List.map_map]
    refine List.map_congr_left fun entry _ => ?_
    have hfield := evaluate_validator entry.2 entries (entries.hasKey entry.1)
      ((entries.find? entry.1).getD .null)
    exact congrArg (fun run => (Check.keySegment entry.1, do
      let _ ← Run.ofExcept (Check.segmentOf entry.1)
      run)) hfield
  rw [Validator.evaluate_mapOf_map, hparts]
  rfl

/-- A number if two conditions on the map are met, which every map meets. -/
def twiceChosen : DecisionTree :=
  let number := leaf (.isKind .int none) rfl
  let text := leaf (.isString none) rfl
  choice .valid (choice .valid number text none {}) text none {}

/-- The inner choice leads to a leaf that accepts the value, but what is reported is that it was
made without a map. -/
theorem nested_choice_reports_misuse :
    twiceChosen.guided [(.str "k", .int 1)] true (.int 1) = .done (.success (.int 1)) ∧
      ∃ r, ((Validator.mapOf [(.str "k", twiceChosen.validator)] none).validate
          (.map [(.str "k", .int 1)]) true).outcome? = some (.ok r) ∧
        r.expectations.map (·.code) = [some Code.whenOutsideSchema.text] := by
  refine ⟨rfl, ?_⟩
  have hpart : Check.fieldPart [(.str "k", .int 1)] (.str "k") twiceChosen.validator.toCheck =
      (Check.keySegment (.str "k"), .done (Check.misuse "when" (.int 1))) := by
    have hkey : Entries.hasKey [(.str "k", .int 1)] (.str "k") = true := by
      simp [Entries.hasKey, Value.equals]
    have hvalue : Entries.find? [(.str "k", .int 1)] (.str "k") = some (.int 1) := by
      simp [Entries.find?, Value.equals]
    rw [Check.fieldPart, hkey, hvalue]
    rfl
  rw [Validator.validate, Validator.evaluate_mapOf_map, List.map_singleton, hpart]
  exact ⟨_, rfl, rfl⟩

end DecisionTree
end Conform
