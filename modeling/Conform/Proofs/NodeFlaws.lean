import Conform.Proofs.DefinitionParts
import Mathlib.Logic.Basic

/-
  What can be wrong with a node. `ownFlaws` are the kinds of faults that a value gives cause for by
  itself, as a node, and `Flawed` says that there is one below it. Building goes through the parts
  of a node in order and stops at the first flaw; which of several that is, is left open here.

  Main result: `failsBy_coreNode`. The validator that a node of a type asks for, apart from its
  constraints, is built if nothing is wrong with its settings and with the nodes in them, and
  otherwise building ends in a fault of the kind of one of these flaws.
-/

namespace Conform

namespace Definition

/-! ## Flaws -/

/-- A flaw of the kind if the condition holds. -/
def flawIf (kind : FaultKind) (condition : Bool) : List FaultKind :=
  if condition then [kind] else []

theorem mem_flawIf {kind kind' : FaultKind} {condition : Bool} :
    kind' ∈ flawIf kind condition ↔ kind' = kind ∧ condition = true := by
  cases condition <;> simp [flawIf]

theorem flawIf_eq_nil {kind : FaultKind} {condition : Bool} :
    flawIf kind condition = [] ↔ condition = false := by
  cases condition <;> simp [flawIf]

/-- Whether the setting is there and of none of the kinds. -/
def misfits (entries : Entries) (key : String) (kinds : List Kind) : Bool :=
  (entries.get? key).any fun x => !kinds.contains x.kind

/-- The flaws of bounds: they have no order, the least is greater than the greatest, or one of
them cannot be shown. -/
def rangeFlaws (entries : Entries) : List FaultKind :=
  (match given? entries "min", given? entries "max" with
    | some low, some high => match low.related .gt high with
      | none => [.type]
      | some reversed => flawIf .configuration reversed
    | _, _ => [])
    ++ flawIf .value (!(givenBounds entries).all Value.isShowable)

section

variable [Environment]

/-- The kind of the fault that compiling the value as an expression ends in. What is no text is not
compiled. -/
def patternFlaws : Value → List FaultKind
  | .str source => match Environment.compile source with
    | .ok _ => []
    | .error fault => [fault.kind]
  | _ => []

def coreFlaws (type : NodeType) (entries : Entries) : List FaultKind :=
  match type with
  | .map =>
    flawIf .configuration (misfits entries "fields" [.null, .map])
      ++ flawIf .value (!(entriesOf (setting entries "fields")).all fun field =>
        field.1.isShowable)
  | .allOf | .anyOf | .noneOf => flawIf .configuration (misfits entries "validators" [.list])
  | .negation => flawIf .configuration (entries.get? "validator").isNone
  | .equal =>
    flawIf .configuration (entries.get? "value").isNone
      ++ flawIf .value (!(setting entries "value").isShowable)
  | .oneOf => flawIf .configuration ((setting entries "values").kind != .list)
  | .range => rangeFlaws entries
  | .length => flawIf .value (!(givenBounds entries).all Value.isShowable)
  | .pattern =>
    flawIf .configuration (entries.get? "pattern").isNone
      ++ patternFlaws (setting entries "pattern")
  | .choice =>
    flawIf .configuration (["condition", "then", "otherwise"].any fun key =>
      (entries.get? key).isNone)
  | _ => []

/-- The flaws of the constraints of a node. A choice can have none of a known type. -/
def constraintFlaws (type : NodeType) (entries : Entries) : List FaultKind :=
  flawIf .configuration (misfits entries "constraints" [.list])
    ++ flawIf .value (!(itemsOf (setting entries "constraints")).all fun x =>
      (setting (entriesOf x) "type").isShowable)
    ++ flawIf .configuration (type == .choice && !(knownConstraints entries).isEmpty)

/-- The kinds of faults that a value gives cause for by itself, as a node. -/
def ownFlaws : Value → List FaultKind
  | .map entries =>
    flawIf .value (!(setting entries "type").isShowable)
      ++ match typeOf? (.map entries) with
        | some type => coreFlaws type entries ++ constraintFlaws type entries
        | none => [.configuration]
  | _ => [.configuration]

theorem ownFlaws_of_type {entries : Entries} {type : NodeType}
    (h : typeOf? (.map entries) = some type) :
    ownFlaws (.map entries) = flawIf .value (!(setting entries "type").isShowable)
      ++ (coreFlaws type entries ++ constraintFlaws type entries) := by
  rw [ownFlaws, h]

theorem ownFlaws_of_no_type {entries : Entries} (h : typeOf? (.map entries) = none) :
    ownFlaws (.map entries) =
      flawIf .value (!(setting entries "type").isShowable) ++ [.configuration] := by
  rw [ownFlaws, h]

/-- A node that is built of the value, or below it, has a flaw of the kind. -/
def Flawed (x : Value) (kind : FaultKind) : Prop := ∃ y, Builds x y ∧ kind ∈ ownFlaws y

theorem flawed_iff (x : Value) (kind : FaultKind) :
    Flawed x kind ↔ kind ∈ ownFlaws x ∨ ∃ y ∈ builtParts x, Flawed y kind := by
  constructor
  · intro h
    obtain ⟨z, hbuilds, hflaw⟩ := h
    cases hbuilds with
    | self => exact .inl hflaw
    | inside hpart hinside => exact .inr ⟨_, hpart, z, hinside, hflaw⟩
  · intro h
    cases h with
    | inl hflaw => exact ⟨x, .self x, hflaw⟩
    | inr hpart =>
      obtain ⟨y, hy, z, hbuilds, hflaw⟩ := hpart
      exact ⟨z, .inside hy hbuilds, hflaw⟩

end

/-! ## Runs of nodes -/

theorem failsBy_requireShowable (values : List Value) :
    (requireShowable values).FailsBy (· ∈ flawIf .value (!values.all Value.isShowable)) := by
  unfold requireShowable
  cases values.all Value.isShowable with
  | true => exact Run.failsBy_done () (by simp [flawIf])
  | false => exact Run.failsBy_raised (by simp [flawIf, Fault.kind])

theorem failsBy_reject {α : Type} {wrong : FaultKind → Prop} (problem : DefinitionProblem)
    (h : wrong .configuration) : (reject problem : Run α).FailsBy wrong := Run.failsBy_raised h

theorem failsBy_isInRange {low high : Value} (h : low.related .gt high = some false) :
    (Run.ofExcept (Validator.isInRange low high none)).FailsBy fun _ => False := by
  rw [Validator.isInRange, h]
  exact Run.failsBy_done _ fun _ => not_false

section

variable [Environment]

theorem failsBy_require (entries : Entries) (path key : String) :
    (require (settingsOf entries) path key).FailsBy
      (· ∈ flawIf .configuration (entries.get? key).isNone) := by
  unfold require
  rw [get?_settingsOf]
  cases entries.get? key with
  | none => exact failsBy_reject _ (by simp [flawIf])
  | some x => exact Run.failsBy_done (part x) (by simp [flawIf])

theorem outcome?_require {entries : Entries} {path key : String} {p : Part}
    (h : (require (settingsOf entries) path key).outcome? = some (.ok p)) :
    ∃ x, entries.get? key = some x ∧ p = part x := by
  unfold require at h
  rw [get?_settingsOf] at h
  cases hget : entries.get? key with
  | none =>
    rw [hget] at h
    cases h
  | some x =>
    rw [hget] at h
    cases h
    exact ⟨x, rfl, rfl⟩

theorem value_of_require {entries : Entries} {path key : String} {p : Part}
    (h : (require (settingsOf entries) path key).outcome? = some (.ok p)) :
    p.value = setting entries key := by
  obtain ⟨x, hget, hsame⟩ := outcome?_require h
  rw [hsame, value_part, setting_of_get? hget]

theorem failsBy_boundNodes (entries : Entries) :
    (boundNodes (settingsOf entries)).FailsBy
      (· ∈ flawIf .value (!(givenBounds entries).all Value.isShowable)) := by
  unfold boundNodes
  rw [boundsOf_settingsOf]
  exact (failsBy_requireShowable _).bind_done _

section

-- the kinds of flaws of what is built of a value
variable {F : Value → FaultKind → Prop}

/-- What is built of the value ends in a fault of one of its kinds of flaws. -/
def BuildsBy (F : Value → FaultKind → Prop) (x : Value) : Prop :=
  ∀ path, ((part x).node path).FailsBy (F x)

theorem failsBy_nodesFrom {xs : List Value} (hparts : ∀ x ∈ xs, BuildsBy F x) (path key : String)
    (index : Nat) :
    (nodesFrom path key index (xs.map part)).FailsBy fun kind => ∃ x ∈ xs, F x kind := by
  induction xs generalizing index with
  | nil => exact Run.failsBy_done [] (by simp)
  | cons x xs ih =>
    rw [List.forall_mem_cons] at hparts
    have hrest := ih hparts.2 (index + 1)
    have hall := (hparts.1 (placeOf path key index)).bind fun v _ => hrest.bind_done (v :: ·)
    exact hall.of_iff (by simp)

theorem failsBy_child {entries : Entries} {key : String}
    (hpart : ∀ x, entries.get? key = some x → BuildsBy F x) (path : String) :
    (child (settingsOf entries) path key).FailsBy fun kind =>
      kind ∈ flawIf .configuration (entries.get? key).isNone ∨
        ∃ x ∈ entries.get? key, F x kind := by
  refine Run.FailsBy.bind (failsBy_require entries path key) fun p hp => ?_
  obtain ⟨x, hget, hsame⟩ := outcome?_require hp
  rw [hsame, hget]
  exact (hpart x hget (path ++ "." ++ key)).of_iff (by simp)

theorem failsBy_children {entries : Entries} {key : String}
    (hparts : ∀ x ∈ itemsOf (setting entries key), BuildsBy F x) (path : String) :
    (children (settingsOf entries) path key).FailsBy fun kind =>
      kind ∈ flawIf .configuration (misfits entries key [.list]) ∨
        ∃ x ∈ itemsOf (setting entries key), F x kind := by
  unfold children setting misfits at *
  rw [get?_settingsOf]
  cases hget : entries.get? key with
  | none => exact Run.failsBy_done [] (by simp [flawIf, itemsOf])
  | some x =>
    rw [hget] at hparts
    cases x with
    | list xs =>
      have hnodes := failsBy_nodesFrom hparts path key 0
      rw [← items_part_list] at hnodes
      exact hnodes.of_iff (by simp [flawIf, itemsOf, Value.kind])
    | _ => exact failsBy_reject _ (by simp [flawIf, itemsOf, Value.kind])

theorem failsBy_fieldNodes {fields : Entries} (hparts : ∀ field ∈ fields, BuildsBy F field.2)
    (path : String) :
    (fieldNodes path (settingsOf fields)).FailsBy fun kind =>
      kind ∈ flawIf .value (!fields.all fun field => field.1.isShowable) ∨
        ∃ field ∈ fields, F field.2 kind := by
  induction fields with
  | nil => exact Run.failsBy_done [] (by simp [flawIf])
  | cons field rest ih =>
    obtain ⟨key, x⟩ := field
    rw [List.forall_mem_cons] at hparts
    have hrest := ih hparts.2
    have hall := (failsBy_requireShowable [key]).bind fun _ _ =>
      (hparts.1 (path ++ "." ++ key.display)).bind fun v _ =>
        hrest.bind_done ((Value.str key.display, v) :: ·)
    refine hall.of_iff fun kind => ?_
    simp only [mem_flawIf, List.all_cons, List.all_nil, List.mem_cons, exists_eq_or_imp,
      Bool.and_true, Bool.not_and, Bool.or_eq_true]
    grind

theorem failsBy_listNode {entries : Entries}
    (hparts : ∀ x ∈ itemNodes (setting entries "items"), BuildsBy F x) (path : String) :
    (listNode (settingsOf entries) path).FailsBy fun kind =>
      ∃ x ∈ itemNodes (setting entries "items"), F x kind := by
  unfold listNode setting at *
  rw [get?_settingsOf]
  cases hget : entries.get? "items" with
  | none => exact Run.failsBy_done _ (by simp [itemNodes])
  | some x =>
    rw [hget] at hparts
    cases x with
    | null => exact Run.failsBy_done _ (by simp [itemNodes])
    | list xs =>
      have hnodes := failsBy_nodesFrom hparts path "items" 0
      rw [← items_part_list] at hnodes
      exact hnodes.bind_done _
    | _ =>
      have hnode := hparts _ (List.mem_singleton.mpr rfl) (path ++ ".items")
      exact (hnode.bind_done fun v => Validator.listEach v none).of_iff (by simp [itemNodes])

theorem failsBy_mapNode {entries : Entries}
    (hparts : ∀ field ∈ entriesOf (setting entries "fields"), BuildsBy F field.2) (path : String) :
    (mapNode (settingsOf entries) path).FailsBy fun kind =>
      kind ∈ coreFlaws .map entries ∨
        ∃ field ∈ entriesOf (setting entries "fields"), F field.2 kind := by
  unfold mapNode coreFlaws setting misfits at *
  rw [get?_settingsOf]
  cases hget : entries.get? "fields" with
  | none => exact Run.failsBy_done _ (by simp [flawIf, entriesOf])
  | some x =>
    rw [hget] at hparts
    cases x with
    | null => exact Run.failsBy_done _ (by simp [flawIf, entriesOf, Value.kind])
    | map fields =>
      have hfields := (failsBy_fieldNodes hparts path).bind_done fun pairs =>
        let schema := Schema.ofPairs pairs
        if Settings.isOn (settingsOf entries) "strict" then Validator.strictMapOf schema none
        else Validator.mapOf schema none
      exact hfields.of_iff (by simp [flawIf, entriesOf, Value.kind])
    | _ => exact failsBy_reject _ (by simp [flawIf, entriesOf, Value.kind])

theorem failsBy_oneOfNode (entries : Entries) (path : String) :
    (oneOfNode (settingsOf entries) path).FailsBy (· ∈ coreFlaws .oneOf entries) := by
  have hall : (oneOfNode (settingsOf entries) path).FailsBy fun kind =>
      kind ∈ flawIf .configuration (entries.get? "values").isNone ∨
        kind ∈ flawIf .configuration (misfits entries "values" [.list]) := by
    refine Run.FailsBy.bind (failsBy_require entries path "values") fun p hp => ?_
    obtain ⟨x, hget, hsame⟩ := outcome?_require hp
    rw [hsame, value_part, misfits, hget]
    cases x with
    | list options => exact Run.failsBy_done _ (by simp [flawIf, Value.kind])
    | _ => exact failsBy_reject _ (by simp [flawIf, Value.kind])
  refine hall.of_iff fun kind => ?_
  unfold misfits coreFlaws setting
  cases entries.get? "values" with
  | none => simp [flawIf, Value.kind]
  | some x => simp [flawIf]

theorem failsBy_rangeNode (entries : Entries) (path : String) :
    (rangeNode (settingsOf entries) path).FailsBy (· ∈ rangeFlaws entries) := by
  have hbounds : ((boundNodes (settingsOf entries)).bind fun bounds =>
      .done (bounds.head?.getD .valid)).FailsBy
        (· ∈ flawIf .value (!(givenBounds entries).all Value.isShowable)) :=
    (failsBy_boundNodes entries).bind_done _
  unfold rangeNode rangeFlaws
  rw [value?_settingsOf, value?_settingsOf]
  cases hlow : given? entries "min" with
  | none => exact hbounds
  | some low =>
    cases hhigh : given? entries "max" with
    | none => exact hbounds
    | some high =>
      have hgiven : givenBounds entries = [low, high] := by
        rw [givenBounds, hlow, hhigh]
        rfl
      rw [hgiven]
      dsimp only
      cases horder : low.related .gt high with
      | none => exact Run.failsBy_raised (List.mem_append_left _ (List.mem_singleton.mpr rfl))
      | some reversed =>
        cases reversed with
        | true =>
          have hreject : (reject (.boundsReversed path low high) : Run Validator).FailsBy
              (· = .configuration) := failsBy_reject _ rfl
          refine ((failsBy_requireShowable [low, high]).bind fun _ _ => hreject).of_iff
            fun kind => ?_
          simp [mem_flawIf, or_comm]
        | false =>
          refine ((failsBy_requireShowable [low, high]).bind fun _ _ =>
            failsBy_isInRange horder).of_iff fun kind => ?_
          simp [mem_flawIf]

theorem failsBy_patternCheck (x : Value) :
    (Run.ofExcept (Validator.patternCheck x)).FailsBy (· ∈ patternFlaws x) := by
  cases x with
  | str source =>
    simp only [Validator.patternCheck, GivenExpression.compile, patternFlaws]
    cases Environment.compile source with
    | error fault => exact Run.failsBy_raised (List.mem_singleton.mpr rfl)
    | ok occursIn => exact Run.failsBy_done _ fun _ => List.not_mem_nil
  | _ => exact Run.failsBy_done _ fun _ => List.not_mem_nil

theorem failsBy_choiceNode {entries : Entries}
    (hparts : ∀ x ∈ coreParts .choice entries, BuildsBy F x) (path : String) :
    (choiceNode (settingsOf entries) path).FailsBy fun kind =>
      kind ∈ coreFlaws .choice entries ∨ ∃ x ∈ coreParts .choice entries, F x kind := by
  have hchild : ∀ key ∈ ["condition", "then", "otherwise"],
      (child (settingsOf entries) path key).FailsBy fun kind =>
        kind ∈ flawIf .configuration (entries.get? key).isNone ∨
          ∃ x ∈ entries.get? key, F x kind := fun key hkey =>
    failsBy_child (fun x hx => hparts x (List.mem_filterMap.mpr ⟨key, hkey, hx⟩)) path
  have hall := (hchild "condition" (by simp)).bind fun condition _ =>
    (hchild "then" (by simp)).bind fun thenBranch _ =>
      (hchild "otherwise" (by simp)).bind_done fun otherwise =>
        Validator.when condition thenBranch otherwise
          (Settings.value? (settingsOf entries) "message")
  refine hall.of_iff fun kind => ?_
  simp only [coreFlaws, coreParts, mem_flawIf, List.any_cons, List.any_nil, List.filterMap_cons,
    List.filterMap_nil, Option.mem_def]
  cases entries.get? "condition" <;> cases entries.get? "then" <;>
    cases entries.get? "otherwise" <;> simp <;> grind

theorem failsBy_coreNode {type : NodeType} {entries : Entries}
    (hparts : ∀ x ∈ coreParts type entries, BuildsBy F x) (path : String) :
    (coreNode type (settingsOf entries) path).FailsBy fun kind =>
      kind ∈ coreFlaws type entries ∨ ∃ x ∈ coreParts type entries, F x kind := by
  cases type with
  | string | int | float | number | bool =>
    exact Run.failsBy_done _ (by simp [coreFlaws, coreParts])
  | list => exact (failsBy_listNode hparts path).of_iff (by simp [coreFlaws, coreParts])
  | map =>
    have hfields : ∀ field ∈ entriesOf (setting entries "fields"), BuildsBy F field.2 :=
      fun field hfield => hparts _ (List.mem_map.mpr ⟨field, hfield, rfl⟩)
    refine (failsBy_mapNode hfields path).of_iff fun kind => ?_
    simp only [coreParts, List.mem_map, exists_exists_and_eq_and]
  | allOf | anyOf | noneOf => exact (failsBy_children hparts path).bind_done _
  | negation =>
    have hpart : ∀ x, entries.get? "validator" = some x → BuildsBy F x :=
      fun x hx => hparts x (Option.mem_toList.mpr hx)
    exact ((failsBy_child hpart path).bind_done _).of_iff (by simp [coreFlaws, coreParts])
  | equal =>
    have hshown := Run.FailsBy.bind (failsBy_require entries path "value") fun p hp => by
      have hx := value_of_require hp
      exact ((failsBy_requireShowable [p.value]).bind_done fun _ =>
        Validator.isEqual p.value none).of_iff fun kind => by rw [hx]
    exact hshown.of_iff (by simp [coreFlaws, coreParts])
  | oneOf => exact (failsBy_oneOfNode entries path).of_iff (by simp [coreParts])
  | range => exact (failsBy_rangeNode entries path).of_iff (by simp [coreFlaws, coreParts])
  | length =>
    exact ((failsBy_boundNodes entries).bind_done _).of_iff (by simp [coreFlaws, coreParts])
  | pattern =>
    have hread := Run.FailsBy.bind (failsBy_require entries path "pattern") fun p hp => by
      have hx := value_of_require hp
      exact ((failsBy_patternCheck p.value).bind_done fun check =>
        Validator.ofPredicate check none).of_iff fun kind => by rw [hx]
    exact hread.of_iff (by simp [coreFlaws, coreParts])
  | choice => exact failsBy_choiceNode hparts path

end

end

end Definition
end Conform
