import Conform.Definition.Node
import Conform.Proofs.FaultKinds

/-
  The nodes of a definition. `builtParts` are the values that a node makes validators of; no other
  value in a definition is looked at as a node, and all of them are smaller than the node, so that
  what is said of nodes can be shown by induction (`induction_builtParts`). A node gets as many
  validators of constraints as it has constraints of a known type, and only a choice needs the
  enclosing map.
-/

namespace Conform

namespace Definition

/-! ## The settings of a map -/

/-- The value of a setting; the absent value if it is not there. -/
def setting (entries : Entries) (key : String) : Value := (entries.get? key).getD .null

theorem setting_of_get? {entries : Entries} {key : String} {x : Value}
    (h : entries.get? key = some x) : setting entries key = x := by
  rw [setting, h]
  rfl

/-- The value of a setting unless it is absent. -/
def given? (entries : Entries) (key : String) : Option Value :=
  if (setting entries key).isNull then none else some (setting entries key)

/-- The name of the type of a node, in small letters. -/
def typeNameOf : Value → String
  | .map entries => match Entries.get? entries "type" with
    | some x => String.ofList (Text.lower x.display.toList)
    | none => ""
  | _ => ""

/-- The type of a node, if there is one of its name. -/
def typeOf? (x : Value) : Option NodeType := NodeType.ofName? (typeNameOf x)

def isTyped (x : Value) : Bool := (typeOf? x).isSome

theorem isTyped_of_named {x : Value} {type : NodeType}
    (h : NodeType.ofName? (typeNameOf x) = some type) : isTyped x = true := by
  rw [isTyped, typeOf?, h]
  rfl

theorem not_isTyped_of_unnamed {x : Value} (h : NodeType.ofName? (typeNameOf x) = none) :
    ¬ isTyped x = true := by
  rw [isTyped, typeOf?, h]
  exact Bool.false_ne_true

/-- The items of a list; none of any other value. -/
def itemsOf : Value → List Value
  | .list items => items
  | _ => []

/-- The entries of a map; none of any other value. -/
def entriesOf : Value → Entries
  | .map entries => entries
  | _ => []

def givenBounds (entries : Entries) : List Value :=
  (given? entries "min").toList ++ (given? entries "max").toList

/-! ## The nodes of a definition -/

/-- The values that a list is defined by: one for each place, or one for all items. -/
def itemNodes : Value → List Value
  | .null => []
  | .list places => places
  | x => [x]

/-- The values that a node of the type makes validators of, apart from its constraints. -/
def coreParts (type : NodeType) (entries : Entries) : List Value :=
  match type with
  | .list => itemNodes (setting entries "items")
  | .map => (entriesOf (setting entries "fields")).map (·.2)
  | .allOf | .anyOf | .noneOf => itemsOf (setting entries "validators")
  | .negation => (entries.get? "validator").toList
  | .choice => ["condition", "then", "otherwise"].filterMap entries.get?
  | _ => []

/-- The constraints of a known type. The others are left out. -/
def knownConstraints (entries : Entries) : List Value :=
  (itemsOf (setting entries "constraints")).filter isTyped

/-- The values that a value makes validators of, as a node. -/
def builtParts : Value → List Value
  | .map entries => match typeOf? (.map entries) with
    | some type => coreParts type entries ++ knownConstraints entries
    | none => []
  | _ => []

/-- The second value is the first one, or a validator is made of it below the first one. -/
inductive Builds : Value → Value → Prop where
  | self (x : Value) : Builds x x
  | inside {x y z : Value} (hpart : y ∈ builtParts x) (h : Builds y z) : Builds x z

theorem builtParts_of_type {entries : Entries} {type : NodeType}
    (h : typeOf? (.map entries) = some type) :
    builtParts (.map entries) = coreParts type entries ++ knownConstraints entries := by
  rw [builtParts, h]

theorem builtParts_of_no_type {entries : Entries} (h : typeOf? (.map entries) = none) :
    builtParts (.map entries) = [] := by
  rw [builtParts, h]

theorem sizeOf_lt_of_get? {entries : Entries} {key : String} {x : Value}
    (h : entries.get? key = some x) : sizeOf x < sizeOf entries := by
  obtain ⟨entry, hentry, hvalue⟩ := Option.map_eq_some_iff.mp h
  have hmem := List.sizeOf_lt_of_mem (List.mem_of_find?_eq_some hentry)
  obtain ⟨key', y⟩ := entry
  have hsame : y = x := hvalue
  rw [Prod.mk.sizeOf_spec, hsame] at hmem
  omega

theorem sizeOf_setting_le (entries : Entries) (key : String) :
    sizeOf (setting entries key) ≤ sizeOf entries := by
  unfold setting
  cases h : entries.get? key with
  | none =>
    have hnull : sizeOf ((none : Option Value).getD .null) = 1 := rfl
    rw [hnull]
    cases entries with
    | nil => exact Nat.le_refl 1
    | cons entry rest =>
      rw [List.cons.sizeOf_spec]
      omega
  | some x => exact Nat.le_of_lt (sizeOf_lt_of_get? h)

theorem sizeOf_lt_of_mem_itemsOf {x y : Value} (h : y ∈ itemsOf x) : sizeOf y < sizeOf x := by
  cases x with
  | list xs =>
    have hmem : sizeOf y < sizeOf xs := List.sizeOf_lt_of_mem h
    simp only [Value.list.sizeOf_spec]
    omega
  | _ => cases h

theorem sizeOf_lt_of_mem_entriesOf {x : Value} {entry : Value × Value} (h : entry ∈ entriesOf x) :
    sizeOf entry.2 < sizeOf x := by
  cases x with
  | map entries =>
    have hmem : sizeOf entry < sizeOf entries := List.sizeOf_lt_of_mem h
    obtain ⟨key, y⟩ := entry
    simp only [Prod.mk.sizeOf_spec, Value.map.sizeOf_spec] at hmem ⊢
    omega
  | _ => cases h

theorem sizeOf_le_of_mem_itemNodes {x y : Value} (h : y ∈ itemNodes x) : sizeOf y ≤ sizeOf x := by
  cases x with
  | null => cases h
  | list xs => exact Nat.le_of_lt (sizeOf_lt_of_mem_itemsOf (x := .list xs) h)
  | _ => exact Nat.le_of_eq (congrArg sizeOf (List.mem_singleton.mp h))

/-- Validators are made of smaller values only. -/
theorem sizeOf_lt_of_mem_builtParts {x y : Value} (h : y ∈ builtParts x) : sizeOf y < sizeOf x := by
  cases x with
  | map entries =>
    have hsetting := sizeOf_setting_le entries
    suffices hle : sizeOf y ≤ sizeOf entries by
      simp only [Value.map.sizeOf_spec]
      omega
    cases htype : typeOf? (.map entries) with
    | none =>
      rw [builtParts_of_no_type htype] at h
      cases h
    | some type =>
      rw [builtParts_of_type htype] at h
      cases List.mem_append.mp h with
      | inl hcore =>
        have hgot : ∀ key, Entries.get? entries key = some y → sizeOf y ≤ sizeOf entries :=
          fun key hkey => Nat.le_of_lt (sizeOf_lt_of_get? hkey)
        cases type with
        | list => exact Nat.le_trans (sizeOf_le_of_mem_itemNodes hcore) (hsetting _)
        | map =>
          obtain ⟨entry, hentry, hvalue⟩ := List.mem_map.mp hcore
          rw [← hvalue]
          exact Nat.le_trans (Nat.le_of_lt (sizeOf_lt_of_mem_entriesOf hentry)) (hsetting _)
        | allOf | anyOf | noneOf =>
          exact Nat.le_trans (Nat.le_of_lt (sizeOf_lt_of_mem_itemsOf hcore)) (hsetting _)
        | negation => exact hgot _ (Option.mem_toList.mp hcore)
        | choice =>
          obtain ⟨key, -, hkey⟩ := List.mem_filterMap.mp hcore
          exact hgot key hkey
        | _ => cases hcore
      | inr hconstraint =>
        have hitem := (List.mem_filter.mp hconstraint).1
        exact Nat.le_trans (Nat.le_of_lt (sizeOf_lt_of_mem_itemsOf hitem)) (hsetting _)
  | _ => cases h

/-- What holds of a value if it holds of the values that the value makes validators of, holds of
every value. -/
theorem induction_builtParts {P : Value → Prop} (h : ∀ x, (∀ y ∈ builtParts x, P y) → P x)
    (x : Value) : P x :=
  h x fun y _ => induction_builtParts h y
termination_by sizeOf x
decreasing_by exact sizeOf_lt_of_mem_builtParts ‹_›

/-- Whether a value and all that is built of it pass a test, no deeper than given. -/
def passesBuilt (test : Value → Bool) : Nat → Value → Bool
  | 0, _ => false
  | depth + 1, x => test x && (builtParts x).all (passesBuilt test depth)

theorem of_passesBuilt {test : Value → Bool} {depth : Nat} {x y : Value}
    (h : passesBuilt test depth x = true) (hbuilds : Builds x y) : test y = true := by
  induction hbuilds generalizing depth with
  | self x =>
    cases depth with
    | zero => cases h
    | succ depth => exact (Bool.and_eq_true_iff.mp h).1
  | inside hpart _ ih =>
    cases depth with
    | zero => cases h
    | succ depth => exact ih (List.all_eq_true.mp (Bool.and_eq_true_iff.mp h).2 _ hpart)

/-! ## The settings of a map with what they are built of -/

section

variable [Environment]

theorem parts_eq_map (xs : List Value) : parts xs = xs.map part := by
  induction xs with
  | nil => rfl
  | cons x xs ih => rw [parts, ih, List.map_cons]

theorem settingsOf_eq_map (entries : Entries) :
    settingsOf entries = entries.map fun entry => (entry.1, part entry.2) := by
  induction entries with
  | nil => rfl
  | cons entry rest ih =>
    obtain ⟨key, x⟩ := entry
    rw [settingsOf, ih, List.map_cons]

theorem items_part_list (xs : List Value) : (part (.list xs)).items = xs.map part :=
  parts_eq_map xs

theorem settings_part (x : Value) : (part x).settings = settingsOf (entriesOf x) := by
  cases x <;> rfl

theorem get?_settingsOf (entries : Entries) (key : String) :
    Settings.get? (settingsOf entries) key = (entries.get? key).map part := by
  rw [settingsOf_eq_map, Settings.get?, Entries.get?, Entries.find?, List.find?_map, Option.map_map,
    Option.map_map]
  rfl

theorem value_settingsOf (entries : Entries) (key : String) :
    Settings.value (settingsOf entries) key = setting entries key := by
  rw [Settings.value, get?_settingsOf, setting]
  cases entries.get? key with
  | none => rfl
  | some x => exact value_part x

theorem isOn_settingsOf (entries : Entries) (key : String) :
    Settings.isOn (settingsOf entries) key = (setting entries key).isTruthy := by
  rw [Settings.isOn, value_settingsOf]

theorem value?_settingsOf (entries : Entries) (key : String) :
    Settings.value? (settingsOf entries) key = given? entries key := by
  rw [Settings.value?, value_settingsOf, given?]

theorem typeName_settingsOf (entries : Entries) :
    Settings.typeName (settingsOf entries) = typeNameOf (.map entries) := by
  rw [Settings.typeName, get?_settingsOf, typeNameOf]
  cases entries.get? "type" with
  | none => rfl
  | some x => simp

theorem typeName_part (x : Value) : (part x).typeName = typeNameOf x := by
  cases x with
  | map entries => exact typeName_settingsOf entries
  | _ => rfl

theorem boundsOf_settingsOf (entries : Entries) :
    (boundsOf (settingsOf entries)).map (·.2) = givenBounds entries := by
  rw [boundsOf, value?_settingsOf, value?_settingsOf, givenBounds]
  cases given? entries "min" <;> cases given? entries "max" <;> rfl

/-! ## What nodes give -/

theorem length_constraintsFrom {xs : List Value} {path : String} {index : Nat}
    {vs : List Validator}
    (h : (constraintsFrom path index (xs.map part)).outcome? = some (.ok vs)) :
    vs.length = (xs.filter isTyped).length := by
  induction xs generalizing index vs with
  | nil => cases h; rfl
  | cons x xs ih =>
    rw [List.map_cons, constraintsFrom, typeName_part, Run.bind_eq,
      Run.outcome?_bind_eq_ok] at h
    obtain ⟨_, -, h⟩ := h
    cases htype : NodeType.ofName? (typeNameOf x) with
    | none =>
      rw [htype] at h
      rw [List.filter_cons_of_neg (not_isTyped_of_unnamed htype)]
      exact ih h
    | some type =>
      rw [htype] at h
      obtain ⟨v, -, h⟩ := Run.outcome?_bind_eq_ok.mp h
      obtain ⟨ws, hws, h⟩ := Run.outcome?_bind_eq_ok.mp h
      cases h
      rw [List.filter_cons_of_pos (isTyped_of_named htype), List.length_cons, List.length_cons,
        ih hws]

/-- A node has as many validators of constraints as constraints of a known type. -/
theorem length_constraintsOf {entries : Entries} {path : String} {vs : List Validator}
    (h : (constraintsOf (settingsOf entries) path).outcome? = some (.ok vs)) :
    vs.length = (knownConstraints entries).length := by
  unfold constraintsOf at h
  unfold knownConstraints setting
  rw [get?_settingsOf] at h
  cases hget : entries.get? "constraints" with
  | none =>
    rw [hget] at h
    cases h
    rfl
  | some x =>
    rw [hget] at h
    cases x with
    | list xs =>
      simp only [Option.map_some, value_part] at h
      rw [items_part_list] at h
      exact length_constraintsFrom h
    | _ => cases h

end

theorem allAnswers_listNode (s : Settings) (path : String) :
    (listNode s path).AllAnswers fun v => v.isContextual = false := by
  unfold listNode
  split
  · exact Run.allAnswers_done rfl
  · split
    · exact Run.allAnswers_done rfl
    · exact Run.allAnswers_bind fun _ => Run.allAnswers_done rfl
    · exact Run.allAnswers_bind fun _ => Run.allAnswers_done rfl

theorem allAnswers_mapNode (s : Settings) (path : String) :
    (mapNode s path).AllAnswers fun v => v.isContextual = false := by
  unfold mapNode
  split
  · exact Run.allAnswers_done rfl
  · split
    · exact Run.allAnswers_done rfl
    · refine Run.allAnswers_bind fun _ => Run.allAnswers_done ?_
      split
      · rfl
      · rfl
    · exact Run.allAnswers_raised _

theorem allAnswers_rangeNode (s : Settings) (path : String) :
    (rangeNode s path).AllAnswers fun v => v.isContextual = false := by
  unfold rangeNode
  split
  · split
    · exact Run.allAnswers_raised _
    · exact Run.allAnswers_bind fun _ => Run.allAnswers_raised _
    · refine Run.allAnswers_bind fun _ => Run.allAnswers_ofExcept fun v hv => ?_
      rw [Validator.eq_of_isInRange_eq_ok hv]
      rfl
  · have hbounds : (boundNodes s).AllAnswers fun vs => ∀ v ∈ vs, v.isContextual = false := by
      refine Run.allAnswers_bind fun _ => Run.allAnswers_done fun v hv => ?_
      obtain ⟨bound, -, hbound⟩ := List.mem_map.mp hv
      rw [← hbound]
      rfl
    refine hbounds.bind fun vs hvs => Run.allAnswers_done ?_
    cases vs with
    | nil => rfl
    | cons v vs => exact hvs v List.mem_cons_self

/-- Only a choice needs the enclosing map. -/
theorem isContextual_of_coreNode [Environment] {type : NodeType} {s : Settings} {path : String}
    {v : Validator} (h : (coreNode type s path).outcome? = some (.ok v)) :
    v.isContextual = (type == .choice) := by
  have hanswers : (coreNode type s path).AllAnswers fun v =>
      v.isContextual = (type == .choice) := by
    cases type with
    | string | int | float | number | bool => exact Run.allAnswers_done rfl
    | list => exact allAnswers_listNode s path
    | map => exact allAnswers_mapNode s path
    | range => exact allAnswers_rangeNode s path
    | allOf | anyOf | noneOf | negation | length =>
      exact Run.allAnswers_bind fun _ => Run.allAnswers_done rfl
    | oneOf =>
      refine Run.allAnswers_bind fun p => ?_
      split
      · exact Run.allAnswers_done rfl
      · exact Run.allAnswers_raised _
    | equal | pattern =>
      exact Run.allAnswers_bind fun _ => Run.allAnswers_bind fun _ => Run.allAnswers_done rfl
    | choice =>
      exact Run.allAnswers_bind fun _ => Run.allAnswers_bind fun _ => Run.allAnswers_bind fun _ =>
        Run.allAnswers_done rfl
  exact hanswers v h

end Definition
end Conform
