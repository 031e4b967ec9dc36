import Conform.Definition.Part

/-
  Nodes: the maps that define validators. A node has a type, settings that depend on the type, and
  constraints, a message and flags that any node may have.
-/

namespace Conform.Definition

inductive NodeType where
  | string
  | int
  | float
  | number
  | bool
  | list
  | map
  | allOf
  | anyOf
  | noneOf
  | negation
  | equal
  | oneOf
  | range
  | length
  | pattern
  | choice
deriving DecidableEq, Repr

namespace NodeType

def name : NodeType → String
  | .string => "string"
  | .int => "int"
  | .float => "float"
  | .number => "number"
  | .bool => "bool"
  | .list => "list"
  | .map => "map"
  | .allOf => "all"
  | .anyOf => "any"
  | .noneOf => "none"
  | .negation => "not"
  | .equal => "eq"
  | .oneOf => "one_of"
  | .range => "range"
  | .length => "length"
  | .pattern => "pattern"
  | .choice => "when"

/-- Every type of nodes. -/
def all : List NodeType := [
  .string, .int, .float, .number, .bool, .list, .map, .allOf, .anyOf, .noneOf, .negation, .equal,
  .oneOf, .range, .length, .pattern, .choice]

def ofName? (name : String) : Option NodeType := all.find? fun type => type.name == name

theorem mem_all (type : NodeType) : type ∈ all := by cases type <;> decide

theorem ofName?_name (type : NodeType) : ofName? type.name = some type := by
  cases type <;> decide

theorem name_of_ofName? {name : String} {type : NodeType} (h : ofName? name = some type) :
    type.name = name := by
  simpa using List.find?_some h

end NodeType

/-! ## Settings of nodes -/

/-- The place of a numbered part of a setting. -/
def placeOf (path key : String) (index : Nat) : String :=
  path ++ "." ++ key ++ "[" ++ Text.decimal index ++ "]"

/-- The validators of parts at numbered places, from the given number on. -/
def nodesFrom (path key : String) : Nat → List Part → Run (List Validator)
  | _, [] => .done []
  | index, p :: rest => do
    let v ← p.node (placeOf path key index)
    let vs ← nodesFrom path key (index + 1) rest
    .done (v :: vs)

/-- The validators of a list of nodes, which may be left out. -/
def children (s : Settings) (path key : String) : Run (List Validator) :=
  match s.get? key with
  | none => .done []
  | some p => match p.value with
    | .list _ => nodesFrom path key 0 p.items
    | _ => reject (.childrenNotList path key)

/-- A setting that must be there. -/
def require (s : Settings) (path key : String) : Run Part :=
  match s.get? key with
  | some p => .done p
  | none => reject (.missing path key (s.value "type"))

/-- The validator of a node that must be there. -/
def child (s : Settings) (path key : String) : Run Validator := do
  let p ← require s path key
  p.node (path ++ "." ++ key)

def boundsOf (s : Settings) : List (Relation × Value) :=
  ((s.value? "min").map fun x => (.ge, x)).toList
    ++ ((s.value? "max").map fun x => (.le, x)).toList

def boundNodes (s : Settings) : Run (List Validator) := do
  requireShowable ((boundsOf s).map (·.2))
  .done ((boundsOf s).map fun bound => Validator.isRelated bound.1 bound.2 none)

/-- The validators of the fields of a map by their names. -/
def fieldNodes (path : String) : List (Value × Part) → Run (List (Value × Validator))
  | [] => .done []
  | (key, p) :: rest => do
    requireShowable [key]
    let v ← p.node (path ++ "." ++ key.display)
    let vs ← fieldNodes path rest
    .done ((.str key.display, v) :: vs)

/-! ## Nodes by type -/

def listNode (s : Settings) (path : String) : Run Validator :=
  match s.get? "items" with
  | none => .done (.isList none)
  | some p => match p.value with
    | .null => .done (.isList none)
    | .list _ => do
      let vs ← nodesFrom path "items" 0 p.items
      .done (.listOf vs)
    | _ => do
      let v ← p.node (path ++ ".items")
      .done (.listEach v none)

def mapNode (s : Settings) (path : String) : Run Validator :=
  match s.get? "fields" with
  | none => .done (.isMap none)
  | some p => match p.value with
    | .null => .done (.isMap none)
    | .map _ => do
      let pairs ← fieldNodes path p.settings
      let schema := Schema.ofPairs pairs
      .done (if s.isOn "strict" then .strictMapOf schema none else .mapOf schema none)
    | _ => reject (.fieldsNotMap path)

/-- One of several values. -/
def oneOfNode (s : Settings) (path : String) : Run Validator := do
  let p ← require s path "values"
  match p.value with
  | .list options => .done (.isOneOf options none)
  | _ => reject (.valuesNotList path)

/-- A range between bounds, each of which may be left out. -/
def rangeNode (s : Settings) (path : String) : Run Validator :=
  match s.value? "min", s.value? "max" with
  | some low, some high => match low.related .gt high with
    | none => .raised .wrongType
    | some true => do
      requireShowable [low, high]
      reject (.boundsReversed path low high)
    | some false => do
      requireShowable [low, high]
      Run.ofExcept (Validator.isInRange low high none)
  | _, _ => do
    let bounds ← boundNodes s
    .done (bounds.head?.getD .valid)

/-- One of two nodes, chosen by a third one for the enclosing map. -/
def choiceNode (s : Settings) (path : String) : Run Validator := do
  let condition ← child s path "condition"
  let thenBranch ← child s path "then"
  let otherwise ← child s path "otherwise"
  .done (.when condition thenBranch otherwise (s.value? "message"))

/-- The validator of a node apart from the settings that any node may have. -/
def coreNode [Environment] (type : NodeType) (s : Settings) (path : String) : Run Validator :=
  match type with
  | .string => .done (.isString none)
  | .int => .done (.isKind .int none)
  | .float => .done (.isKind .float none)
  | .number => .done (.isNumber none)
  | .bool => .done (.isKind .bool none)
  | .list => listNode s path
  | .map => mapNode s path
  | .allOf => do
    let vs ← children s path "validators"
    .done (.allOf vs none (s.isOn "collecting"))
  | .anyOf => do
    let vs ← children s path "validators"
    .done (.anyOf vs none)
  | .noneOf => do
    let vs ← children s path "validators"
    .done (.noneOf vs none)
  | .negation => do
    let v ← child s path "validator"
    .done (.not v none)
  | .equal => do
    let p ← require s path "value"
    requireShowable [p.value]
    .done (.isEqual p.value none)
  | .oneOf => oneOfNode s path
  | .range => rangeNode s path
  | .length => do
    let bounds ← boundNodes s
    .done (.length bounds none)
  | .pattern => do
    let p ← require s path "pattern"
    let check ← Run.ofExcept (Validator.patternCheck p.value)
    .done (.ofPredicate check none)
  | .choice => choiceNode s path

/-! ## Settings of any node -/

/-- The validators of constraints from the given number on. One of an unknown type is left out and
noted in the log. -/
def constraintsFrom (path : String) : Nat → List Part → Run (List Validator)
  | _, [] => .done []
  | index, p :: rest => do
    requireShowable [Settings.value p.settings "type"]
    match NodeType.ofName? p.typeName with
    | none => do
      log .warning ("Unknown constraint type: " ++ p.typeName ++ " at " ++ path)
      constraintsFrom path (index + 1) rest
    | some _ => do
      let v ← p.node (placeOf path "constraints" index)
      let vs ← constraintsFrom path (index + 1) rest
      .done (v :: vs)

/-- The validators of the constraints of a node, which may be left out. -/
def constraintsOf (s : Settings) (path : String) : Run (List Validator) :=
  match s.get? "constraints" with
  | none => .done []
  | some p => match p.value with
    | .list _ => constraintsFrom path 0 p.items
    | _ => reject (.constraintsNotList path)

/-- The validator with the constraints. A choice can have none. -/
def constrained (path type : String) (v : Validator) : List Validator → Run Validator
  | [] => .done v
  | constraints =>
    if v.isContextual then reject (.contextualConstraints path type)
    else .done (.allOf (v :: constraints) none false)

/-- The validator with the message of the node, if it has one. A choice has it already. -/
def explained (s : Settings) (v : Validator) : Validator :=
  if v.isContextual then v else .withMessage? (s.value? "message") v

def flagged (s : Settings) (v : Validator) : Validator :=
  if s.isOn "nullable" || s.isOn "optional" then
    v.withFlags ⟨s.isOn "nullable", s.isOn "optional"⟩
  else v

def nodeOf [Environment] (s : Settings) (path : String) : Run Validator := do
  requireShowable [s.value "type"]
  match NodeType.ofName? s.typeName with
  | none => reject (.unknownType path s.typeName)
  | some type => do
    let v ← coreNode type s path
    log .debug ("Built " ++ s.typeName ++ " validator at " ++ path)
    let constraints ← constraintsOf s path
    let v ← constrained path s.typeName v constraints
    .done (flagged s (explained s v))

/-- What a value that is no map means as a node. -/
def notNode (x : Value) (path : String) : Run Validator := reject (.notMap path x.kind)

mutual

def part [Environment] : Value → Part
  | .map entries => ⟨.map entries, nodeOf (settingsOf entries), [], settingsOf entries⟩
  | .list items => ⟨.list items, notNode (.list items), parts items, []⟩
  | x => ⟨x, notNode x, [], []⟩

def parts [Environment] : List Value → List Part
  | [] => []
  | x :: xs => part x :: parts xs

def settingsOf [Environment] : List (Value × Value) → Settings
  | [] => []
  | (key, x) :: rest => (key, part x) :: settingsOf rest

end

@[simp] theorem value_part [Environment] (x : Value) : (part x).value = x := by cases x <;> rfl

end Conform.Definition
