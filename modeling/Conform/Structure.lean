import Conform.Predicate.Catalogue

/-
  Maps and lists: schemas for the fields of a map, validators for the items of a list, and parts
  of a map in place of the whole. What is wrong with a part is reported with its place.
-/

namespace Conform

/-- Validators for the keys of a map. -/
abbrev Schema := List (Value × Validator)

namespace Schema

/-- The schema with the validator set for the key: in its place if the key is there, else last. -/
def insert : Schema → Value → Validator → Schema
  | [], key, v => [(key, v)]
  | entry :: rest, key, v =>
    if key.equals entry.1 then (entry.1, v) :: rest else entry :: insert rest key v

/-- The schema that results from setting all pairs in order. -/
def ofPairs (pairs : List (Value × Validator)) : Schema :=
  pairs.foldl (fun schema pair => insert schema pair.1 pair.2) []

def keys (schema : Schema) : List Value := schema.map (·.1)

end Schema

namespace Validator

/-- The value is a map whose fields pass their validators. Other keys do not matter. -/
def mapOf (schema : Schema) (message : Option Value) : Validator :=
  and (isMap none) (.fields schema message {})

/-- What is wrong with keys that are not declared: the message that was given, or else one that
names them, all of which must then be ones that can be shown. -/
def unknownKeysMessage (message : Option Value) (unknown : List Value) : Except Fault Value :=
  match replacing? message with
  | some text => .ok text
  | none =>
    if unknown.all Value.isShowable then
      .ok (.str ("has unknown keys: " ++ Text.joinWith ", " (unknown.map Value.display)))
    else .error .tooManyDigits

/-- The expectation of a map that has no keys but the declared ones. -/
def unknownKeys (message x : Value) (unknown : List Value) : Expectation :=
  { message := message
    value := x
    code := some Code.unknownKey.text
    data := some [("keys", .list unknown)] }

/-- The keys of a map that are not declared, in order. -/
def undeclared (declared : List Value) (entries : Entries) : List Value :=
  (entries.map (·.1)).filter fun key => !key.isAmong declared

/-- The map has no keys but the declared ones. -/
def onlyKeys (declared : List Value) (message : Option Value) : Validator :=
  .function "unknown_keys" (fun x => match x with
    | .map entries => match undeclared declared entries with
      | [] => .done (.success x)
      | unknown => do
        let text ← Run.ofExcept (unknownKeysMessage message unknown)
        .done (.refusal x (unknownKeys text x unknown))
    | _ => .raised .wrongType) none {}

/-- The value is a map whose fields pass their validators and that has no other keys. -/
def strictMapOf (schema : Schema) (message : Option Value) : Validator :=
  and (mapOf schema none) (onlyKeys schema.keys message)

/-- The value is a list with one item for each validator, which accepts it. -/
def listOf (vs : List Validator) : Validator :=
  and (and (isList none) (length [isEqual (.int vs.length) none] none)) (.listPlaces vs {})

/-- The value is a list whose items all pass the validator. -/
def listEach (v : Validator) (message : Option Value) : Validator :=
  and (isList none) (.listItems v message {})

/-- The value is a map, and what it has under a key passes the validator. The map is kept. -/
def getField (key : Value) (v : Validator) : Validator :=
  and (and (isMap none) (containsKey key none)) (.member key v {})

/-- The value is a map that passes the validator listed for what it has under a key. -/
def switchBy (key : Value) (cases : Schema) : Validator :=
  and (and (isMap none)
    (containsKey key (some (.str ("Missing key: \"" ++ key.display ++ "\"")))))
    (.dispatch key cases {})

/-! ## Parts in place of the whole -/

/-- The map with only the given keys, in their order. -/
def pick (keys : List Value) (x : Value) : Except Fault (Option Value) :=
  match x with
  | .map entries => .ok (some (.map (Entries.ofPairs (keys.filterMap fun key =>
      (Entries.find? entries key).map fun y => (key, y)))))
  | _ => .ok none

/-- The validator on the map with only the given keys, in their order. -/
def pickKeys (keys : List String) (v : Validator) : Validator :=
  .pivot (pick (keys.map .str)) ("a dict containing keys: " ++ Text.joinWith ", " keys) v {}

/-- The validator on the map with only the given keys, which must be texts. -/
def pickValues (keys : List Value) (v : Validator) : Except Fault Validator :=
  match texts? keys with
  | some texts => .ok (pickKeys texts v)
  | none => .error .wrongType

/-- What a map has under a key. -/
def pluck (key x : Value) : Except Fault (Option Value) :=
  match x with
  | .map entries =>
    if key.isHashable then .ok (Entries.find? entries key) else .error .wrongType
  | _ => .ok none

/-- The validator on what the map has under a key. -/
def pluckKey (key : Value) (v : Validator) : Validator :=
  .pivot (pluck key) ("a dict containing key: " ++ key.display) v {}

/-- The path of a key below a path; there is no delimiter after an empty path. -/
def pathBelow (delimiter path : String) (key : Value) : String :=
  if path == "" then key.display else path ++ delimiter ++ key.display

mutual

/-- The entry of a value that is no map, or the entries of a map, under joined keys. -/
def flattenEntry (delimiter path : String) : Value → List (Value × Value)
  | .map entries => flattenEntries delimiter path entries
  | x => [(.str path, x)]

/-- The entries of a map under joined keys, depth first. -/
def flattenEntries (delimiter path : String) : List (Value × Value) → List (Value × Value)
  | [] => []
  | (key, x) :: rest =>
    flattenEntry delimiter (pathBelow delimiter path key) x
      ++ flattenEntries delimiter path rest

end

mutual

/-- Whether the keys of all maps on the way to the entries of a flattened value can be shown. -/
def showsKeys : Value → Bool
  | .map entries => showsEntryKeys entries
  | _ => true

/-- Whether the keys of a map, and those of the maps in it, can be shown. -/
def showsEntryKeys : List (Value × Value) → Bool
  | [] => true
  | (key, x) :: rest => key.isShowable && showsKeys x && showsEntryKeys rest

end

/-- The map with the entries of nested maps under joined keys, which must be ones that can be
shown. -/
def flatten (delimiter : String) (x : Value) : Except Fault (Option Value) :=
  match x with
  | .map entries =>
    if showsEntryKeys entries then
      .ok (some (.map (Entries.ofPairs (flattenEntries delimiter "" entries))))
    else .error .tooManyDigits
  | _ => .ok none

/-- The validator on the map with the entries of nested maps under joined keys. -/
def flattenKeys (delimiter : String) (v : Validator) : Validator :=
  .pivot (flatten delimiter) "a dict that can be flattened" v {}

end Validator
end Conform
