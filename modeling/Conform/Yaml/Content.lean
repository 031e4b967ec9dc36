import Conform.Value.Entries
import Conform.Yaml.Document
import Conform.Yaml.Scalar

/-
  The content of documents: the parts with the value of every scalar, and maps with the entries
  that they take from others. `read` gives the value of the document in a text. When several parts
  of it have problems, the one with the fewest lists and maps around it is reported.
-/

namespace Conform.Yaml

/-! ## Maps that take entries from others -/

/-- What a part of a document holds. The key of an entry can only be a scalar. -/
inductive Content where
  | scalar (value : Except Problem Value)
  | list (items : List Content)
  | map (entries : List (Except Problem Value × Content))
  /-- A map that was to take entries from something that has none. -/
  | unmergeable

namespace Content

/-- The entries that a map can take from a part: those of a map, or of the maps in a list, the last
one first. -/
def merged? : Content → Option (List (Except Problem Value × Content))
  | .map entries => some entries
  | .list items => do
    let maps ← items.mapM fun item => match item with
      | .map entries => some entries
      | _ => none
    pure maps.reverse.flatten
  | _ => none

end Content

namespace Node

/-- Whether the key stands for the entries of the part under it. -/
def isMergeKey : Node → Bool
  | .scalar text plain => plain && text == "<<"
  | _ => false

/-- The value of a key. The mark for a default value is a text there. -/
def keyValue : Node → Except Problem Value
  | .scalar text plain => if plain && text != "=" then scalarValue text else .ok (.str text)
  | _ => .error .malformed

/-- The content of a map: first the entries that it takes from others, then its own. -/
def mapContent (entries : List (Node × Content)) : Content :=
  let taken := entries.filter fun entry => entry.1.isMergeKey
  let own := entries.filter fun entry => !entry.1.isMergeKey
  match taken.mapM fun entry => entry.2.merged? with
  | some lists => .map (lists.flatten ++ own.map fun entry => (entry.1.keyValue, entry.2))
  | none => .unmergeable

mutual

def content : Node → Content
  | .scalar text plain => .scalar (if plain then scalarValue text else .ok (.str text))
  | .list items => .list (contents items)
  | .map entries => mapContent (entryContents entries)

def contents : List Node → List Content
  | [] => []
  | item :: rest => item.content :: contents rest

def entryContents : List (Node × Node) → List (Node × Content)
  | [] => []
  | (key, item) :: rest => (key, item.content) :: entryContents rest

end
end Node

/-! ## Values -/

/-- A problem with the number of lists and maps around it. -/
structure Flaw where
  depth : Nat
  problem : Problem
deriving Repr

namespace Flaw

/-- The flaw of a part as one of the list or map that holds the part. -/
def within (f : Flaw) : Flaw := { f with depth := f.depth + 1 }

/-- Two results together. Of two flaws the one with fewer lists and maps around it counts, or else
the first one. -/
def both {α β : Type} : Except Flaw α → Except Flaw β → Except Flaw (α × β)
  | .ok x, .ok y => .ok (x, y)
  | .ok _, .error g => .error g
  | .error f, .ok _ => .error f
  | .error f, .error g => .error (if g.depth < f.depth then g else f)

end Flaw

/-- Whether two keys are one key of a document. Unlike elsewhere, keys that are no number are
one. -/
def isSameKey (a b : Value) : Bool :=
  match a, b with
  | .float .nan, .float .nan => true
  | _, _ => a.equals b

namespace Content

mutual

/-- The value of a part. -/
def read : Content → Except Flaw Value
  | .scalar value => value.mapError (Flaw.mk 0)
  | .list items => ((readItems items).mapError Flaw.within).map .list
  | .map entries => ((readEntries entries).mapError Flaw.within).map fun pairs =>
    .map (Entries.ofPairsBy isSameKey pairs)
  | .unmergeable => .error ⟨1, .malformed⟩

def readItems : List Content → Except Flaw (List Value)
  | [] => .ok []
  | item :: rest => (Flaw.both item.read (readItems rest)).map fun (x, xs) => x :: xs

def readEntries : List (Except Problem Value × Content) → Except Flaw (List (Value × Value))
  | [] => .ok []
  | (key, item) :: rest =>
    (Flaw.both (Flaw.both (key.mapError (Flaw.mk 0)) item.read) (readEntries rest)).map
      fun (pair, pairs) => pair :: pairs

end
end Content

/-- The value of the document in a text; the absent value if it holds none. -/
def read (text : String) : Except Problem Value :=
  match Node.ofTokens (Token.ofText text) with
  | .error problem => .error problem
  | .ok none => .ok .null
  | .ok (some node) => node.content.read.mapError Flaw.problem

end Conform.Yaml
