import Conform.Yaml.Token

/-
  Documents: the tree of lists, maps and scalars that tokens spell. A text holds at most one
  document. Reading stops at the first token that cannot stand where it does, and at a flaw in
  the text with the problem that it has.
-/

namespace Conform.Yaml

/-- A part of a document. -/
inductive Node where
  | scalar (text : String) (plain : Bool)
  | list (items : List Node)
  | map (entries : List (Node × Node))
deriving Repr, Inhabited

/-- The part that stands where nothing is written. -/
def Node.nothing : Node := .scalar "" true

/-- The problem with the first token, which cannot stand where it does. -/
def misplaced {α : Type} : List Token → Except Problem α
  | .flaw problem :: _ => .error problem
  | _ => .error .malformed

def endsBlockPart (t : Token) : Bool := t == .key || t == .value || t == .blockEnd

mutual

/-- The part that starts with the first token, and the rest. Without `block`, only parts in
brackets and scalars are allowed; with `bareList`, a block list need not be indented. -/
def readNode : Nat → Bool → Bool → List Token → Except Problem (Node × List Token)
  | 0, _, _, tokens => misplaced tokens
  | fuel + 1, block, bareList, tokens =>
    match tokens with
    | .scalar text plain :: rest => .ok (.scalar text plain, rest)
    | .openList :: rest => do
      let (items, rest) ← readFlowItems fuel true rest
      pure (.list items, rest)
    | .openMap :: rest => do
      let (entries, rest) ← readFlowEntries fuel true rest
      pure (.map entries, rest)
    | .blockList :: rest =>
      if block then do
        let (items, rest) ← readBlockItems fuel rest
        pure (.list items, rest)
      else misplaced tokens
    | .blockMap :: rest =>
      if block then do
        let (entries, rest) ← readBlockEntries fuel rest
        pure (.map entries, rest)
      else misplaced tokens
    | .entry :: rest =>
      if bareList then do
        let (items, rest) ← readBareItems fuel (.entry :: rest)
        pure (.list items, rest)
      else misplaced tokens
    | _ => misplaced tokens

/-- The items of an indented block list up to its end. -/
def readBlockItems : Nat → List Token → Except Problem (List Node × List Token)
  | 0, tokens => misplaced tokens
  | fuel + 1, tokens =>
    match tokens with
    | .blockEnd :: rest => .ok ([], rest)
    | .entry :: rest => do
      let isEmpty := rest.head?.any fun t => t == .entry || t == .blockEnd
      let (item, rest) ←
        if isEmpty then .ok (Node.nothing, rest) else readNode fuel true false rest
      let (items, rest) ← readBlockItems fuel rest
      pure (item :: items, rest)
    | _ => misplaced tokens

/-- The items of a block list that is not indented. It ends where no hyphen follows. -/
def readBareItems : Nat → List Token → Except Problem (List Node × List Token)
  | 0, tokens => misplaced tokens
  | fuel + 1, tokens =>
    match tokens with
    | .entry :: rest => do
      let isEmpty := rest.head?.any fun t => t == .entry || endsBlockPart t
      let (item, rest) ←
        if isEmpty then .ok (Node.nothing, rest) else readNode fuel true false rest
      let (items, rest) ← readBareItems fuel rest
      pure (item :: items, rest)
    | rest => .ok ([], rest)

/-- A key or a value of a block map after its mark. -/
def readBlockPart : Nat → List Token → Except Problem (Node × List Token)
  | 0, tokens => misplaced tokens
  | fuel + 1, tokens =>
    if tokens.head?.any endsBlockPart then .ok (Node.nothing, tokens)
    else readNode fuel true true tokens

/-- The entries of a block map up to its end. -/
def readBlockEntries : Nat → List Token → Except Problem (List (Node × Node) × List Token)
  | 0, tokens => misplaced tokens
  | fuel + 1, tokens =>
    match tokens with
    | .blockEnd :: rest => .ok ([], rest)
    | .key :: rest => do
      let (key, rest) ← readBlockPart fuel rest
      let (value, rest) ← match rest with
        | .value :: rest => readBlockPart fuel rest
        | rest => .ok (Node.nothing, rest)
      let (entries, rest) ← readBlockEntries fuel rest
      pure ((key, value) :: entries, rest)
    | _ => misplaced tokens

/-- The items of a list in brackets up to its end. -/
def readFlowItems : Nat → Bool → List Token → Except Problem (List Node × List Token)
  | 0, _, tokens => misplaced tokens
  | fuel + 1, isFirst, tokens =>
    match tokens with
    | .closeList :: rest => .ok ([], rest)
    | tokens => do
      let tokens ← if isFirst then pure tokens else match tokens with
        | .comma :: rest => pure rest
        | _ => misplaced tokens
      match tokens with
      | .closeList :: rest => pure ([], rest)
      | .key :: rest => do
        let ends (t : Token) : Bool := t == .comma || t == .closeList
        let (key, rest) ← if rest.head?.any fun t => t == .value || ends t
          then .ok (Node.nothing, rest) else readNode fuel false false rest
        let (value, rest) ← match rest with
          | .value :: rest => if rest.head?.any ends
            then .ok (Node.nothing, rest) else readNode fuel false false rest
          | rest => .ok (Node.nothing, rest)
        let (items, rest) ← readFlowItems fuel false rest
        pure (.map [(key, value)] :: items, rest)
      | tokens => do
        let (item, rest) ← readNode fuel false false tokens
        let (items, rest) ← readFlowItems fuel false rest
        pure (item :: items, rest)

/-- The entries of a map in braces up to its end. -/
def readFlowEntries : Nat → Bool → List Token → Except Problem (List (Node × Node) × List Token)
  | 0, _, tokens => misplaced tokens
  | fuel + 1, isFirst, tokens =>
    match tokens with
    | .closeMap :: rest => .ok ([], rest)
    | tokens => do
      let tokens ← if isFirst then pure tokens else match tokens with
        | .comma :: rest => pure rest
        | _ => misplaced tokens
      match tokens with
      | .closeMap :: rest => pure ([], rest)
      | .key :: rest => do
        let ends (t : Token) : Bool := t == .comma || t == .closeMap
        let (key, rest) ← if rest.head?.any fun t => t == .value || ends t
          then .ok (Node.nothing, rest) else readNode fuel false false rest
        let (value, rest) ← match rest with
          | .value :: rest => if rest.head?.any ends
            then .ok (Node.nothing, rest) else readNode fuel false false rest
          | rest => .ok (Node.nothing, rest)
        let (entries, rest) ← readFlowEntries fuel false rest
        pure ((key, value) :: entries, rest)
      | tokens => do
        let (key, rest) ← readNode fuel false false tokens
        let (entries, rest) ← readFlowEntries fuel false rest
        pure ((key, Node.nothing) :: entries, rest)

end

/-- The problem with what follows a document, if anything but marks for its end does. -/
def checkEnd (tokens : List Token) : Except Problem Unit :=
  match tokens.dropWhile (· == .documentEnd) with
  | [] => .ok ()
  | rest => misplaced rest

/-- The document that tokens spell; none if the tokens hold nothing. -/
def Node.ofTokens (tokens : List Token) : Except Problem (Option Node) := do
  match tokens with
  | [] => pure none
  | .documentStart :: rest =>
    if rest.head?.all fun t => t == .documentStart || t == .documentEnd then
      checkEnd rest
      pure (some Node.nothing)
    else
      let (node, rest) ← readNode (2 * tokens.length + 2) true false rest
      checkEnd rest
      pure (some node)
  | tokens =>
    let (node, rest) ← readNode (2 * tokens.length + 2) true false tokens
    checkEnd rest
    pure (some node)

end Conform.Yaml
