import Conform.Pattern.Basic

/-
  Where patterns match. A pattern is tried at a place together with what has to be done behind it:
  the choices that it leaves open are taken in their order, the next one only if what follows fails
  behind those before it. So the order decides what groups remember, and which piece an atomic
  pattern stays with. A pattern occurs in a text if it matches at some place.
-/

namespace Conform.Pattern

open Text

/-- What a group remembers: where its piece starts and where it stops. A group that has been
entered and not been left has no stop, or the one of the time before. -/
structure Capture where
  start : Nat
  stop : Option Nat

/-- A place in a text: its index, the text before it with the last character first, the text after
it, and what the groups with these numbers remember. -/
structure Place where
  index : Nat
  before : List Char
  rest : List Char
  captures : List (Nat × Capture) := []

/-- What has to be done from a place: it leads to another one, or fails. -/
abbrev Onward := Place → Option Place

/-- What a pattern does at a place with what has to be done behind it. -/
abbrev Step := Place → Onward → Option Place

namespace Place

def start (text : List Char) : Place := { index := 0, before := [], rest := text }

def next? (place : Place) : Option (Char × Place) :=
  match place.rest with
  | [] => none
  | c :: rest =>
    some (c, { place with index := place.index + 1, before := c :: place.before, rest })

/-- The place so many characters earlier. -/
def back? (width : Nat) (place : Place) : Option Place :=
  let piece := place.before.take width
  if piece.length = width then
    some { place with
      index := place.index - width
      before := place.before.drop width
      rest := piece.reverse ++ place.rest }
  else none

/-- Whether a word starts or ends here. -/
def isWordEdge (ascii : Bool) (place : Place) : Bool :=
  place.before.head?.any (CharKind.word.holds ascii)
    != place.rest.head?.any (CharKind.word.holds ascii)

/-- The place with a group entered here. -/
def enter (number : Nat) (place : Place) : Place :=
  let stop := (place.captures.lookup number).bind Capture.stop
  { place with
    captures := (number, ⟨place.index, stop⟩) :: place.captures.filter (·.1 != number) }

/-- The place with a group left here. -/
def leave (number : Nat) (place : Place) : Place :=
  { place with
    captures := place.captures.map fun (other, capture) =>
      (other, if other = number then { capture with stop := some place.index } else capture) }

/-- The piece that a group remembers. -/
def piece? (number : Nat) (place : Place) : Option (List Char) :=
  match place.captures.lookup number with
  | some ⟨start, some stop⟩ =>
    if start ≤ stop then
      some (((place.before.reverse ++ place.rest).drop start).take (stop - start))
    else none
  | _ => none

end Place

/-- Goes on behind the next character, if the character is as required. -/
def stepIf (accepts : Char → Bool) : Step := fun place onward =>
  match place.next? with
  | some (c, after) => if accepts c then onward after else none
  | none => none

/-- Goes on from the place itself, if a condition holds. -/
def stayIf (condition : Place → Bool) : Step := fun place onward =>
  if condition place then onward place else none

/-- Goes on behind the given characters, one after another. -/
def stepOver (casing : Casing) : List Char → Step
  | [] => fun place onward => onward place
  | c :: piece => fun place onward =>
    stepIf (fun d => casing.small c == casing.small d) place fun next =>
      stepOver casing piece next onward

/-- Goes on from the place itself, if something is found, or if nothing is. What the groups
remember of what is found stays. -/
def look (negated : Bool) (place : Place) (found : Option Place) (onward : Onward) :
    Option Place :=
  match found with
  | some found => if negated then none else onward { place with captures := found.captures }
  | none => if negated then onward place else none

/-- Exactly the given number of steps. -/
def times (step : Step) : Nat → Step
  | 0 => fun place onward => onward place
  | count + 1 => fun place onward => step place fun next => times step count next onward

/-- Any number of steps up to a limit, as many as lead on or as few. `last` is where the step before
started: behind one that stayed there no other is tried. -/
def further (step : Step) (few : Bool) : Nat → Option Nat → Step
  | 0, _ => fun place onward => onward place
  | limit + 1, last => fun place onward =>
    let more := fun (_ : Unit) => step place fun next =>
      further step few limit (some place.index) next onward
    if last = some place.index then onward place
    else if few then (onward place).orElse more
    else (more ()).orElse fun _ => onward place

/-- The number of steps that a repetition can go on for behind the least number of them: all but the
last one use up a character. -/
def stepLimit (least : Nat) (most : Option Nat) (place : Place) : Nat :=
  match most with
  | some n => min (n - least) (place.rest.length + 1)
  | none => place.rest.length + 1

/-- The place where everything is done that has to be done behind a piece, the pieces that start at
the place and are described by the pattern being tried in their order. -/
def run : Pattern → Step
  | .empty => fun place onward => onward place
  | .char casing c => stepIf fun d => casing.same c d
  | .any breaks => stepIf fun c => breaks || c != '\n'
  | .oneOf casing negated items => stepIf (classHolds casing negated items)
  | .lineStart everyLine => stayIf fun place =>
    place.before.isEmpty || (everyLine && place.before.head? == some '\n')
  | .lineEnd everyLine => stayIf fun place =>
    place.rest.isEmpty || place.rest == ['\n'] || (everyLine && place.rest.head? == some '\n')
  | .textStart => stayIf fun place => place.before.isEmpty
  | .textEnd => stayIf fun place => place.rest.isEmpty
  | .wordEdge ascii negated => stayIf fun place =>
    place.isWordEdge ascii != negated && !(place.before.isEmpty && place.rest.isEmpty)
  | .sequence p q => fun place onward => p.run place fun next => q.run next onward
  | .choice p q => fun place onward => (p.run place onward).orElse fun _ => q.run place onward
  | .repeated p least most few => fun place onward =>
    times p.run least place fun next =>
      further p.run few (stepLimit least most next) none next onward
  | .group number p => fun place onward =>
    p.run (place.enter number) fun next => onward (next.leave number)
  | .again casing number => fun place onward =>
    match place.piece? number with
    | some piece => stepOver casing piece place onward
    | none => none
  | .atomic p => fun place onward => (p.run place some).bind onward
  | .ahead negated p => fun place onward => look negated place (p.run place some) onward
  | .behind negated width p => fun place onward =>
    look negated place ((place.back? width).bind fun earlier => p.run earlier some) onward
  | .ifGroup number p q => fun place onward =>
    if (place.piece? number).isSome then p.run place onward else q.run place onward

/-- Whether a piece that starts at the place, or at a later one, is described by the pattern;
`before` is the text before the place, last character first, and `rest` the text after it. -/
def occursFrom (p : Pattern) (index : Nat) (before : List Char) : List Char → Bool
  | [] => (p.run { index, before, rest := [] } some).isSome
  | c :: rest =>
    (p.run { index, before, rest := c :: rest } some).isSome ||
      occursFrom p (index + 1) (c :: before) rest

/-- Whether a piece at the start of the text is described by the pattern. -/
def matchesStart (p : Pattern) (text : List Char) : Bool := (p.run (.start text) some).isSome

/-- Whether some piece of the text is described by the pattern. -/
def occursIn (p : Pattern) (text : String) : Bool := p.occursFrom 0 [] text.toList

end Conform.Pattern
