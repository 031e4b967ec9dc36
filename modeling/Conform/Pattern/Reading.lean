import Conform.Binary64.Reading
import Conform.Pattern.Escape
import Conform.Text.Identifier

/-
  What is known while a pattern is read from its written form: the groups so far and the flags of
  the whole pattern. What can stand behind an opening parenthesis or repeat a part is read here,
  and what is asked of groups is checked.
-/

namespace Conform.Pattern

open Text

/-- Why a text is no pattern. -/
inductive Problem where
  /-- The form is broken. -/
  | malformed
  /-- A bound of repetition is too large. -/
  | tooOften
  /-- A bound of repetition has too many digits. -/
  | tooManyDigits (count : Nat)
  /-- The flags of the whole pattern ask for two alphabets. -/
  | twoAlphabets
deriving DecidableEq, Repr

/-- What was read, if the form is not broken. -/
def wellFormed {α : Type} : Option α → Except Problem α
  | some a => .ok a
  | none => .error .malformed

/-! ## Widths -/

/-- The least and the greatest length of the pieces that a pattern describes. -/
structure Width where
  least : Nat := 0
  most : Option Nat := some 0

namespace Width

def plus (v w : Width) : Width :=
  ⟨v.least + w.least, do return (← v.most) + (← w.most)⟩

def either (v w : Width) : Width :=
  ⟨min v.least w.least, do return max (← v.most) (← w.most)⟩

def repeated (least : Nat) (most : Option Nat) (w : Width) : Width where
  least := w.least * least
  most := match w.most, most with
    | some 0, _ => some 0
    | _, some 0 => some 0
    | some n, some m => some (n * m)
    | _, _ => none

/-- The length from which on nothing can be looked behind for. -/
def tooFar : Nat := Nat.pow 2 32

/-- The length of all pieces, if they are of one length that is not too large. -/
def fixed? (w : Width) : Option Nat :=
  if w.most = some w.least ∧ w.least < tooFar then some w.least else none

end Width

/-- The name of a group, if it has one, and the width of its pieces once it is closed. -/
structure Group where
  name : Option String
  width : Option Width := none

/-- The width of the pieces that the pattern describes, the groups before it being given. -/
def width (groups : List Group) : Pattern → Width
  | .empty | .lineStart _ | .lineEnd _ | .textStart | .textEnd | .wordEdge _ _ => {}
  | .char _ _ | .any _ | .oneOf _ _ _ => ⟨1, some 1⟩
  | .sequence p q => (p.width groups).plus (q.width groups)
  | .choice p q | .ifGroup _ p q => (p.width groups).either (q.width groups)
  | .repeated p least most _ => (p.width groups).repeated least most
  | .group _ p | .atomic p => p.width groups
  | .again _ number => ((groups[number - 1]?).bind Group.width).getD {}
  | .ahead _ _ | .behind _ _ _ => {}

/-! ## The part that was read -/

/-- What is known from the part of the pattern that was read. -/
structure Reading where
  /-- The groups in the order in which they are opened. -/
  groups : List Group := []
  /-- The flags of the whole pattern. -/
  mode : Mode := {}
  /-- The letters of these flags. -/
  flags : List Char := []
  /-- Where something is looked behind for, the number of groups that were opened before. -/
  before : Option Nat := none
  /-- The greatest number of a group that a condition asks for. -/
  asked : Nat := 0
  /-- Whether anything is repeated. -/
  repeats : Bool := false
  /-- Whether everything that is looked behind for has one length. -/
  isFixed : Bool := true

namespace Reading

def isClosed (reading : Reading) (number : Nat) : Bool :=
  0 < number && (reading.groups[number - 1]?).any (·.width.isSome)

/-- Whether the group may be asked for if something is looked behind for: it must have been closed
before that. -/
def mayAsk (reading : Reading) (number : Nat) : Bool :=
  reading.before.all fun count => reading.isClosed number && number ≤ count

def numberOf? (reading : Reading) (name : List Char) : Option Nat :=
  let index := reading.groups.findIdx (·.name == some (String.ofList name))
  if index < reading.groups.length then some (index + 1) else none

/-- The reference to a group, which must be closed. -/
def refer? (reading : Reading) (mode : Mode) (number : Nat) : Option Term :=
  if reading.isClosed number && reading.mayAsk number then
    some ⟨.again mode.casing number, .piece⟩
  else none

/-- The number from which on there are no groups. -/
def groupLimit : Nat := Nat.pow 2 30 - 1

/-- The group that a condition names or gives the number of. -/
def conditionOf? (reading : Reading) (text : List Char) : Option Nat :=
  if isIdentifier text then reading.numberOf? text
  else
    match Numeral.wholeNumber? text with
    | some (negative, digits) =>
      let number := numberOf 10 digits
      if maxDigits < digits.length || negative || number = 0 || groupLimit ≤ number then none
      else some number
    | none => none

/-- What is known behind a condition, whose group may be opened later. -/
def ask? (reading : Reading) (number : Nat) : Option Reading :=
  if reading.mayAsk number then some { reading with asked := max reading.asked number } else none

def openGroup? (reading : Reading) (name : Option String) : Option Reading :=
  if name.isSome && reading.groups.any (·.name == name) then none
  else some { reading with groups := reading.groups ++ [{ name }] }

def closeGroup (reading : Reading) (number : Nat) (p : Pattern) : Reading :=
  { reading with groups := reading.groups.modify (number - 1) fun group =>
      { group with width := some (p.width reading.groups) } }

/-- Why a pattern is none that has been read up to the rest of its text. -/
def problem? (reading : Reading) (rest : List Char) : Option Problem :=
  if reading.flags.contains 'a' && reading.flags.contains 'u' then some .twoAlphabets
  else if !rest.isEmpty || reading.groups.length < reading.asked || !reading.isFixed
      || (reading.flags.contains 't' && reading.repeats) then some .malformed
  else none

end Reading

/-! ## Flags -/

def Mode.switch (on : Bool) (mode : Mode) (letter : Char) : Mode :=
  match letter with
  | 'i' => { mode with ignoreCase := on }
  | 'm' => { mode with everyLine := on }
  | 's' => { mode with breaks := on }
  | 'x' => { mode with spaced := on }
  | 'a' => { mode with ascii := true }
  | 'u' => { mode with ascii := false }
  | _ => mode

/-- The mode with some flags switched on and others off. -/
def Mode.set (on off : List Char) (mode : Mode) : Mode :=
  off.foldl (Mode.switch false) (on.foldl (Mode.switch true) mode)

def Reading.setFlags (on : List Char) (reading : Reading) : Reading :=
  { reading with mode := reading.mode.set on [], flags := reading.flags ++ on }

/-! ## Openings -/

/-- A group by what is meant by its contents. -/
inductive GroupKind where
  /-- The piece is remembered, perhaps under a name. -/
  | capture (name : Option String)
  /-- Flags are switched on and off. -/
  | scope (on off : List Char)
  | atomic
  | look (behind negated : Bool)

/-- What an opening parenthesis starts. -/
inductive Opening where
  | comment
  /-- Flags for the whole pattern. -/
  | flags (on : List Char)
  | again (name : List Char)
  /-- One pattern or another one. -/
  | condition (text : List Char)
  | group (kind : GroupKind)

/-- The characters up to a closing mark, and the rest. -/
def takeUntil (mark : Char) (text : List Char) : Option (List Char × List Char) :=
  match text.span (· != mark) with
  | ([], _) => none
  | (inside, _ :: rest) => some (inside, rest)
  | _ => none

/-- The text from the mark on that ends a comment, which an escaped one does not, or its end. -/
def afterComment (mark : Char) : List Char → List Char
  | [] => []
  | ['\\'] => ['\\']
  | '\\' :: _ :: rest => afterComment mark rest
  | c :: rest => if c = mark then c :: rest else afterComment mark rest

/-- Flags and what ends them: they hold for the whole pattern or for a group. Those for the
alphabets cannot be switched off. -/
def readFlags (text : List Char) : Option (Opening × List Char) :=
  let (on, rest) := text.span "imsxaut".toList.contains
  let isSound := !(on.contains 'a' && on.contains 'u')
  match rest with
  | ')' :: rest => if isSound && !on.isEmpty then some (.flags on, rest) else none
  | ':' :: rest =>
    if isSound && !on.isEmpty && !on.contains 't' then some (.group (.scope on []), rest) else none
  | '-' :: rest =>
    let (off, rest) := rest.span "imsx".toList.contains
    match rest with
    | ':' :: rest =>
      if isSound && !on.contains 't' && !off.isEmpty && !off.any on.contains then
        some (.group (.scope on off), rest)
      else none
    | _ => none
  | _ => none

/-- What is started by an opening parenthesis in front of the text, and the rest. -/
def readOpening (text : List Char) : Option (Opening × List Char) :=
  match text with
  | '?' :: 'P' :: '<' :: rest => do
    let (name, rest) ← takeUntil '>' rest
    if isIdentifier name then pure (.group (.capture (some (String.ofList name))), rest) else none
  | '?' :: 'P' :: '=' :: rest => do
    let (name, rest) ← takeUntil ')' rest
    if isIdentifier name then pure (.again name, rest) else none
  | '?' :: '#' :: rest =>
    match afterComment ')' rest with
    | ')' :: rest => some (.comment, rest)
    | _ => none
  | '?' :: ':' :: rest => some (.group (.scope [] []), rest)
  | '?' :: '>' :: rest => some (.group .atomic, rest)
  | '?' :: '=' :: rest => some (.group (.look false false), rest)
  | '?' :: '!' :: rest => some (.group (.look false true), rest)
  | '?' :: '<' :: '=' :: rest => some (.group (.look true false), rest)
  | '?' :: '<' :: '!' :: rest => some (.group (.look true true), rest)
  | '?' :: '(' :: rest => do
    let (name, rest) ← takeUntil ')' rest
    pure (.condition name, rest)
  | '?' :: rest => readFlags rest
  | rest => some (.group (.capture none), rest)

/-! ## Groups -/

/-- The flags that hold in a group. -/
def GroupKind.mode (mode : Mode) : GroupKind → Mode
  | .scope on off => mode.set on off
  | _ => mode

/-- What is known at the start of a group. -/
def GroupKind.enter? (reading : Reading) : GroupKind → Option Reading
  | .capture name => reading.openGroup? name
  | .look true _ =>
    some { reading with before := some (reading.before.getD reading.groups.length) }
  | _ => some reading

/-- The term that a group with the contents is, and what is known behind it; `outside` is what was
known in front of it, and `reading` at the end of its contents. -/
def GroupKind.leave (outside reading : Reading) (p : Pattern) : GroupKind → Term × Reading
  | .capture _ =>
    let number := outside.groups.length + 1
    (⟨.group number p, .piece⟩, reading.closeGroup number p)
  | .scope _ _ => (⟨p, .piece⟩, reading)
  | .atomic => (⟨.atomic p, .piece⟩, reading)
  | .look false negated => (⟨.ahead negated p, .piece⟩, reading)
  | .look true negated =>
    let width := (p.width reading.groups).fixed?
    (⟨.behind negated (width.getD 0) p, .piece⟩,
      { reading with before := outside.before, isFixed := reading.isFixed && width.isSome })

/-! ## Repetitions -/

/-- Bounds of repetition. -/
structure Count where
  least : Nat
  most : Option Nat

/-- The number from which on a piece cannot be asked to repeat. -/
def repeatLimit : Nat := Nat.pow 2 32 - 1

/-- The bound that digits spell, if there are some. -/
def boundOf (digits : List Char) : Except Problem (Option Nat) :=
  if digits.isEmpty then .ok none
  else if maxDigits < digits.length then .error (.tooManyDigits digits.length)
  else
    let bound := numberOf 10 (digits.map fun c => c.toNat - 0x30)
    if repeatLimit ≤ bound then .error .tooOften else .ok (some bound)

/-- The bounds that the digits before and after the comma spell. -/
def countOf (least most : List Char) : Except Problem Count := do
  let least ← boundOf least
  let most ← boundOf most
  pure ⟨least.getD 0, most⟩

/-- Bounds of repetition after an opening brace, and the rest. Anything else makes the brace an
ordinary character. A backslash that ends the text behind them breaks the form first. -/
def takeBounds (text : List Char) : Option (Except Problem Count × List Char) :=
  let closed := fun (least most rest : List Char) =>
    some (if rest = ['\\'] then .error .malformed else countOf least most, rest)
  match text with
  | '\x7d' :: _ => none
  | text =>
    let (least, rest) := text.span Char.isDigit
    match rest with
    | ',' :: rest =>
      let (most, rest) := rest.span Char.isDigit
      match rest with
      | '\x7d' :: rest => closed least most rest
      | _ => none
    | '\x7d' :: rest => closed least least rest
    | _ => none

def takeQuantifier (text : List Char) : Option (Except Problem Count × List Char) :=
  match text with
  | '?' :: rest => some (.ok ⟨0, some 1⟩, rest)
  | '*' :: rest => some (.ok ⟨0, none⟩, rest)
  | '+' :: rest => some (.ok ⟨1, none⟩, rest)
  | '\x7b' :: rest => takeBounds rest
  | _ => none

/-- Which number of repetitions is preferred. -/
inductive Preference where
  | many
  | few
  /-- As many as there are, of which none is given back. -/
  | all

def takePreference : List Char → Preference × List Char
  | '?' :: rest => (.few, rest)
  | '+' :: rest => (.all, rest)
  | rest => (.many, rest)

/-- Whether the bounds are in order. -/
def Count.isSound (count : Count) : Bool := count.most.all (count.least ≤ ·)

/-- The pattern repeated. Repetitions that are not given back are so each for itself. -/
def Preference.repeated (p : Pattern) (count : Count) : Preference → Pattern
  | .many => .repeated p count.least count.most false
  | .few => .repeated p count.least count.most true
  | .all => .atomic (.repeated (.atomic p) count.least count.most false)

/-- The terms with the last one repeated, where they are given last one first. -/
def repeatLast (count : Count) (preference : Preference) : List Term → Option (List Term)
  | ⟨p, .piece⟩ :: before =>
    if count.isSound then some (⟨preference.repeated p count, .repetition⟩ :: before) else none
  | _ => none

end Conform.Pattern
