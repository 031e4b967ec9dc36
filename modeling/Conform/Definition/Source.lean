import Conform.Definition.FilePath
import Conform.Definition.Node
import Conform.Json.Reader

/-
  Where definitions come from: a value, a text or a file. `load` makes a validator from any of
  them.
-/

namespace Conform.Definition

def namesSetting (key : Value) : Bool :=
  match key with
  | .str name => name != "self"
  | _ => false

/-- The fault for a text without a document, where the problem tells what a broken form means. -/
def documentFault (malformed : DefinitionProblem) : DocumentProblem → Fault
  | .malformed => .definition malformed
  | .fault f => f

section

variable [Environment]

/-- The validator that the settings define. -/
def create (x : Value) : Run Validator :=
  match x with
  | .map entries =>
    if entries.all fun entry => namesSetting entry.1 then do
      requireShowable [Settings.value (part x).settings "type"]
      log .info
        ("Creating validator of type: " ++ (Settings.value (part x).settings "type").display)
      (part x).node "$"
    else .raised .wrongType
  | _ => .raised .wrongType

/-- The validator that a document defines, which must be a map. -/
def ofDocument (x : Value) : Run Validator :=
  match x with
  | .map _ => create x
  | x => reject (.rootNotMap x.kind)

/-- The value of a document in a text, or a fault for a text that is none. -/
def readDocument (malformed : DefinitionProblem) (text : String) : Run Value :=
  Run.ofExcept ((Environment.readDocument text).mapError (documentFault malformed))

end

/-- The value of a JSON document in a file, or a fault for a text that is none. -/
def readJson (path text : String) : Run Value :=
  match Json.read text with
  | .ok x => .done x
  | .error (.tooManyDigits count) => .raised (.badScalar (Text.tooManyDigitsMessage (some count)))
  | .error problem => reject (.unreadableJsonFile path (problem.message text.toList))

/-- The lines of a text ended by the line feed alone. -/
def withLineFeeds : List Char → List Char
  | [] => []
  | '\r' :: '\n' :: rest => '\n' :: withLineFeeds rest
  | '\r' :: rest => '\n' :: withLineFeeds rest
  | c :: rest => c :: withLineFeeds rest

def readFile [Environment] (path : FilePath) (content : Option String) : Run Value :=
  match content with
  | some content =>
    let text := String.ofList (withLineFeeds content.toList)
    if path.suffix == ".json" then readJson path.text text
    else readDocument (.unreadableDocumentFile path.text) text
  | none =>
    if path.hasNull then .raised .nullInPath
    else reject (.unreadableFile path.text path.problem)

/-- Whether a text may be meant as the path of a file with a definition. -/
def looksLikeFile (text : String) : Bool :=
  !text.toList.contains '\n'
    && [".yaml", ".yml", ".json"].contains (FilePath.ofText text).suffix

/-- The value in the file that a text names, with the given content, or else in the text. -/
def readText [Environment] (text : String) (content : Option String) : Run Value :=
  let path := FilePath.ofText text
  if looksLikeFile text then
    if content.isSome then readFile path content
    else if path.isTooLong && !path.hasNull then .raised .pathTooLong
    else readDocument .unreadableDocument text
  else readDocument .unreadableDocument text

/-- Where a definition comes from. -/
inductive Source where
  | value (x : Value)
  /-- A text that may be the path of a file, with the content of the file if there is one. -/
  | text (s : String) (content : Option String)
  /-- A file by its path, with its content if there is such a file. -/
  | file (path : String) (content : Option String)
deriving Repr

def Source.read [Environment] : Source → Run Value
  | .value (.map entries) => .done (.map entries)
  | .value (.str s) => readText s none
  | .value x => reject (.sourceNotSupported x.kind)
  | .text s content => readText s content
  | .file path content => readFile (FilePath.ofText path) content

/-- The validator that a source defines. -/
def load [Environment] (source : Source) : Run Validator := do
  let x ← source.read
  ofDocument x

end Conform.Definition
