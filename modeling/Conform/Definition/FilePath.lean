import Conform.Fault
import Conform.Text.Case

/-
  Paths of files. A path is a root and names; names that are empty or a single point lead nowhere
  and are left out. A path without content leads to nothing, or out of the directory that it
  starts from, or has a name that no file can have.
-/

namespace Conform.Definition

open Text

/-- A path: its root, which is empty if it is relative, and the names on the way. -/
structure FilePath where
  root : String
  names : List String
deriving DecidableEq, Repr

namespace FilePath

/-- The root of a path that starts with a number of slashes. Two slashes are a root of their own. -/
def rootOf (slashes : Nat) : String :=
  if slashes = 0 then "" else if slashes = 2 then "//" else "/"

/-- Whether a name leads further. -/
def isStep (name : List Char) : Bool := !name.isEmpty && name != ['.']

def ofText (text : String) : FilePath :=
  ⟨rootOf (text.toList.takeWhile (· == '/')).length,
    ((splitOn ['/'] text.toList).filter isStep).map String.ofList⟩

/-- The path as text; a path that leads nowhere is a point. -/
def text (p : FilePath) : String :=
  if p.root.isEmpty && p.names.isEmpty then "." else p.root ++ joinWith "/" p.names

/-- The ending of the last name, with its point and in small letters. A point at the start or the
end of the name begins no ending. -/
def suffix (p : FilePath) : String :=
  let name := (p.names.getLastD "").toList
  let ending := (name.reverse.takeWhile (· != '.')).reverse
  if ending.isEmpty || name.length ≤ ending.length + 1 then ""
  else String.ofList ('.' :: lower ending)

/-- Whether the path leads to the directory that it starts from or to one above it. -/
def isDirectory (p : FilePath) : Bool := p.names.all (· == "..")

/-- Whether the path has a null character. No file system takes one. -/
def hasNull (p : FilePath) : Bool := p.names.any fun name => name.toList.contains '\x00'

def maxSize : Nat := 4095

/-- The greatest number of bytes of a name. -/
def maxNameSize : Nat := 255

/-- Whether the path, or its first name below a directory that exists, is too long. -/
def isTooLong (p : FilePath) : Bool :=
  maxSize < p.text.utf8ByteSize
    || (p.names.find? (· != "..")).any fun name => maxNameSize < name.utf8ByteSize

/-- Why there is nothing to read at the path. -/
def problem (p : FilePath) : FileProblem :=
  if p.isTooLong then .nameTooLong else if p.isDirectory then .directory else .missing

theorem isStep_of_mem_names {text name : String} (h : name ∈ (ofText text).names) :
    isStep name.toList = true := by
  simp only [ofText, List.mem_map, List.mem_filter] at h
  obtain ⟨piece, ⟨_, step⟩, rfl⟩ := h
  simpa using step

example : ofText "." = ⟨"", []⟩ := by decide +kernel

example : (ofText "./a//b/.").text = "a/b" := by decide +kernel

end FilePath
end Conform.Definition
