import Conform.Text.DecimalDigit
import Conform.Text.Decimal
import Conform.Text.Split

/-
  The parts of an address on the web: a scheme, the place of a server and a path. Parameters,
  queries and fragments are cut off. The place of a server is refused if it has brackets and its
  host is no address of the sixth or a later version, or if it holds characters that are variants
  of the separators.
-/

namespace Conform

/-- The parts of an address that decide whether it is one. -/
structure Url where
  scheme : String
  server : List Char
  path : List Char

namespace Url

open Conform.Text

/-- The characters of a scheme after its first letter. -/
def isSchemeChar (c : Char) : Bool :=
  c.isAlphanum || c == '+' || c == '-' || c == '.'

/-- The schemes whose paths may end with parameters. -/
def schemesWithParameters : List String := [
  "", "ftp", "hdl", "prospero", "http", "imap", "https", "shttp", "rtsp", "rtsps", "rtspu", "sip",
  "sips", "mms", "sftp", "tel"]

/-- The characters beyond ASCII that are variants of text with a slash, a question mark, a number
sign, an at sign or a colon in it. -/
def separatorVariants : List Nat := [
  0x2047, 0x2048, 0x2049, 0x2100, 0x2101, 0x2105, 0x2106, 0x2A74, 0xFE13, 0xFE16, 0xFE55, 0xFE56,
  0xFE5F, 0xFE6B, 0xFF03, 0xFF0F, 0xFF1A, 0xFF1F, 0xFF20]

/-- The scheme in small letters, if the text starts with one, and what follows it. -/
def takeScheme (text : List Char) : String × List Char :=
  let name := text.takeWhile (· != ':')
  match name, text.drop name.length with
  | first :: _, ':' :: rest =>
    if first.isAlpha && name.all isSchemeChar then (String.ofList (name.map Char.toLower), rest)
    else ("", text)
  | _, _ => ("", text)

/-- Whether the character ends the place of a server. -/
def endsServer (c : Char) : Bool := c == '/' || c == '?' || c == '#'

/-- Whether the text is a number up to 255 without leading zeros. -/
def isByteText (text : List Char) : Bool :=
  text.all Char.isDigit && 0 < text.length && text.length ≤ 3
    && (text.length == 1 || text.head? != some '0')
    && numberOf 10 (text.map fun c => c.toNat - 0x30) ≤ 255

/-- Whether the text is an address of the fourth version. -/
def isVersion4 (text : List Char) : Bool :=
  let parts := splitOn ['.'] text
  parts.length == 4 && parts.all isByteText

/-- Whether the text is a group of an address of the sixth version. -/
def isGroup (text : List Char) : Bool :=
  0 < text.length && text.length ≤ 4 && text.all fun c => (hexValue? c).isSome

/-- Whether eight groups are spelled, given those before and after a place where groups of zeros
are left out. An empty group stands at an end only next to that place. -/
def fitsAround (before after : List (List Char)) : Bool :=
  let before := if before == [[]] then [] else before
  let after := if after == [[]] then [] else after
  before.all isGroup && after.all isGroup && before.length + after.length < 8

/-- Whether the parts between colons spell an address of the sixth version. -/
def isVersion6Parts (parts : List (List Char)) : Bool :=
  if parts.length < 3 ∨ 9 < parts.length then false
  else
    let inner := (List.range parts.length).filter fun i =>
      0 < i && i + 1 < parts.length && parts[i]? == some []
    match inner with
    | [] => parts.length == 8 && parts.all isGroup
    | [i] => fitsAround (parts.take i) (parts.drop (i + 1))
    | _ => false

/-- Whether the text is an address of the sixth version, perhaps with the name of a zone. -/
def isVersion6 (text : List Char) : Bool :=
  let address := text.takeWhile (· != '%')
  let zone := text.drop address.length
  let zoneFits := match zone with
    | [] => true
    | _ :: name => !name.isEmpty && !name.contains '%'
  let parts := splitOn [':'] address
  let last := parts.getLast?.getD []
  zoneFits && parts.length ≥ 3 &&
    (if last.contains '.' then
      isVersion4 last && isVersion6Parts (parts.dropLast ++ [['0'], ['0']])
    else isVersion6Parts parts)

/-- Whether the text is an address of a version to come. -/
def isFutureVersion (text : List Char) : Bool :=
  match text with
  | 'v' :: rest =>
    let digits := rest.takeWhile fun c => (hexValue? c).isSome
    match rest.drop digits.length with
    | '.' :: _ :: _ => !digits.isEmpty
    | _ => false
  | _ => false

/-- Whether the text is an address that may stand in brackets. -/
def isBracketedAddress (text : List Char) : Bool :=
  if text.head? = some 'v' then isFutureVersion text else isVersion6 text

/-- The place of a server after the name of a user, which ends at the last at sign. -/
def withoutUser (server : List Char) : List Char := (server.reverse.takeWhile (· != '@')).reverse

/-- Whether the host is an address, in brackets if there is an opening one. Nothing may stand in
front of the brackets, and nothing but a port behind them. -/
def isAddressedHost (hostAndPort : List Char) : Bool :=
  let before := hostAndPort.takeWhile (· != '[')
  match hostAndPort.drop before.length with
  | [] => isBracketedAddress (hostAndPort.takeWhile (· != ':'))
  | _ :: inside =>
    let address := inside.takeWhile (· != ']')
    let behind := (inside.drop address.length).drop 1
    before.isEmpty && (behind.isEmpty || behind.head? == some ':') && isBracketedAddress address

/-- Whether brackets of both kinds or of none are in the place of a server, and the host is an
address if there are some. The brackets may stand in the name of a user. -/
def hasSoundBrackets (server : List Char) : Bool :=
  match server.contains '[', server.contains ']' with
  | false, false => true
  | true, true => isAddressedHost (withoutUser server)
  | _, _ => false

/-- Whether the place of a server is free of variants of the separators. -/
def hasSoundCharacters (server : List Char) : Bool :=
  server.all fun c => !separatorVariants.contains c.toNat

/-- The path before its parameters, which start with a semicolon after the last slash. -/
def withoutParameters (scheme : String) (path : List Char) : List Char :=
  if schemesWithParameters.contains scheme then
    let last := (path.reverse.takeWhile (· != '/')).reverse
    path.take (path.length - last.length) ++ last.takeWhile (· != ';')
  else path

/-- The parts of the text as an address. Control characters and spaces in front are passed over,
and tabs and line breaks everywhere. -/
def read? (text : List Char) : Option Url :=
  let cleaned := (text.dropWhile fun c => c.toNat ≤ 0x20).filter fun c =>
    c != '\t' && c != '\r' && c != '\n'
  let (scheme, rest) := takeScheme cleaned
  let (server, path) := match rest with
    | '/' :: '/' :: rest => (rest.takeWhile (!endsServer ·), rest.dropWhile (!endsServer ·))
    | rest => ([], rest)
  if hasSoundBrackets server && hasSoundCharacters server then
    let path := (path.takeWhile (· != '#')).takeWhile (· != '?')
    some ⟨scheme, server, withoutParameters scheme path⟩
  else none

/-- Whether the text is an address: it names a server, or a scheme and a path. -/
def isUrl (text : List Char) : Bool :=
  match read? text with
  | some url => !url.server.isEmpty || (url.scheme != "" && !url.path.isEmpty)
  | none => false

/-- Whether the text is the address of a server on the web. -/
def isWebUrl (text : List Char) : Bool :=
  match read? text with
  | some url => (url.scheme == "http" || url.scheme == "https") && !url.server.isEmpty
  | none => false

end Url
end Conform
