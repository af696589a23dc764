import RaceAlbum.Bytes
import RaceAlbum.Text.Blank

/-!
# Headers with options

A header such as `multipart/form-data; boundary=b` is a value and options after it, each a name and a value that may
stand between quotes. Names, and the value in front, are in letters of any case. A header is a row of bytes, and each
character here stands for one of them.
-/

namespace RaceAlbum

/-- A header: its value and its options, by name. -/
structure HeaderOptions where
  value : List Char
  options : List (List Char × List Char)
deriving DecidableEq

namespace HeaderOptions

/-- Cuts a header at the semicolons outside quotes; `quoted` tells whether the text before lies inside quotes. A quote
after a backslash ends nothing. -/
def cut (quoted : Bool) (part : List Char) : List Char → List (List Char)
  | [] => [part.reverse]
  | '\\' :: '"' :: rest => cut quoted ('"' :: '\\' :: part) rest
  | '"' :: rest => cut (!quoted) ('"' :: part) rest
  | ';' :: rest => if quoted then cut quoted (';' :: part) rest else part.reverse :: cut quoted [] rest
  | c :: rest => cut quoted (c :: part) rest

/-- Drops the backslashes in front of backslashes and quotes. -/
def unescape : List Char → List Char
  | '\\' :: '\\' :: rest => '\\' :: unescape rest
  | '\\' :: '"' :: rest => '"' :: unescape rest
  | c :: rest => c :: unescape rest
  | [] => []

/-- A value without the quotes around it. -/
def unquote (cs : List Char) : List Char :=
  match cs with
  | '"' :: rest => if !rest.isEmpty && rest.getLast? == some '"' then unescape rest.dropLast else cs
  | _ => cs

/-- The characters of a text in small letters. -/
def small (cs : List Char) : List Char := cs.map Char.toLower

/-- Reads an option: a name and a value around a sign. One without a sign has no value. -/
def readOption (part : List Char) : List Char × List Char :=
  match part.span (· != '=') with
  | (name, _ :: value) => (small (trim isBlankOrSeparator name), unquote (trim isBlankOrSeparator value))
  | (name, []) => (small (trim isBlankOrSeparator name), [])

/-- Reads a header. -/
def ofHeader (header : List Char) : HeaderOptions :=
  match cut false [] header with
  | value :: parts => ⟨small (trim isBlankOrSeparator value), parts.map readOption⟩
  | [] => ⟨[], []⟩

/-- The value of an option: of several the last. -/
def option? (h : HeaderOptions) (name : String) : Option (List Char) := List.lookup name.toList h.options.reverse

end HeaderOptions

end RaceAlbum
