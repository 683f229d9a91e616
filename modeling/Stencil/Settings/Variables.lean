import Stencil.Text.Lines

/-!
# Files of variables

A file of variables has lines of the form `name=value`, perhaps after the word `export`. Values stand in
single or double quotation marks or run to the end of their line, before a number sign after a blank. A
name without an equals sign has no value. Lines of another form are left out.
-/

namespace Stencil.Settings

/-- A variable, which may lack a value. -/
structure Variable where
  name : String
  value : Option String
  deriving DecidableEq, Inhabited, Repr

namespace Variable

/-- The end of a line. -/
def isBreak (c : Char) : Bool := c == '\n' || c == '\r'

/-- A blank inside a line. -/
def isSpace (c : Char) : Bool := Text.isBlank c && !isBreak c

/-- What follows the blanks of a line. -/
def skipSpace (s : List Char) : List Char := s.dropWhile isSpace

/-- What follows the line. -/
def nextLine (s : List Char) : List Char :=
  match s.dropWhile (!isBreak ·) with
  | '\r' :: '\n' :: rest => rest
  | _ :: rest => rest
  | [] => []

/-- What follows the word `export` and the blanks after it. -/
def skipExport (s : List Char) : List Char :=
  let word := "export".toList
  if word.isPrefixOf s && ((s.drop 6).head?.map isSpace).getD false then skipSpace (s.drop 6) else s

/-- What stands before the closing quotation mark, and what follows it. A mark after a backslash closes
only if no other one does. -/
def untilMark (mark : Char) : List Char → Option (List Char × List Char)
  | [] => none
  | '\\' :: c :: rest =>
    if c == mark then
      match untilMark mark rest with
      | some (text, after) => some ('\\' :: c :: text, after)
      | none => some (['\\'], rest)
    else (untilMark mark (c :: rest)).map fun r => ('\\' :: r.1, r.2)
  | c :: rest => if c == mark then some ([], rest) else (untilMark mark rest).map fun r => (c :: r.1, r.2)

/-- What an escape between double quotation marks stands for. -/
def escaped? (c : Char) : Option Char :=
  match c with
  | 'a' => some '\x07'
  | 'b' => some '\x08'
  | 'f' => some '\x0c'
  | 'n' => some '\n'
  | 'r' => some '\r'
  | 't' => some '\t'
  | 'v' => some '\x0b'
  | '"' => some '"'
  | '\'' => some '\''
  | '\\' => some '\\'
  | _ => none

/-- A text with its escapes replaced; between single quotation marks these are the mark and the
backslash. -/
def unescape (mark : Char) : List Char → List Char
  | '\\' :: c :: rest =>
    match escaped? c with
    | some d =>
      if mark == '"' || c == '\'' || c == '\\' then d :: unescape mark rest
      else '\\' :: c :: unescape mark rest
    | none => '\\' :: unescape mark (c :: rest)
  | c :: rest => c :: unescape mark rest
  | [] => []

/-- A value without the comment at its end. -/
def dropComment : List Char → List Char
  | [] => []
  | c :: rest =>
    if Text.isBlank c && (rest.dropWhile Text.isBlank).head? == some '#' then [] else c :: dropComment rest

/-- The value after an equals sign, and what follows it. -/
def readValue? (s : List Char) : Option (List Char × List Char) :=
  match s with
  | [] => some ([], [])
  | c :: rest =>
    if c == '\'' || c == '"' then (untilMark c rest).map fun r => (unescape c r.1, r.2)
    else
      let line := s.takeWhile (!isBreak ·)
      some (Text.trimEnd Text.isBlank (dropComment line), s.drop line.length)

/-- The name at the head of a line, and what follows it; empty at a comment. -/
def readName? (s : List Char) : Option (List Char × List Char) :=
  match s with
  | '#' :: _ => some ([], s)
  | '\'' :: rest =>
    let name := rest.takeWhile (· != '\'')
    match rest.drop name.length with
    | _ :: after => if name.isEmpty then none else some (name, after)
    | [] => none
  | _ =>
    let name := s.takeWhile fun c => !(c == '=' || c == '#' || Text.isBlank c)
    if name.isEmpty then none else some (name, s.drop name.length)

/-- What follows the blanks and the comment at the end of a line; none when something else is there. -/
def lineEnd? (s : List Char) : Option (List Char) :=
  match skipSpace s with
  | [] => some []
  | c :: rest => if c == '#' || isBreak c then some (nextLine (c :: rest)) else none

/-- A variable whose line ends here, and what follows the line. -/
def finish (name : List Char) (value : Option (List Char)) (s : List Char) :
    Option Variable × List Char :=
  match lineEnd? s with
  | some rest => (some ⟨String.ofList name, value.map String.ofList⟩, rest)
  | none => (none, nextLine s)

/-- The variable at the head of a text, if its line has the right form, and what follows the line. -/
def readLine (s : List Char) : Option Variable × List Char :=
  let s := skipExport s
  match readName? s with
  | none => (none, nextLine s)
  | some (name, after) =>
    match skipSpace after with
    | '=' :: rest =>
      match readValue? (skipSpace rest) with
      | some (value, after) => finish name (some value) after
      | none => (none, nextLine (skipSpace rest))
    | rest => finish name none rest

/-- The variables of a text. -/
def readFrom (fuel : Nat) (s : List Char) : List Variable :=
  match fuel with
  | 0 => []
  | fuel + 1 =>
    match s.dropWhile Text.isBlank with
    | [] => []
    | line =>
      match readLine line with
      | (some v, rest) => if v.name == "" then readFrom fuel rest else v :: readFrom fuel rest
      | (none, rest) => readFrom fuel rest

/-- The variables that a file holds. -/
def read (s : String) : List Variable := readFrom s.length s.toList

end Variable

end Stencil.Settings
