import Stencil.Datum

/-!
# Writing JSON documents

Plain data as JSON documents in ASCII. A character beyond ASCII is written by its number, as a pair when
it lies outside the first plane. The keys of tables are written as texts, tuples as lists.
-/

namespace Stencil.Json

/-- A character by its number in four hexadecimal digits. -/
def numbered (n : Nat) : List Char := '\\' :: 'u' :: Text.Quoted.hex n 4

/-- A character inside quotation marks. -/
def writeChar (c : Char) : List Char :=
  let n := c.toNat
  if c == '"' then ['\\', '"']
  else if c == '\\' then ['\\', '\\']
  else if 32 ≤ n && n < 127 then [c]
  else if n < 0x10000 then numbered n
  else numbered (0xD800 + (n - 0x10000) / 0x400) ++ numbered (0xDC00 + (n - 0x10000) % 0x400)

/-- A text in quotation marks. -/
def writeText (s : String) : String := String.ofList ('"' :: s.toList.flatMap writeChar ++ ['"'])

mutual

/-- A value as a document. -/
def write : Datum → String
  | .none => "null"
  | .bool b => if b then "true" else "false"
  | .int i => Text.intText i
  | .float x => Number.floatText x
  | .str s => writeText s
  | .list items => "[" ++ writeItems items ++ "]"
  | .tuple items => "[" ++ writeItems items ++ "]"
  | .dict entries => "\x7b" ++ writeEntries entries ++ "\x7d"

/-- Values, separated by commas. -/
def writeItems : List Datum → String
  | [] => ""
  | [d] => write d
  | d :: rest => write d ++ ", " ++ writeItems rest

/-- Entries, separated by commas. -/
def writeEntries : List (Datum × Datum) → String
  | [] => ""
  | [(k, v)] => writeText k.text ++ ": " ++ write v
  | (k, v) :: rest => writeText k.text ++ ": " ++ write v ++ ", " ++ writeEntries rest

end

end Stencil.Json
