import Stencil.Datum
import Stencil.Number.Reading

/-!
# JSON

Reading JSON documents into plain data. Whole numbers are unbounded, other numbers are doubles, and of
two entries with one key the later value counts. The words `NaN` and `Infinity` are numbers too.
-/

namespace Stencil.Json

/-- Space between the parts of a document. -/
def isSpace (c : Char) : Bool := c == ' ' || c == '\t' || c == '\n' || c == '\r'

/-- A text without the space at its head. -/
def skipSpace (s : List Char) : List Char := s.dropWhile isSpace

/-- What follows a given beginning. -/
def after? (word s : List Char) : Option (List Char) :=
  if word.isPrefixOf s then some (s.drop word.length) else none

/-- The value of a hexadecimal digit. -/
def hexValue? (c : Char) : Option Nat :=
  if '0' ≤ c && c ≤ '9' then some (c.toNat - 48)
  else if 'a' ≤ c && c ≤ 'f' then some (c.toNat - 87)
  else if 'A' ≤ c && c ≤ 'F' then some (c.toNat - 55)
  else none

/-- The number that four hexadecimal digits write, and what follows. -/
def fourHex? : List Char → Option (Nat × List Char)
  | a :: b :: c :: d :: rest => do
    let n := ((← hexValue? a) * 16 + (← hexValue? b)) * 16 + (← hexValue? c)
    return (n * 16 + (← hexValue? d), rest)
  | _ => none

/-- The first half of a surrogate pair. -/
def isHighSurrogate (n : Nat) : Bool := 0xD800 ≤ n && n < 0xDC00

/-- The second half of a surrogate pair. -/
def isLowSurrogate (n : Nat) : Bool := 0xDC00 ≤ n && n < 0xE000

/-- A character by number; half a pair becomes the replacement character. -/
def charOf (n : Nat) : Char :=
  if isHighSurrogate n || isLowSurrogate n then Char.ofNat 0xFFFD else Char.ofNat n

/-- The character that an escape by number stands for, with what follows. -/
def unicodeEscape? (s : List Char) : Option (Char × List Char) := do
  let (n, rest) ← fourHex? s
  if isHighSurrogate n then
    match rest with
    | '\\' :: 'u' :: more =>
      match fourHex? more with
      | some (low, rest') =>
        if isLowSurrogate low then
          return (Char.ofNat (0x10000 + (n - 0xD800) * 0x400 + (low - 0xDC00)), rest')
        else return (charOf n, rest)
      | none => return (charOf n, rest)
    | _ => return (charOf n, rest)
  else return (charOf n, rest)

/-- The text up to the closing quotation mark, and what follows. -/
def readText (fuel : Nat) (s : List Char) : Option (List Char × List Char) :=
  match fuel, s with
  | 0, _ => none
  | _, [] => none
  | _ + 1, '"' :: rest => some ([], rest)
  | fuel + 1, '\\' :: c :: rest =>
    let plain (d : Char) := (readText fuel rest).map fun r => (d :: r.1, r.2)
    match c with
    | '"' => plain '"'
    | '\\' => plain '\\'
    | '/' => plain '/'
    | 'b' => plain '\x08'
    | 'f' => plain '\x0c'
    | 'n' => plain '\n'
    | 'r' => plain '\r'
    | 't' => plain '\t'
    | 'u' => do
      let (d, more) ← unicodeEscape? rest
      let (cs, after) ← readText fuel more
      return (d :: cs, after)
    | _ => none
  | fuel + 1, c :: rest =>
    if c.toNat < 32 then none else (readText fuel rest).map fun r => (c :: r.1, r.2)

/-- The number at the head of a text, and what follows. -/
def readNumber (s : List Char) : Option (Datum × List Char) :=
  let (negative, body) := match s with
    | '-' :: rest => (true, rest)
    | _ => (false, s)
  let whole := match body with
    | '0' :: _ => ['0']
    | _ => body.takeWhile Number.isDigitChar
  if whole.isEmpty then none
  else
    let afterWhole := body.drop whole.length
    let fraction := match afterWhole with
      | '.' :: rest => rest.takeWhile Number.isDigitChar
      | _ => []
    let afterFraction := if fraction.isEmpty then afterWhole else afterWhole.drop (fraction.length + 1)
    let (mark, digits) := match afterFraction with
      | c :: '+' :: rest => if c == 'e' || c == 'E' then (2, rest.takeWhile Number.isDigitChar) else (0, [])
      | c :: '-' :: rest => if c == 'e' || c == 'E' then (2, rest.takeWhile Number.isDigitChar) else (0, [])
      | c :: rest => if c == 'e' || c == 'E' then (1, rest.takeWhile Number.isDigitChar) else (0, [])
      | [] => (0, [])
    let exponent := if digits.isEmpty then [] else afterFraction.take (mark + digits.length)
    let rest := afterFraction.drop exponent.length
    if fraction.isEmpty && exponent.isEmpty then
      let n : Int := Number.natOfDigits whole
      some (.int (if negative then -n else n), rest)
    else
      let point := if fraction.isEmpty then [] else '.' :: fraction
      (Number.readDecimal? negative (whole ++ point ++ exponent)).map fun x => (.float x, rest)

mutual

/-- The value at the head of a text, and what follows. -/
def readValue (fuel : Nat) (s : List Char) : Option (Datum × List Char) :=
  match fuel with
  | 0 => none
  | fuel + 1 =>
    match s with
    | '"' :: rest => (readText (rest.length + 1) rest).map fun r => (.str (String.ofList r.1), r.2)
    | '[' :: rest =>
      match skipSpace rest with
      | ']' :: more => some (.list [], more)
      | more => (readItems fuel more).map fun r => (.list r.1, r.2)
    | '\x7b' :: rest =>
      match skipSpace rest with
      | '\x7d' :: more => some (.dict [], more)
      | more => (readEntries fuel [] more).map fun r => (.dict r.1, r.2)
    | _ =>
      (after? "null".toList s).map (fun r => (Datum.none, r)) <|>
      (after? "true".toList s).map (fun r => (Datum.bool true, r)) <|>
      (after? "false".toList s).map (fun r => (Datum.bool false, r)) <|>
      (after? "NaN".toList s).map (fun r => (Datum.float (0.0 / 0.0), r)) <|>
      (after? "Infinity".toList s).map (fun r => (Datum.float Number.infinity, r)) <|>
      (after? "-Infinity".toList s).map (fun r => (Datum.float (-Number.infinity), r)) <|>
      readNumber s

/-- The items of a list up to its closing bracket, and what follows. -/
def readItems (fuel : Nat) (s : List Char) : Option (List Datum × List Char) :=
  match fuel with
  | 0 => none
  | fuel + 1 => do
    let (v, rest) ← readValue fuel s
    match skipSpace rest with
    | ',' :: more => do
      let (vs, after) ← readItems fuel (skipSpace more)
      return (v :: vs, after)
    | ']' :: more => return ([v], more)
    | _ => none

/-- The entries of a table up to its closing bracket, and what follows. -/
def readEntries (fuel : Nat) (entries : List (Datum × Datum)) (s : List Char) :
    Option (List (Datum × Datum) × List Char) :=
  match fuel with
  | 0 => none
  | fuel + 1 =>
    match s with
    | '"' :: rest => do
      let (key, rest) ← readText (rest.length + 1) rest
      match skipSpace rest with
      | ':' :: more => do
        let (v, rest) ← readValue fuel (skipSpace more)
        let entries := Datum.insert entries (.str (String.ofList key)) v
        match skipSpace rest with
        | ',' :: more => readEntries fuel entries (skipSpace more)
        | '\x7d' :: more => return (entries, more)
        | _ => none
      | _ => none
    | _ => none

end

/-- The value of a document. -/
def read? (s : String) : Option Datum :=
  let cs := s.toList
  match readValue (2 * cs.length + 2) (skipSpace cs) with
  | some (v, rest) => if (skipSpace rest).isEmpty then some v else none
  | none => none

end Stencil.Json
