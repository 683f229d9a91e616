import Stencil.Script.Token

/-!
# Texts as they are written

What the body of a text literal stands for. A backslash and what follows it stand for one character, or
for none at the end of a line; a backslash before any other character stands for itself.
-/

namespace Stencil.Script.Literal

/-- The value of a hexadecimal digit. -/
def hexValue? (c : Char) : Option Nat :=
  if '0' ≤ c && c ≤ '9' then some (c.toNat - 48)
  else if 'a' ≤ c && c ≤ 'f' then some (c.toNat - 87)
  else if 'A' ≤ c && c ≤ 'F' then some (c.toNat - 55)
  else none

/-- The number that hexadecimal digits write. -/
def hexNumber? (ds : List Char) : Option Nat :=
  ds.foldlM (fun n c => (hexValue? c).map (n * 16 + ·)) 0

/-- A character by number, if there is one; half a surrogate pair counts as the replacement
character. -/
def charOf? (n : Nat) : Option Char :=
  if n ≥ 0x110000 then none
  else if 0xD800 ≤ n && n < 0xE000 then some (Char.ofNat 0xFFFD)
  else some (Char.ofNat n)

/-- An octal digit. -/
def isOctal (c : Char) : Bool := '0' ≤ c && c ≤ '7'

/-- The number that octal digits write. -/
def octalNumber (ds : List Char) : Nat := ds.foldl (fun n c => n * 8 + (c.toNat - 48)) 0

/-- The character that stands for a backslash and a letter. -/
def simpleEscape? : Char → Option Char
  | '\\' => some '\\'
  | '\'' => some '\''
  | '"' => some '"'
  | 'a' => some '\x07'
  | 'b' => some '\x08'
  | 'f' => some '\x0c'
  | 'n' => some '\n'
  | 'r' => some '\r'
  | 't' => some '\t'
  | 'v' => some '\x0b'
  | _ => none

/-- How many hexadecimal digits an escape by number has. -/
def escapeWidth? (bytes : Bool) : Char → Option Nat
  | 'x' => some 2
  | 'u' => if bytes then none else some 4
  | 'U' => if bytes then none else some 8
  | _ => none

/-- The characters that a body stands for; `none` when an escape is malformed. -/
def decode (bytes : Bool) (s : List Char) : Option (List Char) :=
  match s with
  | [] => some []
  | ['\\'] => none
  | '\\' :: '\n' :: rest => decode bytes rest
  | '\\' :: c :: rest =>
    match simpleEscape? c with
    | some d => (decode bytes rest).map (d :: ·)
    | none =>
      match escapeWidth? bytes c with
      | some width =>
        let ds := rest.take width
        if ds.length < width then none
        else do
          let d ← (hexNumber? ds).bind charOf?
          return d :: (← decode bytes (rest.drop width))
      | none =>
        if isOctal c then
          let more := (rest.take 2).takeWhile isOctal
          (decode bytes (rest.drop more.length)).map
            (((charOf? (octalNumber (c :: more))).getD '\x00') :: ·)
        else if c == 'N' && !bytes then none
        else (decode bytes rest).map fun r => '\\' :: c :: r
  | c :: rest => (decode bytes rest).map (c :: ·)
termination_by s.length
decreasing_by all_goals (simp only [List.length_cons, List.length_drop]; omega)

/-- The characters of a body in its notation. -/
def plainText? (t : TextLiteral) (body : List Char) : Option (List Char) :=
  if t.raw then some body else decode t.bytes body

/-- A piece of a formatted text: characters, or an expression in braces with its conversion and the
text after its colon. -/
inductive Piece where
  | text (s : List Char)
  | hole (code : List Char) (shown : Bool) (conversion : Option Char) (format : Option (List Char))

/-- The characters up to the first brace, pairs of which stand for one; with what follows. -/
def leadingText (nested : Bool) : List Char → Option (List Char × List Char)
  | '\x7b' :: rest =>
    match rest with
    | '\x7b' :: more => if nested then some ([], '\x7b' :: rest)
      else (leadingText nested more).map fun r => ('\x7b' :: r.1, r.2)
    | _ => some ([], '\x7b' :: rest)
  | '\x7d' :: rest =>
    if nested then some ([], '\x7d' :: rest)
    else match rest with
      | '\x7d' :: more => (leadingText nested more).map fun r => ('\x7d' :: r.1, r.2)
      | _ => none
  | '\\' :: c :: rest => (leadingText nested rest).map fun r => ('\\' :: c :: r.1, r.2)
  | c :: rest => (leadingText nested rest).map fun r => (c :: r.1, r.2)
  | [] => some ([], [])

/-- What is open inside an expression in braces. -/
structure HoleState where
  brackets : List Char := []
  /-- The delimiter of a text that is open, and whether it is tripled. -/
  quote : Option (Char × Bool) := none

/-- Whether a delimiter is tripled here. -/
def isTripled (q : Char) (rest : List Char) : Bool := rest.take 2 == [q, q]

/-- Two characters that are one operator, although each could end an expression. -/
def isPairedOperator (c : Char) (rest : List Char) : Bool :=
  rest.head? == some '=' && "!=<>".toList.contains c

/-- How the code of an expression in braces goes on at a character. -/
inductive HoleStep where
  | stop
  | fail
  /-- Take this many characters more. -/
  | take (more : Nat) (st : HoleState)

/-- The step at a character. -/
def holeStep (st : HoleState) (c : Char) (rest : List Char) : HoleStep :=
  if c == '\\' then .fail
  else match st.quote with
  | some (q, long) =>
    if c != q then .take 0 st
    else if !long then .take 0 { st with quote := none }
    else if isTripled q rest then .take 2 { st with quote := none }
    else .take 0 st
  | none =>
    if c == '\'' || c == '"' then
      if isTripled c rest then .take 2 { st with quote := some (c, true) }
      else .take 0 { st with quote := some (c, false) }
    else if c == '(' || c == '[' || c == '\x7b' then .take 0 { st with brackets := c :: st.brackets }
    else if c == '#' then .fail
    else
      match st.brackets with
      | [] =>
        if isPairedOperator c rest then .take 1 st
        else if c == '!' || c == ':' || c == '\x7d' || c == '=' then .stop
        else if c == ')' || c == ']' then .fail
        else .take 0 st
      | opener :: outer =>
        if c == ')' || c == ']' || c == '\x7d' then
          let expected := if c == ')' then '(' else if c == ']' then '[' else '\x7b'
          if opener == expected then .take 0 { st with brackets := outer } else .fail
        else .take 0 st

/-- The code of an expression in braces up to the character that ends it, with what follows from that
character on. -/
def holeCode (st : HoleState) (s : List Char) : Option (List Char × List Char) :=
  match s with
  | [] => none
  | c :: rest =>
    match holeStep st c rest with
    | .stop => some ([], c :: rest)
    | .fail => none
    | .take n st' =>
      (holeCode st' (rest.drop n)).map fun r => (c :: (rest.take n ++ r.1), r.2)
termination_by s.length
decreasing_by (simp only [List.length_cons, List.length_drop]; omega)

/-- The text that says how a value is laid out, up to the brace that closes the expression. -/
def formatText (depth : Nat) : List Char → Option (List Char × List Char)
  | '\x7d' :: rest =>
    if depth = 0 then some ([], '\x7d' :: rest)
    else (formatText (depth - 1) rest).map fun r => ('\x7d' :: r.1, r.2)
  | '\x7b' :: rest => (formatText (depth + 1) rest).map fun r => ('\x7b' :: r.1, r.2)
  | c :: rest => (formatText depth rest).map fun r => (c :: r.1, r.2)
  | [] => none

/-- A space inside an expression in braces. -/
def isSpace (c : Char) : Bool := c == ' ' || c == '\t' || c == '\n' || c == '\x0c' || c == '\r'

/-- The expression in braces at the head of a text, after its opening brace, with what follows. -/
def hole (s : List Char) : Option (Piece × List Char) := do
  let (code, rest) ← holeCode {} s
  if code.all isSpace then none
  let (shown, rest) := match rest with
    | '=' :: more => (true, more.dropWhile isSpace)
    | _ => (false, rest)
  let (conversion, rest) ← match rest with
    | '!' :: c :: more =>
      if c == 's' || c == 'r' || c == 'a' then some (some c, more) else none
    | ['!'] => none
    | _ => some (none, rest)
  let (format, rest) ← match rest with
    | ':' :: more => (formatText 0 more).map fun r => (some r.1, r.2)
    | _ => some (none, rest)
  match rest with
  | '\x7d' :: more => some (.hole code shown conversion format, more)
  | _ => none

/-- The pieces of the body of a formatted text; `fuel` bounds their number. -/
def pieces (fuel : Nat) (nested : Bool) (s : List Char) : Option (List Piece) :=
  match fuel with
  | 0 => none
  | fuel + 1 => do
    let (text, rest) ← leadingText nested s
    let head := if text.isEmpty then [] else [Piece.text text]
    match rest with
    | '\x7b' :: more => do
      let (p, rest) ← hole more
      return head ++ p :: (← pieces fuel nested rest)
    | [] => return head
    | _ => none

end Stencil.Script.Literal
