import Stencil.Script.Token
import Stencil.Number.Reading
import Stencil.Text.Name
import Stencil.Text.Printable

/-!
# Reading tokens

A script is read line by line. Outside brackets the indentation of a line is compared with that of the
lines before: a deeper line opens a block, a shallower one closes blocks and has to meet the indentation
of one that is still open. Tabs reach to the next multiple of eight, and two lines whose order depends
on the width of a tab are refused. Inside brackets line breaks mean nothing.
-/

namespace Stencil.Script.Lexer

/-- The most brackets that are open at once. -/
def maxBrackets : Nat := 200

/-- The most indentations that are open at once, the outermost included. -/
def maxIndents : Nat := 100

/-- What the lexer knows between two tokens. -/
structure State where
  line : Nat := 1
  /-- The open brackets with their lines, the innermost first. -/
  brackets : List (Char × Nat) := []
  /-- The open indentations, the innermost first: columns with wide tabs and with narrow tabs. -/
  indents : List (Nat × Nat) := []

/-- The line of the innermost open bracket. -/
def State.openLine (st : State) : Option Nat := st.brackets.head?.map (·.2)

/-- A mistake in the characters at hand. -/
def State.hardError (st : State) : LexicalError := ⟨st.line, true, st.openLine⟩

/-- A mistake in the arrangement of lines. -/
def State.softError (st : State) : LexicalError := ⟨st.line, false, st.openLine⟩

/-- A line break inside a token or a continued line. -/
def State.nextLine (st : State) : State := { st with line := st.line + 1 }

/-- A script with one kind of line break, ended by one. -/
def normalize : List Char → List Char
  | [] => []
  | '\r' :: '\n' :: cs => '\n' :: normalize cs
  | '\r' :: cs => '\n' :: normalize cs
  | c :: cs => c :: normalize cs

/-- A character that may be part of a name, as far as its first byte tells. -/
def mayContinueName (c : Char) : Bool := c.toNat ≥ 128 || Text.isNamePart c

/-- A character that may begin a name, as far as its first byte tells. -/
def mayBeginName (c : Char) : Bool := c.toNat ≥ 128 || Text.isNameStart c

/-- Whether a number may stand right before these characters: no name goes on from it, except for the
words that join expressions. -/
def endsNumber (s : List Char) : Bool :=
  match s with
  | [] => true
  | c :: _ =>
    !mayContinueName c ||
      ["and", "else", "for", "if", "in", "is", "or", "not"].any fun w => w.toList.isPrefixOf s

/-- Digits with single underscores between them, with what follows; `none` when an underscore stands
elsewhere. The first character is a digit. -/
def digitRun (isDigit : Char → Bool) : List Char → Option (List Char × List Char)
  | '_' :: c :: cs =>
    if isDigit c then (digitRun isDigit cs).map fun r => (c :: r.1, r.2) else none
  | ['_'] => none
  | c :: cs => if isDigit c then (digitRun isDigit cs).map fun r => (c :: r.1, r.2) else some ([], c :: cs)
  | [] => some ([], [])

/-- The value of digits in a base. -/
def digitsValue (base : Nat) (ds : List Char) : Nat :=
  ds.foldl (fun n c =>
    let d := if c ≤ '9' then c.toNat - 48 else if c ≤ 'F' then c.toNat - 55 else c.toNat - 87
    n * base + d) 0

/-- A number in a base other than ten, after its mark. -/
def basedNumber (base : Nat) (isDigit : Char → Bool) (s : List Char) :
    Option (NumberLiteral × List Char) :=
  let body := match s with
    | '_' :: rest => rest
    | _ => s
  match body with
  | c :: _ =>
    if !isDigit c then none
    else match digitRun isDigit body with
      | some (ds, rest) =>
        if endsNumber rest && !(rest.head?.map Number.isDigitChar).getD false then
          some (.int (digitsValue base ds), rest)
        else none
      | none => none
  | [] => none

/-- A hexadecimal digit. -/
def isHexDigit (c : Char) : Bool :=
  Number.isDigitChar c || ('a' ≤ c && c ≤ 'f') || ('A' ≤ c && c ≤ 'F')

/-- The exponent of a number: what is read and what follows. Without digits after its mark it is absent
and the mark has to begin a word. -/
def exponentPart (s : List Char) : Option (List Char × List Char) :=
  match s with
  | c :: rest =>
    if c != 'e' && c != 'E' then some ([], s)
    else
      let (sign, ds) := match rest with
        | '+' :: ds => (['+'], ds)
        | '-' :: ds => (['-'], ds)
        | ds => ([], ds)
      match ds with
      | d :: _ =>
        if Number.isDigitChar d then
          (digitRun Number.isDigitChar ds).map fun r => ('e' :: sign ++ r.1, r.2)
        else if sign.isEmpty && endsNumber s then some ([], s)
        else none
      | [] => if sign.isEmpty && endsNumber s then some ([], s) else none
  | [] => some ([], [])

/-- The end of a decimal number: an imaginary mark or nothing. -/
def finishDecimal (value : NumberLiteral) (s : List Char) : Option (NumberLiteral × List Char) :=
  match s with
  | c :: rest =>
    if c == 'j' || c == 'J' then if endsNumber rest then some (.imaginary, rest) else none
    else if endsNumber s then some (value, s) else none
  | [] => some (value, [])

/-- The fraction and exponent of a number after its whole digits. -/
def fractionPart (whole : List Char) (s : List Char) : Option (NumberLiteral × List Char) := do
  let (fraction, afterFraction) ← match s with
    | '.' :: c :: rest =>
      if Number.isDigitChar c then
        (digitRun Number.isDigitChar (c :: rest)).map fun r => (some r.1, r.2)
      else some (some [], c :: rest)
    | ['.'] => some (some [], [])
    | _ => some (none, s)
  let (exponent, rest) ← exponentPart afterFraction
  match fraction, exponent with
  | none, [] =>
    if whole.length > Number.maxDigits then none
    else if whole.head? == some '0' && whole.any (· != '0') then
      -- Digits after a leading zero are for imaginary numbers only.
      match ← finishDecimal (.int 0) rest with
      | (.imaginary, after) => some (.imaginary, after)
      | _ => none
    else finishDecimal (.int (Number.natOfDigits whole)) rest
  | _, _ =>
    let text := whole ++ '.' :: fraction.getD [] ++ exponent
    finishDecimal (.float ((Number.readDecimal? false text).getD 0.0)) rest

/-- The number at the head of a script. -/
def readNumber (s : List Char) : Option (NumberLiteral × List Char) :=
  match s with
  | '0' :: c :: rest =>
    if c == 'x' || c == 'X' then basedNumber 16 isHexDigit rest
    else if c == 'o' || c == 'O' then basedNumber 8 (fun d => '0' ≤ d && d ≤ '7') rest
    else if c == 'b' || c == 'B' then basedNumber 2 (fun d => d == '0' || d == '1') rest
    else (digitRun Number.isDigitChar s).bind fun r => fractionPart r.1 r.2
  | '.' :: _ => fractionPart [] s
  | _ => (digitRun Number.isDigitChar s).bind fun r => fractionPart r.1 r.2

/-- The marks that may stand before the delimiter of a text. -/
def textPrefixes : List String :=
  ["", "b", "r", "u", "f", "br", "rb", "fr", "rf"]

/-- The mark before a text's delimiter, when the characters at hand begin a text. -/
def textPrefix? (s : List Char) : Option (List Char) :=
  let mark := s.takeWhile fun c => "bBrRuUfF".toList.contains c
  match s.drop mark.length with
  | c :: _ =>
    let plain := String.ofList (mark.map fun c => if c ≤ 'Z' then Char.ofNat (c.toNat + 32) else c)
    if (c == '\'' || c == '"') && textPrefixes.contains plain then some mark else none
  | [] => none

/-- The body of a text up to its closing delimiter, with what follows. -/
def textBody (quote : Char) (long : Bool) : List Char → Option (List Char × List Char)
  | '\\' :: c :: cs => (textBody quote long cs).map fun r => ('\\' :: c :: r.1, r.2)
  | c :: cs =>
    if c == quote && (!long || cs.take 2 == [quote, quote]) then
      some ([], if long then cs.drop 2 else cs)
    else if c == '\n' && !long then none
    else (textBody quote long cs).map fun r => (c :: r.1, r.2)
  | [] => none

theorem textBody_nil (quote : Char) (long : Bool) : textBody quote long [] = none := rfl

/-- A backslash takes the character after it. -/
theorem textBody_slash {quote : Char} {long : Bool} (c : Char) (s : List Char) :
    textBody quote long ('\\' :: c :: s) =
      (textBody quote long s).map fun r => ('\\' :: c :: r.1, r.2) := rfl

theorem textBody_cons {quote c : Char} {long : Bool} (hc : c ≠ '\\') (s : List Char) :
    textBody quote long (c :: s) =
      if c == quote && (!long || s.take 2 == [quote, quote]) then
        some ([], if long then s.drop 2 else s)
      else if c == '\n' && !long then none
      else (textBody quote long s).map fun r => (c :: r.1, r.2) := by
  rw [textBody]
  exact fun d ds h => absurd h hc

/-- The text at the head of a script, after its mark. -/
def readText (mark : List Char) (s : List Char) : Option (TextLiteral × List Char) :=
  match s with
  | [] => none
  | quote :: cs =>
    let long := cs.take 2 == [quote, quote]
    let has (c d : Char) : Bool := mark.contains c || mark.contains d
    (textBody quote long (if long then cs.drop 2 else cs)).map fun r =>
      ({ raw := has 'r' 'R', bytes := has 'b' 'B', formatted := has 'f' 'F', body := r.1 }, r.2)

/-- Operators of three characters. -/
def operators3 : List String := ["**=", "//=", ">>=", "<<=", "..."]

/-- Operators of two characters. -/
def operators2 : List String :=
  ["!=", "%=", "&=", "**", "*=", "+=", "-=", "->", "//", "/=", ":=", "<<", "<=", "<>", "==", ">=",
    ">>", "@=", "^=", "|="]

/-- The operator at the head of a script. -/
def operatorAt (s : List Char) : List Char :=
  let three := s.take 3
  let two := s.take 2
  if operators3.contains (String.ofList three) then three
  else if operators2.contains (String.ofList two) then two
  else s.take 1

/-- The bracket that closes another. -/
def closerOf (c : Char) : Char := if c == '(' then ')' else if c == '[' then ']' else '\x7d'

/-- The effect of an operator on the open brackets. -/
def State.bracket (st : State) (c : Char) : Option State :=
  if c == '(' || c == '[' || c == '\x7b' then
    if st.brackets.length ≥ maxBrackets then none
    else some { st with brackets := (c, st.line) :: st.brackets }
  else if c == ')' || c == ']' || c == '\x7d' then
    match st.brackets with
    | (opener, _) :: outer => if closerOf opener == c then some { st with brackets := outer } else none
    | [] => none
  else some st

/-- A token read after the space before it. -/
inductive Item where
  | token (t : Token) (st : State)
  /-- The end of a logical line. -/
  | lineEnd (t : Token) (st : State)
  /-- Characters without a token: a comment, a line break inside brackets or a continuation. -/
  | skip (st : State)
  | error (e : LexicalError)

/-- The characters of a name at the head of a script. -/
def nameAt (s : List Char) : List Char := s.takeWhile mayContinueName

/-- The item that begins with `c`, and what follows it. -/
def item (st : State) (c : Char) (cs : List Char) : Item × List Char :=
  let s := c :: cs
  let level := st.brackets.length
  if c == '#' then (.skip st, cs.dropWhile (· != '\n'))
  else if c == '\n' then
    if level == 0 then (.lineEnd { kind := .newline, line := st.line } st.nextLine, cs)
    else (.skip st.nextLine, cs)
  else if c == '\\' then
    match cs with
    | '\n' :: [] => (.error st.nextLine.softError, [])
    | '\n' :: rest => (.skip st.nextLine, rest)
    | _ => (.error st.softError, [])
  else match textPrefix? s with
    | some mark =>
      match readText mark (s.drop mark.length) with
      | some (t, rest) =>
        (.token { kind := .text t, line := st.line, level := level }
          { st with line := st.line + t.body.count '\n' }, rest)
      | none => (.error st.hardError, [])
    | none =>
      if mayBeginName c then
        let name := nameAt s
        if Text.isName name then
          (.token { kind := .name, text := String.ofList name, line := st.line, level := level } st,
            s.drop name.length)
        else (.error st.hardError, [])
      else if Number.isDigitChar c || (c == '.' && (cs.head?.map Number.isDigitChar).getD false) then
        match readNumber s with
        | some (n, rest) => (.token { kind := .number n, line := st.line, level := level } st, rest)
        | none => (.error st.hardError, [])
      else
        let op := operatorAt s
        match st.bracket c with
        | some st' =>
          if op.length == 1 && !Text.isPrintable c then (.error st.hardError, [])
          else
            (.token { kind := .operator, text := String.ofList op, line := st.line
                      level := st'.brackets.length } st', s.drop op.length)
        | none => (.error st.hardError, [])

/-- The indentation of a line: its columns and what follows it; a continued line keeps the column of
its first backslash. -/
structure Margin where
  column : Nat := 0
  narrow : Nat := 0
  /-- The column of the first backslash. -/
  continued : Nat := 0
  line : Nat

/-- The indentation at the head of a line. -/
def margin (m : Margin) : List Char → Except LexicalError (Margin × List Char)
  | ' ' :: cs => margin { m with column := m.column + 1, narrow := m.narrow + 1 } cs
  | '\t' :: cs => margin { m with column := (m.column / 8 + 1) * 8, narrow := m.narrow + 1 } cs
  | '\x0c' :: cs => margin { m with column := 0, narrow := 0 } cs
  | '\\' :: '\n' :: c :: cs =>
    let at' := if m.continued = 0 then m.column else m.continued
    margin { m with continued := at', line := m.line + 1 } (c :: cs)
  | '\\' :: '\n' :: [] => .error ⟨m.line + 1, false, none⟩
  | '\\' :: _ => .error ⟨m.line, false, none⟩
  | cs => .ok (m, cs)

/-- The indentations that remain after leaving those deeper than a column, with how many are left. -/
def leave (column : Nat) : List (Nat × Nat) → Nat × List (Nat × Nat)
  | (c, n) :: outer => if column < c then let r := leave column outer; (r.1 + 1, r.2) else (0, (c, n) :: outer)
  | [] => (0, [])

/-- The tokens that the indentation of a line makes, and the indentations then open. -/
def indentation (st : State) (column narrow : Nat) : Except LexicalError (List Token × State) :=
  let top := st.indents.headD (0, 0)
  if column = top.1 then if narrow = top.2 then .ok ([], st) else .error st.softError
  else if top.1 < column then
    if maxIndents ≤ st.indents.length + 1 then .error st.softError
    else if narrow ≤ top.2 then .error st.softError
    else
      .ok ([{ kind := .indent, line := st.line }], { st with indents := (column, narrow) :: st.indents })
  else
    let (count, left) := leave column st.indents
    let top' := left.headD (0, 0)
    if column ≠ top'.1 || narrow ≠ top'.2 then .error st.softError
    else .ok (List.replicate count { kind := .dedent, line := st.line }, { st with indents := left })

/-- A space between tokens. -/
def isSpace (c : Char) : Bool := c == ' ' || c == '\t' || c == '\x0c'

/-- The tokens of the rest of a script. `atStart` says that a line begins here; `fuel` bounds the number
of steps, of which every character needs at most two. -/
def run (fuel : Nat) (atStart : Bool) (st : State) (s : List Char) :
    List Token × Option LexicalError :=
  match fuel with
  | 0 => ([], some st.softError)
  | fuel + 1 =>
    if atStart then
      match margin { line := st.line } s with
      | .error e => ([], some e)
      | .ok (m, rest) =>
        let st := { st with line := m.line }
        let blank := match rest with
          | '#' :: _ => true
          | '\n' :: _ => true
          | _ => false
        if blank then
          match rest.dropWhile (· != '\n') with
          | _ :: more => run fuel true st.nextLine more
          | [] => run fuel true st []
        else
          let column := if m.continued = 0 then m.column else m.continued
          let narrow := if m.continued = 0 then m.narrow else m.continued
          match indentation st column narrow with
          | .error e => ([], some e)
          | .ok (ts, st) =>
            let r := run fuel false st rest
            (ts ++ r.1, r.2)
    else
      match s.dropWhile isSpace with
      | [] =>
        match st.openLine with
        | some line => ([], some ⟨line, false, some line⟩)
        | none => ([{ kind := .finish, line := st.line }], none)
      | c :: cs =>
        match item st c cs with
        | (.token t st', rest) => let r := run fuel false st' rest; (t :: r.1, r.2)
        | (.lineEnd t st', rest) => let r := run fuel true st' rest; (t :: r.1, r.2)
        | (.skip st', rest) => run fuel false st' rest
        | (.error e, _) => ([], some e)

end Lexer

/-- The tokens of a script, as far as it has any, and what ends them early. -/
def lex (source : List Char) : List Token × Option LexicalError :=
  let s := Lexer.normalize source
  Lexer.run (2 * s.length + 4) true {} s

end Stencil.Script
