import Stencil.Datum
import Stencil.Number.Reading

/-!
# Plain scalars of YAML

What a scalar without quotation marks stands for, by the rules of YAML 1.1: the empty word and `~` are
nothing, `yes` and `off` are truth values, a leading zero writes octal digits, and digits between colons
count in sixties. A word that fits no rule is a text.
-/

namespace Stencil.Yaml

/-- The words for nothing. -/
def nullWords : List String := ["", "~", "null", "Null", "NULL"]

/-- The words for true. -/
def trueWords : List String := ["yes", "Yes", "YES", "true", "True", "TRUE", "on", "On", "ON"]

/-- The words for false. -/
def falseWords : List String := ["no", "No", "NO", "false", "False", "FALSE", "off", "Off", "OFF"]

/-- The value of a digit; letters of either case follow nine. -/
def digitValue (c : Char) : Nat :=
  if Number.isDigitChar c then c.toNat - 48 else c.toLower.toNat - 87

/-- Whether a character is a digit of a base up to sixteen. -/
def isDigitOf (base : Nat) (c : Char) : Bool :=
  (Number.isDigitChar c || ('a' ≤ c.toLower && c.toLower ≤ 'f')) && digitValue c < base

/-- The number that digits of a base write. -/
def natOfDigits (base : Nat) (ds : List Char) : Nat := ds.foldl (fun n c => base * n + digitValue c) 0

/-- A text without underscores. -/
def withoutBars (s : List Char) : List Char := s.filter (· != '_')

/-- The number that digits of a base and underscores write; there is at least one digit. -/
def readBase? (base : Nat) (s : List Char) : Option Nat :=
  if s.all (fun c => c == '_' || isDigitOf base c) && s.any (isDigitOf base) then
    some (natOfDigits base (withoutBars s))
  else none

/-- A piece of a number in sixties: one digit, or two of which the first is at most five. -/
def isSixtieth : List Char → Bool
  | [d] => Number.isDigitChar d
  | [t, d] => '0' ≤ t && t ≤ '5' && Number.isDigitChar d
  | _ => false

/-- The number that pieces between colons write in sixties. -/
def readSixties? (pieces : List (List Char)) : Option Nat :=
  match pieces with
  | head :: tail =>
    if !tail.isEmpty && tail.all isSixtieth then do
      let n ← readBase? 10 head
      return tail.foldl (fun n p => 60 * n + Number.natOfDigits p) n
    else none
  | [] => none

/-- The whole number that a word without a sign writes. -/
def readMagnitude? : List Char → Option Nat
  | ['0'] => some 0
  | '0' :: 'b' :: ds => readBase? 2 ds
  | '0' :: 'x' :: ds => readBase? 16 ds
  | '0' :: ds => readBase? 8 ('0' :: ds)
  | c :: ds =>
    if Number.isDigitChar c then
      readBase? 10 (c :: ds) <|> readSixties? (Text.cutAt ':' (c :: ds))
    else none
  | [] => none

/-- The whole number that a word writes. -/
def readInt? (s : List Char) : Option Int :=
  let (negative, body) := Number.splitSign s
  (readMagnitude? body).map fun n => if negative then -(n : Int) else n

/-- The exponent at the end of a decimal number, which always has a sign. -/
def isExponent : List Char → Bool
  | [] => true
  | e :: sign :: ds =>
    (e == 'e' || e == 'E') && (sign == '+' || sign == '-') && !ds.isEmpty && ds.all Number.isDigitChar
  | _ => false

/-- A digit or an underscore. -/
def isDigitOrBar (c : Char) : Bool := Number.isDigitChar c || c == '_'

/-- Whether a word has the form of a decimal number: digits, a point, digits and an exponent. Before the
point there are digits, or there is no sign and digits follow the point. -/
def isDecimal (signed : Bool) (body : List Char) : Bool :=
  let whole := body.takeWhile isDigitOrBar
  match body.dropWhile isDigitOrBar with
  | '.' :: rest =>
    isExponent (rest.dropWhile isDigitOrBar) &&
      match whole with
      | [] => !signed && (rest.head?.map Number.isDigitChar).getD false
      | d :: _ => Number.isDigitChar d
  | _ => false

/-- The decimal number that a word writes. -/
def readFloat? (s : List Char) : Option Float :=
  let (negative, body) := Number.splitSign s
  let signed := s.length != body.length
  let word := String.ofList body
  if [".inf", ".Inf", ".INF"].contains word then
    some (Number.ofMagnitudeBits negative Number.infinityBits)
  else if !signed && [".nan", ".NaN", ".NAN"].contains word then some (0.0 / 0.0)
  else if isDecimal signed body then Number.readDecimal? negative (withoutBars body)
  else none

/-- The value of a plain scalar; none for the words that stand for no value by themselves. -/
def scalar? (s : List Char) : Option Datum :=
  let word := String.ofList s
  if word == "=" || word == "<<" then none
  else if nullWords.contains word then some .none
  else if trueWords.contains word then some (.bool true)
  else if falseWords.contains word then some (.bool false)
  else
    match readInt? s, readFloat? s with
    | some i, _ => some (.int i)
    | none, some x => some (.float x)
    | none, none => some (.str word)

end Stencil.Yaml
