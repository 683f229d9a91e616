import Stencil.Text.Lines

/-!
# Searching texts

Where a text occurs in another one, and cutting and replacing at its occurrences. Occurrences are taken
from the left and do not overlap. The empty text occurs at every place.
-/

namespace Stencil.Text

/-- Where a text first occurs in another one, counted from a number on. -/
def findFrom (needle hay : List Char) (start : Nat) : Option Nat :=
  if needle.isPrefixOf hay then some start
  else
    match hay with
    | [] => none
    | _ :: rest => findFrom needle rest (start + 1)

/-- Where a text last occurs in another one, counted from a number on. -/
def findLastFrom (needle hay : List Char) (start : Nat) : Option Nat :=
  match hay with
  | [] => if needle.isPrefixOf [] then some start else none
  | _ :: rest =>
    match findLastFrom needle rest (start + 1) with
    | some n => some n
    | none => if needle.isPrefixOf hay then some start else none

/-- The pieces between the occurrences of a text, at most `limit` of which are used. The text is not
empty; `piece` holds the characters since the last occurrence, reversed, and `skip` counts characters
of an occurrence that are still to be passed. -/
def cutPieces (needle : List Char) (limit : Nat) (skip : Nat) (piece : List Char) :
    List Char → List (List Char)
  | [] => [piece.reverse]
  | c :: cs =>
    if skip > 0 then cutPieces needle limit (skip - 1) piece cs
    else if limit > 0 && needle.isPrefixOf (c :: cs) then
      piece.reverse :: cutPieces needle (limit - 1) (needle.length - 1) [] cs
    else cutPieces needle limit 0 (c :: piece) cs

/-- The pieces between the occurrences of a text that is not empty, cut at most `limit` times. -/
def cutAtText (needle : List Char) (limit : Nat) (hay : List Char) : List (List Char) :=
  cutPieces needle limit 0 [] hay

/-- The same, cut from the right. -/
def cutAtTextRight (needle : List Char) (limit : Nat) (hay : List Char) : List (List Char) :=
  ((cutAtText needle.reverse limit hay.reverse).map List.reverse).reverse

/-- A text with another one put before each of at most `limit` characters and, if that leaves some over,
at the end. -/
def interleave (added : List Char) (limit : Nat) : List Char → List Char
  | [] => if limit > 0 then added else []
  | c :: cs => if limit > 0 then added ++ c :: interleave added (limit - 1) cs else c :: cs

/-- A text with at most `limit` occurrences of another one replaced. -/
def replace (old new : List Char) (limit : Nat) (s : List Char) : List Char :=
  if old.isEmpty then interleave new limit s else joinWith new (cutAtText old limit s)

/-- How often a text occurs. -/
def countOccurrences (needle hay : List Char) : Nat :=
  if needle.isEmpty then hay.length + 1 else (cutAtText needle hay.length hay).length - 1

/-- The words of a text, of which the last one runs to the end when there would be more than
`limit + 1`. -/
def wordsUpTo (limit : Nat) (s : List Char) : List (List Char) :=
  let body := s.dropWhile isBlank
  if body.isEmpty then []
  else
    match limit with
    | 0 => [body]
    | limit + 1 =>
      body.takeWhile (!isBlank ·) :: wordsUpTo limit (body.dropWhile (!isBlank ·))

/-- The same from the right. -/
def wordsUpToRight (limit : Nat) (s : List Char) : List (List Char) :=
  ((wordsUpTo limit s.reverse).map List.reverse).reverse

/-- A character that ends a line. -/
def isLineBreak (c : Char) : Bool :=
  c == '\n' || c == '\r' || c == '\x0b' || c == '\x0c' || c == '\x1c' || c == '\x1d' || c == '\x1e' ||
    c.toNat == 0x85 || c.toNat == 0x2028 || c.toNat == 0x2029

/-- The lines of a text, each with the break that ends it if these are kept; `line` is reversed. -/
def splitLines (keep : Bool) (line : List Char) : List Char → List (List Char)
  | [] => if line.isEmpty then [] else [line.reverse]
  | '\r' :: '\n' :: cs =>
    (line.reverse ++ if keep then ['\r', '\n'] else []) :: splitLines keep [] cs
  | c :: cs =>
    if isLineBreak c then (line.reverse ++ if keep then [c] else []) :: splitLines keep [] cs
    else splitLines keep (c :: line) cs

end Stencil.Text
