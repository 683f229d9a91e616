import Stencil.Text.Word

/-!
# Trimming, cutting and margins

Texts as lists of characters: trimming a class of characters at the ends, cutting at a separator, and
removing the margin that the lines of a text share. The lines of a text are what lies between its line
feeds; `joinWith` puts back what `cutAt` takes apart.
-/

namespace Stencil.Text

/-- A text without the trailing characters of a class. -/
def trimEnd (p : Char → Bool) (s : List Char) : List Char := (s.reverse.dropWhile p).reverse

/-- A text without the leading and trailing characters of a class. -/
def trim (p : Char → Bool) (s : List Char) : List Char := trimEnd p (s.dropWhile p)

/-- A text without the blanks at its ends. -/
def strip (s : String) : String := String.ofList (trim isBlank s.toList)

/-- A text of blanks only. -/
def isBlankText (s : List Char) : Bool := s.all isBlank

/-- The pieces of a text between the occurrences of a separator; there is always at least one. -/
def cutAt (sep : Char) : List Char → List (List Char)
  | [] => [[]]
  | c :: cs =>
    if c == sep then [] :: cutAt sep cs
    else match cutAt sep cs with
      | [] => [[c]]
      | piece :: pieces => (c :: piece) :: pieces

/-- The pieces in order with the separator between each two. -/
def joinWith (sep : List Char) : List (List Char) → List Char
  | [] => []
  | [piece] => piece
  | piece :: pieces => piece ++ sep ++ joinWith sep pieces

/-- The lines of a text. -/
def lines (s : List Char) : List (List Char) := cutAt '\n' s

/-- The blanks at the head of a line. -/
def leadingBlanks (s : List Char) : List Char := s.takeWhile isBlank

/-- A space or a tab. -/
def isIndent (c : Char) : Bool := c == ' ' || c == '\t'

/-- The longest common beginning of two texts. -/
def commonStart : List Char → List Char → List Char
  | a :: as, b :: bs => if a == b then a :: commonStart as bs else []
  | _, _ => []

/-- The spaces and tabs that begin every line holding something else. -/
def margin (ls : List (List Char)) : List Char :=
  match (ls.filter fun l => !l.all isIndent).map (·.takeWhile isIndent) with
  | [] => []
  | indent :: indents => indents.foldl commonStart indent

/-- The lines without their margin; lines of spaces and tabs become empty. -/
def dedent (ls : List (List Char)) : List (List Char) :=
  let m := margin ls
  ls.map fun l => if l.all isIndent then [] else l.drop m.length

/-- The words of a text: its longest runs of characters that are not blank. -/
def words (s : List Char) : List (List Char) :=
  match s with
  | [] => []
  | c :: cs =>
    if isBlank c then words cs
    else (c :: cs.takeWhile (!isBlank ·)) :: words (cs.dropWhile (!isBlank ·))
termination_by s.length
decreasing_by
  · simp
  · have := (List.dropWhile_suffix (l := cs) (!isBlank ·)).length_le
    simp only [List.length_cons]
    omega

/-- The first word of a text; empty when the text is blank. -/
def firstWord (s : List Char) : List Char := (s.dropWhile isBlank).takeWhile (!isBlank ·)

/-- How often a character occurs. -/
def occurrences (c : Char) (s : String) : Nat := s.toList.count c

/-- A whole number in decimal digits. -/
def natText (n : Nat) : String := String.ofList (Nat.toDigits 10 n)

/-- An integer in decimal digits, with a minus sign when it is negative. -/
def intText : Int → String
  | .ofNat n => natText n
  | .negSucc n => "-" ++ natText (n + 1)

end Stencil.Text
