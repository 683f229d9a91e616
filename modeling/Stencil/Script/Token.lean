import Stencil.Text.Word

/-!
# Tokens of scripts

The code of a template is a script: logical lines of names, literals and operators, with the
indentation of its blocks as tokens of their own.
-/

namespace Stencil.Script

/-- A number as it is written. -/
inductive NumberLiteral where
  | int (n : Nat)
  | float (x : Float)
  /-- An imaginary number; scripts may write one but not compute with it. -/
  | imaginary
  deriving Inhabited

/-- A text as it is written, between its delimiters. -/
structure TextLiteral where
  /-- Backslashes stand for themselves. -/
  raw : Bool := false
  /-- The literal denotes bytes. -/
  bytes : Bool := false
  /-- The literal holds expressions in braces. -/
  formatted : Bool := false
  body : List Char
  deriving Inhabited, DecidableEq, Repr

/-- The kinds of tokens. -/
inductive TokenKind where
  | name
  | number (n : NumberLiteral)
  | text (t : TextLiteral)
  | operator
  /-- The end of a logical line. -/
  | newline
  /-- A deeper indentation than that of the line before. -/
  | indent
  /-- The return to the indentation of an outer block. -/
  | dedent
  /-- The end of the script. -/
  | finish
  deriving Inhabited

/-- A token of a script. -/
structure Token where
  kind : TokenKind
  /-- The name or operator; empty for other kinds. -/
  text : String := ""
  /-- The physical line, counted from one, on which the token begins. -/
  line : Nat
  /-- How many brackets are open after the token. -/
  level : Nat := 0
  deriving Inhabited

/-- Where the tokens of a script end early. -/
structure LexicalError where
  /-- The line at fault. -/
  line : Nat
  /-- The characters at fault are no token in any context. -/
  hard : Bool
  /-- The line of the innermost bracket that is open at that point. -/
  openLine : Option Nat := none
  deriving Inhabited, Repr

/-- The words that are no names. -/
def keywords : List String :=
  ["False", "None", "True", "and", "as", "assert", "async", "await", "break", "class", "continue",
    "def", "del", "elif", "else", "except", "finally", "for", "from", "global", "if", "import", "in",
    "is", "lambda", "nonlocal", "not", "or", "pass", "raise", "return", "try", "while", "with",
    "yield"]

end Stencil.Script
