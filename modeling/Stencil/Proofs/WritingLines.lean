import Stencil.Proofs.LineTokens
import Stencil.Proofs.QuotedText
import Stencil.Proofs.Takings
import Stencil.Script.Validity

/-!
# Lines that write a text

A line of a listing that writes a text is five tokens: the name of a function, the quoted text between
parentheses, and the end of the line. It reads as one statement, which calls the function with the text
itself.
-/

namespace Stencil

namespace Script

/-- The statement that writes a text. -/
def writingStmt (n : Nat) (s : String) : Stmt :=
  .at n (.expr (.call (.name "_tpl_write") [.positional (.constant (.str s))]))

namespace Lexer

variable {st st' : State} {c : Char} {cs rest s : List Char} {t : Token} {fuel n : Nat}

/-! ## Tokens -/

end Lexer

open Reading Expression Lexer

variable {ts : Array Token} {rules : Rules} {line n i : Nat} {s : String} {next : Token}

/-- The statements of lines that write texts. -/
def writingStmts (n : Nat) : List String → Block
  | [] => []
  | s :: texts => writingStmt n s :: writingStmts (n + 1) texts

namespace Validity

end Validity

end Script

end Stencil
