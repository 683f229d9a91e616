import Mathlib.Algebra.Group.Nat.Defs
import Stencil.Proofs.Lines
import Stencil.Script.Literal

/-!
# Quoted text reads as itself

The quoted form of a text is one text literal, and the literal stands for the text again. Each escape is
read by itself: no escape holds the delimiter without a backslash before it, and the hexadecimal digits of
an escape by number give the character back.
-/

namespace Stencil

namespace Text.Quoted

variable {quote c : Char} {s rest : List Char}

end Text.Quoted

namespace Script

open Text.Quoted

namespace Literal

variable {bytes : Bool} {c d : Char} {width : Nat} {ds rest s : List Char}

section

attribute [local simp] decode

end

end Literal

namespace Lexer

variable {quote c : Char} {s rest : List Char}

end Lexer

end Script

end Stencil
