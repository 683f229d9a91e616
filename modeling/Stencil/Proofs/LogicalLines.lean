import Mathlib.Tactic.SplitIfs
import Stencil.Proofs.Lines

/-!
# Logical lines

How a script falls into blocks by its indentation, apart from what its tokens are. A logical line goes on
to the first line break outside brackets and texts that no backslash takes away; blank lines and those
with a comment only do not count. A line that is deeper than the one before begins a suite under it, and a
line that is less deep ends suites until it meets the column of one that is still open.
-/

namespace Stencil.Script.Layout

/-- A delimiter of texts. -/
inductive Quote where
  | single
  | double
  deriving DecidableEq, Repr

/-- The character of a delimiter. -/
def Quote.char : Quote → Char
  | single => '\''
  | double => '"'

/-- What is open between two characters of a script. -/
inductive Mode where
  | code
  | comment
  /-- After a backslash outside texts. -/
  | joined
  /-- After the first delimiter of a text. -/
  | opening (quote : Quote)
  /-- After two delimiters: an empty text, unless a third one makes it a long one. -/
  | empty (quote : Quote)
  | short (quote : Quote)
  | shortEscape (quote : Quote)
  /-- In a long text, after a number of delimiters in a row. -/
  | long (quote : Quote) (count : Nat)
  | longEscape (quote : Quote)
  deriving DecidableEq, Repr

/-- A place between two characters, with the number of brackets that are open there. -/
structure Cursor where
  mode : Mode := .code
  depth : Nat := 0
  deriving DecidableEq, Repr

namespace Cursor

/-- The place after a character outside texts and comments. -/
def afterCode (depth : Nat) (c : Char) : Option Cursor :=
  if c = '#' then some ⟨.comment, depth⟩
  else if c = '\\' then some ⟨.joined, depth⟩
  else if c = '\'' then some ⟨.opening .single, depth⟩
  else if c = '"' then some ⟨.opening .double, depth⟩
  else if c = '(' ∨ c = '[' ∨ c = '\x7b' then some ⟨.code, depth + 1⟩
  else if c = ')' ∨ c = ']' ∨ c = '\x7d' then
    if depth = 0 then none else some ⟨.code, depth - 1⟩
  else some ⟨.code, depth⟩

/-- The place after a character of a short text. -/
def afterShort (quote : Quote) (depth : Nat) (closed : Mode) (c : Char) : Option Cursor :=
  if c = quote.char then some ⟨closed, depth⟩
  else if c = '\\' then some ⟨.shortEscape quote, depth⟩
  else if c = '\n' then none
  else some ⟨.short quote, depth⟩

/-- The place after a character; none after a bracket that closes nothing, a short text that is not closed
on its line, or a backslash that stands before something else than a line break. -/
def next (p : Cursor) (c : Char) : Option Cursor :=
  match p.mode with
  | .code => afterCode p.depth c
  | .comment => some ⟨if c = '\n' then .code else .comment, p.depth⟩
  | .joined => if c = '\n' then some ⟨.code, p.depth⟩ else none
  | .opening q => afterShort q p.depth (.empty q) c
  | .empty q => if c = q.char then some ⟨.long q 0, p.depth⟩ else afterCode p.depth c
  | .short q => afterShort q p.depth .code c
  | .shortEscape q => some ⟨.short q, p.depth⟩
  | .long q k =>
    if c = q.char then some (if k = 2 then ⟨.code, p.depth⟩ else ⟨.long q (k + 1), p.depth⟩)
    else if c = '\\' then some ⟨.longEscape q, p.depth⟩
    else some ⟨.long q 0, p.depth⟩
  | .longEscape q => some ⟨.long q 0, p.depth⟩

/-- The place after a text. -/
def run (p : Cursor) (s : List Char) : Option Cursor := s.foldlM next p

/-- Whether a line break ends the logical line here. -/
def endsLine (p : Cursor) : Bool :=
  p.depth == 0 &&
    match p.mode with
    | .code | .comment | .empty _ => true
    | _ => false

end Cursor

/-- A text that leaves no bracket, no text and no continuation open. -/
def IsClosed (s : List Char) : Prop :=
  ∃ p, Cursor.run {} (Lexer.normalize s) = some p ∧ p.endsLine = true

instance (s : List Char) : Decidable (IsClosed s) :=
  decidable_of_iff ((Cursor.run {} (Lexer.normalize s)).any Cursor.endsLine = true)
    (by simp [IsClosed, Option.any_eq_true])

/-- A logical line: the column in which it begins, and what stands there up to the line break. -/
structure LogicalLine where
  column : Nat
  text : List Char
  deriving DecidableEq, Repr

/-- Where the reading of logical lines is: at the head of a line with the column that is reached, in a
comment that stands alone, or in a logical line of which the text so far is kept in reverse. -/
inductive Reading where
  | margin (column : Nat)
  | remark
  | line (column : Nat) (text : List Char) (place : Cursor)
  deriving DecidableEq, Repr

/-- The logical lines of the rest of a script. Tabs reach to the next multiple of eight. -/
def logicalLines : Reading → List Char → Option (List LogicalLine)
  | .margin _, [] => some []
  | .margin k, c :: cs =>
    if c = ' ' then logicalLines (.margin (k + 1)) cs
    else if c = '\t' then logicalLines (.margin ((k / 8 + 1) * 8)) cs
    else if c = '\x0c' ∨ c = '\n' then logicalLines (.margin 0) cs
    else if c = '#' then logicalLines .remark cs
    else
      match Cursor.next {} c with
      | none => none
      | some p => logicalLines (.line k [c] p) cs
  | .remark, [] => some []
  | .remark, c :: cs => logicalLines (if c = '\n' then .margin 0 else .remark) cs
  | .line k text p, [] => if p.endsLine then some [⟨k, text.reverse⟩] else none
  | .line k text p, c :: cs =>
    if c = '\n' ∧ p.endsLine = true then
      (logicalLines (.margin 0) cs).map (⟨k, text.reverse⟩ :: ·)
    else
      match p.next c with
      | none => none
      | some q => logicalLines (.line k (c :: text) q) cs

/-- What the reader of blocks sees: lines, and where suites begin and end. -/
inductive Mark where
  | line (text : List Char)
  | indent
  | dedent
  deriving DecidableEq, Repr

/-- The marks of logical lines after others whose open columns are given, the innermost first; none when a
line meets no open column. -/
def marks : List Nat → List LogicalLine → Option (List Mark)
  | open', [] => some (open'.map fun _ => .dedent)
  | open', l :: ls =>
    if open'.headD 0 < l.column then
      (marks (l.column :: open') ls).map fun ms => .indent :: .line l.text :: ms
    else
      let left := open'.dropWhile (l.column < ·)
      if left.headD 0 = l.column then
        (marks left ls).map fun ms =>
          List.replicate (open'.length - left.length) .dedent ++ .line l.text :: ms
      else none

/-- A line with the suite under it. -/
inductive LineTree where
  | node (text : List Char) (suite : List LineTree)
  deriving Repr

mutual

/-- The marks of a line with its suite. -/
def LineTree.marks : LineTree → List Mark
  | .node text suite =>
    .line text :: if suite.isEmpty then [] else .indent :: (LineTree.marksOf suite ++ [.dedent])

/-- The marks of lines with their suites, one after another. -/
def LineTree.marksOf : List LineTree → List Mark
  | [] => []
  | t :: ts => t.marks ++ LineTree.marksOf ts

end

/-- A script reads as some lines with their suites. -/
def Reads (source : List Char) (ts : List LineTree) : Prop :=
  ∃ ls, logicalLines (.margin 0) (Lexer.normalize source) = some ls ∧
    marks [] ls = some (LineTree.marksOf ts)

/-! ## Trees of lines -/

/-- Nothing follows, or what follows ends a suite. -/
def EndsSuite (ms : List Mark) : Prop := ms = [] ∨ ∃ rest, ms = .dedent :: rest

theorem EndsSuite.dedent (ms : List Mark) : EndsSuite (.dedent :: ms) := .inr ⟨ms, rfl⟩

/-- The marks of lines and what ends their suite fall apart in one way. -/
theorem marksOf_append_inj : ∀ (ts us : List LineTree) {a b : List Mark}, EndsSuite a → EndsSuite b →
    LineTree.marksOf ts ++ a = LineTree.marksOf us ++ b → ts = us ∧ a = b
  | [], [], _, _, _, _, h => ⟨rfl, h⟩
  | [], .node t cs :: us, a, b, ha, _, h => by
    rcases ha with rfl | ⟨rest, rfl⟩ <;> simp [LineTree.marksOf, LineTree.marks] at h
  | .node t cs :: ts, [], a, b, _, hb, h => by
    rcases hb with rfl | ⟨rest, rfl⟩ <;> simp [LineTree.marksOf, LineTree.marks] at h
  | .node t cs :: ts, .node t' cs' :: us, a, b, ha, hb, h => by
    -- After a line and its suite other lines follow, or what ends the suite around.
    have indent_ne (vs : List LineTree) {c : List Mark} (hc : EndsSuite c) (ms : List Mark) :
        LineTree.marksOf vs ++ c ≠ .indent :: ms := by
      cases vs with
      | nil => rcases hc with rfl | ⟨rest, rfl⟩ <;> simp [LineTree.marksOf]
      | cons v vs =>
        cases v
        simp [LineTree.marksOf, LineTree.marks]
    simp only [LineTree.marksOf, LineTree.marks, List.cons_append, List.append_assoc,
      List.cons.injEq, Mark.line.injEq] at h
    obtain ⟨rfl, h⟩ := h
    cases cs with
    | nil =>
      cases cs' with
      | nil =>
        obtain ⟨rfl, hab⟩ := marksOf_append_inj ts us ha hb (by simpa using h)
        exact ⟨rfl, hab⟩
      | cons c' cs' => exact absurd (by simpa using h) (indent_ne ts ha _)
    | cons c cs =>
      cases cs' with
      | nil => exact absurd (by simpa using h.symm) (indent_ne us hb _)
      | cons c' cs' =>
        simp only [List.isEmpty_cons, Bool.false_eq_true, if_false, List.cons_append,
          List.append_assoc, List.nil_append, List.cons.injEq, true_and] at h
        obtain ⟨hsuite, hrest⟩ :=
          marksOf_append_inj (c :: cs) (c' :: cs') (.dedent _) (.dedent _) h
        obtain ⟨rfl, hab⟩ := marksOf_append_inj ts us ha hb (List.cons.inj hrest).2
        exact ⟨by rw [hsuite], hab⟩

/-- A script reads as one list of lines with suites at most. -/
theorem Reads.unique {source : List Char} {ts us : List LineTree} (h : Reads source ts)
    (h' : Reads source us) : ts = us := by
  obtain ⟨ls, hls, hts⟩ := h
  obtain ⟨ls', hls', hus⟩ := h'
  obtain rfl := Option.some.inj (hls.symm.trans hls')
  have := Option.some.inj (hts.symm.trans hus)
  exact (marksOf_append_inj ts us (a := []) (b := []) (.inl rfl) (.inl rfl) (by simpa using this)).1

/-! ## Reading pieces of a script -/

namespace Cursor

variable {p q : Cursor} {c : Char} {s t : List Char} {k : Nat}

/-- A place with more brackets open around it. -/
def deeper (p : Cursor) (k : Nat) : Cursor := { p with depth := p.depth + k }

theorem afterCode_deeper {depth : Nat} (h : afterCode depth c = some q) :
    afterCode (depth + k) c = some (q.deeper k) := by
  unfold afterCode at h ⊢
  split_ifs at h ⊢ <;> cases h
  case neg => omega
  all_goals simp only [deeper, Option.some.injEq, Cursor.mk.injEq, true_and] <;> omega

theorem afterShort_deeper {depth : Nat} {quote : Quote} {closed : Mode}
    (h : afterShort quote depth closed c = some q) :
    afterShort quote (depth + k) closed c = some (q.deeper k) := by
  unfold afterShort at h ⊢
  split_ifs at h ⊢ <;> cases h <;> rfl

/-- Brackets around a text do not matter inside it. -/
theorem next_deeper (h : p.next c = some q) : (p.deeper k).next c = some (q.deeper k) := by
  obtain ⟨mode, depth⟩ := p
  cases mode with
  | code => exact afterCode_deeper h
  | opening quote => exact afterShort_deeper h
  | short quote => exact afterShort_deeper h
  | empty quote =>
    simp only [next, deeper] at h ⊢
    split_ifs at h ⊢
    · cases h
      rfl
    · exact afterCode_deeper h
  | comment | shortEscape quote | longEscape quote =>
    cases h
    rfl
  | joined | long quote count =>
    simp only [next, deeper] at h ⊢
    split_ifs at h ⊢ <;> cases h <;> rfl

theorem run_cons : p.run (c :: s) = (p.next c).bind fun q => q.run s := by
  rfl

theorem run_append : p.run (s ++ t) = (p.run s).bind fun q => q.run t := by
  rw [run, List.foldlM_append]
  rfl

/-- Where a logical line may end a line break leaves nothing behind. -/
theorem next_newline (h : p.endsLine = true) : p.next '\n' = some {} := by
  obtain ⟨mode, depth⟩ := p
  obtain ⟨hdepth, hmode⟩ := Bool.and_eq_true_iff.1 h
  obtain rfl : depth = 0 := beq_iff_eq.1 hdepth
  cases mode with
  | code | comment => rfl
  | empty quote => cases quote <;> rfl
  | _ => cases hmode

/-- A line break after which a logical line may end has left nothing behind. -/
theorem eq_of_next_newline (h : p.next '\n' = some q) (hq : q.endsLine = true) : q = {} := by
  obtain ⟨mode, depth⟩ := p
  have hcode (h : afterCode depth '\n' = some q) : q = {} := by
    obtain rfl := Option.some.inj h
    obtain rfl : depth = 0 := beq_iff_eq.1 (Bool.and_eq_true_iff.1 hq).1
    rfl
  cases mode with
  | code | comment | joined => exact hcode h
  | empty quote => cases quote <;> exact hcode h
  | opening quote | short quote => cases quote <;> cases h
  | shortEscape quote | longEscape quote =>
    obtain rfl := Option.some.inj h
    simp [endsLine] at hq
  | long quote count =>
    have hlong : q = ⟨.long quote 0, depth⟩ := by cases quote <;> exact (Option.some.inj h).symm
    simp [hlong, endsLine] at hq

end Cursor

variable {p q : Cursor} {s line rest text : List Char} {c : Char} {k d : Nat}

theorem endsLine_deeper : (p.deeper (d + 1)).endsLine = false := by
  simp [Cursor.endsLine, Cursor.deeper]

/-- The first character of a logical line. -/
def BeginsLine (c : Char) : Prop := c ≠ ' ' ∧ c ≠ '\t' ∧ c ≠ '\x0c' ∧ c ≠ '\n' ∧ c ≠ '#'

theorem logicalLines_first (hc : BeginsLine c) (h : Cursor.next {} c = some p) :
    logicalLines (.margin k) (c :: s) = logicalLines (.line k [c] p) s := by
  obtain ⟨hspace, htab, hfeed, hbreak, hhash⟩ := hc
  refine (if_neg hspace).trans ((if_neg htab).trans
    ((if_neg (not_or.2 ⟨hfeed, hbreak⟩)).trans ((if_neg hhash).trans ?_)))
  rw [h]

/-- A character that does not end the logical line is taken over. -/
theorem logicalLines_taken (hc : ¬ (c = '\n' ∧ p.endsLine = true)) (h : p.next c = some q) :
    logicalLines (.line k text p) (c :: rest) = logicalLines (.line k (c :: text) q) rest := by
  refine (if_neg hc).trans ?_
  rw [h]

theorem logicalLines_newline (h : p.endsLine = true) :
    logicalLines (.line k text p) ('\n' :: rest) =
      (logicalLines (.margin 0) rest).map (⟨k, text.reverse⟩ :: ·) :=
  if_pos ⟨rfl, h⟩

/-- Characters that break no logical line are taken over. -/
theorem logicalLines_run (h : p.run s = some q) (hs : '\n' ∉ s ∨ 0 < d) :
    logicalLines (.line k text (p.deeper d)) (s ++ rest) =
      logicalLines (.line k (s.reverse ++ text) (q.deeper d)) rest := by
  induction s generalizing p text with
  | nil =>
    obtain rfl := Option.some.inj h
    rfl
  | cons c s ih =>
    rw [Cursor.run_cons] at h
    obtain ⟨r, hr, h⟩ := Option.bind_eq_some_iff.1 h
    have hc : ¬ (c = '\n' ∧ (p.deeper d).endsLine = true) := by
      rintro ⟨rfl, he⟩
      rcases hs with hs | hs
      · simp at hs
      · obtain ⟨d, rfl⟩ := Nat.exists_eq_add_of_lt hs
        rw [Nat.zero_add, endsLine_deeper] at he
        cases he
    rw [List.cons_append, logicalLines_taken hc (Cursor.next_deeper hr),
      ih h (hs.imp_left fun hs h => hs (List.mem_cons_of_mem _ h))]
    simp

/-- Spaces at the head of a line move its column. -/
theorem logicalLines_spaces (n : Nat) :
    logicalLines (.margin k) (List.replicate n ' ' ++ rest) = logicalLines (.margin (k + n)) rest := by
  induction n generalizing k with
  | zero => rfl
  | succ n ih =>
    change logicalLines (.margin (k + 1)) (List.replicate n ' ' ++ rest) = _
    rw [ih, Nat.add_assoc, Nat.add_comm 1]

/-- A line that is empty but for spaces does not count. -/
theorem logicalLines_blank : logicalLines (.margin k) ('\n' :: rest) = logicalLines (.margin 0) rest :=
  rfl

/-- A line with a comment only does not count. -/
theorem logicalLines_comment (h : '\n' ∉ s) :
    logicalLines (.margin k) ('#' :: (s ++ '\n' :: rest)) = logicalLines (.margin 0) rest := by
  change logicalLines .remark (s ++ '\n' :: rest) = _
  induction s with
  | nil => rfl
  | cons c s ih =>
    rw [List.mem_cons, not_or] at h
    change logicalLines (if c = '\n' then .margin 0 else .remark) (s ++ '\n' :: rest) = _
    rw [if_neg (Ne.symm h.1), ih h.2]

/-- After a closed text and a line feed nothing is open. -/
theorem IsClosed.run_newline (h : IsClosed s) :
    Cursor.run {} (Lexer.normalize (s ++ ['\n'])) = some {} := by
  obtain ⟨p, hp, he⟩ := h
  rcases Lexer.normalize_append_newline s with hs | ⟨t, ht, hs⟩
  · rw [hs, Cursor.run_append, hp, Option.bind_some, Cursor.run_cons, Cursor.next_newline he]
    rfl
  · rw [ht, ← hs, hp]
    rw [hs, Cursor.run_append] at hp
    obtain ⟨q, -, h⟩ := Option.bind_eq_some_iff.1 hp
    rw [Cursor.run_cons] at h
    obtain ⟨r, hr, h⟩ := Option.bind_eq_some_iff.1 h
    obtain rfl := Option.some.inj h
    rw [Cursor.eq_of_next_newline hr he]

/-- A closed line is a logical line. -/
theorem logicalLines_closed (hline : ∃ c s, line = c :: s ∧ BeginsLine c) (hn : '\n' ∉ line)
    (h : Cursor.run {} line = some p) (he : p.endsLine = true) :
    logicalLines (.margin k) (line ++ '\n' :: rest) =
      (logicalLines (.margin 0) rest).map (⟨k, line⟩ :: ·) := by
  obtain ⟨c, s, rfl, hc⟩ := hline
  rw [Cursor.run_cons] at h
  obtain ⟨q, hq, h⟩ := Option.bind_eq_some_iff.1 h
  have hrun : logicalLines (.line k [c] q) (s ++ '\n' :: rest) =
      logicalLines (.line k (s.reverse ++ [c]) p) ('\n' :: rest) :=
    logicalLines_run (d := 0) h (.inl fun hs => hn (List.mem_cons_of_mem _ hs))
  rw [List.cons_append, logicalLines_first hc hq]
  refine hrun.trans ((logicalLines_newline he).trans ?_)
  simp

end Stencil.Script.Layout
