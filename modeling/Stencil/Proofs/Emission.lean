import Stencil.Proofs.Lines

/-!
# What segments add to a listing

Each segment adds lines of its own to a listing and nothing else, whatever stands there: first it may
leave the innermost block, then it writes at the indentation that is left, and then it may open a block.
All that a listing under construction can do is said here once.
-/

namespace Stencil

variable {l l' : Listing} {index : Nat} {s : Segment} {ls : List (List Char)}

namespace Listing

/-- A line at an indentation; an empty line stays empty. -/
def indented (indent text : List Char) : List Char := if text.isEmpty then [] else indent ++ text

/-- The indentation inside blocks. -/
def indentIn (blocks : List OpenBlock) : List Char := (blocks.head?.map (·.indent)).getD []

/-- Whether the statement with these lines opens a block. -/
def opens (ls : List (List Char)) : Bool :=
  !(lastLine ls).isEmpty && Opening.opensBlock (lastLine ls)

/-- The indentation inside the block that these lines open. -/
def innerIndent (indent : List Char) (ls : List (List Char)) : List Char :=
  indent ++ Text.leadingBlanks (lastLine ls) ++ step

/-- The lines of a statement; a block that it opens begins with a line of its own. -/
def statementText (indent : List Char) (ls : List (List Char)) : List (List Char) :=
  ls.map (fun line => indented indent (Text.trimEnd Text.isBlank line)) ++
    if opens ls then [innerIndent indent ls ++ "pass".toList] else []

end Listing

namespace Segment

open Listing

/-- Whether a segment leaves the innermost block. -/
def closes (s : Segment) : Bool :=
  s.kind = .statement && role (statementLines s.code) != .plain

/-- Whether a segment opens a block. -/
def opens (s : Segment) : Bool :=
  s.kind = .statement && role (statementLines s.code) != .closer && Listing.opens (statementLines s.code)

/-- Whether a segment is to hold an expression and holds none. -/
def lacksExpression (s : Segment) : Bool :=
  (s.kind = .interpolation || s.kind = .deferred) && Text.isBlankText s.code.toList

/-- The lines of a segment at an indentation. -/
def text (indent : List Char) (index : Nat) (s : Segment) : List (List Char) :=
  match s.kind with
  | .literal =>
    [indented indent ("_tpl_write(".toList ++ Text.Quoted.encode s.code.toList ++ [')'])]
  | .statement =>
    if role (statementLines s.code) = .closer then [] else statementText indent (statementLines s.code)
  | .interpolation =>
    indented indent "_tpl_emit((".toList :: expressionLines s.code ++ [indented indent "))".toList]
  | .deferred =>
    [indented indent ("_tpl_defer(".toList ++ (Text.natText index).toList ++ [')'])]
  | .comment => []
  | .error => []

end Segment

namespace Listing

/-- The blocks around the lines of a segment. -/
def blocksAround (l : Listing) (s : Segment) : List OpenBlock :=
  if s.closes then l.blocks.tail else l.blocks

/-- A listing with the lines of a segment, after which the block that it opens is open. -/
def withSegment (l : Listing) (index : Nat) (s : Segment) : Listing :=
  let outer := l.blocksAround s
  let indent := indentIn outer
  { lines := l.lines ++ (s.text indent index).map fun line => ⟨line, index⟩
    blocks :=
      if s.opens then ⟨s, innerIndent indent (statementLines s.code)⟩ :: outer else outer }

theorem foldl_addLine (f : List Char → List Char) :
    ls.foldl (fun acc line => acc.addLine index (f line)) l =
      { l with lines := l.lines ++ ls.map fun line => ⟨indented l.indent (f line), index⟩ } := by
  induction ls generalizing l with
  | nil => simp
  | cons line ls ih =>
    rw [List.foldl_cons, ih]
    simp [addLine, indented, indent]

theorem foldl_addVerbatim :
    ls.foldl (fun acc line => acc.addVerbatim index line) l =
      { l with lines := l.lines ++ ls.map fun line => ⟨line, index⟩ } := by
  induction ls generalizing l with
  | nil => simp
  | cons line ls ih =>
    rw [List.foldl_cons, ih]
    simp [addVerbatim]

theorem addLines_eq :
    l.addLines index s ls =
      { lines := l.lines ++ (statementText (indentIn l.blocks) ls).map fun line => ⟨line, index⟩
        blocks := if opens ls then ⟨s, innerIndent (indentIn l.blocks) ls⟩ :: l.blocks else l.blocks } := by
  unfold addLines statementText
  rw [foldl_addLine]
  by_cases hopens : opens ls = true
  · rw [if_pos hopens, if_pos hopens]
    refine (if_pos hopens).trans ?_
    simp [addLine, innerIndent, indent, indentIn]
  · rw [if_neg hopens, if_neg hopens]
    refine (if_neg hopens).trans ?_
    simp [indent, indentIn]

/-- All that adding a segment can do. -/
theorem addSegment_eq : l.addSegment index s =
    if s.lacksExpression then .error (.emptyExpression s)
    else if s.closes && l.blocks.isEmpty then .error (.noOpenBlock s)
    else .ok (l.withSegment index s) := by
  obtain ⟨kind, code, line, indicator⟩ := s
  simp only [addSegment, withSegment, blocksAround]
  cases kind with
  | comment | error => simp [Segment.lacksExpression, Segment.closes, Segment.opens, Segment.text]
  | literal =>
    simp [Segment.lacksExpression, Segment.closes, Segment.opens, Segment.text, addLine, indented,
      indent, indentIn]
  | deferred =>
    by_cases hblank : Text.isBlankText code.toList = true
    · simp [Segment.lacksExpression, hblank]
    · simp [Segment.lacksExpression, hblank, Segment.closes, Segment.opens, Segment.text, addLine,
        indented, indent, indentIn]
  | interpolation =>
    by_cases hblank : Text.isBlankText code.toList = true
    · simp [Segment.lacksExpression, hblank]
    · simp [Segment.lacksExpression, hblank, Segment.closes, Segment.opens, Segment.text,
        addInterpolation, foldl_addVerbatim, addLine, indented, indent, indentIn]
  | statement =>
    simp only [addStatement]
    cases hrole : role (statementLines code) with
    | plain =>
      simp [Segment.lacksExpression, Segment.closes, Segment.opens, Segment.text, hrole, addLines_eq]
    | closer =>
      cases hblocks : l.blocks <;>
        simp [Segment.lacksExpression, Segment.closes, Segment.opens, Segment.text, hrole, closeBlock,
          hblocks]
    | continuation =>
      cases hblocks : l.blocks <;>
        simp [Segment.lacksExpression, Segment.closes, Segment.opens, Segment.text, hrole, closeBlock,
          hblocks, addLines_eq, Except.map]

theorem addSegment_eq_ok : l.addSegment index s = .ok l' ↔
    s.lacksExpression = false ∧ (s.closes = true → l.blocks ≠ []) ∧ l' = l.withSegment index s := by
  rw [addSegment_eq]
  cases s.lacksExpression <;> cases s.closes <;> cases hblocks : l.blocks <;> simp [eq_comm]

/-- The lines that each of some segments adds to a listing, when they are added in order. -/
inductive Emits : Listing → Nat → List Segment → List (List (List Char)) → Listing → Prop
  | nil (l : Listing) (index : Nat) : Emits l index [] [] l
  | cons {l m l' : Listing} {index : Nat} {s : Segment} {ss : List Segment}
      {block : List (List Char)} {blocks : List (List (List Char))} :
      l.addSegment index s = .ok m → m.lines.map (·.text) = l.lines.map (·.text) ++ block →
      Emits m (index + 1) ss blocks l' → Emits l index (s :: ss) (block :: blocks) l'

/-- Segments that can be added have lines of their own each. -/
theorem exists_emits {ss : List Segment} (h : l.addSegments index ss = .ok l') :
    ∃ blocks, Emits l index ss blocks l' := by
  induction ss generalizing l index with
  | nil =>
    obtain rfl := Except.ok.inj h
    exact ⟨[], .nil l index⟩
  | cons s ss ih =>
    rw [addSegments] at h
    cases hs : l.addSegment index s with
    | error e =>
      rw [hs] at h
      cases h
    | ok m =>
      rw [hs] at h
      obtain ⟨blocks, hblocks⟩ := ih h
      obtain ⟨-, -, rfl⟩ := addSegment_eq_ok.1 hs
      exact ⟨s.text (indentIn (l.blocksAround s)) index :: blocks,
        .cons hs (by simp [withSegment, Function.comp_def]) hblocks⟩

theorem exists_emits_of_ofProgram {p : Program} (h : ofProgram p = .ok l) :
    ∃ blocks, Emits {} 0 p.segments blocks l := by
  refine exists_emits ?_
  unfold ofProgram at h
  cases hadd : addSegments {} 0 p.segments with
  | error e =>
    rw [hadd] at h
    cases h
  | ok m =>
    simp only [hadd, bind, Except.bind] at h
    split at h
    · exact h
    · cases h

/-- Each line that a segment adds is marked with it. -/
theorem Emits.lines_eq {ss : List Segment} {blocks : List (List (List Char))}
    (h : Emits l index ss blocks l') :
    l'.lines = l.lines ++ (blocks.zipIdx index).flatMap fun b => b.1.map fun line => ⟨line, b.2⟩ := by
  induction h with
  | nil => simp
  | @cons l m l' index s ss block blocks hs htext _ ih =>
    obtain ⟨-, -, rfl⟩ := addSegment_eq_ok.1 hs
    have hblock : s.text (indentIn (l.blocksAround s)) index = block := by
      simpa [withSegment, Function.comp_def] using htext
    rw [ih, List.zipIdx_cons, List.flatMap_cons, ← List.append_assoc, ← hblock]
    rfl

theorem Emits.length_eq {ss : List Segment} {blocks : List (List (List Char))}
    (h : Emits l index ss blocks l') : blocks.length = ss.length := by
  induction h with
  | nil => rfl
  | cons _ _ _ ih => rw [List.length_cons, List.length_cons, ih]

/-! ## Lines that do not break -/

/-- Every line of a listing stands on one line, and so will those of the blocks that are open. -/
structure Unbroken (l : Listing) : Prop where
  lines : ∀ line ∈ l.lines, Text.Unbroken line.text
  blocks : ∀ b ∈ l.blocks, Text.Unbroken b.indent

theorem unbroken_empty : Unbroken {} := ⟨by simp, by simp⟩

theorem unbroken_indented {indent text : List Char} (hi : Text.Unbroken indent)
    (ht : Text.Unbroken text) : Text.Unbroken (indented indent text) := by
  unfold indented
  split
  · exact Text.unbroken_nil
  · exact Text.unbroken_append.2 ⟨hi, ht⟩

theorem lastLine_eq_nil_or_mem (ls : List (List Char)) : lastLine ls = [] ∨ lastLine ls ∈ ls := by
  unfold lastLine
  cases h : (ls.filter fun l => !Text.isBlankText l).getLast? with
  | none => exact .inl rfl
  | some line => exact .inr (List.mem_filter.1 (List.mem_of_getLast? h)).1

theorem unbroken_innerIndent {indent : List Char} (hi : Text.Unbroken indent)
    (hls : ∀ line ∈ ls, Text.Unbroken line) : Text.Unbroken (innerIndent indent ls) := by
  refine Text.unbroken_append.2 ⟨Text.unbroken_append.2 ⟨hi, ?_⟩, by decide, by decide⟩
  have hlast : Text.Unbroken (lastLine ls) := by
    rcases lastLine_eq_nil_or_mem ls with h | h
    · exact h ▸ Text.unbroken_nil
    · exact hls _ h
  exact hlast.of_subset (List.takeWhile_prefix _).subset

/-- What a line of a segment is: a call, a line of an expression, a line of a statement, or the line that
begins a block. -/
theorem mem_text_cases {indent line : List Char} (h : line ∈ s.text indent index) :
    (∃ call, Text.Unbroken call ∧ line = indented indent call) ∨
    (s.kind = .interpolation ∧ line ∈ expressionLines s.code) ∨
    (s.kind = .statement ∧ role (statementLines s.code) ≠ .closer ∧
      ∃ m ∈ statementLines s.code, line = indented indent (Text.trimEnd Text.isBlank m)) ∨
    (s.opens = true ∧ line = innerIndent indent (statementLines s.code) ++ "pass".toList) := by
  unfold Segment.text at h
  split at h
  · rw [List.mem_singleton.1 h]
    exact .inl ⟨_, Text.unbroken_append.2 ⟨Text.unbroken_append.2
      ⟨⟨by decide, by decide⟩, Text.unbroken_encode _⟩, ⟨by decide, by decide⟩⟩, rfl⟩
  · rename_i hkind
    split at h
    · cases h
    · rename_i hrole
      rcases List.mem_append.1 h with h | h
      · obtain ⟨m, hm, rfl⟩ := List.mem_map.1 h
        exact .inr (.inr (.inl ⟨hkind, hrole, m, hm, rfl⟩))
      · split at h
        · rename_i hopens
          exact .inr (.inr (.inr
            ⟨by simp [Segment.opens, hkind, hrole, hopens], List.mem_singleton.1 h⟩))
        · cases h
  · rename_i hkind
    simp only [List.mem_cons, List.mem_append, List.not_mem_nil, or_false] at h
    rcases h with (rfl | h) | rfl
    · exact .inl ⟨_, ⟨by decide, by decide⟩, rfl⟩
    · exact .inr (.inl ⟨hkind, h⟩)
    · exact .inl ⟨_, ⟨by decide, by decide⟩, rfl⟩
  · rw [List.mem_singleton.1 h]
    exact .inl ⟨_, Text.unbroken_append.2 ⟨Text.unbroken_append.2
      ⟨⟨by decide, by decide⟩, Text.unbroken_natText _⟩, ⟨by decide, by decide⟩⟩, rfl⟩
  · cases h
  · cases h

/-- What segments write at indentations with some property, and what they make of the indentation, holds
of all lines of a listing and of the blocks that are open. -/
theorem Emits.invariant {ss : List Segment} {blocks : List (List (List Char))}
    (h : Emits l index ss blocks l') (Good Clear : List Char → Prop) (hclear : Clear [])
    (hgood : ∀ s ∈ ss, ∀ indent index, Clear indent → ∀ line ∈ s.text indent index, Good line)
    (hinner : ∀ s ∈ ss, ∀ indent, Clear indent → s.opens = true →
      Clear (innerIndent indent (statementLines s.code)))
    (hlines : ∀ line ∈ l.lines, Good line.text) (hblocks : ∀ b ∈ l.blocks, Clear b.indent) :
    (∀ line ∈ l'.lines, Good line.text) ∧ ∀ b ∈ l'.blocks, Clear b.indent := by
  induction h with
  | nil => exact ⟨hlines, hblocks⟩
  | @cons l m l' index s ss block blocks hadd _ _ ih =>
    rw [List.forall_mem_cons] at hgood hinner
    obtain ⟨-, -, rfl⟩ := addSegment_eq_ok.1 hadd
    have houter : ∀ b ∈ l.blocksAround s, Clear b.indent := by
      intro b hb
      unfold blocksAround at hb
      split at hb
      · exact hblocks b (List.mem_of_mem_tail hb)
      · exact hblocks b hb
    have hindent : Clear (indentIn (l.blocksAround s)) := by
      unfold indentIn
      cases hb : l.blocksAround s with
      | nil => exact hclear
      | cons b outer => exact houter b (hb ▸ List.mem_cons_self)
    refine ih hgood.2 hinner.2 ?_ ?_
    · intro line hline
      rcases List.mem_append.1 hline with hline | hline
      · exact hlines line hline
      · obtain ⟨text, htext, rfl⟩ := List.mem_map.1 hline
        exact hgood.1 _ index hindent text htext
    · intro b hb
      simp only [withSegment] at hb
      split at hb
      · rename_i hopens
        rcases List.mem_cons.1 hb with rfl | hb
        · exact hinner.1 _ hindent hopens
        · exact houter b hb
      · exact houter b hb

/-- The lines of a segment without carriage returns do not break. -/
theorem unbroken_of_mem_text {indent line : List Char} (hi : Text.Unbroken indent)
    (hs : '\r' ∉ s.code.toList) (h : line ∈ s.text indent index) : Text.Unbroken line := by
  rcases mem_text_cases h with ⟨call, hcall, rfl⟩ | ⟨-, h⟩ | ⟨-, -, m, hm, rfl⟩ | ⟨-, rfl⟩
  · exact unbroken_indented hi hcall
  · exact unbroken_of_mem_expressionLines hs h
  · exact unbroken_indented hi
      ((unbroken_of_mem_statementLines hs hm).of_subset (Text.trimEnd_subset _ _))
  · exact Text.unbroken_append.2 ⟨unbroken_innerIndent hi fun line hline =>
      unbroken_of_mem_statementLines hs hline, by decide, by decide⟩

theorem Emits.unbroken {ss : List Segment} {blocks : List (List (List Char))}
    (h : Emits l index ss blocks l') (hl : l.Unbroken) (hs : ∀ s ∈ ss, '\r' ∉ s.code.toList) :
    l'.Unbroken := by
  obtain ⟨hlines, hblocks⟩ := h.invariant Text.Unbroken Text.Unbroken Text.unbroken_nil
    (fun s hmem _ _ hi _ hline => unbroken_of_mem_text hi (hs s hmem) hline)
    (fun s hmem _ hi _ => unbroken_innerIndent hi fun line hline =>
      unbroken_of_mem_statementLines (hs s hmem) hline) hl.lines hl.blocks
  exact ⟨hlines, hblocks⟩

/-- The lines of a listing are those that a reader of its text counts. -/
theorem Unbroken.lines_source (hl : l.Unbroken) (hne : l.lines ≠ []) :
    Text.lines (Script.Lexer.normalize l.source) = l.lines.map (·.text) ++ [[]] := by
  have hlines : ∀ line ∈ l.lines.map (·.text) ++ [[]], Text.Unbroken line := by
    intro line hline
    rcases List.mem_append.1 hline with hline | hline
    · obtain ⟨m, hm, rfl⟩ := List.mem_map.1 hline
      exact hl.lines m hm
    · exact List.mem_singleton.1 hline ▸ Text.unbroken_nil
  have hreturn : '\r' ∉ Text.joinWith ['\n'] (l.lines.map (·.text) ++ [[]]) := by
    intro hmem
    rcases Text.mem_of_mem_joinWith hmem with h | ⟨line, hline, h⟩
    · simp at h
    · exact (hlines line hline).2 h
  rw [source, Text.joinWith_append_singleton (by simpa using hne),
    Script.Lexer.normalize_of_not_mem hreturn]
  exact Text.cutAt_joinWith (by simp) fun line hline => (hlines line hline).1

end Listing

end Stencil
