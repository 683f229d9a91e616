import Stencil.Proofs.SegmentLines

/-!
# The block tree of a program

The directives of a program that builds fall into blocks: one that opens a block stands before the ones
inside, and `end` or a word that continues the block stands behind them. The indentation of the listing
says the same to a reader who knows nothing of directives.
-/

namespace Stencil

open Script.Layout

mutual

/-- Directives one after another, with those inside a block under the one that opens it. -/
inductive BlockTree where
  | nil
  | leaf (s : Segment) (index : Nat) (rest : BlockTree)
  | block (opener : Segment) (index : Nat) (suite : BlockTree) (ending : BlockEnding)
      (rest : BlockTree)

/-- How a block ends: with a directive that opens no other one, as `end` does, or with one that goes on
with a suite of its own. -/
inductive BlockEnding where
  | last (s : Segment) (index : Nat)
  | again (s : Segment) (index : Nat) (suite : BlockTree) (ending : BlockEnding)

end

mutual

/-- The segments of a tree in order, each with its index. -/
def BlockTree.segments : BlockTree → List (Segment × Nat)
  | .nil => []
  | .leaf s index rest => (s, index) :: rest.segments
  | .block s index suite ending rest =>
    (s, index) :: (suite.segments ++ (ending.segments ++ rest.segments))

def BlockEnding.segments : BlockEnding → List (Segment × Nat)
  | .last s index => [(s, index)]
  | .again s index suite ending => (s, index) :: (suite.segments ++ ending.segments)

end

mutual

/-- Directives stand where they do what they are there for. -/
def BlockTree.Proper : BlockTree → Prop
  | .nil => True
  | .leaf s _ rest => (s.closes = false ∧ s.opens = false) ∧ rest.Proper
  | .block s _ suite ending rest =>
    (s.closes = false ∧ s.opens = true) ∧ suite.Proper ∧ ending.Proper ∧ rest.Proper

def BlockEnding.Proper : BlockEnding → Prop
  | .last s _ => s.closes = true ∧ s.opens = false
  | .again s _ suite ending => (s.closes = true ∧ s.opens = true) ∧ suite.Proper ∧ ending.Proper

end

mutual

/-- The lines of a tree inside a number of blocks. What a directive opens begins with `pass`, and goes on
with the lines of the directives inside. -/
def BlockTree.lines (depth : Nat) : BlockTree → List LineTree
  | .nil => []
  | .leaf s index rest =>
    (s.logicalText (Listing.margin depth) index).toList.map (.node · []) ++ rest.lines depth
  | .block s _ suite ending rest =>
    .node s.statementLine (.node "pass".toList [] :: suite.lines (depth + 1)) ::
      (ending.lines depth ++ rest.lines depth)

def BlockEnding.lines (depth : Nat) : BlockEnding → List LineTree
  | .last s index => (s.logicalText (Listing.margin depth) index).toList.map (.node · [])
  | .again s _ suite ending =>
    .node s.statementLine (.node "pass".toList [] :: suite.lines (depth + 1)) :: ending.lines depth

end

/-! ## Every program that builds has a tree -/

namespace Listing

variable {l l' : Listing} {index : Nat} {ss : List Segment}

/-- A listing with the lines of segments. -/
def withSegments (l : Listing) (ss : List (Segment × Nat)) : Listing :=
  ss.foldl (fun l s => l.withSegment s.2 s.1) l

theorem withSegments_append (l : Listing) (ss ts : List (Segment × Nat)) :
    l.withSegments (ss ++ ts) = (l.withSegments ss).withSegments ts :=
  List.foldl_append

theorem addSegments_cons {s : Segment} (h : l.addSegments index (s :: ss) = .ok l') :
    (s.closes = true → l.blocks ≠ []) ∧ (l.withSegment index s).addSegments (index + 1) ss = .ok l' := by
  rw [addSegments] at h
  cases hs : l.addSegment index s with
  | error e =>
    rw [hs] at h
    cases h
  | ok m =>
    rw [hs] at h
    obtain ⟨-, hcloses, rfl⟩ := addSegment_eq_ok.1 hs
    exact ⟨hcloses, h⟩

theorem withSegments_of_addSegments (h : l.addSegments index ss = .ok l') :
    l' = l.withSegments (ss.zipIdx index) := by
  induction ss generalizing l index with
  | nil => exact (Except.ok.inj h).symm
  | cons s ss ih => exact ih (addSegments_cons h).2

theorem addSegments_of_ofProgram {p : Program} (h : ofProgram p = .ok l) :
    addSegments {} 0 p.segments = .ok l ∧ l.blocks = [] := by
  unfold ofProgram at h
  cases hadd : addSegments {} 0 p.segments with
  | error e =>
    rw [hadd] at h
    cases h
  | ok m =>
    simp only [hadd, bind, Except.bind] at h
    split at h
    · rename_i hblocks
      obtain rfl := Except.ok.inj h
      exact ⟨rfl, hblocks⟩
    · cases h

/-- What stands behind some point of a program: directives, and for each block that is open there how it
ends and the directives behind it. -/
structure Remains (ss : List (Segment × Nat)) (t : BlockTree) (open' : List (BlockEnding × BlockTree)) :
    Prop where
  proper : t.Proper
  endings : ∀ e ∈ open', e.1.Proper ∧ e.2.Proper
  segments : ss = t.segments ++ open'.flatMap fun e => e.1.segments ++ e.2.segments

namespace Remains

variable {s : Segment} {ss : List (Segment × Nat)} {t rest : BlockTree} {ending : BlockEnding}
  {open' : List (BlockEnding × BlockTree)}

theorem leaf (h : Remains ss t open') (index : Nat) (hc : s.closes = false) (ho : s.opens = false) :
    Remains ((s, index) :: ss) (.leaf s index t) open' where
  proper := ⟨⟨hc, ho⟩, h.proper⟩
  endings := h.endings
  segments := by rw [h.segments]; rfl

/-- A directive that opens a block takes the innermost ending to itself. -/
theorem block (h : Remains ss t ((ending, rest) :: open')) (index : Nat) (hc : s.closes = false)
    (ho : s.opens = true) : Remains ((s, index) :: ss) (.block s index t ending rest) open' := by
  have hends := List.forall_mem_cons.1 h.endings
  refine ⟨⟨⟨hc, ho⟩, h.proper, hends.1⟩, hends.2, ?_⟩
  rw [h.segments]
  simp [BlockTree.segments]

/-- Before a directive that ends a block that block is open. -/
theorem last (h : Remains ss t open') (index : Nat) (hc : s.closes = true) (ho : s.opens = false) :
    Remains ((s, index) :: ss) .nil ((.last s index, t) :: open') := by
  refine ⟨trivial, List.forall_mem_cons.2 ⟨⟨⟨hc, ho⟩, h.proper⟩, h.endings⟩, ?_⟩
  rw [h.segments]
  simp [BlockTree.segments, BlockEnding.segments]

/-- A directive that continues a block ends one and opens another one. -/
theorem again (h : Remains ss t ((ending, rest) :: open')) (index : Nat) (hc : s.closes = true)
    (ho : s.opens = true) :
    Remains ((s, index) :: ss) .nil ((.again s index t ending, rest) :: open') := by
  have hends := List.forall_mem_cons.1 h.endings
  refine ⟨trivial, List.forall_mem_cons.2 ⟨⟨⟨⟨hc, ho⟩, h.proper, hends.1.1⟩, hends.1.2⟩, hends.2⟩, ?_⟩
  rw [h.segments]
  simp [BlockTree.segments, BlockEnding.segments]

end Remains

theorem exists_remains (h : l.addSegments index ss = .ok l') (hl : l'.blocks = []) :
    ∃ t open', Remains (ss.zipIdx index) t open' ∧ open'.length = l.blocks.length := by
  induction ss generalizing l index with
  | nil =>
    obtain rfl := Except.ok.inj h
    exact ⟨.nil, [], ⟨trivial, by simp, rfl⟩, by rw [hl]; rfl⟩
  | cons s ss ih =>
    obtain ⟨hcloses, hrest⟩ := addSegments_cons h
    obtain ⟨t, open', hremains, hlength⟩ := ih hrest
    rw [List.zipIdx_cons]
    have houter : (l.blocksAround s).length + (if s.closes then 1 else 0) = l.blocks.length := by
      unfold blocksAround
      cases hc : s.closes with
      | false => rfl
      | true =>
        have hblocks := List.length_pos_iff.2 (hcloses hc)
        simp only [if_true, List.length_tail]
        omega
    cases ho : s.opens with
    | false =>
      have hlength : open'.length = (l.blocksAround s).length := by simpa [withSegment, ho] using hlength
      cases hc : s.closes with
      | false => exact ⟨_, _, hremains.leaf index hc ho, by simpa [hc, hlength] using houter⟩
      | true => exact ⟨_, _, hremains.last index hc ho, by simpa [hc, hlength] using houter⟩
    | true =>
      have hlength : open'.length = (l.blocksAround s).length + 1 := by
        simpa [withSegment, ho] using hlength
      cases open' with
      | nil => cases hlength
      | cons e open' =>
        rw [List.length_cons, Nat.add_right_cancel_iff] at hlength
        cases hc : s.closes with
        | false => exact ⟨_, _, hremains.block index hc ho, by simpa [hc, hlength] using houter⟩
        | true => exact ⟨_, _, hremains.again index hc ho, by simpa [hc, hlength] using houter⟩

/-- The directives of a program that builds make up a tree. -/
theorem exists_blockTree {p : Program} (h : ofProgram p = .ok l) :
    ∃ t : BlockTree, t.Proper ∧ t.segments = p.segments.zipIdx := by
  obtain ⟨hadd, hl⟩ := addSegments_of_ofProgram h
  obtain ⟨t, open', hremains, hlength⟩ := exists_remains hadd hl
  obtain rfl := List.length_eq_zero_iff.1 hlength
  exact ⟨t, hremains.proper, by simpa using hremains.segments.symm⟩

end Listing

/-! ## Where the segments of a tree stand -/

mutual

/-- The segments of a tree, each with the number of blocks around the lines that it writes. -/
def BlockTree.placed (depth : Nat) : BlockTree → List (Nat × Segment × Nat)
  | .nil => []
  | .leaf s index rest => (depth, s, index) :: rest.placed depth
  | .block s index suite ending rest =>
    (depth, s, index) :: (suite.placed (depth + 1) ++ (ending.placed depth ++ rest.placed depth))

def BlockEnding.placed (depth : Nat) : BlockEnding → List (Nat × Segment × Nat)
  | .last s index => [(depth, s, index)]
  | .again s index suite ending =>
    (depth, s, index) :: (suite.placed (depth + 1) ++ ending.placed depth)

end

mutual

theorem BlockTree.map_placed : ∀ (depth : Nat) (t : BlockTree), (t.placed depth).map (·.2) = t.segments
  | _, .nil => rfl
  | depth, .leaf s index rest => by
    simp [BlockTree.placed, BlockTree.segments, rest.map_placed depth]
  | depth, .block s index suite ending rest => by
    simp [BlockTree.placed, BlockTree.segments, suite.map_placed (depth + 1),
      ending.map_placed depth, rest.map_placed depth]

theorem BlockEnding.map_placed :
    ∀ (depth : Nat) (e : BlockEnding), (e.placed depth).map (·.2) = e.segments
  | _, .last s index => rfl
  | depth, .again s index suite ending => by
    simp [BlockEnding.placed, BlockEnding.segments, suite.map_placed (depth + 1),
      ending.map_placed depth]

end

/-! ## The listing of a tree -/

namespace Listing

variable {l : Listing} {index depth : Nat} {s : Segment}

/-- The lines of segments where they stand. -/
def written (ps : List (Nat × Segment × Nat)) : List (List Char) :=
  ps.flatMap fun p => p.2.1.text (margin p.1) p.2.2

theorem written_append (ps qs : List (Nat × Segment × Nat)) :
    written (ps ++ qs) = written ps ++ written qs :=
  List.flatMap_append

theorem lines_withSegment :
    (l.withSegment index s).lines.map (·.text) =
      l.lines.map (·.text) ++ s.text (indentIn (l.blocksAround s)) index := by
  simp [withSegment, Function.comp_def]

/-- A statement that opens a block has a line. -/
theorem statementLine_of_opens (hs : s.StandsAlone) (ho : s.opens = true) :
    s.kind = .statement ∧ role (statementLines s.code) ≠ .closer ∧
      opens [s.statementLine] = true ∧ statementLines s.code = [s.statementLine] ∧
        s.statementLine.head?.any Text.isBlank = false := by
  simp only [Segment.opens, Bool.and_eq_true, decide_eq_true_eq, bne_iff_ne, ne_eq] at ho
  obtain ⟨⟨hkind, hrole⟩, hopens⟩ := ho
  unfold Segment.StandsAlone at hs
  rw [hkind] at hs
  obtain ⟨hline, -, hfirst, -⟩ := hs
  exact ⟨hkind, hrole, hline ▸ hopens, hline, hfirst⟩

/-- A block inside a number of others is one step further in. -/
theorem blocks_of_opens (index : Nat) (hs : s.StandsAlone) (ho : s.opens = true)
    (hindent : indentIn (l.blocksAround s) = margin depth) :
    ∃ b, (l.withSegment index s).blocks = b :: l.blocksAround s ∧ b.indent = margin (depth + 1) := by
  obtain ⟨-, -, -, hline, hfirst⟩ := statementLine_of_opens hs ho
  refine ⟨⟨s, margin (depth + 1)⟩, ?_, rfl⟩
  simp only [withSegment, ho, if_true]
  rw [hindent, hline, innerIndent_margin hfirst]

/-- Segments have their lines in a listing where they stand, and leave all blocks that they open. -/
def Places (depth : Nat) (ss : List (Segment × Nat)) (ps : List (Nat × Segment × Nat)) : Prop :=
  ∀ l : Listing, indentIn l.blocks = margin depth →
    (l.withSegments ss).lines.map (·.text) = l.lines.map (·.text) ++ written ps ∧
      (l.withSegments ss).blocks = l.blocks

/-- A directive that opens a block, with those inside it. -/
theorem Places.opened {ss : List (Segment × Nat)} {ps : List (Nat × Segment × Nat)}
    (h : Places (depth + 1) ss ps) (index : Nat) (hs : s.StandsAlone) (ho : s.opens = true)
    (hindent : indentIn (l.blocksAround s) = margin depth) :
    ((l.withSegment index s).withSegments ss).lines.map (·.text) =
        l.lines.map (·.text) ++ written ((depth, s, index) :: ps) ∧
      ∃ b, ((l.withSegment index s).withSegments ss).blocks = b :: l.blocksAround s := by
  obtain ⟨b, hblocks, hb⟩ := blocks_of_opens index hs ho hindent
  obtain ⟨hlines, hfinal⟩ := h (l.withSegment index s) (by rw [hblocks]; exact hb)
  refine ⟨hlines.trans ?_, b, hfinal.trans hblocks⟩
  rw [lines_withSegment, hindent, List.append_assoc]
  rfl

end Listing

section

open Listing

mutual

theorem BlockTree.places : ∀ (depth : Nat) (t : BlockTree), t.Proper →
    (∀ s ∈ t.segments, s.1.StandsAlone) → Places depth t.segments (t.placed depth)
  | _, .nil, _, _ => fun l _ => by
    simp [BlockTree.segments, BlockTree.placed, withSegments, written]
  | depth, .leaf s index rest, ⟨⟨hcloses, hopens⟩, hrest⟩, hs => fun l hindent => by
    rw [BlockTree.segments, List.forall_mem_cons] at hs
    have haround : l.blocksAround s = l.blocks := by simp [blocksAround, hcloses]
    have hblocks : (l.withSegment index s).blocks = l.blocks := by
      simp [withSegment, hopens, haround]
    obtain ⟨hlines, hfinal⟩ := rest.places depth hrest hs.2 (l.withSegment index s)
      (by rw [hblocks, hindent])
    refine ⟨hlines.trans ?_, hfinal.trans hblocks⟩
    rw [lines_withSegment, haround, hindent, List.append_assoc]
    rfl
  | depth, .block s index suite ending rest, ⟨⟨hcloses, hopens⟩, hsuite, hending, hrest⟩, hs =>
    fun l hindent => by
    simp only [BlockTree.segments, List.forall_mem_cons, List.forall_mem_append] at hs
    obtain ⟨hs, hss, hes, hrs⟩ := hs
    have haround : l.blocksAround s = l.blocks := by simp [blocksAround, hcloses]
    obtain ⟨hlines, b, hblocks⟩ := (suite.places (depth + 1) hsuite hss).opened index hs
      hopens (by rw [haround, hindent])
    obtain ⟨helines, heblocks⟩ := ending.places depth hending hes _ b l.blocks
      (by rw [hblocks, haround]) hindent
    obtain ⟨hrlines, hrblocks⟩ := rest.places depth hrest hrs _ (by rw [heblocks, hindent])
    rw [BlockTree.segments, BlockTree.placed, ← List.cons_append, ← List.cons_append,
      withSegments_append, withSegments_append, written_append, written_append]
    refine ⟨hrlines.trans ?_, hrblocks.trans heblocks⟩
    rw [helines, hlines, List.append_assoc, List.append_assoc]

theorem BlockEnding.places : ∀ (depth : Nat) (e : BlockEnding), e.Proper →
    (∀ s ∈ e.segments, s.1.StandsAlone) → ∀ (l : Listing) (b : OpenBlock) (outer : List OpenBlock),
      l.blocks = b :: outer → indentIn outer = margin depth →
      (l.withSegments e.segments).lines.map (·.text) =
          l.lines.map (·.text) ++ written (e.placed depth) ∧
        (l.withSegments e.segments).blocks = outer
  | depth, .last s index, ⟨hcloses, hopens⟩, _ => fun l b outer hblocks hindent => by
    have haround : l.blocksAround s = outer := by simp [blocksAround, hcloses, hblocks]
    refine ⟨lines_withSegment.trans ?_, by
      simp [BlockEnding.segments, withSegments, withSegment, hopens, haround]⟩
    rw [haround, hindent]
    simp [BlockEnding.placed, written]
  | depth, .again s index suite ending, ⟨⟨hcloses, hopens⟩, hsuite, hending⟩, hs =>
    fun l b outer hblocks hindent => by
    simp only [BlockEnding.segments, List.forall_mem_cons, List.forall_mem_append] at hs
    obtain ⟨hs, hss, hes⟩ := hs
    have haround : l.blocksAround s = outer := by simp [blocksAround, hcloses, hblocks]
    obtain ⟨hlines, b', hblocks'⟩ := (suite.places (depth + 1) hsuite hss).opened index hs
      hopens (by rw [haround, hindent])
    obtain ⟨helines, heblocks⟩ := ending.places depth hending hes _ b' outer
      (by rw [hblocks', haround]) hindent
    rw [BlockEnding.segments, BlockEnding.placed, ← List.cons_append, ← List.cons_append,
      withSegments_append, written_append]
    refine ⟨helines.trans ?_, heblocks⟩
    rw [hlines, List.append_assoc]

end

end

/-! ## The logical lines of a tree -/

namespace Listing

/-- The logical lines of segments where they stand. -/
def logical (ps : List (Nat × Segment × Nat)) : List LogicalLine :=
  ps.flatMap fun p => logicalLines p.1 p.2.2 p.2.1

theorem logical_append (ps qs : List (Nat × Segment × Nat)) :
    logical (ps ++ qs) = logical ps ++ logical qs :=
  List.flatMap_append

/-- The lines of segments read as their logical lines. -/
theorem logicalLines_written {ps : List (Nat × Segment × Nat)} (h : ∀ p ∈ ps, p.2.1.StandsAlone) :
    Script.Layout.logicalLines (.margin 0) (Script.Lexer.normalize (Text.unlines (written ps))) =
      some (logical ps) := by
  induction ps with
  | nil => rfl
  | cons p ps ih =>
    rw [List.forall_mem_cons] at h
    have hlines : Text.unlines (written (p :: ps)) =
        Text.unlines (p.2.1.text (margin p.1) p.2.2) ++ Text.unlines (written ps) := by
      simp [Text.unlines, written]
    rw [hlines, logicalLines_text h.1, ih h.2]
    rfl

variable {depth index : Nat} {s : Segment}

/-- A directive that opens no block has one logical line at most. -/
theorem logicalLines_of_not_opens (h : s.opens = false) :
    logicalLines depth index s = (s.logicalText (margin depth) index).toList.map (⟨4 * depth, ·⟩) := by
  simp [logicalLines, h]

/-- A directive that opens a block has its line and the first one of the block. -/
theorem logicalLines_of_opens (hs : s.StandsAlone) (h : s.opens = true) :
    logicalLines depth index s =
      [⟨4 * depth, s.statementLine⟩, ⟨4 * (depth + 1), "pass".toList⟩] := by
  obtain ⟨hkind, hrole, hopens, hline, hfirst⟩ := statementLine_of_opens hs h
  have hremark := isRemark_of_opens hfirst hopens
  simp [logicalLines, h, Segment.logicalText, hkind, hrole, hremark]

end Listing

namespace Script.Layout

variable {depth : Nat} {l : LogicalLine} {ls : List LogicalLine} {text : List Char}

/-- The columns that are open inside a number of blocks. -/
def columns : Nat → List Nat
  | 0 => []
  | depth + 1 => 4 * (depth + 1) :: columns depth

/-- Nothing follows, or what follows begins inside a number of blocks at most. -/
def EndsAt (depth : Nat) (ls : List LogicalLine) : Prop := ∀ l ∈ ls.head?, l.column ≤ 4 * depth

theorem EndsAt.mono (h : EndsAt depth ls) : EndsAt (depth + 1) ls := fun l hl =>
  Nat.le_trans (h l hl) (by omega)

theorem headD_columns (depth : Nat) : (columns depth).headD 0 = 4 * depth := by
  cases depth <;> rfl

theorem length_columns (depth : Nat) : (columns depth).length = depth := by
  induction depth with
  | zero => rfl
  | succ depth ih => rw [columns, List.length_cons, ih]

/-- A line that is not deeper than the one before. -/
theorem marks_of_le {open' : List Nat} (h : l.column ≤ open'.headD 0) :
    marks open' (l :: ls) =
      if (open'.dropWhile (l.column < ·)).headD 0 = l.column then
        (marks (open'.dropWhile (l.column < ·)) ls).map fun ms =>
          List.replicate (open'.length - (open'.dropWhile (l.column < ·)).length) .dedent ++
            .line l.text :: ms
      else none := by
  rw [marks, if_neg (Nat.not_lt_of_le h)]

/-- A line in the column that is open. -/
theorem marks_line : marks (columns depth) (⟨4 * depth, text⟩ :: ls) =
    (marks (columns depth) ls).map (.line text :: ·) := by
  have hdrop : (columns depth).dropWhile (4 * depth < ·) = columns depth := by
    cases depth with
    | zero => rfl
    | succ depth => exact List.dropWhile_cons_of_neg (by simp)
  rw [marks_of_le (by rw [headD_columns])]
  simp only [hdrop, headD_columns, if_true, Nat.sub_self, List.replicate_zero, List.nil_append]

/-- A line one step further in begins a suite. -/
theorem marks_indent : marks (columns depth) (⟨4 * (depth + 1), text⟩ :: ls) =
    (marks (columns (depth + 1)) ls).map fun ms => .indent :: .line text :: ms := by
  rw [marks, headD_columns, if_pos (by dsimp only; omega)]
  rfl

/-- A suite ends before a line that is less deep. -/
theorem marks_dedent (h : EndsAt depth ls) :
    marks (columns (depth + 1)) ls = (marks (columns depth) ls).map (.dedent :: ·) := by
  cases ls with
  | nil => rfl
  | cons l ls =>
    have hcolumn : l.column ≤ 4 * depth := h l rfl
    have hdrop : (columns (depth + 1)).dropWhile (l.column < ·) =
        (columns depth).dropWhile (l.column < ·) :=
      List.dropWhile_cons_of_pos (decide_eq_true (by omega))
    have hlength := (List.dropWhile_suffix (l := columns depth) (l.column < ·)).length_le
    rw [length_columns] at hlength
    rw [marks_of_le (by rw [headD_columns]; omega), marks_of_le (by rwa [headD_columns])]
    simp only [hdrop, length_columns]
    split
    · rw [Nat.succ_sub hlength, List.replicate_succ]
      simp [Function.comp_def]
    · rfl

end Script.Layout

section

open Listing

theorem endsAt_nil (depth : Nat) : EndsAt depth [] := by
  rintro _ ⟨⟩

theorem endsAt_cons {depth column : Nat} {text : List Char} {ls : List LogicalLine}
    (h : column ≤ 4 * depth) : EndsAt depth (⟨column, text⟩ :: ls) := by
  rintro _ ⟨⟩
  exact h

/-- A directive that writes one line at most does not begin deeper than it stands. -/
theorem endsAt_leaf {depth : Nat} {text : Option (List Char)} {ls : List LogicalLine}
    (h : EndsAt depth ls) : EndsAt depth (text.toList.map (⟨4 * depth, ·⟩) ++ ls) := by
  cases text with
  | none => exact h
  | some text => exact endsAt_cons (Nat.le_refl _)

mutual

/-- The lines of a tree do not begin deeper than it stands. -/
theorem BlockTree.endsAt : ∀ (depth : Nat) (t : BlockTree) (ls : List LogicalLine), t.Proper →
    (∀ s ∈ t.segments, s.1.StandsAlone) → EndsAt depth ls →
      EndsAt depth (logical (t.placed depth) ++ ls)
  | _, .nil, _, _, _, h => h
  | depth, .leaf s index rest, ls, ⟨⟨_, hopens⟩, hrest⟩, hs, h => by
    rw [BlockTree.segments, List.forall_mem_cons] at hs
    have hl : logical ((BlockTree.leaf s index rest).placed depth) =
        logicalLines depth index s ++ logical (rest.placed depth) := rfl
    rw [hl, logicalLines_of_not_opens hopens, List.append_assoc]
    exact endsAt_leaf (rest.endsAt depth ls hrest hs.2 h)
  | depth, .block s index suite ending rest, ls, ⟨⟨_, hopens⟩, _⟩, hs, h => by
    rw [BlockTree.segments, List.forall_mem_cons] at hs
    have hl : logical ((BlockTree.block s index suite ending rest).placed depth) =
        logicalLines depth index s ++ logical (suite.placed (depth + 1) ++
          (ending.placed depth ++ rest.placed depth)) := rfl
    rw [hl, logicalLines_of_opens hs.1 hopens]
    exact endsAt_cons (Nat.le_refl _)

end

theorem BlockEnding.endsAt {depth : Nat} {e : BlockEnding} {ls : List LogicalLine} (he : e.Proper)
    (hs : ∀ s ∈ e.segments, s.1.StandsAlone) (h : EndsAt depth ls) :
    EndsAt depth (logical (e.placed depth) ++ ls) := by
  cases e with
  | last s index =>
    have hl : logical ((BlockEnding.last s index).placed depth) = logicalLines depth index s ++ [] := rfl
    rw [hl, List.append_nil, logicalLines_of_not_opens he.2]
    exact endsAt_leaf h
  | again s index suite ending =>
    rw [BlockEnding.segments, List.forall_mem_cons] at hs
    have hl : logical ((BlockEnding.again s index suite ending).placed depth) =
        logicalLines depth index s ++ logical (suite.placed (depth + 1) ++ ending.placed depth) := rfl
    rw [hl, logicalLines_of_opens hs.1 he.1.2]
    exact endsAt_cons (Nat.le_refl _)

/-- The marks of one line at most. -/
theorem marks_leaf {depth : Nat} {text : Option (List Char)} {ls : List LogicalLine} :
    marks (columns depth) (text.toList.map (⟨4 * depth, ·⟩) ++ ls) =
      (marks (columns depth) ls).map (LineTree.marksOf (text.toList.map (.node · [])) ++ ·) := by
  cases text with
  | none => simp [LineTree.marksOf]
  | some text => exact marks_line.trans (by simp [LineTree.marksOf, LineTree.marks])

theorem marksOf_append (ts us : List LineTree) :
    LineTree.marksOf (ts ++ us) = LineTree.marksOf ts ++ LineTree.marksOf us := by
  induction ts with
  | nil => rfl
  | cons t ts ih => rw [List.cons_append, LineTree.marksOf, LineTree.marksOf, ih, List.append_assoc]

/-- The marks of a line with the suite that begins under it. -/
theorem marks_suite {depth : Nat} {text first : List Char} {suite ls : List LogicalLine}
    {ts : List LineTree}
    (h : marks (columns (depth + 1)) (suite ++ ls) =
      (marks (columns (depth + 1)) ls).map (LineTree.marksOf ts ++ ·))
    (hls : EndsAt depth ls) :
    marks (columns depth) (⟨4 * depth, text⟩ :: ⟨4 * (depth + 1), first⟩ :: (suite ++ ls)) =
      (marks (columns depth) ls).map
        (LineTree.marksOf [.node text (.node first [] :: ts)] ++ ·) := by
  rw [marks_line, marks_indent, h, marks_dedent hls]
  simp [LineTree.marksOf, LineTree.marks, Function.comp_def]

mutual

/-- The logical lines of a tree read as the lines of the tree with their suites. -/
theorem BlockTree.marks_placed : ∀ (depth : Nat) (t : BlockTree) (ls : List LogicalLine), t.Proper →
    (∀ s ∈ t.segments, s.1.StandsAlone) → EndsAt depth ls →
      marks (columns depth) (logical (t.placed depth) ++ ls) =
        (marks (columns depth) ls).map (LineTree.marksOf (t.lines depth) ++ ·)
  | _, .nil, _, _, _, _ => by simp [BlockTree.placed, BlockTree.lines, logical, LineTree.marksOf]
  | depth, .leaf s index rest, ls, ⟨⟨_, hopens⟩, hrest⟩, hs, h => by
    rw [BlockTree.segments, List.forall_mem_cons] at hs
    have hl : logical ((BlockTree.leaf s index rest).placed depth) =
        logicalLines depth index s ++ logical (rest.placed depth) := rfl
    rw [hl, logicalLines_of_not_opens hopens, List.append_assoc, marks_leaf,
      rest.marks_placed depth ls hrest hs.2 h, BlockTree.lines, marksOf_append]
    simp [Function.comp_def]
  | depth, .block s index suite ending rest, ls, ⟨⟨_, hopens⟩, hsuite, hending, hrest⟩, hs, h => by
    simp only [BlockTree.segments, List.forall_mem_cons, List.forall_mem_append] at hs
    obtain ⟨hs, hss, hes, hrs⟩ := hs
    have hrest' := rest.endsAt depth ls hrest hrs h
    have hending' := BlockEnding.endsAt hending hes hrest'
    have hl : logical ((BlockTree.block s index suite ending rest).placed depth) =
        logicalLines depth index s ++ (logical (suite.placed (depth + 1)) ++
          (logical (ending.placed depth) ++ logical (rest.placed depth))) := by
      rw [← logical_append, ← logical_append]
      rfl
    have hsuite' := suite.marks_placed (depth + 1)
      (logical (ending.placed depth) ++ (logical (rest.placed depth) ++ ls)) hsuite hss hending'.mono
    rw [hl, logicalLines_of_opens hs hopens]
    simp only [List.cons_append, List.nil_append, List.append_assoc]
    rw [marks_suite hsuite' hending', ending.marks_placed depth _ hending hes hrest',
      rest.marks_placed depth ls hrest hrs h, BlockTree.lines]
    simp [Function.comp_def, LineTree.marksOf, marksOf_append]

theorem BlockEnding.marks_placed : ∀ (depth : Nat) (e : BlockEnding) (ls : List LogicalLine),
    e.Proper → (∀ s ∈ e.segments, s.1.StandsAlone) → EndsAt depth ls →
      marks (columns depth) (logical (e.placed depth) ++ ls) =
        (marks (columns depth) ls).map (LineTree.marksOf (e.lines depth) ++ ·)
  | depth, .last s index, ls, ⟨_, hopens⟩, _, _ => by
    have hl : logical ((BlockEnding.last s index).placed depth) = logicalLines depth index s ++ [] := rfl
    rw [hl, List.append_nil, logicalLines_of_not_opens hopens, marks_leaf]
    rfl
  | depth, .again s index suite ending, ls, ⟨⟨_, hopens⟩, hsuite, hending⟩, hs, h => by
    simp only [BlockEnding.segments, List.forall_mem_cons, List.forall_mem_append] at hs
    obtain ⟨hs, hss, hes⟩ := hs
    have hending' := BlockEnding.endsAt hending hes h
    have hl : logical ((BlockEnding.again s index suite ending).placed depth) =
        logicalLines depth index s ++ (logical (suite.placed (depth + 1)) ++
          logical (ending.placed depth)) := by
      rw [← logical_append]
      rfl
    have hsuite' := suite.marks_placed (depth + 1) (logical (ending.placed depth) ++ ls) hsuite hss
      hending'.mono
    rw [hl, logicalLines_of_opens hs hopens]
    simp only [List.cons_append, List.nil_append, List.append_assoc]
    rw [marks_suite hsuite' hending', ending.marks_placed depth ls hending hes h, BlockEnding.lines,
      LineTree.marksOf]
    simp [Function.comp_def, LineTree.marksOf]

end

end

namespace Listing

/-- A listing reads as the lines of each tree that its directives make up. -/
theorem reads_lines {p : Program} {l : Listing} {t : BlockTree} (h : ofProgram p = .ok l)
    (hs : ∀ s ∈ p.segments, s.StandsAlone) (ht : t.Proper) (hsegments : t.segments = p.segments.zipIdx) :
    Reads l.source (t.lines 0) := by
  have hts : ∀ s ∈ t.segments, s.1.StandsAlone := by
    intro s hmem
    rw [hsegments] at hmem
    exact hs s.1 (List.fst_mem_of_mem_zipIdx hmem)
  have hps : ∀ p ∈ t.placed 0, p.2.1.StandsAlone := by
    intro p hp
    exact hts p.2 (t.map_placed 0 ▸ List.mem_map_of_mem hp)
  have hlines : l.lines.map (·.text) = written (t.placed 0) := by
    rw [withSegments_of_addSegments (addSegments_of_ofProgram h).1, ← hsegments]
    simpa using (t.places 0 ht hts {} rfl).1
  have hread := logicalLines_written hps
  refine ⟨logical (t.placed 0), ?_, ?_⟩
  · rw [source, hlines]
    by_cases hnil : written (t.placed 0) = []
    · rw [hnil] at hread ⊢
      exact hread
    · rw [Text.joinWith_append_newline hnil, hread]
  · have hmarks := t.marks_placed 0 [] ht hts (endsAt_nil 0)
    simpa [columns, marks] using hmarks

/-- **The indentation of a listing says what its directives say.** The directives make up a tree, and the
listing reads as the lines of the tree: under each directive that opens a block `pass`, and what the
directives inside the block write; and after the block, as deep as the block itself, what continues it
and what stands behind it. -/
theorem reads_blockTree {p : Program} {l : Listing} (h : ofProgram p = .ok l)
    (hs : ∀ s ∈ p.segments, s.StandsAlone) :
    (∃ t : BlockTree, t.Proper ∧ t.segments = p.segments.zipIdx) ∧
      ∀ t : BlockTree, t.Proper → t.segments = p.segments.zipIdx →
        ∀ ts, Reads l.source ts ↔ ts = t.lines 0 := by
  refine ⟨exists_blockTree h, fun t ht hsegments ts => ?_⟩
  have hread := reads_lines h hs ht hsegments
  constructor
  · exact fun h => h.unique hread
  · rintro rfl
    exact hread

end Listing

/-- A loop around a choice, with an expression that goes on to a second line. -/
def choice : Program where
  name := "page"
  lines := 2
  segments := [
    { kind := .statement, code := " for x in xs: # all", line := 1 },
    { kind := .statement, code := "\tif x:", line := 1 },
    { kind := .interpolation, code := " [x,\n1] ", line := 2 },
    { kind := .statement, code := " else: ", line := 2 },
    { kind := .statement, code := " # nothing ", line := 2 },
    { kind := .statement, code := " end ", line := 2 },
    { kind := .literal, code := "'\"\n", line := 2 },
    { kind := .statement, code := " end", line := 2 },
    { kind := .deferred, code := "x", line := 2 }]

/-- The tree of the loop. -/
def choiceTree : BlockTree :=
  let s (i : Nat) : Segment := choice.segments.getD i default
  .block (s 0) 0
    (.block (s 1) 1 (.leaf (s 2) 2 .nil) (.again (s 3) 3 (.leaf (s 4) 4 .nil) (.last (s 5) 5))
      (.leaf (s 6) 6 .nil))
    (.last (s 7) 7) (.leaf (s 8) 8 .nil)

theorem choice_reads : (∀ s ∈ choice.segments, s.StandsAlone) ∧
    ∃ l, Listing.ofProgram choice = .ok l ∧ ∀ ts, Reads l.source ts ↔ ts = choiceTree.lines 0 := by
  have hs : ∀ s ∈ choice.segments, s.StandsAlone := by decide +kernel
  have hok : (Listing.ofProgram choice).toBool = true := by decide +kernel
  have hproper : choiceTree.Proper := by
    simp only [choiceTree, BlockTree.Proper, BlockEnding.Proper]
    decide +kernel
  have hsegments : choiceTree.segments = choice.segments.zipIdx := by rfl
  cases h : Listing.ofProgram choice with
  | error e =>
    rw [h] at hok
    cases hok
  | ok l => exact ⟨hs, l, rfl, (Listing.reads_blockTree h hs).2 choiceTree hproper hsegments⟩

end Stencil
