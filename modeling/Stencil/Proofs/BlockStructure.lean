import Mathlib.Data.List.Induction
import Stencil.Proofs.Emission
import Stencil.Template

/-!
# Which programs have a listing

A program has a listing if its segments are balanced: what closes a block stands inside one, and no block
is open at the end. The depth at a segment is a count of the segments before it, and it is the number of
the blocks that are open there.
-/

namespace Stencil

namespace Listing

variable {l m : Listing} {index : Nat} {s : Segment} {ss before after : List Segment} {p : Program}

/-- The blocks that segments open, less those that they close. -/
def depth (ss : List Segment) : Int := ss.countP Segment.opens - ss.countP Segment.closes

/-- A segment that cannot be added behind others: it lacks its expression, or it closes a block where
none is open. -/
def Offends (before : List Segment) (s : Segment) : Prop :=
  s.lacksExpression = true ∨ s.closes = true ∧ depth before = 0

/-- Segments each of which can be added behind those before it. -/
def Fits (ss : List Segment) : Prop :=
  ∀ before s after, ss = before ++ s :: after → ¬ Offends before s

/-- Segments that close the blocks they open and no others. -/
def Balanced (ss : List Segment) : Prop := Fits ss ∧ depth ss = 0

/-- What is wrong with a segment that offends. -/
def offence (s : Segment) : LayoutError :=
  if s.lacksExpression then .emptyExpression s else .noOpenBlock s

/-- A program is refused, and the fault names the line of a segment. -/
def Refuses (p : Program) (e : LayoutError) (s : Segment) : Prop :=
  ofProgram p = .error e ∧ (CompileError.layout e).fault? p.name =
    some (Fault.codeSyntax e.reason e.code { template := some p.name, line := some s.line })

/-! ## Depth -/

theorem depth_concat (ss : List Segment) (s : Segment) :
    depth (ss ++ [s]) =
      depth ss - (if s.closes then 1 else 0) + (if s.opens then 1 else 0) := by
  simp only [depth, List.countP_append, List.countP_singleton]
  split <;> split <;> simp <;> omega

theorem fits_nil : Fits [] := by
  intro before s after h
  cases before <;> cases h

theorem fits_concat : Fits (ss ++ [s]) ↔ Fits ss ∧ ¬ Offends ss s := by
  constructor
  · intro h
    refine ⟨?_, h ss s [] rfl⟩
    rintro before t after rfl
    exact h before t (after ++ [s]) (by simp)
  · rintro ⟨hss, hs⟩ before t after h
    rcases List.eq_nil_or_concat after with rfl | ⟨after, u, rfl⟩
    · obtain ⟨rfl, ht⟩ := List.append_inj' h rfl
      obtain rfl := List.singleton_inj.1 ht
      exact hs
    · have h : ss ++ [s] = (before ++ t :: after) ++ [u] := by simpa using h
      exact hss before t after (List.append_inj' h rfl).1

/-- Segments fit, or one of them is the first that does not. -/
theorem fits_or_exists_first (ss : List Segment) :
    Fits ss ∨ ∃ before s after, ss = before ++ s :: after ∧ Fits before ∧ Offends before s := by
  induction ss using List.reverseRecOn with
  | nil => exact .inl fits_nil
  | append_singleton ss s ih =>
    obtain hss | ⟨before, t, after, rfl, hbefore, ht⟩ := ih
    · by_cases hs : Offends ss s
      · exact .inr ⟨ss, s, [], rfl, hss, hs⟩
      · exact .inl (fits_concat.2 ⟨hss, hs⟩)
    · exact .inr ⟨before, t, after ++ [s], by simp, hbefore, ht⟩

/-! ## Open blocks -/

theorem addSegments_append (ss after : List Segment) :
    l.addSegments index (ss ++ after) =
      (l.addSegments index ss).bind fun m => m.addSegments (index + ss.length) after := by
  induction ss generalizing l index with
  | nil => rfl
  | cons s ss ih =>
    simp only [List.cons_append, addSegments, bind]
    cases l.addSegment index s with
    | error e => rfl
    | ok m =>
      simp only [Except.bind, ih]
      rw [List.length_cons, Nat.add_assoc, Nat.add_comm 1]

theorem addSegments_concat (h : l.addSegments index ss = .ok m) :
    l.addSegments index (ss ++ [s]) = m.addSegment (index + ss.length) s := by
  rw [addSegments_append, h]
  simp only [Except.bind, addSegments, bind]
  cases m.addSegment (index + ss.length) s <;> rfl

theorem length_blocks_withSegment (h : s.closes = true → l.blocks ≠ []) :
    ((l.withSegment index s).blocks.length : Int) =
      l.blocks.length - (if s.closes then 1 else 0) + (if s.opens then 1 else 0) := by
  have haround : ((l.blocksAround s).length : Int) =
      l.blocks.length - (if s.closes then 1 else 0) := by
    unfold blocksAround
    split
    · have := List.length_pos_iff.2 (h ‹_›)
      rw [List.length_tail]
      omega
    · simp
  rw [← haround]
  simp only [withSegment]
  split <;> simp

/-- Segments that fit can be added, and the blocks that are open then are as many as the depth. -/
theorem exists_addSegments (h : Fits ss) :
    ∃ l, addSegments {} 0 ss = .ok l ∧ (l.blocks.length : Int) = depth ss := by
  induction ss using List.reverseRecOn with
  | nil => exact ⟨{}, rfl, rfl⟩
  | append_singleton ss s ih =>
    obtain ⟨hss, hs⟩ := fits_concat.1 h
    obtain ⟨m, hm, hlength⟩ := ih hss
    rw [Offends, not_or, Bool.not_eq_true, not_and] at hs
    have hblocks : s.closes = true → m.blocks ≠ [] := by
      intro hcloses hnil
      exact hs.2 hcloses (by rw [← hlength, hnil]; rfl)
    refine ⟨m.withSegment (0 + ss.length) s, ?_, ?_⟩
    · rw [addSegments_concat hm]
      exact addSegment_eq_ok.2 ⟨hs.1, hblocks, rfl⟩
    · rw [length_blocks_withSegment hblocks, hlength, depth_concat]

theorem addSegments_offends (hbefore : Fits before) (hs : Offends before s) (after : List Segment) :
    addSegments {} 0 (before ++ s :: after) = .error (offence s) := by
  obtain ⟨m, hm, hlength⟩ := exists_addSegments hbefore
  have hadd : m.addSegment (0 + before.length) s = .error (offence s) := by
    rw [addSegment_eq, offence]
    rcases hs with hlacks | ⟨hcloses, hdepth⟩
    · rw [if_pos hlacks, if_pos hlacks]
    · have hnil : m.blocks = [] := List.length_eq_zero_iff.1 (by omega)
      rw [hcloses, hnil]
      split <;> rfl
  rw [addSegments_append, hm]
  simp only [Except.bind, addSegments, hadd, bind]

/-- A block that is open was opened by a segment after which only blocks inside it were closed. -/
theorem exists_opener {inner outer : List OpenBlock} {b : OpenBlock} (hss : Fits ss)
    (hl : addSegments {} 0 ss = .ok l) (hblocks : l.blocks = inner ++ b :: outer) :
    ∃ before after, ss = before ++ b.opener :: after ∧ b.opener.opens = true ∧ Fits after ∧
      depth after = inner.length := by
  induction ss using List.reverseRecOn generalizing l inner with
  | nil =>
    obtain rfl := Except.ok.inj hl
    simp at hblocks
  | append_singleton ss s ih =>
    obtain ⟨hfits, hs⟩ := fits_concat.1 hss
    obtain ⟨m, hm, -⟩ := exists_addSegments hfits
    rw [addSegments_concat hm] at hl
    obtain ⟨hlacks, hclosed, rfl⟩ := addSegment_eq_ok.1 hl
    -- Either the segment itself opened the block, or the block was open around it.
    have hopened : (s.opens = true ∧ inner = [] ∧ b.opener = s) ∨
        ∃ inside, m.blocksAround s = inside ++ b :: outer ∧
          (inner.length : Int) = inside.length + (if s.opens then 1 else 0) := by
      simp only [withSegment] at hblocks
      by_cases hopens : s.opens = true
      · rw [if_pos hopens] at hblocks
        cases inner with
        | nil => exact .inl ⟨hopens, rfl, by rw [← (List.cons.inj hblocks).1]⟩
        | cons x inner => exact .inr ⟨inner, (List.cons.inj hblocks).2, by simp [hopens]⟩
      · rw [if_neg hopens] at hblocks
        exact .inr ⟨inner, hblocks, by simp [hopens]⟩
    obtain ⟨hopens, rfl, hopener⟩ | ⟨inside, haround, hlength⟩ := hopened
    · exact ⟨ss, [], by rw [hopener], hopener ▸ hopens, fits_nil, rfl⟩
    have houter : ∃ around, m.blocks = around ++ b :: outer ∧
        (around.length : Int) = inside.length + (if s.closes then 1 else 0) := by
      unfold blocksAround at haround
      by_cases hcloses : s.closes = true
      · obtain ⟨x, xs, hx⟩ := List.exists_cons_of_ne_nil (hclosed hcloses)
        rw [if_pos hcloses, hx, List.tail_cons] at haround
        exact ⟨x :: inside, by rw [hx, haround]; rfl, by simp [hcloses]⟩
      · rw [if_neg hcloses] at haround
        exact ⟨inside, haround, by simp [hcloses]⟩
    obtain ⟨around, hmblocks, haroundlength⟩ := houter
    obtain ⟨before, after, rfl, hopens, hafter, hdepth⟩ := ih hfits hm hmblocks
    refine ⟨before, after ++ [s], by simp, hopens, fits_concat.2 ⟨hafter, ?_⟩, ?_⟩
    · rintro (h | ⟨hcloses, hzero⟩)
      · rw [hlacks] at h
        cases h
      · rw [if_pos hcloses] at haroundlength
        omega
    · rw [depth_concat, hdepth, haroundlength, hlength]
      omega

/-! ## Programs -/

theorem ofProgram_of_offends (h : p.segments = before ++ s :: after) (hbefore : Fits before)
    (hs : Offends before s) : ofProgram p = .error (offence s) := by
  rw [ofProgram, h, addSegments_offends hbefore hs]
  rfl

theorem ofProgram_of_blocks {blocks : List OpenBlock} (h : addSegments {} 0 p.segments = .ok l)
    (hblocks : l.blocks = blocks) :
    ofProgram p = (blocks.head?.map fun b => LayoutError.neverClosed b.opener).elim (.ok l) .error := by
  subst hblocks
  rw [ofProgram, h]
  simp only [bind, Except.bind]
  cases l.blocks <;> rfl

/-- A program has a listing exactly if its segments are balanced. Otherwise the first segment that
offends is reported or, if none does, the segment that opened the innermost of the blocks that are never
closed: what follows it is balanced. -/
theorem ofProgram_outcome (p : Program) :
    ((∃ l, ofProgram p = .ok l) ↔ Balanced p.segments) ∧
    ((∃ l, ofProgram p = .ok l ∧ l.blocks = [] ∧ l.indent = []) ∨
      (∃ before s after, p.segments = before ++ s :: after ∧ Fits before ∧ Offends before s ∧
        Refuses p (offence s) s) ∨
      Fits p.segments ∧ 0 < depth p.segments ∧ ∃ before s after, p.segments = before ++ s :: after ∧
        s.opens = true ∧ Balanced after ∧ Refuses p (.neverClosed s) s) := by
  obtain hfits | ⟨before, s, after, hsegments, hbefore, hs⟩ := fits_or_exists_first p.segments
  · obtain ⟨l, hl, hlength⟩ := exists_addSegments hfits
    cases hblocks : l.blocks with
    | nil =>
      have hok : ofProgram p = .ok l := ofProgram_of_blocks hl hblocks
      have hdepth : depth p.segments = 0 := by simp [← hlength, hblocks]
      exact ⟨iff_of_true ⟨l, hok⟩ ⟨hfits, hdepth⟩, .inl ⟨l, hok, hblocks, by simp [indent, hblocks]⟩⟩
    | cons b outer =>
      have herror : ofProgram p = .error (.neverClosed b.opener) := ofProgram_of_blocks hl hblocks
      have hdepth : 0 < depth p.segments := by
        rw [← hlength, hblocks, List.length_cons]
        omega
      obtain ⟨before, after, hsegments, hopens, hafter, hzero⟩ :=
        exists_opener hfits hl (hblocks.trans (List.nil_append _).symm)
      refine ⟨iff_of_false ?_ ?_, .inr (.inr ⟨hfits, hdepth, before, b.opener, after, hsegments, hopens,
        ⟨hafter, hzero⟩, herror, rfl⟩)⟩
      · rintro ⟨l', hl'⟩
        cases herror.symm.trans hl'
      · rintro ⟨-, hbalanced⟩
        omega
  · have herror := ofProgram_of_offends hsegments hbefore hs
    refine ⟨iff_of_false ?_ ?_, .inr (.inl ⟨before, s, after, hsegments, hbefore, hs, herror, ?_⟩)⟩
    · rintro ⟨l, hl⟩
      cases herror.symm.trans hl
    · rintro ⟨hfits, -⟩
      exact hfits before s after hsegments hs
    · unfold offence
      split <;> rfl

end Listing

end Stencil
