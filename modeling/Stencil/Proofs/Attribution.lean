import Stencil.Proofs.Emission
import Stencil.Proofs.Outcome
import Stencil.Proofs.Segments

/-!
# What a line number is blamed on

A failure names a line of the listing, and is reported with a line of the template. The lines of a
listing fall into one run for each segment, in order, so a line number leads back to the segment that
wrote the line, and that segment knows where its text ends in the template.
-/

namespace Stencil

open World Evaluation

namespace Listing

variable {l : Listing} {blocks : List (List (List Char))} {index i j n : Nat}

/-- A line, counted from one, is among those of the segment with an index. -/
def HoldsLine (blocks : List (List (List Char))) (i n : Nat) : Prop :=
  (blocks.take i).flatten.length < n ∧ n ≤ (blocks.take (i + 1)).flatten.length

/-- The line that is nearest to a number. -/
def nearestLine (l : Listing) (n : Int) : Nat := (min (max n 1) l.lines.length).toNat

theorem HoldsLine.lt (h : HoldsLine blocks i n) : i < blocks.length := by
  obtain ⟨hbefore, hupto⟩ := h
  by_contra hle
  rw [List.take_of_length_le (by omega)] at hbefore hupto
  omega

/-- The run of an earlier segment ends before that of a later one. -/
theorem length_take_le (h : i ≤ j) :
    (blocks.take i).flatten.length ≤ (blocks.take j).flatten.length := by
  obtain ⟨more, hmore⟩ := List.take_prefix_take_left (l := blocks) h
  rw [← hmore]
  simp

theorem Emits.lineMap_eq {l' : Listing} {ss : List Segment} (h : Emits l index ss blocks l') :
    l'.lineMap = l.lineMap ++ (blocks.zipIdx index).flatMap fun b => List.replicate b.1.length b.2 := by
  simp [lineMap, h.lines_eq, List.map_flatMap, Function.comp_def, List.map_const']

/-- The line map sends a line to a segment when the line is in the segment's run. -/
theorem getElem?_zipIdx_replicate :
    ((blocks.zipIdx index).flatMap fun b => List.replicate b.1.length b.2)[n]? = some j ↔
      ∃ i, j = index + i ∧ HoldsLine blocks i (n + 1) := by
  induction blocks generalizing index n with
  | nil => simp [HoldsLine]
  | cons block blocks ih =>
    rw [List.zipIdx_cons, List.flatMap_cons]
    by_cases hn : n < block.length
    · rw [List.getElem?_append_left (by simpa using hn), List.getElem?_replicate_of_lt hn]
      constructor
      · rintro h
        refine ⟨0, (Option.some.inj h).symm, ?_⟩
        simp [HoldsLine]
        omega
      · rintro ⟨i, rfl, hbefore, -⟩
        cases i with
        | zero => rfl
        | succ i =>
          simp only [List.take_succ_cons, List.flatten_cons, List.length_append] at hbefore
          omega
    · rw [List.getElem?_append_right (by simpa using hn), List.length_replicate, ih]
      dsimp only
      constructor
      · rintro ⟨i, rfl, hbefore, hupto⟩
        refine ⟨i + 1, by omega, ?_, ?_⟩ <;>
          simp only [List.take_succ_cons, List.flatten_cons, List.length_append] <;> omega
      · rintro ⟨i, rfl, hbefore, hupto⟩
        cases i with
        | zero =>
          simp only [Nat.zero_add, List.take_succ_cons, List.take_zero, List.flatten_cons,
            List.flatten_nil, List.append_nil] at hupto
          omega
        | succ i =>
          simp only [List.take_succ_cons, List.flatten_cons, List.length_append] at hbefore hupto
          refine ⟨i, by omega, ?_, ?_⟩ <;> omega

/-- What a number of a line leads to, for a listing that segments have written. -/
theorem Emits.getElem?_lineMap {ss : List Segment} (h : Emits {} 0 ss blocks l) :
    l.lineMap[n]? = some i ↔ HoldsLine blocks i (n + 1) := by
  rw [h.lineMap_eq]
  simp [lineMap, getElem?_zipIdx_replicate]

/-- The segments of the lines stand in order. -/
theorem Emits.lineMap_pairwise {ss : List Segment} (h : Emits {} 0 ss blocks l) :
    l.lineMap.Pairwise (· ≤ ·) := by
  rw [List.pairwise_iff_getElem]
  intro a b ha hb hab
  have hia := h.getElem?_lineMap.1 (List.getElem?_eq_getElem ha)
  have hib := h.getElem?_lineMap.1 (List.getElem?_eq_getElem hb)
  by_contra hlt
  have hle : (blocks.take (l.lineMap[b] + 1)).flatten.length ≤
      (blocks.take l.lineMap[a]).flatten.length := length_take_le (by omega)
  have := hia.1
  have := hib.2
  omega

/-- In a listing that is not empty every number leads to the segment whose run holds the nearest line. -/
theorem Emits.segmentIndexAt {ss : List Segment} (h : Emits {} 0 ss blocks l) (hne : l.lines ≠ [])
    (n : Int) : ∃ i, l.segmentIndexAt n = some i ∧ HoldsLine blocks i (l.nearestLine n) := by
  have hlength : l.lineMap.length = l.lines.length := by simp [lineMap]
  have hpos := List.length_pos_iff.2 hne
  have hrange : 0 < l.nearestLine n ∧ l.nearestLine n ≤ l.lines.length := by
    unfold nearestLine
    omega
  have hlt : l.nearestLine n - 1 < l.lineMap.length := by omega
  obtain ⟨i, hi⟩ : ∃ i, l.lineMap[l.nearestLine n - 1]? = some i :=
    ⟨_, List.getElem?_eq_getElem hlt⟩
  refine ⟨i, ?_, ?_⟩
  · rw [Listing.segmentIndexAt, hlength]
    exact hi
  · have := h.getElem?_lineMap.1 hi
    rwa [Nat.sub_add_cancel hrange.1] at this

theorem segmentIndexAt_of_lines_eq_nil (h : l.lines = []) (n : Int) : l.segmentIndexAt n = none := by
  simp [Listing.segmentIndexAt, lineMap, h]

end Listing

namespace Template

variable {name source : String} {t : Template}

/-- What a template is made of when it can be made ready. -/
theorem compile_eq_ok (h : compile name source = .ok t) :
    t.name = name ∧ Program.parse name source = .ok t.program ∧
      Listing.ofProgram t.program = .ok t.listing := by
  unfold compile at h
  cases hparse : Program.parse name source with
  | error e =>
    rw [hparse] at h
    cases h
  | ok program =>
    cases hlisting : Listing.ofProgram program with
    | error e =>
      simp only [hparse, hlisting, Except.mapError, bind, Except.bind] at h
      cases h
    | ok listing =>
      simp only [hparse, hlisting, Except.mapError, bind, Except.bind] at h
      split at h
      · cases h
      · split at h
        · cases h
        · obtain rfl := Except.ok.inj h
          exact ⟨rfl, rfl, hlisting⟩

/-- The fault that is made for a segment names the template and the line of the segment. -/
theorem evaluationFault_place {m : Interpreter} {s : Segment} {e v : Value} {w u : World}
    (h : evaluationFault m name s e w = .ok v u) :
    ∃ r x f, v = .ref r ∧ u.at' r = .exception x ∧ x.fault = some f ∧
      f.place = { template := some name, line := some s.line } := by
  unfold evaluationFault at h
  rw [bind_eq_ok] at h
  obtain ⟨_, _, -, h⟩ := h
  rw [bind_eq_ok] at h
  obtain ⟨_, _, -, h⟩ := h
  rw [bind_eq_ok] at h
  obtain ⟨_, w', -, h⟩ := h
  obtain ⟨rfl, rfl⟩ := allocValue_eq_ok.1 h
  exact ⟨_, _, _, rfl, at'_push_size _ _, rfl, rfl⟩

/-- The way from the lines of a listing back to the template: the segments stand for pieces of the
template, and each of them has written a block of lines. -/
structure Attribution (t : Template) (source : String) (pieces : List String)
    (blocks : List (List (List Char))) : Prop where
  covers : String.join pieces = source
  written : List.Forall₂ Segment.IsWrittenAs t.program.segments pieces
  emits : Listing.Emits {} 0 t.program.segments blocks t.listing
  /-- The lines of the listing are those that a reader of its text counts. -/
  counted : t.listing.lines ≠ [] → Text.lines (Script.Lexer.normalize t.listing.source) =
    t.listing.lines.map (·.text) ++ [[]]
  /-- Every line has one segment, and the lines of a segment are one run. -/
  length_lineMap : t.listing.lineMap.length = t.listing.lines.length
  lineMap_pairwise : t.listing.lineMap.Pairwise (· ≤ ·)
  lineMap_iff : ∀ i n, t.listing.lineMap[n]? = some i ↔ Listing.HoldsLine blocks i (n + 1)
  /-- Without a number or a line the last segment is blamed. -/
  segmentAt_last : ∀ line, line = none ∨ t.listing.lines = [] →
    segmentAt t.program.segments t.listing line = t.program.segments.getLast?.getD emptySegment
  /-- A number is blamed on the segment that wrote the nearest line. -/
  segmentAt_nearest : ∀ n : Int, t.listing.lines ≠ [] → ∃ i s, t.program.segments[i]? = some s ∧
    Listing.HoldsLine blocks i (t.listing.nearestLine n) ∧
    segmentAt t.program.segments t.listing (some n) = s
  /-- A failure on a line of the listing is reported with the line of the template on which the piece of
  its segment ends. -/
  fault_line : ∀ n : Nat, 0 < n → n ≤ t.listing.lines.length →
    ∃ i, Listing.HoldsLine blocks i n ∧
      ∀ (m : Interpreter) (e e' v : Value) (w u : World),
        evaluationFault m t.name (t.blamed ⟨e', some n⟩) e w = .ok v u →
          ∃ r x f, v = .ref r ∧ u.at' r = .exception x ∧ x.fault = some f ∧ f.place =
            { template := some t.name
              line := some (1 + Text.occurrences '\n' (String.join (pieces.take (i + 1))) : Nat) }

/-- Every line number leads from the listing of a template back to the segment that wrote the line, and
to the line on which that segment ends in the template. -/
theorem exists_attribution (hreturn : '\r' ∉ source.toList) (h : compile name source = .ok t) :
    ∃ pieces blocks, t.Attribution source pieces blocks := by
  obtain ⟨-, hparse, hlisting⟩ := compile_eq_ok h
  obtain ⟨pieces, hspans, hjoin⟩ := Program.spans_of_parse hparse
  obtain ⟨blocks, hemits⟩ := Listing.exists_emits_of_ofProgram hlisting
  have hunbroken := hemits.unbroken Listing.unbroken_empty fun s hs hmem =>
    hreturn (hjoin ▸ hspans.code_subset hs hmem)
  have hsegment (n : Int) (hne : t.listing.lines ≠ []) :
      ∃ i s, t.program.segments[i]? = some s ∧
        Listing.HoldsLine blocks i (t.listing.nearestLine n) ∧
        segmentAt t.program.segments t.listing (some n) = s := by
    obtain ⟨i, hi, hholds⟩ := hemits.segmentIndexAt hne n
    obtain ⟨s, hs⟩ : ∃ s, t.program.segments[i]? = some s :=
      ⟨_, List.getElem?_eq_getElem (hemits.length_eq ▸ hholds.lt)⟩
    exact ⟨i, s, hs, hholds, by simp [segmentAt, hi, hs]⟩
  refine ⟨pieces, blocks, hjoin, hspans.isWrittenAs, hemits, hunbroken.lines_source,
    by simp [Listing.lineMap], hemits.lineMap_pairwise, fun i n => hemits.getElem?_lineMap, ?_,
    hsegment, ?_⟩
  · rintro line (rfl | hnil)
    · rfl
    · cases line with
      | none => rfl
      | some n => simp [segmentAt, Listing.segmentIndexAt_of_lines_eq_nil hnil]
  · intro n hpos hle
    have hne : t.listing.lines ≠ [] := List.length_pos_iff.1 (by omega)
    obtain ⟨i, s, hs, hholds, hat⟩ := hsegment n hne
    have hnearest : t.listing.nearestLine n = n := by
      unfold Listing.nearestLine
      omega
    refine ⟨i, hnearest ▸ hholds, fun m e e' v w u hfault => ?_⟩
    have hblamed : t.blamed ⟨e', some n⟩ = s := hat
    obtain ⟨r, x, f, hv, hx, hf, hplace⟩ := evaluationFault_place hfault
    exact ⟨r, x, f, hv, hx, hf, by rw [hplace, hblamed, hspans.line_eq hs]⟩

/-- A template whose expression goes on to a second line, inside a block. -/
def longExpression : String := "a\n<% if x: %><%= [1,\n 2] %><% end %>b"

theorem longExpression_attribution : '\r' ∉ longExpression.toList ∧
    ∃ t, compile "page" longExpression = .ok t ∧
      ∃ pieces blocks, t.Attribution longExpression pieces blocks := by
  have hreturn : '\r' ∉ longExpression.toList := by decide +kernel
  have hok : (compile "page" longExpression).toBool = true := by decide +kernel
  cases h : compile "page" longExpression with
  | error e =>
    rw [h] at hok
    cases hok
  | ok t => exact ⟨hreturn, t, rfl, exists_attribution hreturn h⟩

end Template

end Stencil
