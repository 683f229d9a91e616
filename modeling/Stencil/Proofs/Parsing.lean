import Stencil.Proofs.Segments

/-!
# Parsing

The program of a template names every piece of it and the line on which the piece ends. The lines are
counted from texts and codes alone: no mark and no indicator goes on to another line, so the count is that
of the template. The first directive whose indicator has no meaning ends the parse.
-/

namespace Stencil

namespace Directive

/-- An indicator without a meaning: not empty, no arrow, no hash and no run of equals signs. -/
def IsUnknown (i : String) : Prop := i ≠ "" ∧ i ≠ "->" ∧ i ≠ "#" ∧ ∃ c ∈ i.toList, c ≠ '='

theorem isEqualsRun_eq_true {cs : List Char} : isEqualsRun cs = true ↔ cs ≠ [] ∧ ∀ c ∈ cs, c = '=' := by
  cases cs <;> simp [isEqualsRun]

theorem classify_eq_error_iff {i : String} : classify (some i) = .error ↔ IsUnknown i := by
  by_cases hhash : i = "#"
  · subst hhash
    simp [classify, IsUnknown]
  by_cases hempty : i = ""
  · subst hempty
    simp [classify, IsUnknown]
  by_cases harrow : i = "->"
  · subst harrow
    simp [classify, IsUnknown]
  have hclassify : classify (some i) = if isEqualsRun i.toList then .interpolation else .error := by
    unfold classify
    split <;> simp_all
  rw [hclassify]
  have hne : i.toList ≠ [] := by simpa using hempty
  by_cases hrun : isEqualsRun i.toList = true
  · rw [if_pos hrun]
    have hall := (isEqualsRun_eq_true.1 hrun).2
    simp only [reduceCtorEq, false_iff]
    rintro ⟨-, -, -, c, hc, hne⟩
    exact hne (hall c hc)
  · rw [if_neg hrun]
    simp only [true_iff]
    refine ⟨hempty, harrow, hhash, ?_⟩
    by_contra hall
    push Not at hall
    exact hrun (isEqualsRun_eq_true.2 ⟨hne, hall⟩)

/-- A template cut at its directives: each with the text before it and whether a dash closes it, and the
text behind the last one. -/
structure Cut (source : String) (ds : List (Token × Bool)) (rest : String) : Prop where
  covers : source = String.join (ds.map fun d => d.1.serialize d.2) ++ rest
  directives : ∀ d ∈ ds, d.1.IsDirective d.2
  rest : ¬ HasDirective rest.toList

variable {source rest : String} {ds : List (Token × Bool)}

theorem exists_cut (source : String) : ∃ ds rest, Cut source ds rest := by
  obtain ⟨ds, rest, hds, hrest, hwritten⟩ := exists_written source.toList
  refine ⟨ds, String.ofList rest, ?_, hds, by simpa using hrest⟩
  rw [← String.toList_inj, hwritten]
  simp [String.toList_join, List.flatMap_map]

theorem Cut.tokenize_eq (h : Cut source ds rest) :
    tokenize source = ds.map (·.1) ++ Token.trailing rest.toList := by
  rw [tokenize, ← scan_written h.directives h.rest, h.covers]
  simp [String.toList_join, List.flatMap_map]

/-- Directives whose indicators have a meaning. -/
def Known (ds : List (Token × Bool)) : Prop := ∀ d ∈ ds, ∀ i ∈ d.1.indicator, ¬ IsUnknown i

end Directive

/-- A segment apart from the line on which it ends. -/
def Segment.content (s : Segment) : SegmentKind × String × Option String := (s.kind, s.code, s.indicator)

/-- What the segments of a literal text are; the empty text has none. -/
def literalContents (text : String) : List (SegmentKind × String × Option String) :=
  if text = "" then [] else [(.literal, text, none)]

/-- What the segments of a directive with the text before it are. -/
def Token.contents (t : Token) : List (SegmentKind × String × Option String) :=
  literalContents t.text ++ [(Directive.classify t.indicator, t.code, t.indicator)]

namespace Program

open Directive

variable {name source rest : String} {ds : List (Token × Bool)} {p : Program} {line : Nat}

theorem map_content_literalSegment (text : String) (line : Nat) :
    (literalSegment text line).map Segment.content = literalContents text := by
  unfold literalSegment literalContents
  split <;> rfl

/-- The literal texts among segments, joined. -/
theorem join_literals (ss : List Segment) :
    String.join ((ss.filter (·.kind = .literal)).map (·.code)) =
      String.join (((ss.map Segment.content).filter (·.1 = .literal)).map (·.2.1)) := by
  rw [List.filter_map, List.map_map]
  rfl

theorem join_literalContents (text : String) :
    String.join (((literalContents text).filter (·.1 = .literal)).map (·.2.1)) = text := by
  unfold literalContents
  split
  · simp [*]
  · simp

/-- The literal text of a directive is the text before it. -/
theorem join_contents {t : Token} {trim : Bool} (h : t.IsDirective trim) :
    String.join ((t.contents.filter (·.1 = .literal)).map (·.2.1)) = t.text := by
  obtain ⟨i, hi, -⟩ := h.indicated
  have hkind := classify_some_ne_literal i
  rw [Token.contents, List.filter_append, List.map_append, String.join_append, join_literalContents,
    hi]
  simp [hkind]

theorem join_flatMap_contents (hds : ∀ d ∈ ds, d.1.IsDirective d.2) :
    String.join (((ds.flatMap fun d => d.1.contents).filter (·.1 = .literal)).map (·.2.1)) =
      String.join (ds.map (·.1.text)) := by
  induction ds with
  | nil => rfl
  | cons d ds ih =>
    rw [List.forall_mem_cons] at hds
    rw [List.flatMap_cons, List.filter_append, List.map_append, String.join_append, join_contents hds.1,
      ih hds.2, List.map_cons, String.join_cons]

/-- What follows a directive is parsed from the line on which the directive ends. -/
theorem segmentsFrom_cons {t : Token} {ts : List Token} {i : String} (hi : t.indicator = some i)
    (hknown : ¬ IsUnknown i) :
    segmentsFrom line (t :: ts) = do
      let textLine := line + Text.occurrences '\n' t.text
      let codeLine := textLine + Text.occurrences '\n' t.code
      let (ss, last) ← segmentsFrom codeLine ts
      return (literalSegment t.text textLine ++
        { kind := classify (some i), code := t.code, line := codeLine, indicator := some i } :: ss, last) := by
  rw [segmentsFrom]
  simp only [hi]
  exact if_neg (mt classify_eq_error_iff.1 hknown)

/-- A directive without a meaning ends the parse on the line on which its code ends. -/
theorem segmentsFrom_unknown {t : Token} {ts : List Token} {i : String} (hi : t.indicator = some i)
    (hunknown : IsUnknown i) :
    segmentsFrom line (t :: ts) = .error ⟨i, "<%" ++ i ++ t.code ++ "%>",
      line + Text.occurrences '\n' t.text + Text.occurrences '\n' t.code⟩ := by
  have herror := classify_eq_error_iff.2 hunknown
  rw [segmentsFrom]
  simp only [hi]
  refine (if_pos herror).trans ?_
  simp [Segment.directive, herror]

/-- The line on which a directive ends, counted from the one on which the text before it begins. -/
theorem line_serialize {t : Token} {trim : Bool} (h : t.IsDirective trim) (line : Nat) :
    line + Text.occurrences '\n' t.text + Text.occurrences '\n' t.code =
      line + Text.occurrences '\n' (t.serialize trim) := by
  obtain ⟨i, hi, hindicates⟩ := h.indicated
  have hserialize : t.serialize trim =
      t.text ++ ("<%" ++ i ++ t.code ++ (if trim then "-%>" else "%>")) := by
    simp only [Token.serialize, hi, String.append_assoc]
  rw [hserialize, Text.occurrences_append, occurrences_written hindicates]
  omega

/-- Directives with a meaning are parsed into what they are. -/
theorem segmentsFrom_known (hds : ∀ d ∈ ds, d.1.IsDirective d.2) (hknown : Known ds) :
    ∃ ss, segmentsFrom line (ds.map (·.1) ++ Token.trailing rest.toList) =
        .ok (ss, line + Text.occurrences '\n' (String.join (ds.map fun d => d.1.serialize d.2) ++ rest)) ∧
      ss.map Segment.content = ds.flatMap (fun d => d.1.contents) ++ literalContents rest := by
  induction ds generalizing line with
  | nil =>
    by_cases hrest : rest = ""
    · subst hrest
      exact ⟨[], by simp [Token.trailing, segmentsFrom, Text.occurrences], by simp [literalContents]⟩
    · refine ⟨literalSegment rest (line + Text.occurrences '\n' rest), ?_, ?_⟩
      · simp [Token.trailing, segmentsFrom, hrest, Text.occurrences, bind, Except.bind, pure, Except.pure]
      · rw [map_content_literalSegment]
        rfl
  | cons d ds ih =>
    obtain ⟨t, trim⟩ := d
    rw [List.forall_mem_cons] at hds
    obtain ⟨i, hi, -⟩ := hds.1.indicated
    have htail : Known ds := fun d hd => hknown d (List.mem_cons_of_mem _ hd)
    obtain ⟨ss, hss, hcontents⟩ := @ih (line + Text.occurrences '\n' (t.serialize trim)) hds.2 htail
    let directive : Segment :=
      { kind := classify (some i), code := t.code
        line := line + Text.occurrences '\n' (t.serialize trim), indicator := some i }
    refine ⟨literalSegment t.text (line + Text.occurrences '\n' t.text) ++ directive :: ss, ?_, ?_⟩
    · rw [List.map_cons, List.cons_append, segmentsFrom_cons hi (hknown _ List.mem_cons_self i hi)]
      dsimp only
      rw [line_serialize hds.1, hss, List.map_cons, String.join_cons, String.append_assoc,
        Text.occurrences_append _ (t.serialize trim), Nat.add_assoc]
      rfl
    · rw [List.map_append, List.map_cons, map_content_literalSegment, hcontents, List.flatMap_cons,
        Token.contents, hi]
      simp [Segment.content, directive]

/-- Directives are parsed up to the first one without a meaning. -/
theorem segmentsFrom_append {before : List (Token × Bool)} {t : Token} {ts : List Token} {i : String}
    (hbefore : ∀ d ∈ before, d.1.IsDirective d.2) (hknown : Known before) (hi : t.indicator = some i)
    (hfeed : '\n' ∉ i.toList) (hunknown : IsUnknown i) :
    segmentsFrom line (before.map (·.1) ++ t :: ts) = .error ⟨i, "<%" ++ i ++ t.code ++ "%>",
      line + Text.occurrences '\n' (String.join (before.map fun d => d.1.serialize d.2) ++
        (t.text ++ "<%" ++ i ++ t.code))⟩ := by
  induction before generalizing line with
  | nil =>
    have hmarks : Text.occurrences '\n' (t.text ++ "<%" ++ i ++ t.code) =
        Text.occurrences '\n' t.text + Text.occurrences '\n' t.code := by
      have hindicator : Text.occurrences '\n' i = 0 := List.count_eq_zero.2 hfeed
      simp only [Text.occurrences_append, hindicator]
      simp [Text.occurrences]
    rw [List.map_nil, List.nil_append, segmentsFrom_unknown hi hunknown]
    simp [hmarks, Nat.add_assoc]
  | cons d before ih =>
    rw [List.forall_mem_cons] at hbefore
    obtain ⟨j, hj, -⟩ := hbefore.1.indicated
    rw [List.map_cons, List.cons_append, segmentsFrom_cons hj (hknown _ List.mem_cons_self j hj)]
    dsimp only
    rw [line_serialize hbefore.1, ih hbefore.2 fun d hd => hknown d (List.mem_cons_of_mem _ hd),
      List.map_cons, String.join_cons]
    simp only [Text.occurrences_append, Nat.add_assoc]
    rfl

/-- A program that is the whole of a template, which is cut at its directives. -/
structure Covers (p : Program) (source : String) (ds : List (Token × Bool)) (rest : String) : Prop where
  /-- The segments are the literal texts that are not empty and the directives, in order. -/
  contents : p.segments.map Segment.content = ds.flatMap (fun d => d.1.contents) ++ literalContents rest
  /-- The literal text is the template without its directives. -/
  literalText_eq : p.literalText = String.join (ds.map (·.1.text)) ++ rest
  /-- A segment ends on the line that is reached in the template where its piece ends. -/
  line_eq : ∃ pieces, String.join pieces = source ∧
    List.Forall₂ Segment.IsWrittenAs p.segments pieces ∧
    ∀ i s, p.segments[i]? = some s →
      s.line = 1 + Text.occurrences '\n' (String.join (pieces.take (i + 1)))
  lines_pairwise : p.segments.Pairwise fun s t => s.line ≤ t.line
  lines_eq : p.lines = 1 + Text.occurrences '\n' source

/-- The first directive without a meaning, if there is one. -/
theorem known_or_exists_first (ds : List (Token × Bool)) :
    Known ds ∨ ∃ before d after i, ds = before ++ d :: after ∧ Known before ∧ d.1.indicator = some i ∧
      IsUnknown i := by
  induction ds with
  | nil => exact .inl fun d hd => absurd hd List.not_mem_nil
  | cons d ds ih =>
    by_cases hd : ∃ i, d.1.indicator = some i ∧ IsUnknown i
    · obtain ⟨i, hi, hunknown⟩ := hd
      exact .inr ⟨[], d, ds, i, rfl, fun d hd => absurd hd List.not_mem_nil, hi, hunknown⟩
    have hknown : ∀ i ∈ d.1.indicator, ¬ IsUnknown i := fun i hi hunknown => hd ⟨i, hi, hunknown⟩
    obtain hds | ⟨before, e, after, i, rfl, hbefore, hi, hunknown⟩ := ih
    · exact .inl (List.forall_mem_cons.2 ⟨hknown, hds⟩)
    · exact .inr ⟨d :: before, e, after, i, rfl, List.forall_mem_cons.2 ⟨hknown, hbefore⟩, hi, hunknown⟩

theorem parse_of_known (name : String) (hcut : Cut source ds rest) (hknown : Known ds) :
    ∃ p, parse name source = .ok p ∧ p.name = name ∧ p.Covers source ds rest := by
  obtain ⟨ss, hss, hcontents⟩ := @segmentsFrom_known rest ds 1 hcut.directives hknown
  obtain ⟨pieces, hspans, hjoin⟩ := spans_of_segmentsFrom hcut.directives hss
  rw [String.ofList_toList, ← hcut.covers] at hjoin
  rw [← hcut.covers, ← hcut.tokenize_eq] at hss
  refine ⟨⟨name, ss, 1 + Text.occurrences '\n' source⟩, ?_, rfl, hcontents, ?_, ?_, hspans.pairwise_line,
    rfl⟩
  · rw [parse, ofTokens, hss]
    rfl
  · rw [literalText, join_literals, hcontents, List.filter_append, List.map_append, String.join_append,
      join_literalContents, join_flatMap_contents hcut.directives]
  · exact ⟨pieces, hjoin, hspans.isWrittenAs, fun i s hs => hspans.line_eq hs⟩

/-- A template is parsed if every indicator in it has a meaning, into a program that is the whole of it;
otherwise the first directive without one is reported on the line on which its code ends. -/
theorem parse_exact (name source : String) :
    ∃ ds rest, Cut source ds rest ∧
      ((∃ before d after i, ds = before ++ d :: after ∧ Known before ∧ d.1.indicator = some i ∧
          IsUnknown i ∧
          parse name source = .error ⟨i, "<%" ++ i ++ d.1.code ++ "%>",
            1 + Text.occurrences '\n' (String.join (before.map fun d => d.1.serialize d.2) ++
              (d.1.text ++ "<%" ++ i ++ d.1.code))⟩) ∨
        Known ds ∧ ∃ p, parse name source = .ok p ∧ p.name = name ∧ p.Covers source ds rest) := by
  obtain ⟨ds, rest, hcut⟩ := exists_cut source
  refine ⟨ds, rest, hcut, ?_⟩
  obtain hknown | ⟨before, d, after, i, rfl, hbefore, hi, hunknown⟩ := known_or_exists_first ds
  · exact .inr ⟨hknown, parse_of_known name hcut hknown⟩
  · obtain ⟨hdirectives, hd⟩ := List.forall_mem_append.1 hcut.directives
    obtain ⟨j, hj, hindicates⟩ := (hd d List.mem_cons_self).indicated
    obtain rfl := Option.some.inj (hi.symm.trans hj)
    refine .inl ⟨before, d, after, i, rfl, hbefore, hi, hunknown, ?_⟩
    rw [parse, ofTokens, hcut.tokenize_eq, List.map_append, List.map_cons, List.append_assoc,
      List.cons_append, segmentsFrom_append hdirectives hbefore hi hindicates.newline_not_mem hunknown]
    rfl

end Program

end Stencil
