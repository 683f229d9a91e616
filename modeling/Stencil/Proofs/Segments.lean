import Mathlib.Data.List.Forall2
import Stencil.Program
import Stencil.Proofs.Tokens

/-!
# Segments and the text they stand for

The segments of a program are the pieces of its template in order: literal text as it stands, and
directives as they are written. A segment ends on the line that is reached where its piece ends.
-/

namespace Stencil

namespace Text

theorem occurrences_append (c : Char) (s t : String) :
    occurrences c (s ++ t) = occurrences c s + occurrences c t := by
  simp [occurrences]

end Text

/-- A piece of a template that a segment stands for; a directive may be closed with a dash. -/
def Segment.IsWrittenAs (s : Segment) (piece : String) : Prop :=
  piece = s.directive ∨ s.kind ≠ .literal ∧ piece = "<%" ++ s.indicator.getD "" ++ s.code ++ "-%>"

theorem Segment.IsWrittenAs.code_subset {s : Segment} {piece : String} (h : s.IsWrittenAs piece) :
    s.code.toList ⊆ piece.toList := by
  intro c hc
  rcases h with rfl | ⟨-, rfl⟩
  · unfold Segment.directive
    split
    · exact hc
    · simp [hc]
  · simp [hc]

namespace Directive

/-- No indicator goes on to another line. -/
theorem Indicates.newline_not_mem {i code : List Char} (h : Indicates i code) : '\n' ∉ i := by
  cases h with
  | arrow | hash | bare => simp
  | equals _ hrun => exact fun hmem => by simpa using hrun _ hmem
  | punctuation _ hrun =>
    intro hmem
    have : isPunctuation '\n' = true := hrun _ hmem
    revert this
    decide

/-- The marks of a directive and its indicator hold no line feed. -/
theorem occurrences_written {i code : String} (h : Indicates i.toList code.toList) (trim : Bool) :
    Text.occurrences '\n' ("<%" ++ i ++ code ++ (if trim then "-%>" else "%>")) =
      Text.occurrences '\n' code := by
  have hindicator : Text.occurrences '\n' i = 0 := List.count_eq_zero.2 h.newline_not_mem
  simp only [Text.occurrences_append, hindicator]
  cases trim <;> simp [Text.occurrences]

theorem classify_some_ne_literal (i : String) : classify (some i) ≠ .literal := by
  unfold classify
  split <;> try simp
  split <;> simp

end Directive

namespace Program

/-- Segments stand for the pieces of a text one after another, which begins on a line: each ends on the
line that is reached there. -/
inductive Spans : Nat → List Segment → List String → Prop
  | nil (line : Nat) : Spans line [] []
  | cons {line : Nat} {s : Segment} {piece : String} {ss : List Segment} {pieces : List String} :
      s.IsWrittenAs piece → s.line = line + Text.occurrences '\n' piece → Spans s.line ss pieces →
      Spans line (s :: ss) (piece :: pieces)

namespace Spans

variable {line : Nat} {s : Segment} {ss : List Segment} {pieces : List String}

theorem isWrittenAs (h : Spans line ss pieces) : List.Forall₂ Segment.IsWrittenAs ss pieces := by
  induction h with
  | nil => exact .nil
  | cons hs _ _ ih => exact .cons hs ih

/-- The line of a segment counts the line feeds up to its end. -/
theorem line_eq {i : Nat} (h : Spans line ss pieces) (hs : ss[i]? = some s) :
    s.line = line + Text.occurrences '\n' (String.join (pieces.take (i + 1))) := by
  induction h generalizing i with
  | nil => simp at hs
  | @cons line s' piece ss pieces _ hline _ ih =>
    rw [List.take_succ_cons, String.join_cons, Text.occurrences_append]
    cases i with
    | zero =>
      obtain rfl := Option.some.inj hs
      rw [hline, List.take_zero]
      rfl
    | succ i =>
      rw [ih hs, hline]
      omega

theorem le_line (h : Spans line ss pieces) (hs : s ∈ ss) : line ≤ s.line := by
  induction h with
  | nil => cases hs
  | cons _ hline _ ih =>
    rcases List.mem_cons.1 hs with rfl | hs
    · omega
    · have := ih hs
      omega

theorem pairwise_line (h : Spans line ss pieces) : ss.Pairwise fun s t => s.line ≤ t.line := by
  induction h with
  | nil => exact .nil
  | cons _ _ hrest ih => exact .cons (fun t ht => hrest.le_line ht) ih

/-- A segment holds nothing that its template does not hold. -/
theorem code_subset (h : Spans line ss pieces) (hs : s ∈ ss) :
    s.code.toList ⊆ (String.join pieces).toList := by
  induction h with
  | nil => cases hs
  | cons hwritten _ _ ih =>
    rw [String.join_cons, String.toList_append]
    rcases List.mem_cons.1 hs with rfl | hs
    · exact List.subset_append_of_subset_left _ hwritten.code_subset
    · exact List.subset_append_of_subset_right _ (ih hs)

end Spans

/-- The segments of a directive are the text before it, if any, and the directive. -/
theorem segmentsFrom_directive {t : Token} {ts : List Token} {i : String} {line last : Nat}
    {ss : List Segment} (hi : t.indicator = some i)
    (h : segmentsFrom line (t :: ts) = .ok (ss, last)) :
    ∃ rest, segmentsFrom (line + Text.occurrences '\n' t.text + Text.occurrences '\n' t.code) ts =
        .ok (rest, last) ∧
      ss = literalSegment t.text (line + Text.occurrences '\n' t.text) ++
        { kind := Directive.classify (some i), code := t.code
          line := line + Text.occurrences '\n' t.text + Text.occurrences '\n' t.code
          indicator := some i } :: rest := by
  rw [segmentsFrom] at h
  simp only [hi] at h
  split at h
  · cases h
  · cases hrest : segmentsFrom (line + Text.occurrences '\n' t.text + Text.occurrences '\n' t.code) ts with
    | error e =>
      rw [hrest] at h
      cases h
    | ok r =>
      rw [hrest] at h
      obtain ⟨rfl, rfl⟩ := Prod.mk.inj (Except.ok.inj h)
      exact ⟨r.1, rfl, rfl⟩

/-- Literal text stands for itself. -/
theorem spans_literalSegment {line : Nat} {ss : List Segment} {pieces : List String} (text : String)
    (h : Spans (line + Text.occurrences '\n' text) ss pieces) :
    ∃ more, Spans line (literalSegment text (line + Text.occurrences '\n' text) ++ ss) (more ++ pieces) ∧
      String.join (more ++ pieces) = text ++ String.join pieces := by
  unfold literalSegment
  split
  · rename_i htext
    subst htext
    exact ⟨[], h, by simp⟩
  · exact ⟨[text], .cons (.inl rfl) rfl h, String.join_cons⟩

/-- The segments of directives and the text after them stand for what is written there. -/
theorem spans_of_segmentsFrom {ds : List (Token × Bool)} {rest : List Char} {line last : Nat}
    {ss : List Segment} (hds : ∀ d ∈ ds, d.1.IsDirective d.2)
    (h : segmentsFrom line (ds.map (·.1) ++ Token.trailing rest) = .ok (ss, last)) :
    ∃ pieces, Spans line ss pieces ∧
      String.join pieces = String.join (ds.map fun d => d.1.serialize d.2) ++ String.ofList rest := by
  induction ds generalizing line ss with
  | nil =>
    cases rest with
    | nil =>
      obtain ⟨rfl, -⟩ := Prod.mk.inj (Except.ok.inj h)
      exact ⟨[], .nil line, rfl⟩
    | cons c rest =>
      obtain ⟨rfl, -⟩ := Prod.mk.inj (Except.ok.inj h)
      obtain ⟨more, hmore, hjoin⟩ := spans_literalSegment (String.ofList (c :: rest)) (.nil _)
      exact ⟨more ++ [], hmore, by simpa using hjoin⟩
  | cons d ds ih =>
    obtain ⟨⟨text, indicator, code⟩, trim⟩ := d
    rw [List.forall_mem_cons] at hds
    obtain ⟨i, hi, hindicates⟩ := hds.1.indicated
    obtain ⟨ss', hss', rfl⟩ := segmentsFrom_directive hi h
    obtain ⟨pieces, hpieces, hjoin⟩ := ih hds.2 hss'
    -- The directive alone, without the text before it.
    let piece := "<%" ++ i ++ code ++ (if trim then "-%>" else "%>")
    have hserialize : Token.serialize trim ⟨text, indicator, code⟩ = text ++ piece := by
      simp only [Token.serialize, show indicator = some i from hi, piece, String.append_assoc]
    have hfeeds : Text.occurrences '\n' piece = Text.occurrences '\n' code :=
      Directive.occurrences_written hindicates trim
    have hwritten : Segment.IsWrittenAs
        { kind := Directive.classify (some i), code := code
          line := line + Text.occurrences '\n' text + Text.occurrences '\n' code
          indicator := some i } piece := by
      have hkind := Directive.classify_some_ne_literal i
      cases trim with
      | true => exact .inr ⟨hkind, rfl⟩
      | false => exact .inl (by simp [Segment.directive, hkind, piece])
    have hspans := Spans.cons hwritten (by rw [hfeeds]) hpieces
    obtain ⟨more, hmore, hmorejoin⟩ := spans_literalSegment text hspans
    refine ⟨more ++ piece :: pieces, hmore, ?_⟩
    rw [hmorejoin, String.join_cons, hjoin, List.map_cons, String.join_cons, hserialize]
    simp only [String.append_assoc]

/-- The segments of a program stand for the whole of its template. -/
theorem spans_of_parse {name source : String} {p : Program} (h : parse name source = .ok p) :
    ∃ pieces, Spans 1 p.segments pieces ∧ String.join pieces = source := by
  obtain ⟨ds, rest, hds, hrest, hwritten⟩ := Directive.exists_written source.toList
  unfold parse ofTokens at h
  rw [tokenize, hwritten, Directive.scan_written hds hrest] at h
  cases hss : segmentsFrom 1 (ds.map (·.1) ++ Token.trailing rest) with
  | error e =>
    rw [hss] at h
    cases h
  | ok r =>
    rw [hss] at h
    obtain rfl := Except.ok.inj h
    obtain ⟨pieces, hpieces, hjoin⟩ := spans_of_segmentsFrom hds hss
    refine ⟨pieces, hpieces, ?_⟩
    rw [hjoin, ← String.toList_inj, hwritten]
    simp [String.toList_join, List.flatMap_map]

end Program

end Stencil
