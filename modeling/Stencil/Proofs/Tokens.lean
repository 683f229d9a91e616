import Mathlib.Data.List.TakeWhile
import Stencil.Directive.Token

/-!
# Tokens and templates

Cutting a template into tokens loses nothing, and tokens that are written down are cut again into
themselves. Both follow from where the first directive of a text is: it opens at the first `<%` if a
closing mark stands anywhere after it, and then every indicator but one is ruled out by what follows.
-/

namespace Stencil

namespace Directive

variable {s t r i code after rest : List Char} {c : Char} {trim : Bool}

/-- A text has a directive when a closing mark stands somewhere after an opening one. -/
def HasDirective (s : List Char) : Prop :=
  ∃ before after, s = before ++ '<' :: '%' :: after ∧ ['%', '>'] <:+: after

/-- An indicator before code that neither extends it nor makes it another one. -/
inductive Indicates : List Char → List Char → Prop
  | arrow (code : List Char) : Indicates ['-', '>'] code
  | hash (code : List Char) : Indicates ['#'] code
  | equals {run code : List Char} : run ≠ [] → (∀ c ∈ run, c = '=') → code.head? ≠ some '=' →
      Indicates run code
  | punctuation {run code : List Char} : run ≠ [] → (∀ c ∈ run, isPunctuation c = true) →
      (∀ c ∈ code.head?, isPunctuation c = false) → Indicates run code
  | bare {code : List Char} : ¬ ['-', '>'] <+: code → code.head? ≠ some '#' → code.head? ≠ some '=' →
      (∀ c ∈ code.head?, isPunctuation c = false) → Indicates [] code

/-- A closing mark, with or without the dash that belongs to it. -/
def closer (trim : Bool) : List Char := if trim then ['-', '%', '>'] else ['%', '>']

/-- Code that ends where its closing mark begins. -/
def EndsAtCloser (trim : Bool) (code : List Char) : Prop :=
  ¬ ['%', '>'] <:+: code ∧ (trim = true ∨ code.getLast? ≠ some '-')

/-! ## The end of the code -/

theorem splitCode_eq_none_iff : splitCode s = none ↔ ¬ ['%', '>'] <:+: s := by
  fun_induction splitCode s with
  | case1 rest => simp [List.infix_cons_iff]
  | case2 rest => simp [List.infix_cons_iff]
  | case3 c rest hmark hdash ih =>
    have hc : ¬ ['%', '>'] <+: c :: rest := by
      rintro ⟨u, hu⟩
      cases hu
      exact hmark u rfl rfl
    rw [Option.map_eq_none_iff, ih, List.infix_cons_iff, not_or]
    exact ⟨fun h => ⟨hc, h⟩, fun h => h.2⟩
  | case4 => simp

theorem splitCode_append (h : EndsAtCloser trim code) :
    splitCode (code ++ (closer trim ++ rest)) = some (code, rest) := by
  obtain ⟨hwithin, hlast⟩ := h
  induction code with
  | nil => cases trim <;> rfl
  | cons c code ih =>
    rw [List.infix_cons_iff, not_or] at hwithin
    have hlast' : trim = true ∨ code.getLast? ≠ some '-' := by
      refine hlast.imp_right fun hl h => hl ?_
      rw [List.getLast?_cons, h]
      rfl
    rw [List.cons_append, splitCode, ih hwithin.2 hlast']
    · rfl
    · -- A closing mark that begins with `c` would lie in the code or begin with its last character.
      rintro u rfl hu
      cases code with
      | nil => cases trim <;> simp [closer] at hu
      | cons d code =>
        rw [List.cons_append, List.cons.injEq] at hu
        exact hwithin.1 ⟨code, by rw [hu.1]; rfl⟩
    · rintro u rfl hu
      cases code with
      | nil =>
        cases trim with
        | true => simp [closer] at hu
        | false => simp at hlast
      | cons d code =>
        rw [List.cons_append, List.cons.injEq] at hu
        cases code with
        | nil => cases trim <;> simp [closer] at hu
        | cons e code =>
          rw [List.cons_append, List.cons.injEq] at hu
          exact hwithin.2 ⟨[], code, by rw [hu.1, hu.2.1]; rfl⟩

theorem splitCode_eq_some (h : splitCode s = some (code, rest)) :
    ∃ trim, s = code ++ (closer trim ++ rest) ∧ EndsAtCloser trim code := by
  fun_induction splitCode s generalizing code with
  | case1 r =>
    obtain ⟨rfl, rfl⟩ := Prod.mk.inj (Option.some.inj h)
    exact ⟨false, rfl, by simp, by simp⟩
  | case2 r =>
    obtain ⟨rfl, rfl⟩ := Prod.mk.inj (Option.some.inj h)
    exact ⟨true, rfl, by simp, by simp⟩
  | case3 c s hmark hdash ih =>
    obtain ⟨⟨code', rest'⟩, hr, he⟩ := Option.map_eq_some_iff.1 h
    simp only [Prod.mk.injEq] at he
    obtain ⟨rfl, rfl⟩ := he
    obtain ⟨trim, rfl, hwithin, hlast⟩ := ih hr
    refine ⟨trim, rfl, ?_, ?_⟩
    · rw [List.infix_cons_iff, not_or]
      refine ⟨?_, hwithin⟩
      rintro ⟨u, hu⟩
      rw [List.cons_append, List.cons.injEq] at hu
      obtain ⟨rfl, hu⟩ := hu
      exact hmark (u ++ (closer trim ++ rest')) rfl (by rw [← hu]; rfl)
    · cases trim with
      | true => exact .inl rfl
      | false =>
        refine .inr fun hl => ?_
        cases code' with
        | nil =>
          obtain rfl := Option.some.inj hl
          exact hdash rest' rfl rfl
        | cons d code' => exact hlast.resolve_left (by simp) (by simpa using hl)
  | case4 => cases h

/-! ## The indicator -/

/-- No indicator begins a closing mark. -/
theorem Indicates.not_mem (h : Indicates i code) : '%' ∉ i := by
  cases h with
  | arrow | hash | bare => simp
  | equals _ hrun => exact fun hmem => by simpa using hrun _ hmem
  | punctuation _ hrun =>
    intro hmem
    have : isPunctuation '%' = true := hrun _ hmem
    revert this
    decide

/-- A closing mark decides about an indicator as the end of the text does. -/
theorem indicates_append_closer :
    Indicates i (code ++ (closer trim ++ rest)) ↔ Indicates i code := by
  have hhead (c : Char) (hc : c ≠ '-') (hc' : c ≠ '%') :
      (code ++ (closer trim ++ rest)).head? = some c ↔ code.head? = some c := by
    cases code with
    | nil => cases trim <;> simp [closer, hc.symm, hc'.symm]
    | cons d code => simp
  have hpunctuation : (∀ c ∈ (code ++ (closer trim ++ rest)).head?, isPunctuation c = false) ↔
      ∀ c ∈ code.head?, isPunctuation c = false := by
    cases code with
    | nil => cases trim <;> simp [closer] <;> decide
    | cons d code => simp
  have harrow : ['-', '>'] <+: code ++ (closer trim ++ rest) ↔ ['-', '>'] <+: code := by
    match code with
    | [] => cases trim <;> simp [closer, List.cons_prefix_cons]
    | [d] => cases trim <;> simp [closer, List.cons_prefix_cons]
    | d :: e :: code => simp [List.cons_prefix_cons]
  constructor
  · intro h
    cases h with
    | arrow => exact .arrow code
    | hash => exact .hash code
    | equals hne hrun hcode => exact .equals hne hrun (mt (hhead _ (by decide) (by decide)).2 hcode)
    | punctuation hne hrun hcode => exact .punctuation hne hrun (hpunctuation.1 hcode)
    | bare ha hh he hp =>
      exact .bare (mt harrow.2 ha) (mt (hhead _ (by decide) (by decide)).2 hh)
        (mt (hhead _ (by decide) (by decide)).2 he) (hpunctuation.1 hp)
  · intro h
    cases h with
    | arrow => exact .arrow _
    | hash => exact .hash _
    | equals hne hrun hcode => exact .equals hne hrun (mt (hhead _ (by decide) (by decide)).1 hcode)
    | punctuation hne hrun hcode => exact .punctuation hne hrun (hpunctuation.2 hcode)
    | bare ha hh he hp =>
      exact .bare (mt harrow.1 ha) (mt (hhead _ (by decide) (by decide)).1 hh)
        (mt (hhead _ (by decide) (by decide)).1 he) (hpunctuation.2 hp)

theorem takeWhile_append_of_head? {p : Char → Bool} (hrun : ∀ c ∈ i, p c = true)
    (hcode : ∀ c ∈ code.head?, p c = false) : (i ++ code).takeWhile p = i := by
  rw [List.takeWhile_append_of_pos hrun]
  cases code with
  | nil => simp
  | cons c code => simp [hcode c rfl]

theorem head?_dropWhile_eq_false {p : Char → Bool} :
    ∀ c ∈ (s.dropWhile p).head?, p c = false := by
  intro c hc
  have := List.head?_dropWhile_not p s
  rw [hc] at this
  simpa using this

/-- What follows an opening mark begins with an indicator. -/
theorem exists_indicates (s : List Char) : ∃ i after, s = i ++ after ∧ Indicates i after := by
  by_cases harrow : ['-', '>'] <+: s
  · obtain ⟨after, rfl⟩ := harrow
    exact ⟨_, after, rfl, .arrow after⟩
  by_cases hhash : s.head? = some '#'
  · obtain ⟨after, rfl⟩ := List.head?_eq_some_iff.1 hhash
    exact ⟨['#'], after, rfl, .hash after⟩
  by_cases hequals : s.head? = some '='
  · refine ⟨s.takeWhile (· == '='), s.dropWhile (· == '='), List.takeWhile_append_dropWhile.symm,
      .equals ?_ ?_ ?_⟩
    · obtain ⟨after, rfl⟩ := List.head?_eq_some_iff.1 hequals
      simp
    · exact fun c hc => by simpa using List.mem_takeWhile_imp hc
    · exact fun hc => by simpa using head?_dropWhile_eq_false _ hc
  · by_cases hrun : s.takeWhile isPunctuation = []
    · refine ⟨[], s, rfl, .bare harrow hhash hequals ?_⟩
      have hs : s.dropWhile isPunctuation = s := by
        have := List.takeWhile_append_dropWhile (p := isPunctuation) (l := s)
        rwa [hrun] at this
      rw [← hs]
      exact head?_dropWhile_eq_false
    · exact ⟨_, _, List.takeWhile_append_dropWhile.symm,
        .punctuation hrun (fun c hc => List.mem_takeWhile_imp hc) head?_dropWhile_eq_false⟩

/-- Nothing but an arrow is ruled out by what comes before it among the indicators. -/
theorem indicators_of_head {c : Char} (hdash : c ≠ '-') (hhash : c ≠ '#') :
    indicators (c :: s) =
      (match (c :: s).takeWhile (· == '=') with
        | [] => []
        | run => [(run, (c :: s).drop run.length)]) ++
        [((c :: s).takeWhile isPunctuation,
          (c :: s).drop ((c :: s).takeWhile isPunctuation).length)] := by
  unfold indicators
  split
  · simp_all
  · split
    · simp_all
    · rfl

/-- The preferred indicator is the one that nothing rules out. -/
theorem head?_indicators (h : Indicates i after) :
    (indicators (i ++ after)).head? = some (i, after) := by
  cases h with
  | arrow => rfl
  | hash => rfl
  | equals hne hrun hcode =>
    obtain ⟨c, run, rfl⟩ := List.exists_cons_of_ne_nil hne
    obtain rfl := hrun c List.mem_cons_self
    have ht : ('=' :: run ++ after).takeWhile (· == '=') = '=' :: run :=
      takeWhile_append_of_head? (by simpa using hrun) (fun c hc => by
        simpa using fun h : c = '=' => hcode (h ▸ hc))
    rw [List.cons_append] at ht ⊢
    rw [indicators_of_head (by decide) (by decide), ht]
    simp
  | punctuation hne hrun hcode =>
    obtain ⟨c, run, rfl⟩ := List.exists_cons_of_ne_nil hne
    have hc (d : Char) (hd : isPunctuation d = false) : c ≠ d := by
      rintro rfl
      rw [hrun c List.mem_cons_self] at hd
      cases hd
    have ht := takeWhile_append_of_head? hrun hcode
    have he : (c :: (run ++ after)).takeWhile (· == '=') = [] := by
      rw [List.takeWhile_cons_of_neg (by simpa using hc '=' (by decide))]
    rw [List.cons_append] at ht ⊢
    rw [indicators_of_head (hc '-' (by decide)) (hc '#' (by decide)), he, ht]
    simp
  | bare harrow hhash hequals hcode =>
    have ht := takeWhile_append_of_head? (i := []) (by simp) hcode
    have he : after.takeWhile (· == '=') = [] := by
      refine takeWhile_append_of_head? (i := []) (by simp) fun c hc => ?_
      simpa using fun h : c = '=' => hequals (h ▸ hc)
    rw [List.nil_append] at ht ⊢
    unfold indicators
    split
    · exact absurd ⟨_, rfl⟩ harrow
    · split
      · simp at hhash
      · rw [he, ht]
        rfl

/-! ## The first directive -/

theorem infix_append_of_not_mem (h : '%' ∉ s) :
    ['%', '>'] <:+: s ++ t ↔ ['%', '>'] <:+: t := by
  induction s with
  | nil => rfl
  | cons c s ih =>
    rw [List.mem_cons, not_or] at h
    rw [List.cons_append, List.infix_cons_iff, ih h.2, List.cons_prefix_cons]
    simp [h.1]

/-- A directive is read if its code is closed, with the one indicator that stands there. -/
theorem readBody_append (h : Indicates i after) :
    readBody (i ++ after) = (splitCode after).map fun r => ⟨i, r.1, r.2⟩ := by
  have hhead := head?_indicators h
  unfold readBody
  generalize hl : indicators (i ++ after) = l at hhead
  obtain ⟨others, rfl⟩ := List.head?_eq_some_iff.1 hhead
  rw [List.findSome?_cons]
  cases hs : splitCode after with
  | some r => rfl
  | none =>
    -- Code that is not closed after one indicator is not closed after another one either.
    rw [splitCode_eq_none_iff, ← infix_append_of_not_mem h.not_mem] at hs
    rw [Option.map_none, List.findSome?_eq_none_iff]
    intro j hj
    have hsuffix := suffix_of_mem_indicators (hl ▸ List.mem_cons_of_mem _ hj)
    rw [Option.map_eq_none_iff, splitCode_eq_none_iff]
    exact fun hwithin => hs (hwithin.trans hsuffix.isInfix)

theorem readBody_eq_none_iff : readBody s = none ↔ ¬ ['%', '>'] <:+: s := by
  obtain ⟨i, after, rfl, h⟩ := exists_indicates s
  rw [readBody_append h, Option.map_eq_none_iff, splitCode_eq_none_iff,
    infix_append_of_not_mem h.not_mem]

theorem readBody_eq_some {b : Body} (h : readBody s = some b) :
    ∃ trim, s = b.indicator ++ (b.code ++ (closer trim ++ b.rest)) ∧
      Indicates b.indicator b.code ∧ EndsAtCloser trim b.code := by
  obtain ⟨i, after, rfl, hi⟩ := exists_indicates s
  rw [readBody_append hi] at h
  obtain ⟨⟨code, rest⟩, hr, rfl⟩ := Option.map_eq_some_iff.1 h
  obtain ⟨trim, rfl, hcode⟩ := splitCode_eq_some hr
  exact ⟨trim, rfl, indicates_append_closer.1 hi, hcode⟩

theorem readBody_written (hi : Indicates i code) (hcode : EndsAtCloser trim code) :
    readBody (i ++ (code ++ (closer trim ++ rest))) = some ⟨i, code, rest⟩ := by
  rw [readBody_append (indicates_append_closer.2 hi), splitCode_append hcode]
  rfl

end Directive

/-- The token of the text after the last directive; an empty text has none. -/
def Token.trailing (text : List Char) : List Token :=
  if text.isEmpty then [] else [⟨String.ofList text, none, ""⟩]

namespace Directive

variable {s t r text : List Char} {b : Body}

/-- Text without a directive is taken as a whole. -/
theorem scan_of_not_hasDirective (h : ¬ HasDirective s) :
    scan text s = Token.trailing (text.reverse ++ s) := by
  fun_induction scan text s with
  | case1 text hempty => simpa [Token.trailing] using hempty
  | case2 text hempty => simp [Token.trailing, hempty]
  | case3 text rest b hb ih =>
    refine absurd ⟨[], rest, rfl, ?_⟩ h
    by_contra hwithin
    rw [readBody_eq_none_iff.2 hwithin] at hb
    cases hb
  | case4 text rest hb ih =>
    rw [ih]
    · simp
    · rintro ⟨before, after, hs, hafter⟩
      exact h ⟨'<' :: before, after, by rw [hs]; rfl, hafter⟩
  | case5 text c s hopen ih =>
    rw [ih]
    · simp
    · rintro ⟨before, after, rfl, hafter⟩
      exact h ⟨c :: before, after, rfl, hafter⟩

/-- The first opening mark begins a directive when it is closed. -/
theorem scan_directive (ht : ¬ ['<', '%'] <:+: t) (hb : readBody r = some b) :
    scan text (t ++ '<' :: '%' :: r) =
      ⟨String.ofList (text.reverse ++ t), some (String.ofList b.indicator), String.ofList b.code⟩ ::
        scan [] b.rest := by
  induction t generalizing text with
  | nil =>
    rw [List.nil_append, scan]
    split
    · rename_i b' hb'
      rw [hb] at hb'
      obtain rfl := Option.some.inj hb'
      simp
    · rename_i hb'
      rw [hb] at hb'
      cases hb'
  | cons c t ih =>
    rw [List.infix_cons_iff, not_or] at ht
    rw [List.cons_append, scan, ih ht.2]
    · simp
    · rintro u rfl hu
      cases t with
      | nil => simp at hu
      | cons d t =>
        rw [List.cons_append, List.cons.injEq] at hu
        exact ht.1 ⟨t, by rw [hu.1]; rfl⟩

/-- A text falls into what stands before its first opening mark, and what comes after that. -/
theorem exists_first_opening (h : ['<', '%'] <:+: s) :
    ∃ t r, s = t ++ '<' :: '%' :: r ∧ ¬ ['<', '%'] <:+: t := by
  induction s with
  | nil => simp at h
  | cons c s ih =>
    by_cases hc : ['<', '%'] <+: c :: s
    · obtain ⟨r, hr⟩ := hc
      exact ⟨[], r, hr.symm, by simp⟩
    · obtain ⟨t, r, rfl, ht⟩ := ih ((List.infix_cons_iff.1 h).resolve_left hc)
      refine ⟨c :: t, r, rfl, ?_⟩
      rw [List.infix_cons_iff, not_or]
      refine ⟨fun hpre => hc ?_, ht⟩
      exact hpre.trans ⟨'<' :: '%' :: r, rfl⟩

/-- A text has no directive, or its first opening mark begins one. -/
theorem hasDirective_or (s : List Char) :
    ¬ HasDirective s ∨ ∃ t r b, s = t ++ '<' :: '%' :: r ∧ ¬ ['<', '%'] <:+: t ∧
      readBody r = some b := by
  by_cases hopen : ['<', '%'] <:+: s
  case neg =>
    refine .inl ?_
    rintro ⟨before, after, rfl, -⟩
    exact hopen ⟨before, after, by simp⟩
  obtain ⟨t, r, rfl, ht⟩ := exists_first_opening hopen
  cases hb : readBody r with
  | some b => exact .inr ⟨t, r, b, rfl, ht, hb⟩
  | none =>
    -- No mark closes the first opening, so none closes a later one.
    rw [readBody_eq_none_iff] at hb
    refine .inl ?_
    rintro ⟨before, after, hs, hafter⟩
    rcases List.append_eq_append_iff.1 hs with ⟨more, -, hmore⟩ | ⟨more, rfl, hmore⟩
    · match more with
      | [] =>
        obtain rfl : r = after := by simpa using hmore
        exact hb hafter
      | [_] => simp at hmore
      | _ :: _ :: more =>
        obtain ⟨-, -, rfl⟩ : _ ∧ _ ∧ r = more ++ '<' :: '%' :: after := by simpa using hmore
        exact hb (hafter.trans ⟨more ++ ['<', '%'], [], by simp⟩)
    · match more with
      | [] =>
        obtain rfl : after = r := by simpa using hmore
        exact hb hafter
      | [_] => simp at hmore
      | _ :: _ :: more =>
        obtain ⟨rfl, rfl, -⟩ : '<' = _ ∧ '%' = _ ∧ _ := by simpa using hmore
        exact ht ⟨before, more, by simp⟩

end Directive

/-! ## Tokens that are written down -/

/-- A token that stands in a template as a directive, closed with a dash or without one. -/
structure Token.IsDirective (trim : Bool) (t : Token) : Prop where
  /-- The indicator is one, and ends where the code begins. -/
  indicated : ∃ i, t.indicator = some i ∧ Directive.Indicates i.toList t.code.toList
  text : ¬ ['<', '%'] <:+: t.text.toList
  code : Directive.EndsAtCloser trim t.code.toList

theorem Token.IsDirective.serialize_append {trim : Bool} {t : Token} (h : t.IsDirective trim)
    (rest : List Char) : ∃ i, t.indicator = some i ∧
      (t.serialize trim).toList ++ rest = t.text.toList ++ '<' :: '%' ::
        (i.toList ++ (t.code.toList ++ (Directive.closer trim ++ rest))) := by
  obtain ⟨i, hi, -⟩ := h.indicated
  refine ⟨i, hi, ?_⟩
  simp only [serialize, hi]
  cases trim <;> simp [Directive.closer]

variable {ds : List (Token × Bool)}

/-- Directives with text after them are cut into themselves. -/
theorem Directive.scan_written {rest : List Char} (hds : ∀ d ∈ ds, d.1.IsDirective d.2)
    (hrest : ¬ HasDirective rest) :
    scan [] (ds.flatMap (fun d => (d.1.serialize d.2).toList) ++ rest) =
      ds.map (·.1) ++ Token.trailing rest := by
  induction ds with
  | nil => exact scan_of_not_hasDirective hrest
  | cons d ds ih =>
    obtain ⟨⟨text, indicator, code⟩, trim⟩ := d
    have hd : Token.IsDirective trim ⟨text, indicator, code⟩ := hds _ List.mem_cons_self
    rw [List.flatMap_cons, List.append_assoc]
    obtain ⟨i, hi, hwritten⟩ := hd.serialize_append
      (ds.flatMap (fun d => (d.1.serialize d.2).toList) ++ rest)
    obtain ⟨j, hj, hindicates⟩ := hd.indicated
    obtain rfl := Option.some.inj (hi.symm.trans hj)
    rw [hwritten, scan_directive hd.text (readBody_written hindicates hd.code),
      ih fun e he => hds e (List.mem_cons_of_mem _ he)]
    simp [show indicator = some i from hi]

/-- Any text is directives with text after them. -/
theorem Directive.exists_written (s : List Char) :
    ∃ (ds : List (Token × Bool)) (rest : List Char), (∀ d ∈ ds, d.1.IsDirective d.2) ∧
      ¬ HasDirective rest ∧ s = ds.flatMap (fun d => (d.1.serialize d.2).toList) ++ rest := by
  induction hn : s.length using Nat.strong_induction_on generalizing s with
  | _ n ih =>
    rcases hasDirective_or s with hs | ⟨t, r, b, rfl, ht, hb⟩
    · exact ⟨[], s, by simp, hs, rfl⟩
    · have hlength := length_of_readBody hb
      obtain ⟨ds, rest, hds, hrest, hwritten⟩ := ih b.rest.length (by
        simp only [List.length_append, List.length_cons] at hn
        omega) b.rest rfl
      obtain ⟨trim, hr, hindicates, hcode⟩ := readBody_eq_some hb
      have hd : Token.IsDirective trim
          ⟨String.ofList t, some (String.ofList b.indicator), String.ofList b.code⟩ :=
        ⟨⟨_, rfl, by simpa using hindicates⟩, by simpa using ht, by simpa using hcode⟩
      obtain ⟨i, hi, h⟩ := hd.serialize_append b.rest
      obtain rfl := Option.some.inj hi
      refine ⟨⟨_, trim⟩ :: ds, rest, List.forall_mem_cons.2 ⟨hd, hds⟩, hrest, ?_⟩
      rw [List.flatMap_cons, List.append_assoc, ← hwritten, h, hr]
      simp

/-- Cutting a template loses nothing: its tokens, each with the dash that it may have been closed with,
give it back. -/
theorem tokenize_lossless (source : String) :
    ∃ (ds : List (Token × Bool)) (rest : String),
      tokenize source = ds.map (·.1) ++ Token.trailing rest.toList ∧
      source = String.join (ds.map fun d => d.1.serialize d.2) ++ rest ∧
      (∀ d ∈ ds, d.1.IsDirective d.2) ∧ ¬ Directive.HasDirective rest.toList := by
  obtain ⟨ds, rest, hds, hrest, h⟩ := Directive.exists_written source.toList
  refine ⟨ds, String.ofList rest, ?_, ?_, hds, by simpa using hrest⟩
  · rw [tokenize, h, Directive.scan_written hds hrest, String.toList_ofList]
  · rw [← String.toList_inj, h]
    simp [String.toList_join, List.flatMap_map]

/-- Directives that are written down are cut again into themselves. -/
theorem tokenize_serialize {rest : String} (hds : ∀ d ∈ ds, d.1.IsDirective d.2)
    (hrest : ¬ Directive.HasDirective rest.toList) :
    tokenize (String.join (ds.map fun d => d.1.serialize d.2) ++ rest) =
      ds.map (·.1) ++ Token.trailing rest.toList := by
  rw [tokenize, ← Directive.scan_written hds hrest]
  simp [String.toList_join, List.flatMap_map]

/-- Directives whose texts and codes end like the beginnings of marks. -/
def narrowDirectives : List (Token × Bool) :=
  [(⟨"a<", some "=", " b-"⟩, true), (⟨"", some "", "x%"⟩, false), (⟨"c", some "->", ""⟩, true)]

theorem tokenize_narrowDirectives :
    (∀ d ∈ narrowDirectives, d.1.IsDirective d.2) ∧ ¬ Directive.HasDirective "<% open".toList ∧
      tokenize (String.join (narrowDirectives.map fun d => d.1.serialize d.2) ++ "<% open") =
        narrowDirectives.map (·.1) ++ [⟨"<% open", none, ""⟩] := by
  have hds : ∀ d ∈ narrowDirectives, d.1.IsDirective d.2 := by
    simp only [narrowDirectives, List.forall_mem_cons, List.not_mem_nil, false_implies, implies_true,
      and_true]
    have hx : ∀ c ∈ "x%".toList.head?, Directive.isPunctuation c = false := by
      rintro _ ⟨⟩
      rfl
    refine ⟨⟨⟨_, rfl, .equals (by simp) (by simp) (by simp)⟩, ?_, ?_, ?_⟩,
      ⟨⟨_, rfl, .bare (by simp) (by simp) (by simp) hx⟩, ?_, ?_, ?_⟩,
      ⟨⟨_, rfl, .arrow _⟩, ?_, ?_, ?_⟩⟩ <;> decide
  have hrest : ¬ Directive.HasDirective "<% open".toList := by
    rintro ⟨before, after, h, hafter⟩
    have hmark : '>' ∈ "<% open".toList := by
      rw [h]
      simp [hafter.subset (by simp : '>' ∈ ['%', '>'])]
    revert hmark
    decide +kernel
  exact ⟨hds, hrest, tokenize_serialize hds hrest⟩

end Stencil
