import Stencil.Loader
import Stencil.Proofs.Lines

/-!
# Templates that are listed

A listing walks down from every search path and collects what it meets; reading cuts a name at its slashes
and follows it from one search path after the other. Both come to the same names: what is listed is what
can be read and ends in the right way, and it is read from the first search path that has it.
-/

namespace Stencil

namespace FilePath

variable {d p q r : FilePath}

/-- The name of one step down in a tree. -/
structure IsStep (s : String) : Prop where
  ne_empty : s ≠ ""
  ne_dot : s ≠ "."
  ne_dots : s ≠ ".."
  no_slash : '/' ∉ s.toList

instance (s : String) : Decidable (IsStep s) :=
  decidable_of_iff (s ≠ "" ∧ s ≠ "." ∧ s ≠ ".." ∧ '/' ∉ s.toList)
    ⟨fun h => ⟨h.1, h.2.1, h.2.2.1, h.2.2.2⟩, fun h => ⟨h.ne_empty, h.ne_dot, h.ne_dots, h.no_slash⟩⟩

/-- A path of at least one step that leads down all the way. -/
def GoesDown (p : FilePath) : Prop := p ≠ [] ∧ ∀ s ∈ p, IsStep s

instance (p : FilePath) : Decidable p.GoesDown := inferInstanceAs (Decidable (_ ∧ _))

theorem GoesDown.of_append (h : (p ++ q).GoesDown) (hq : q ≠ []) : q.GoesDown :=
  ⟨hq, fun s hs => h.2 s (List.mem_append_right p hs)⟩

theorem GoesDown.dots_not_mem (h : p.GoesDown) : ".." ∉ p := fun hmem => (h.2 _ hmem).ne_dots rfl

theorem below?_eq_some_iff : below? d p = some r ↔ r ≠ [] ∧ p = d ++ r := by
  rw [below?]
  constructor
  · intro h
    split at h
    next hcond =>
      rw [Bool.and_eq_true, decide_eq_true_eq, beq_iff_eq] at hcond
      cases h
      refine ⟨fun hnil => ?_, ?_⟩
      · rw [List.drop_eq_nil_iff] at hnil
        omega
      · conv => lhs; rw [← List.take_append_drop d.length p, hcond.2]
    next => cases h
  · rintro ⟨hr, rfl⟩
    have hlength := List.length_pos_iff.2 hr
    rw [if_pos (by simpa using hlength), List.drop_left]

end FilePath

namespace Loader

/-! ## Names and their steps -/

section Names

variable {steps : FilePath}

/-- A name that goes down is cut into the steps that it was put together from. -/
theorem segments?_text (h : steps.GoesDown) : segments? steps.text = some steps := by
  have htext : steps.text.toList = Text.joinWith ['/'] (steps.map String.toList) := by
    rw [FilePath.text, if_neg (by simpa using h.1), String.toList_intercalate, Text.joinWith_eq_intercalate]
    rfl
  have hcut : (Text.cutAt '/' steps.text.toList).map String.ofList = steps := by
    rw [htext, Text.cutAt_joinWith (by simpa using h.1), List.map_map]
    · exact (List.map_congr_left fun s _ => String.ofList_toList).trans (List.map_id steps)
    · intro l hl
      obtain ⟨s, hs, rfl⟩ := List.mem_map.1 hl
      exact (h.2 s hs).no_slash
  have hkept : steps.filter (fun p => p != "" && p != ".") = steps := by
    rw [List.filter_eq_self]
    intro s hs
    simp [(h.2 s hs).ne_empty, (h.2 s hs).ne_dot]
  rw [segments?, hcut, if_neg (by simpa using h.dots_not_mem), hkept]

end Names

/-! ## Sorting -/

section Sorting

variable {s n : String} {ns : List String}

theorem mem_insertSorted : n ∈ insertSorted s ns ↔ n = s ∨ n ∈ ns := by
  induction ns with
  | nil => simp [insertSorted]
  | cons m ns ih =>
    rw [insertSorted]
    split
    · rw [List.mem_cons]
    · split
      next h =>
        rw [beq_iff_eq] at h
        simp [h]
      · rw [List.mem_cons, ih, List.mem_cons, or_left_comm]

theorem pairwise_insertSorted (h : ns.Pairwise (· < ·)) : (insertSorted s ns).Pairwise (· < ·) := by
  induction ns with
  | nil => exact List.pairwise_singleton _ _
  | cons m ns ih =>
    have hcons := List.pairwise_cons.1 h
    rw [insertSorted]
    split
    next hlt =>
      refine List.pairwise_cons.2 ⟨fun n hn => ?_, h⟩
      rcases List.mem_cons.1 hn with rfl | hn
      · exact hlt
      · exact String.lt_trans hlt (hcons.1 n hn)
    next hle =>
      split
      · exact h
      next hne =>
        have hlt : m < s := by
          refine Decidable.byContradiction fun hge => hne (beq_iff_eq.2 ?_)
          exact String.le_antisymm (String.not_lt.1 hge) (String.not_lt.1 hle)
        refine List.pairwise_cons.2 ⟨fun n hn => ?_, ih hcons.2⟩
        rcases mem_insertSorted.1 hn with rfl | hn
        · exact hlt
        · exact hcons.1 n hn

theorem mem_foldl_insertSorted (names : List String) :
    n ∈ names.foldl (fun acc n => insertSorted n acc) ns ↔ n ∈ names ∨ n ∈ ns := by
  induction names generalizing ns with
  | nil => simp
  | cons m names ih => rw [List.foldl_cons, ih, mem_insertSorted, List.mem_cons, or_left_comm, or_assoc]

theorem pairwise_foldl_insertSorted (names : List String) (h : ns.Pairwise (· < ·)) :
    (names.foldl (fun acc n => insertSorted n acc) ns).Pairwise (· < ·) := by
  induction names generalizing ns with
  | nil => exact h
  | cons m names ih => exact ih (pairwise_insertSorted h)

end Sorting

end Loader

/-! ## Files below a search path -/

namespace Files

variable {t : Files} {here p q : FilePath} {f : File}

/-- A tree whose files are where steps down lead to, as it is the case on a disk. -/
def Named (t : Files) : Prop := ∀ f ∈ t.files, f.path.GoesDown

instance (t : Files) : Decidable t.Named := inferInstanceAs (Decidable (∀ f ∈ t.files, _))

theorem Named.write (h : t.Named) (hp : p.GoesDown) (data : List UInt8) : (t.write p data).Named := by
  intro f hf
  rcases List.mem_append.1 hf with hf | hf
  · exact h f (List.mem_filter.1 hf).1
  · rw [List.mem_singleton.1 hf]
    exact hp

theorem Named.delete (h : t.Named) (p : FilePath) : (t.delete p).Named := by
  rw [Files.delete]
  split
  · exact fun f hf => h f (List.mem_filter.1 hf).1
  · exact h

theorem follow_of_not_mem (h : ".." ∉ q) : t.follow here q = some (here ++ q) := by
  induction q generalizing here with
  | nil => rw [follow, List.append_nil]
  | cons s q ih =>
    rw [List.mem_cons, not_or] at h
    rw [follow, ih h.2, List.append_assoc, List.singleton_append]
    exact Ne.symm h.1

/-- Steps down lead on from wherever the path before them has led. -/
theorem follow_append (h : ".." ∉ q) (here p : FilePath) :
    t.follow here (p ++ q) = (t.follow here p).map (· ++ q) := by
  fun_induction follow t here p with
  | case1 here => exact follow_of_not_mem h
  | case2 here p hleave => rw [List.cons_append, follow, if_pos hleave]; rfl
  | case3 here p hleave ih => rw [List.cons_append, follow, if_neg hleave, ih]
  | case4 here s p hs ih => rw [List.cons_append, follow, ih]; exact hs

theorem mem_below : q ∈ t.below p ↔
    ∃ here, t.follow [] p = some here ∧ q ≠ [] ∧ ∃ f ∈ t.files, f.path = here ++ q := by
  rw [below]
  cases t.follow [] p with
  | none => simp
  | some here =>
    rw [List.mem_filterMap]
    simp only [FilePath.below?_eq_some_iff, Option.some.injEq, exists_eq_left']
    constructor
    · rintro ⟨f, hf, hq, hpath⟩
      exact ⟨hq, f, hf, hpath⟩
    · rintro ⟨hq, f, hf, hpath⟩
      exact ⟨f, hf, hq, hpath⟩

theorem exists_find?_iff : (∃ f, t.find? p = some f) ↔ ∃ f ∈ t.files, f.path = p := by
  rw [← Option.isSome_iff_exists, find?, List.find?_isSome]
  simp only [beq_iff_eq]

/-- From the directory that a search path leads to, steps lead to a file. -/
def Holds (t : Files) (searchPath : String) (steps : FilePath) (f : File) : Prop :=
  ∃ root here, Loader.root? searchPath = some root ∧ t.follow [] root = some here ∧
    t.find? (here ++ steps) = some f

end Files

namespace Loader

variable {l : Loader} {t : Files} {n : String} {steps p : FilePath} {f : File}

/-- The file that steps lead to, with its path: it lies below the first search path from which the steps
lead to a file. -/
def Resolves (l : Loader) (t : Files) (steps p : FilePath) (f : File) : Prop :=
  ∃ before s after root, l.searchPaths = before ++ s :: after ∧ root? s = some root ∧ p = root ++ steps ∧
    t.Holds s steps f ∧ ∀ r ∈ before, ∀ g, ¬ t.Holds r steps g

/-- Whether a file is listed: the name of the file itself, without its directories, has an ending of the
loader. -/
def Lists (l : Loader) (steps : FilePath) : Prop :=
  ∃ ending ∈ l.extensions, endsWith (steps.getLastD "") ending

instance (l : Loader) (steps : FilePath) : Decidable (l.Lists steps) :=
  inferInstanceAs (Decidable (∃ ending ∈ l.extensions, _))

/-- What one search path has at some steps. -/
def lookup? (t : Files) (steps : FilePath) (searchPath : String) : Option (FilePath × File) :=
  (root? searchPath).bind fun root => (t.file? (root ++ steps)).bind fun f => some (root ++ steps, f)

theorem lookup?_eq_some_iff (h : ".." ∉ steps) {s : String} :
    lookup? t steps s = some (p, f) ↔ ∃ root, root? s = some root ∧ p = root ++ steps ∧ t.Holds s steps f := by
  rw [lookup?]
  cases hroot : root? s with
  | none => simp
  | some root =>
    have hfile (g : File) : t.file? (root ++ steps) = some g ↔ t.Holds s steps g := by
      rw [Files.file?, Files.follow_append h, Files.Holds, hroot]
      cases hhere : t.follow [] root <;> simp [hhere]
    simp only [Option.bind_some, Option.bind_eq_some_iff, Option.some.injEq, Prod.mk.injEq, exists_eq_left',
      hfile]
    constructor
    · rintro ⟨g, hg, rfl, rfl⟩
      exact ⟨rfl, hg⟩
    · rintro ⟨rfl, hf⟩
      exact ⟨f, hf, rfl, rfl⟩

theorem lookup?_eq_none_iff (h : ".." ∉ steps) {s : String} :
    lookup? t steps s = none ↔ ∀ f, ¬ t.Holds s steps f := by
  rw [Option.eq_none_iff_forall_ne_some]
  constructor
  · intro hnone f hf
    obtain ⟨root, here, hroot, -⟩ := id hf
    exact hnone _ ((lookup?_eq_some_iff h).2 ⟨root, hroot, rfl, hf⟩)
  · rintro hnone ⟨p, f⟩ hsome
    obtain ⟨_, _, _, hf⟩ := (lookup?_eq_some_iff h).1 hsome
    exact hnone f hf

theorem find?_text (h : steps.GoesDown) :
    l.find? t steps.text = l.searchPaths.findSome? (lookup? t steps) := by
  rw [find?, segments?_text h]
  rfl

theorem find?_eq_some_iff (h : steps.GoesDown) :
    l.find? t steps.text = some (p, f) ↔ l.Resolves t steps p f := by
  rw [find?_text h, List.findSome?_eq_some_iff]
  simp only [lookup?_eq_some_iff h.dots_not_mem, lookup?_eq_none_iff h.dots_not_mem]
  constructor
  · rintro ⟨before, s, after, hpaths, ⟨root, hroot, hp, hf⟩, hbefore⟩
    exact ⟨before, s, after, root, hpaths, hroot, hp, hf, hbefore⟩
  · rintro ⟨before, s, after, root, hpaths, hroot, hp, hf, hbefore⟩
    exact ⟨before, s, after, hpaths, ⟨root, hroot, hp, hf⟩, hbefore⟩

/-- Steps resolve as soon as one of the search paths has them. -/
theorem find?_eq_none_iff (h : steps.GoesDown) :
    l.find? t steps.text = none ↔ ∀ s ∈ l.searchPaths, ∀ f, ¬ t.Holds s steps f := by
  rw [find?_text h, List.findSome?_eq_none_iff]
  simp only [lookup?_eq_none_iff h.dots_not_mem]

/-! ## Reading and listing -/

theorem pairwise_list (l : Loader) (t : Files) : (l.list t).Pairwise (· < ·) :=
  pairwise_foldl_insertSorted _ .nil

theorem decode_ne_notFound (encoding : String) (p : FilePath) (f : File) (n : String) :
    decode encoding p f ≠ .error (.notFound n) := by
  rw [decode]
  split
  · simp
  · split <;> simp

theorem read_eq_notFound_iff {encoding : String} :
    l.read t encoding n = .error (.notFound n) ↔ l.find? t n = none := by
  rw [read]
  cases l.find? t n with
  | none => simp
  | some found => simp [decode_ne_notFound]

theorem mem_list : n ∈ l.list t ↔ ∃ s ∈ l.searchPaths, ∃ root, root? s = some root ∧
    ∃ steps ∈ t.below root, l.Lists steps ∧ steps.text = n := by
  have hlists (steps : FilePath) : (l.extensions.any (endsWith (steps.getLastD ""))) = true ↔ l.Lists steps := by
    rw [List.any_eq_true, Lists]
  rw [list, mem_foldl_insertSorted, or_iff_left List.not_mem_nil, List.mem_map]
  simp only [List.mem_flatMap, List.mem_filter, hlists]
  constructor
  · rintro ⟨steps, ⟨s, hs, hbelow, hends⟩, htext⟩
    cases hroot : root? s with
    | none => simp [hroot] at hbelow
    | some root =>
      rw [hroot] at hbelow
      exact ⟨s, hs, root, hroot, steps, hbelow, hends, htext⟩
  · rintro ⟨s, hs, root, hroot, steps, hbelow, hends, htext⟩
    refine ⟨steps, ⟨s, hs, ?_, hends⟩, htext⟩
    rw [hroot]
    exact hbelow

/-- What lies below a search path is what steps from it lead to. -/
theorem exists_mem_below_iff (h : t.Named) {s : String} :
    (∃ root, root? s = some root ∧ steps ∈ t.below root) ↔ steps.GoesDown ∧ ∃ f, t.Holds s steps f := by
  simp only [Files.mem_below, Files.Holds]
  constructor
  · rintro ⟨root, hroot, here, hhere, hne, f, hf, hpath⟩
    have hdown := (h f hf)
    rw [hpath] at hdown
    obtain ⟨g, hg⟩ := Files.exists_find?_iff.2 ⟨f, hf, hpath⟩
    exact ⟨hdown.of_append hne, g, root, here, hroot, hhere, hg⟩
  · rintro ⟨hdown, f, root, here, hroot, hhere, hf⟩
    obtain ⟨g, hg, hpath⟩ := Files.exists_find?_iff.1 ⟨f, hf⟩
    exact ⟨root, hroot, here, hhere, hdown.1, g, hg, hpath⟩

theorem mem_list_iff (h : t.Named) : n ∈ l.list t ↔
    ∃ steps : FilePath, steps.GoesDown ∧ n = steps.text ∧ l.Lists steps ∧
      ∃ s ∈ l.searchPaths, ∃ f, t.Holds s steps f := by
  rw [mem_list]
  constructor
  · rintro ⟨s, hs, root, hroot, steps, hbelow, hends, rfl⟩
    obtain ⟨hdown, hf⟩ := (exists_mem_below_iff h).1 ⟨root, hroot, hbelow⟩
    exact ⟨steps, hdown, rfl, hends, s, hs, hf⟩
  · rintro ⟨steps, hdown, rfl, hends, s, hs, hf⟩
    obtain ⟨root, hroot, hbelow⟩ := (exists_mem_below_iff h).2 ⟨hdown, hf⟩
    exact ⟨s, hs, root, hroot, steps, hbelow, hends, rfl⟩

/-- What is listed can be found. -/
theorem find?_ne_none_of_mem_list (h : t.Named) (hn : n ∈ l.list t) : l.find? t n ≠ none := by
  obtain ⟨steps, hdown, rfl, -, s, hs, f, hf⟩ := (mem_list_iff h).1 hn
  intro hnone
  exact (find?_eq_none_iff hdown).1 hnone s hs f hf

/-- The listing is sorted without repetition. It has a name just when steps down are spelled by the name,
the last of them has an ending of the loader and the name can be found in every encoding. What steps down
lead to is read from below the first search path that has it. -/
theorem list_agrees_with_read (l : Loader) {t : Files} (h : t.Named) :
    (l.list t).Pairwise (· < ·) ∧
      (∀ n, n ∈ l.list t ↔ ∃ steps : FilePath, steps.GoesDown ∧ n = steps.text ∧ l.Lists steps ∧
        ∀ encoding, l.read t encoding n ≠ .error (.notFound n)) ∧
      ∀ steps : FilePath, steps.GoesDown → ∀ encoding,
        (∀ p f, l.Resolves t steps p f → l.read t encoding steps.text = decode encoding p f) ∧
          ((∀ p f, ¬ l.Resolves t steps p f) →
            l.read t encoding steps.text = .error (.notFound steps.text)) := by
  refine ⟨pairwise_list l t, fun n => ?_, fun steps hdown encoding => ⟨?_, ?_⟩⟩
  · rw [mem_list_iff h]
    refine exists_congr fun steps => and_congr_right fun hdown => and_congr_right fun hn =>
      and_congr_right fun _ => ?_
    simp only [ne_eq, read_eq_notFound_iff, forall_const, hn, find?_eq_none_iff hdown, Classical.not_forall,
      Classical.not_not, exists_prop]
  · intro p f hresolves
    rw [read, (find?_eq_some_iff hdown).2 hresolves]
  · intro hnone
    rw [read_eq_notFound_iff, Option.eq_none_iff_forall_ne_some]
    rintro ⟨p, f⟩ hsome
    exact hnone p f ((find?_eq_some_iff hdown).1 hsome)

/-- Search paths that lie in each other, one of them missing. -/
def nestedPaths : Loader := { searchPaths := ["site", "gone", ".", "site/dark/.."] }

/-- Files of the same name in several directories, and a directory that is named like a template. -/
def homonyms : Files :=
  { files := [⟨["a.tpl"], [97]⟩, ⟨["site", "dark", "a.tpl"], [98]⟩, ⟨["site", "a.tpl"], [99]⟩,
      ⟨["site", "b.tpl", "c.txt"], [100]⟩] }

theorem nested_paths_are_listed :
    homonyms.Named ∧
      nestedPaths.list homonyms = ["a.tpl", "dark/a.tpl", "site/a.tpl", "site/dark/a.tpl"] ∧
      (∃ steps : FilePath, steps.GoesDown ∧ "dark/a.tpl" = steps.text ∧ nestedPaths.Lists steps ∧
        ∀ encoding, nestedPaths.read homonyms encoding "dark/a.tpl" ≠ .error (.notFound "dark/a.tpl")) ∧
      ∀ encoding, nestedPaths.read homonyms encoding "a.tpl" =
        decode encoding ["site", "a.tpl"] ⟨["site", "a.tpl"], [99]⟩ := by
  have hnamed : homonyms.Named := by decide +kernel
  obtain ⟨-, hlist, hread⟩ := list_agrees_with_read nestedPaths hnamed
  have hresolves : nestedPaths.Resolves homonyms ["a.tpl"] ["site", "a.tpl"] ⟨["site", "a.tpl"], [99]⟩ :=
    ⟨[], "site", ["gone", ".", "site/dark/.."], ["site"], rfl, by decide +kernel, rfl,
      ⟨["site"], ["site"], by decide +kernel, by decide +kernel, by rfl⟩, by simp⟩
  refine ⟨hnamed, by decide +kernel, (hlist _).1 (by decide +kernel), fun encoding => ?_⟩
  exact (hread ["a.tpl"] (by decide) encoding).1 _ _ hresolves

/-- It is the name of the file that has to have the ending: an ending with a slash in it is the ending of
names that can be read, but of no file. -/
theorem endings_are_of_file_names : ¬ ∀ (l : Loader) (t : Files), t.Named → ∀ n, n ∈ l.list t ↔
    ∃ steps : FilePath, steps.GoesDown ∧ n = steps.text ∧ (∃ ending ∈ l.extensions, endsWith n ending) ∧
      ∀ encoding, l.read t encoding n ≠ .error (.notFound n) := by
  intro h
  have hlist := h { extensions := ["dark/a.tpl"] } { files := [⟨["dark", "a.tpl"], [120]⟩] } (by decide +kernel)
    "dark/a.tpl"
  refine absurd (hlist.2 ⟨["dark", "a.tpl"], by decide +kernel, by decide +kernel, by decide +kernel, ?_⟩)
    (by decide +kernel)
  intro encoding
  rw [ne_eq, read_eq_notFound_iff, ← ne_eq, ← Option.isSome_iff_ne_none]
  decide +kernel

end Loader

end Stencil
