import Stencil.Rendering.Loading
import Stencil.Proofs.ListedTemplates
import Stencil.Proofs.Lookup
import Stencil.Proofs.Traversals

/-!
# Reports on all templates

A template that cannot be made ready is reported when what is wrong with it is a fault of its directives or
its code. Anything else that keeps a listed template from being read, such as bytes that do not decode,
stops the whole report. When no such thing is listed, the report has one issue for each template that is
rejected, in the order of the listing.
-/

namespace Stencil

open World Evaluation

/-! ## Computations with a known outcome -/

section EndsAs

variable {ε α β : Type} {P : World → Prop} {Q : ε → Stop → World → Prop}

/-- From every world with a property a computation comes to a known outcome and keeps the property, or it
stops for a known error. -/
def EndsAs (P : World → Prop) (Q : ε → Stop → World → Prop) (x : Action α) : Except ε α → Prop
  | .ok a => ∀ w, P w → ∃ u, x w = .ok a u ∧ P u
  | .error e => ∀ w, P w → ∃ s u, x w = .error s u ∧ Q e s u

theorem EndsAs.mapM {x : α → Action β} {f : α → Except ε β} (h : ∀ a, EndsAs P Q (x a) (f a))
    (as : List α) : EndsAs P Q (as.mapM x) (as.mapM f) := by
  induction as with
  | nil => exact fun w hw => ⟨w, rfl, hw⟩
  | cons a as ih =>
    have hfirst := h a
    rw [Traversal.mapM_cons_eq, List.mapM_cons]
    cases hf : f a with
    | error e =>
      rw [hf] at hfirst
      intro w hw
      obtain ⟨s, u, hx, hs⟩ := hfirst w hw
      exact ⟨s, u, bind_of_error hx, hs⟩
    | ok b =>
      rw [hf] at hfirst
      cases hfs : as.mapM f with
      | error e =>
        rw [hfs] at ih
        intro w hw
        obtain ⟨v, hx, hv⟩ := hfirst w hw
        obtain ⟨s, u, hxs, hs⟩ := ih v hv
        exact ⟨s, u, by rw [bind_of_ok hx, bind_of_error hxs], hs⟩
      | ok bs =>
        rw [hfs] at ih
        intro w hw
        obtain ⟨v, hx, hv⟩ := hfirst w hw
        obtain ⟨u, hxs, hu⟩ := ih v hv
        exact ⟨u, by rw [bind_of_ok hx, bind_of_ok hxs]; rfl, hu⟩

end EndsAs

/-! ## What is wrong with a template -/

namespace CompileError

/-- The directive or code at fault. -/
def excerpt : CompileError → String
  | unknownIndicator e => e.directive
  | layout e => Text.strip e.code
  | code s => Text.strip s.code
  | nullCharacter => ""

end CompileError

namespace LoadError

/-- The fault that a template is rejected for, if it is one. -/
def fault? : LoadError → Option Fault
  | compile path e => e.fault? path
  | _ => none

/-- The type of the exception for what is wrong. -/
def type : LoadError → TypeRef
  | notFound _ => .exception "TemplateNotFound"
  | unknownEncoding _ => .exception "LookupError"
  | undecodable .invalid => .exception "UnicodeDecodeError"
  | undecodable .noByteOrder => .exception "UnicodeError"
  | compile path e =>
    match e.fault? path with
    | some f => .fault f.kind
    | none => .exception "ValueError"

/-- A stop with the exception for what is wrong. -/
def StopsWith (e : LoadError) (s : Stop) (u : World) : Prop :=
  ∃ r x, s = .raised { value := .ref r } ∧ u.at' r = .exception x ∧ x.type = e.type ∧ x.fault = e.fault?

/-- The issue that is reported, if there is one. -/
def issue? (name : String) : LoadError → Option LintIssue
  | notFound _ =>
    some { templateName := name, severity := "error", message := "Template '" ++ name ++ "' not found"
           code := "TEMPLATE_NOT_FOUND" }
  | compile path e =>
    (e.fault? path).map fun f =>
      { templateName := name, severity := "error", message := f.message, code := f.code
        line := f.place.line, context := some e.excerpt }
  | _ => none

variable {e : LoadError} {l : Loader} {w u : World}

theorem raise_eq {α : Type} (e : LoadError) (l : Loader) (w : World) : ∃ x : ExceptionObject,
    (e.raise l : Action α) w = .error (.raised { value := .ref w.objects.size }) (w.push (.exception x)) ∧
      x.type = e.type ∧ x.fault = e.fault? := by
  cases e with
  | notFound name => exact ⟨_, rfl, rfl, rfl⟩
  | unknownEncoding name => exact ⟨_, rfl, rfl, rfl⟩
  | undecodable e => cases e <;> exact ⟨_, rfl, rfl, rfl⟩
  | compile path e =>
    simp only [raise, type, fault?]
    cases e.fault? path <;> exact ⟨_, rfl, rfl, rfl⟩

theorem raise_stopsWith {α : Type} (e : LoadError) (l : Loader) (w : World) :
    ∃ s u, (e.raise l : Action α) w = .error s u ∧ e.StopsWith s u ∧ u.files = w.files := by
  obtain ⟨x, hraise, htype, hfault⟩ := raise_eq (α := α) e l w
  exact ⟨_, _, hraise, ⟨_, x, rfl, at'_push_size w _, htype, hfault⟩, rfl⟩

end LoadError

/-! ## One template -/

namespace Loader

variable {l : Loader} {t : Files} {encoding n : String} {w : World} {source : Source}

theorem load_of_unread {e : LoadError} (h : l.read t encoding n = .error e) :
    l.load t encoding n = .error e := by
  rw [load, h]
  rfl

theorem load_of_uncompiled {e : CompileError} (h : l.read t encoding n = .ok source)
    (hcompile : Template.compile source.path source.text = .error e) :
    l.load t encoding n = .error (.compile source.path e) := by
  simp only [load, h, bind, Except.bind, hcompile]
  rfl

theorem load_of_compiled {template : Template} (h : l.read t encoding n = .ok source)
    (hcompile : Template.compile source.path source.text = .ok template) :
    l.load t encoding n = .ok (source, template) := by
  simp only [load, h, bind, Except.bind, hcompile]
  rfl

theorem readSource_of_read (h : l.read w.files encoding n = .ok source) :
    l.readSource n encoding w = .ok source w := by
  rw [readSource, bind_of_ok (get_eq_ok.2 ⟨rfl, rfl⟩), h]
  rfl

theorem readSource_of_unread {e : LoadError} (h : l.read w.files encoding n = .error e) :
    l.readSource n encoding w = e.raise l w := by
  rw [readSource, bind_of_ok (get_eq_ok.2 ⟨rfl, rfl⟩), h]

theorem make_of_uncompiled (l : Loader) {e : CompileError} {path text : String}
    (h : Template.compile path text = .error e) :
    Template.make path text = (LoadError.compile path e).raise l := by
  rw [Template.make, h]
  rfl

/-- Loading comes to what the files say, and leaves them alone. -/
theorem loadTemplate_endsAs (l : Loader) (t : Files) (encoding n : String) :
    EndsAs (·.files = t) (fun e s u => e.StopsWith s u ∧ u.files = t) (l.loadTemplate n encoding)
      ((l.load t encoding n).map Prod.snd) := by
  cases hread : l.read t encoding n with
  | error e =>
    rw [load_of_unread hread]
    rintro w rfl
    obtain ⟨s, u, hraise, hs, hu⟩ := e.raise_stopsWith (α := Source) l w
    exact ⟨s, u, bind_of_error (by rw [readSource_of_unread hread, hraise]), hs, hu⟩
  | ok source =>
    cases hcompile : Template.compile source.path source.text with
    | error e =>
      rw [load_of_uncompiled hread hcompile]
      rintro w rfl
      obtain ⟨s, u, hraise, hs, hu⟩ := (LoadError.compile source.path e).raise_stopsWith (α := Template) l
        (World.after (logMessage "viewer.templates.loader"
          ("Loaded template " ++ n ++ " from " ++ source.path)) w)
      refine ⟨s, u, ?_, hs, hu⟩
      rw [loadTemplate, bind_of_ok (readSource_of_read hread), make_of_uncompiled l hcompile, ← hraise]
      rfl
    | ok template =>
      rw [load_of_compiled hread hcompile]
      rintro w rfl
      refine ⟨World.after (l.loadTemplate n encoding) w, ?_, ?_⟩
      · refine ok_of_value? ?_
        rw [value?, loadTemplate, bind_of_ok (readSource_of_read hread), Template.make, hcompile]
        rfl
      · rw [World.after, loadTemplate, bind_of_ok (readSource_of_read hread), Template.make, hcompile]
        rfl

/-- What is said about one template. -/
def verdict (l : Loader) (t : Files) (encoding n : String) : Except LoadError (List LintIssue) :=
  match l.load t encoding n with
  | .ok _ => .ok []
  | .error e =>
    match e.issue? n with
    | some i => .ok [i]
    | none => .error e

theorem lint_of_ok {template : Template} {u : World} (h : l.loadTemplate n encoding w = .ok template u) :
    l.lint encoding n w = .ok [] u := by
  rw [lint, bind_of_ok (attempt_of_ok h)]
  rfl

theorem lint_of_stopsWith {e : LoadError} {s : Stop} {u : World}
    (h : l.loadTemplate n encoding w = .error s u) (hs : e.StopsWith s u) :
    (∀ i, e.issue? n = some i → l.lint encoding n w = .ok [i] u) ∧
      (e.issue? n = none → l.lint encoding n w = .error s u) := by
  obtain ⟨r, ⟨type, args, text, fault, cause, line⟩, rfl, hr, htype, hfault⟩ := hs
  dsimp only at htype hfault
  subst htype hfault
  have hexception : exception? (.ref r) u = .ok (some ⟨e.type, args, text, e.fault?, cause, line⟩) u := by
    rw [exception?, bind_of_ok (object?_ref u r), hr]
    rfl
  rw [lint, bind_of_ok (attempt_of_error h)]
  dsimp only
  rw [bind_of_ok hexception]
  cases e with
  | notFound name => exact ⟨fun i hi => (by cases hi; rfl), fun hi => (by cases hi)⟩
  | unknownEncoding name => exact ⟨fun i hi => (by cases hi), fun _ => rfl⟩
  | undecodable e =>
    refine ⟨fun i hi => (by cases hi), fun _ => ?_⟩
    cases e <;> rfl
  | compile path e =>
    cases e with
    | unknownIndicator _ | layout _ | code _ =>
      exact ⟨fun i hi => (by cases hi; rfl), fun hi => (by cases hi)⟩
    | nullCharacter => exact ⟨fun i hi => (by cases hi), fun _ => rfl⟩

/-- A report on a template comes to its verdict. -/
theorem lint_endsAs (l : Loader) (t : Files) (encoding n : String) :
    EndsAs (·.files = t) (fun e s u => e.StopsWith s u) (l.lint encoding n) (l.verdict t encoding n) := by
  have hload := loadTemplate_endsAs l t encoding n
  rw [verdict]
  cases h : l.load t encoding n with
  | ok p =>
    rw [h] at hload
    intro w hw
    obtain ⟨u, hu, hfiles⟩ := hload w hw
    exact ⟨u, lint_of_ok hu, hfiles⟩
  | error e =>
    rw [h] at hload
    dsimp only
    cases hissue : e.issue? n with
    | some i =>
      intro w hw
      obtain ⟨s, u, hs, hstops, hfiles⟩ := hload w hw
      exact ⟨u, (lint_of_stopsWith hs hstops).1 i hissue, hfiles⟩
    | none =>
      intro w hw
      obtain ⟨s, u, hs, hstops, -⟩ := hload w hw
      exact ⟨s, u, (lint_of_stopsWith hs hstops).2 hissue, hstops⟩

/-! ## All templates -/

theorem lintAll_of_ok {issues : List (List LintIssue)}
    (h : (l.list w.files).mapM (l.verdict w.files encoding) = .ok issues) :
    ∃ u, l.lintAll encoding w = .ok issues.flatten u := by
  have hends := EndsAs.mapM (lint_endsAs l w.files encoding) (l.list w.files)
  rw [h] at hends
  obtain ⟨u, hu, -⟩ := hends w rfl
  refine ⟨World.after (l.lintAll encoding) w, ok_of_value? ?_⟩
  rw [value?, lintAll, bind_of_ok (get_eq_ok.2 ⟨rfl, rfl⟩), bind_of_ok hu]
  rfl

theorem lintAll_of_error {e : LoadError}
    (h : (l.list w.files).mapM (l.verdict w.files encoding) = .error e) :
    ∃ s u, l.lintAll encoding w = .error s u ∧ e.StopsWith s u := by
  have hends := EndsAs.mapM (lint_endsAs l w.files encoding) (l.list w.files)
  rw [h] at hends
  obtain ⟨s, u, hu, hs⟩ := hends w rfl
  refine ⟨s, u, ?_, hs⟩
  rw [lintAll, bind_of_ok (get_eq_ok.2 ⟨rfl, rfl⟩), bind_of_error hu]

/-- An issue says which fault a template is rejected for. -/
def Reports (l : Loader) (t : Files) (encoding : String) (i : LintIssue) : Prop :=
  ∃ path e f, l.load t encoding i.templateName = .error (.compile path e) ∧ e.fault? path = some f ∧
    i.severity = "error" ∧ i.code = f.code ∧ i.line = f.place.line ∧ i.message = f.message ∧
    i.context = some e.excerpt

theorem load_ne_notFound (h : l.find? t n ≠ none) (m : String) :
    l.load t encoding n ≠ .error (.notFound m) := by
  intro hload
  cases hread : l.read t encoding n with
  | error e =>
    rw [load_of_unread hread] at hload
    cases hload
    obtain ⟨⟨p, f⟩, hfound⟩ := Option.ne_none_iff_exists'.1 h
    rw [read, hfound] at hread
    exact decode_ne_notFound encoding p f m hread
  | ok source =>
    cases hcompile : Template.compile source.path source.text with
    | error e => rw [load_of_uncompiled hread hcompile] at hload; cases hload
    | ok template => rw [load_of_compiled hread hcompile] at hload; cases hload

theorem verdict_eq_error_iff {e : LoadError} (h : l.find? t n ≠ none) :
    l.verdict t encoding n = .error e ↔ l.load t encoding n = .error e ∧ e.fault? = none := by
  rw [verdict]
  cases hload : l.load t encoding n with
  | ok p => simp
  | error e' =>
    have hissue : e'.issue? n = none ↔ e'.fault? = none := by
      cases e' with
      | notFound m => exact absurd hload (load_ne_notFound h m)
      | compile path e => simp [LoadError.issue?, LoadError.fault?]
      | _ => simp [LoadError.issue?, LoadError.fault?]
    rw [Except.error.injEq]
    constructor
    · intro hverdict
      cases hi : e'.issue? n with
      | some i => simp [hi] at hverdict
      | none =>
        simp only [hi, Except.error.injEq] at hverdict
        exact ⟨hverdict, hverdict ▸ hissue.1 hi⟩
    · rintro ⟨rfl, hfault⟩
      simp only [hissue.2 hfault]

theorem exists_verdict_eq_ok (h : l.find? t n ≠ none) :
    (∃ issues, l.verdict t encoding n = .ok issues) ↔
      ∀ e, l.load t encoding n = .error e → e.fault?.isSome := by
  constructor
  · rintro ⟨issues, hok⟩ e hload
    refine Option.isSome_iff_ne_none.2 fun hfault => ?_
    rw [(verdict_eq_error_iff h).2 ⟨hload, hfault⟩] at hok
    cases hok
  · intro hall
    cases hverdict : l.verdict t encoding n with
    | ok issues => exact ⟨issues, rfl⟩
    | error e =>
      obtain ⟨hload, hfault⟩ := (verdict_eq_error_iff h).1 hverdict
      exact absurd hfault (Option.isSome_iff_ne_none.1 (hall e hload))

/-- A verdict has an issue just for a template that is rejected. -/
theorem reports_of_verdict {issues : List LintIssue} (h : l.find? t n ≠ none)
    (hverdict : l.verdict t encoding n = .ok issues) :
    issues.map (·.templateName) = [n].filter (fun n => !(l.load t encoding n).isOk) ∧
      ∀ i ∈ issues, l.Reports t encoding i := by
  rw [verdict] at hverdict
  cases hload : l.load t encoding n with
  | ok p =>
    rw [hload] at hverdict
    cases hverdict
    simp [hload, Except.isOk, Except.toBool]
  | error e =>
    rw [hload] at hverdict
    dsimp only at hverdict
    cases hissue : e.issue? n with
    | none => rw [hissue] at hverdict; cases hverdict
    | some i =>
      rw [hissue] at hverdict
      cases hverdict
      cases e with
      | notFound m => exact absurd hload (load_ne_notFound h m)
      | unknownEncoding _ | undecodable _ => cases hissue
      | compile path e =>
        obtain ⟨f, hf, rfl⟩ := Option.map_eq_some_iff.1 hissue
        refine ⟨by simp [hload, Except.isOk, Except.toBool], fun i hi => ?_⟩
        rw [List.mem_singleton.1 hi]
        exact ⟨path, e, f, hload, hf, rfl, rfl, rfl, rfl, rfl⟩

theorem reports_of_mapM {names : List String} {issues : List (List LintIssue)}
    (hnames : ∀ n ∈ names, l.find? t n ≠ none) (h : names.mapM (l.verdict t encoding) = .ok issues) :
    issues.flatten.map (·.templateName) = names.filter (fun n => !(l.load t encoding n).isOk) ∧
      ∀ i ∈ issues.flatten, l.Reports t encoding i := by
  rw [Traversal.mapM_eq_ok_iff] at h
  induction names generalizing issues with
  | nil =>
    cases issues with
    | nil => simp
    | cons is issues => cases h
  | cons n names ih =>
    cases issues with
    | nil => cases h
    | cons is issues =>
      rw [List.map_cons, List.map_cons, List.cons.injEq] at h
      obtain ⟨hmap, hall⟩ := ih (fun m hm => hnames m (List.mem_cons_of_mem n hm)) h.2
      obtain ⟨hfirst, hreports⟩ := reports_of_verdict (hnames n List.mem_cons_self) h.1
      refine ⟨?_, fun i hi => ?_⟩
      · rw [List.flatten_cons, List.map_append, hmap, hfirst, ← List.filter_append, List.singleton_append]
      · rw [List.flatten_cons, List.mem_append] at hi
        exact hi.elim (hreports i) (hall i)

/-- A report is complete just when every listed template that is rejected is rejected for a fault of its
directives or its code. It then has one issue for each of them, in the order of the listing, which says
what the fault says. Otherwise the report stops at the first template that is rejected for another reason,
and says nothing about any template. -/
theorem lintAll_outcome (l : Loader) (encoding : String) {w : World} (h : w.files.Named) :
    ((∃ issues u, l.lintAll encoding w = .ok issues u) ↔
        ∀ n ∈ l.list w.files, ∀ e, l.load w.files encoding n = .error e → e.fault?.isSome) ∧
      (∀ issues u, l.lintAll encoding w = .ok issues u →
        issues.map (·.templateName) =
            (l.list w.files).filter (fun n => !(l.load w.files encoding n).isOk) ∧
          (issues.map (·.templateName)).Pairwise (· < ·) ∧ ∀ i ∈ issues, l.Reports w.files encoding i) ∧
      ∀ s u, l.lintAll encoding w = .error s u →
        ∃ before n after e, l.list w.files = before ++ n :: after ∧
          (∀ m ∈ before, ∀ e, l.load w.files encoding m = .error e → e.fault?.isSome) ∧
          l.load w.files encoding n = .error e ∧ e.fault? = none ∧ e.StopsWith s u := by
  have hlisted : ∀ n ∈ l.list w.files, l.find? w.files n ≠ none := fun n hn => find?_ne_none_of_mem_list h hn
  have hreturns : (∃ issues, (l.list w.files).mapM (l.verdict w.files encoding) = .ok issues) ↔
      ∀ n ∈ l.list w.files, ∀ e, l.load w.files encoding n = .error e → e.fault?.isSome := by
    rw [Traversal.exists_mapM_eq_ok]
    exact forall₂_congr fun n hn => exists_verdict_eq_ok (hlisted n hn)
  cases hverdicts : (l.list w.files).mapM (l.verdict w.files encoding) with
  | ok issues =>
    obtain ⟨u, hu⟩ := lintAll_of_ok hverdicts
    refine ⟨⟨fun _ => hreturns.1 ⟨issues, hverdicts⟩, fun _ => ⟨_, u, hu⟩⟩, fun is v hv => ?_, fun s v hv => ?_⟩
    · rw [hu] at hv
      cases hv
      obtain ⟨hnames, hreports⟩ := reports_of_mapM hlisted hverdicts
      refine ⟨hnames, ?_, hreports⟩
      rw [hnames]
      exact (pairwise_list l w.files).filter _
    · rw [hu] at hv
      cases hv
  | error e =>
    obtain ⟨s, u, hu, hs⟩ := lintAll_of_error hverdicts
    refine ⟨⟨?_, fun hall => ?_⟩, fun is v hv => ?_, fun s' v hv => ?_⟩
    · rintro ⟨is, v, hv⟩
      rw [hu] at hv
      cases hv
    · obtain ⟨issues, hissues⟩ := hreturns.2 hall
      rw [hverdicts] at hissues
      cases hissues
    · rw [hu] at hv
      cases hv
    · rw [hu] at hv
      cases hv
      obtain ⟨before, n, after, hlist, hbefore, hn⟩ := Traversal.mapM_eq_error_iff.1 hverdicts
      rw [hlist] at hlisted
      obtain ⟨hload, hfault⟩ := (verdict_eq_error_iff (hlisted n (by simp))).1 hn
      refine ⟨before, n, after, e, hlist, fun m hm => ?_, hload, hfault, hs⟩
      exact (exists_verdict_eq_ok (hlisted m (by simp [hm]))).1 (hbefore m hm)

/-- Bytes that do not decode, in front of a directive that does not fit. -/
def undecodable : World :=
  { files := { files := [⟨["a.tpl"], [0xFF]⟩, ⟨["b.tpl"], [60, 37, 32, 105, 102, 32, 37, 62]⟩] } }

/-- What a template is rejected for. -/
def rejection? (l : Loader) (t : Files) (encoding n : String) : Option LoadError :=
  match l.load t encoding n with
  | .ok _ => none
  | .error e => some e

theorem rejection?_any {p : LoadError → Bool} (h : (l.rejection? t encoding n).any p = true) :
    ∃ e, l.load t encoding n = .error e ∧ p e = true := by
  rw [rejection?] at h
  cases hload : l.load t encoding n with
  | ok q => rw [hload] at h; cases h
  | error e => exact ⟨e, rfl, by rwa [hload] at h⟩

theorem undecodable_hides_others :
    undecodable.files.Named ∧ ({} : Loader).list undecodable.files = ["a.tpl", "b.tpl"] ∧
      (∃ e, ({} : Loader).load undecodable.files "utf-8" "b.tpl" = .error e ∧ e.fault?.isSome) ∧
      ¬ ∃ issues u, ({} : Loader).lintAll "utf-8" undecodable = .ok issues u := by
  have hnamed : undecodable.files.Named := by decide +kernel
  have hlist : ({} : Loader).list undecodable.files = ["a.tpl", "b.tpl"] := by decide +kernel
  refine ⟨hnamed, hlist, rejection?_any (by decide +kernel), fun hreturns => ?_⟩
  obtain ⟨e, hload, hbytes⟩ : ∃ e, ({} : Loader).load undecodable.files "utf-8" "a.tpl" = .error e ∧
      e.fault?.isNone := rejection?_any (by decide +kernel)
  have hfault := (lintAll_outcome {} "utf-8" hnamed).1.1 hreturns "a.tpl" (by rw [hlist]; simp) e hload
  rw [Option.isNone_iff_eq_none.1 hbytes] at hfault
  cases hfault

end Loader

end Stencil
