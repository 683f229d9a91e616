import Stencil.Proofs.AbsentLayouts
import Stencil.Proofs.Composition
import Stencil.Proofs.InspectedViews
import Stencil.Proofs.NestedFailures

/-!
# What a render forgives

A render forgives one thing only: that there is no file at the path of its layout. Every other template that
is missing, and every fault in a layout that is there, leaves the render as it is, and the view has failed.
-/

namespace Stencil

open World Evaluation

namespace View

/-- The stages of a render come to looking for a layout at a path. -/
def ComesToLayout (m : Interpreter) (v : Ref) (encoding : Value) (w : World) (path : Value) (u : World) :
    Prop :=
  ∃ content w₁ w₂ w₃, runContent m (.ref v) encoding w.objects.size (w.push (.pass #[])) = .ok content w₁ ∧
    m.attributeOf (.ref v) "layout_path" w₁ = .ok path w₂ ∧ truth path w₂ = .ok true w₃ ∧
    transition m (.ref v) .layoutCompiling w₃ = .ok () u

/-- The stages of a render come to an exception: loading the content raises it, or something that the
script of a template, a deferred expression or the value of one comes to, outside of every handler. -/
inductive Meets (m : Interpreter) (v : Ref) (encoding : Value) (w : World) : Ref → World → Prop
  | content {q : Ref} {u : World}
      (h : Raises (loadContent m (.ref v) encoding) (w.push (.pass #[])) (.ref q) u) :
      Meets m v encoding w q u
  | running {β : Type} {a : Activity} {y : Action β} {q : Ref} {w₁ z u : World}
      (h : Reaches m (.ref v) encoding w a w₁) (hy : ComesTo false y z (a.run m) w₁)
      (hq : Raises y z (.ref q) u) : Meets m v encoding w q u

end View

section

variable {n : Nat} {v : Nat} {w u : World}

namespace View

/-! ## Failures that are not forgiven -/

/-- An exception that passes through leaves the render that comes to it as it is. -/
theorem Meets.render_raises {enc encoding : Value} {w₁ : World} {q : Ref} {e : ExceptionObject}
    (h : Meets (interpreter (n + 1)) v encoding w₁ q u)
    (hb : Begins (interpreter (n + 1)) (.ref v) enc w encoding w₁) (hq : u.at' q = .exception e)
    (he : e.passes = true) (hs : u.AtStage v) :
    ∃ u', Raises (render (interpreter (n + 1)) (.ref v) enc) w (.ref q) u' ∧ u'.at' q = .exception e ∧
      u'.Failed v := by
  obtain ⟨hpasses, hfailure⟩ := World.passes_of_exception hq he
  have hstages : Raises (renderStages (interpreter (n + 1)) (.ref v) encoding) w₁ (.ref q) u := by
    cases h with
    | content h =>
      have halloc : alloc (.pass #[]) w₁ = .ok w₁.objects.size (w₁.push (.pass #[])) := rfl
      exact .next halloc h.bind.bind
    | running h hy hq =>
      obtain ⟨line, hrun⟩ := hy.raises hq
      exact h.raises hrun (Activity.leaves_of_passes hpasses)
  obtain ⟨u', hraises, hfails⟩ := View.render_raises hb hstages hfailure hs
  exact ⟨u', hraises, hfails.exceptions q e hq, hfails.failed⟩

end View

/-- A template that a loader reads but that is wrong is reported by a fault. -/
theorem loadMethod_raises {l : Loader} {path encoding : String} {source : Source} {error : CompileError}
    {f : Fault} (hread : l.read w.files encoding path = .ok source)
    (hcompile : Template.compile source.path source.text = .error error)
    (hf : error.fault? source.path = some f) :
    ∃ (q : Ref) (u : World),
      Raises (l.method "load" { items := [.str path, .str encoding] }) w (.ref q) u ∧
      u.at' q = .exception { type := .fault f.kind, fault := some f } ∧ w.Refills u := by
  have hsource : l.readSource path encoding w = .ok source w := by
    rw [Loader.readSource_eq, hread]
    rfl
  let told : World := { w with log := w.log.push ("viewer.templates.loader",
    "Loaded template " ++ path ++ " from " ++ source.path) }
  have hmake : Raises (Template.make source.path source.text) told (.ref told.objects.size)
      (told.push (.exception { type := .fault f.kind, fault := some f })) := by
    unfold Template.make
    rw [hcompile]
    dsimp only
    rw [hf]
    exact ⟨none, rfl⟩
  have hload : Raises (l.loadTemplate path encoding) w (.ref told.objects.size)
      (told.push (.exception { type := .fault f.kind, fault := some f })) :=
    .next hsource (.next (v := told) rfl hmake)
  refine ⟨told.objects.size, told.push _, ?_, World.at'_push_size _ _, ?_⟩
  · unfold Loader.method
    exact .next (matched_eq rfl rfl w) (.next (a := path) (v := w) rfl
      (.next (a := encoding) (v := w) rfl (Raises.bind hload)))
  · have htold : w.Refills told := .of_changesOnly ⟨Nat.le_refl _, fun _ _ _ => rfl, rfl, rfl⟩
    exact htold.trans (.push _ _)

namespace View

/-- An exception for a layout that is not a missing template leaves the stages of the render. -/
theorem ComesToLayout.raises {m : Interpreter} {encoding path e : Value} {w₁ : World}
    (h : ComesToLayout m v encoding w path w₁) (hload : Raises (loadLayout? m (.ref v) encoding path) w₁ e u)
    (he : isInstance e (.exception "TemplateNotFound") u = .ok false u) :
    Raises (renderStages m (.ref v) encoding) w e u := by
  obtain ⟨content, w₂, w₃, w₄, hcontent, hpath, htruth, hgoes⟩ := h
  have halloc : alloc (.pass #[]) w = .ok w.objects.size (w.push (.pass #[])) := rfl
  obtain ⟨line, hload⟩ := hload
  have hwrap : Raises (wrapInLayout m (.ref v) encoding path w.objects.size content) w₄ e u := by
    refine .next hgoes (.next (attempt_of_error hload) (.next he ?_))
    exact ⟨line, rfl⟩
  exact .next halloc (.next hcontent (Raises.bind (.next hpath (.next htruth hwrap))))

/-- A fault in a layout that is there leaves the render as it is. -/
theorem ComesToLayout.render_raises {enc : Value} {encoding path : String} {w₁ w₂ : World} {r : Nat}
    {l : Loader} {source : Source} {error : CompileError} {f : Fault}
    (h : ComesToLayout (interpreter (n + 1)) v (.str encoding) w₁ (.str path) w₂)
    (hb : Begins (interpreter (n + 1)) (.ref v) enc w (.str encoding) w₁)
    (hloader : w₂.Gives v "loader" (.ref r)) (hr : w₂.at' r = .loader l) (hs : w₂.AtStage v)
    (hread : l.read w₂.files encoding path = .ok source)
    (hcompile : Template.compile source.path source.text = .error error)
    (hf : error.fault? source.path = some f) :
    ∃ (q : Ref) (u : World), Raises (render (interpreter (n + 1)) (.ref v) enc) w (.ref q) u ∧
      u.at' q = .exception { type := .fault f.kind, fault := some f } ∧ u.Failed v := by
  obtain ⟨q, u, ⟨line, hraises⟩, hq, hrefills⟩ := loadMethod_raises hread hcompile hf
  have hlacks : lacksFile (.method (.ref r) "load") (.str path) (.str encoding) w₂ = .ok false w₂ := by
    rw [lacksFile_eq hr]
    cases hfind : l.find? w₂.files path with
    | none =>
      rw [Loader.read, hfind] at hread
      cases hread
    | some found => rfl
  have happly : Raises ((interpreter (n + 1)).apply (.method (.ref r) "load") [.str path, .str encoding]) w₂
      (.ref q) u := ⟨line, (apply_load hr _).trans hraises⟩
  have hload : Raises (loadLayout? (interpreter (n + 1)) (.ref v) (.str encoding) (.str path)) w₂ (.ref q) u :=
    .next (read_gives (by simp [IsPlainName]) hloader) (.next (read_load hr) (.next hlacks happly.bind))
  have hother : isInstance (.ref q) (.exception "TemplateNotFound") u = .ok false u :=
    bind_of_ok (World.typeOf_exception hq)
  obtain ⟨u', hraises, hfails⟩ := View.render_raises hb (h.raises hload hother)
    (World.passes_of_exception hq rfl).2 (hs.refills hrefills)
  exact ⟨q, u', hraises, hfails.exceptions q _ hq, hfails.failed⟩

/-- A render forgives an absent layout and nothing else. Without a layout it agrees with a render of the same
view in a world in which its configuration uses no layouts, and the view has collected the same assets, when
the templates take no notice of this and leave the view ordinary. An exception that passes through, such as
that for a missing template, leaves the render as it is when the render comes to it outside of every handler,
and so does a fault in a layout that is there; the view has failed then. -/
theorem absent_layout_forgiven {enc encoding : Value} {w₁ : World}
    (hb : Begins (interpreter (n + 3)) (.ref v) enc w encoding w₁) :
    (∀ c w', w.OrdinaryView v c → w.HasRegistered v → enc.IsName → w.Twin c w' → w'.UsesNoLayout c →
      (∀ content u, runContent (interpreter (n + 3)) (.ref v) encoding w₁.objects.size
        (w₁.push (.pass #[])) = .ok content u → LacksLayout (interpreter (n + 3)) v u) →
      TemplatesUnread (interpreter (n + 3)) v c encoding w₁ →
      StaysOrdinary (interpreter (n + 3)) v encoding w₁ w.enclosing →
      Agree c (render (interpreter (n + 3)) (.ref v) enc w) (render (interpreter (n + 3)) (.ref v) enc w') ∧
        ∀ out u u', render (interpreter (n + 3)) (.ref v) enc w = .ok out u →
          render (interpreter (n + 3)) (.ref v) enc w' = .ok out u' →
          ∀ refs, u.Bundled v "_assets" refs ↔ u'.Bundled v "_assets" refs) ∧
    (∀ q u e, Meets (interpreter (n + 3)) v encoding w₁ q u → u.at' q = .exception e → e.passes = true →
      u.AtStage v → ∃ u', Raises (render (interpreter (n + 3)) (.ref v) enc) w (.ref q) u' ∧
        u'.at' q = .exception e ∧ u'.Failed v) ∧
    ∀ path codec w₂ (r : Nat) l source error f, encoding = .str codec →
      ComesToLayout (interpreter (n + 3)) v encoding w₁ (.str path) w₂ → w₂.Gives v "loader" (.ref r) →
      w₂.at' r = .loader l → w₂.AtStage v → l.read w₂.files codec path = .ok source →
      Template.compile source.path source.text = .error error → error.fault? source.path = some f →
      ∃ (q : Ref) (u : World), Raises (render (interpreter (n + 3)) (.ref v) enc) w (.ref q) u ∧
        u.at' q = .exception { type := .fault f.kind, fault := some f } ∧ u.Failed v := by
  refine ⟨fun c w' hv hr henc h hoff hl hunread hstays => ?_, fun q u e hmeets hq he hs => ?_, ?_⟩
  · have hagree := render_agree hv hr henc h hoff hb hl hunread hstays
    refine ⟨hagree, fun out u u' hu hu' refs => ?_⟩
    obtain ⟨u'', hu'', htwin⟩ := hagree.left out u hu
    cases hu'.symm.trans hu''
    exact htwin.bundled_iff
  · exact hmeets.render_raises hb hq he hs
  · rintro path codec w₂ r l source error f rfl hlayout hloader hr hs hread hcompile hf
    exact hlayout.render_raises hb hloader hr hs hread hcompile hf

end View

end

/-! ## A page -/

/-- The texts that a script writes, if it does nothing else. -/
def Script.writtenTexts? (n : Nat) : (b : Block) → Option { texts : List String // b = writingStmts n texts }
  | [] => some ⟨[], rfl⟩
  | .at line (.expr (.call (.name f) [.positional (.constant (.str s))])) :: rest =>
    if h : f = "_tpl_write" ∧ line = n then
      (writtenTexts? (n + 1) rest).map fun ⟨texts, htexts⟩ => ⟨s :: texts, by
        rw [h.1, h.2, htexts]
        rfl⟩
    else none
  | _ => none

/-- The exception that a value is, if it passes through. -/
def World.passing? (w : World) (e : Value) : Option { p : Ref × ExceptionObject //
    e = .ref p.1 ∧ w.at' p.1 = .exception p.2 ∧ p.2.passes = true } :=
  match e with
  | .ref q =>
    match hq : w.at' q with
    | .exception x => if hx : x.passes = true then some ⟨(q, x), rfl, hq, hx⟩ else none
    | _ => Option.none
  | _ => Option.none

/-- The text that a value is. -/
def Value.words? : (x : Value) → Option { s : String // x = .str s }
  | .str s => some ⟨s, rfl⟩
  | _ => Option.none

/-- The loader that a view has. -/
def World.loader? (w : World) (v : Ref) :
    Option { p : Ref × Loader // w.Gives v "loader" (.ref p.1) ∧ w.at' p.1 = .loader p.2 } :=
  match h : w.given? v "loader" with
  | some (.ref r) =>
    match hr : w.at' r with
    | .loader l => some ⟨(r, l), gives_of_given? h, hr⟩
    | _ => none
  | _ => none

namespace View

section

variable (m : Interpreter) (v : Ref) (encoding : Value) (w : World)

/-- Whether there is no layout for a view. -/
def lacksLayout? : Option (PLift (LacksLayout m v w)) := do
  let ⟨(x, u), hread⟩ ← w.ok? (m.attributeOf (.ref v) "layout_path")
  let ⟨(r, l), hloader, hr⟩ ← w.loader? v
  let ⟨path, hx⟩ ← x.words?
  if hfind : l.find? w.files path = none then
    return ⟨x, u, r, l, hread, hloader, hr, by
      rintro _ hx'
      cases hx.symm.trans hx'
      exact hfind⟩
  else none

/-- Whether the content of a render is text, without a layout. -/
def textOnly? : Option (PLift (HasTextOnly m v encoding w)) := do
  let ⟨(x, u₁), hload⟩ ← (w.push (.pass #[])).ok? (loadContent m (.ref v) encoding)
  let ⟨((), u), hgoes⟩ ← u₁.ok? (transition m (.ref v) .contentExecuting)
  let ⟨(q, t), hx, ht⟩ ← u.template? x
  let ⟨texts, htexts⟩ ← Script.writtenTexts? 1 t.script
  let ⟨(content, u₂), hcontent⟩ ← (w.push (.pass #[])).ok? (runContent m (.ref v) encoding w.objects.size)
  let ⟨hlacks⟩ ← lacksLayout? m v u₂
  return ⟨by
    constructor
    · rintro t' u' ⟨q', u₁', hload', hgoes', ht'⟩
      cases hload.symm.trans hload'
      cases hgoes.symm.trans hgoes'
      cases hx
      cases ht.symm.trans ht'
      exact ⟨texts, htexts⟩
    · rintro content' u' hcontent'
      cases hcontent.symm.trans hcontent'
      exact hlacks⟩

/-- A missing template, or another exception that passes through, which the stages of a render come to. -/
structure Stopping where
  place : Ref
  exception : ExceptionObject
  world : World
  meets : Meets m v encoding w place world
  isThere : world.at' place = .exception exception
  passes : exception.passes = true

/-- The exception for a content template that is not there. -/
def missingContent? : Option (Stopping m v encoding w) := do
  let ⟨(r, u), hraises⟩ ← (w.push (.pass #[])).raised? (loadContent m (.ref v) encoding)
  let ⟨(q, e), hq, hat, hpasses⟩ ← u.passing? r.value
  return ⟨q, e, u, .content (hq ▸ .of_error hraises), hat, hpasses⟩

/-- The exception that the script of the content raises. -/
def stoppedScript? [m.Evolves] : Option (Stopping m v encoding w) := do
  let ⟨(t, globals, w₁), hreaches⟩ ← script? m (.ref v) encoding w
  let ⟨(r, u), hraises⟩ ← w₁.raised? ((Activity.script t globals).run m)
  let ⟨(q, e), hq, hat, hpasses⟩ ← u.passing? r.value
  return ⟨q, e, u, .running hreaches .here (hq ▸ .of_error hraises), hat, hpasses⟩

/-- A layout that is there, with what is wrong with it. -/
structure FaultyLayout where
  path : String
  codec : String
  world : World
  place : Ref
  loader : Loader
  source : Source
  error : CompileError
  fault : Fault
  encoding_eq : encoding = .str codec
  comes : ComesToLayout m v encoding w (.str path) world
  gives : world.Gives v "loader" (.ref place)
  isThere : world.at' place = .loader loader
  stage : world.AtStage v
  reads : loader.read world.files codec path = .ok source
  stops : Template.compile source.path source.text = .error error
  reports : error.fault? source.path = some fault

/-- The faulty layout of a view, if the stages of a render come to one. -/
def faultyLayout? : Option (FaultyLayout m v encoding w) := do
  let ⟨(content, w₁), hcontent⟩ ← (w.push (.pass #[])).ok? (runContent m (.ref v) encoding w.objects.size)
  let ⟨(x, w₂), hread⟩ ← w₁.ok? (m.attributeOf (.ref v) "layout_path")
  let ⟨(true, w₃), htruth⟩ ← w₂.ok? (truth x) | none
  let ⟨((), u), hgoes⟩ ← w₃.ok? (transition m (.ref v) .layoutCompiling)
  let ⟨(r, l), hgives, hr⟩ ← u.loader? v
  let ⟨hstage⟩ ← World.check? (u.atStage? v)
  let ⟨path, hx⟩ ← x.words?
  let ⟨codec, hcodec⟩ ← encoding.words?
  match hsource : l.read u.files codec path with
  | .ok source =>
    match herror : Template.compile source.path source.text with
    | .error error =>
      match hfault : error.fault? source.path with
      | some fault =>
        return ⟨path, codec, u, r, l, source, error, fault, hcodec,
          hx ▸ ⟨content, w₁, w₂, w₃, hcontent, hread, htruth, hgoes⟩, hgives, hr,
          World.atStage_of_atStage? hstage, hsource, herror, hfault⟩
      | none => none
    | .ok _ => none
  | .error _ => none

end

end View

/-- A view with a template and a stylesheet, at place 8, with its configuration at 7. -/
def onePage (sources : List (String × String)) : World := World.after (do
  ContextClass.setUp
  modify fun w => { w with files := sourceFiles sources }
  let _ ← View.create machine (← defineView "Page" "page" ["page.css"]) {}) {}

/-- A page of text without a layout, with nothing rendered around it. -/
def rendersText? (w : World) : Bool :=
  w.ordinary? 8 7 && w.hasRegistered? 8 && w.hooksItself? 8 && w.enclosing.isNone &&
    ((w.ok? (View.render machine (.ref 8) .none)).any fun x => x.1.1 == "text") &&
    (View.begun? machine (.ref 8) .none w).any fun x => (View.textOnly? machine 8 x.1.1 x.1.2).isSome

/-- A page for which a template is missing, and that is still at a stage when it is. -/
def missesTemplate? (w : World)
    (find : (encoding : Value) → (w₁ : World) → Option (View.Stopping machine 8 encoding w₁)) : Bool :=
  (View.begun? machine (.ref 8) .none w).any fun x => (find x.1.1 x.1.2).any fun y =>
    y.exception.type == .exception "TemplateNotFound" && y.world.atStage? 8

/-- A page whose render stops with an exception of a type, and that has failed then. -/
def PageFails (w : World) (type : TypeRef) : Prop :=
  ∃ q u e, Raises (View.render machine (.ref 8) .none) w (.ref q) u ∧ u.at' q = .exception e ∧
    e.type = type ∧ u.Failed 8

theorem onePage_checks :
    rendersText? (onePage [("page", "text")]) = true ∧
    missesTemplate? (onePage []) (View.missingContent? machine 8) = true ∧
    missesTemplate? (onePage [("page", "<% self.loader.load('missing') %>")])
      (fun encoding w₁ => View.stoppedScript? machine 8 encoding w₁) = true ∧
    ((View.begun? machine (.ref 8) .none (onePage [("page", "text"), ("layout", "<% if %>")])).any
      fun x => (View.faultyLayout? machine 8 x.1.1 x.1.2).any (·.fault.kind == .codeSyntax)) = true := by
  decide +kernel

/-- A page of text renders as it does without layouts, while a missing template and a faulty layout leave
its render, and the page has failed then. -/
theorem onePage_forgives_layout :
    (∃ u u', View.render machine (.ref 8) .none (onePage [("page", "text")]) = .ok "text" u ∧
      View.render machine (.ref 8) .none ((onePage [("page", "text")]).withoutLayouts 7) = .ok "text" u' ∧
      ∀ refs, u.Bundled 8 "_assets" refs ↔ u'.Bundled 8 "_assets" refs) ∧
    PageFails (onePage []) (.exception "TemplateNotFound") ∧
    PageFails (onePage [("page", "<% self.loader.load('missing') %>")]) (.exception "TemplateNotFound") ∧
    PageFails (onePage [("page", "text"), ("layout", "<% if %>")]) (.fault .codeSyntax) := by
  obtain ⟨htext, hmissing, hstopped, hfaulty⟩ := onePage_checks
  refine ⟨?_, ?_, ?_, ?_⟩
  · simp only [rendersText?, Bool.and_eq_true, Option.isNone_iff_eq_none] at htext
    obtain ⟨⟨⟨⟨⟨hordinary, hregistered⟩, hhooks⟩, haround⟩, hrenders⟩, hbegun⟩ := htext
    obtain ⟨⟨⟨out, u⟩, hu⟩, -, hout⟩ := (Option.any_eq_true _ _).1 hrenders
    obtain ⟨⟨⟨encoding, w₁⟩, hb⟩, -, honly⟩ := (Option.any_eq_true _ _).1 hbegun
    obtain ⟨⟨honly⟩, -⟩ := Option.isSome_iff_exists.1 honly
    cases beq_iff_eq.1 hout
    have hv := World.ordinaryView_of_ordinary? hordinary
    have hr := World.hasRegistered_of_hasRegistered? hregistered
    obtain ⟨-, config, hc, -⟩ := hv.config
    obtain ⟨htwin, hoff⟩ := World.twin_withoutLayouts hc
    obtain ⟨e, b, w₂, rfl, -, -, -, hadvances, hs⟩ := hb.starts 7 hv hr .none
    have hv₁ := hadvances.ordinaryView hv
    have hh₁ := hadvances.hooksItself (World.hooksItself_of_hooksItself? hhooks)
    obtain ⟨hagree, hassets⟩ := (View.absent_layout_forgiven hb).1 7 _ hv hr .none htwin hoff honly.layout
      (honly.templatesUnread hv₁ hs hh₁)
      (honly.staysOrdinary hv₁ hs hh₁ (by
        intro o b ho
        rw [haround] at ho
        cases ho))
    obtain ⟨u', hu', -⟩ := hagree.left _ _ hu
    exact ⟨u, u', hu, hu', hassets _ u u' hu hu'⟩
  · obtain ⟨⟨⟨encoding, w₁⟩, hb⟩, -, hstops⟩ := (Option.any_eq_true _ _).1 hmissing
    obtain ⟨x, -, hx⟩ := (Option.any_eq_true _ _).1 hstops
    obtain ⟨htype, hs⟩ := Bool.and_eq_true_iff.1 hx
    obtain ⟨u, hraises, hu, hfailed⟩ := (View.absent_layout_forgiven hb).2.1 _ _ _ x.meets x.isThere x.passes
      (World.atStage_of_atStage? hs)
    exact ⟨_, u, _, hraises, hu, beq_iff_eq.1 htype, hfailed⟩
  · obtain ⟨⟨⟨encoding, w₁⟩, hb⟩, -, hstops⟩ := (Option.any_eq_true _ _).1 hstopped
    obtain ⟨x, -, hx⟩ := (Option.any_eq_true _ _).1 hstops
    obtain ⟨htype, hs⟩ := Bool.and_eq_true_iff.1 hx
    obtain ⟨u, hraises, hu, hfailed⟩ := (View.absent_layout_forgiven hb).2.1 _ _ _ x.meets x.isThere x.passes
      (World.atStage_of_atStage? hs)
    exact ⟨_, u, _, hraises, hu, beq_iff_eq.1 htype, hfailed⟩
  · obtain ⟨⟨⟨encoding, w₁⟩, hb⟩, -, hstops⟩ := (Option.any_eq_true _ _).1 hfaulty
    obtain ⟨x, -, hkind⟩ := (Option.any_eq_true _ _).1 hstops
    obtain ⟨q, u, hraises, hu, hfailed⟩ := (View.absent_layout_forgiven hb).2.2 _ _ _ _ _ _ _ _ x.encoding_eq
      x.comes x.gives x.isThere x.stage x.reads x.stops x.reports
    exact ⟨q, u, _, hraises, hu, congrArg TypeRef.fault (beq_iff_eq.1 hkind), hfailed⟩

/-! ## Pages that replace what they render by -/

/-- A page that replaces its stage before a template is missing. -/
def restagedPage : World :=
  onePage [("page", "<% setattr(self, 'stage', 5) %><% self.loader.load('missing') %>")]

/-- A page of text that replaces its theme, by which its layout is looked up. -/
def rethemedPage : World := onePage [("page", "<% setattr(self, '_theme', 5) %>text")]

theorem replacingPages_checks :
    ((View.begun? machine (.ref 8) .none restagedPage).any fun x =>
      (View.stoppedScript? machine 8 x.1.1 x.1.2).any
        (·.exception.type == .exception "TemplateNotFound")) = true ∧
    ((restagedPage.raised? (View.render machine (.ref 8) .none)).any fun x =>
      x.1.2.nameOfTypeOf x.1.1.value == "AttributeError" &&
        (x.1.2.own? 8 "stage").any (· matches .int 5)) = true ∧
    ((rethemedPage.raised? (View.render machine (.ref 8) .none)).any fun x =>
      x.1.2.nameOfTypeOf x.1.1.value == "TypeError") = true ∧
    (((rethemedPage.withoutLayouts 7).ok? (View.render machine (.ref 8) .none)).any fun x =>
      x.1.1 == "text") = true := by
  decide +kernel

/-- A missing template does not leave the render of a page that has replaced its stage as it is, nor has the
page failed then; and a page that replaces its theme renders without layouts only. -/
theorem replacingPages_not_forgiven :
    ((∃ encoding w₁ q u e, View.Begins machine (.ref 8) .none restagedPage encoding w₁ ∧
        View.Meets machine 8 encoding w₁ q u ∧ u.at' q = .exception e ∧ e.passes = true ∧
        e.type = .exception "TemplateNotFound") ∧
      ∃ e u, Raises (View.render machine (.ref 8) .none) restagedPage e u ∧
        u.nameOfTypeOf e = "AttributeError" ∧ ¬ u.Failed 8) ∧
    (∃ e u, Raises (View.render machine (.ref 8) .none) rethemedPage e u ∧
      u.nameOfTypeOf e = "TypeError") ∧
    ∃ u, View.render machine (.ref 8) .none (rethemedPage.withoutLayouts 7) = .ok "text" u := by
  obtain ⟨hmissing, hrestaged, hrethemed, hwithout⟩ := replacingPages_checks
  refine ⟨⟨?_, ?_⟩, ?_, ?_⟩
  · obtain ⟨⟨⟨encoding, w₁⟩, hb⟩, -, hstops⟩ := (Option.any_eq_true _ _).1 hmissing
    obtain ⟨x, -, htype⟩ := (Option.any_eq_true _ _).1 hstops
    exact ⟨encoding, w₁, _, _, _, hb, x.meets, x.isThere, x.passes, beq_iff_eq.1 htype⟩
  · obtain ⟨⟨⟨r, u⟩, hu⟩, -, hx⟩ := (Option.any_eq_true _ _).1 hrestaged
    obtain ⟨htype, hstage⟩ := Bool.and_eq_true_iff.1 hx
    refine ⟨r.value, u, .of_error hu, beq_iff_eq.1 htype, fun hfailed => ?_⟩
    dsimp only at hstage
    rw [hfailed] at hstage
    cases hstage
  · obtain ⟨⟨⟨r, u⟩, hu⟩, -, htype⟩ := (Option.any_eq_true _ _).1 hrethemed
    exact ⟨r.value, u, .of_error hu, beq_iff_eq.1 htype⟩
  · obtain ⟨⟨⟨out, u⟩, hu⟩, -, hout⟩ := (Option.any_eq_true _ _).1 hwithout
    cases beq_iff_eq.1 hout
    exact ⟨u, hu⟩

end Stencil
