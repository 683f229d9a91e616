import Stencil.Proofs.Reaching

/-!
# Failures in nested views

An exception of a directive in a view that other views embed, at any depth. The template of the directive
reports it. On its way out, through the directives that embed the views and through their renders, it is
a fault or a missing template, and passes every other template as it is. Each render that it leaves marks
its view as failed.
-/

namespace Stencil

open World Evaluation Script

/-! ## Views in directives -/

section

variable {handled : Bool} {n c cls : Nat} {w u w₁ w₂ w₃ : World}

/-- The text of a view comes to its render. -/
theorem comesTo_text (hc : w.classOf? c = some cls) (hkind : (w.classAt' cls).kind = .view) :
    ComesTo handled (View.render (interpreter n) (.ref c) .none) w
      ((interpreter (n + 1)).text (.ref c)) w := by
  obtain ⟨attrs, hat⟩ := World.classOf?_eq_some hc
  have hload : load c w = .ok (.instance cls attrs) w := by rw [load_ok, hat]
  refine .next hload (.next (classAt_ok w cls) ?_)
  rw [hkind]
  exact .here

/-- A deferred directive whose value is a view comes to the render of the view. -/
theorem comesTo_shown (hc : w.classOf? c = some cls) (hkind : (w.classAt' cls).kind = .view) :
    ComesTo handled (View.render (interpreter n) (.ref c) .none) w
      ((View.Activity.value (.ref c)).run (interpreter (n + 1))) w :=
  .first (comesTo_text hc hkind) inferInstance

/-- A view that is written is rendered, once the hook has seen it. -/
theorem comesTo_emit {run : Run} {x : Value} (hc : w₁.classOf? c = some cls)
    (hkind : (w₁.classAt' cls).kind = .view)
    (hhook : run.hooked (interpreter (n + 1)) x w = .ok (.ref c) w₁) :
    ComesTo handled (View.render (interpreter n) (.ref c) .none) w₁
      (run.emit (interpreter (n + 1)) x) w := by
  obtain ⟨attrs, hat⟩ := World.classOf?_eq_some hc
  have hobject : object? (.ref c) w₁ = .ok (some (.instance cls attrs)) w₁ := by rw [object?_ref, hat]
  exact .next hhook (.next hobject (.first (comesTo_text hc hkind) inferInstance))

/-- A statement that writes the value of an expression, which is how a plain directive is listed. -/
def Script.Stmt.writing (line : Nat) (e : Expr) : Stmt :=
  .at line (.expr (.call (.name "_tpl_emit") [.positional e]))

/-- A function of a run runs on the run. -/
theorem Run.load_eq {run : Run} {r : Ref} (h : w.at' r = .run run) : Run.load r w = .ok run w := by
  unfold Run.load
  rw [bind_of_ok (load_ok w r), h]
  rfl

/-- A plain directive whose value is a view comes to the render of the view. -/
theorem comesTo_writing {env : Env} {line : Nat} {e : Expr} {r : Ref} {run : Run} {x : Value}
    (hname : (interpreter (n + 2)).evaluate env (.name "_tpl_emit") w = .ok (.helper .emit r) w₁)
    (he : (interpreter (n + 2)).evaluate env e w₁ = .ok x w₂) (hrun : w₂.at' r = .run run)
    (hhook : run.hooked (interpreter (n + 1)) x w₂ = .ok (.ref c) w₃)
    (hc : w₃.classOf? c = some cls) (hkind : (w₃.classAt' cls).kind = .view) :
    ComesTo handled (View.render (interpreter n) (.ref c) .none) w₃
      (executeStmt (interpreter (n + 4)) env (.writing line e)) w := by
  have harguments : arguments (interpreter (n + 2)) env (.helper .emit r) {} [.positional e] w₁ =
      .ok { items := [x] } w₂ := by
    rw [arguments, bind_of_ok he]
    rfl
  have hcall : ComesTo handled (View.render (interpreter n) (.ref c) .none) w₃
      (Run.call (interpreter (n + 1)) .emit r { items := [x] }) w₂ :=
    .next (Run.load_eq hrun) (.first (comesTo_emit hc hkind hhook) inferInstance)
  refine .line (.first (.first (.next hname (.next harguments hcall)) inferInstance) fun flow => ?_)
  cases flow <;> infer_instance

/-- Statements come to what one of them comes to. -/
theorem comesTo_block {α : Type} {m : Interpreter} [m.Evolves] {env : Env} {s : Stmt} {y : Action α}
    {v : World} (first rest : Block) (hfirst : executeBlock m env first w = .ok .next u)
    (h : ComesTo handled y v (executeStmt m env s) u) :
    ComesTo handled y v (executeBlock m env (first ++ s :: rest)) w := by
  induction first generalizing w with
  | nil =>
    cases hfirst
    refine .first h fun flow => ?_
    cases flow <;> infer_instance
  | cons t first ih =>
    obtain ⟨flow, w', ht, hfirst⟩ := bind_eq_ok.1 hfirst
    cases flow with
    | next => exact .next ht (ih hfirst)
    | _ => cases hfirst

end

/-! ## Ways through nested renders -/

/-- An exception that the code of a directive has raised. -/
structure Origin where
  /-- The level of the interpreter. -/
  level : Nat
  /-- The name of the template. -/
  template : String
  segment : Segment
  error : Value
  /-- The world in which it has been raised. -/
  world : World

namespace Origin

/-- The text that a fault has for an exception whose own text is known. -/
def errorText (o : Origin) (text : String) : String := o.world.nameOfTypeOf o.error ++ ": " ++ text

/-- The fault for an exception whose own text is known. -/
def fault (o : Origin) (text : String) : Fault :=
  .evaluation (o.errorText text) o.segment.code
    { template := some o.template, line := some o.segment.line }

/-- An exception can be reported: it is a failure, and it has a text unless it passes through. -/
structure IsReported (o : Origin) : Prop where
  failure : o.world.isFailure o.error = true
  text : o.world.passes o.error = false →
    ∃ text u, (interpreter o.level).text o.error o.world = .ok text u

/-- How the exception arrives somewhere on its way. -/
inductive Arrives (o : Origin) (e : Value) (u : World) : Prop
  /-- A fault or a missing template is still the same one. -/
  | unchanged {q : Ref} {x y : ExceptionObject} (hpasses : o.world.passes o.error = true)
      (herror : o.error = .ref q) (he : e = .ref q) (hx : o.world.at' q = .exception x)
      (hy : u.at' q = .exception y) (hxy : x.Evolves y)
  /-- Anything else is one fault, which the template of its directive has made of it. -/
  | wrapped {text : String} {told : World} {y : ExceptionObject} (hpasses : o.world.passes o.error = false)
      (htext : (interpreter o.level).text o.error o.world = .ok text told)
      (he : e = .ref told.objects.size) (hy : u.at' told.objects.size = .exception y)
      (htype : y.type = .fault .evaluation) (hfault : y.fault = some (o.fault text))

variable {o : Origin} {e : Value} {r : Raised} {u u' : World}

theorem IsReported.exists_reports (h : o.IsReported) :
    ∃ r u, Reports (interpreter o.level) o.template o.segment o.error o.world r u := by
  cases hp : o.world.passes o.error with
  | true => exact ⟨_, _, .passed hp⟩
  | false =>
    obtain ⟨text, u, htext⟩ := h.text hp
    exact ⟨_, _, .fault hp htext⟩

theorem IsReported.arrives (h : o.IsReported)
    (hr : Reports (interpreter o.level) o.template o.segment o.error o.world r u) :
    o.Arrives r.value u := by
  cases hr with
  | passed hp =>
    obtain ⟨q, x, hq, hx, -⟩ := exception_of_passes hp h.failure
    exact .unchanged hp hq hq hx hx (.refl x)
  | @fault text told hp ht =>
    exact .wrapped hp ht rfl (at'_push_size told _) rfl rfl
  | textless hp ht =>
    obtain ⟨text, v, htext⟩ := h.text hp
    cases ht.symm.trans htext

/-- What has arrived passes through. -/
theorem Arrives.passes (h : o.Arrives e u) (ho : o.IsReported) :
    u.passes e = true ∧ u.isFailure e = true := by
  cases h with
  | unchanged hp hq he hx hy hxy =>
    obtain ⟨q', x', hq', hx', hp'⟩ := exception_of_passes hp ho.failure
    cases hq.symm.trans hq'
    cases hx.symm.trans hx'
    rw [he]
    exact passes_of_exception hy (hxy.passes_eq.trans hp')
  | wrapped _ _ he hy ht _ =>
    rw [he]
    exact passes_of_exception hy (by rw [ExceptionObject.passes, ht])

/-- What has arrived is there as long as exceptions stay what they are. -/
theorem Arrives.mono (h : o.Arrives e u)
    (hu : ∀ q x, u.at' q = .exception x → ∃ y, u'.at' q = .exception y ∧ x.Evolves y) :
    o.Arrives e u' := by
  cases h with
  | unchanged hp hq he hx hy hxy =>
    obtain ⟨z, hz, hyz⟩ := hu _ _ hy
    exact .unchanged hp hq he hx hz (hxy.trans hyz)
  | wrapped hp ht he hy htype hfault =>
    obtain ⟨z, hz, hyz⟩ := hu _ _ hy
    exact .wrapped hp ht he hz (hyz.type.trans htype) (hyz.fault.trans hfault)

end Origin

/-- No template between a computation and one that it comes to takes away what that one raises, and views
that have failed stay so; the view around is at a stage when it has got through. -/
def LetsPass {α β : Type} (x : Action α) (w : World) (y : Action β) (v : World) (failed : List Ref)
    (around : Ref) : Prop :=
  ∀ e u, Raises y v e u →
    ∃ u', Raises x w e u' ∧ (∀ d ∈ failed, u.Failed d → u'.Failed d) ∧ u'.AtStage around

/-- What is raised where there are no handlers gets through in the world in which it was raised. -/
theorem ComesTo.letsPass {α β : Type} {x : Action α} {y : Action β} {w v : World} {failed : List Ref}
    {around : Ref} (h : ComesTo false y v x w) (hstage : ∀ e u, Raises y v e u → u.AtStage around) :
    LetsPass x w y v failed around :=
  fun e u hy => ⟨u, h.raises hy, fun _ _ hd => hd, hstage e u hy⟩

/-- The way of an exception out of nested renders: from the directive that it comes from through the
directives that embed the views, from the outermost view on. -/
inductive Path : Origin → Nat → Ref → List Ref → Value → World → Prop
  /-- The view's own directive raises it. -/
  | own {n : Nat} {v : Ref} {enc encoding : Value} {w w' w₁ w₂ : World} {a : View.Activity}
      {r : Raised} {name : String} {s : Segment}
      (hbegins : View.Begins (interpreter (n + 1)) (.ref v) enc w encoding w')
      (hreaches : View.Reaches (interpreter (n + 1)) (.ref v) encoding w' a w₁)
      (hraises : a.run (interpreter (n + 1)) w₁ = .error (.raised r) w₂)
      (horigin : a.origin? r = some (name, s))
      (hreported : Origin.IsReported ⟨n + 1, name, s, r.value, w₂⟩)
      (hstage : ∀ r' u, Reports (interpreter (n + 1)) name s r.value w₂ r' u → u.AtStage v) :
      Path ⟨n + 1, name, s, r.value, w₂⟩ (n + 1) v [] enc w
  /-- A directive of the view embeds the view that it leaves. -/
  | embedded {o : Origin} {n k : Nat} {v c : Ref} {inner : List Ref} {enc encoding cenc : Value}
      {w w' w₀ w₁ : World} {a : View.Activity}
      (hbegins : View.Begins (interpreter (n + 1)) (.ref v) enc w encoding w')
      (hreaches : View.Reaches (interpreter (n + 1)) (.ref v) encoding w' a w₁)
      (hcomes : ComesTo true (View.render (interpreter k) (.ref c) cenc) w₀
        (a.run (interpreter (n + 1))) w₁)
      (hchild : Path o k c inner cenc w₀)
      (hpass : LetsPass (a.run (interpreter (n + 1))) w₁ (View.render (interpreter k) (.ref c) cenc) w₀
        (c :: inner) v) :
      Path o (n + 1) v (c :: inner) enc w

theorem Path.isReported {o : Origin} {n : Nat} {v : Ref} {inner : List Ref} {enc : Value} {w : World}
    (h : Path o n v inner enc w) : o.IsReported := by
  induction h with
  | own _ _ _ _ hreported _ => exact hreported
  | embedded _ _ _ _ _ ih => exact ih

/-- An exception of a directive leaves the outermost of the renders around it as one fault of that
directive, or unchanged when it is a fault or a missing template, and every view that it has left on its
way has failed. -/
theorem Path.leaves_outermost_render {o : Origin} {n : Nat} {v : Ref} {inner : List Ref} {enc : Value} {w : World}
    (h : Path o n v inner enc w) :
    ∃ e u, Raises (View.render (interpreter n) (.ref v) enc) w e u ∧ o.Arrives e u ∧
      ∀ d ∈ v :: inner, u.Failed d := by
  induction h with
  | @own n v enc encoding w w' w₁ w₂ a r name s hbegins hreaches hraises horigin hreported hstage =>
    obtain ⟨r', u, hreport⟩ := hreported.exists_reports
    have harrives := hreported.arrives hreport
    have hleaves : a.Leaves (interpreter (n + 1)) r w₂ r'.value u := by
      unfold View.Activity.Leaves
      rw [horigin]
      exact ⟨r', hreport, rfl⟩
    obtain ⟨u₁, hrender, hfails⟩ := View.render_raises hbegins (hreaches.raises hraises hleaves)
      (harrives.passes hreported).2 (hstage r' u hreport)
    refine ⟨_, u₁, hrender, harrives.mono fun q x hx => ⟨x, hfails.exceptions q x hx, .refl x⟩, ?_⟩
    intro d hd
    rw [List.mem_singleton.1 hd]
    exact hfails.failed
  | @embedded o n k v c inner enc encoding cenc w w' w₀ w₁ a hbegins hreaches hcomes hchild hpass ih =>
    obtain ⟨e, u, hrender, harrives, hfailed⟩ := ih
    obtain ⟨u₁, hraises, hstill, hstage⟩ := hpass e u hrender
    have hevolves : u.Evolves u₁ := by
      rw [← hrender.after_eq, ← hraises.after_eq]
      exact hcomes.evolves
    have harrives₁ : o.Arrives e u₁ := harrives.mono fun q x hx => hevolves.exception hx
    obtain ⟨hpasses, hfailure⟩ := harrives₁.passes hchild.isReported
    obtain ⟨line, hraises⟩ := hraises
    have hstages := hreaches.raises hraises (View.Activity.leaves_of_passes hpasses)
    obtain ⟨u₂, hrender₂, hfails⟩ := View.render_raises hbegins hstages hfailure hstage
    refine ⟨e, u₂, hrender₂, harrives₁.mono fun q x hx => ⟨x, hfails.exceptions q x hx, .refl x⟩, ?_⟩
    intro d hd
    rcases List.mem_cons.1 hd with rfl | hd
    · exact hfails.failed
    · exact hfails.others d (hstill d hd (hfailed d hd))

/-! ## Paths that are found -/

namespace World

variable {α : Type}

/-- The value of a computation and the world in which it ends. -/
def ok? (x : Action α) (w : World) : Option { p : α × World // x w = .ok p.1 p.2 } :=
  match x w with
  | .ok a u => some ⟨(a, u), rfl⟩
  | .error _ _ => none

/-- The exception that a computation stops with. -/
def raised? (x : Action α) (w : World) : Option { p : Raised × World // x w = .error (.raised p.1) p.2 } :=
  match x w with
  | .error (.raised r) u => some ⟨(r, u), rfl⟩
  | _ => none

/-- The view that a value is. -/
def view? (w : World) (v : Value) : Option { p : Ref × Nat //
    v = .ref p.1 ∧ w.classOf? p.1 = some p.2 ∧ (w.classAt' p.2).kind = .view } :=
  match v with
  | .ref r =>
    match h : w.classOf? r with
    | some cls => if hk : (w.classAt' cls).kind = .view then some ⟨(r, cls), rfl, h, hk⟩ else none
    | none => none
  | _ => none

/-- The template that a value is. -/
def template? (w : World) (v : Value) :
    Option { p : Ref × Template // v = .ref p.1 ∧ w.at' p.1 = .template p.2 } :=
  match v with
  | .ref r =>
    match h : w.at' r with
    | .template t => some ⟨(r, t), rfl, h⟩
    | _ => none
  | _ => none

/-- The run that a value writes for. -/
def writer? (w : World) (v : Value) :
    Option { p : Ref × Run // v = .helper .emit p.1 ∧ w.at' p.1 = .run p.2 } :=
  match v with
  | .helper .emit r =>
    match h : w.at' r with
    | .run x => some ⟨(r, x), rfl, h⟩
    | _ => none
  | _ => none

/-- The plain directive that a script is. -/
def written? (b : Block) : Option { p : Nat × Expr // b = [.writing p.1 p.2] } :=
  match b with
  | [.at line (.expr (.call (.name f) [.positional e]))] =>
    if h : f = "_tpl_emit" then some ⟨(line, e), by rw [h]; rfl⟩ else none
  | _ => none

/-- Evidence that something which can be checked holds. -/
def check? (b : Bool) : Option (PLift (b = true)) := if h : b = true then some ⟨h⟩ else none

end World

namespace View

/-- The beginning of a render, if it gets to its stages. -/
def begun? (m : Interpreter) (v enc : Value) (w : World) :
    Option { p : Value × World // Begins m v enc w p.1 p.2 } := do
  let ⟨(encoding, w₁), hencoding⟩ ← w.ok? (encodingFor m v enc)
  let ⟨(bundle, w₂), hbundle⟩ ← w₁.ok? (startBundle m v)
  return ⟨(encoding, w₂.withEnclosing (reference? bundle)), ⟨w₁, bundle, w₂, hencoding, hbundle, rfl⟩⟩

variable (m : Interpreter) [m.Evolves] (v encoding : Value) (w : World)

/-- The script of the content, if the stages of a render get to it. -/
def script? : Option { p : Template × Ref × World //
    Reaches m v encoding w (.script p.1 p.2.1) p.2.2 } := do
  let ⟨(x, w₁), hload⟩ ← (w.push (.pass #[])).ok? (loadContent m v encoding)
  let ⟨((), w₂), hgoes⟩ ← w₁.ok? (transition m v .contentExecuting)
  let ⟨(_, t), hx, ht⟩ ← w₂.template? x
  let ⟨(run, w₃), hstart⟩ ← w₂.ok? (Template.startRun m t v (some w.objects.size) .none [])
  return ⟨(t, run.globals, w₃), .script (comesTo_content (hx ▸ hload) hgoes ht) hstart⟩

/-- The first deferred expression of a render, if it has a turn. -/
def turn? : Option { p : Binding × World // HasTurn m v encoding w p.1 p.2 } := do
  let ⟨(content, w₁), hcontent⟩ ← (w.push (.pass #[])).ok? (runContent m v encoding w.objects.size)
  let ⟨(_, w₂), hlayout⟩ ← w₁.ok? (runLayout m v encoding w.objects.size content)
  let ⟨((), w₃), hgoes⟩ ← w₂.ok? (transition m v .deferredResolution)
  let u := RenderPass.announced w.objects.size w₃
  if hk : 0 < m.rounds then
    match hb : (u.at' (w.objects.size : Nat)).bindings[0]? with
    | none => none
    | some b =>
      match hx : u.at' b with
      | .binding x =>
        if hp : x.resolved = false then
          return ⟨(x, u), ⟨_, _, _, 0, b, comesTo_resolution hcontent hlayout hgoes, .none 0 u, hk, hb, hx⟩, hp⟩
        else none
      | _ => none
  else none

end View

namespace Path

section

variable {n v c : Nat} {inner : List Ref} {enc encoding : Value} {w w' w₀ w₁ w₂ : World} {o : Origin}
  {t : Template} {globals : Ref} {a : View.Activity}

/-- What the script of a view raises begins its way there. -/
theorem of_script {r : Raised} {text : String} {x : Value} {u u' : World}
    (hbegins : View.Begins (interpreter (n + 1)) (.ref v) enc w encoding w')
    (hreaches : View.Reaches (interpreter (n + 1)) (.ref v) encoding w' (.script t globals) w₁)
    (hraises : (View.Activity.script t globals).run (interpreter (n + 1)) w₁ = .error (.raised r) w₂)
    (htext : (interpreter (n + 1)).text r.value w₂ = .ok text u)
    (hreport : evaluationFault (interpreter (n + 1)) t.name (t.blamed r) r.value w₂ = .ok x u')
    (hfailure : w₂.isFailure r.value = true) (hpasses : w₂.passes r.value = false)
    (hstage : u'.AtStage v) :
    Path ⟨n + 1, t.name, t.blamed r, r.value, w₂⟩ (n + 1) v [] enc w := by
  refine .own hbegins hreaches hraises rfl ⟨hfailure, fun _ => ⟨text, u, htext⟩⟩ ?_
  intro r' u'' hr
  cases hr with
  | passed h => cases h.symm.trans hpasses
  | fault _ ht =>
    cases (evaluationFault_of_ok ht).symm.trans hreport
    exact hstage
  | textless _ ht => cases ht.symm.trans htext

/-- An exception goes on through a directive with no handlers around the view that it embeds. -/
theorem of_comesTo {k : Nat} {r : Raised} {u : World}
    (hbegins : View.Begins (interpreter (n + 1)) (.ref v) enc w encoding w')
    (hreaches : View.Reaches (interpreter (n + 1)) (.ref v) encoding w' a w₁)
    (hcomes : ∀ handled, ComesTo handled (View.render (interpreter k) (.ref c) .none) w₀
      (a.run (interpreter (n + 1))) w₁)
    (hchild : Path o k c inner .none w₀)
    (hraises : View.render (interpreter k) (.ref c) .none w₀ = .error (.raised r) u)
    (hstage : u.AtStage v) : Path o (n + 1) v (c :: inner) enc w := by
  refine .embedded hbegins hreaches (hcomes true) hchild ((hcomes false).letsPass fun e u' h => ?_)
  obtain ⟨-, rfl⟩ := h.unique (.of_error hraises)
  exact hstage

end

/-- A way out of nested renders with what begins it and the views inside of the outermost one. -/
def Found (n : Nat) (v : Ref) (enc : Value) (w : World) : Type :=
  { p : Origin × List Ref // Path p.1 n v p.2 enc w }

variable (n : Nat) (v : Ref) (enc : Value) (w : World)

/-- The way of an exception that the content script of a view raises. -/
def own? : Option (Found (n + 1) v enc w) := do
  let m := interpreter (n + 1)
  let ⟨(encoding, w'), hbegins⟩ ← View.begun? m (.ref v) enc w
  let ⟨(t, globals, w₁), hreaches⟩ ← View.script? m (.ref v) encoding w'
  let ⟨(r, w₂), hraises⟩ ← w₁.raised? ((View.Activity.script t globals).run m)
  let ⟨(_, _), htext⟩ ← w₂.ok? (m.text r.value)
  let ⟨(_, u), hreport⟩ ← w₂.ok? (evaluationFault m t.name (t.blamed r) r.value)
  let ⟨hfailure⟩ ← World.check? (w₂.isFailure r.value)
  let ⟨hpasses⟩ ← World.check? (!w₂.passes r.value)
  let ⟨hstage⟩ ← World.check? (u.atStage? v)
  return ⟨(⟨n + 1, t.name, t.blamed r, r.value, w₂⟩, []),
    of_script hbegins hreaches hraises htext hreport hfailure (Bool.not_eq_true' _ ▸ hpasses)
      (World.atStage_of_atStage? hstage)⟩

/-- The way through the plain directive that a view consists of. -/
def plain? (child : (c : Ref) → (w₀ : World) → Option (Found n c .none w₀)) :
    Option (Found (n + 5) v enc w) := do
  let m := interpreter (n + 5)
  let ⟨(encoding, w'), hbegins⟩ ← View.begun? m (.ref v) enc w
  let ⟨(t, globals, w₁), hreaches⟩ ← View.script? m (.ref v) encoding w'
  let ⟨(line, e), hscript⟩ ← World.written? t.script
  let ⟨(f, w₂), hname⟩ ← w₁.ok? ((interpreter (n + 2)).evaluate { globals } (.name "_tpl_emit"))
  let ⟨(x, w₃), he⟩ ← w₂.ok? ((interpreter (n + 2)).evaluate { globals } e)
  let ⟨(r, run), hf, hrun⟩ ← w₃.writer? f
  let ⟨(y, w₄), hhook⟩ ← w₃.ok? (run.hooked (interpreter (n + 1)) x)
  let ⟨(c, cls), hy, hc, hkind⟩ ← w₄.view? y
  let ⟨(o, inner), hchild⟩ ← child c w₄
  let ⟨(_, u), hraises⟩ ← w₄.raised? (View.render (interpreter n) (.ref c) .none)
  let ⟨hstage⟩ ← World.check? (u.atStage? v)
  have hcomes (handled : Bool) : ComesTo handled (View.render (interpreter n) (.ref c) .none) w₄
      ((View.Activity.script t globals).run m) w₁ := by
    refine .first ?_ inferInstance
    rw [hscript]
    exact comesTo_block [] [] rfl (comesTo_writing (hf ▸ hname) he hrun (hy ▸ hhook) hc hkind)
  return ⟨(o, c :: inner), of_comesTo hbegins hreaches hcomes hchild hraises
    (World.atStage_of_atStage? hstage)⟩

/-- The way through the first deferred directive of a view. -/
def deferred? (child : (c : Ref) → (w₀ : World) → Option (Found n c .none w₀)) :
    Option (Found (n + 1) v enc w) := do
  let m := interpreter (n + 1)
  let ⟨(encoding, w'), hbegins⟩ ← View.begun? m (.ref v) enc w
  let ⟨(x, w₁), hturn⟩ ← View.turn? m (.ref v) encoding w'
  let ⟨(y, w₂), hcode⟩ ← w₁.ok? (m.evaluate { globals := x.globals } x.code)
  let ⟨(c, _), hy, hc, hkind⟩ ← w₂.view? y
  let ⟨(o, inner), hchild⟩ ← child c w₂
  let ⟨(_, u), hraises⟩ ← w₂.raised? (View.render (interpreter n) (.ref c) .none)
  let ⟨hstage⟩ ← World.check? (u.atStage? v)
  return ⟨(o, c :: inner), of_comesTo hbegins (.value hturn (hy ▸ hcode))
    (fun _ => comesTo_shown hc hkind) hchild hraises (World.atStage_of_atStage? hstage)⟩

end Path

/-- A page that embeds a card, which embeds a note, each with the template that is given for it. -/
def nestedViews (page card note : String) : World := World.after (do
  ContextClass.setUp
  modify fun w => { w with files := sourceFiles [("page", page), ("card", card), ("note", note)] }
  let inner ← View.create machine (← defineView "Note" "note" []) {}
  let kid ← View.create machine (← defineView "Card" "card" []) { named := [("kid", inner)] }
  let _ ← View.create machine (← defineView "Page" "page" []) { named := [("kid", kid)] }) {}

/-- A note that divides by zero on its second line, below a plain directive and a deferred one. -/
def brokenNote : World := nestedViews "<%= kid %>" "<%-> kid %>" "note\n<%= 1 / 0 %>"

/-- The way from the note through the card and the page. -/
def brokenNotePath? : Option (Path.Found 6000 32 .none brokenNote) :=
  Path.plain? 5995 32 .none brokenNote fun c w =>
    Path.deferred? 5994 c .none w fun c w => Path.own? 5993 c .none w

theorem brokenNote_checks : brokenNotePath?.any (fun p =>
    p.1.1.template == "templates/note.html.tpl" && p.1.1.segment.code == " 1 / 0 " &&
      p.1.1.segment.line == 2 && p.1.2 == [20, 8]) = true := by
  decide +kernel

/-- The page stops with the fault of the note's directive, and all three views have failed. -/
theorem brokenNote_fails_page : ∃ o : Origin, o.template = "templates/note.html.tpl" ∧
    o.segment.code = " 1 / 0 " ∧ o.segment.line = 2 ∧ ∃ e u,
      Raises (View.render (interpreter 6000) (.ref 32) .none) brokenNote e u ∧ o.Arrives e u ∧
        ∀ d ∈ [32, 20, 8], u.Failed d := by
  obtain ⟨hsome, h⟩ := (Option.any_eq_true_iff_get _ _).1 brokenNote_checks
  generalize brokenNotePath?.get hsome = found at h
  obtain ⟨⟨o, inner⟩, hpath⟩ := found
  simp only [Bool.and_eq_true, beq_iff_eq] at h
  obtain ⟨⟨⟨htemplate, hcode⟩, hline⟩, rfl⟩ := h
  exact ⟨o, htemplate, hcode, hline, hpath.leaves_outermost_render⟩

/-- What the page of nested views stops with: the type, the place that a fault knows, and whether the page,
the card and the note have failed. -/
def nestedStop (w : World) : Option (String × Option Place × List Bool) :=
  match View.render machine (.ref 32) .none w with
  | .error (.raised r) u =>
    let place := match u.value? (exception? r.value) with
      | some (some x) => x.fault.map (·.place)
      | _ => none
    let failed (v : Ref) := match u.own? v "stage" with
      | some (.stage .failed) => true
      | _ => false
    some (u.nameOfTypeOf r.value, place, [failed 32, failed 20, failed 8])
  | _ => none

/-- What is no failure is not reported, and no view fails with it. An exception without a text gives way to
the one that its text raises, and a view whose stage has been replaced cannot fail, so that another
exception leaves its render: the page reports these as its own. -/
theorem not_every_stop_is_reported :
    nestedStop (nestedViews "<%= kid %>" "<%-> kid %>" "<% raise SystemExit %>") =
        some ("SystemExit", none, [false, false, false]) ∧
      nestedStop (nestedViews "<%= kid %>" "<%-> kid %>" "<% setattr(self, 'stage', 5) %><%= 1 / 0 %>") =
        some ("EvaluationFault", some { template := some "templates/page.html.tpl", line := some 1 },
          [true, true, false]) ∧
      nestedStop (nestedViews "<%= kid %>" "<%-> kid %>" "<% raise ValueError(10 ** 5000) %>") =
        some ("EvaluationFault", some { template := some "templates/page.html.tpl", line := some 1 },
          [true, true, true]) := by
  decide +kernel

end Stencil
