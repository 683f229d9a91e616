import Stencil.Proofs.Failures
import Stencil.Proofs.HeadTags

/-!
# What a render comes to

How an exception gets from where it is raised to the outside of a render. A computation comes to another
one when it begins it after some of its steps; what the other one raises leaves it too, unless a handler
is in between. A render comes to the scripts of its content and its layout, to the code of each deferred
expression, and to the text of each value that a deferred expression has.
-/

namespace Stencil

open World Evaluation

section

variable {α β : Type} {w u v : World} {e : Value}

/-- A computation stops with an exception, on whatever line. -/
def Raises (x : Action α) (w : World) (e : Value) (u : World) : Prop :=
  ∃ line, x w = .error (.raised { value := e, line }) u

theorem Raises.of_error {x : Action α} {r : Raised} (h : x w = .error (.raised r) u) :
    Raises x w r.value u := ⟨r.line, h⟩

theorem Raises.bind {x : Action α} {f : α → Action β} (h : Raises x w e u) : Raises (x >>= f) w e u := by
  obtain ⟨line, h⟩ := h
  exact ⟨line, bind_of_error h⟩

theorem Raises.next {x : Action α} {f : α → Action β} {a : α} (hx : x w = .ok a v)
    (h : Raises (f a) v e u) : Raises (x >>= f) w e u := by
  obtain ⟨line, h⟩ := h
  exact ⟨line, (bind_of_ok hx).trans h⟩

theorem Raises.onLine {env : Env} {line : Nat} {x : Action α} (h : Raises x w e u) :
    Raises (onLine env line x) w e u := by
  obtain ⟨l, h⟩ := h
  unfold Evaluation.onLine
  split
  · rw [Raises, bind_of_ok (attempt_of_error h)]
    exact ⟨_, rfl⟩
  · exact ⟨l, h⟩

/-- An exception leaves a computation in one way. -/
theorem Raises.unique {x : Action α} {e' : Value} {u' : World} (h : Raises x w e u)
    (h' : Raises x w e' u') : e = e' ∧ u = u' := by
  obtain ⟨_, h⟩ := h
  obtain ⟨_, h'⟩ := h'
  cases h.symm.trans h'
  exact ⟨rfl, rfl⟩

/-- A computation comes to another one, after steps that succeed. With `handled` the other one may stand
inside of something that takes its exceptions as values. -/
inductive ComesTo (handled : Bool) (y : Action β) (v : World) : {α : Type} → Action α → World → Prop
  | here : ComesTo handled y v y v
  | first {α γ : Type} {x : Action α} {f : α → Action γ} {w : World} (h : ComesTo handled y v x w)
      (hf : ∀ a, Evolving (f a)) : ComesTo handled y v (x >>= f) w
  | next {α γ : Type} {x : Action α} {f : α → Action γ} {a : α} {w u : World} (hx : x w = .ok a u)
      (h : ComesTo handled y v (f a) u) : ComesTo handled y v (x >>= f) w
  | line {α : Type} {env : Env} {line : Nat} {x : Action α} {w : World}
      (h : ComesTo handled y v x w) : ComesTo handled y v (onLine env line x) w
  | attempt {α : Type} {x : Action α} {w : World} (hh : handled = true)
      (h : ComesTo handled y v x w) : ComesTo handled y v (attempt x) w

namespace ComesTo

variable {handled : Bool} {x : Action α} {y : Action β}

/-- Without handlers in between, what a computation comes to raises its exceptions for it. -/
theorem raises (h : ComesTo false y v x w) (hy : Raises y v e u) : Raises x w e u := by
  induction h with
  | here => exact hy
  | first _ _ ih => exact ih.bind
  | next hx _ ih => exact .next hx ih
  | line _ ih => exact ih.onLine
  | attempt hh _ _ => cases hh

theorem after_onLine (env : Env) (line : Nat) (x : Action α) (w : World) :
    w.after (onLine env line x) = w.after x := by
  unfold Evaluation.onLine
  split
  · cases hx : x w with
    | ok a u => rw [after_bind_of_ok (attempt_of_ok hx), after_of_ok hx]; rfl
    | error s u =>
      rw [after_bind_of_ok (attempt_of_error hx), after_of_error hx]
      cases s <;> rfl
  · rfl

/-- The world evolves from where the other computation ends to where the whole one does. -/
theorem evolves (h : ComesTo handled y v x w) : (v.after y).Evolves (w.after x) := by
  induction h with
  | here => exact .refl _
  | @first _ _ x f w _ hf ih =>
    cases hx : x w with
    | ok a u =>
      rw [after_of_ok hx] at ih
      rw [after_bind_of_ok hx]
      exact ih.trans ((hf a).evolves u)
    | error s u =>
      rw [after_of_error hx] at ih
      rwa [after_bind_of_error hx]
  | next hx _ ih => rwa [after_bind_of_ok hx]
  | line _ ih => rwa [after_onLine]
  | @attempt _ x w _ _ ih =>
    have hafter : w.after (World.attempt x) = w.after x := by
      cases hx : x w with
      | ok a u => rw [after_of_ok (attempt_of_ok hx), after_of_ok hx]
      | error s u => rw [after_of_ok (attempt_of_error hx), after_of_error hx]
    rwa [hafter]

end ComesTo

theorem Raises.after_eq {x : Action α} (h : Raises x w e u) : w.after x = u := by
  obtain ⟨_, h⟩ := h
  exact after_of_error h

end

/-! ## Exceptions that pass through -/

/-- Whether an exception leaves templates as it is because of its type. -/
def ExceptionObject.passes (x : ExceptionObject) : Bool :=
  match x.type with
  | .fault _ => true
  | .exception "TemplateNotFound" => true
  | _ => false

namespace World

variable {w u : World} {e : Value} {q : Nat} {x : ExceptionObject}

/-- Whether a value is a failure: an exception below the common root. -/
def isFailure (w : World) (e : Value) : Bool :=
  (w.value? (isInstance e (.exception "Exception"))).getD false

theorem isInstance_eq (w : World) (e : Value) :
    isInstance e (.exception "Exception") w = .ok (w.isFailure e) w := by
  obtain ⟨b, hb⟩ := Looking.looks (x := isInstance e (.exception "Exception")) w
  rw [hb, isFailure, (World.of_ok hb).1, Option.getD_some]

theorem typeOf_exception (hx : w.at' q = .exception x) : typeOf (.ref q) w = .ok x.type w := by
  unfold typeOf
  dsimp only
  rw [bind_of_ok (load_ok w q), hx]
  rfl

/-- Only exceptions have a type of exceptions. -/
theorem exception_of_typeOf {t : TypeRef} (h : typeOf e w = .ok t w) (ht : isExceptionType t = true) :
    ∃ q x, e = .ref q ∧ w.at' q = .exception x ∧ x.type = t := by
  have hplain {s : String} {v : World} (h : (pure (.plain s) : Action TypeRef) v = .ok t w) : False := by
    cases h
    cases ht
  cases e with
  | ref q =>
    unfold typeOf at h
    dsimp only at h
    rw [bind_of_ok (load_ok w q)] at h
    cases hq : w.at' q with
    | exception x =>
      rw [hq] at h
      cases h
      exact ⟨q, x, rfl, hq, rfl⟩
    | «instance» | assets =>
      rw [hq] at h
      cases h
      cases ht
    | _ =>
      rw [hq] at h
      dsimp only at h
      obtain ⟨s, v, -, h⟩ := bind_eq_ok.1 h
      exact (hplain h).elim
  | type s =>
    cases s <;> exact (hplain h).elim
  | method self name =>
    cases self with
    | ref q =>
      unfold typeOf at h
      dsimp only at h
      rw [bind_of_ok (load_ok w q)] at h
      generalize w.at' q = o at h
      cases o <;> exact (hplain h).elim
    | _ => exact (hplain h).elim
  | _ => exact (hplain h).elim

/-- An exception with the type of a fault or of a missing template passes through. -/
theorem passes_of_exception (hx : w.at' q = .exception x) (hp : x.passes = true) :
    w.passes (.ref q) = true ∧ w.isFailure (.ref q) = true := by
  have hpasses := w.passesThrough_eq (.ref q)
  have hfailure := w.isInstance_eq (.ref q)
  unfold passesThrough at hpasses
  unfold isInstance at hfailure
  rw [bind_of_ok (typeOf_exception hx)] at hpasses hfailure
  generalize w.passes (.ref q) = passes at hpasses ⊢
  generalize w.isFailure (.ref q) = failure at hfailure ⊢
  unfold ExceptionObject.passes at hp
  generalize x.type = t at hp hpasses hfailure
  split at hp
  · cases hpasses
    cases hfailure
    exact ⟨rfl, rfl⟩
  · cases hpasses
    cases hfailure
    exact ⟨rfl, rfl⟩
  · cases hp

/-- A failure that passes through is an exception with such a type. -/
theorem exception_of_passes (hp : w.passes e = true) (hf : w.isFailure e = true) :
    ∃ q x, e = .ref q ∧ w.at' q = .exception x ∧ x.passes = true := by
  obtain ⟨t, ht⟩ := Looking.looks (x := typeOf e) w
  have hpasses := w.passesThrough_eq e
  have hfailure := w.isInstance_eq e
  unfold passesThrough at hpasses
  unfold isInstance at hfailure
  rw [bind_of_ok ht] at hpasses hfailure
  rw [hp] at hpasses
  rw [hf] at hfailure
  split at hpasses
  · obtain ⟨q, x, rfl, hx, hxt⟩ := exception_of_typeOf ht rfl
    exact ⟨q, x, rfl, hx, by rw [ExceptionObject.passes, hxt]⟩
  · obtain ⟨q, x, rfl, hx, hxt⟩ := exception_of_typeOf ht rfl
    exact ⟨q, x, rfl, hx, by rw [ExceptionObject.passes, hxt]; rfl⟩
  · rw [bind_of_ok hfailure] at hpasses
    cases hpasses

theorem lt_size_of_exception (h : w.at' q = .exception x) : q < w.objects.size := by
  refine Nat.lt_of_not_le fun hle => ?_
  rw [at'_of_size_le hle] at h
  cases h

theorem Evolves.exception (h : w.Evolves u) (hx : w.at' q = .exception x) :
    ∃ y, u.at' q = .exception y ∧ x.Evolves y :=
  (h.objects q (lt_size_of_exception hx)).exception x hx

end World

theorem ExceptionObject.Evolves.passes_eq {x y : ExceptionObject} (h : x.Evolves y) :
    y.passes = x.passes := by
  rw [ExceptionObject.passes, ExceptionObject.passes, h.type]

/-! ## Failed views -/

namespace World

/-- A view has failed. -/
def Failed (w : World) (v : Ref) : Prop := w.own? v "stage" = some (.stage .failed)

/-- A view has failed from one world to another; other views that have failed stay so, and exceptions
stay the same. -/
structure Fails (w : World) (v : Ref) (u : World) : Prop where
  failed : u.Failed v
  others : ∀ d, w.Failed d → u.Failed d
  exceptions : ∀ q x, w.at' q = .exception x → u.at' q = .exception x

theorem Fails.withEnclosing {w u : World} {v : Ref} (h : w.Fails v u) (bundle : Option Ref) :
    w.Fails v (u.withEnclosing bundle) :=
  ⟨h.failed, h.others, h.exceptions⟩

end World

section

variable {n v : Nat} {w u : World}

theorem exists_setAttribute {cls : Nat} {name : String} {x : Value} (hv : w.classOf? v = some cls)
    (hclass : ∀ p, w.classValue cls name ≠ some (.property p)) :
    ∃ u, setAttribute (.ref v) name x w = .ok () u := by
  obtain ⟨attrs, hat⟩ := World.classOf?_eq_some hv
  unfold setAttribute
  rw [bind_of_ok (object?_ref w v), hat]
  dsimp only
  rw [bind_of_ok (classAttribute?_eq w cls name)]
  generalize w.classValue cls name = found at hclass
  split
  · exact absurd rfl (hclass _)
  · exact ⟨_, rfl⟩

theorem World.AtStage.exists_classOf (hs : w.AtStage v) : ∃ cls, w.classOf? v = some cls := by
  obtain ⟨⟨now, hown⟩, -⟩ := hs
  unfold World.own? at hown
  unfold World.classOf?
  cases hat : w.at' v <;> rw [hat] at hown <;> first | exact ⟨_, rfl⟩ | cases hown

/-- A view that is at a stage can go on to another one. -/
theorem exists_transition (stage : Stage) (hs : w.AtStage v) :
    ∃ u, View.transition (interpreter (n + 1)) (.ref v) stage w = .ok () u := by
  obtain ⟨cls, hcls⟩ := hs.exists_classOf
  obtain ⟨⟨now, hown⟩, hclass⟩ := hs
  obtain ⟨attrs, hat⟩ := World.classOf?_eq_some hcls
  rw [World.own?_eq hat] at hown
  have hread : (interpreter (n + 1)).attributeOf (.ref v) "stage" w = .ok (.stage now) w := by
    rw [attributeOf_succ, readAttribute_instance hat (.inl (by simp [IsPlainName])),
      contextAttribute_own (hclass cls hcls) hown]
  have hvalue : (interpreter (n + 1)).attributeOf (.stage now) "value" w = .ok (.str now.name) w := rfl
  have htext : (interpreter (n + 1)).text (.str now.name) w = .ok now.name w := rfl
  let logged : World := { w with log := w.log.push ("viewer.views",
    w.nameOfTypeOf (.ref v) ++ ": " ++ now.name ++ " -> " ++ stage.name) }
  have hlogged : ∀ p, logged.classValue cls "stage" ≠ some (.property p) := fun p => by
    rw [World.classValue_congr (w := w) (u := logged) rfl]
    exact hclass cls hcls p
  obtain ⟨u, hu⟩ := exists_setAttribute (w := logged) (x := .stage stage) hcls hlogged
  refine ⟨u, ?_⟩
  unfold View.transition
  rw [bind_of_ok hread, bind_of_ok hvalue, bind_of_ok (w.typeName_eq (.ref v)), bind_of_ok htext]
  exact hu

/-- Marking a view as failed keeps exceptions, and other views that have failed. -/
theorem transition_fails (hs : w.AtStage v)
    (h : View.transition (interpreter n) (.ref v) .failed w = .ok () u) : w.Fails v u := by
  obtain ⟨cls, hcls⟩ := hs.exists_classOf
  obtain ⟨log, hset⟩ := transition_eq_ok hs hcls h
  obtain ⟨hchanges, -, hown⟩ := setAttribute_eq_ok (w := { w with log }) hcls hset
  refine ⟨by rw [World.Failed, hown, if_pos ⟨rfl, rfl⟩], fun d hd => ?_, fun q x hx => ?_⟩
  · rw [World.Failed, hown]
    split
    · rfl
    · exact hd
  · rw [hchanges.same q (World.lt_size_of_exception hx) ?_]
    · exact hx
    · rintro hq
      rw [List.mem_singleton.1 hq] at hx
      rw [World.classOf?, hx] at hcls
      cases hcls

end

/-! ## Renders that stop -/

namespace View

/-- A render begins: it has an encoding, its view has a bundle, and renders in it give their assets to
that bundle. -/
structure Begins (m : Interpreter) (v enc : Value) (w : World) (encoding : Value) (u : World) :
    Prop where
  begins : ∃ w₁ bundle w₂, encodingFor m v enc w = .ok encoding w₁ ∧
    startBundle m v w₁ = .ok bundle w₂ ∧ u = w₂.withEnclosing (reference? bundle)

variable {n v : Nat} {enc encoding e : Value} {w w' u : World}

theorem enclosedBy_of_error {α : Type} {x : Action α} {bundle : Option Ref} {s : Stop}
    (h : x (w.withEnclosing bundle) = .error s u) :
    enclosedBy bundle x w = .error s (u.withEnclosing w.enclosing) := by
  have hget : (get : Action World) w = .ok w w := rfl
  have hmodify : (modify fun w => { w with enclosing := bundle } : Action Unit) w =
      .ok () (w.withEnclosing bundle) := rfl
  unfold enclosedBy
  rw [bind_of_ok hget, bind_of_ok hmodify, bind_of_ok (attempt_of_error h)]
  rfl

/-- A failure in the stages of a render leaves the render, and its view has failed. -/
theorem render_raises (hb : Begins (interpreter (n + 1)) (.ref v) enc w encoding w')
    (h : Raises (renderStages (interpreter (n + 1)) (.ref v) encoding) w' e u)
    (he : u.isFailure e = true) (hs : u.AtStage v) :
    ∃ u', Raises (render (interpreter (n + 1)) (.ref v) enc) w e u' ∧ u.Fails v u' := by
  obtain ⟨w₁, bundle, w₂, hencoding, hbundle, rfl⟩ := hb.begins
  obtain ⟨line, h⟩ := h
  obtain ⟨u', hfailed⟩ := exists_transition (n := n) .failed hs
  have hguarded : renderGuarded (interpreter (n + 1)) (.ref v) encoding
      (w₂.withEnclosing (reference? bundle)) = .error (.raised { value := e, line }) u' := by
    unfold renderGuarded
    rw [bind_of_ok (attempt_of_error h)]
    dsimp only
    rw [bind_of_ok (u.isInstance_eq e), he, if_pos rfl, bind_of_ok hfailed]
    rfl
  refine ⟨u'.withEnclosing w₂.enclosing, ⟨line, ?_⟩, (transition_fails hs hfailed).withEnclosing _⟩
  have hget : (get : Action World) w₁ = .ok w₁ w₁ := rfl
  unfold render
  rw [bind_of_ok hencoding, bind_of_ok hget, bind_of_ok hbundle,
    bind_of_error (enclosedBy_of_error hguarded)]

/-! ## What the stages come to -/

/-- What runs in the stages of a render and may raise an exception. -/
inductive Activity where
  /-- The script of a template. -/
  | script (t : Template) (globals : Ref)
  /-- The code of a deferred expression. -/
  | expression (x : Binding)
  /-- The text of the value of a deferred expression. -/
  | value (v : Value)

namespace Activity

/-- Do what is to be done. -/
def run (m : Interpreter) : Activity → Action Unit
  | .script t globals => do let _ ← m.execute { globals } t.script
  | .expression x => do let _ ← m.evaluate { globals := x.globals } x.code
  | .value v => do let _ ← Binding.shown m v

/-- The template and the segment that an exception of an activity is reported with. -/
def origin? (r : Raised) : Activity → Option (String × Segment)
  | .script t _ => some (t.name, t.blamed r)
  | .expression x => some (x.templateName, x.segment)
  | .value _ => none

/-- How an exception of an activity leaves the stages, and in which world. -/
def Leaves (m : Interpreter) (a : Activity) (r : Raised) (w : World) (e : Value) (u : World) : Prop :=
  match a.origin? r with
  | some (name, s) => ∃ r', Reports m name s r.value w r' u ∧ r'.value = e
  | none => r.value = e ∧ w = u

instance evolving_run (m : Interpreter) [m.Evolves] (a : Activity) : Evolving (a.run m) := by
  have hshown (v : Value) : Evolving (Binding.shown m v) := by
    unfold Binding.shown
    split <;> infer_instance
  cases a <;> (unfold run; infer_instance)

/-- What passes through leaves the stages as it is. -/
theorem leaves_of_passes {m : Interpreter} {a : Activity} {r : Raised} (h : w.passes r.value = true) :
    a.Leaves m r w r.value w := by
  unfold Leaves
  split
  · exact ⟨_, .passed h, rfl⟩
  · exact ⟨rfl, rfl⟩

end Activity

/-- A deferred expression has its turn in the stages of a render. -/
structure HasTurn (m : Interpreter) (v enc : Value) (w : World) (x : Binding) (u : World) : Prop where
  turn : ∃ p fragment w₁ k b, ComesTo false (RenderPass.resolve m p fragment) w₁ (renderStages m v enc) w ∧
    RenderPass.Turns m p 0 (RenderPass.announced p w₁) k u ∧ k < m.rounds ∧
    (u.at' p).bindings[k]? = some b ∧ u.at' b = .binding x
  pending : x.resolved = false

/-- The stages of a render come to an activity. -/
inductive Reaches (m : Interpreter) (v enc : Value) (w : World) : Activity → World → Prop
  | script {t : Template} {p : Option Ref} {inner : Value} {run : Run} {u w₁ : World}
      (h : ComesTo false (Template.execute m t v p inner []) w₁ (renderStages m v enc) w)
      (hstart : Template.startRun m t v p inner [] w₁ = .ok run u) :
      Reaches m v enc w (.script t run.globals) u
  | expression {x : Binding} {u : World} (h : HasTurn m v enc w x u) : Reaches m v enc w (.expression x) u
  | value {x : Binding} {y : Value} {w₁ u : World} (h : HasTurn m v enc w x w₁)
      (hcode : m.evaluate { globals := x.globals } x.code w₁ = .ok y u) :
      Reaches m v enc w (.value y) u

section

variable {m : Interpreter} [m.Evolves] {self path : Value} {q : Ref} {t : Template}
  {w₁ w₂ w₃ w₄ w₅ w₆ : World} {content fragment : Ref}

/-- The stages of a render come to the content template. -/
theorem comesTo_content
    (hload : loadContent m self encoding (w.push (.pass #[])) = .ok (.ref q) w₁)
    (hgoes : transition m self .contentExecuting w₁ = .ok () w₂) (ht : w₂.at' q = .template t) :
    ComesTo false (Template.execute m t self (some w.objects.size) .none []) w₂
      (renderStages m self encoding) w := by
  have halloc : alloc (.pass #[]) w = .ok w.objects.size (w.push (.pass #[])) := rfl
  have hobject : object? (.ref q) w₂ = .ok (some (.template t)) w₂ := by rw [object?_ref, ht]
  exact .next halloc (.first (.next hload (.next hgoes (.next hobject .here))) inferInstance)

/-- The stages of a render come to the layout, when there is one. -/
theorem comesTo_layout
    (hcontent : runContent m self encoding w.objects.size (w.push (.pass #[])) = .ok content w₁)
    (hpath : m.attributeOf self "layout_path" w₁ = .ok path w₂) (htrue : truth path w₂ = .ok true w₃)
    (hgoes : transition m self .layoutCompiling w₃ = .ok () w₄)
    (hload : loadLayout? m self encoding path w₄ = .ok (some (.ref q)) w₅)
    (hgoes' : transition m self .layoutExecuting w₅ = .ok () w₆) (ht : w₆.at' q = .template t) :
    ComesTo false (Template.execute m t self (some w.objects.size) (.ref content) []) w₆
      (renderStages m self encoding) w := by
  have halloc : alloc (.pass #[]) w = .ok w.objects.size (w.push (.pass #[])) := rfl
  have hobject : object? (.ref q) w₆ = .ok (some (.template t)) w₆ := by rw [object?_ref, ht]
  have hwrap : ComesTo false (Template.execute m t self (some w.objects.size) (.ref content) []) w₆
      (wrapInLayout m self encoding path w.objects.size content) w₃ :=
    .next hgoes (.next (attempt_of_ok hload) (.next hgoes' (.next hobject .here)))
  exact .next halloc (.next hcontent (.first (.next hpath (.next htrue hwrap)) inferInstance))

/-- The stages of a render come to the resolution of what the content and the layout have deferred. -/
theorem comesTo_resolution
    (hcontent : runContent m self encoding w.objects.size (w.push (.pass #[])) = .ok content w₁)
    (hlayout : runLayout m self encoding w.objects.size content w₁ = .ok fragment w₂)
    (hgoes : transition m self .deferredResolution w₂ = .ok () w₃) :
    ComesTo false (RenderPass.resolve m w.objects.size fragment) w₃ (renderStages m self encoding) w := by
  have halloc : alloc (.pass #[]) w = .ok w.objects.size (w.push (.pass #[])) := rfl
  exact .next halloc (.next hcontent (.next hlayout (.next hgoes (.first .here inferInstance))))

end

variable {m : Interpreter} {self : Value} {a : Activity} {r : Raised} {x : Binding}

theorem HasTurn.raises (h : HasTurn m self encoding w x w')
    (hx : ∀ b, w'.at' b = .binding x → Raises (Binding.evaluate m b) w' e u) :
    Raises (renderStages m self encoding) w e u := by
  obtain ⟨⟨p, fragment, w₁, k, b, hcomes, hturns, hk, hb, hbinding⟩, -⟩ := h
  obtain ⟨line, hraises⟩ := hx b hbinding
  refine hcomes.raises ⟨line, ?_⟩
  exact (RenderPass.resolve_raises (by omega)).2
    (.inl (RenderPass.evaluateFrom_raises.2 ⟨k, b, w', hk, hturns, hb, hraises⟩))

/-- What an activity raises leaves the stages that have come to it. -/
theorem Reaches.raises (h : Reaches m self encoding w a w') {w₁ : World}
    (hrun : a.run m w' = .error (.raised r) w₁) (hleaves : a.Leaves m r w₁ e u) :
    Raises (renderStages m self encoding) w e u := by
  cases h with
  | script h hstart =>
    obtain ⟨r', hreport, rfl⟩ := hleaves
    refine h.raises (.of_error ?_)
    obtain hrun | ⟨_, _, -, hrun⟩ := bind_eq_error.1 hrun
    · exact Template.execute_raises.2 (.inr ⟨_, _, _, _, hstart, hrun, hreport⟩)
    · cases hrun
  | expression h =>
    obtain ⟨r', hreport, rfl⟩ := hleaves
    refine h.raises fun b hb => .of_error ?_
    obtain hrun | ⟨_, _, -, hrun⟩ := bind_eq_error.1 hrun
    · exact Binding.evaluate_raises.2 ⟨_, hb, h.pending, .inl ⟨_, _, hrun, hreport⟩⟩
    · cases hrun
  | value h hcode =>
    obtain ⟨rfl, rfl⟩ := hleaves
    refine h.raises fun b hb => .of_error ?_
    obtain hrun | ⟨_, _, -, hrun⟩ := bind_eq_error.1 hrun
    · exact Binding.evaluate_raises.2 ⟨_, hb, h.pending, .inr ⟨_, _, hcode, hrun⟩⟩
    · cases hrun

end View

end Stencil
