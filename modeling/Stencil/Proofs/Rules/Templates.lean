import Stencil.Proofs.Rules.Attributes

/-!
# Rules: templates and views

Writing to fragments, deferring and resolving, running and loading templates, and rendering views.
-/

namespace Stencil

open World Evaluation Script Rule

variable {R : Rule} [R.Lawful] {home : Option Ref} (m : Interpreter) [R.Governs m]

namespace Fragment

instance abides_chunks (r : Ref) : Abides R home (chunks r) := by
  unfold chunks
  repeat' first | infer_instance | with_reducible refine Abides.bind ?_ fun _ => ?_ | split

/-- A fragment may be made longer at any time. -/
theorem abides_extend {r : Ref} {f : Array Value → Array Value}
    (hf : ∀ chunks, chunks.toList <+: (f chunks).toList) :
    Abides R home (chunks r >>= fun cs => store r (.fragment (f cs))) := by
  refine ⟨fun w hw => ?_⟩
  have hrun : (chunks r >>= fun cs => store r (.fragment (f cs))) w =
      .ok () (w.put r (.fragment (f (w.at' r).chunks.toArray))) := by
    unfold chunks
    rw [bind_assoc, bind_of_ok (load_ok w r)]
    cases w.at' r <;> rfl
  rw [after_of_ok hrun]
  refine Lawful.put_self hw.1 (by simp) fun hs => ?_
  cases ho : w.at' r with
  | fragment cs =>
    exact ⟨rfl, by rintro ⟨⟩, hf cs, List.prefix_rfl, by rintro _ ⟨⟩, by rintro _ ⟨⟩⟩
  | _ => rw [ho] at hs; cases hs

instance abides_append (r : Ref) (chunk : Value) : Abides R home (append r chunk) :=
  abides_extend fun chunks => by simp

instance abides_appendValue (r : Ref) (v : Value) : Abides R home (appendValue m r v) := by
  unfold appendValue
  refine Abides.bind inferInstance fun o => ?_
  split
  · exact abides_extend fun chunks => by simp
  · infer_instance
  · infer_instance

instance abides_bindings (r : Ref) : Abides R home (bindings r) := by
  unfold bindings
  repeat' first
    | infer_instance
    | with_reducible refine Abides.bind ?_ fun _ => ?_
    | split
    | refine Abides.mapM fun _ => ?_

instance abides_checkResolved (c : Value) : Abides R home (checkResolved c) := by
  unfold checkResolved
  repeat' first | infer_instance | with_reducible refine Abides.bind ?_ fun _ => ?_ | split

instance abides_chunkText (index : Nat) (c : Value) : Abides R home (chunkText index c) := by
  unfold chunkText
  dsimp only
  repeat' first | infer_instance | with_reducible refine Abides.bind ?_ fun _ => ?_ | split

instance abides_join (r : Ref) : Abides R home (join r) := by
  unfold join
  infer_instance

end Fragment

instance abides_passesThrough (v : Value) : Abides R home (passesThrough v) := by
  unfold passesThrough
  repeat' first | infer_instance | with_reducible refine Abides.bind ?_ fun _ => ?_ | split

instance abides_evaluationFault (templateName : String) (s : Segment) (e : Value) :
    Abides R home (evaluationFault m templateName s e) := by
  unfold evaluationFault
  infer_instance

instance abides_wrapping {α : Type} (templateName : String) (segment : Raised → Segment)
    (x : Action α) [Abides R home x] : Abides R home (wrapping m templateName segment x) := by
  unfold wrapping
  repeat' first | infer_instance | with_reducible refine Abides.bind ?_ fun _ => ?_ | split

namespace Binding

/-- A deferred expression may be evaluated again while it is being evaluated, so the world at the end
is compared with the one at the beginning and not with the one in which the value is stored. -/
instance abides_evaluate (r : Ref) : Abides R home (evaluate m r) := by
  unfold evaluate
  refine Abides.load_bind fun w hw => ?_
  cases ho : w.at' r with
  | binding b =>
    by_cases hb : b.resolved = true
    · simp only [hb, if_true]
      exact Abides.abides w hw
    simp only [hb, Bool.false_eq_true, if_false]
    have hlt : r < w.objects.size := by
      refine Nat.lt_of_not_le fun hle => ?_
      rw [at'_of_size_le hle] at ho
      cases ho
    have stored {u : World} (hu : R.Keeps w u) (s : String) :
        R.Keeps w (u.put r (.binding { b with value := some s, resolved := true })) := by
      refine Lawful.put hw.1 hu hlt (by simp) fun _ => ?_
      rw [ho]
      refine ⟨rfl, by rintro ⟨⟩, List.prefix_rfl, List.prefix_rfl, fun c hc => ?_, by rintro _ ⟨⟩⟩
      cases hc
      exact ⟨_, rfl, rfl, rfl, rfl, rfl, fun h => absurd h hb⟩
    have finish {u : World} (hu : R.Keeps w u) (text : Action String) [ht : Abides R home text] :
        let x := text >>= fun s => store r (.binding { b with value := some s, resolved := true }) >>=
          fun _ => pure (Value.str s)
        R.Keeps w (u.after x) := by
      intro x
      have hv := hu.trans (ht.abides u (hw.keeps hu))
      cases h : text u with
      | error e v =>
        have hx : u.after x = v := after_bind_of_error h
        rwa [hx, ← after_of_error h]
      | ok s v =>
        have hx : u.after x = v.put r (.binding { b with value := some s, resolved := true }) :=
          after_bind_of_ok h
        exact hx ▸ stored (after_of_ok h ▸ hv) s
    have hx : R.Keeps w (w.after (wrapping m b.templateName (fun _ => b.segment)
        (m.evaluate { globals := b.globals } b.code))) := by
      rcases Lawful.binding hw.1 ho with h | h
      · exact Abides.within inferInstance hw.1 h
      · rw [h]
        exact Abides.abides w hw
    generalize wrapping m b.templateName _ (m.evaluate { globals := b.globals } b.code) = x at hx
    cases h : x w with
    | error e u =>
      rw [after_bind_of_error h, ← after_of_error h]
      exact hx
    | ok v u =>
      rw [after_of_ok h] at hx
      rw [after_bind_of_ok h]
      split
      · exact finish hx (pure "")
      · exact finish hx (m.text v)
  | _ => exact Abides.abides w hw

end Binding

namespace RenderPass

instance abides_bindings (r : Ref) : Abides R home (bindings r) := by
  unfold bindings
  repeat' first | infer_instance | with_reducible refine Abides.bind ?_ fun _ => ?_ | split

instance abides_register (r b : Ref) : Abides R home (register r b) := by
  refine ⟨fun w hw => ?_⟩
  have hrun : register r b w =
      .ok () (w.put r (.pass ((match w.at' r with | .pass bs => bs | _ => #[]).push b))) := by
    unfold register bindings
    rw [bind_assoc, bind_of_ok (load_ok w r)]
    cases w.at' r <;> rfl
  rw [after_of_ok hrun]
  refine Lawful.put_self hw.1 (by simp) fun hs => ?_
  cases ho : w.at' r with
  | pass bs =>
    exact ⟨rfl, by rintro ⟨⟩, List.prefix_rfl, by simp [Object.bindings], by rintro _ ⟨⟩, by rintro _ ⟨⟩⟩
  | _ => rw [ho] at hs; cases hs

instance abides_evaluateFrom (r : Ref) : Abides R home (evaluateFrom m r) := by
  unfold evaluateFrom
  refine Interpreter.abides_repeatUntil m fun i => ?_
  repeat' first | infer_instance | with_reducible refine Abides.bind ?_ fun _ => ?_ | split

instance abides_resolve (r fragment : Ref) : Abides R home (resolve m r fragment) := by
  unfold resolve
  infer_instance

end RenderPass

instance abides_asContext (v : Value) : Abides R home (asContext v) := by
  unfold asContext
  repeat' first
    | infer_instance
    | with_reducible refine Abides.bind ?_ fun _ => ?_
    | split
    | refine Abides.mapM fun _ => ?_

instance abides_hasHook (v : Value) : Abides R home (hasHook v) := by
  unfold hasHook
  repeat' first | infer_instance | with_reducible refine Abides.bind ?_ fun _ => ?_ | split

namespace Run

instance abides_load (r : Ref) : Abides R home (load r) := by
  unfold load
  repeat' first | infer_instance | with_reducible refine Abides.bind ?_ fun _ => ?_ | split

instance abides_hooked (r : Run) (v : Value) : Abides R home (hooked m r v) := by
  unfold hooked
  split <;> infer_instance

instance abides_emit (r : Run) (v : Value) : Abides R home (emit m r v) := by
  unfold emit
  infer_instance

/-- Something may be done in the names of a snapshot. -/
theorem abides_snapshot_bind {α : Type} {globals : Ref} {f : Ref → Action α}
    (hf : ∀ q, Abides R (some q) (f q)) : Abides R home (snapshot globals >>= f) := by
  refine ⟨fun w hw => ?_⟩
  obtain ⟨n, hrun⟩ : ∃ n, snapshot globals w = .ok w.objects.size (w.push (.globals n)) := by
    unfold snapshot
    rw [bind_of_ok (load_ok w globals)]
    cases w.at' globals <;> exact ⟨_, rfl⟩
  have hpush : R.Keeps w (w.push (.globals n)) := Lawful.push hw.1 (by rintro g ⟨⟩)
  refine keeps_bind hw (by rwa [after_of_ok hrun]) fun q u h hu => (hf q).abides u ⟨hu.1, ?_⟩
  cases hrun.symm.trans h
  rintro g ⟨⟩
  exact Lawful.fresh hw.1 hpush (Nat.le_refl _) (by simp)

instance abides_defer (r : Run) (index : Value) : Abides R home (defer r index) := by
  unfold defer
  dsimp only
  repeat' first
    | infer_instance
    | refine abides_snapshot_bind fun _ => ?_
    | refine Abides.bind (.alloc (by rintro _ ⟨⟩ w hw; exact hw.2 _ rfl)) fun _ => ?_
    | with_reducible refine Abides.bind ?_ fun _ => ?_
    | split

instance abides_content (r : Run) : Abides R home (content m r) := by
  unfold content
  split <;> infer_instance

instance abides_call (f : RunFunction) (r : Ref) (args : Arguments) :
    Abides R home (call m f r args) := by
  unfold call
  repeat' first | infer_instance | with_reducible refine Abides.bind ?_ fun _ => ?_ | split

end Run

/-- A computation abides by a rule, and what it gives holds in the world it ends in. -/
def Rule.Yields {α : Type} (R : Rule) (home : Option Ref) (x : Action α) (P : World → α → Prop) : Prop :=
  ∀ w, R.At home w → R.Keeps w (w.after x) ∧ ∀ a u, x w = .ok a u → P u a

section

omit m
variable {α β : Type}

omit [R.Lawful] in
theorem Rule.Yields.abides {x : Action α} {P : World → α → Prop} (hx : R.Yields home x P) :
    Abides R home x :=
  ⟨fun w hw => (hx w hw).1⟩

theorem Rule.Yields.bind {x : Action α} {f : α → Action β} {P : World → β → Prop} (hx : Abides R home x)
    (hf : ∀ a, R.Yields home (f a) P) : R.Yields home (x >>= f) P := by
  intro w hw
  have hv := hx.abides w hw
  cases h : x w with
  | error e v =>
    rw [after_of_error h] at hv
    refine ⟨by rwa [after_bind_of_error h], fun b u hb => ?_⟩
    rw [bind_of_error h] at hb
    cases hb
  | ok a v =>
    rw [after_of_ok h] at hv
    rw [after_bind_of_ok h, bind_of_ok h]
    exact (hf a v (hw.keeps hv)).imp_left hv.trans

/-- What a computation gives may be the names for what comes next. -/
theorem Rule.Yields.abides_bind {x : Action α} {f : α → Action β} {names : α → Ref}
    (hx : R.Yields home x fun u a => R.Admits u (names a)) (hf : ∀ a, Abides R (some (names a)) (f a)) :
    Abides R home (x >>= f) := by
  refine ⟨fun w hw => ?_⟩
  obtain ⟨hv, hnames⟩ := hx w hw
  refine keeps_bind hw hv fun a u h hu => (hf a).abides u ⟨hu.1, ?_⟩
  rintro g ⟨⟩
  exact hnames a u h

/-- A run with new names. -/
theorem Rule.yields_newNames {x : Ref → Run} {n : Ref → Ref → Namespace} (hx : ∀ g, (x g).globals = g) :
    R.Yields home (do
      let globals ← alloc (.globals {})
      let run ← alloc (.run (x globals))
      store globals (.globals (n globals run))
      return x globals) fun u run => R.Admits u run.globals := by
  intro w hw
  have hg : R.Keeps w (w.push (.globals {})) := Lawful.push hw.1 (by rintro g ⟨⟩)
  have hr := hg.trans (Lawful.push (o := .run (x w.objects.size)) hg.1 (by rintro g ⟨⟩))
  have hn := hr.trans (Lawful.putNames (n := n w.objects.size (w.push (.globals {})).objects.size)
    hr.1 (Lawful.fresh hw.1 hr (Nat.le_refl _) (by rw [size_push, size_push]; omega)))
  have hlt : w.objects.size < (((w.push (.globals {})).push (.run (x w.objects.size))).put
      w.objects.size (.globals (n w.objects.size (w.push (.globals {})).objects.size))).objects.size := by
    rw [size_put, size_push, size_push]
    omega
  refine ⟨hn, ?_⟩
  rintro _ _ ⟨⟩
  rw [hx]
  exact Lawful.fresh hw.1 hn (Nat.le_refl _) hlt

end

namespace Template

/-- However a run begins, its script may be run in its names. -/
theorem startRun_admits (t : Template) (context : Value) (pass : Option Ref) (inner : Value)
    (values : List (String × Value)) :
    Yields R home (startRun m t context pass inner values) fun u run => R.Admits u run.globals := by
  unfold startRun
  dsimp only
  split <;>
    repeat' first
      | exact yields_newNames (fun _ => rfl)
      | refine Yields.bind inferInstance fun _ => ?_
      | split

instance abides_startRun (t : Template) (context : Value) (pass : Option Ref) (inner : Value)
    (values : List (String × Value)) : Abides R home (startRun m t context pass inner values) :=
  (startRun_admits m t context pass inner values).abides

instance abides_execute (t : Template) (context : Value) (pass : Option Ref) (inner : Value)
    (values : List (String × Value)) : Abides R home (execute m t context pass inner values) := by
  unfold execute
  refine Yields.abides_bind (startRun_admits m t context pass inner values) fun run => ?_
  infer_instance

instance abides_render (t : Template) (context inner : Value) (values : List (String × Value)) :
    Abides R home (render m t context inner values) := by
  unfold render
  infer_instance

instance abides_matched (s : Signature) (args : Arguments) : Abides R home (matched s args) := by
  unfold matched
  split <;> infer_instance

instance abides_executeWith (self : Value) (t : Template) (args : Arguments) :
    Abides R home (executeWith m self t args) := by
  unfold executeWith
  infer_instance

instance abides_renderWith (self : Value) (t : Template) (args : Arguments) :
    Abides R home (renderWith m self t args) := by
  unfold renderWith
  infer_instance

instance abides_make (name source : String) : Abides R home (make name source) := by
  unfold make
  repeat' first | infer_instance | with_reducible refine Abides.bind ?_ fun _ => ?_ | split

end Template

instance abides_configAt (v : Value) : Abides R home (configAt v) := by
  unfold configAt
  repeat' first | infer_instance | with_reducible refine Abides.bind ?_ fun _ => ?_ | split

namespace ViewConfig

instance abides_references (v : Value) : Abides R home (references m v) := by
  unfold references
  split <;> infer_instance

instance abides_replace (c : ViewConfig) (changes : List (String × Value)) :
    Abides R home (replace m c changes) := by
  unfold replace
  dsimp only
  repeat' first | infer_instance | with_reducible refine Abides.bind ?_ fun _ => ?_ | split

end ViewConfig

namespace ContextClass

instance abides_defaultSettings : Abides R home defaultSettings := by
  unfold defaultSettings
  infer_instance

instance abides_hasOwnAttribute (id : Nat) (name : String) :
    Abides R home (hasOwnAttribute id name) := by
  unfold hasOwnAttribute
  infer_instance

instance abides_changeRegistry (id : Nat)
    (f : ExposureRegistry Value → ExposureRegistry Value) : Abides R home (changeRegistry id f) := by
  unfold changeRegistry
  repeat' first | infer_instance | with_reducible refine Abides.bind ?_ fun _ => ?_ | split

instance abides_setClassAttribute (id : Nat) (name : String) (v : Value) :
    Abides R home (setClassAttribute id name v) := by
  unfold setClassAttribute
  infer_instance

instance abides_expose (id : Nat) (name : String) (value block : Option Value) :
    Abides R home (expose id name value block) := by
  unfold expose
  infer_instance

instance abides_describe (id : Nat) (name : String) (text : Option String) :
    Abides R home (describe id name text) := by
  unfold describe
  infer_instance

instance abides_setDefault (id : Nat) (block : Option Value) :
    Abides R home (setDefault id block) := by
  unfold setDefault
  infer_instance

instance abides_deriveRegistry (id : Nat) : Abides R home (deriveRegistry id) := by
  unfold deriveRegistry
  repeat' first | infer_instance | with_reducible refine Abides.bind ?_ fun _ => ?_ | split

instance abides_configure (id : Nat) (changes : List (String × Value)) :
    Abides R home (configure m id changes) := by
  unfold configure
  infer_instance

instance abides_registerType (id : Nat) (other : Value) : Abides R home (registerType m id other) := by
  unfold registerType
  infer_instance

end ContextClass

namespace LoadError

instance abides_raise {α : Type} (l : Loader) (x0 : LoadError) :
    Abides R home (raise l x0 : Action α) := by
  unfold raise
  repeat' first | infer_instance | with_reducible refine Abides.bind ?_ fun _ => ?_ | split

end LoadError

namespace Loader

instance abides_at' (v : Value) : Abides R home (at' v) := by
  unfold at'
  repeat' first | infer_instance | with_reducible refine Abides.bind ?_ fun _ => ?_ | split

instance abides_withEncoding (v : Value) : Abides R home (withEncoding v) := by
  unfold withEncoding
  repeat' first | infer_instance | with_reducible refine Abides.bind ?_ fun _ => ?_ | split

instance abides_ofValue (paths : Value) (extensions : List String) :
    Abides R home (ofValue m paths extensions) := by
  unfold ofValue
  repeat' first
    | infer_instance
    | with_reducible refine Abides.bind ?_ fun _ => ?_
    | split
    | refine Abides.mapM fun _ => ?_

instance abides_readSource (l : Loader) (name encoding : String) :
    Abides R home (readSource l name encoding) := by
  unfold readSource
  repeat' first | infer_instance | with_reducible refine Abides.bind ?_ fun _ => ?_ | split

instance abides_loadTemplate (l : Loader) (name encoding : String) :
    Abides R home (loadTemplate l name encoding) := by
  unfold loadTemplate
  infer_instance

instance abides_hasTemplate (l : Loader) (name : String) : Abides R home (hasTemplate l name) := by
  unfold hasTemplate
  repeat' first | infer_instance | with_reducible refine Abides.bind ?_ fun _ => ?_ | split

instance abides_method (l : Loader) (name : String) (args : Arguments) :
    Abides R home (method l name args) := by
  unfold method
  dsimp only
  repeat' first | infer_instance | with_reducible refine Abides.bind ?_ fun _ => ?_ | split

instance abides_lint (l : Loader) (encoding name : String) : Abides R home (lint l encoding name) := by
  unfold lint
  repeat' first | infer_instance | with_reducible refine Abides.bind ?_ fun _ => ?_ | split

instance abides_lintAll (l : Loader) (encoding : String) : Abides R home (lintAll l encoding) := by
  unfold lintAll
  infer_instance

end Loader

namespace View

instance abides_transition (self : Value) (stage : Stage) :
    Abides R home (transition m self stage) := by
  unfold transition
  infer_instance

instance abides_configuredBundle (self : Value) : Abides R home (configuredBundle m self) := by
  unfold configuredBundle
  infer_instance

instance abides_callIn (v : Value) (name : String) (args : List Value) :
    Abides R home (callIn m v name args) := by
  unfold callIn
  infer_instance

instance abides_isView (v : Value) : Abides R home (isView v) := by
  unfold isView
  repeat' first | infer_instance | with_reducible refine Abides.bind ?_ fun _ => ?_ | split

instance abides_hook (self v : Value) : Abides R home (hook m self v) := by
  unfold hook
  infer_instance

instance abides_register (self other : Value) : Abides R home (register m self other) := by
  unfold register
  dsimp only
  repeat' first | infer_instance | with_reducible refine Abides.bind ?_ fun _ => ?_ | split

instance abides_lacksFile (load path encoding : Value) : Abides R home (lacksFile load path encoding) := by
  unfold lacksFile
  repeat' first | infer_instance | with_reducible refine Abides.bind ?_ fun _ => ?_ | split

instance abides_loadLayout? (self encoding path : Value) :
    Abides R home (loadLayout? m self encoding path) := by
  unfold loadLayout?
  infer_instance

instance abides_withoutLayout (self path : Value) (content : Ref) :
    Abides R home (withoutLayout m self path content) := by
  unfold withoutLayout
  infer_instance

instance abides_wrapInLayout (self encoding path : Value) (pass content : Ref) :
    Abides R home (wrapInLayout m self encoding path pass content) := by
  unfold wrapInLayout
  repeat' first | infer_instance | with_reducible refine Abides.bind ?_ fun _ => ?_ | split

instance abides_loadContent (self encoding : Value) : Abides R home (loadContent m self encoding) := by
  unfold loadContent
  infer_instance

instance abides_runContent (self encoding : Value) (pass : Ref) :
    Abides R home (runContent m self encoding pass) := by
  unfold runContent
  repeat' first | infer_instance | with_reducible refine Abides.bind ?_ fun _ => ?_ | split

instance abides_runLayout (self encoding : Value) (pass content : Ref) :
    Abides R home (runLayout m self encoding pass content) := by
  unfold runLayout
  infer_instance

instance abides_renderStages (self encoding : Value) :
    Abides R home (renderStages m self encoding) := by
  unfold renderStages
  repeat' first | infer_instance | with_reducible refine Abides.bind ?_ fun _ => ?_ | split

instance abides_giveAssets (enclosing : Option Ref) (bundle : Value) :
    Abides R home (giveAssets m enclosing bundle) := by
  unfold giveAssets
  split <;> infer_instance

instance abides_startBundle (self : Value) : Abides R home (startBundle m self) := by
  unfold startBundle
  infer_instance

instance abides_renderGuarded (self encoding : Value) :
    Abides R home (renderGuarded m self encoding) := by
  unfold renderGuarded
  repeat' first | infer_instance | with_reducible refine Abides.bind ?_ fun _ => ?_ | split

instance abides_enclosedBy {α : Type} (bundle : Option Ref) (x : Action α) [hx : Abides R home x] :
    Abides R home (enclosedBy bundle x) := by
  refine ⟨fun w hw => ?_⟩
  have hafter : w.after (enclosedBy bundle x) =
      { ({ w with enclosing := bundle } : World).after x with enclosing := w.enclosing } := by
    change ({ w with enclosing := bundle } : World).after (attempt x >>= _) = _
    cases h : x { w with enclosing := bundle } with
    | ok a u => rw [after_bind_of_ok (attempt_of_ok h), after_of_ok h]; rfl
    | error e u => rw [after_bind_of_ok (attempt_of_error h), after_of_error h]; rfl
  rw [hafter]
  exact Lawful.enclosed (hx.abides _ (Lawful.enclose hw))

instance abides_encodingFor (self encoding : Value) : Abides R home (encodingFor m self encoding) := by
  unfold encodingFor
  infer_instance

instance abides_render (self encoding : Value) : Abides R home (render m self encoding) := by
  unfold render
  infer_instance

instance abides_stream (self encoding : Value) : Abides R home (stream m self encoding) := by
  unfold stream
  dsimp only
  repeat' first | infer_instance | with_reducible refine Abides.bind ?_ fun _ => ?_ | split

instance abides_method (self : Value) (name : String) (args : Arguments) :
    Abides R home (method m self name args) := by
  unfold method
  dsimp only
  repeat' first | infer_instance | with_reducible refine Abides.bind ?_ fun _ => ?_ | split

instance abides_fillIn (cls : Nat) (args : Arguments) (self : Value) :
    Abides R home (fillIn m cls args self) := by
  unfold fillIn
  repeat' first
    | infer_instance
    | with_reducible refine Abides.bind ?_ fun _ => ?_
    | split
    | refine Abides.forIn fun _ _ => ?_

instance abides_equip (self : Value) : Abides R home (equip m self) := by
  unfold equip
  repeat' first | infer_instance | with_reducible refine Abides.bind ?_ fun _ => ?_

instance abides_create (cls : Nat) (args : Arguments) : Abides R home (create m cls args) := by
  unfold create
  repeat' first | infer_instance | with_reducible refine Abides.bind ?_ fun _ => ?_

instance abides_createContext (cls : Nat) (args : Arguments) :
    Abides R home (createContext m cls args) := by
  unfold createContext
  repeat' first | infer_instance | with_reducible refine Abides.bind ?_ fun _ => ?_ | split

end View

end Stencil
