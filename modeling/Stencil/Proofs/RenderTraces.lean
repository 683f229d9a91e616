import Stencil.Proofs.TwinRenders

/-!
# Traces of renders

What a render does, told as a list of steps from one world to the next: its view goes on to a stage, or
something else is done, which may be the run of a whole template with everything that the template embeds.
Traces are put together as the computations are: a sequence has the steps of its parts, as far as it gets.
-/

namespace Stencil

open World Evaluation

namespace View

/-- A step of a render. -/
inductive Step where
  /-- The view goes on to a stage. -/
  | goes (stage : Stage) (before after : World)
  /-- Something else is done. -/
  | works (before after : World)

namespace Step

/-- The world in which a step begins. -/
def before : Step → World
  | goes _ w _ => w
  | works w _ => w

/-- The world in which a step ends. -/
def after : Step → World
  | goes _ _ u => u
  | works _ u => u

/-- The stage that a step goes on to. -/
def stage? : Step → Option Stage
  | goes s _ _ => some s
  | works _ _ => none

end Step

/-- The stages that steps go through. -/
def stages (ss : List Step) : List Stage := ss.filterMap Step.stage?

@[simp] theorem stages_nil : stages [] = [] := rfl

@[simp] theorem stages_append (ss ts : List Step) : stages (ss ++ ts) = stages ss ++ stages ts :=
  List.filterMap_append

end View

namespace World

/-- The objects and the classes are the same. -/
structure Matches (w u : World) : Prop where
  objects : u.objects = w.objects
  classes : u.classes = w.classes

namespace Matches

variable {w u x : World}

theorem refl (w : World) : w.Matches w := ⟨rfl, rfl⟩

theorem trans (h : w.Matches u) (h' : u.Matches x) : w.Matches x :=
  ⟨h'.objects.trans h.objects, h'.classes.trans h.classes⟩

end Matches

end World

namespace View

variable {α β : Type} {v : Ref} {w u x : World} {ss ts : List Step}

/-- Steps that lead from one world to another; nothing changes between them. -/
def Linked (w : World) (ss : List Step) (u : World) : Prop :=
  match ss with
  | [] => w.Matches u
  | s :: ss => w.Matches s.before ∧ Linked s.after ss u

theorem Linked.of_matches (h : w.Matches u) (hs : Linked u ss x) : Linked w ss x := by
  cases ss with
  | nil => exact h.trans hs
  | cons s ss => exact ⟨h.trans hs.1, hs.2⟩

theorem Linked.append (h : Linked w ss u) (h' : Linked u ts x) : Linked w (ss ++ ts) x := by
  induction ss generalizing w with
  | nil => exact h'.of_matches h
  | cons s ss ih => exact ⟨h.1, ih h.2⟩

theorem Linked.split (h : Linked w (ss ++ ts) x) : ∃ u, Linked w ss u ∧ Linked u ts x := by
  induction ss generalizing w with
  | nil => exact ⟨w, .refl w, h⟩
  | cons s ss ih =>
    obtain ⟨hbefore, hrest⟩ := h
    obtain ⟨u, hss, hts⟩ := ih hrest
    exact ⟨u, ⟨hbefore, hss⟩, hts⟩

/-- The steps of a computation. Where it says that a view goes on to a stage, the computation sets the stage
of the view. -/
structure Tracing (v : Ref) (x : Action α) where
  steps : World → List Step
  linked : ∀ w, Linked w (steps w) (w.after x)
  goes : ∀ w s b a, Step.goes s b a ∈ steps w → setAttribute (.ref v) "stage" (.stage s) b = .ok () a

namespace Tracing

/-- A computation as one step. -/
def work (x : Action α) : Tracing v x where
  steps w := [.works w (w.after x)]
  linked w := ⟨.refl w, .refl _⟩
  goes w s b a h := by simp at h

/-- A computation that changes neither objects nor classes takes no steps. -/
def still (x : Action α) (h : ∀ w : World, w.Matches (w.after x)) : Tracing v x where
  steps _ := []
  linked := h
  goes w s b a h := by simp at h

/-- Setting the stage of the view. -/
def go (v : Ref) (s : Stage) : Tracing v (setAttribute (.ref v) "stage" (.stage s)) where
  steps w :=
    match setAttribute (.ref v) "stage" (.stage s) w with
    | .ok _ u => [.goes s w u]
    | .error _ u => [.works w u]
  linked w := by
    cases h : setAttribute (.ref v) "stage" (.stage s) w with
    | ok a u => rw [after_of_ok h]; exact ⟨.refl w, .refl u⟩
    | error e u => rw [after_of_error h]; exact ⟨.refl w, .refl u⟩
  goes w t b a hmem := by
    cases h : setAttribute (.ref v) "stage" (.stage s) w with
    | ok r u =>
      rw [h] at hmem
      cases List.mem_singleton.1 hmem
      exact h
    | error e u =>
      rw [h] at hmem
      cases List.mem_singleton.1 hmem

/-- A sequence takes the steps of its first part, and then those of the rest. -/
def bind {x : Action α} {f : α → Action β} (t : Tracing v x) (tf : ∀ a, Tracing v (f a)) :
    Tracing v (x >>= f) where
  steps w :=
    match x w with
    | .ok a u => t.steps w ++ (tf a).steps u
    | .error _ _ => t.steps w
  linked w := by
    have hx := t.linked w
    cases h : x w with
    | ok a u =>
      rw [after_of_ok h] at hx
      rw [after_bind_of_ok h]
      exact hx.append ((tf a).linked u)
    | error e u =>
      rw [after_of_error h] at hx
      rw [after_bind_of_error h]
      exact hx
  goes w s b a hmem := by
    cases h : x w with
    | ok r u =>
      rw [h] at hmem
      exact (List.mem_append.1 hmem).elim (t.goes w s b a) ((tf r).goes u s b a)
    | error e u =>
      rw [h] at hmem
      exact t.goes w s b a hmem

/-- Trying a computation takes its steps. -/
def attempt {x : Action α} (t : Tracing v x) : Tracing v (World.attempt x) where
  steps := t.steps
  linked w := by
    have hx := t.linked w
    cases h : x w with
    | ok a u => rwa [after_of_ok (attempt_of_ok h), ← after_of_ok h]
    | error e u => rwa [after_of_ok (attempt_of_error h), ← after_of_error h]
  goes := t.goes

variable {x : Action α} {f : α → Action β} {t : Tracing v x} {tf : ∀ a, Tracing v (f a)}

theorem steps_bind_of_ok {a : α} (h : x w = .ok a u) :
    (t.bind tf).steps w = t.steps w ++ (tf a).steps u := by
  simp only [bind, h]

theorem steps_bind_of_error {e : Stop} (h : x w = .error e u) : (t.bind tf).steps w = t.steps w := by
  simp only [bind, h]

theorem subset_bind (w : World) : t.steps w ⊆ (t.bind tf).steps w := by
  cases h : x w with
  | ok a u =>
    rw [steps_bind_of_ok h]
    exact List.subset_append_left ..
  | error e u =>
    rw [steps_bind_of_error h]
    exact List.Subset.refl _

theorem steps_bind_of_nil (h : ∀ a u, (tf a).steps u = []) (w : World) :
    (t.bind tf).steps w = t.steps w := by
  cases hx : x w with
  | ok a u => simp [bind, hx, h]
  | error e u => simp only [bind, hx]

end Tracing

/-! ## The steps of a render -/

section

variable (m : Interpreter) (v : Ref)

/-- Going on to a stage is told in the log first. -/
def traceTransition (s : Stage) : Tracing v (transition m (.ref v) s) :=
  .bind (.work _) fun _ => .bind (.work _) fun _ => .bind (.work _) fun _ => .bind (.work _) fun _ =>
    .bind (.work _) fun _ => .go v s

def traceLoading (encoding : Value) : Tracing v (loadContent m (.ref v) encoding) :=
  .bind (traceTransition m v .contentCompiling) fun _ => .work _

def traceContent (encoding : Value) (pass : Ref) : Tracing v (runContent m (.ref v) encoding pass) :=
  .bind (traceLoading m v encoding) fun _ =>
    .bind (traceTransition m v .contentExecuting) fun _ => .work _

def traceWrapping (encoding path : Value) (pass content : Ref) :
    Tracing v (wrapInLayout m (.ref v) encoding path pass content) :=
  .bind (traceTransition m v .layoutCompiling) fun _ => .bind (.attempt (.work _)) fun loaded =>
    match loaded with
    | .ok (some _) => .bind (traceTransition m v .layoutExecuting) fun _ => .work _
    | .ok none => .work _
    | .error (.raised _) => .work _
    | .error .exhausted => .work _

def traceLayout (encoding : Value) (pass content : Ref) :
    Tracing v (runLayout m (.ref v) encoding pass content) :=
  .bind (.work _) fun _ => .bind (.work _) fun there =>
    match there with
    | true => traceWrapping m v encoding _ pass content
    | false => .work _

def traceStages (encoding : Value) : Tracing v (renderStages m (.ref v) encoding) :=
  .bind (.work _) fun _ => .bind (traceContent m v encoding _) fun _ =>
    .bind (traceLayout m v encoding _ _) fun _ => .bind (traceTransition m v .deferredResolution) fun _ =>
      .bind (.work _) fun _ => .bind (traceTransition m v .done) fun _ => .still _ fun w => .refl w

def traceGuarded (encoding : Value) : Tracing v (renderGuarded m (.ref v) encoding) :=
  .bind (.attempt (traceStages m v encoding)) fun outcome =>
    match outcome with
    | .ok _ => .still _ fun w => .refl w
    | .error (.raised _) => .bind (.work _) fun failure =>
      match failure with
      | true => .bind (traceTransition m v .failed) fun _ => .still _ fun w => .refl w
      | false => .still _ fun w => .refl w
    | .error .exhausted => .still _ fun w => .refl w

theorem matches_resume {α : Type} (outcome : Except Stop α) (w : World) :
    w.Matches (w.after (resume outcome)) := by
  cases outcome <;> exact .refl w

def traceEnclosed {α : Type} {v : Ref} {x : Action α} (bundle : Option Ref) (t : Tracing v x) :
    Tracing v (enclosedBy bundle x) :=
  .bind (.still _ fun w => .refl w) fun _ => .bind (.still _ fun _ => ⟨rfl, rfl⟩) fun _ =>
    .bind t.attempt fun outcome => .bind (.still _ fun _ => ⟨rfl, rfl⟩) fun _ =>
      .still _ (matches_resume outcome)

def traceBeginning : Tracing v (startBundle m (.ref v)) := .bind (.go v .idle) fun _ => .work _

/-- The steps of a render. -/
def trace (enc : Value) : Tracing v (render m (.ref v) enc) :=
  .bind (.work _) fun encoding => .bind (.still _ fun w => .refl w) fun _ =>
    .bind (traceBeginning m v) fun bundle =>
      .bind (traceEnclosed (reference? bundle) (traceGuarded m v encoding)) fun _ =>
        .bind (.work _) fun _ => .still _ fun w => .refl w

end

end View

end Stencil
