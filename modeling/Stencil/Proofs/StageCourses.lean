import Stencil.Proofs.RenderTraces

/-!
# Courses of stages

The stages of every render of a view follow one of three courses, or break off on the way, and then at most
one stage follows: the view has failed.
-/

namespace Stencil

open World Evaluation

namespace View

/-! ## Which stages steps go through -/

/-- The stages of a traced computation that returns, and of one that stops. -/
structure Courses {α : Type} {v : Ref} {x : Action α} (t : Tracing v x) (full cut : List (List Stage)) :
    Prop where
  ok : ∀ w a u, x w = .ok a u → stages (t.steps w) ∈ full
  error : ∀ w e u, x w = .error e u → stages (t.steps w) ∈ cut

/-- The courses of a sequence: first one of some courses, then one of others. -/
def following (first next : List (List Stage)) : List (List Stage) :=
  first.flatMap fun a => next.map (a ++ ·)

namespace Courses

variable {α β : Type} {v : Ref} {x : Action α} {f : α → Action β} {t : Tracing v x}
  {tf : ∀ a, Tracing v (f a)} {A B C D : List (List Stage)}

theorem mono (h : Courses t A B) (hfull : A ⊆ C) (hcut : B ⊆ D) : Courses t C D :=
  ⟨fun w a u hx => hfull (h.ok w a u hx), fun w e u hx => hcut (h.error w e u hx)⟩

theorem work (x : Action α) : Courses (.work x : Tracing v x) [[]] [[]] :=
  ⟨fun _ _ _ _ => List.mem_singleton_self _, fun _ _ _ _ => List.mem_singleton_self _⟩

theorem pure (a : α) : Courses (.still (pure a) fun w => .refl w : Tracing v (pure a : Action α)) [[]] [] :=
  ⟨fun _ _ _ _ => List.mem_singleton_self _, fun w e u h => by cases h⟩

theorem go (v : Ref) (s : Stage) : Courses (.go v s) [[s]] [[]] := by
  refine ⟨fun w a u h => ?_, fun w e u h => ?_⟩
  · simp [Tracing.go, h, stages, Step.stage?]
  · simp [Tracing.go, h, stages, Step.stage?]

theorem bind (h : Courses t A B) (hf : ∀ a, Courses (tf a) C D) :
    Courses (t.bind tf) (following A C) (B ++ following A D) := by
  have hmem {a b : List Stage} {E : List (List Stage)} (ha : a ∈ A) (hb : b ∈ E) :
      a ++ b ∈ following A E := List.mem_flatMap.2 ⟨a, ha, List.mem_map.2 ⟨b, hb, rfl⟩⟩
  refine ⟨fun w b u hx => ?_, fun w e u hx => ?_⟩
  · obtain ⟨a, u₁, ha, hb⟩ := bind_eq_ok.1 hx
    rw [Tracing.steps_bind_of_ok ha, stages_append]
    exact hmem (h.ok w a u₁ ha) ((hf a).ok u₁ b u hb)
  · rcases bind_eq_error.1 hx with hstop | ⟨a, u₁, ha, hstop⟩
    · rw [Tracing.steps_bind_of_error hstop]
      exact List.mem_append_left _ (h.error w e u hstop)
    · rw [Tracing.steps_bind_of_ok ha, stages_append]
      exact List.mem_append_right _ (hmem (h.ok w a u₁ ha) ((hf a).error u₁ e u hstop))

theorem attempt (h : Courses t A B) : Courses t.attempt (A ++ B) [] := by
  refine ⟨fun w r u hx => ?_, fun w e u hx => ?_⟩
  · rcases attempt_eq_ok.1 hx with ⟨a, ha, -⟩ | ⟨e, he, -⟩
    · exact List.mem_append_left _ (h.ok w a u ha)
    · exact List.mem_append_right _ (h.error w e u he)
  · unfold World.attempt at hx
    cases hstop : x w <;> rw [hstop] at hx <;> cases hx

end Courses

section

variable {m : Interpreter} {v : Ref} {encoding path : Value} {pass content : Ref}

theorem courses_transition (s : Stage) : Courses (traceTransition m v s) [[s]] [[]] :=
  ((Courses.work _).bind fun _ => (Courses.work _).bind fun _ => (Courses.work _).bind fun _ =>
    (Courses.work _).bind fun _ => (Courses.work _).bind fun _ => .go v s).mono (by simp [following])
      (by simp [following])

theorem courses_content : Courses (traceContent m v encoding pass) [[.contentCompiling, .contentExecuting]]
    [[], [.contentCompiling], [.contentCompiling, .contentExecuting]] :=
  (((courses_transition .contentCompiling).bind fun _ => .work _).bind fun _ =>
    (courses_transition .contentExecuting).bind fun _ => .work _).mono (by decide) (by decide)

theorem courses_wrapping : Courses (traceWrapping m v encoding path pass content)
    [[.layoutCompiling], [.layoutCompiling, .layoutExecuting]]
    [[], [.layoutCompiling], [.layoutCompiling, .layoutExecuting]] := by
  refine Courses.mono (.bind (courses_transition .layoutCompiling) fun _ => .bind (.attempt (.work _))
    (C := [[], [.layoutExecuting]]) (D := [[], [.layoutExecuting]]) fun loaded => ?_) (by decide) (by decide)
  rcases loaded with (_ | _) | (_ | _)
  · exact (Courses.work _).mono (by decide) (by decide)
  · exact (Courses.work _).mono (by decide) (by decide)
  · exact (Courses.work _).mono (by decide) (by decide)
  · exact ((courses_transition .layoutExecuting).bind fun _ => .work _).mono (by decide) (by decide)

theorem courses_layout : Courses (traceLayout m v encoding pass content)
    [[], [.layoutCompiling], [.layoutCompiling, .layoutExecuting]]
    [[], [.layoutCompiling], [.layoutCompiling, .layoutExecuting]] := by
  refine Courses.mono (.bind (.work _) fun _ => .bind (.work _)
    (C := [[], [.layoutCompiling], [.layoutCompiling, .layoutExecuting]])
    (D := [[], [.layoutCompiling], [.layoutCompiling, .layoutExecuting]]) fun there => ?_)
    (by decide) (by decide)
  cases there with
  | true => exact courses_wrapping.mono (by decide) (by decide)
  | false => exact (Courses.work _).mono (by decide) (by decide)

end

/-- The stages of a render that gets to its end: without a layout, without the layout that it looks for, and
with a layout. -/
def fullCourses : List (List Stage) :=
  [[.idle, .contentCompiling, .contentExecuting, .deferredResolution, .done],
    [.idle, .contentCompiling, .contentExecuting, .layoutCompiling, .deferredResolution, .done],
    [.idle, .contentCompiling, .contentExecuting, .layoutCompiling, .layoutExecuting, .deferredResolution,
      .done]]

/-- The stages of a render that breaks off on its way. -/
def brokenCourses : List (List Stage) := fullCourses.flatMap fun c => (List.range c.length).map c.take

theorem courses_stages {m : Interpreter} {v : Ref} {encoding : Value} :
    Courses (traceStages m v encoding) (fullCourses.map List.tail) (brokenCourses.map List.tail) :=
  ((Courses.work _).bind fun _ => courses_content.bind fun _ => courses_layout.bind fun _ =>
    (courses_transition .deferredResolution).bind fun _ => (Courses.work _).bind fun output =>
      (courses_transition .done).bind fun _ => .pure output).mono (by decide) (by decide)

end View

/-! ## Where a view stands -/

namespace World

variable {w u x : World} {v o : Ref} {s : Stage}

/-- A view stands at a stage, and its class leaves the stage to it. -/
structure Stands (w : World) (v : Ref) (s : Stage) : Prop where
  own : w.own? v "stage" = some (.stage s)
  computed : ∀ cls, w.classOf? v = some cls → ∀ p, w.classValue cls "stage" ≠ some (.property p)

/-- A view stands in another world where it has stood. -/
def KeepsStage (w : World) (v : Ref) (u : World) : Prop := ∀ s, w.Stands v s → u.Stands v s

theorem atStage_iff : w.AtStage v ↔ ∃ s, w.Stands v s :=
  ⟨fun h => h.own.imp fun _ hs => ⟨hs, h.computed⟩, fun h => h.elim fun s hs => ⟨⟨s, hs.own⟩, hs.computed⟩⟩

theorem Stands.congr (h : w.Stands v s) (hown : u.own? v "stage" = w.own? v "stage")
    (hclass : u.classOf? v = w.classOf? v) (hclasses : u.classes = w.classes) : u.Stands v s := by
  refine ⟨hown.trans h.own, fun cls hcls p => ?_⟩
  rw [classValue_congr hclasses]
  exact h.computed cls (hclass.symm.trans hcls) p

theorem Matches.keepsStage (h : w.Matches u) : w.KeepsStage v u := fun s hs =>
  hs.congr (by rw [own?, own?, at', at', h.objects]) (by rw [classOf?, classOf?, at', at', h.objects]) h.classes

/-- Setting the stage of a view brings it there, and no other view anywhere else. -/
theorem Stands.go (hs : w.Stands v s) {stage : Stage}
    (h : setAttribute (.ref v) "stage" (.stage stage) w = .ok () u) :
    u.Stands v stage ∧ ∀ o ≠ v, w.KeepsStage o u := by
  obtain ⟨cls, hcls⟩ := (atStage_iff.2 ⟨s, hs⟩).exists_classOf
  obtain ⟨hchanges, hclass, hown⟩ := setAttribute_eq_ok hcls h
  refine ⟨⟨by rw [hown, if_pos ⟨rfl, rfl⟩], fun cls' hcls' p => ?_⟩, fun o ho t ht => ?_⟩
  · rw [classValue_congr hchanges.classes]
    exact hs.computed cls' ((hclass v).symm.trans hcls') p
  · exact ht.congr (by rw [hown, if_neg fun h => ho h.1]) (hclass o) hchanges.classes

end World

namespace View

variable {v : Ref} {around : List Ref} {w u : World} {ss : List Step} {s : Stage}

/-- In between its stages a render leaves the stages of some views alone. -/
def LeavesStages (views : List Ref) (ss : List Step) : Prop :=
  ∀ b a, .works b a ∈ ss → ∀ o ∈ views, b.KeepsStage o a

theorem LeavesStages.mono {views : List Ref} {ts : List Step} (h : LeavesStages views ss) (hsub : ts ⊆ ss) :
    LeavesStages views ts := fun b a hmem => h b a (hsub hmem)

/-- A view stands at the last stage that it has gone on to, and other views stay where they are. -/
theorem Linked.stands (h : Linked w ss u)
    (hgoes : ∀ t b a, .goes t b a ∈ ss → setAttribute (.ref v) "stage" (.stage t) b = .ok () a)
    (hworks : LeavesStages (v :: around) ss) (hv : v ∉ around) (hs : w.Stands v s) :
    u.Stands v ((stages ss).getLastD s) ∧ ∀ o ∈ around, w.KeepsStage o u := by
  induction ss generalizing w s with
  | nil => exact ⟨World.Matches.keepsStage h s hs, fun o _ => World.Matches.keepsStage h⟩
  | cons step ss ih =>
    obtain ⟨hbefore, hlinked⟩ := h
    have hrest (t : Stage) (ht : step.after.Stands v t) :=
      ih hlinked (fun t b a hmem => hgoes t b a (List.mem_cons_of_mem _ hmem))
        (fun b a hmem => hworks b a (List.mem_cons_of_mem _ hmem)) ht
    cases step with
    | goes t b a =>
      have hset := hgoes t b a List.mem_cons_self
      obtain ⟨ha, hothers⟩ := (hbefore.keepsStage s hs).go hset
      obtain ⟨hu, haround⟩ := hrest t ha
      refine ⟨?_, fun o ho r hr => haround o ho r (hothers o (fun h => hv (h ▸ ho)) r (hbefore.keepsStage r hr))⟩
      have hlast : (stages (.goes t b a :: ss)).getLastD s = (stages ss).getLastD t := by
        rw [stages, List.filterMap_cons]
        exact List.getLastD_cons
      rw [hlast]
      exact hu
    | works b a =>
      have hkeeps := hworks b a List.mem_cons_self
      obtain ⟨hu, haround⟩ := hrest s (hkeeps v List.mem_cons_self s (hbefore.keepsStage s hs))
      exact ⟨hu, fun o ho r hr => haround o ho r (hkeeps o (List.mem_cons_of_mem v ho) r (hbefore.keepsStage r hr))⟩

/-- What happens between two worlds while some views render: code that leaves their stages alone, and
renders of other views, in which the same happens to these views as well. -/
inductive Happens : List Ref → World → World → Prop
  | code {around : List Ref} {w u : World} (h : ∀ o ∈ around, w.KeepsStage o u) : Happens around w u
  | render {around : List Ref} {n : Nat} {c : Ref} {enc : Value} {w : World} (hc : c ∉ around)
      (hs : w.AtStage c)
      (h : ∀ b a, .works b a ∈ (trace (interpreter n) c enc).steps w → Happens (c :: around) b a) :
      Happens around w (w.after (View.render (interpreter n) (.ref c) enc))
  | next {around : List Ref} {w u x : World} (h : Happens around w u) (h' : Happens around u x) :
      Happens around w x

/-- The renders of other views leave the stages of the views around them alone. -/
theorem Happens.keepsStage {o : Ref} (h : Happens around w u) (ho : o ∈ around) : w.KeepsStage o u := by
  induction h generalizing o with
  | code h => exact h o ho
  | @render around n c enc w hc hs _ ih =>
    obtain ⟨s, hs⟩ := World.atStage_iff.1 hs
    exact (((trace (interpreter n) c enc).linked w).stands ((trace (interpreter n) c enc).goes w)
      (fun b a hmem d hd => ih b a hmem hd) hc hs).2 o ho
  | next _ _ ih ih' => exact fun s hs => ih' ho s (ih ho s hs)

/-! ## The stages of a render -/

section

variable {m : Interpreter} {enc encoding bundle : Value} {w' w₁ w₂ : World} {out : String}

/-- The stages that a render goes through. -/
def path (m : Interpreter) (v : Ref) (enc : Value) (w : World) : List Stage :=
  stages ((trace m v enc).steps w)

/-- The stages of a render return. -/
def Completes (m : Interpreter) (v : Ref) (enc : Value) (w : World) : Prop :=
  ∃ encoding w' out u, Begins m (.ref v) enc w encoding w' ∧
    renderStages m (.ref v) encoding w' = .ok out u

/-- A failure leaves the stages of a render. -/
def BreaksOff (m : Interpreter) (v : Ref) (enc : Value) (w : World) (r : Raised) : Prop :=
  ∃ encoding w' u, Begins m (.ref v) enc w encoding w' ∧
    renderStages m (.ref v) encoding w' = .error (.raised r) u ∧ u.isFailure r.value = true

theorem Begins.unique {encoding' : Value} {w'' : World} (h : Begins m (.ref v) enc w encoding w')
    (h' : Begins m (.ref v) enc w encoding' w'') : encoding' = encoding ∧ w'' = w' := by
  obtain ⟨w₁, bundle, w₂, hencoding, hbundle, rfl⟩ := h.begins
  obtain ⟨_, _, _, hencoding', hbundle', rfl⟩ := h'.begins
  cases hencoding.symm.trans hencoding'
  cases hbundle.symm.trans hbundle'
  exact ⟨rfl, rfl⟩

theorem steps_enclosed {α : Type} {x : Action α} (t : Tracing v x) (around : Option Ref) (w : World) :
    (traceEnclosed around t).steps w = t.steps (w.withEnclosing around) := by
  have hget : (get : Action World) w = .ok w w := rfl
  have hmodify : (modify fun w => { w with enclosing := around } : Action Unit) w =
      .ok () (w.withEnclosing around) := rfl
  rw [traceEnclosed, Tracing.steps_bind_of_ok hget, Tracing.steps_bind_of_ok hmodify]
  exact Tracing.steps_bind_of_nil (fun _ u => Tracing.steps_bind_of_nil (fun _ _ => rfl) u) _

/-- A render that begins goes to its first stage, takes the steps of its stages and does something else. -/
theorem steps_of_begins (hencoding : encodingFor m (.ref v) enc w = .ok encoding w₁)
    (hbundle : startBundle m (.ref v) w₁ = .ok bundle w₂) :
    ∃ rest, (trace m v enc).steps w = .works w w₁ :: ((traceBeginning m v).steps w₁ ++
        ((traceGuarded m v encoding).steps (w₂.withEnclosing (reference? bundle)) ++ rest)) ∧
      stages rest = [] := by
  have hget : (get : Action World) w₁ = .ok w₁ w₁ := rfl
  have hwork : (Tracing.work (encodingFor m (.ref v) enc) : Tracing v _).steps w = [.works w w₁] := by
    rw [← after_of_ok hencoding]
    rfl
  have henclosed := steps_enclosed (traceGuarded m v encoding) (reference? bundle) w₂
  rw [trace, Tracing.steps_bind_of_ok hencoding, hwork, Tracing.steps_bind_of_ok hget,
    Tracing.steps_bind_of_ok hbundle]
  cases hrender : enclosedBy (reference? bundle) (renderGuarded m (.ref v) encoding) w₂ with
  | error e u =>
    refine ⟨[], ?_, rfl⟩
    rw [Tracing.steps_bind_of_error hrender, henclosed, List.append_nil]
    rfl
  | ok output u =>
    refine ⟨[.works u (u.after (giveAssets m w₁.enclosing bundle))], ?_, rfl⟩
    rw [Tracing.steps_bind_of_ok hrender, henclosed, Tracing.steps_bind_of_nil (fun _ _ => rfl)]
    rfl

theorem stages_beginning {u : World} (hset : setAttribute (.ref v) "stage" (.stage .idle) w₁ = .ok () u) :
    stages ((traceBeginning m v).steps w₁) = [.idle] := by
  rw [traceBeginning, Tracing.steps_bind_of_ok hset, stages_append]
  have hgo := (Courses.go v .idle).ok w₁ _ u hset
  rw [List.mem_singleton.1 hgo]
  rfl

theorem path_of_no_encoding {e : Stop} {u : World} (h : encodingFor m (.ref v) enc w = .error e u) :
    path m v enc w = [] := by
  rw [path, trace, Tracing.steps_bind_of_error h]
  rfl

theorem path_eq_of_no_bundle {e : Stop} {u : World} (hencoding : encodingFor m (.ref v) enc w = .ok encoding w₁)
    (hbundle : startBundle m (.ref v) w₁ = .error e u) :
    path m v enc w = stages ((traceBeginning m v).steps w₁) := by
  have hget : (get : Action World) w₁ = .ok w₁ w₁ := rfl
  rw [path, trace, Tracing.steps_bind_of_ok hencoding, Tracing.steps_bind_of_ok hget,
    Tracing.steps_bind_of_error hbundle, stages_append, stages_append]
  rfl

theorem path_of_begins (h : Begins m (.ref v) enc w encoding w') :
    path m v enc w = .idle :: stages ((traceGuarded m v encoding).steps w') := by
  obtain ⟨w₁, bundle, w₂, hencoding, hbundle, rfl⟩ := h.begins
  obtain ⟨rest, hsteps, hrest⟩ := steps_of_begins hencoding hbundle
  obtain ⟨_, u, hset, -⟩ := bind_eq_ok.1 hbundle
  rw [path, hsteps, ← List.singleton_append, stages_append, stages_append, stages_append, hrest,
    stages_beginning hset, List.append_nil]
  rfl

/-- What a render does with the outcome of its stages has no stage, unless a failure has left them. -/
theorem stages_guarded_of_ok {u : World} (h : renderStages m (.ref v) encoding w' = .ok out u) :
    stages ((traceGuarded m v encoding).steps w') = stages ((traceStages m v encoding).steps w') := by
  rw [traceGuarded, Tracing.steps_bind_of_ok (attempt_of_ok h), stages_append]
  exact List.append_nil _

theorem stages_guarded_of_failure {n : Nat} {r : Raised} {u : World}
    (h : renderStages (interpreter (n + 1)) (.ref v) encoding w' = .error (.raised r) u)
    (hfailure : u.isFailure r.value = true) (hs : u.AtStage v) :
    stages ((traceGuarded (interpreter (n + 1)) v encoding).steps w') =
      stages ((traceStages (interpreter (n + 1)) v encoding).steps w') ++ [.failed] := by
  obtain ⟨u', hfailed⟩ := exists_transition (n := n) .failed hs
  rw [traceGuarded, Tracing.steps_bind_of_ok (attempt_of_error h), stages_append]
  have hinstance := u.isInstance_eq r.value
  rw [hfailure] at hinstance
  dsimp only
  rw [Tracing.steps_bind_of_ok hinstance, stages_append]
  dsimp only
  rw [Tracing.steps_bind_of_ok hfailed, stages_append]
  have hgo := (courses_transition .failed).ok u _ u' hfailed
  rw [List.mem_singleton.1 hgo]
  rfl

theorem stages_guarded_of_stop {e : Stop} {u : World}
    (h : renderStages m (.ref v) encoding w' = .error e u)
    (hother : ∀ r, e = .raised r → u.isFailure r.value = false) :
    stages ((traceGuarded m v encoding).steps w') = stages ((traceStages m v encoding).steps w') := by
  rw [traceGuarded, Tracing.steps_bind_of_ok (attempt_of_error h), stages_append]
  cases e with
  | exhausted => exact List.append_nil _
  | raised r =>
    have hinstance := u.isInstance_eq r.value
    rw [hother r rfl] at hinstance
    dsimp only
    rw [Tracing.steps_bind_of_ok hinstance, stages_append]
    exact List.append_nil _

end

end View

end Stencil
