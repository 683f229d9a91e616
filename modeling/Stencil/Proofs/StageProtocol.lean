import Stencil.Proofs.NestedFailures
import Stencil.Proofs.StageCourses

/-!
# The stages of renders

Every render of a view goes through its stages in order and ends in the last one, or breaks off and leaves
the view failed. It stays where it is when something else than a failure stops it. Views around the render
stay at their stages, whatever is rendered in it.
-/

namespace Stencil

open World Evaluation

namespace View

section

variable {m : Interpreter} {n : Nat} {v : Ref} {enc encoding : Value} {w w' u : World} {e : Stop}

/-! ## How renders end -/

/-- A render stops before its stages: it gets no encoding, or its view gets no bundle. -/
def StopsBefore (m : Interpreter) (v : Ref) (enc : Value) (w : World) (e : Stop) : Prop :=
  (∃ u, encodingFor m (.ref v) enc w = .error e u) ∨
    ∃ encoding w₁ u, encodingFor m (.ref v) enc w = .ok encoding w₁ ∧
      startBundle m (.ref v) w₁ = .error e u

/-- A render stops in its stages. -/
def StopsWithin (m : Interpreter) (v : Ref) (enc : Value) (w : World) (e : Stop) : Prop :=
  ∃ encoding w' u, Begins m (.ref v) enc w encoding w' ∧ renderStages m (.ref v) encoding w' = .error e u

/-- A render stops after its stages: its bundle cannot be given to the one around it. -/
def StopsAfter (m : Interpreter) (v : Ref) (enc : Value) (w : World) (e : Stop) : Prop :=
  ∃ encoding w₁ bundle w₂ out w₃ u, encodingFor m (.ref v) enc w = .ok encoding w₁ ∧
    startBundle m (.ref v) w₁ = .ok bundle w₂ ∧
    renderStages m (.ref v) encoding (w₂.withEnclosing (reference? bundle)) = .ok out w₃ ∧
    giveAssets m w₁.enclosing bundle (w₃.withEnclosing w₂.enclosing) = .error e u

theorem StopsBefore.stops (h : StopsBefore m v enc w e) : ∃ u, render m (.ref v) enc w = .error e u := by
  rcases h with ⟨u, hencoding⟩ | ⟨encoding, w₁, u, hencoding, hbundle⟩
  · exact ⟨u, bind_of_error hencoding⟩
  · have hget : (get : Action World) w₁ = .ok w₁ w₁ := rfl
    unfold render
    rw [bind_of_ok hencoding, bind_of_ok hget, bind_of_error hbundle]
    exact ⟨u, rfl⟩

theorem renderGuarded_of_error (h : renderStages (interpreter (n + 1)) (.ref v) encoding w = .error e u)
    (hs : u.AtStage v) : ∃ u', renderGuarded (interpreter (n + 1)) (.ref v) encoding w = .error e u' := by
  unfold renderGuarded
  rw [bind_of_ok (attempt_of_error h)]
  cases e with
  | exhausted => exact ⟨u, rfl⟩
  | raised r =>
    dsimp only
    rw [bind_of_ok (u.isInstance_eq r.value)]
    split
    · obtain ⟨u', hfailed⟩ := exists_transition (n := n) .failed hs
      rw [bind_of_ok hfailed]
      exact ⟨u', rfl⟩
    · exact ⟨u, rfl⟩

/-- What stops the stages of a render leaves it. -/
theorem render_of_error (hb : Begins (interpreter (n + 1)) (.ref v) enc w encoding w')
    (h : renderStages (interpreter (n + 1)) (.ref v) encoding w' = .error e u) (hs : u.AtStage v) :
    ∃ u', render (interpreter (n + 1)) (.ref v) enc w = .error e u' := by
  obtain ⟨w₁, bundle, w₂, hencoding, hbundle, rfl⟩ := hb.begins
  obtain ⟨u', hguarded⟩ := renderGuarded_of_error h hs
  have hget : (get : Action World) w₁ = .ok w₁ w₁ := rfl
  unfold render
  rw [bind_of_ok hencoding, bind_of_ok hget, bind_of_ok hbundle, bind_of_error (enclosedBy_of_error hguarded)]
  exact ⟨_, rfl⟩

theorem StopsAfter.stops (h : StopsAfter m v enc w e) : ∃ u, render m (.ref v) enc w = .error e u := by
  obtain ⟨encoding, w₁, bundle, w₂, out, w₃, u, hencoding, hbundle, hstages, hgive⟩ := h
  have hget : (get : Action World) w₁ = .ok w₁ w₁ := rfl
  have hguarded := enclosedBy_eq_ok.2 ⟨w₃, renderGuarded_eq_ok.2 hstages, rfl⟩
  unfold render
  rw [bind_of_ok hencoding, bind_of_ok hget, bind_of_ok hbundle, bind_of_ok hguarded, bind_of_error hgive]
  exact ⟨u, rfl⟩

theorem StopsAfter.completes (h : StopsAfter m v enc w e) : Completes m v enc w := by
  obtain ⟨encoding, w₁, bundle, w₂, out, w₃, u, hencoding, hbundle, hstages, -⟩ := h
  exact ⟨encoding, _, out, w₃, ⟨w₁, bundle, w₂, hencoding, hbundle, rfl⟩, hstages⟩

/-- The stages of a render have returned exactly when the render returns, or stops after them. -/
theorem completes_iff : Completes m v enc w ↔
    (∃ out u, render m (.ref v) enc w = .ok out u) ∨ ∃ e, StopsAfter m v enc w e := by
  constructor
  · rintro ⟨encoding, _, out, w₃, hbegins, hstages⟩
    obtain ⟨w₁, bundle, w₂, hencoding, hbundle, rfl⟩ := hbegins.begins
    cases hgive : giveAssets m w₁.enclosing bundle (w₃.withEnclosing w₂.enclosing) with
    | ok y u =>
      refine .inl ⟨out, u, render_eq_ok.2 ?_⟩
      exact ⟨encoding, w₁, bundle, w₂, w₃, y, hencoding, hbundle, hstages, hgive⟩
    | error e u =>
      exact .inr ⟨e, encoding, w₁, bundle, w₂, out, w₃, u, hencoding, hbundle, hstages, hgive⟩
  · rintro (⟨out, u, h⟩ | ⟨e, h⟩)
    · obtain ⟨encoding, w₁, bundle, w₂, w₃, y, hencoding, hbundle, hstages, -⟩ := render_eq_ok.1 h
      exact ⟨encoding, _, out, w₃, ⟨w₁, bundle, w₂, hencoding, hbundle, rfl⟩, hstages⟩
    · exact h.completes

/-- What stops a render stops it before, in or after its stages. -/
theorem stops_iff
    (hstage : ∀ encoding w' s u, Begins (interpreter (n + 1)) (.ref v) enc w encoding w' →
      renderStages (interpreter (n + 1)) (.ref v) encoding w' = .error s u → u.AtStage v) :
    (∃ u, render (interpreter (n + 1)) (.ref v) enc w = .error e u) ↔
      StopsBefore (interpreter (n + 1)) v enc w e ∨ StopsWithin (interpreter (n + 1)) v enc w e ∨
        StopsAfter (interpreter (n + 1)) v enc w e := by
  constructor
  · rintro ⟨u, h⟩
    rcases bind_eq_error.1 h with hencoding | ⟨encoding, w₁, hencoding, h⟩
    · exact .inl (.inl ⟨u, hencoding⟩)
    rcases bind_eq_error.1 h with hget | ⟨_, _, hget, h⟩
    · cases hget
    cases hget
    rcases bind_eq_error.1 h with hbundle | ⟨bundle, w₂, hbundle, h⟩
    · exact .inl (.inr ⟨encoding, w₁, u, hencoding, hbundle⟩)
    have hbegins : Begins (interpreter (n + 1)) (.ref v) enc w encoding
        (w₂.withEnclosing (reference? bundle)) := ⟨w₁, bundle, w₂, hencoding, hbundle, rfl⟩
    cases hstages : renderStages (interpreter (n + 1)) (.ref v) encoding
        (w₂.withEnclosing (reference? bundle)) with
    | error s x =>
      obtain ⟨x', hguarded⟩ := renderGuarded_of_error hstages (hstage _ _ _ _ hbegins hstages)
      rw [bind_of_error (enclosedBy_of_error hguarded)] at h
      cases h
      exact .inr (.inl ⟨encoding, _, x, hbegins, hstages⟩)
    | ok out w₃ =>
      rw [bind_of_ok (enclosedBy_eq_ok.2 ⟨w₃, renderGuarded_eq_ok.2 hstages, rfl⟩)] at h
      rcases bind_eq_error.1 h with hgive | ⟨_, _, -, h⟩
      · exact .inr (.inr ⟨encoding, w₁, bundle, w₂, out, w₃, u, hencoding, hbundle, hstages, hgive⟩)
      · cases h
  · rintro (h | ⟨encoding, w', u, hbegins, h⟩ | h)
    · exact h.stops
    · exact render_of_error hbegins h (hstage encoding w' e u hbegins h)
    · exact h.stops

end

/-! ## Where a render stands in its stages -/

section

variable {m : Interpreter} {n : Nat} {v : Ref} {around : List Ref} {enc encoding : Value} {w w' u : World}

/-- In between its stages a render leaves the stages of its view and of the views around it alone. -/
def LeavesAlone (m : Interpreter) (v : Ref) (around : List Ref) (enc : Value) (w : World) : Prop :=
  LeavesStages (v :: around) ((trace m v enc).steps w)

theorem LeavesAlone.encodingFor (hleaves : LeavesAlone m v around enc w) :
    w.KeepsStage v (w.after (encodingFor m (.ref v) enc)) :=
  hleaves _ _ (Tracing.subset_bind (t := .work (View.encodingFor m (.ref v) enc)) w List.mem_cons_self) v
    List.mem_cons_self

/-- A view that begins to render stands at the first stage. -/
theorem Begins.stands (hb : Begins m (.ref v) enc w encoding w') (hs : w.AtStage v) (hv : v ∉ around)
    (hleaves : LeavesAlone m v around enc w) : w'.Stands v .idle := by
  obtain ⟨w₁, bundle, w₂, hencoding, hbundle, rfl⟩ := hb.begins
  obtain ⟨rest, hsteps, -⟩ := steps_of_begins hencoding hbundle
  obtain ⟨s, hs⟩ := World.atStage_iff.1 hs
  have hw₁ := hleaves.encodingFor s hs
  rw [after_of_ok hencoding] at hw₁
  unfold LeavesAlone at hleaves
  rw [hsteps] at hleaves
  have hbeginning : LeavesStages (v :: around) ((traceBeginning m v).steps w₁) := hleaves.mono
    (List.subset_cons_of_subset _ (List.subset_append_left ..))
  have hlinked := (traceBeginning m v).linked w₁
  rw [after_of_ok hbundle] at hlinked
  obtain ⟨_, x, hset, -⟩ := bind_eq_ok.1 hbundle
  have hw₂ := (hlinked.stands ((traceBeginning m v).goes w₁) hbeginning hv hw₁).1
  rw [stages_beginning hset] at hw₂
  have hsame : w₂.Matches (w₂.withEnclosing (reference? bundle)) := ⟨rfl, rfl⟩
  exact hsame.keepsStage _ hw₂

theorem Begins.leavesStages (hb : Begins m (.ref v) enc w encoding w')
    (hleaves : LeavesAlone m v around enc w) : LeavesStages (v :: around) ((traceStages m v encoding).steps w') := by
  obtain ⟨w₁, bundle, w₂, hencoding, hbundle, rfl⟩ := hb.begins
  obtain ⟨rest, hsteps, -⟩ := steps_of_begins hencoding hbundle
  unfold LeavesAlone at hleaves
  rw [hsteps] at hleaves
  have hguarded : LeavesStages (v :: around)
      ((traceGuarded m v encoding).steps (w₂.withEnclosing (reference? bundle))) := hleaves.mono
    (List.subset_cons_of_subset _ (List.subset_append_of_subset_right _ (List.subset_append_left ..)))
  exact hguarded.mono (Tracing.subset_bind (t := (traceStages m v encoding).attempt) _)

/-- A view is still at a stage when its stages have been stopped. -/
theorem Begins.atStage_after {e : Stop} (hb : Begins m (.ref v) enc w encoding w') (hs : w.AtStage v)
    (hv : v ∉ around) (hleaves : LeavesAlone m v around enc w)
    (h : renderStages m (.ref v) encoding w' = .error e u) : u.AtStage v := by
  have hlinked := (traceStages m v encoding).linked w'
  rw [after_of_error h] at hlinked
  have hu := hlinked.stands ((traceStages m v encoding).goes w') (hb.leavesStages hleaves) hv
    (hb.stands hs hv hleaves)
  exact World.atStage_iff.2 ⟨_, hu.1⟩

/-- The last stage that steps have gone through is that of the view when the next step begins. -/
theorem stands_along {before after : List Step} {step : Step} {s t : Stage} (hs : w.Stands v s)
    (hv : v ∉ around) (hleaves : LeavesAlone m v around enc w)
    (h : (trace m v enc).steps w = before ++ step :: after) (ht : (stages before).getLast? = some t) :
    step.before.Stands v t := by
  have hlinked := (trace m v enc).linked w
  have hgoes := (trace m v enc).goes w
  unfold LeavesAlone at hleaves
  rw [h] at hlinked hgoes hleaves
  obtain ⟨x, hbefore, hafter⟩ := hlinked.split
  have hx := (hbefore.stands (fun s b a hmem => hgoes s b a (List.mem_append_left _ hmem))
    (hleaves.mono (List.subset_append_left ..)) hv hs).1
  rw [List.getLastD_eq_getLast?, ht, Option.getD_some] at hx
  exact hafter.1.keepsStage t hx

/-! ## Courses that end and break off -/

theorem idle_cons_full : ∀ c ∈ fullCourses.map List.tail, .idle :: c ∈ fullCourses := by decide

theorem idle_cons_broken : ∀ c ∈ brokenCourses.map List.tail, .idle :: c ∈ brokenCourses := by decide

theorem getLast_full : ∀ c ∈ fullCourses, c.getLast? = some .done := by decide

theorem getLast_broken : ∀ c ∈ brokenCourses, c.getLast? ≠ some .done ∧ c.getLast? ≠ some .failed := by decide

theorem Begins.not_completes {e : Stop} (hb : Begins m (.ref v) enc w encoding w')
    (h : renderStages m (.ref v) encoding w' = .error e u) : ¬ Completes m v enc w := by
  rintro ⟨_, _, out, x, hb', hok⟩
  obtain ⟨rfl, rfl⟩ := hb.unique hb'
  cases h.symm.trans hok

theorem Begins.breaksOff_iff {e : Stop} {r : Raised} (hb : Begins m (.ref v) enc w encoding w')
    (h : renderStages m (.ref v) encoding w' = .error e u) :
    BreaksOff m v enc w r ↔ e = .raised r ∧ u.isFailure r.value = true := by
  constructor
  · rintro ⟨_, _, x, hb', herror, hfailure⟩
    obtain ⟨rfl, rfl⟩ := hb.unique hb'
    cases h.symm.trans herror
    exact ⟨rfl, hfailure⟩
  · rintro ⟨rfl, hfailure⟩
    exact ⟨encoding, w', u, hb, h, hfailure⟩

theorem Completes.not_breaksOff {r : Raised} (h : Completes m v enc w) : ¬ BreaksOff m v enc w r := by
  rintro ⟨_, _, x, hb, herror, -⟩
  exact hb.not_completes herror h

/-- How the stages of a render come to their end. -/
inductive TakesCourse (m : Interpreter) (v : Ref) (enc : Value) (w : World) : Prop
  | full (hc : Completes m v enc w) (h : path m v enc w ∈ fullCourses)
  | failed (p : List Stage) (r : Raised) (hr : BreaksOff m v enc w r) (hp : p ∈ brokenCourses)
      (h : path m v enc w = p ++ [.failed])
  | stopped (hc : ¬ Completes m v enc w) (hr : ∀ r, ¬ BreaksOff m v enc w r)
      (h : path m v enc w ∈ brokenCourses)

namespace TakesCourse

theorem course (h : TakesCourse m v enc w) : path m v enc w ∈ fullCourses ∨
    ∃ p ∈ brokenCourses, path m v enc w = p ∨ path m v enc w = p ++ [.failed] := by
  cases h with
  | full _ hpath => exact .inl hpath
  | failed p _ _ hp hpath => exact .inr ⟨p, hp, .inr hpath⟩
  | stopped _ _ hpath => exact .inr ⟨_, hpath, .inl rfl⟩

theorem done_iff (h : TakesCourse m v enc w) :
    (path m v enc w).getLast? = some .done ↔ Completes m v enc w := by
  cases h with
  | full hc hpath => exact iff_of_true (getLast_full _ hpath) hc
  | failed p r hr _ hpath =>
    refine iff_of_false ?_ fun hc => hc.not_breaksOff hr
    rw [hpath, List.getLast?_concat]
    decide
  | stopped hc _ hpath => exact iff_of_false (getLast_broken _ hpath).1 hc

theorem failed_iff (h : TakesCourse m v enc w) :
    (path m v enc w).getLast? = some .failed ↔ ∃ r, BreaksOff m v enc w r := by
  cases h with
  | full hc hpath =>
    refine iff_of_false ?_ (not_exists.2 fun r => hc.not_breaksOff)
    rw [getLast_full _ hpath]
    decide
  | failed p r hr _ hpath =>
    refine iff_of_true ?_ ⟨r, hr⟩
    rw [hpath, List.getLast?_concat]
  | stopped _ hr hpath => exact iff_of_false (getLast_broken _ hpath).2 (not_exists.2 hr)

end TakesCourse

theorem takesCourse_of_not_begins (h : ∀ encoding w', ¬ Begins m (.ref v) enc w encoding w')
    (hpath : path m v enc w ∈ brokenCourses) : TakesCourse m v enc w := by
  refine .stopped ?_ ?_ hpath
  · rintro ⟨encoding, w', _, _, hb, -⟩
    exact h encoding w' hb
  · rintro r ⟨encoding, w', _, hb, -⟩
    exact h encoding w' hb

theorem takesCourse_of_begins (hb : Begins (interpreter (n + 1)) (.ref v) enc w encoding w')
    (hstage : ∀ e u, renderStages (interpreter (n + 1)) (.ref v) encoding w' = .error e u → u.AtStage v) :
    TakesCourse (interpreter (n + 1)) v enc w := by
  have hpath := path_of_begins hb
  cases h : renderStages (interpreter (n + 1)) (.ref v) encoding w' with
  | ok out u =>
    rw [stages_guarded_of_ok h] at hpath
    refine .full ⟨encoding, w', out, u, hb, h⟩ ?_
    rw [hpath]
    exact idle_cons_full _ (courses_stages.ok w' out u h)
  | error e u =>
    have hbroken := idle_cons_broken _ (courses_stages.error w' e u h)
    by_cases hfailure : ∃ r, e = .raised r ∧ u.isFailure r.value = true
    · obtain ⟨r, rfl, hr⟩ := hfailure
      rw [stages_guarded_of_failure h hr (hstage _ u h)] at hpath
      exact .failed _ r ((hb.breaksOff_iff h).2 ⟨rfl, hr⟩) hbroken hpath
    · rw [stages_guarded_of_stop h fun r hr => Bool.eq_false_iff.2 fun hf => hfailure ⟨r, hr, hf⟩] at hpath
      refine .stopped (hb.not_completes h) (fun r hr => ?_) ?_
      · exact hfailure ⟨r, (hb.breaksOff_iff h).1 hr⟩
      · rw [hpath]
        exact hbroken

/-- A render whose view gets no bundle has only gone to the first stage. -/
theorem path_of_no_bundle {e : Stop} {w₁ : World} (hs : w.AtStage v) (hleaves : LeavesAlone m v around enc w)
    (hencoding : encodingFor m (.ref v) enc w = .ok encoding w₁)
    (hbundle : startBundle m (.ref v) w₁ = .error e u) : path m v enc w = [.idle] := by
  obtain ⟨s, hs⟩ := World.atStage_iff.1 hs
  have hw₁ := hleaves.encodingFor s hs
  rw [after_of_ok hencoding] at hw₁
  obtain ⟨cls, hcls⟩ := (World.atStage_iff.2 ⟨s, hw₁⟩).exists_classOf
  obtain ⟨x, hset⟩ := exists_setAttribute (x := .stage .idle) hcls (hw₁.computed cls hcls)
  rw [path_eq_of_no_bundle hencoding hbundle, stages_beginning hset]

theorem takesCourse (hs : w.AtStage v) (hv : v ∉ around)
    (hleaves : LeavesAlone (interpreter (n + 1)) v around enc w) :
    TakesCourse (interpreter (n + 1)) v enc w := by
  by_cases hbegins : ∃ encoding w', Begins (interpreter (n + 1)) (.ref v) enc w encoding w'
  · obtain ⟨encoding, w', hb⟩ := hbegins
    exact takesCourse_of_begins hb fun e u h => hb.atStage_after hs hv hleaves h
  have hnone (encoding : Value) (w' : World) : ¬ Begins (interpreter (n + 1)) (.ref v) enc w encoding w' :=
    fun hb => hbegins ⟨encoding, w', hb⟩
  refine takesCourse_of_not_begins hnone ?_
  cases hencoding : encodingFor (interpreter (n + 1)) (.ref v) enc w with
  | error e u =>
    rw [path_of_no_encoding hencoding]
    decide
  | ok encoding w₁ =>
    cases hbundle : startBundle (interpreter (n + 1)) (.ref v) w₁ with
    | ok bundle w₂ => exact absurd ⟨w₁, bundle, w₂, hencoding, hbundle, rfl⟩ (hnone encoding _)
    | error e u =>
      rw [path_of_no_bundle hs hleaves hencoding hbundle]
      decide

/-- A render goes to the first stage as soon as it has its encoding. -/
theorem head_path {w₁ : World} (hs : w.AtStage v) (hleaves : LeavesAlone m v around enc w)
    (hencoding : encodingFor m (.ref v) enc w = .ok encoding w₁) :
    (path m v enc w).head? = some .idle := by
  cases hbundle : startBundle m (.ref v) w₁ with
  | ok bundle w₂ =>
    rw [path_of_begins ⟨w₁, bundle, w₂, hencoding, hbundle, rfl⟩]
    rfl
  | error e u =>
    rw [path_of_no_bundle hs hleaves hencoding hbundle]
    rfl

/-- What a render does to stages. -/
structure FollowsStages (m : Interpreter) (v : Ref) (around : List Ref) (enc : Value) (w : World) : Prop where
  /-- The stages follow a course to its end, or break off; then the view may have failed. -/
  course : path m v enc w ∈ fullCourses ∨
    ∃ p ∈ brokenCourses, path m v enc w = p ∨ path m v enc w = p ++ [.failed]
  /-- The view is done exactly when its stages return. -/
  done : (path m v enc w).getLast? = some .done ↔ Completes m v enc w
  /-- They have returned exactly when the render returns, or stops after them. -/
  completes : Completes m v enc w ↔
    (∃ out u, render m (.ref v) enc w = .ok out u) ∨ ∃ e, StopsAfter m v enc w e
  /-- The view fails exactly when a failure leaves its stages. -/
  failed : (path m v enc w).getLast? = some .failed ↔ ∃ r, BreaksOff m v enc w r
  /-- What stops the render stops it before, in or after its stages. -/
  stops : ∀ e, (∃ u, render m (.ref v) enc w = .error e u) ↔
    StopsBefore m v enc w e ∨ StopsWithin m v enc w e ∨ StopsAfter m v enc w e
  /-- A render that gets no encoding goes to no stage, and one whose view gets no bundle to the first only. -/
  unencoded : ∀ e u, encodingFor m (.ref v) enc w = .error e u → path m v enc w = []
  unbundled : ∀ encoding w₁ e u, encodingFor m (.ref v) enc w = .ok encoding w₁ →
    startBundle m (.ref v) w₁ = .error e u → path m v enc w = [.idle]
  /-- Wherever the view stands, its render starts at the first stage. -/
  idle : ∀ encoding u, encodingFor m (.ref v) enc w = .ok encoding u → (path m v enc w).head? = some .idle
  /-- All the way the view stands at the last stage that it has gone on to. -/
  along : ∀ before step after, (trace m v enc).steps w = before ++ step :: after →
    ∀ s, (stages before).getLast? = some s → step.before.Stands v s
  ended : ∀ s, (path m v enc w).getLast? = some s → (w.after (render m (.ref v) enc)).Stands v s
  /-- The views around the render stay where they are. -/
  others : ∀ o ∈ around, w.KeepsStage o (w.after (render m (.ref v) enc))

/-- A render in which no view renders in its own render, and nothing else sets the stages of its view and
of the views around it. -/
structure Orderly (m : Interpreter) (v : Ref) (around : List Ref) (enc : Value) (w : World) : Prop where
  atStage : w.AtStage v
  apart : v ∉ around
  works : ∀ b a, .works b a ∈ (trace m v enc).steps w → Happens (v :: around) b a

/-- Renders follow the stages, in whatever renders they are and whatever renders are in them. -/
theorem render_follows_stages (h : Orderly (interpreter (n + 1)) v around enc w) :
    FollowsStages (interpreter (n + 1)) v around enc w := by
  obtain ⟨hs, hv, hworks⟩ := h
  have hleaves : LeavesAlone (interpreter (n + 1)) v around enc w :=
    fun b a hmem o ho => (hworks b a hmem).keepsStage ho
  obtain ⟨s, hstands⟩ := World.atStage_iff.1 hs
  have hended := ((trace (interpreter (n + 1)) v enc).linked w).stands
    ((trace (interpreter (n + 1)) v enc).goes w) hleaves hv hstands
  have hcourse := takesCourse hs hv hleaves
  refine ⟨hcourse.course, hcourse.done_iff, completes_iff, hcourse.failed_iff, fun e => ?_,
    fun _ _ => path_of_no_encoding, fun _ _ _ _ => path_of_no_bundle hs hleaves,
    fun _ _ hencoding => head_path hs hleaves hencoding, fun _ _ _ hsteps s ht => ?_, fun t ht => ?_, hended.2⟩
  · exact stops_iff fun _ _ _ _ hb h => hb.atStage_after hs hv hleaves h
  · exact stands_along hstands hv hleaves hsteps ht
  · rw [path] at ht
    rw [List.getLastD_eq_getLast?, ht, Option.getD_some] at hended
    exact hended.1

end

end View

/-! ## Following the stages of fixed views -/

namespace World

variable {w : World} {v : Ref} {s : Stage}

/-- The stage that a view has of its own. -/
def stage? (w : World) (v : Ref) : Option Stage :=
  match w.own? v "stage" with
  | some (.stage s) => some s
  | _ => none

theorem stage?_eq_some : w.stage? v = some s ↔ w.own? v "stage" = some (.stage s) := by
  unfold stage?
  constructor
  · intro h
    split at h
    · rename_i t ht
      rw [ht, Option.some_inj.1 h]
    · cases h
  · intro h
    rw [h]

end World

namespace View

section

variable {m : Interpreter} {v : Ref} {around : List Ref} {enc : Value} {w : World}

/-- Whether a step sets the stage, or else leaves the stages of some views alone. -/
def Step.quiet? (views : List Ref) : Step → Bool
  | .goes _ _ _ => true
  | .works w u => views.all fun o => u.atStage? o && u.stage? o == w.stage? o

/-- Whether a render is orderly, with each of its steps taken as code. -/
def orderly? (m : Interpreter) (v : Ref) (around : List Ref) (enc : Value) (w : World) : Bool :=
  w.atStage? v && !around.contains v && ((trace m v enc).steps w).all (Step.quiet? (v :: around))

theorem orderly_of_orderly? (h : orderly? m v around enc w = true) : Orderly m v around enc w := by
  simp only [orderly?, Bool.and_eq_true, Bool.not_eq_true', List.contains_eq_mem, decide_eq_false_iff_not] at h
  obtain ⟨⟨hs, hv⟩, hsteps⟩ := h
  refine ⟨World.atStage_of_atStage? hs, hv, fun b a hmem => .code fun o ho s hs => ?_⟩
  have hquiet := List.all_eq_true.1 (List.all_eq_true.1 hsteps _ hmem) o ho
  obtain ⟨hstage, hsame⟩ := Bool.and_eq_true_iff.1 hquiet
  have hown := World.stage?_eq_some.1 ((beq_iff_eq.1 hsame).trans (World.stage?_eq_some.2 hs.own))
  exact ⟨hown, (World.atStage_of_atStage? hstage).computed⟩

/-- Whether a failure leaves a render. -/
def fails? (m : Interpreter) (v : Ref) (enc : Value) (w : World) : Bool :=
  match render m (.ref v) enc w with
  | .error (.raised r) u => u.isFailure r.value
  | _ => false

theorem raises_of_fails? (h : fails? m v enc w = true) :
    ∃ e u, Raises (render m (.ref v) enc) w e u ∧ u.isFailure e = true := by
  unfold fails? at h
  split at h
  · rename_i r u hr
    exact ⟨r.value, u, .of_error hr, h⟩
  · cases h

end

end View

/-- A page and a card, which have the same layout; the page knows the card and one more of its kind. The card is
at place 8, the other one at 17 and the page at 29. -/
def cardPage (page card : String) : World := World.after (do
  ContextClass.setUp
  modify fun w => { w with files := sourceFiles [("page", page), ("card", card),
    ("layout", "<p><%= content() %></p>")] }
  let cards ← defineView "Card" "card" []
  let kid ← View.create machine cards {}
  let box ← View.create machine cards {}
  let _ ← View.create machine (← defineView "Page" "page" []) { named := [("kid", kid), ("box", box)] }) {}

/-- The world in which the page renders the card that it has deferred. -/
def cardTurn (w : World) : World := Option.getD (do
  let ⟨(encoding, w'), _⟩ ← View.begun? (interpreter 6000) (.ref 29) .none w
  let ⟨(x, u), _⟩ ← View.turn? (interpreter 6000) (.ref 29) encoding w'
  return u.after ((interpreter 6000).evaluate { globals := x.globals } x.code)) w

/-- A page that has failed, since there is no such encoding. -/
def failedPage : World :=
  (cardPage "<%-> kid %>" "card").after (View.render (interpreter 6000) (.ref 29) (.str "none"))

theorem failedPage_checks : (View.orderly? (interpreter 6000) 29 [] .none failedPage &&
    failedPage.stage? 29 == some .failed &&
    View.path (interpreter 6000) 29 .none failedPage == [.idle, .contentCompiling, .contentExecuting,
      .layoutCompiling, .layoutExecuting, .deferredResolution, .done] &&
    View.orderly? (interpreter 5990) 8 [29] .none (cardTurn failedPage) &&
    (cardTurn failedPage).stage? 29 == some .deferredResolution &&
    (View.path (interpreter 5990) 8 .none (cardTurn failedPage)).getLast? == some .done) = true := by
  decide +kernel

/-- The page that has failed is rendered again. It starts from the first stage and gets to the last one. In
its last stage but one its card does the same, and the page stays at this stage. -/
theorem failedPage_follows_stages :
    (failedPage.stage? 29 = some .failed ∧ View.FollowsStages (interpreter 6000) 29 [] .none failedPage ∧
      View.path (interpreter 6000) 29 .none failedPage = [.idle, .contentCompiling, .contentExecuting,
        .layoutCompiling, .layoutExecuting, .deferredResolution, .done]) ∧
    (cardTurn failedPage).stage? 29 = some .deferredResolution ∧
      View.FollowsStages (interpreter 5990) 8 [29] .none (cardTurn failedPage) ∧
      (View.path (interpreter 5990) 8 .none (cardTurn failedPage)).getLast? = some .done := by
  have h := failedPage_checks
  -- The worlds have been looked into; from here on they could be any.
  generalize cardTurn failedPage = turn at h ⊢
  generalize failedPage = page at h ⊢
  simp only [Bool.and_eq_true, beq_iff_eq] at h
  obtain ⟨⟨⟨⟨⟨hpage, hfailed⟩, hpath⟩, hcard⟩, hresolves⟩, hdone⟩ := h
  have hpage' := View.render_follows_stages (n := 5999) (View.orderly_of_orderly? hpage)
  have hcard' := View.render_follows_stages (n := 5989) (View.orderly_of_orderly? hcard)
  exact ⟨⟨hfailed, hpage', hpath⟩, hresolves, hcard', hdone⟩

/-- A page that exits. -/
def exitingPage : World := cardPage "<% raise SystemExit %>" "card"

/-- A page with a card that takes something for its bundle that is none. -/
def bundleless : World := (cardPage "<%-> kid %>" "card").after (do
  setAttribute (.ref 17) "use_layout" (.bool false)
  setAttribute (.ref 17) "bundle" (.method (← newList [.ref 17]) "pop")
  setAttribute (.ref 17) "register" (.type (.plain "bool"))
  setAttribute (.ref 8) "config" (.ref 17))

/-- A page whose settings have been replaced by a number. -/
def unsettled : World := (cardPage "page" "card").after (setAttribute (.ref 29) "settings" (.int 5))

theorem stray_checks : (View.orderly? (interpreter 6000) 29 [] .none exitingPage &&
    View.path (interpreter 6000) 29 .none exitingPage == [.idle, .contentCompiling, .contentExecuting] &&
    View.orderly? (interpreter 5990) 8 [29] .none (cardTurn bundleless) &&
    (View.path (interpreter 5990) 8 .none (cardTurn bundleless)).getLast? == some .done &&
    View.fails? (interpreter 5990) 8 .none (cardTurn bundleless) &&
    View.orderly? (interpreter 6000) 29 [] .none unsettled &&
    View.path (interpreter 6000) 29 .none unsettled == [] &&
    View.fails? (interpreter 6000) 29 .none unsettled) = true := by
  decide +kernel

/-- An exit breaks off the stages and is no failure. A view is done although a failure leaves its render when
the bundle is given away, and a render that finds no encoding fails before all stages. -/
theorem not_every_render_is_done_or_failed :
    (View.Orderly (interpreter 6000) 29 [] .none exitingPage ∧
      View.path (interpreter 6000) 29 .none exitingPage ∉ View.fullCourses ∧
      ∀ p ∈ View.brokenCourses, View.path (interpreter 6000) 29 .none exitingPage ≠ p ++ [.failed]) ∧
    (View.Orderly (interpreter 5990) 8 [29] .none (cardTurn bundleless) ∧
      (View.path (interpreter 5990) 8 .none (cardTurn bundleless)).getLast? = some .done ∧
      ∃ e u, Raises (View.render (interpreter 5990) (.ref 8) .none) (cardTurn bundleless) e u ∧
        u.isFailure e = true) ∧
    View.Orderly (interpreter 6000) 29 [] .none unsettled ∧
      View.path (interpreter 6000) 29 .none unsettled = [] ∧
      ∃ e u, Raises (View.render (interpreter 6000) (.ref 29) .none) unsettled e u ∧ u.isFailure e = true := by
  have h := stray_checks
  generalize exitingPage = exiting at h ⊢
  generalize cardTurn bundleless = turn at h ⊢
  generalize unsettled = w at h ⊢
  simp only [Bool.and_eq_true, beq_iff_eq] at h
  obtain ⟨⟨⟨⟨⟨⟨⟨hexiting, hexit⟩, hturn⟩, hdone⟩, hgive⟩, hw⟩, hnone⟩, hencoding⟩ := h
  rw [hexit]
  exact ⟨⟨View.orderly_of_orderly? hexiting, by decide, by decide⟩,
    ⟨View.orderly_of_orderly? hturn, hdone, View.raises_of_fails? hgive⟩,
    View.orderly_of_orderly? hw, hnone, View.raises_of_fails? hencoding⟩

end Stencil
