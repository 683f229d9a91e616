import Stencil.Proofs.LiteralText
import Stencil.Proofs.NameLayers
import Stencil.Proofs.NestedFailures

/-!
# What a run writes

The fragment of a run holds what its literals and directives have written, in the order in which each came
to its end. A literal writes its text, a plain directive what the hook makes of its value, and a deferred
directive writes an expression of its own, which it adds to the pass as well. Loops, branches and calls
decide which of them are executed and in what order; nothing that they do changes what has been written.
-/

namespace Stencil

open World Evaluation Script

/-- What a literal or a directive has written. -/
inductive Contribution where
  | literal (s : Segment)
  /-- A plain directive, with its value before the hook has seen it and the chunks it came to. -/
  | value (s : Segment) (raw : Value) (chunks : List Value)
  | deferred (s : Segment) (b : Ref)

namespace Contribution

/-- What has been added to the fragment. -/
def chunks : Contribution → List Value
  | literal s => [.str s.code]
  | value _ _ cs => cs
  | deferred _ b => [.ref b]

/-- What has been added to the pass. -/
def bindings : Contribution → List Ref
  | deferred _ b => [b]
  | _ => []

end Contribution

/-! ## Statements that write -/

/-- An object may be put in its own place. -/
theorem World.put_at' (r : Ref) (w : World) : w.put r (w.at' r) = w := by
  have hobjects : w.objects.setIfInBounds r (w.at' r) = w.objects := by
    refine Array.ext (by simp) fun i _ hi => ?_
    rw [Array.getElem_setIfInBounds]
    split
    · next h =>
      subst h
      simp [at', Array.getD, hi]
    · rfl
  rw [put, if_pos rfl, hobjects]

namespace Fragment

variable {m : Interpreter} {r : Ref} {v : Value} {w u : World}

/-- What a value adds to a fragment: nothing if it is absent, its chunks if it is a fragment itself, and
its text otherwise. -/
def chunksFor (m : Interpreter) (v : Value) : Action (List Value) := do
  match v, ← object? v with
  | _, some (.fragment more) => return more.toList
  | .none, _ => return []
  | v, _ => return [.str (← m.text v)]

theorem withChunks_nil (r : Ref) (w : World) : w.withChunks r [] = w := by
  unfold withChunks
  rw [List.append_nil]
  cases h : w.at' r with
  | fragment cs =>
    have hput := put_at' r w
    rw [h] at hput
    exact hput
  | _ => exact put_of_shape_ne (by rw [h]; rintro ⟨⟩)

theorem at'_withChunks {ds : Array Value} (cs : List Value) (h : w.at' r = .fragment ds) :
    (w.withChunks r cs).at' r = .fragment (ds.toList ++ cs).toArray := by
  unfold withChunks
  rw [h]
  exact at'_put_self (lt_size_of_at' h (by rintro ⟨⟩)) h rfl

theorem evolves_withChunks (r : Ref) (w : World) (cs : List Value) : w.Evolves (w.withChunks r cs) := by
  refine World.Evolves.put (.refl w) fun _ hs => ?_
  cases ho : w.at' r with
  | fragment ds =>
    exact ⟨rfl, by rintro ⟨⟩, by simp [Object.chunks], List.prefix_rfl, by rintro _ ⟨⟩, by rintro _ ⟨⟩⟩
  | _ => rw [ho] at hs; cases hs

theorem append_ok (r : Ref) (v : Value) (w : World) : append r v w = .ok () (w.withChunks r [v]) := by
  unfold append
  rw [bind_of_ok (chunks_eq r w), List.push_toArray]
  rfl

/-- Writing a value adds to the fragment what the value comes to. -/
theorem appendValue_eq_ok : appendValue m r v w = .ok () u ↔
    ∃ cs w₁, chunksFor m v w = .ok cs w₁ ∧ w₁.withChunks r cs = u := by
  obtain ⟨o, ho⟩ := object?_ok v w
  unfold appendValue chunksFor
  rw [bind_of_ok ho, bind_of_ok ho]
  split
  · rename_i more
    have hchunks : (w.at' r).chunks.toArray ++ more = ((w.at' r).chunks ++ more.toList).toArray := by simp
    rw [bind_of_ok (chunks_eq r w), hchunks]
    simp [withChunks]
  · simp [withChunks_nil]
  · simp only [bind_eq_ok, append_ok, pure_eq_ok]
    constructor
    · rintro ⟨s, w₁, hs, h⟩
      cases h
      exact ⟨_, w₁, ⟨s, w₁, hs, rfl, rfl⟩, rfl⟩
    · rintro ⟨_, w₁, ⟨s, _, hs, rfl, rfl⟩, rfl⟩
      exact ⟨s, _, hs, rfl⟩

end Fragment

namespace Evaluation

variable {k line : Nat} {env : Env} {f : String} {e : Expr} {g v y : Value} {flow : Flow} {w w₁ u : World}

/-- A statement that calls a function with one value does nothing else. -/
theorem executeStmt_call_eq_ok (hf : readName (interpreter k) env f w = .ok g w) :
    executeStmt (interpreter (k + 3)) env (.at line (.expr (.call (.name f) [.positional e]))) w =
        .ok flow u ↔
      flow = .next ∧ ∃ v w₁ y, (interpreter (k + 1)).evaluate env e w = .ok v w₁ ∧
        callValue (interpreter k) g { items := [v] } w₁ = .ok y u := by
  constructor
  · intro h
    have hblock : executeBlock (interpreter (k + 2)) env [.expr (.call (.name f) [.positional e])] w =
        .ok flow u := onLine_eq_ok h
    obtain ⟨_, w', hexpr, hblock⟩ := bind_eq_ok.1 hblock
    obtain ⟨y, _, hcall, hflow⟩ := bind_eq_ok.1 hexpr
    obtain ⟨rfl, rfl⟩ := pure_eq_ok.1 hflow
    obtain ⟨rfl, rfl⟩ := pure_eq_ok.1 hblock
    obtain ⟨g', _, hg, hcall⟩ := bind_eq_ok.1 hcall
    cases hf.symm.trans hg
    obtain ⟨args, w₁, harguments, hcall⟩ := bind_eq_ok.1 hcall
    obtain ⟨v, _, hv, harguments⟩ := bind_eq_ok.1 harguments
    obtain ⟨rfl, rfl⟩ := pure_eq_ok.1 harguments
    exact ⟨rfl, v, _, y, hv, hcall⟩
  · rintro ⟨rfl, v, w₁, y, hv, hy⟩
    exact executeStmt_call hf hv hy

end Evaluation

/-- A line of the script comes from a segment. -/
def Template.HasLine (t : Template) (line index : Nat) (s : Segment) : Prop :=
  t.listing.segmentIndexAt line = some index ∧ t.program.segments[index]? = some s

/-- Objects stay where they are and evolve. -/
structure World.Lasts (w u : World) : Prop where
  size : w.objects.size ≤ u.objects.size
  objects : ∀ r : Nat, r < w.objects.size → (w.at' r).Evolves (u.at' r)

namespace World.Lasts

variable {w u v : World}

theorem trans (h : w.Lasts u) (h' : u.Lasts v) : w.Lasts v where
  size := Nat.le_trans h.size h'.size
  objects r hr := (h.objects r hr).trans (h'.objects r (Nat.lt_of_lt_of_le hr h.size))

theorem of_evolves (h : w.Evolves u) : w.Lasts u := ⟨h.size, h.objects⟩

theorem binding {r : Nat} {b : Binding} (h : w.Lasts u) (hb : w.at' r = .binding b) :
    ∃ c, u.at' r = .binding c ∧ b.Evolves c :=
  (h.objects r (lt_size_of_binding hb)).binding b hb

theorem shape {r : Nat} {o : Object} (h : w.Lasts u) (hr : w.at' r = o)
    (ho : o.shape ≠ (default : Object).shape) : (u.at' r).shape = o.shape := by
  rw [← hr]
  exact (h.objects r (lt_size_of_at' hr ho)).shape

theorem fragment {r : Nat} {cs : Array Value} (h : w.Lasts u) (hr : w.at' r = .fragment cs) :
    ∃ ds, u.at' r = .fragment ds := by
  have hshape := h.shape hr (by rintro ⟨⟩)
  cases ho : u.at' r with
  | fragment ds => exact ⟨ds, rfl⟩
  | _ => rw [ho] at hshape; cases hshape

theorem pass {r : Nat} {bs : Array Ref} (h : w.Lasts u) (hr : w.at' r = .pass bs) :
    ∃ ds, u.at' r = .pass ds := by
  have hshape := h.shape hr (by rintro ⟨⟩)
  cases ho : u.at' r with
  | pass ds => exact ⟨ds, rfl⟩
  | _ => rw [ho] at hshape; cases hshape

end World.Lasts

/-- A statement that reserves the place of a deferred expression. -/
def Script.Stmt.deferring (line index : Nat) : Stmt :=
  .at line (.expr (.call (.name "_tpl_defer") [.positional (.constant (.int index))]))

namespace Run

variable {x : Run} {run : Ref} {k line : Nat} {env : Env} {w u : World}

/-- A run is where it is kept, with its fragment and its pass. -/
structure InPlace (x : Run) (run : Ref) (w : World) : Prop where
  run : w.at' run = .run x
  fragment : ∃ cs, w.at' x.fragment = .fragment cs
  pass : ∃ bs, w.at' x.pass = .pass bs

/-- The names of the functions of a run stand for them. -/
structure HasNames (x : Run) (run : Ref) (env : Env) (w : World) : Prop where
  write : ∀ m, readName m env "_tpl_write" w = .ok (.method (.ref x.fragment) "append") w
  emit : ∀ m, readName m env "_tpl_emit" w = .ok (.helper .emit run) w
  defer : ∀ m, readName m env "_tpl_defer" w = .ok (.helper .defer run) w

/-- What the statements of literals and directives do. A text is written as it is. A value is seen by the
hook once, and what comes of it is written. A deferred expression is not seen by the hook either. -/
structure Writes (x : Run) (k line : Nat) (env : Env) (w : World) : Prop where
  literal (s : String) : executeStmt (interpreter (k + 3)) env (writingStmt line s) w =
    .ok .next (w.withChunks x.fragment [.str s])
  value (e : Expr) (flow : Flow) (u : World) :
    executeStmt (interpreter (k + 3)) env (.writing line e) w = .ok flow u ↔
      flow = .next ∧ ∃ v w₁ z w₂ cs w₃, (interpreter (k + 1)).evaluate env e w = .ok v w₁ ∧
        x.hooked (interpreter k) v w₁ = .ok z w₂ ∧
        Fragment.chunksFor (interpreter k) z w₂ = .ok cs w₃ ∧ w₃.withChunks x.fragment cs = u
  deferred (index : Nat) (flow : Flow) (u : World) :
    executeStmt (interpreter (k + 3)) env (.deferring line index) w = .ok flow u ↔
      flow = .next ∧ x.defer (.int index) w = .ok () u

theorem at'_run (h : w.at' run = .run x) (hu : w.Lasts u) : u.at' run = .run x :=
  ((hu.objects run (lt_size_of_at' h (by rintro ⟨⟩))).fixed (by rw [h]; rfl)).trans h

theorem callValue_emit {m : Interpreter} {v : Value} (h : w.at' run = .run x) :
    callValue m (.helper .emit run) { items := [v] } w =
      (x.emit m v >>= fun _ => pure Value.none) w :=
  bind_of_ok (load_eq h)

theorem callValue_defer {m : Interpreter} {v : Value} (h : w.at' run = .run x) :
    callValue m (.helper .defer run) { items := [v] } w =
      (x.defer v >>= fun _ => pure Value.none) w :=
  bind_of_ok (load_eq h)

theorem InPlace.writes (h : x.InPlace run w) (k line : Nat) (hnames : x.HasNames run env w) :
    x.Writes k line env w where
  literal s := by
    obtain ⟨cs, hcs⟩ := h.fragment
    have hcall : callValue (interpreter k) (.method (.ref x.fragment) "append") { items := [.str s] } w =
        .ok .none (w.withChunks x.fragment [.str s]) := by
      refine (callMethod_append (interpreter k) (.str s) hcs).trans ?_
      rw [withChunks, hcs, Object.chunks, ← List.push_toArray]
    exact executeStmt_call (hnames.write _) rfl hcall
  value e flow u := by
    refine (executeStmt_call_eq_ok (hnames.emit _)).trans (and_congr_right fun _ => ?_)
    constructor
    · rintro ⟨v, w₁, y, hv, hy⟩
      rw [callValue_emit (at'_run h.run (.of_evolves (Evolving.of_ok inferInstance hv)))] at hy
      obtain ⟨_, _, hemit, hy⟩ := bind_eq_ok.1 hy
      obtain ⟨-, rfl⟩ := pure_eq_ok.1 hy
      obtain ⟨z, w₂, hz, happend⟩ := bind_eq_ok.1 hemit
      obtain ⟨cs, w₃, hcs, hu⟩ := Fragment.appendValue_eq_ok.1 happend
      exact ⟨v, w₁, z, w₂, cs, w₃, hv, hz, hcs, hu⟩
    · rintro ⟨v, w₁, z, w₂, cs, w₃, hv, hz, hcs, hu⟩
      have hemit : x.emit (interpreter k) v w₁ = .ok () u :=
        (bind_of_ok hz).trans (Fragment.appendValue_eq_ok.2 ⟨cs, w₃, hcs, hu⟩)
      refine ⟨v, w₁, .none, hv, ?_⟩
      rw [callValue_emit (at'_run h.run (.of_evolves (Evolving.of_ok inferInstance hv))), bind_of_ok hemit]
      rfl
  deferred index flow u := by
    refine (executeStmt_call_eq_ok (hnames.defer _)).trans (and_congr_right fun _ => ?_)
    constructor
    · rintro ⟨v, w₁, y, hv, hy⟩
      obtain ⟨rfl, rfl⟩ := pure_eq_ok.1 (hv : (pure (.int index) : Action Value) w = _)
      rw [callValue_defer h.run] at hy
      obtain ⟨_, _, hdefer, hy⟩ := bind_eq_ok.1 hy
      obtain ⟨-, rfl⟩ := pure_eq_ok.1 hy
      exact hdefer
    · intro hdefer
      refine ⟨.int index, w, .none, rfl, ?_⟩
      rw [callValue_defer h.run, bind_of_ok hdefer]
      rfl

/-! ## The course of a run -/

/-- What is done leaves the fragment and the pass of a run as they are. -/
structure Untouched (x : Run) (w u : World) : Prop where
  lasts : w.Lasts u
  fragment : u.at' x.fragment = w.at' x.fragment
  pass : u.at' x.pass = w.at' x.pass

/-- What the literals and directives of a run write in the course of a computation, in the order in which
they come to their end, and what the computation comes to. A literal or directive may be executed anywhere
in it, also while the value of another one is found; nothing else touches the fragment and the pass. -/
inductive Contributes (x : Run) (run : Ref) : {α : Type} → World → Action α → List Contribution →
    EStateM.Result Stop World α → Prop
  | other {α : Type} {a : Action α} {w : World} {r : EStateM.Result Stop World α} : a w = r →
      x.Untouched w (w.after a) → x.Contributes run w a [] r
  | next {α β : Type} {a : Action α} {f : α → Action β} {v : α} {w u : World}
      {es more : List Contribution} {r : EStateM.Result Stop World β} : x.Contributes run w a es (.ok v u) →
      x.Contributes run u (f v) more r → x.Contributes run w (a >>= f) (es ++ more) r
  | stop {α β : Type} {a : Action α} {f : α → Action β} {e : Stop} {w u : World}
      {es : List Contribution} : x.Contributes run w a es (.error e u) →
      x.Contributes run w (a >>= f) es (.error e u)
  | caught {α : Type} {a : Action α} {e : Stop} {w u : World} {es : List Contribution} :
      x.Contributes run w a es (.error e u) → x.Contributes run w (attempt a) es (.ok (.error e) u)
  | tried {α : Type} {a : Action α} {v : α} {w u : World} {es : List Contribution} :
      x.Contributes run w a es (.ok v u) → x.Contributes run w (attempt a) es (.ok (.ok v) u)
  | literal {k line index : Nat} {env : Env} {w : World} {s : Segment} :
      x.template.HasLine line index s → s.kind = .literal → x.HasNames run env w →
      x.Contributes run w (executeStmt (interpreter (k + 3)) env (writingStmt line s.code)) [.literal s]
        (.ok .next (w.withChunks x.fragment [.str s.code]))
  | value {k line index : Nat} {env : Env} {e : Expr} {w w₁ w₂ w₃ : World} {s : Segment} {v z : Value}
      {cs : List Value} {es₁ es₂ es₃ : List Contribution} :
      x.template.HasLine line index s → s.kind = .interpolation → x.HasNames run env w →
      x.Contributes run w ((interpreter (k + 1)).evaluate env e) es₁ (.ok v w₁) →
      x.Contributes run w₁ (x.hooked (interpreter k) v) es₂ (.ok z w₂) →
      x.Contributes run w₂ (Fragment.chunksFor (interpreter k) z) es₃ (.ok cs w₃) →
      x.Contributes run w (executeStmt (interpreter (k + 3)) env (.writing line e))
        (es₁ ++ es₂ ++ es₃ ++ [.value s v cs]) (.ok .next (w₃.withChunks x.fragment cs))
  | deferred {k line index : Nat} {env : Env} {w u : World} {s : Segment} :
      x.template.HasLine line index s → s.kind = .deferred → x.HasNames run env w →
      x.defer (.int index) w = .ok () u →
      x.Contributes run w (executeStmt (interpreter (k + 3)) env (.deferring line index))
        [.deferred s (w.objects.size + 1)] (.ok .next u)

/-- An expression is the one of a deferred directive. -/
structure IsDeferred (x : Run) (s : Segment) (b : Binding) : Prop where
  template : b.templateName = x.template.name
  segment : b.segment = s
  code : ∃ index, x.template.program.segments[index]? = some s ∧ (index, b.code) ∈ x.template.deferred

/-- What a computation has added to the fragment and to the pass of a run. -/
structure Adds (x : Run) (w : World) (es : List Contribution) (u : World) : Prop where
  lasts : w.Lasts u
  chunks : (u.at' x.fragment).chunks = (w.at' x.fragment).chunks ++ es.flatMap (·.chunks)
  bindings : (u.at' x.pass).bindings = (w.at' x.pass).bindings ++ es.flatMap (·.bindings)
  /-- Each deferred directive has an expression of its own, which is new. -/
  deferred : ∀ s b, .deferred s b ∈ es → ∃ c, u.at' b = .binding c ∧ x.IsDeferred s c
  fresh : ∀ b ∈ es.flatMap (·.bindings), w.objects.size ≤ b ∧ b < u.objects.size
  increasing : (es.flatMap (·.bindings)).Pairwise (· < ·)

variable {v : World} {es more : List Contribution} {s : Segment} {c d : Binding}

theorem IsDeferred.evolves (h : x.IsDeferred s c) (hd : c.Evolves d) : x.IsDeferred s d where
  template := hd.templateName.trans h.template
  segment := hd.segment.trans h.segment
  code := by rw [hd.code]; exact h.code

/-- What a directive defers is the expression of its segment. -/
theorem Defers.isDeferred {line index : Nat} {names : Ref} (h : x.Defers (.int index) names c)
    (hs : x.template.HasLine line index s) : x.IsDeferred s c := by
  have hlt : index < x.template.program.segments.length := (List.getElem?_eq_some_iff.1 hs.2).1
  have hposition : position? x.template.program.segments.length index = some index := by
    have hrange : ¬ (index : Int) < 0 := by omega
    simp [position?, hrange, hlt]
  refine ⟨h.template, ?_, index, hs.2, ?_⟩
  · have hsegment : (position? x.template.program.segments.length index).bind
        (x.template.program.segments[·]?) = some c.segment := h.segment
    rw [hposition] at hsegment
    exact Option.some.inj (hsegment.symm.trans hs.2)
  · obtain ⟨d, hd : x.template.deferred.find? (fun d => (d.1 : Int) == index) = some d, hcode⟩ := h.code
    have hindex : d.1 = index := Int.ofNat.inj (by simpa using List.find?_some hd)
    rw [← hcode, ← hindex]
    exact List.mem_of_find?_eq_some hd

/-- A run stays in its place, whatever evolves. -/
theorem InPlace.lasts (h : x.InPlace run w) (hu : w.Lasts u) : x.InPlace run u := by
  obtain ⟨hrun, ⟨cs, hcs⟩, bs, hbs⟩ := h
  exact ⟨at'_run hrun hu, hu.fragment hcs, hu.pass hbs⟩

namespace Adds

theorem of_untouched (h : x.Untouched w u) : x.Adds w [] u where
  lasts := h.lasts
  chunks := by rw [h.fragment]; simp
  bindings := by rw [h.pass]; simp
  deferred := by simp
  fresh := by simp
  increasing := by simp

theorem trans (h : x.Adds w es u) (h' : x.Adds u more v) : x.Adds w (es ++ more) v where
  lasts := h.lasts.trans h'.lasts
  chunks := by rw [h'.chunks, h.chunks, List.flatMap_append, List.append_assoc]
  bindings := by rw [h'.bindings, h.bindings, List.flatMap_append, List.append_assoc]
  deferred s b hb := by
    rcases List.mem_append.1 hb with hb | hb
    · obtain ⟨c, hc, hs⟩ := h.deferred s b hb
      obtain ⟨d, hd, hcd⟩ := h'.lasts.binding hc
      exact ⟨d, hd, hs.evolves hcd⟩
    · exact h'.deferred s b hb
  fresh b hb := by
    rw [List.flatMap_append] at hb
    rcases List.mem_append.1 hb with hb | hb
    · exact ⟨(h.fresh b hb).1, Nat.lt_of_lt_of_le (h.fresh b hb).2 h'.lasts.size⟩
    · exact ⟨Nat.le_trans h.lasts.size (h'.fresh b hb).1, (h'.fresh b hb).2⟩
  increasing := by
    rw [List.flatMap_append, List.pairwise_append]
    exact ⟨h.increasing, h'.increasing, fun b hb c hc =>
      Nat.lt_of_lt_of_le (h.fresh b hb).2 (h'.fresh c hc).1⟩

/-- What is written goes to the fragment alone. -/
theorem withChunks {e : Contribution} {cs : List Value} (h : x.InPlace run w) (hcs : e.chunks = cs)
    (he : e.bindings = []) : x.Adds w [e] (w.withChunks x.fragment cs) := by
  obtain ⟨-, ⟨ds, hds⟩, bs, hbs⟩ := h
  have hbindings : [e].flatMap (·.bindings) = [] := by simp [he]
  refine ⟨.of_evolves (Fragment.evolves_withChunks _ w cs), ?_, ?_, ?_, by simp [hbindings],
    by simp [hbindings]⟩
  · rw [Fragment.at'_withChunks cs hds, hds]
    simp [Object.chunks, hcs]
  · rw [World.withChunks, at'_put_of_shape_ne (by rw [hbs]; rintro ⟨⟩), hbindings, List.append_nil]
  · rintro s b hb
    obtain rfl := List.mem_singleton.1 hb
    cases he

/-- A deferred directive adds its expression to the pass and to the fragment. -/
theorem defer {line index : Nat} (h : x.InPlace run w) (hs : x.template.HasLine line index s)
    (hdefer : x.defer (.int index) w = .ok () u) : x.Adds w [.deferred s (w.objects.size + 1)] u := by
  have hlasts : w.Lasts u := .of_evolves (Evolving.of_ok inferInstance hdefer)
  obtain ⟨-, ⟨ds, hds⟩, bs, hbs⟩ := h
  obtain ⟨names, c, hc, -, rfl⟩ := defer_written hdefer
  have hsize : (w.push names).objects.size = w.objects.size + 1 := size_push w names
  let v := (w.push names).push (.binding c)
  have hold {r : Nat} (hr : r < w.objects.size) : v.at' r = w.at' r :=
    (at'_push_of_lt (by omega)).trans (at'_push_of_lt hr)
  have hfragment : v.at' x.fragment = .fragment ds :=
    (hold (lt_size_of_at' hds (by rintro ⟨⟩))).trans hds
  have hpass : v.at' x.pass = .pass bs := (hold (lt_size_of_at' hbs (by rintro ⟨⟩))).trans hbs
  have hnew : v.at' (w.objects.size + 1) = .binding c := hsize ▸ at'_push_size (w.push names) _
  let v₁ := v.withBinding x.pass (w.objects.size + 1)
  have hfragment₁ : v₁.at' x.fragment = .fragment ds :=
    (at'_put_of_shape_ne (by rw [hfragment]; rintro ⟨⟩)).trans hfragment
  have hpass₁ : v₁.at' x.pass = .pass (bs.push (w.objects.size + 1)) := by
    change (v.put x.pass (.pass ((v.at' x.pass).bindings.toArray.push _))).at' x.pass = _
    rw [hpass]
    exact at'_put_self (lt_size_of_at' hpass (by rintro ⟨⟩)) hpass rfl
  have hnew₁ : v₁.at' (w.objects.size + 1) = .binding c :=
    (at'_put_of_shape_ne (by rw [hnew]; rintro ⟨⟩)).trans hnew
  rw [hsize] at hlasts ⊢
  refine ⟨hlasts, ?_, ?_, ?_, ?_, by simp [Contribution.bindings]⟩
  · rw [Fragment.at'_withChunks _ hfragment₁, hds]
    simp [Object.chunks, Contribution.chunks]
  · rw [World.withChunks, at'_put_of_shape_ne (by rw [hpass₁]; rintro ⟨⟩), hpass₁, hbs]
    simp [Object.bindings, Contribution.bindings]
  · intro s' b hb
    cases List.mem_singleton.1 hb
    exact ⟨c, (at'_put_of_shape_ne (by rw [hnew₁]; rintro ⟨⟩)).trans hnew₁, hc.isDeferred hs⟩
  · intro b hb
    obtain rfl : b = w.objects.size + 1 := by simpa [Contribution.bindings] using hb
    simp [World.withChunks, World.withBinding]

end Adds

/-- A computation comes to what its course says, and what it has added to the fragment and to the pass is
what the literals and directives in it have written. -/
theorem Contributes.adds {α : Type} {a : Action α} {r : EStateM.Result Stop World α}
    (hes : x.Contributes run w a es r) (h : x.InPlace run w) : a w = r ∧ x.Adds w es (w.after a) := by
  induction hes with
  | other hr ha => exact ⟨hr, .of_untouched ha⟩
  | next _ _ ih ihmore =>
    obtain ⟨ha, hadds⟩ := ih h
    rw [after_of_ok ha] at hadds
    obtain ⟨hf, hmore⟩ := ihmore (h.lasts hadds.lasts)
    rw [after_bind_of_ok ha]
    exact ⟨(bind_of_ok ha).trans hf, hadds.trans hmore⟩
  | stop _ ih =>
    obtain ⟨ha, hadds⟩ := ih h
    rw [after_of_error ha] at hadds
    rw [after_bind_of_error ha]
    exact ⟨bind_of_error ha, hadds⟩
  | caught _ ih =>
    rw [after_attempt]
    exact ⟨attempt_of_error (ih h).1, (ih h).2⟩
  | tried _ ih =>
    rw [after_attempt]
    exact ⟨attempt_of_ok (ih h).1, (ih h).2⟩
  | @literal k line _ _ _ s _ _ hnames =>
    have hwrite := (h.writes k line hnames).literal s.code
    rw [after_of_ok hwrite]
    exact ⟨hwrite, .withChunks h rfl rfl⟩
  | @value k line _ _ e _ _ _ _ _ _ _ _ _ _ _ _ _ hnames _ _ _ ihv ihz ihcs =>
    -- The value is found, the hook sees it, and its text is found, before anything of it is written.
    obtain ⟨hv, hfound⟩ := ihv h
    rw [after_of_ok hv] at hfound
    obtain ⟨hz, hseen⟩ := ihz (h.lasts hfound.lasts)
    rw [after_of_ok hz] at hseen
    obtain ⟨hcs, htold⟩ := ihcs (h.lasts (hfound.trans hseen).lasts)
    rw [after_of_ok hcs] at htold
    have hbefore := (hfound.trans hseen).trans htold
    have hwrite := ((h.writes k line hnames).value e _ _).2 ⟨rfl, _, _, _, _, _, _, hv, hz, hcs, rfl⟩
    rw [after_of_ok hwrite]
    exact ⟨hwrite, hbefore.trans (.withChunks (h.lasts hbefore.lasts) rfl rfl)⟩
  | @deferred k line index _ _ _ _ hline _ hnames hdefer =>
    have hwrite := ((h.writes k line hnames).deferred index _ _).2 ⟨rfl, hdefer⟩
    rw [after_of_ok hwrite]
    exact ⟨hwrite, .defer h hline hdefer⟩

namespace Contributes

variable {α β : Type} {a : Action α} {f : α → Action β} {r : EStateM.Result Stop World α}

/-- What only looks at the world writes nothing. -/
theorem reading (hr : a w = r) (h : w.after a = w) : x.Contributes run w a [] r := by
  refine .other hr ?_
  rw [h]
  exact ⟨⟨Nat.le_refl _, fun _ _ => .refl _⟩, rfl, rfl⟩

/-- What an interpreter does writes nothing when the fragment and the pass are the same as before. -/
theorem spare [ha : Evolving a] (hr : a w = r)
    (hfragment : (w.after a).at' x.fragment = w.at' x.fragment)
    (hpass : (w.after a).at' x.pass = w.at' x.pass) : x.Contributes run w a [] r :=
  .other hr ⟨.of_evolves (ha.evolves w), hfragment, hpass⟩

/-- What writes nothing does not matter at the beginning. -/
theorem first {v : α} {r : EStateM.Result Stop World β} (h : x.Contributes run w a [] (.ok v u))
    (hf : x.Contributes run u (f v) es r) : x.Contributes run w (a >>= f) es r :=
  .next h hf

/-- Nor does it at the end. -/
theorem last {v : α} {r : EStateM.Result Stop World β} (h : x.Contributes run w a es (.ok v u))
    (hf : x.Contributes run u (f v) [] r) : x.Contributes run w (a >>= f) es r :=
  List.append_nil es ▸ .next h hf

/-- The mark of a line writes nothing. -/
theorem marked {v : α} (h : x.Contributes run w a es (.ok v u)) :
    x.Contributes run w (onLine env line a) es (.ok v u) := by
  unfold onLine
  split
  · exact .last h.tried (.reading rfl rfl)
  · exact h

end Contributes

end Run

namespace Template

variable {t : Template} {n : Nat} {context inner : Value} {pass : Option Ref}
  {values : List (String × Value)} {x : Run} {w v u : World}

end Template

/-! ## A loop and a deferred directive -/

namespace LoopPage

/-- A page with a loop around a literal and a plain directive, and with a deferred directive behind it. -/
def page : Template where
  name := "page"
  program :=
    { name := "page", lines := 1
      segments := [{ kind := .statement, code := " for v in [None, 1]: ", line := 1, indicator := some "" },
        { kind := .literal, code := "a", line := 1 },
        { kind := .interpolation, code := " v ", line := 1, indicator := some "=" },
        { kind := .statement, code := " end ", line := 1, indicator := some "" },
        { kind := .deferred, code := " 2 ", line := 1, indicator := some "->" }] }
  listing :=
    { lines := [⟨"for v in [None, 1]:".toList, 0⟩, ⟨"    pass".toList, 0⟩, ⟨"    _tpl_write('a')".toList, 1⟩,
        ⟨"    _tpl_emit((".toList, 2⟩, ⟨" v ".toList, 2⟩, ⟨"    ))".toList, 2⟩, ⟨"_tpl_defer(4)".toList, 4⟩] }
  script :=
    [.at 1 (.for (.name "v") (.list [.constant .none, .constant (.int 1)])
      [.at 2 .pass, writingStmt 3 "a", .writing 4 (.at 5 (.name "v"))] [] false), .deferring 7 4]
  deferred := [(4, .constant (.int 2))]

/-- A hook that makes `!` of everything that counts as true, and leaves the rest. -/
def hook : Function :=
  { (default : Function) with
    name := "hook", qualifiedName := "hook", params := [{ name := "v", kind := .positional }]
    body := .expression (.conjunction [.name "v", .constant (.str "!")]), locals := ["v"] }

/-- A context with the hook, and a pass. -/
def world : World where
  objects := #[.function hook, .instance 0 [("hook", .ref 0)], .pass #[]]
  classes := #[{ name := "Hooked", kind := .hooking }]

def run : Run where
  template := page
  context := .ref 1
  hook := some (.ref 0)
  inner := .none
  fragment := 3
  pass := 2
  globals := 4

/-- The names of the page, outside of functions. -/
def env : Env := { globals := 4 }

def start : World := world.after (Template.startRun (interpreter 12) page (.ref 1) (some 2) .none [])

/-- The world while the loop goes on: how far it is, the item that it has bound, what has been written, and
the calls of the hook. -/
def stage (it : Iterator) (bound : List (String × Value)) (chunks : List Value) (calls : List Object) :
    World where
  objects := ⟨[.function hook, .instance 0 [("hook", .ref 0)], .pass #[], .fragment chunks.toArray,
    .globals
      { values := [("self", .ref 1), ("content", .helper .content 5), ("_tpl_write", .method (.ref 3) "append"),
          ("_tpl_emit", .helper .emit 5), ("_tpl_defer", .helper .defer 5)] ++ bound
        context := some (.ref 1) },
    .run run, .list #[.none, .int 1], .iterator it] ++ calls⟩
  classes := world.classes

/-- What a call of the hook leaves behind. -/
def call (v : Value) : Object := .frame { names := ["v"], values := [("v", v)] }

/-- The world after the first item, which is absent. -/
def second : World := stage (.list 6 1) [("v", .none)] [.str "a"] [call .none]

/-- The world in which the loop is left. -/
def left : World :=
  stage (.values [] none) [("v", .int 1)] [.str "a", .str "a", .str "!"] [call .none, call (.int 1)]

def items : Expr := .list [.constant .none, .constant (.int 1)]

def body : Block := [.at 2 .pass, writingStmt 3 "a", .writing 4 (.at 5 (.name "v"))]

/-- A round of the loop. -/
def round (_ : Unit) : Action (Except (Option Flow) Unit) := do
  match ← advance (interpreter 10) 7 with
  | none => return .error none
  | some v =>
    assign (interpreter 10) env v (.name "v")
    match ← (interpreter 10).execute env body with
    | .breakLoop => return .error (some Flow.next)
    | .return v => return .error (some (.return v))
    | _ => return .ok ()

def letter : Segment := { kind := .literal, code := "a", line := 1 }

def item : Segment := { kind := .interpolation, code := " v ", line := 1, indicator := some "=" }

def late : Segment := { kind := .deferred, code := " 2 ", line := 1, indicator := some "->" }

end LoopPage

/-! ## What is written elsewhere -/

namespace Template

end Template

end Stencil
