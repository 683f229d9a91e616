import Stencil.Proofs.CreationOrder

/-!
# How a render fails

What an exception on its way does to the code around it. An exception that the script of a template or a
deferred expression raises is reported with the segment it came from; one that stops a value from being
written in the place of a deferred expression is not.
-/

namespace Stencil

open World Evaluation

section

variable {α β : Type} {w u : World} {e : Stop}

theorem bind_eq_error {x : Action α} {f : α → Action β} :
    (x >>= f) w = .error e u ↔ x w = .error e u ∨ ∃ a v, x w = .ok a v ∧ f a v = .error e u := by
  cases h : x w with
  | ok a v =>
    rw [bind_of_ok h]
    refine ⟨fun hf => .inr ⟨a, v, rfl, hf⟩, fun hf => ?_⟩
    obtain h' | ⟨_, _, h', hf⟩ := hf
    · cases h'
    · cases h'
      exact hf
  | error d v =>
    rw [bind_of_error h]
    constructor
    · rintro ⟨⟩
      exact .inl rfl
    · rintro (⟨⟨⟩⟩ | ⟨_, _, ⟨⟩, _⟩)
      rfl

@[simp] theorem pure_eq_error {a : α} : ¬ (pure a : Action α) w = .error e u := by
  rintro ⟨⟩

@[simp] theorem throw_eq_error {d : Stop} : (throw d : Action α) w = .error e u ↔ d = e ∧ w = u := by
  change EStateM.Result.error d w = .error e u ↔ _
  simp

end

/-! ## Computations that only look -/

/-- A computation that always gives a value and changes nothing. -/
class Looking {α : Type} (x : Action α) : Prop where
  looks : ∀ w : World, ∃ a, x w = .ok a w

section

variable {α β : Type} {w : World}

theorem Looking.bind {x : Action α} {f : α → Action β} (hx : Looking x) (hf : ∀ a, Looking (f a)) :
    Looking (x >>= f) := by
  refine ⟨fun w => ?_⟩
  obtain ⟨a, ha⟩ := hx.looks w
  obtain ⟨b, hb⟩ := (hf a).looks w
  exact ⟨b, (bind_of_ok ha).trans hb⟩

instance looking_pure (a : α) : Looking (pure a : Action α) := ⟨fun _ => ⟨a, rfl⟩⟩

instance looking_load (r : Ref) : Looking (load r) := ⟨fun w => ⟨w.at' r, rfl⟩⟩

instance looking_classAt (id : Nat) : Looking (classAt id) := ⟨fun w => ⟨w.classAt' id, rfl⟩⟩

instance looking_chain (id : Nat) : Looking (chain id) := ⟨fun w => ⟨_, chain_eq w id⟩⟩

instance looking_bind {x : Action α} {f : α → Action β} [hx : Looking x] [hf : ∀ a, Looking (f a)] :
    Looking (x >>= f) := hx.bind hf

instance looking_objectTypeName (o : Object) : Looking (objectTypeName o) := by
  unfold objectTypeName
  repeat' first | infer_instance | split

instance looking_nameOfType (t : TypeRef) : Looking (nameOfType t) := by
  unfold nameOfType
  split <;> infer_instance

instance looking_typeOf (v : Value) : Looking (typeOf v) := by
  unfold typeOf
  repeat' first | infer_instance | with_reducible refine Looking.bind ?_ fun _ => ?_ | split

instance looking_typeName (v : Value) : Looking (typeName v) := by
  unfold typeName
  infer_instance

instance looking_isSubtype (t s : TypeRef) : Looking (isSubtype t s) := by
  unfold isSubtype
  repeat' first | infer_instance | with_reducible refine Looking.bind ?_ fun _ => ?_ | split

instance looking_isInstance (v : Value) (t : TypeRef) : Looking (isInstance v t) := by
  unfold isInstance
  infer_instance

instance looking_passesThrough (v : Value) : Looking (passesThrough v) := by
  unfold passesThrough
  repeat' first | infer_instance | with_reducible refine Looking.bind ?_ fun _ => ?_ | split

end

namespace World

variable {w u : World} {e : Value}

/-- Whether an exception leaves a template as it is. -/
def passes (w : World) (e : Value) : Bool := (w.value? (passesThrough e)).getD false

theorem passesThrough_eq (w : World) (e : Value) : passesThrough e w = .ok (w.passes e) w := by
  obtain ⟨b, hb⟩ := Looking.looks (x := passesThrough e) w
  rw [hb, passes, (World.of_ok hb).1, Option.getD_some]

/-- The name of the type of a value. -/
def nameOfTypeOf (w : World) (v : Value) : String := (w.value? (typeName v)).getD ""

theorem typeName_eq (w : World) (v : Value) : typeName v w = .ok (w.nameOfTypeOf v) w := by
  obtain ⟨s, hs⟩ := Looking.looks (x := typeName v) w
  rw [hs, nameOfTypeOf, (World.of_ok hs).1, Option.getD_some]

end World

/-! ## Reports -/

/-- The world after an exception has been reported with an error text, and the fault for it. -/
def World.reported (w : World) (name : String) (s : Segment) (e : Value) (error : String) : World :=
  let f := Fault.evaluation error s.code { template := some name, line := some s.line }
  let x : ExceptionObject := { type := .fault f.kind, fault := some f, cause := some e }
  let message := "Template " ++ f.place.text ++ " failed: " ++ error
  { w with
    log := w.log.push ("viewer.templates.engine", message)
    objects := w.objects.push (.exception x) }

/-- How an exception that the code of a segment raised leaves the template, and in which world. -/
inductive Reports (m : Interpreter) (name : String) (s : Segment) (e : Value) (w : World) :
    Raised → World → Prop
  /-- Faults, missing templates and what is no failure go on as they are. -/
  | passed (h : w.passes e = true) : Reports m name s e w { value := e } w
  /-- Anything else becomes a fault of the segment. -/
  | fault {text : String} {v : World} (h : w.passes e = false) (htext : m.text e w = .ok text v) :
      Reports m name s e w { value := .ref v.objects.size }
        (v.reported name s e (w.nameOfTypeOf e ++ ": " ++ text))
  /-- An exception without a text gives way to the one that its text raises. -/
  | textless {r : Raised} {v : World} (h : w.passes e = false)
      (htext : m.text e w = .error (.raised r) v) : Reports m name s e w r v

section

variable {m : Interpreter} {name : String} {s : Segment} {e : Value} {w u : World} {r : Raised}

theorem evaluationFault_of_ok {text : String} (h : m.text e w = .ok text u) :
    evaluationFault m name s e w =
      .ok (.ref u.objects.size) (u.reported name s e (w.nameOfTypeOf e ++ ": " ++ text)) := by
  unfold evaluationFault
  rw [bind_of_ok (w.typeName_eq e), bind_of_ok h]
  rfl

theorem evaluationFault_of_error {d : Stop} (h : m.text e w = .error d u) :
    evaluationFault m name s e w = .error d u := by
  unfold evaluationFault
  rw [bind_of_ok (w.typeName_eq e), bind_of_error h]

/-- What is raised through the wrapping around the code of a segment is a report of what the code
raised. -/
theorem wrapping_raises {α : Type} {segment : Raised → Segment} {x : Action α} :
    wrapping m name segment x w = .error (.raised r) u ↔
      ∃ d v, x w = .error (.raised d) v ∧ Reports m name (segment d) d.value v r u := by
  unfold wrapping
  cases hx : x w with
  | ok a v =>
    rw [bind_of_ok (attempt_of_ok hx)]
    simp
  | error d v =>
    rw [bind_of_ok (attempt_of_error hx)]
    cases d with
    | exhausted => simp
    | raised d =>
      have hpair : (∃ d' v', EStateM.Result.error (Stop.raised d) v = (.error (.raised d') v' :
          EStateM.Result Stop World α) ∧ Reports m name (segment d') d'.value v' r u) ↔
          Reports m name (segment d) d.value v r u := by
        constructor
        · rintro ⟨_, _, ⟨⟩, h⟩
          exact h
        · exact fun h => ⟨d, v, rfl, h⟩
      rw [hpair]
      dsimp only
      rw [bind_of_ok (v.passesThrough_eq d.value)]
      cases hp : v.passes d.value with
      | true =>
        rw [if_pos rfl, throw_eq_error]
        constructor
        · rintro ⟨⟨⟩, rfl⟩
          exact .passed hp
        · intro h
          cases h with
          | passed => exact ⟨rfl, rfl⟩
          | fault h | textless h => simp [hp] at h
      | false =>
        rw [if_neg Bool.false_ne_true]
        cases ht : m.text d.value v with
        | ok text v' =>
          rw [bind_of_ok (evaluationFault_of_ok ht), raiseValue, throw_eq_error]
          constructor
          · rintro ⟨⟨⟩, rfl⟩
            exact .fault hp ht
          · intro h
            cases h with
            | passed h => simp [hp] at h
            | fault _ htext =>
              cases ht.symm.trans htext
              exact ⟨rfl, rfl⟩
            | textless _ htext => cases ht.symm.trans htext
        | error c v' =>
          rw [bind_of_error (evaluationFault_of_error ht)]
          constructor
          · rintro ⟨⟩
            exact .textless hp ht
          · intro h
            cases h with
            | passed h => simp [hp] at h
            | fault _ htext => cases ht.symm.trans htext
            | textless _ htext =>
              cases ht.symm.trans htext
              rfl

end

/-! ## Failing evaluations -/

namespace Binding

variable {m : Interpreter} {w u : World} {b : Ref} {r : Raised}

/-- A deferred expression stops with what is reported of its code, or as it is with what the text of its
value raises. -/
theorem evaluate_raises :
    evaluate m b w = .error (.raised r) u ↔
      ∃ x, w.at' b = .binding x ∧ x.resolved = false ∧
        ((∃ e v, m.evaluate { globals := x.globals } x.code w = .error (.raised e) v ∧
            Reports m x.templateName x.segment e.value v r u) ∨
          ∃ y v, m.evaluate { globals := x.globals } x.code w = .ok y v ∧
            shown m y v = .error (.raised r) u) := by
  cases hb : w.at' b with
  | binding x =>
    cases hp : x.resolved with
    | true =>
      unfold evaluate
      rw [bind_of_ok (load_ok w b), hb]
      simp [hp]
    | false =>
      have hstore {s : String} {v : World} :
          ¬ (store b (.binding (x.settle s)) >>= fun _ => pure (.str s) : Action Value) v =
            .error (.raised r) u := by
        rintro ⟨⟩
      rw [evaluate_eq hb hp, bind_eq_error, compute, bind_eq_error, wrapping_raises]
      simp only [wrapping_eq_ok, Object.binding.injEq]
      constructor
      · rintro ((h | h) | ⟨s, v, -, h⟩)
        · exact ⟨x, rfl, hp, .inl h⟩
        · exact ⟨x, rfl, hp, .inr h⟩
        · exact absurd h hstore
      · rintro ⟨_, rfl, -, h | h⟩
        · exact .inl (.inl h)
        · exact .inl (.inr h)
  | _ =>
    unfold evaluate
    rw [bind_of_ok (load_ok w b), hb]
    simp

end Binding

namespace RenderPass

variable {m : Interpreter} {p fragment : Ref} {w u : World} {r : Raised}

/-- The turns of a pass stop with the expression that stops in its turn. -/
theorem evaluateFrom_raises :
    evaluateFrom m p w = .error (.raised r) u ↔
      ∃ k b v, k < m.rounds ∧ Turns m p 0 w k v ∧ (v.at' p).bindings[k]? = some b ∧
        Binding.evaluate m b v = .error (.raised r) u := by
  rw [evaluateFrom_eq]
  have hgo (left i : Nat) (w : World) :
      Interpreter.repeatUntil.go (turn m p) left i w = .error (.raised r) u ↔
        ∃ k b v, k < i + left ∧ Turns m p i w k v ∧ (v.at' p).bindings[k]? = some b ∧
          Binding.evaluate m b v = .error (.raised r) u := by
    induction left generalizing i w with
    | zero =>
      rw [Interpreter.repeatUntil.go]
      simp only [throw_eq_error, reduceCtorEq, false_and, false_iff]
      rintro ⟨k, b, v, hk, hturns, -⟩
      have := hturns.le
      omega
    | succ left ih =>
      rw [Interpreter.repeatUntil.go]
      cases hb : (w.at' p).bindings[i]? with
      | none =>
        have hturn : turn m p i w = .ok (.error ()) w := by
          rw [turn_eq, hb]
          rfl
        rw [bind_of_ok hturn]
        simp only [pure_eq_error, false_iff]
        rintro ⟨k, b, v, -, hturns, hb', -⟩
        cases hturns with
        | none => cases hb.symm.trans hb'
        | next hb' => cases hb.symm.trans hb'
      | some b =>
        cases he : Binding.evaluate m b w with
        | ok y w' =>
          have hturn : turn m p i w = .ok (.ok (i + 1)) w' := by
            rw [turn_eq, hb]
            exact bind_of_ok he
          rw [bind_of_ok hturn]
          refine (ih (i + 1) w').trans ⟨?_, ?_⟩
          · rintro ⟨k, c, v, hk, hturns, h⟩
            exact ⟨k, c, v, by omega, .next hb he hturns, h⟩
          · rintro ⟨k, c, v, hk, hturns, hc, h⟩
            cases hturns with
            | none =>
              cases hb.symm.trans hc
              cases he.symm.trans h
            | next hb' he' hturns =>
              cases hb.symm.trans hb'
              cases he.symm.trans he'
              exact ⟨k, c, v, by omega, hturns, hc, h⟩
        | error d w' =>
          have hturn : turn m p i w = .error d w' := by
            rw [turn_eq, hb]
            exact bind_of_error he
          rw [bind_of_error hturn]
          constructor
          · rintro ⟨⟩
            exact ⟨i, b, w, by omega, .none i w, hb, he⟩
          · rintro ⟨k, c, v, -, hturns, hc, h⟩
            cases hturns with
            | none =>
              cases hb.symm.trans hc
              cases he.symm.trans h
              rfl
            | next hb' he' _ =>
              cases hb.symm.trans hb'
              cases he.symm.trans he'
  simpa using hgo m.rounds 0 w

/-- A pass stops with one of its deferred expressions, or where the fragment is joined. -/
theorem resolve_raises (hm : 0 < m.rounds) :
    resolve m p fragment w = .error (.raised r) u ↔
      evaluateFrom m p (announced p w) = .error (.raised r) u ∨
        ∃ v, evaluateFrom m p (announced p w) = .ok () v ∧
          Fragment.join fragment v = .error (.raised r) u := by
  rw [resolve_eq hm, bind_eq_error]
  exact or_congr_right ⟨fun ⟨_, h⟩ => h, fun h => ⟨(), h⟩⟩

end RenderPass

namespace Template

variable {m : Interpreter} {t : Template} {context inner : Value} {values : List (String × Value)}
  {pass : Option Ref} {w u : World} {r : Raised}

/-- The script of a template stops a run with what is reported of it. -/
theorem execute_raises :
    execute m t context pass inner values w = .error (.raised r) u ↔
      startRun m t context pass inner values w = .error (.raised r) u ∨
        ∃ run v e v', startRun m t context pass inner values w = .ok run v ∧
          m.execute { globals := run.globals } t.script v = .error (.raised e) v' ∧
          Reports m t.name (t.blamed e) e.value v' r u := by
  unfold execute
  simp only [bind_eq_error, wrapping_raises, pure_eq_error, and_false, exists_const, or_false]
  refine or_congr_right ⟨?_, ?_⟩
  · rintro ⟨run, v, hstart, e, v', h⟩
    exact ⟨run, v, e, v', hstart, h⟩
  · rintro ⟨run, v, e, v', hstart, h⟩
    exact ⟨run, v, hstart, e, v', h⟩

/-- A deferred expression has its turn in a render, after the script has been run. -/
structure HasTurn (m : Interpreter) (t : Template) (context inner : Value)
    (values : List (String × Value)) (w : World) (x : Binding) (v : World) : Prop where
  turn : ∃ fragment v₀ k b, execute m t context (some w.objects.size) inner values
      (w.push (.pass #[])) = .ok fragment v₀ ∧ k < m.rounds ∧
    RenderPass.Turns m w.objects.size 0 (RenderPass.announced w.objects.size v₀) k v ∧
    (v.at' (w.objects.size : Nat)).bindings[k]? = some b ∧ v.at' b = .binding x
  pending : x.resolved = false

/-- How `Template.render` comes to raise something. -/
inductive Fails (m : Interpreter) (t : Template) (context inner : Value)
    (values : List (String × Value)) (w : World) (r : Raised) (u : World) : Prop
  /-- There is no context for the run. -/
  | unstarted (h : startRun m t context (some w.objects.size) inner values (w.push (.pass #[])) =
      .error (.raised r) u)
  /-- A statement, a plain interpolation, the hook or the text of a plain value has raised an exception:
  it is reported with the segment that wrote its line. -/
  | script {run : Run} {v v' : World} {e : Raised}
      (hstart : startRun m t context (some w.objects.size) inner values (w.push (.pass #[])) = .ok run v)
      (hscript : m.execute { globals := run.globals } t.script v = .error (.raised e) v')
      (hreport : Reports m t.name (t.blamed e) e.value v' r u)
  /-- The code of a deferred expression has raised an exception: it is reported with its segment. -/
  | deferred {v v' : World} {x : Binding} {e : Raised} (hturn : HasTurn m t context inner values w x v)
      (hcode : m.evaluate { globals := x.globals } x.code v = .error (.raised e) v')
      (hreport : Reports m x.templateName x.segment e.value v' r u)
  /-- The text of the value of a deferred expression has raised an exception: it leaves the render as
  it is. -/
  | unwritten {v v' : World} {x : Binding} {y : Value} (hturn : HasTurn m t context inner values w x v)
      (hcode : m.evaluate { globals := x.globals } x.code v = .ok y v')
      (htext : Binding.shown m y v' = .error (.raised r) u)
  /-- What has been written holds something that is no text, or an expression of another pass. -/
  | unjoined {fragment : Ref} {v v' : World}
      (hrun : execute m t context (some w.objects.size) inner values (w.push (.pass #[])) =
        .ok fragment v)
      (hturns : RenderPass.evaluateFrom m w.objects.size (RenderPass.announced w.objects.size v) =
        .ok () v')
      (hjoin : Fragment.join fragment v' = .error (.raised r) u)

/-- Everything that `Template.render` raises, for every template, context and world. Exceptions of the
script and of the code of deferred expressions are reported, each with its segment; what the text of the
value of a deferred expression raises is not. -/
theorem render_raises_iff {n : Nat} :
    render (interpreter (n + 1)) t context inner values w = .error (.raised r) u ↔
      Fails (interpreter (n + 1)) t context inner values w r u := by
  have hrounds : 0 < (interpreter (n + 1)).rounds := by
    change 0 < maxRounds
    decide
  have halloc : alloc (.pass #[]) w = .ok w.objects.size (w.push (.pass #[])) := rfl
  unfold render
  rw [bind_of_ok halloc, bind_eq_error, execute_raises]
  constructor
  · rintro ((h | ⟨run, v, e, v', hstart, hscript, hreport⟩) | ⟨fragment, v₀, hrun, h⟩)
    · exact .unstarted h
    · exact .script hstart hscript hreport
    · obtain h | ⟨v', hturns, hjoin⟩ := (RenderPass.resolve_raises hrounds).1 h
      · obtain ⟨k, b, v, hk, hturns, hb, h⟩ := RenderPass.evaluateFrom_raises.1 h
        obtain ⟨x, hx, hp, h⟩ := Binding.evaluate_raises.1 h
        have hturn : HasTurn (interpreter (n + 1)) t context inner values w x v :=
          ⟨⟨fragment, v₀, k, b, hrun, hk, hturns, hb, hx⟩, hp⟩
        obtain ⟨e, v', hcode, hreport⟩ | ⟨y, v', hcode, htext⟩ := h
        · exact .deferred hturn hcode hreport
        · exact .unwritten hturn hcode htext
      · exact .unjoined hrun hturns hjoin
  · -- Each way to fail is one of the parts of the render, and the parts before it have come to an end.
    have hevaluates {x : Binding} {v : World}
        (hturn : HasTurn (interpreter (n + 1)) t context inner values w x v)
        (h : ∀ b, v.at' b = .binding x →
          Binding.evaluate (interpreter (n + 1)) b v = .error (.raised r) u) :
        ∃ fragment v₀, execute (interpreter (n + 1)) t context (some w.objects.size) inner values
          (w.push (.pass #[])) = .ok fragment v₀ ∧
          RenderPass.resolve (interpreter (n + 1)) w.objects.size fragment v₀ =
            .error (.raised r) u := by
      obtain ⟨⟨fragment, v₀, k, b, hrun, hk, hturns, hb, hx⟩, -⟩ := hturn
      refine ⟨fragment, v₀, hrun, (RenderPass.resolve_raises hrounds).2 (.inl ?_)⟩
      exact RenderPass.evaluateFrom_raises.2 ⟨k, b, v, hk, hturns, hb, h b hx⟩
    intro h
    cases h with
    | unstarted h => exact .inl (.inl h)
    | script hstart hscript hreport => exact .inl (.inr ⟨_, _, _, _, hstart, hscript, hreport⟩)
    | deferred hturn hcode hreport =>
      exact .inr (hevaluates hturn fun b hb =>
        Binding.evaluate_raises.2 ⟨_, hb, hturn.pending, .inl ⟨_, _, hcode, hreport⟩⟩)
    | unwritten hturn hcode htext =>
      exact .inr (hevaluates hturn fun b hb =>
        Binding.evaluate_raises.2 ⟨_, hb, hturn.pending, .inr ⟨_, _, hcode, htext⟩⟩)
    | unjoined hrun hturns hjoin =>
      exact .inr ⟨_, _, hrun, (RenderPass.resolve_raises hrounds).2 (.inr ⟨_, hturns, hjoin⟩)⟩

/-- The type of what a template raises when it is rendered by itself. -/
def raisedBy (source : String) : Option String :=
  match compile "page" source with
  | .error _ => none
  | .ok t =>
    match render machine t .none .none [] {} with
    | .error (.raised r) u => some (u.nameOfTypeOf r.value)
    | _ => none

-- A number that is too long for a text, as a plain interpolation and as a deferred expression.
example : raisedBy "<%= 10 ** 5000 %>" = some "EvaluationFault" ∧
    raisedBy "<%-> 10 ** 5000 %>" = some "ValueError" := by
  decide +kernel

end Template

end Stencil
