import Stencil.Proofs.NameLayers
import Stencil.Proofs.NestedFailures

/-!
# Names whose values cannot be computed

A name that the code of a template has not bound is an attribute of the context, which may be computed,
and computing it may raise an exception. One that says that there is no attribute or no entry of a table
is taken for a sign that the context lacks the name. Any other one leaves the code, and then every render
that has come to it.
-/

namespace Stencil

open World Evaluation Script

/-! ## Exceptions that are taken for signs -/

namespace World

/-- Whether a value is an exception of a type or of one below it. -/
def isA (w : World) (e : Value) (type : String) : Bool :=
  (w.value? (isInstance e (.exception type))).getD false

theorem isInstance_isA (w : World) (e : Value) (type : String) :
    isInstance e (.exception type) w = .ok (w.isA e type) w := by
  obtain ⟨b, hb⟩ := Looking.looks (x := isInstance e (.exception type)) w
  rw [hb, isA, (World.of_ok hb).1, Option.getD_some]

/-- Whether an exception is taken for a sign that the context lacks a name. -/
def saysMissing (w : World) (e : Value) : Bool := w.isA e "AttributeError" || w.isA e "KeyError"

end World

namespace Evaluation

section

variable {m : Interpreter} {context : Value} {name : String} {w u : World} {r : Raised}

theorem contextName?_of_error (h : m.attributeOf context name w = .error (.raised r) u) :
    contextName? m context name w =
      if u.saysMissing r.value then .ok none u else .error (.raised r) u := by
  unfold contextName?
  rw [bind_of_ok (attempt_of_error h)]
  dsimp only
  rw [bind_of_ok (u.isInstance_isA r.value "AttributeError"), World.saysMissing]
  cases hattribute : u.isA r.value "AttributeError" with
  | true => rfl
  | false =>
    rw [if_neg Bool.false_ne_true, bind_of_ok (u.isInstance_isA r.value "KeyError"), Bool.false_or]
    cases hkey : u.isA r.value "KeyError" with
    | true => rfl
    | false => rfl

/-- What a name stands for behind the attributes of the context. -/
def withoutContext (name : String) : Action Value :=
  match builtin? name with
  | some v => return v
  | none => undefinedName name

theorem unboundName_of_error (h : m.attributeOf context name w = .error (.raised r) u) :
    unboundName m (some context) name w =
      if u.saysMissing r.value then withoutContext name u else .error (.raised r) u := by
  have hname := contextName?_of_error h
  unfold unboundName
  dsimp only
  cases hmissing : u.saysMissing r.value with
  | true =>
    rw [hmissing, if_pos rfl] at hname
    rw [bind_of_ok hname, if_pos rfl]
    unfold withoutContext
    cases builtin? name <;> rfl
  | false =>
    rw [hmissing, if_neg Bool.false_ne_true] at hname
    rw [bind_of_error hname, if_neg Bool.false_ne_true]

end

/-- Code reads a name that is not bound, and the attribute of the context that stands in for it raises an
exception. -/
structure FailsToRead (k : Nat) (env : Env) (name : String) (context : Value) (w : World) (r : Raised)
    (u : World) : Prop where
  unbound : ∃ g n, env.Means name w g name ∧ w.at' g = .globals n ∧ named? n.values name = none ∧
    n.context = some context
  raises : (interpreter k).attributeOf context name w = .error (.raised r) u

theorem FailsToRead.evaluate_eq {k : Nat} {env : Env} {name : String} {context : Value} {w u : World}
    {r : Raised} (h : FailsToRead k env name context w r u) :
    (interpreter (k + 1)).evaluate env (.name name) w =
      if u.saysMissing r.value then withoutContext name u else .error (.raised r) u := by
  obtain ⟨g, n, hmeans, hn, hnone, hcontext⟩ := h.unbound
  have hread : (interpreter (k + 1)).evaluate env (.name name) w = readName (interpreter k) env name w := rfl
  rw [hread, readName_eq hmeans hn, hnone, hcontext]
  exact unboundName_of_error h.raises

end Evaluation

/-! ## From code out of renders -/

/-- A render of a template by itself comes to an activity. -/
inductive Template.Reaches (m : Interpreter) (t : Template) (context inner : Value)
    (values : List (String × Value)) (w : World) : View.Activity → World → Prop
  | script {run : Run} {v : World}
      (hstart : startRun m t context (some w.objects.size) inner values (w.push (.pass #[])) = .ok run v) :
      Reaches m t context inner values w (.script t run.globals) v
  | expression {x : Binding} {v : World} (h : HasTurn m t context inner values w x v) :
      Reaches m t context inner values w (.expression x) v

section

variable {n : Nat} {t : Template} {context inner e : Value} {values : List (String × Value)}
  {w w' w₁ u : World} {a : View.Activity} {r : Raised}

theorem Template.Reaches.raises (h : Reaches (interpreter (n + 1)) t context inner values w a w')
    (hrun : a.run (interpreter (n + 1)) w' = .error (.raised r) w₁)
    (hleaves : a.Leaves (interpreter (n + 1)) r w₁ e u) :
    Raises (render (interpreter (n + 1)) t context inner values) w e u := by
  cases h with
  | script hstart =>
    obtain ⟨r', hreport, rfl⟩ := hleaves
    obtain hrun | ⟨_, _, -, hrun⟩ := bind_eq_error.1 hrun
    · exact .of_error (render_raises_iff.2 (.script hstart hrun hreport))
    · cases hrun
  | expression hturn =>
    obtain ⟨r', hreport, rfl⟩ := hleaves
    obtain hrun | ⟨_, _, -, hrun⟩ := bind_eq_error.1 hrun
    · exact .of_error (render_raises_iff.2 (.deferred hturn hrun hreport))
    · cases hrun

end

/-! ## What becomes of the exception -/

/-- A plain directive of a name comes to reading the name. -/
theorem comesTo_writtenName {handled : Bool} {n line l : Nat} {env : Env} {name : String} {f : Value}
    {w u : World}
    (hwriter : (interpreter (n + 2)).evaluate env (.name "_tpl_emit") w = .ok f u) :
    ComesTo handled ((interpreter (n + 1)).evaluate env (.name name)) u
      (executeStmt (interpreter (n + 4)) env (.writing line (.at l (.name name)))) w := by
  have hread : ComesTo handled ((interpreter (n + 1)).evaluate env (.name name)) u
      ((interpreter (n + 2)).evaluate env (.at l (.name name))) u := .line .here
  have harguments : ComesTo handled ((interpreter (n + 1)).evaluate env (.name name)) u
      (arguments (interpreter (n + 2)) env f {} [.positional (.at l (.name name))]) u :=
    .first hread fun v => by infer_instance
  refine .line (.first (.first (.next hwriter (.first harguments ?_)) inferInstance) fun flow => ?_)
  · intro a
    infer_instance
  · cases flow <;> infer_instance

/-- A render of a template that comes to read a name whose value cannot be computed. -/
structure Misreading (n : Nat) (t : Template) (context : Value) (w : World) where
  name : String
  env : Env
  reader : Value
  before : World
  raised : Raised
  after : World
  fails : FailsToRead n env name reader before raised after
  activity : View.Activity
  begun : World
  reaches : Template.Reaches (interpreter (n + 5)) t context .none [] w activity begun
  comes : ComesTo false ((interpreter (n + 1)).evaluate env (.name name)) before
    (activity.run (interpreter (n + 5))) begun

namespace World

/-- The last statement of a script, if it writes the value of a name. -/
def lastWritten? (b : Block) :
    Option { p : Block × Nat × Nat × String // b = p.1 ++ [.writing p.2.1 (.at p.2.2.1 (.name p.2.2.2))] } :=
  match h : b.getLast? with
  | some (.at line (.expr (.call (.name f) [.positional (.at l (.name x))]))) =>
    if hf : f = "_tpl_emit" then
      some ⟨(b.dropLast, line, l, x), by
        obtain ⟨first, rfl⟩ := List.getLast?_eq_some_iff.1 h
        rw [hf, List.dropLast_concat]
        rfl⟩
    else none
  | _ => none

/-- The names at a place. -/
def globals? (w : World) (g : Ref) : Option { n : Namespace // w.at' g = .globals n } :=
  match w.at' g with
  | .globals n => some ⟨n, rfl⟩
  | _ => none

end World

/-- The way to the name that the last directive of a template writes. -/
def Misreading.last? (n : Nat) (t : Template) (context : Value) (w : World) :
    Option (Misreading n t context w) := do
  let m := interpreter (n + 5)
  let ⟨(run, begun), hstart⟩ ←
    (w.push (.pass #[])).ok? (Template.startRun m t context (some w.objects.size) .none [])
  let ⟨(first, _, _, name), hscript⟩ ← World.lastWritten? t.script
  let env : Env := { globals := run.globals }
  let ⟨(.next, w₁), hfirst⟩ ← begun.ok? (executeBlock (interpreter (n + 4)) env first) | none
  let ⟨(_, before), hwriter⟩ ← w₁.ok? ((interpreter (n + 2)).evaluate env (.name "_tpl_emit"))
  let ⟨names, hnames⟩ ← before.globals? run.globals
  match hcontext : names.context with
  | none => none
  | some reader =>
    if hnone : named? names.values name = none then
      let ⟨(raised, after), hraises⟩ ← before.raised? ((interpreter n).attributeOf reader name)
      return {
        name, env, reader, before, raised, after, begun
        fails := ⟨⟨_, names, ⟨rfl, rfl, rfl⟩, hnames, hnone, hcontext⟩, hraises⟩
        activity := .script t run.globals
        reaches := .script hstart
        comes := .first (hscript ▸ comesTo_block first [] hfirst (comesTo_writtenName hwriter)) inferInstance }
    else none

/-- An exception with a text, which can be reported. -/
def Misreading.reportable (e : Value) (w : World) : Bool :=
  w.isFailure e && (w.ok? ((interpreter 6000).text e)).isSome

theorem Misreading.isReported {e : Value} {w : World} (h : reportable e w = true) (name : String)
    (s : Segment) : Origin.IsReported ⟨6000, name, s, e, w⟩ := by
  obtain ⟨hfailure, htext⟩ := Bool.and_eq_true_iff.1 h
  obtain ⟨⟨⟨text, u⟩, htext⟩, -⟩ := Option.isSome_iff_exists.1 htext
  exact ⟨hfailure, fun _ => ⟨text, u, htext⟩⟩

end Stencil
