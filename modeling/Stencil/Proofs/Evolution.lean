import Stencil.Proofs.Outcome

/-!
# Evolution

How a world can change, whatever scripts do in it: objects stay where they are and keep their type,
what has been written and deferred only grows, a deferred expression keeps its code, its names and the
value it once has, an exception remembers at most another cause and line, and the bundle around a render
is again the one it was. A computation evolves when the world in which it ends has come from the one it
began in like this, also when it stops.
-/

namespace Stencil

open World Evaluation

/-- A deferred expression stays what it is, and keeps its value once it has one. -/
structure Binding.Evolves (b c : Binding) : Prop where
  templateName : c.templateName = b.templateName
  segment : c.segment = b.segment
  code : c.code = b.code
  globals : c.globals = b.globals
  settled : b.resolved = true → c = b

namespace Binding.Evolves

theorem refl (b : Binding) : b.Evolves b := ⟨rfl, rfl, rfl, rfl, fun _ => rfl⟩

theorem trans {b c d : Binding} (h : b.Evolves c) (h' : c.Evolves d) : b.Evolves d where
  templateName := h'.templateName.trans h.templateName
  segment := h'.segment.trans h.segment
  code := h'.code.trans h.code
  globals := h'.globals.trans h.globals
  settled hb := by
    obtain rfl := h.settled hb
    exact h'.settled hb

end Binding.Evolves

/-- An exception stays what it is, whatever it remembers of how it was raised. -/
structure ExceptionObject.Evolves (e x : ExceptionObject) : Prop where
  type : x.type = e.type
  args : x.args = e.args
  text : x.text = e.text
  fault : x.fault = e.fault

namespace ExceptionObject.Evolves

theorem refl (e : ExceptionObject) : e.Evolves e := ⟨rfl, rfl, rfl, rfl⟩

theorem trans {e x y : ExceptionObject} (h : e.Evolves x) (h' : x.Evolves y) : e.Evolves y where
  type := h'.type.trans h.type
  args := h'.args.trans h.args
  text := h'.text.trans h.text
  fault := h'.fault.trans h.fault

end ExceptionObject.Evolves

namespace Object

/-- Whether an object never changes. -/
def isFixed : Object → Bool
  | .view .. | .function _ | .run _ | .template _ | .config _ | .loader _ | .manager .. => true
  | _ => false

/-- Whether an object may become any other one of its shape. -/
def isFree : Object → Bool
  | .fragment _ | .pass _ | .binding _ | .exception _ => false
  | o => !o.isFixed

/-- What has been written to a fragment. -/
def chunks : Object → List Value
  | .fragment chunks => chunks.toList
  | _ => []

/-- What has been deferred to a pass. -/
def bindings : Object → List Ref
  | .pass bindings => bindings.toList
  | _ => []

/-- The deferred expression that an object is. -/
def binding? : Object → Option Binding
  | .binding b => some b
  | _ => none

/-- An object keeps its shape; fragments and passes grow. -/
structure Evolves (o p : Object) : Prop where
  shape : p.shape = o.shape
  fixed : o.isFixed = true → p = o
  chunks : o.chunks <+: p.chunks
  bindings : o.bindings <+: p.bindings
  binding : ∀ b, o = .binding b → ∃ c, p = .binding c ∧ b.Evolves c
  exception : ∀ e, o = .exception e → ∃ x, p = .exception x ∧ e.Evolves x

namespace Evolves

variable {o p q : Object}

theorem refl (o : Object) : o.Evolves o :=
  ⟨rfl, fun _ => rfl, List.prefix_rfl, List.prefix_rfl, fun b hb => ⟨b, hb, .refl b⟩,
    fun e he => ⟨e, he, .refl e⟩⟩

theorem trans (h : o.Evolves p) (h' : p.Evolves q) : o.Evolves q where
  shape := h'.shape.trans h.shape
  fixed ho := by
    obtain rfl := h.fixed ho
    exact h'.fixed ho
  chunks := h.chunks.trans h'.chunks
  bindings := h.bindings.trans h'.bindings
  binding b hb := by
    obtain ⟨c, hc, hbc⟩ := h.binding b hb
    obtain ⟨d, hd, hcd⟩ := h'.binding c hc
    exact ⟨d, hd, hbc.trans hcd⟩
  exception e he := by
    obtain ⟨x, hx, hex⟩ := h.exception e he
    obtain ⟨y, hy, hxy⟩ := h'.exception x hx
    exact ⟨y, hy, hex.trans hxy⟩

end Evolves

/-- Whether an object is free can be seen from its constructor. -/
theorem isFree_congr {o p : Object} (h : p.shape = o.shape) : p.isFree = o.isFree := by
  have hfree (o : Object) :
      o.isFree = !([2, 4, 7, 11, 12, 13, 14, 15, 16, 18, 19] : List Nat).contains o.shape.1 := by
    cases o <;> rfl
  rw [hfree, hfree, h]

theorem evolves_of_isFree {o p : Object} (ho : o.isFree = true) (h : p.shape = o.shape) :
    o.Evolves p := by
  refine ⟨h, fun hf => ?_, ?_, ?_, ?_, ?_⟩ <;> cases o <;> simp_all [isFree, isFixed, chunks, bindings]

end Object

/-- A class stays the one it is; its attributes may change. -/
structure ContextClass.Evolves (c d : ContextClass) : Prop where
  name : d.name = c.name
  kind : d.kind = c.kind
  builtin : d.builtin = c.builtin
  base : d.base = c.base

namespace ContextClass.Evolves

theorem refl (c : ContextClass) : c.Evolves c := ⟨rfl, rfl, rfl, rfl⟩

theorem trans {c d e : ContextClass} (h : c.Evolves d) (h' : d.Evolves e) : c.Evolves e where
  name := h'.name.trans h.name
  kind := h'.kind.trans h.kind
  builtin := h'.builtin.trans h.builtin
  base := h'.base.trans h.base

end ContextClass.Evolves

/-- What can become of a world. -/
structure World.Evolves (w u : World) : Prop where
  size : w.objects.size ≤ u.objects.size
  objects : ∀ r : Nat, r < w.objects.size → (w.at' r).Evolves (u.at' r)
  classCount : u.classes.size = w.classes.size
  classes : ∀ id : Nat, (w.classes.getD id default).Evolves (u.classes.getD id default)
  files : u.files = w.files
  log : w.log.toList <+: u.log.toList
  enclosing : u.enclosing = w.enclosing
  handling : u.handling = w.handling

namespace World.Evolves

variable {w u v : World}

theorem refl (w : World) : w.Evolves w where
  size := Nat.le_refl _
  objects _ _ := .refl _
  classCount := rfl
  classes _ := .refl _
  files := rfl
  log := List.prefix_rfl
  enclosing := rfl
  handling := rfl

theorem trans (h : w.Evolves u) (h' : u.Evolves v) : w.Evolves v where
  size := Nat.le_trans h.size h'.size
  objects r hr := (h.objects r hr).trans (h'.objects r (Nat.lt_of_lt_of_le hr h.size))
  classCount := h'.classCount.trans h.classCount
  classes id := (h.classes id).trans (h'.classes id)
  files := h'.files.trans h.files
  log := h.log.trans h'.log
  enclosing := h'.enclosing.trans h.enclosing
  handling := h'.handling.trans h.handling

/-- Worlds with the same objects, classes, files and surroundings, one with a longer log. -/
theorem of_objects_eq (ho : u.objects = w.objects) (hc : u.classes = w.classes)
    (hf : u.files = w.files) (hl : w.log.toList <+: u.log.toList)
    (he : u.enclosing = w.enclosing) (hh : u.handling = w.handling) : w.Evolves u where
  size := Nat.le_of_eq (by rw [ho])
  objects r _ := by rw [at', at', ho]; exact .refl _
  classCount := by rw [hc]
  classes id := by rw [hc]; exact .refl _
  files := hf
  log := hl
  enclosing := he
  handling := hh

theorem push (w : World) (o : Object) : w.Evolves (w.push o) where
  size := by simp
  objects r hr := by rw [at'_push_of_lt hr]; exact .refl _
  classCount := rfl
  classes _ := .refl _
  files := rfl
  log := List.prefix_rfl
  enclosing := rfl
  handling := rfl

/-- An object may become what it evolves to, seen from the world at the beginning. -/
theorem put {r : Nat} {o : Object} (h : w.Evolves u)
    (ho : r < w.objects.size → (u.at' r).shape = o.shape → (w.at' r).Evolves o) :
    w.Evolves (u.put r o) := by
  by_cases hs : (u.at' r).shape = o.shape
  case neg =>
    rw [put_of_shape_ne hs]
    exact h
  have hput : u.put r o = { u with objects := u.objects.setIfInBounds r o } := if_pos hs
  refine ⟨by simpa using h.size, fun s hlt => ?_, by rw [classes_put]; exact h.classCount,
    by rw [classes_put]; exact h.classes, by rw [hput]; exact h.files, by rw [hput]; exact h.log,
    by rw [enclosing_put]; exact h.enclosing, by rw [hput]; exact h.handling⟩
  by_cases hr : s = r
  · subst hr
    rw [at'_put_self (Nat.lt_of_lt_of_le hlt h.size) rfl hs]
    exact ho hlt hs
  · rw [at'_put_of_ne hr]
    exact h.objects s hlt

/-- A class may get other attributes. -/
theorem setClass {id : Nat} {c : ContextClass} (h : (w.classes.getD id default).Evolves c) :
    w.Evolves { w with classes := w.classes.setIfInBounds id c } where
  size := Nat.le_refl _
  objects _ _ := .refl _
  classCount := by simp
  classes other := by
    simp only [Array.getD_eq_getD_getElem?, Array.getElem?_setIfInBounds] at h ⊢
    by_cases hid : id = other
    · subst hid
      by_cases hlt : id < w.classes.size
      · simpa [hlt] using h
      · simpa [hlt] using ContextClass.Evolves.refl _
    · simpa [hid] using ContextClass.Evolves.refl _
  files := rfl
  log := List.prefix_rfl
  enclosing := rfl
  handling := rfl

end World.Evolves

/-- Whatever a computation comes to, the world evolves. -/
class Evolving {α : Type} (x : Action α) : Prop where
  evolves : ∀ w : World, w.Evolves (w.after x)

section

variable {α β : Type} {w u : World}

theorem after_of_ok {x : Action α} {a : α} (h : x w = .ok a u) : w.after x = u := by
  rw [World.after, h]

theorem after_of_error {x : Action α} {e : Stop} (h : x w = .error e u) : w.after x = u := by
  rw [World.after, h]

theorem after_bind_of_ok {x : Action α} {f : α → Action β} {a : α} (h : x w = .ok a u) :
    w.after (x >>= f) = u.after (f a) := by
  rw [World.after, bind_of_ok h]
  rfl

theorem after_bind_of_error {x : Action α} {f : α → Action β} {e : Stop} (h : x w = .error e u) :
    w.after (x >>= f) = u := by
  change w.after (EStateM.bind x f) = u
  simp [World.after, EStateM.bind, h]

/-- What holds between the world before and after each of two parts holds of the whole. -/
theorem World.rel_after_bind {R : World → World → Prop} (trans : ∀ {w u v}, R w u → R u v → R w v)
    {x : Action α} {f : α → Action β} (hx : R w (w.after x))
    (hf : ∀ a u, x w = .ok a u → R u (u.after (f a))) : R w (w.after (x >>= f)) := by
  cases h : x w with
  | ok a u =>
    rw [after_of_ok h] at hx
    rw [after_bind_of_ok h]
    exact trans hx (hf a u h)
  | error e u =>
    rw [after_of_error h] at hx
    rwa [after_bind_of_error h]

theorem Evolving.of_ok {x : Action α} {a : α} (hx : Evolving x) (h : x w = .ok a u) : w.Evolves u :=
  after_of_ok h ▸ hx.evolves w

instance evolving_pure (a : α) : Evolving (pure a : Action α) := ⟨fun w => .refl w⟩

theorem Evolving.bind {x : Action α} {f : α → Action β} (hx : Evolving x)
    (hf : ∀ a, Evolving (f a)) : Evolving (x >>= f) :=
  ⟨fun w => rel_after_bind .trans (hx.evolves w) fun a u _ => (hf a).evolves u⟩

instance evolving_bind {x : Action α} {f : α → Action β} [hx : Evolving x]
    [hf : ∀ a, Evolving (f a)] : Evolving (x >>= f) := hx.bind hf

end

/-- Whatever an interpreter is asked for, the world evolves. -/
class Evaluation.Interpreter.Evolves (m : Interpreter) : Prop where
  evaluate (env : Env) (e : Script.Expr) : Evolving (m.evaluate env e)
  execute (env : Env) (b : Script.Block) : Evolving (m.execute env b)
  call (f : Value) (args : Arguments) : Evolving (m.call f args)
  attributeOf (v : Value) (name : String) : Evolving (m.attributeOf v name)
  text (v : Value) : Evolving (m.text v)

attribute [instance] Interpreter.Evolves.evaluate Interpreter.Evolves.execute
  Interpreter.Evolves.call Interpreter.Evolves.attributeOf Interpreter.Evolves.text

end Stencil
