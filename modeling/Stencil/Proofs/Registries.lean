import Stencil.Proofs.Evolution.Interpreter
import Stencil.Proofs.Footprint
import Stencil.Proofs.Lookup

/-!
# What leaves registries alone

Most computations neither make a class nor change what a class exposes. To set the configuration of a
class of views runs code only where the value of an option does when its items are asked for.
-/

namespace Stencil

open World Evaluation

/-- The registries and the classes that have them are the same in two worlds. -/
structure World.KeepsRegistries (w u : World) : Prop where
  registries : ∀ r reg, w.at' r = .registry reg → u.at' r = .registry reg
  classCount : u.classes.size = w.classes.size
  bases : ∀ id, (u.classAt' id).base = (w.classAt' id).base
  exposures : ∀ id, (u.classAt' id).exposures = (w.classAt' id).exposures

namespace World.KeepsRegistries

variable {w u v : World}

theorem refl (w : World) : w.KeepsRegistries w :=
  ⟨fun _ _ h => h, rfl, fun _ => rfl, fun _ => rfl⟩

theorem trans (h : w.KeepsRegistries u) (h' : u.KeepsRegistries v) : w.KeepsRegistries v where
  registries r reg hr := h'.registries r reg (h.registries r reg hr)
  classCount := h'.classCount.trans h.classCount
  bases id := (h'.bases id).trans (h.bases id)
  exposures id := (h'.exposures id).trans (h.exposures id)

theorem push (w : World) (o : Object) : w.KeepsRegistries (w.push o) where
  registries r reg hr := by
    by_cases hlt : (r : Nat) < w.objects.size
    · rw [at'_push_of_lt hlt, hr]
    · rw [at'_of_size_le (Nat.le_of_not_lt hlt)] at hr
      cases hr
  classCount := rfl
  bases _ := rfl
  exposures _ := rfl

theorem put {r : Ref} (hr : ∀ reg, w.at' r ≠ .registry reg) (o : Object) :
    w.KeepsRegistries (w.put r o) where
  registries s reg hs := by
    rw [at'_put_of_ne, hs]
    rintro rfl
    exact hr reg hs
  classCount := by rw [classes_put]
  bases _ := by rw [classAt', classAt', classes_put]
  exposures _ := by rw [classAt', classAt', classes_put]

/-- A class may get other attributes. -/
theorem setClass {id : Nat} {c : ContextClass} (hb : c.base = (w.classAt' id).base)
    (he : c.exposures = (w.classAt' id).exposures) :
    w.KeepsRegistries { w with classes := w.classes.setIfInBounds id c } := by
  have hclass (other : Nat) :
      World.classAt' { w with classes := w.classes.setIfInBounds id c } other = c ∧ other = id ∨
        World.classAt' { w with classes := w.classes.setIfInBounds id c } other = w.classAt' other := by
    simp only [classAt', Array.getD_eq_getD_getElem?, Array.getElem?_setIfInBounds]
    by_cases hid : id = other
    · subst hid
      by_cases hlt : id < w.classes.size <;> simp [hlt]
    · simp [hid]
  refine ⟨fun _ _ h => h, by simp, fun other => ?_, fun other => ?_⟩ <;>
    rcases hclass other with ⟨h, rfl⟩ | h <;> rw [h] <;> assumption

end World.KeepsRegistries

/-- Only iterators differ between two worlds, and there may be new objects. -/
structure World.Iterates (w u : World) : Prop where
  size : w.objects.size ≤ u.objects.size
  objects : ∀ r : Nat, r < w.objects.size → (∀ it, w.at' r ≠ .iterator it) → u.at' r = w.at' r
  classes : u.classes = w.classes

namespace World.Iterates

variable {w u v : World}

theorem refl (w : World) : w.Iterates w := ⟨Nat.le_refl _, fun _ _ _ => rfl, rfl⟩

theorem trans (h : w.Iterates u) (h' : u.Iterates v) : w.Iterates v where
  size := Nat.le_trans h.size h'.size
  objects r hr hit := by
    have hu := h.objects r hr hit
    rw [h'.objects r (Nat.lt_of_lt_of_le hr h.size) (hu ▸ hit), hu]
  classes := h'.classes.trans h.classes

theorem push (w : World) (o : Object) : w.Iterates (w.push o) where
  size := by simp
  objects _ hr _ := at'_push_of_lt hr
  classes := rfl

theorem put {r : Ref} {it : Iterator} (hr : w.at' r = .iterator it) (o : Object) :
    w.Iterates (w.put r o) where
  size := by simp
  objects s _ hs := by
    refine at'_put_of_ne ?_
    rintro rfl
    exact hs it hr
  classes := classes_put w r o

theorem keepsRegistries (h : w.Iterates u) : w.KeepsRegistries u where
  registries r reg hr := by
    have hlt : (r : Nat) < w.objects.size := by
      refine Nat.lt_of_not_le fun hle => ?_
      rw [at'_of_size_le hle] at hr
      cases hr
    rw [h.objects r hlt (by simp [hr]), hr]
  classCount := by rw [h.classes]
  bases _ := by rw [classAt', classAt', h.classes]
  exposures _ := by rw [classAt', classAt', h.classes]

end World.Iterates

/-- Whatever a computation comes to, it only makes objects and moves iterators. -/
class Iterating {α : Type} (x : Action α) : Prop where
  iterates : ∀ w : World, w.Iterates (w.after x)

section

variable {α β : Type} {w : World}

theorem World.after_congr {x y : Action α} {u : World} (h : x w = y u) : w.after x = u.after y := by
  rw [World.after, World.after, h]

theorem Iterates.bind {x : Action α} {f : α → Action β} (hx : w.Iterates (w.after x))
    (hf : ∀ a u, x w = .ok a u → u.Iterates (u.after (f a))) :
    w.Iterates (w.after (x >>= f)) :=
  rel_after_bind .trans hx hf

theorem Iterating.bind {x : Action α} {f : α → Action β} (hx : Iterating x)
    (hf : ∀ a, Iterating (f a)) : Iterating (x >>= f) :=
  ⟨fun w => Iterates.bind (hx.iterates w) fun a u _ => (hf a).iterates u⟩

instance iterating_pure (a : α) : Iterating (pure a : Action α) := ⟨fun w => .refl w⟩

instance iterating_throw (e : Stop) : Iterating (throw e : Action α) := ⟨fun w => .refl w⟩

instance iterating_get : Iterating (get : Action World) := ⟨fun w => .refl w⟩

instance iterating_load (r : Ref) : Iterating (load r) := ⟨fun w => .refl w⟩

instance iterating_classAt (id : Nat) : Iterating (classAt id) := ⟨fun w => .refl w⟩

instance iterating_alloc (o : Object) : Iterating (alloc o) := ⟨fun w => .push w o⟩

instance iterating_allocValue (o : Object) : Iterating (allocValue o) := ⟨fun w => .push w o⟩

instance iterating_classAttribute? (id : Nat) (name : String) : Iterating (classAttribute? id name) :=
  ⟨fun w => by rw [after_of_ok (classAttribute?_eq w id name)]; exact .refl w⟩

instance iterating_registryOf? (id : Nat) : Iterating (registryOf? id) :=
  ⟨fun w => by rw [after_of_ok (registryOf?_eq w id)]; exact .refl w⟩

instance iterating_bind {x : Action α} {f : α → Action β} [hx : Iterating x] [hf : ∀ a, Iterating (f a)] :
    Iterating (x >>= f) := hx.bind hf

instance iterating_ite {c : Prop} [Decidable c] {x y : Action α} [Iterating x] [Iterating y] :
    Iterating (if c then x else y) := by
  split <;> assumption

instance iterating_registryAt (r : Ref) : Iterating (registryAt r) := by
  unfold registryAt
  refine Iterating.bind inferInstance fun o => ?_
  split <;> infer_instance

instance iterating_deriveRegistry (id : Nat) : Iterating (ContextClass.deriveRegistry id) := by
  unfold ContextClass.deriveRegistry
  refine Iterating.bind inferInstance fun r => ?_
  split <;> infer_instance

instance iterating_object? (v : Value) : Iterating (object? v) := by
  unfold object?
  split <;> infer_instance

instance iterating_raiseText (type message : String) : Iterating (raiseText type message : Action α) := by
  unfold raiseText raise raiseValue
  infer_instance

instance iterating_typeError (message : String) : Iterating (typeError message : Action α) := by
  unfold typeError
  infer_instance

instance iterating_nameOfType (t : TypeRef) : Iterating (nameOfType t) := by
  unfold nameOfType
  split <;> infer_instance

instance iterating_objectTypeName (o : Object) : Iterating (objectTypeName o) := by
  unfold objectTypeName
  repeat' first | infer_instance | split

instance iterating_typeOf (v : Value) : Iterating (typeOf v) := by
  unfold typeOf
  repeat' first | infer_instance | with_reducible refine Iterating.bind ?_ fun _ => ?_ | split

instance iterating_typeName (v : Value) : Iterating (typeName v) := by
  unfold typeName
  infer_instance

instance iterating_missingAttribute (v : Value) (name : String) :
    Iterating (missingAttribute v name : Action α) := by
  unfold missingAttribute
  split <;> infer_instance

instance iterating_notIterable (v : Value) : Iterating (notIterable v : Action α) := by
  unfold notIterable
  infer_instance

instance iterating_forM {f : α → Action Unit} {l : List α} [hf : ∀ a, Iterating (f a)] :
    Iterating (l.forM f) := by
  induction l with
  | nil => exact iterating_pure _
  | cons a l ih => exact (hf a).bind fun _ => ih

mutual

theorem iterating_checkKey' (v : Value) : Iterating (checkKey v) := by
  unfold checkKey
  split
  case h_1 items => exact iterating_checkKeys items
  all_goals
    repeat' first | infer_instance | with_reducible refine Iterating.bind ?_ fun _ => ?_ | split

theorem iterating_checkKeys (vs : List Value) : Iterating (checkKey.go vs) :=
  match vs with
  | [] => iterating_pure _
  | v :: vs => (iterating_checkKey' v).bind fun _ => iterating_checkKeys vs

end

instance iterating_checkKey (v : Value) : Iterating (checkKey v) := iterating_checkKey' v

end

/-! ## Items that are there -/

/-- Whether an iterator only goes through what is there. -/
def Iterator.isSimple : Iterator → Bool
  | .values .. | .list .. | .backward .. | .entries .. | .members .. | .range .. => true
  | _ => false

/-- A value that runs nothing when its items are asked for. -/
def World.IsPlain (w : World) (v : Value) : Prop :=
  ∀ r, v = .ref r → (r : Nat) < w.objects.size ∧ (∀ it, w.at' r ≠ .iterator it) ∧
    ∀ cls attrs, w.at' r ≠ .instance cls attrs

section

variable {m : Interpreter} {w : World} {r : Ref} {v : Value} {it : Iterator}

/-- A simple iterator and the world after a step of the iterator. -/
def World.IteratorStays (w u : World) (r : Ref) : Prop :=
  w.Iterates u ∧ ∃ it, u.at' r = .iterator it ∧ it.isSimple = true

theorem iteratorStays_put (hr : w.at' r = .iterator it) {it' : Iterator} (h : it'.isSimple = true) :
    w.IteratorStays (w.put r (.iterator it')) r := by
  refine ⟨.put hr _, it', ?_, h⟩
  refine at'_put_self (Nat.lt_of_not_le fun hle => ?_) hr rfl
  rw [at'_of_size_le hle] at hr
  cases hr

theorem iteratorStays_push (hr : w.at' r = .iterator it) (hs : it.isSimple = true) {o : Object} :
    w.IteratorStays (w.push o) r := by
  refine ⟨.push w o, it, ?_, hs⟩
  rw [at'_push_of_lt, hr]
  refine Nat.lt_of_not_le fun hle => ?_
  rw [at'_of_size_le hle] at hr
  cases hr

theorem iteratorStays_load {l : Ref} {f : Object → Action (Option Value)}
    (h : ∀ o, w.IteratorStays (w.after (f o)) r) : w.IteratorStays (w.after (load l >>= f)) r := by
  rw [after_bind_of_ok (load_ok w l)]
  exact h _

theorem advance_simple (hr : w.at' r = .iterator it) (hs : it.isSimple = true) :
    w.IteratorStays (w.after (advance m r)) r := by
  have hsame : w.IteratorStays w r := ⟨.refl w, it, hr, hs⟩
  have hput {it' : Iterator} (h : it'.isSimple = true) := iteratorStays_put hr h
  unfold advance
  cases m.rounds with
  | zero => exact hsame
  | succ depth =>
    unfold advance.go
    rw [after_bind_of_ok (load_ok w r), hr]
    cases it with
    | values rest failure =>
      cases rest with
      | cons => exact hput rfl
      | nil => cases failure <;> first | exact hsame | exact hput rfl
    | list l i =>
      refine iteratorStays_load fun o => ?_
      cases o with
      | list items => dsimp only; split <;> exact hput rfl
      | _ => exact hput rfl
    | backward l left =>
      cases left with
      | zero => exact hput rfl
      | succ n =>
        refine iteratorStays_load fun o => ?_
        cases o with
        | list items => dsimp only; split <;> exact hput rfl
        | _ => exact hput rfl
    | entries t part i size =>
      refine iteratorStays_load fun o => ?_
      cases o with
      | dict entries =>
        dsimp only
        split
        · exact iteratorStays_push hr hs
        · split <;> exact hput rfl
      | _ => exact hput rfl
    | members s i size =>
      refine iteratorStays_load fun o => ?_
      cases o with
      | assets kind refs =>
        dsimp only
        split
        · exact iteratorStays_push hr hs
        · split <;> exact hput rfl
      | _ => exact hput rfl
    | range next step left => cases left <;> first | exact hsame | exact hput rfl
    | _ => cases hs

/-- What every round keeps is kept by a repetition, whatever it comes to. -/
theorem after_repeatUntil {σ α : Type} {step : σ → Action (Except α σ)} (holds : World → Prop)
    (round : ∀ s w, holds w → holds (w.after (step s))) {s : σ} (hw : holds w) :
    holds (w.after (m.repeatUntil step s)) := by
  unfold Interpreter.repeatUntil
  generalize m.rounds = left
  induction left generalizing s w with
  | zero => exact hw
  | succ left ih =>
    have hstep := round s w hw
    rw [Interpreter.repeatUntil.go]
    cases h : step s w with
    | error e u => rwa [after_bind_of_error h, ← after_of_error h]
    | ok result u =>
      rw [after_of_ok h] at hstep
      rw [after_bind_of_ok h]
      cases result with
      | error a => exact hstep
      | ok s' => exact ih hstep

theorem after_map {α β : Type} {x : Action α} {f : α → β} :
    w.after (x >>= fun a => pure (f a)) = w.after x := by
  cases h : x w with
  | ok a u => rw [after_bind_of_ok h, after_of_ok h]; rfl
  | error e u => rw [after_bind_of_error h, after_of_error h]

theorem drain_simple (hr : w.at' r = .iterator it) (hs : it.isSimple = true) :
    w.Iterates (w.after (drain m r)) := by
  unfold drain
  rw [after_map]
  refine (after_repeatUntil (fun u => w.IteratorStays u r) (fun acc u hu => ?_)
    ⟨.refl w, it, hr, hs⟩).1
  obtain ⟨hk, it', hr', hs'⟩ := hu
  obtain ⟨hk', hstays⟩ := advance_simple (m := m) hr' hs'
  have hu : w.IteratorStays (u.after (advance m r)) r := ⟨hk.trans hk', hstays⟩
  cases h : advance m r u with
  | error e x => rwa [after_bind_of_error h, ← after_of_error h]
  | ok x y =>
    rw [after_bind_of_ok h, ← after_of_ok h]
    cases x <;> exact hu

theorem iterator_of_new {it : Iterator} (hs : it.isSimple = true) {u : World}
    (h : (do return some (← alloc (.iterator it))) w = .ok (some r) u) :
    r = w.objects.size ∧ ∃ it, it.isSimple = true ∧ u = w.push (.iterator it) := by
  obtain ⟨_, _, h', h⟩ := bind_eq_ok.1 h
  obtain ⟨rfl, rfl⟩ := alloc_eq_ok.1 h'
  obtain ⟨h, rfl⟩ := pure_eq_ok.1 h
  cases h
  exact ⟨rfl, it, hs, rfl⟩

/-- A plain value gets an iterator that is simple and new. -/
theorem iterator?_plain (hv : w.IsPlain v) {u : World} (h : iterator? v w = .ok (some r) u) :
    r = w.objects.size ∧ ∃ it, it.isSimple = true ∧ u = w.push (.iterator it) := by
  have hnone {u : World} : ¬ (pure none : Action (Option Ref)) w = .ok (some r) u := by simp
  unfold iterator? at h
  cases v with
  | str _ | stage _ | severity _ | tuple _ | range _ _ _ => exact iterator_of_new rfl h
  | ref q =>
    obtain ⟨-, hit, hinst⟩ := hv q rfl
    dsimp only at h
    rw [bind_of_ok (load_ok w q)] at h
    generalize w.at' q = o at h hit hinst
    cases o with
    | iterator it => exact absurd rfl (hit it)
    | «instance» cls attrs => exact absurd rfl (hinst cls attrs)
    | list _ | dict _ | assets _ _ | registry _ => exact iterator_of_new rfl h
    | view t part =>
      dsimp only at h
      rw [bind_of_ok (load_ok w t)] at h
      generalize w.at' t = o at h
      cases o with
      | dict _ => exact iterator_of_new rfl h
      | _ => exact absurd h hnone
    | _ => exact absurd h hnone
  | _ => exact absurd h hnone

instance iterating_iterator? (v : Value) : Iterating (iterator? v) := by
  unfold iterator? iteratorOf
  repeat' first | infer_instance | with_reducible refine Iterating.bind ?_ fun _ => ?_ | split

instance iterating_iterate (v : Value) : Iterating (iterate v) := by
  unfold iterate
  repeat' first | infer_instance | with_reducible refine Iterating.bind ?_ fun _ => ?_ | split

theorem collect_plain (hv : w.IsPlain v) : w.Iterates (w.after (collect m v)) := by
  unfold collect
  refine Iterates.bind (Iterating.iterates w) fun r u h => ?_
  · unfold iterate at h
    obtain ⟨found, w₁, hfound, h⟩ := bind_eq_ok.1 h
    cases found with
    | none =>
      obtain ⟨_, _, -, h⟩ := bind_eq_ok.1 h
      exact absurd h typeError_eq_ok
    | some q =>
      obtain ⟨rfl, rfl⟩ := pure_eq_ok.1 h
      obtain ⟨rfl, it, hs, rfl⟩ := iterator?_plain hv hfound
      exact drain_simple (at'_push_size _ _) hs

end

section

variable {w u : World} {v : Value} {n : Nat}

theorem World.IsPlain.mono (hv : w.IsPlain v) (hsize : w.objects.size ≤ u.objects.size)
    (hshape : ∀ r : Nat, r < w.objects.size → (u.at' r).shape = (w.at' r).shape) : u.IsPlain v := by
  rintro r rfl
  obtain ⟨hlt, hit, hinst⟩ := hv r rfl
  have hr := hshape r hlt
  refine ⟨Nat.lt_of_lt_of_le hlt hsize, fun it h => ?_, fun cls attrs h => ?_⟩
  all_goals
    rw [h] at hr
    generalize w.at' r = o at hr hit hinst
    cases o <;> simp_all [Object.shape, Object.ctorIdx]

instance iterating_configAt (v : Value) : Iterating (configAt v) := by
  unfold configAt
  repeat' first | infer_instance | with_reducible refine Iterating.bind ?_ fun _ => ?_ | split

instance iterating_ownClassAttribute (id : Nat) (name : String) :
    Iterating (ownClassAttribute id name) := by
  unfold ownClassAttribute
  repeat' first | infer_instance | with_reducible refine Iterating.bind ?_ fun _ => ?_ | split

instance iterating_classConfig (id : Nat) :
    Iterating ((interpreter n).attributeOf (.type (.context id)) "config") := by
  cases n with
  | zero => exact iterating_throw _
  | succ n => exact iterating_ownClassAttribute id "config"

theorem World.IsPlain.evolves (hv : w.IsPlain v) (h : w.Evolves u) : u.IsPlain v :=
  hv.mono h.size fun r hr => (h.objects r hr).shape

theorem World.IsPlain.iterates (hv : w.IsPlain v) (h : w.Iterates u) : u.IsPlain v := by
  rintro r rfl
  obtain ⟨hlt, hit, hinst⟩ := hv r rfl
  rw [h.objects r hlt hit]
  exact ⟨Nat.lt_of_lt_of_le hlt h.size, hit, hinst⟩

theorem references_plain (hv : w.IsPlain v) :
    w.Iterates (w.after (ViewConfig.references (interpreter n) v)) := by
  unfold ViewConfig.references
  split
  · exact .refl w
  · exact .refl w
  · exact Iterates.bind (collect_plain hv) fun items u _ => Iterating.iterates u

theorem replace_plain {c : ViewConfig} {changes : List (String × Value)}
    (hc : ∀ a ∈ changes, w.IsPlain a.2) :
    w.Iterates (w.after (c.replace (interpreter n) changes)) := by
  unfold ViewConfig.replace
  split
  · exact Iterating.iterates w
  · extract_lets refs
    have hrefs {u : World} (h : w.Iterates u) (name : String) (now : List Value) :
        u.Iterates (u.after (refs name now)) := by
      dsimp only [refs]
      cases ha : changes.find? (·.1 == name) with
      | none => exact .refl u
      | some a => exact references_plain ((hc a (List.mem_of_find?_eq_some ha)).iterates h)
    refine Iterates.bind (hrefs (.refl w) "css" _) fun css u hu => ?_
    refine Iterates.bind (hrefs ?_ "js" _) fun js v _ => .refl v
    exact after_of_ok hu ▸ hrefs (.refl w) "css" _

end

/-! ## Computations that leave registries alone -/

/-- Whatever a computation comes to, it leaves registries alone. -/
class Keeping {α : Type} (x : Action α) : Prop where
  keeps : ∀ w : World, w.KeepsRegistries (w.after x)

section

variable {α β : Type} {w : World} {n : Nat}

theorem KeepsRegistries.bind {x : Action α} {f : α → Action β} (hx : w.KeepsRegistries (w.after x))
    (hf : ∀ a u, x w = .ok a u → u.KeepsRegistries (u.after (f a))) :
    w.KeepsRegistries (w.after (x >>= f)) :=
  rel_after_bind .trans hx hf

instance keeping_of_iterating {x : Action α} [Iterating x] : Keeping x :=
  ⟨fun w => (Iterating.iterates w).keepsRegistries⟩

instance keeping_setClassAttribute (id : Nat) (name : String) (v : Value) :
    Keeping (ContextClass.setClassAttribute id name v) := by
  refine ⟨fun w => ?_⟩
  exact .setClass rfl rfl

instance keeping_bind {x : Action α} {f : α → Action β} [hx : Keeping x] [hf : ∀ a, Keeping (f a)] :
    Keeping (x >>= f) :=
  ⟨fun w => KeepsRegistries.bind (hx.keeps w) fun a u _ => (hf a).keeps u⟩

/-- What the configuration of a class becomes with some changes. -/
def changedConfig (m : Interpreter) (id : Nat) (changes : List (String × Value)) : Action ViewConfig := do
  let now ← configAt (← m.attributeOf (.type (.context id)) "config")
  now.replace m changes

theorem configure_eq (m : Interpreter) (id : Nat) (changes : List (String × Value)) :
    ContextClass.configure m id changes = changedConfig m id changes >>= fun c =>
      allocValue (.config c) >>= fun config =>
        ContextClass.setClassAttribute id "config" config >>= fun _ => pure config := by
  unfold ContextClass.configure changedConfig
  simp only [bind_assoc]

theorem changedConfig_plain {id : Nat} {changes : List (String × Value)}
    (hc : ∀ a ∈ changes, w.IsPlain a.2) :
    w.Iterates (w.after (changedConfig (interpreter n) id changes)) := by
  unfold changedConfig
  refine Iterates.bind (Iterating.iterates w) fun config w₁ h₁ => ?_
  have hw₁ : w.Iterates w₁ := after_of_ok h₁ ▸ Iterating.iterates w
  refine Iterates.bind (Iterating.iterates w₁) fun now w₂ h₂ => ?_
  have hw₂ : w₁.Iterates w₂ := after_of_ok h₂ ▸ Iterating.iterates w₁
  exact replace_plain fun a ha => (hc a ha).iterates (hw₁.trans hw₂)

theorem configure_plain {id : Nat} {changes : List (String × Value)}
    (hc : ∀ a ∈ changes, w.IsPlain a.2) :
    w.KeepsRegistries (w.after (ContextClass.configure (interpreter n) id changes)) := by
  rw [configure_eq]
  exact KeepsRegistries.bind (changedConfig_plain hc).keepsRegistries fun c u _ => Keeping.keeps u

end

end Stencil
