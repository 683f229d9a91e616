import Stencil.Proofs.Evolution

/-!
# Rules for how a world may change

What holds of a world whatever computations do in it can often be said of one change at a time: a new
object, an object in the place of one of the same type, a message, a name that is bound. A rule says
which worlds it is about, how they may change, and in which names scripts may be run; a computation
abides by it when it changes the world only like that. Sequences abide by a rule when their parts do, so
that everything the interpreter does abides by every rule whose laws hold.
-/

namespace Stencil

open World Evaluation

/-- The names in which the code of an object is evaluated. -/
def Object.home? : Object → Option Ref
  | .function f => some f.globals
  | .binding b => some b.globals
  | _ => none

/-- Code that does nothing. -/
def Script.Expr.silence : Script.Expr := .constant .none

/-- A rule for how worlds may change. -/
structure Rule where
  /-- What holds of the worlds that the rule is about. -/
  Inv : World → Prop
  /-- How a world may change. -/
  Rel : World → World → Prop
  /-- Whether scripts may be run in the names at a place. -/
  Admits : World → Ref → Prop

namespace Rule

/-- A world that has changed as it may. -/
def Keeps (R : Rule) (w u : World) : Prop := R.Inv u ∧ R.Rel w u

/-- A world that the rule is about, in which scripts may be run in some names. -/
def At (R : Rule) (home : Option Ref) (w : World) : Prop := R.Inv w ∧ ∀ g ∈ home, R.Admits w g

/-- The laws of a rule: the changes that it allows. -/
class Lawful (R : Rule) : Prop where
  refl (w : World) : R.Rel w w
  trans {w u v : World} : R.Rel w u → R.Rel u v → R.Rel w v
  admits {w u : World} {g : Ref} : R.Rel w u → R.Admits w g → R.Admits u g
  push {w : World} {o : Object} : R.Inv w → (∀ g ∈ o.home?, R.Admits w g) → R.Keeps w (w.push o)
  /-- An object may become what it evolves to, seen from the world at the beginning. -/
  put {w u : World} {r : Nat} {o : Object} : R.Inv w → R.Keeps w u → r < w.objects.size →
    (∀ n, o ≠ .globals n) → ((u.at' r).shape = o.shape → (w.at' r).Evolves o) → R.Keeps w (u.put r o)
  /-- Names in which scripts may be run may get any values. -/
  putNames {w : World} {g : Ref} {n : Namespace} : R.Inv w → R.Admits w g →
    R.Keeps w (w.put g (.globals n))
  log {w : World} {message : String × String} : R.Inv w →
    R.Keeps w { w with log := w.log.push message }
  setClass {w : World} {id : Nat} {c : ContextClass} : R.Inv w →
    (w.classes.getD id default).Evolves c →
    R.Keeps w { w with classes := w.classes.setIfInBounds id c }
  enclose {w : World} {home bundle : Option Ref} : R.At home w →
    R.At home { w with enclosing := bundle }
  enclosed {w u : World} {bundle : Option Ref} : R.Keeps { w with enclosing := bundle } u →
    R.Keeps w { u with enclosing := w.enclosing }
  handle {w : World} {home : Option Ref} {handling : List Value} : R.At home w →
    R.At home { w with handling }
  handled {w u : World} {handling : List Value} : R.Keeps { w with handling } u →
    R.Keeps w { u with handling := w.handling }
  /-- Scripts may be run in new names. -/
  fresh {w u : World} {r : Nat} : R.Inv w → R.Keeps w u → w.objects.size ≤ r → r < u.objects.size →
    R.Admits u r
  /-- A function may be run, unless there is nothing to run. -/
  function {w : World} {r : Ref} {f : Function} : R.Inv w → w.at' r = .function f →
    R.Admits w f.globals ∨ f.body = .expression .silence
  binding {w : World} {r : Ref} {b : Binding} : R.Inv w → w.at' r = .binding b →
    R.Admits w b.globals ∨ b.code = .silence

variable {R : Rule} [R.Lawful] {home : Option Ref} {w u v : World}

theorem Keeps.trans (h : R.Keeps w u) (h' : R.Keeps u v) : R.Keeps w v :=
  ⟨h'.1, Lawful.trans h.2 h'.2⟩

theorem keeps_refl (h : R.Inv w) : R.Keeps w w := ⟨h, Lawful.refl w⟩

theorem At.keeps (h : R.At home w) (hu : R.Keeps w u) : R.At home u :=
  ⟨hu.1, fun g hg => Lawful.admits hu.2 (h.2 g hg)⟩

end Rule

/-- However a computation ends, the world has changed as a rule says. -/
class Abides {α : Type} (R : Rule) (home : Option Ref) (x : Action α) : Prop where
  abides : ∀ w : World, R.At home w → R.Keeps w (w.after x)

open Rule

/-- What is done in the names at a place that a rule admits. -/
theorem Abides.within {α : Type} {R : Rule} {g : Ref} {x : Action α} (hx : Abides R (some g) x)
    {w : World} (hw : R.Inv w) (hg : R.Admits w g) : R.Keeps w (w.after x) :=
  hx.abides w ⟨hw, by rintro _ ⟨⟩; exact hg⟩

section

variable {R : Rule} [R.Lawful] {home : Option Ref} {α β : Type}

theorem World.put_of_size_le {w : World} {r : Nat} {o : Object} (h : w.objects.size ≤ r) :
    w.put r o = w := by
  unfold World.put
  split
  · rw [Array.setIfInBounds_eq_of_size_le h]
  · rfl

/-- An object of the world may become what it evolves to. -/
theorem Rule.Lawful.put_self {w : World} {r : Nat} {o : Object} (hw : R.Inv w)
    (hg : ∀ n, o ≠ .globals n) (ho : (w.at' r).shape = o.shape → (w.at' r).Evolves o) : R.Keeps w (w.put r o) := by
  by_cases hr : r < w.objects.size
  · exact Lawful.put hw (keeps_refl hw) hr hg ho
  · rw [put_of_size_le (Nat.not_lt.1 hr)]
    exact keeps_refl hw

/-- What does not change the world abides by every rule. -/
theorem abides_of_after_eq {x : Action α} (h : ∀ w : World, w.after x = w) : Abides R home x :=
  ⟨fun w hw => (h w).symm ▸ keeps_refl hw.1⟩

instance abides_pure (a : α) : Abides R home (pure a : Action α) := abides_of_after_eq fun _ => rfl

instance abides_throw (e : Stop) : Abides R home (throw e : Action α) := abides_of_after_eq fun _ => rfl

instance abides_get : Abides R home (get : Action World) := abides_of_after_eq fun _ => rfl

/-- A computation goes on from a result that is known to be of a kind. -/
theorem Rule.keeps_bind {w : World} {x : Action α} {f : α → Action β} (hw : R.At home w)
    (hx : R.Keeps w (w.after x))
    (hf : ∀ a u, x w = .ok a u → R.At home u → R.Keeps u (u.after (f a))) :
    R.Keeps w (w.after (x >>= f)) := by
  cases h : x w with
  | error e v =>
    rw [after_of_error h] at hx
    rw [after_bind_of_error h]
    exact hx
  | ok a v =>
    rw [after_of_ok h] at hx
    rw [after_bind_of_ok h]
    exact hx.trans (hf a v h (hw.keeps hx))

omit [R.Lawful] in
/-- What has been read off the world is known of what comes next. -/
theorem Rule.keeps_bind_of_ok {w : World} {x : Action α} {f : α → Action β} {a : α} (hx : x w = .ok a w)
    (hf : R.Keeps w (w.after (f a))) : R.Keeps w (w.after (x >>= f)) := by
  rwa [after_bind_of_ok hx]

theorem Abides.bind {x : Action α} {f : α → Action β} (hx : Abides R home x)
    (hf : ∀ a, Abides R home (f a)) : Abides R home (x >>= f) :=
  ⟨fun w hw => keeps_bind hw (hx.abides w hw) fun a u _ hu => (hf a).abides u hu⟩

instance abides_bind {x : Action α} {f : α → Action β} [hx : Abides R home x]
    [hf : ∀ a, Abides R home (f a)] : Abides R home (x >>= f) := hx.bind hf

instance abides_map {x : Action α} {f : α → β} [hx : Abides R home x] : Abides R home (f <$> x) := by
  rw [map_eq_pure_bind]
  infer_instance

instance abides_ite {c : Prop} [Decidable c] {x y : Action α} [Abides R home x] [Abides R home y] :
    Abides R home (if c then x else y) := by
  split <;> assumption

theorem after_attempt (x : Action α) (w : World) : w.after (attempt x) = w.after x := by
  unfold World.after attempt
  cases x w <;> rfl

instance abides_attempt {x : Action α} [hx : Abides R home x] : Abides R home (attempt x) :=
  ⟨fun w hw => (after_attempt x w).symm ▸ hx.abides w hw⟩

instance abides_resume (r : Except Stop α) : Abides R home (resume r) := by
  cases r <;> (unfold resume; infer_instance)

instance abides_load (r : Ref) : Abides R home (load r) := abides_of_after_eq fun _ => rfl

omit [R.Lawful] in
/-- What is known of an object that is loaded may be used of what is done with it. -/
theorem Abides.load_bind {r : Ref} {f : Object → Action α}
    (hf : ∀ w, R.At home w → R.Keeps w (w.after (f (w.at' r)))) :
    Abides R home (load r >>= f) :=
  ⟨fun w hw => keeps_bind_of_ok (load_ok w r) (hf w hw)⟩

/-- An object whose code is evaluated in no names of its own. -/
class Object.Homeless (o : Object) : Prop where
  home?_eq : o.home? = none

instance homeless_list (items : Array Value) : (Object.list items).Homeless := ⟨rfl⟩

instance homeless_dict (entries : List (Value × Value)) : (Object.dict entries).Homeless := ⟨rfl⟩

instance homeless_view (table : Ref) (part : String) : (Object.view table part).Homeless := ⟨rfl⟩

instance homeless_iterator (it : Iterator) : (Object.iterator it).Homeless := ⟨rfl⟩

instance homeless_frame (f : Frame) : (Object.frame f).Homeless := ⟨rfl⟩

instance homeless_globals (n : Namespace) : (Object.globals n).Homeless := ⟨rfl⟩

instance homeless_exception (e : ExceptionObject) : (Object.exception e).Homeless := ⟨rfl⟩

instance homeless_instance (cls : Nat) (attrs : List (String × Value)) :
    (Object.instance cls attrs).Homeless := ⟨rfl⟩

instance homeless_assets (kind : AssetKind) (refs : OrderedSet Value) :
    (Object.assets kind refs).Homeless := ⟨rfl⟩

instance homeless_bundle (css js : Ref) : (Object.bundle css js).Homeless := ⟨rfl⟩

instance homeless_fragment (chunks : Array Value) : (Object.fragment chunks).Homeless := ⟨rfl⟩

instance homeless_pass (bindings : Array Ref) : (Object.pass bindings).Homeless := ⟨rfl⟩

instance homeless_run (x : Run) : (Object.run x).Homeless := ⟨rfl⟩

instance homeless_template (t : Template) : (Object.template t).Homeless := ⟨rfl⟩

instance homeless_config (c : ViewConfig) : (Object.config c).Homeless := ⟨rfl⟩

instance homeless_settings (s : ViewerSettings) : (Object.settings s).Homeless := ⟨rfl⟩

instance homeless_loader (l : Loader) : (Object.loader l).Homeless := ⟨rfl⟩

instance homeless_manager (loader : Ref) (encoding : String) :
    (Object.manager loader encoding).Homeless := ⟨rfl⟩

instance homeless_registry (x : ExposureRegistry Value) : (Object.registry x).Homeless := ⟨rfl⟩

/-- An object may be made in the names that its code is evaluated in. -/
theorem Abides.alloc {o : Object} (ho : ∀ g ∈ o.home?, ∀ w, R.At home w → R.Admits w g) :
    Abides R home (alloc o) :=
  ⟨fun w hw => Lawful.push hw.1 fun g hg => ho g hg w hw⟩

instance abides_alloc (o : Object) [ho : o.Homeless] : Abides R home (alloc o) :=
  .alloc fun g hg => by rw [ho.home?_eq] at hg; cases hg

/-- An object that may become anything of its shape may be stored at any time. -/
theorem abides_store (r : Ref) {o : Object} (ho : o.isFree = true) (hg : ∀ n, o ≠ .globals n) :
    Abides R home (store r o) :=
  ⟨fun _ hw => Lawful.put_self hw.1 hg fun hs =>
    Object.evolves_of_isFree ((Object.isFree_congr hs).trans ho) hs.symm⟩

instance abides_storeList (r : Ref) (items : Array Value) : Abides R home (store r (.list items)) :=
  abides_store r rfl (by simp)

instance abides_storeDict (r : Ref) (entries : List (Value × Value)) :
    Abides R home (store r (.dict entries)) :=
  abides_store r rfl (by simp)

instance abides_storeIterator (r : Ref) (it : Iterator) : Abides R home (store r (.iterator it)) :=
  abides_store r rfl (by simp)

instance abides_storeFrame (r : Ref) (f : Frame) : Abides R home (store r (.frame f)) :=
  abides_store r rfl (by simp)

instance abides_storeInstance (r : Ref) (cls : Nat) (attrs : List (String × Value)) :
    Abides R home (store r (.instance cls attrs)) :=
  abides_store r rfl (by simp)

instance abides_storeAssets (r : Ref) (kind : AssetKind) (refs : OrderedSet Value) :
    Abides R home (store r (.assets kind refs)) :=
  abides_store r rfl (by simp)

instance abides_storeBundle (r css js : Ref) : Abides R home (store r (.bundle css js)) :=
  abides_store r rfl (by simp)

instance abides_storeSettings (r : Ref) (s : ViewerSettings) :
    Abides R home (store r (.settings s)) :=
  abides_store r rfl (by simp)

instance abides_storeRegistry (r : Ref) (x : ExposureRegistry Value) :
    Abides R home (store r (.registry x)) :=
  abides_store r rfl (by simp)

instance abides_logMessage (source message : String) : Abides R home (logMessage source message) :=
  ⟨fun _ hw => Lawful.log hw.1⟩

theorem Abides.mapM {f : α → Action β} {l : List α} (hf : ∀ a, Abides R home (f a)) :
    Abides R home (l.mapM f) := by
  induction l with
  | nil => rw [List.mapM_nil]; infer_instance
  | cons a l ih => rw [List.mapM_cons]; infer_instance

instance abides_mapM {f : α → Action β} {l : List α} [hf : ∀ a, Abides R home (f a)] :
    Abides R home (l.mapM f) := .mapM hf

instance abides_forM {f : α → Action Unit} {l : List α} [hf : ∀ a, Abides R home (f a)] :
    Abides R home (l.forM f) := by
  induction l with
  | nil => exact abides_pure _
  | cons a l ih => exact (hf a).bind fun _ => ih

theorem Abides.foldlM {f : β → α → Action β} {l : List α} {b : β}
    (hf : ∀ b a, Abides R home (f b a)) : Abides R home (l.foldlM f b) := by
  induction l generalizing b with
  | nil => rw [List.foldlM_nil]; infer_instance
  | cons a l ih => rw [List.foldlM_cons]; exact (hf b a).bind fun _ => ih

instance abides_foldlM {f : β → α → Action β} {l : List α} {b : β}
    [hf : ∀ b a, Abides R home (f b a)] : Abides R home (l.foldlM f b) := .foldlM hf

instance abides_foldrM {f : α → β → Action β} {l : List α} {b : β}
    [hf : ∀ a b, Abides R home (f a b)] : Abides R home (l.foldrM f b) := by
  induction l with
  | nil => rw [List.foldrM_nil]; infer_instance
  | cons a l ih => rw [List.foldrM_cons]; infer_instance

instance abides_anyM {f : α → Action Bool} {l : List α} [hf : ∀ a, Abides R home (f a)] :
    Abides R home (l.anyM f) := by
  induction l with
  | nil => rw [List.anyM]; infer_instance
  | cons a l ih =>
    rw [List.anyM]
    refine (hf a).bind fun b => ?_
    split <;> infer_instance

instance abides_allM {f : α → Action Bool} {l : List α} [hf : ∀ a, Abides R home (f a)] :
    Abides R home (l.allM f) := by
  induction l with
  | nil => rw [List.allM]; infer_instance
  | cons a l ih =>
    rw [List.allM]
    refine (hf a).bind fun b => ?_
    split <;> infer_instance

instance abides_filterM {f : α → Action Bool} {l : List α} [hf : ∀ a, Abides R home (f a)] :
    Abides R home (l.filterM f) := by
  have haux (acc : List α) : Abides R home (l.filterAuxM f acc) := by
    induction l generalizing acc with
    | nil => exact abides_pure acc
    | cons a l ih => exact (hf a).bind fun b => ih _
  exact (haux []).bind fun _ => abides_pure _

theorem Abides.forIn {f : α → β → Action (ForInStep β)} {l : List α} {b : β}
    (hf : ∀ a b, Abides R home (f a b)) : Abides R home (forIn l b f) := by
  induction l generalizing b with
  | nil => rw [List.forIn_nil]; infer_instance
  | cons a l ih =>
    rw [List.forIn_cons]
    refine (hf a b).bind fun r => ?_
    cases r with
    | done b => exact abides_pure b
    | yield b => exact ih

instance abides_allocValue (o : Object) [o.Homeless] : Abides R home (allocValue o) := by
  unfold allocValue
  infer_instance

instance abides_object? (v : Value) : Abides R home (object? v) := by
  unfold object?
  split <;> infer_instance

instance abides_raiseValue (v : Value) : Abides R home (raiseValue v : Action α) := by
  unfold raiseValue
  infer_instance

instance abides_raise (type : String) (args : List Value) :
    Abides R home (raise type args : Action α) := by
  unfold raise
  infer_instance

instance abides_raiseText (type message : String) :
    Abides R home (raiseText type message : Action α) := by
  unfold raiseText
  infer_instance

instance abides_typeError (message : String) : Abides R home (typeError message : Action α) := by
  unfold typeError
  infer_instance

instance abides_valueError (message : String) : Abides R home (valueError message : Action α) := by
  unfold valueError
  infer_instance

instance abides_raiseFault (f : Fault) : Abides R home (raiseFault f : Action α) := by
  unfold raiseFault
  infer_instance

instance abides_newList (items : List Value) : Abides R home (newList items) := by
  unfold newList
  infer_instance

instance abides_classAt (id : Nat) : Abides R home (classAt id) := by
  unfold classAt
  infer_instance

omit [R.Lawful] in
/-- A computation may depend on what a class is. -/
theorem Abides.classAt_bind {id : Nat} {f : ContextClass → Action α}
    (hf : ∀ w : World, R.At home w → R.Keeps w (w.after (f (w.classes.getD id default)))) :
    Abides R home (classAt id >>= f) :=
  ⟨fun w hw => keeps_bind_of_ok rfl (hf w hw)⟩

end

/-- Scripts may be run in the names of an environment. -/
class Rule.Homed (R : Rule) (env : Env) (home : Option Ref) : Prop where
  admits {w : World} : R.At home w → R.Admits w env.globals

instance homed_globals {R : Rule} (g : Ref) (frames : List Ref) (path : String) :
    R.Homed ⟨g, frames, path⟩ (some g) := ⟨fun hw => hw.2 g rfl⟩

instance abides_storeNames {R : Rule} [R.Lawful] {env : Env} {home : Option Ref}
    [henv : R.Homed env home] (n : Namespace) : Abides R home (store env.globals (.globals n)) :=
  ⟨fun _ hw => Lawful.putNames hw.1 (henv.admits hw)⟩

instance homed_inner {R : Rule} (env : Env) {home : Option Ref} [h : R.Homed env home]
    (frames : List Ref) (path : String) : R.Homed ⟨env.globals, frames, path⟩ home := ⟨h.admits⟩

/-- Whatever an interpreter is asked for, it abides by a rule. -/
class Rule.Governs (R : Rule) (m : Interpreter) : Prop where
  evaluate (home : Option Ref) (env : Env) [R.Homed env home] (e : Script.Expr) :
    Abides R home (m.evaluate env e)
  execute (home : Option Ref) (env : Env) [R.Homed env home] (b : Script.Block) :
    Abides R home (m.execute env b)
  call (home : Option Ref) (f : Value) (args : Arguments) : Abides R home (m.call f args)
  attributeOf (home : Option Ref) (v : Value) (name : String) : Abides R home (m.attributeOf v name)
  text (home : Option Ref) (v : Value) : Abides R home (m.text v)
  silence (home : Option Ref) (env : Env) : Abides R home (m.evaluate env .silence)

attribute [instance] Rule.Governs.evaluate Rule.Governs.execute Rule.Governs.call
  Rule.Governs.attributeOf Rule.Governs.text Rule.Governs.silence

end Stencil
