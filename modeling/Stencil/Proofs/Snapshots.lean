import Stencil.Proofs.Pending
import Stencil.Proofs.ViewAssets

/-!
# Snapshots

A deferred expression has names of its own, a copy of those of its template at the time of its directive.
Two rules say why nobody else can touch them: no function and no other expression has these names as its
own, and code that is run in other names binds nothing in them. What the expression reads is therefore
what was bound when its directive ran, until it binds the name itself.
-/

namespace Stencil

open World Evaluation Script Rule

namespace Object

theorem Evolves.home? {o p : Object} (h : o.Evolves p) : p.home? = o.home? := by
  cases o with
  | function f => rw [h.fixed rfl]
  | binding b =>
    obtain ⟨c, rfl, hc⟩ := h.binding b rfl
    rw [Object.home?, Object.home?, hc.globals]
  | _ => cases p <;> first | rfl | exact absurd h.shape (by rintro ⟨⟩)

/-- An object whose code does nothing. -/
def mute : Object → Object
  | .function f => .function { f with body := .expression .silence }
  | .binding b => .binding { b with code := .silence }
  | o => o

variable {o p : Object} {n : Namespace}

theorem home?_mute (o : Object) : o.mute.home? = o.home? := by
  cases o <;> rfl

theorem mute_mute (o : Object) : o.mute.mute = o.mute := by
  cases o <;> rfl

theorem mute_of_home?_eq_none (h : o.home? = none) : o.mute = o := by
  cases o <;> first | rfl | cases h

theorem mute_eq_globals : o.mute = .globals n ↔ o = .globals n := by
  cases o <;> simp [mute]

/-- An object that does nothing does nothing when it has evolved. -/
theorem Evolves.mute (h : o.Evolves p) (ho : o.mute = o) : p.mute = p := by
  cases o with
  | function f => rwa [h.fixed rfl]
  | binding b =>
    obtain ⟨c, rfl, hc⟩ := h.binding b rfl
    have hb : Expr.silence = b.code := congrArg Binding.code (Object.binding.inj ho)
    rw [Object.mute, hb, ← hc.code]
  | _ => exact mute_of_home?_eq_none h.home?

end Object

namespace World

variable {w u : World} {r s g : Nat} {o : Object} {n : Namespace}

/-- Another object than the one that is there for it is left alone. -/
theorem at'_put_of_shape_ne (h : (w.at' r).shape ≠ o.shape) : (w.put s o).at' r = w.at' r := by
  by_cases hr : r = s
  · rw [put_of_shape_ne (hr ▸ h)]
  · exact at'_put_of_ne hr

theorem lt_size_of_globals (h : w.at' g = .globals n) : g < w.objects.size := by
  refine Nat.lt_of_not_le fun hle => ?_
  rw [at'_of_size_le hle] at h
  cases h

theorem at'_push (w : World) (o : Object) (r : Nat) :
    (w.push o).at' r = if r = w.objects.size then o else w.at' r := by
  rcases Nat.lt_trichotomy r w.objects.size with h | rfl | h
  · rw [at'_push_of_lt h, if_neg (Nat.ne_of_lt h)]
  · rw [at'_push_size, if_pos rfl]
  · rw [if_neg (Nat.ne_of_gt h), at'_of_size_le (Nat.le_of_lt h),
      at'_of_size_le (by rw [size_push]; exact h)]

/-- What is at a place after an object has been put somewhere: the new object or the one before. -/
theorem at'_put_cases (w : World) (r : Nat) (o : Object) (s : Nat) :
    (w.put r o).at' s = w.at' s ∨ s = r ∧ (w.at' r).shape = o.shape ∧ (w.put r o).at' s = o := by
  by_cases hs : (w.at' r).shape = o.shape
  case neg => exact .inl (by rw [put_of_shape_ne hs])
  by_cases hr : s = r
  case neg => exact .inl (at'_put_of_ne hr)
  subst hr
  by_cases hlt : s < w.objects.size
  · exact .inr ⟨rfl, hs, at'_put_self hlt rfl hs⟩
  · exact .inl (by rw [at'_of_size_le (by simpa using hlt), at'_of_size_le (Nat.not_lt.1 hlt)])

/-! ## Worlds in which all names are there -/

/-- The names of every function and of every deferred expression are there. -/
def Closed (w : World) : Prop := ∀ r g : Nat, (w.at' r).home? = some g → g < w.objects.size

end World

/-- Names stay, and code is run in names that are there. -/
def closure : Rule where
  Inv := World.Closed
  Rel w u := w.objects.size ≤ u.objects.size
  Admits w g := (g : Nat) < w.objects.size

instance closure_lawful : closure.Lawful where
  refl w := Nat.le_refl w.objects.size
  trans h h' := Nat.le_trans h h'
  admits h hg := Nat.lt_of_lt_of_le hg h
  push {w o} hw ho := by
    refine ⟨fun r g hg => ?_, by simp [closure]⟩
    rw [at'_push] at hg
    rw [size_push]
    split at hg
    · exact Nat.lt_succ_of_lt (ho g hg)
    · exact Nat.lt_succ_of_lt (hw r g hg)
  put {w u r o} hw hu _ _ ho := by
    refine ⟨fun s g hg => ?_, by simpa [closure] using hu.2⟩
    rw [size_put]
    rcases at'_put_cases u r o s with h | ⟨-, hs, h⟩ <;> rw [h] at hg
    · exact hu.1 s g hg
    · rw [(ho hs).home?] at hg
      exact Nat.lt_of_lt_of_le (hw r g hg) hu.2
  putNames {w g n} hw _ := by
    refine ⟨fun s h hh => ?_, by simp [closure]⟩
    rw [size_put]
    rcases at'_put_cases w g (.globals n) s with h' | ⟨-, -, h'⟩ <;> rw [h'] at hh
    · exact hw s h hh
    · cases hh
  log hw := ⟨hw, Nat.le_refl _⟩
  setClass hw _ := ⟨hw, Nat.le_refl _⟩
  enclose h := h
  enclosed h := h
  handle h := h
  handled h := h
  fresh _ _ _ h := h
  function {w r f} hw h := .inl (hw r f.globals (by rw [h]; rfl))
  binding {w r b} hw h := .inl (hw r b.globals (by rw [h]; rfl))

/-- Whatever scripts do, the names that they are run in are there. -/
theorem World.Closed.after {α : Type} {w : World} {x : Action α} [hx : Abides closure none x]
    (hw : w.Closed) : (w.after x).Closed :=
  (hx.abides w ⟨hw, by rintro _ ⟨⟩⟩).1

/-! ## Worlds in which code is muted -/

/-- A world in which the code of some names does nothing. -/
def World.mute (g : Ref) (w : World) : World :=
  { w with objects := w.objects.map fun o => if o.home? = some g then o.mute else o }

theorem World.at'_mute (w : World) (g : Ref) (r : Nat) :
    (w.mute g).at' r = if (w.at' r).home? = some g then (w.at' r).mute else w.at' r := by
  unfold World.mute at'
  rw [Array.getD_eq_getD_getElem?, Array.getD_eq_getD_getElem?, Array.getElem?_map]
  cases w.objects[r]? <;> rfl

theorem World.at'_mute_eq_globals {w : World} {g : Ref} {r : Nat} {n : Namespace} :
    (w.mute g).at' r = .globals n ↔ w.at' r = .globals n := by
  rw [at'_mute]
  split
  · exact Object.mute_eq_globals
  · rfl

/-- Some names stay as they are as long as their own code does nothing. -/
def seclusion (g : Ref) : Rule where
  Inv w := (∃ n, w.at' g = .globals n) ∧
    ∀ r : Nat, (w.at' r).home? = some g → (w.at' r).mute = w.at' r
  Rel w u := u.at' g = w.at' g
  Admits _ h := h ≠ g

namespace seclusion

variable {w u : World} {g : Nat}

theorem keeps_put {r : Nat} {o : Object} (hu : (seclusion g).Inv u) (hr : r = g → ∀ n, o ≠ .globals n)
    (ho : (u.at' r).shape = o.shape → o.home? = some g → o.mute = o) :
    (seclusion g).Keeps u (u.put r o) := by
  obtain ⟨⟨n, hn⟩, hsilent⟩ := hu
  have hg : (u.put r o).at' g = u.at' g := by
    rcases at'_put_cases u r o g with h | ⟨rfl, hs, -⟩
    · exact h
    · rw [hn] at hs
      cases o <;> first | cases hs; done | exact absurd rfl (hr rfl _)
  refine ⟨⟨⟨n, hg.trans hn⟩, fun s hs => ?_⟩, hg⟩
  rcases at'_put_cases u r o s with h | ⟨-, hshape, h⟩ <;> rw [h] at hs ⊢
  · exact hsilent s hs
  · exact ho hshape hs

instance lawful : (seclusion g).Lawful where
  refl _ := rfl
  trans h h' := Eq.trans h' h
  admits _ h := h
  push {w o} hw ho := by
    obtain ⟨⟨n, hn⟩, hsilent⟩ := hw
    have hg : (w.push o).at' g = w.at' g := at'_push_of_lt (lt_size_of_globals hn)
    refine ⟨⟨⟨n, hg.trans hn⟩, fun r hr => ?_⟩, hg⟩
    rw [at'_push] at hr ⊢
    split at hr
    · exact absurd rfl (ho g hr)
    · rw [if_neg ‹_›]
      exact hsilent r hr
  put {w u r o} hw hu hr ho hs := by
    obtain ⟨hinv, hg⟩ := keeps_put hu.1 (fun _ => ho) fun hshape hhome =>
      (hs hshape).mute (hw.2 r ((hs hshape).home?.symm.trans hhome))
    exact ⟨hinv, Eq.trans hg hu.2⟩
  putNames hw hg := keeps_put hw (fun h => absurd h hg) fun _ h => by cases h
  log hw := ⟨hw, rfl⟩
  setClass hw _ := ⟨hw, rfl⟩
  enclose h := h
  enclosed h := h
  handle h := h
  handled h := h
  fresh {w u r} hw _ hr _ := by
    obtain ⟨⟨n, hn⟩, -⟩ := hw
    exact Nat.ne_of_gt (Nat.lt_of_lt_of_le (lt_size_of_globals hn) hr)
  function {w r f} hw h := by
    by_cases hg : f.globals = g
    · refine .inr ?_
      have hf := hw.2 r (by rw [h, ← hg]; rfl)
      rw [h] at hf
      exact (congrArg Function.body (Object.function.inj hf)).symm
    · exact .inl hg
  binding {w r b} hw h := by
    by_cases hg : b.globals = g
    · refine .inr ?_
      have hb := hw.2 r (by rw [h, ← hg]; rfl)
      rw [h] at hb
      exact (congrArg Binding.code (Object.binding.inj hb)).symm
    · exact .inl hg

/-- A world is one that the rule is about when its code is muted. -/
theorem inv_mute {n : Namespace} (h : w.at' g = .globals n) : (seclusion g).Inv (w.mute g) := by
  refine ⟨⟨n, at'_mute_eq_globals.2 h⟩, fun r hr => ?_⟩
  rw [at'_mute] at hr ⊢
  split
  · exact Object.mute_mute _
  · rw [if_neg ‹_›] at hr
    contradiction

end seclusion

/-! ## What happens to a name -/

/-- What scripts do in other names than those at a place. -/
def Outside {α : Type} (g : Ref) (x : Action α) : Prop :=
  ∃ home : Option Ref, (∀ h ∈ home, h ≠ g) ∧ ∀ (R : Rule) [R.Lawful], Abides R home x

/-- Who is in other names, and runs no code that has the names at a place as its own, changes nothing
there. -/
theorem Outside.at'_eq {α : Type} {w : World} {g : Ref} {n : Namespace} {x : Action α}
    (hx : Outside g x) (hw : w.at' g = .globals n) (h : (w.mute g).after x = (w.after x).mute g) :
    (w.after x).at' g = .globals n := by
  obtain ⟨home, hhome, hx⟩ := hx
  obtain ⟨-, hkept⟩ := (hx (seclusion g)).abides (w.mute g) ⟨seclusion.inv_mute hw, hhome⟩
  rw [h] at hkept
  exact at'_mute_eq_globals.1 (hkept.trans (at'_mute_eq_globals.2 hw))

/-- A script that is run in other names is outside. -/
theorem outside_execute {g : Ref} {env : Env} (h : env.globals ≠ g) (b : Block) :
    Outside g (machine.execute env b) := by
  refine ⟨some env.globals, by rintro _ ⟨⟩; exact h, fun R _ => ?_⟩
  have : R.Homed env (some env.globals) := ⟨fun hw => hw.2 _ rfl⟩
  infer_instance

/-- Running a template, which has new names, is outside. -/
theorem outside_execute_template (g : Ref) (t : Template) (context : Value) (pass : Option Ref)
    (inner : Value) (values : List (String × Value)) :
    Outside g (Template.execute machine t context pass inner values) :=
  ⟨none, by rintro _ ⟨⟩, fun _ _ => inferInstance⟩

/-- Whether binding a name in an environment means a name in the names at a place. -/
def Evaluation.Env.Means (env : Env) (n : String) (w : World) (g : Ref) (name : String) : Prop :=
  env.globals = g ∧ n = name ∧ ownerOf env.frames n w = .ok none w

/-- What happens without binding a name in the names at a place: what others do without running the
code of these names, and what is done in these names except binding the name or unbinding it. -/
inductive Spares (g : Ref) (name : String) : {α : Type} → World → Action α → Prop
  | others {α : Type} {w : World} {x : Action α} : Outside g x →
      (w.mute g).after x = (w.after x).mute g → Spares g name w x
  | idle {α : Type} {w : World} {x : Action α} : (w.after x).objects = w.objects → Spares g name w x
  | alloc (w : World) (o : Object) : Spares g name w (alloc o)
  | store (w : World) (r : Ref) {o : Object} : (∀ n, o ≠ .globals n) → Spares g name w (store r o)
  | bindName {w : World} {env : Env} {n : String} (v : Value) : ¬env.Means n w g name →
      Spares g name w (bindName env n v)
  | unbindName {w : World} {env : Env} {n : String} : ¬env.Means n w g name →
      Spares g name w (unbindName env n)
  | bind {α β : Type} {w : World} {x : Action α} {f : α → Action β} : Spares g name w x →
      (∀ a u, x w = .ok a u → Spares g name u (f a)) → Spares g name w (x >>= f)
  | attempt {α : Type} {w : World} {x : Action α} : Spares g name w x → Spares g name w (attempt x)

/-- What happens up to some moment without binding a name in the names at a place. -/
inductive Sparing (g : Ref) (name : String) : World → World → Prop
  | refl (w : World) : Sparing g name w w
  | next {α : Type} {w u : World} {x : Action α} : Sparing g name w u → Spares g name u x →
      Sparing g name w (u.after x)

/-- A name is bound as before in the names at a place. -/
def World.BoundAs (g : Ref) (name : String) (w u : World) : Prop :=
  ∀ n, w.at' g = .globals n → ∃ n', u.at' g = .globals n' ∧
    named? n'.values name = named? n.values name ∧ n'.context = n.context

namespace World.BoundAs

variable {g : Ref} {name : String} {w u v : World}

theorem of_at'_eq (h : ∀ n, w.at' g = .globals n → u.at' g = .globals n) : BoundAs g name w u :=
  fun n hn => ⟨n, h n hn, rfl, rfl⟩

theorem refl (w : World) : BoundAs g name w w := of_at'_eq fun _ h => h

theorem trans (h : BoundAs g name w u) (h' : BoundAs g name u v) : BoundAs g name w v := by
  intro n hn
  obtain ⟨n', hn', hvalue, hcontext⟩ := h n hn
  obtain ⟨n'', hn'', hvalue', hcontext'⟩ := h' n' hn'
  exact ⟨n'', hn'', hvalue'.trans hvalue, hcontext'.trans hcontext⟩

theorem push (o : Object) : BoundAs g name w (w.push o) :=
  of_at'_eq fun _ hn => (at'_push_of_lt (lt_size_of_globals hn)).trans hn

theorem put (r : Ref) {o : Object} (ho : ∀ n, o ≠ .globals n) : BoundAs g name w (w.put r o) := by
  refine of_at'_eq fun n hn => ?_
  rcases at'_put_cases w r o g with h | ⟨rfl, hs, -⟩
  · exact h.trans hn
  · rw [hn] at hs
    cases o <;> first | cases hs; done | exact absurd rfl (ho _)

/-- Other values may be put in the place of names when the name that counts has the same. -/
theorem putNames {h : Ref} {m : Namespace} {values : List (String × Value)}
    (hm : namespaceAt h w = .ok m w) (hv : h = g → named? values name = named? m.values name) :
    BoundAs g name w (w.put h (.globals { m with values })) := by
  intro n hn
  rcases at'_put_cases w h (.globals { m with values }) g with h' | ⟨rfl, -, h'⟩
  · exact ⟨n, h'.trans hn, rfl, rfl⟩
  · have hnm : m = n := by
      unfold namespaceAt at hm
      rw [bind_of_ok (load_ok w g), hn] at hm
      cases hm
      rfl
    subst hnm
    exact ⟨_, h', hv rfl, rfl⟩

end World.BoundAs

/-! ## Reading and binding names -/

theorem frameAt_ok (r : Ref) (w : World) : ∃ f, frameAt r w = .ok f w := by
  unfold frameAt
  rw [bind_of_ok (load_ok w r)]
  cases w.at' r <;> exact ⟨_, rfl⟩

theorem namespaceAt_ok (g : Ref) (w : World) : ∃ n, namespaceAt g w = .ok n w := by
  unfold namespaceAt
  rw [bind_of_ok (load_ok w g)]
  cases w.at' g <;> exact ⟨_, rfl⟩

theorem ownerOf_ok (frames : List Ref) (name : String) (w : World) :
    ∃ o, ownerOf frames name w = .ok o w := by
  unfold ownerOf
  generalize true = innermost
  induction frames generalizing innermost with
  | nil => exact ⟨none, rfl⟩
  | cons r rest ih =>
    obtain ⟨f, hf⟩ := frameAt_ok r w
    unfold ownerOf.go
    rw [bind_of_ok hf]
    split
    · exact ⟨_, rfl⟩
    · split
      · exact ⟨_, rfl⟩
      · exact ih false

section

variable {g : Ref} {name : String} {w : World} {env : Env} {n : String}

theorem boundAs_bindName (v : Value) (h : ¬env.Means n w g name) :
    BoundAs g name w (w.after (bindName env n v)) := by
  obtain ⟨o, ho⟩ := ownerOf_ok env.frames n w
  cases o with
  | none =>
    obtain ⟨m, hm⟩ := namespaceAt_ok env.globals w
    have hafter : w.after (bindName env n v) =
        w.put env.globals (.globals { m with values := setNamed m.values n v }) :=
      (after_bind_of_ok ho).trans (after_bind_of_ok hm)
    rw [hafter]
    refine .putNames hm fun hg => ?_
    rw [named?_setNamed, if_neg fun hname => h ⟨hg, hname.symm, ho⟩]
  | some o =>
    obtain ⟨f, hf⟩ := frameAt_ok o.1 w
    have hafter : w.after (bindName env n v) =
        w.put o.1 (.frame { f with values := setNamed f.values n v }) :=
      (after_bind_of_ok ho).trans (after_bind_of_ok hf)
    rw [hafter]
    exact .put _ (by simp)

theorem boundAs_unbindName (h : ¬env.Means n w g name) :
    BoundAs g name w (w.after (unbindName env n)) := by
  obtain ⟨o, ho⟩ := ownerOf_ok env.frames n w
  cases o with
  | none =>
    obtain ⟨m, hm⟩ := namespaceAt_ok env.globals w
    have hafter : w.after (unbindName env n) = w.after (if (named? m.values n).isSome then
        store env.globals (.globals { m with values := eraseNamed m.values n })
        else undefinedName n) :=
      (after_bind_of_ok ho).trans (after_bind_of_ok hm)
    rw [hafter]
    split
    · refine .putNames hm fun hg => ?_
      rw [named?_eraseNamed_of_ne fun hname => h ⟨hg, hname.symm, ho⟩]
    · exact .push _
  | some o =>
    obtain ⟨f, hf⟩ := frameAt_ok o.1 w
    have hafter : w.after (unbindName env n) = w.after (if (named? f.values n).isSome then
        store o.1 (.frame { f with values := eraseNamed f.values n })
        else unboundLocal n o.2) :=
      (after_bind_of_ok ho).trans (after_bind_of_ok hf)
    rw [hafter]
    split
    · exact .put _ (by simp)
    · unfold unboundLocal
      split <;> exact .push _

/-- What spares a name leaves it bound as it was. -/
theorem Spares.boundAs {α : Type} {x : Action α} (h : Spares g name w x) :
    BoundAs g name w (w.after x) := by
  induction h with
  | others hx hmute => exact .of_at'_eq fun _ hn => hx.at'_eq hn hmute
  | idle h => exact .of_at'_eq fun _ hn => (congrArg (·.getD g default) h).trans hn
  | alloc w o => exact .push o
  | store w r ho => exact .put r ho
  | bindName v hmeans => exact boundAs_bindName v hmeans
  | unbindName hmeans => exact boundAs_unbindName hmeans
  | @bind _ _ w x f _ _ ihx ihf =>
    cases hr : x w with
    | ok a u =>
      rw [after_bind_of_ok hr]
      rw [after_of_ok hr] at ihx
      exact ihx.trans (ihf a u hr)
    | error e u =>
      rw [after_bind_of_error hr]
      rwa [after_of_error hr] at ihx
  | attempt _ ih => rwa [after_attempt]

theorem Sparing.boundAs {u : World} (h : Sparing g name w u) : BoundAs g name w u := by
  induction h with
  | refl w => exact .refl w
  | next _ hx ih => exact ih.trans hx.boundAs

/-- The value of a name that is not bound: an attribute of the context at that time, or a built-in
name. -/
def Evaluation.unboundName (m : Interpreter) (context : Option Value) (name : String) : Action Value := do
  let fromContext ← match context with
    | some c => contextName? m c name
    | none => pure none
  match fromContext, builtin? name with
  | some v, _ => return v
  | none, some v => return v
  | none, none => undefinedName name

theorem readName_eq {m : Interpreter} {ns : Namespace} (h : env.Means name w g name)
    (hg : w.at' g = .globals ns) :
    readName m env name w = ((named? ns.values name).elim (unboundName m ns.context name) pure) w := by
  obtain ⟨rfl, -, ho⟩ := h
  have hns : namespaceAt env.globals w = .ok ns w := by
    unfold namespaceAt
    rw [bind_of_ok (load_ok w env.globals), hg]
    rfl
  unfold readName
  rw [bind_of_ok ho]
  dsimp only
  unfold globalName
  rw [bind_of_ok hns]
  cases named? ns.values name <;> rfl

end

/-! ## What a deferred expression reads -/

/-- A page that defers two expressions, the first of which binds the name that the second reads. -/
def countedPage : Action Run := do
  let pass ← alloc (.pass #[])
  let page ← Template.make "page" "<%-> (x := 'five') %><%-> x %>"
  Template.startRun machine page .none (some pass) .none [("x", .str "one")]

instance abides_countedPage {R : Rule} [R.Lawful] {home : Option Ref} : Abides R home countedPage := by
  unfold countedPage
  infer_instance

def counted : Run := (({} : World).value? countedPage).getD default

end Stencil
