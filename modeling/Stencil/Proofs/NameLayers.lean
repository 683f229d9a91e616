import Stencil.Proofs.Reaching
import Stencil.Proofs.Snapshots

/-!
# The layers of a name

A global name is looked for in the names of its run, then among the attributes of the context, then among
the built-in names. The names of a run begin with the values it is given and change only where its code
binds or unbinds one, so that what a name stands for can be told from the changes so far; a deferred
expression goes on from the names at its directive by itself.
-/

namespace Stencil

open World Evaluation

/-- What scripts do to a global name. -/
inductive NameChange where
  | bind (name : String) (v : Value)
  | unbind (name : String)

namespace NameChange

variable {name : String}

/-- What a name is bound to after a change. -/
def entry (name : String) (before : Option Value) : NameChange → Option Value
  | .bind n v => if name = n then some v else before
  | .unbind n => if name = n then none else before

/-- What a name is bound to after changes. -/
def replay (name : String) (first : Option Value) (cs : List NameChange) : Option Value :=
  cs.foldl (entry name) first

theorem replay_concat (first : Option Value) (cs : List NameChange) (c : NameChange) :
    replay name first (cs ++ [c]) = c.entry name (replay name first cs) := by
  rw [replay, List.foldl_append]
  rfl

/-- A name that is unbound has no value. -/
theorem replay_unbind (first : Option Value) (cs : List NameChange) :
    replay name first (cs ++ [.unbind name]) = none := by
  rw [replay_concat, entry, if_pos rfl]

end NameChange

/-- What happens to the names at a place up to some moment, with the changes in order: the code that is
run in these names binds and unbinds some, and nothing else has to do with them. -/
inductive Renaming (g : Ref) : World → List NameChange → World → Prop
  | start (w : World) : Renaming g w [] w
  | spare {α : Type} {w u : World} {cs : List NameChange} {x : Action α} : Renaming g w cs u →
      (∀ name, Spares g name u x) → Renaming g w cs (u.after x)
  | bind {w u : World} {cs : List NameChange} {env : Env} {n : String} (v : Value) : Renaming g w cs u →
      env.Means n u g n → Renaming g w (cs ++ [.bind n v]) (u.after (bindName env n v))
  | unbind {w u : World} {cs : List NameChange} {env : Env} {n : String} : Renaming g w cs u →
      env.Means n u g n → Renaming g w (cs ++ [.unbind n]) (u.after (unbindName env n))

/-- The names at a place: what each is bound to, and the context behind them. -/
def World.Binds (w : World) (g : Ref) (entry : String → Option Value) (context : Option Value) : Prop :=
  ∃ n, w.at' g = .globals n ∧ n.context = context ∧ ∀ name, named? n.values name = entry name

namespace World.Binds

variable {w u : World} {g : Ref} {entry : String → Option Value} {context : Option Value}

theorem of_boundAs (h : w.Binds g entry context) (hu : ∀ name, BoundAs g name w u) :
    u.Binds g entry context := by
  obtain ⟨n, hn, hcontext, hentry⟩ := h
  obtain ⟨n', hn', -, hcontext'⟩ := hu "" n hn
  refine ⟨n', hn', hcontext'.trans hcontext, fun name => ?_⟩
  obtain ⟨n'', hn'', hvalue, -⟩ := hu name n hn
  obtain rfl : n' = n'' := Object.globals.inj (hn'.symm.trans hn'')
  exact hvalue.trans (hentry name)

theorem namespaceAt_eq {n : Namespace} (h : w.at' g = .globals n) : namespaceAt g w = .ok n w := by
  unfold namespaceAt
  rw [bind_of_ok (load_ok w g), h]
  rfl

/-- Other values may be put in the place of the names. -/
theorem put {n : Namespace} {values : List (String × Value)} (h : w.at' g = .globals n)
    (hcontext : n.context = context) (hvalues : ∀ name, named? values name = entry name) :
    (w.put g (.globals { n with values })).Binds g entry context :=
  ⟨_, at'_put_self (lt_size_of_globals h) h rfl, hcontext, hvalues⟩

theorem bind {env : Env} {name : String} (v : Value) (h : w.Binds g entry context)
    (hmeans : env.Means name w g name) :
    (w.after (bindName env name v)).Binds g (fun n => (NameChange.bind name v).entry n (entry n)) context := by
  obtain ⟨n, hn, hcontext, hentry⟩ := h
  obtain ⟨rfl, -, ho⟩ := hmeans
  have hafter : w.after (bindName env name v) =
      w.put env.globals (.globals { n with values := setNamed n.values name v }) :=
    (after_bind_of_ok ho).trans (after_bind_of_ok (namespaceAt_eq hn))
  rw [hafter]
  refine put hn hcontext fun other => ?_
  rw [named?_setNamed, hentry, NameChange.entry]

theorem unbind {env : Env} {name : String} (h : w.Binds g entry context)
    (hmeans : env.Means name w g name) :
    (w.after (unbindName env name)).Binds g (fun n => (NameChange.unbind name).entry n (entry n))
      context := by
  obtain ⟨n, hn, hcontext, hentry⟩ := h
  obtain ⟨rfl, -, ho⟩ := hmeans
  have hafter : w.after (unbindName env name) =
      w.after (if (named? n.values name).isSome then
        store env.globals (.globals { n with values := eraseNamed n.values name })
        else undefinedName name) :=
    (after_bind_of_ok ho).trans (after_bind_of_ok (namespaceAt_eq hn))
  rw [hafter]
  by_cases hbound : (named? n.values name).isSome
  · rw [if_pos hbound]
    refine put hn hcontext fun other => ?_
    rw [named?_eraseNamed, hentry, NameChange.entry]
  · -- The name is not bound, and stays so.
    rw [if_neg hbound]
    refine ⟨n, (at'_push_of_lt (lt_size_of_globals hn)).trans hn, hcontext, fun other => ?_⟩
    refine (hentry other).trans ?_
    change entry other = if other = name then none else entry other
    split
    · rename_i hname
      rw [hname, ← hentry]
      exact Option.not_isSome_iff_eq_none.1 hbound
    · rfl

/-- What the names are bound to can be told from the changes. -/
theorem replay {cs : List NameChange} (h : w.Binds g entry context) (hcs : Renaming g w cs u) :
    u.Binds g (fun name => NameChange.replay name (entry name) cs) context := by
  induction hcs with
  | start w => exact h
  | spare _ hx ih => exact (ih h).of_boundAs fun name => (hx name).boundAs
  | bind v _ hmeans ih =>
    obtain ⟨n, hn, hcontext, hentry⟩ := (ih h).bind v hmeans
    exact ⟨n, hn, hcontext, fun name => (hentry name).trans (NameChange.replay_concat _ _ _).symm⟩
  | unbind _ hmeans ih =>
    obtain ⟨n, hn, hcontext, hentry⟩ := (ih h).unbind hmeans
    exact ⟨n, hn, hcontext, fun name => (hentry name).trans (NameChange.replay_concat _ _ _).symm⟩

end World.Binds

/-! ## The names of a run -/

namespace Template

variable {m : Interpreter} {t : Template} {context inner : Value} {pass : Option Ref}
  {values : List (String × Value)} {x : Run} {w u : World}

end Template

/-! ## Reading a name -/

/-- The exception for a name that stands for nothing. -/
def undefinedNameError (name : String) : ExceptionObject :=
  { type := .exception "NameError", args := [.str ("name '" ++ name ++ "' is not defined")] }

namespace Evaluation

variable {m : Interpreter} {c : Value} {name : String} {w : World}

/-- Reading an attribute gives a value or says that there is none. -/
def ReadsOrLacks (m : Interpreter) (v : Value) (name : String) (w : World) : Prop :=
  ∀ e u, m.attributeOf v name w = .error e u →
    ∃ r, e = .raised r ∧ isInstance r.value (.exception "AttributeError") u = .ok true u

/-- What a name stands for: what it is bound to, or else the attribute of the context, or else the
built-in value; when there is none of them, it is not defined. -/
def firstLayer (m : Interpreter) (entry : Option Value) (context : Value) (name : String) : Action Value :=
  fun w =>
    match entry, m.attributeOf context name w, builtin? name with
    | some v, _, _ => .ok v w
    | none, .ok v u, _ => .ok v u
    | none, .error _ u, some v => .ok v u
    | none, .error _ u, none =>
      .error (.raised { value := .ref u.objects.size }) (u.push (.exception (undefinedNameError name)))

theorem unboundName_eq (h : ReadsOrLacks m c name w) :
    unboundName m (some c) name w = firstLayer m none c name w := by
  unfold unboundName firstLayer
  dsimp only
  cases hread : m.attributeOf c name w with
  | ok v u =>
    have hname : contextName? m c name w = .ok (some v) u := bind_of_ok (attempt_of_ok hread)
    rw [bind_of_ok hname]
    rfl
  | error e u =>
    obtain ⟨r, rfl, hr⟩ := h e u hread
    have hname : contextName? m c name w = .ok none u :=
      (bind_of_ok (attempt_of_error hread)).trans (bind_of_ok hr)
    rw [bind_of_ok hname]
    cases builtin? name <;> rfl

end Evaluation

/-- Wherever a script reads one of the names at a place as a global one, at the outermost level, in a
function or in a deferred expression, it stands for the first of its layers. -/
def World.Resolves (w : World) (g : Ref) (entry : String → Option Value) (context : Value) : Prop :=
  ∀ (k : Nat) (env : Env) (name : String), env.Means name w g name →
    (entry name = none → ReadsOrLacks (interpreter k) context name w) →
      (interpreter (k + 1)).evaluate env (.name name) w =
        firstLayer (interpreter k) (entry name) context name w

theorem World.Binds.resolves {w : World} {g : Ref} {entry : String → Option Value} {c : Value}
    (h : w.Binds g entry (some c)) : w.Resolves g entry c := by
  intro k env name hmeans hreads
  obtain ⟨n, hn, hcontext, hentry⟩ := h
  have hread : (interpreter (k + 1)).evaluate env (.name name) w = readName (interpreter k) env name w := rfl
  rw [hread, readName_eq hmeans hn, hentry, hcontext]
  cases hname : entry name with
  | some v => rfl
  | none => exact unboundName_eq (hreads hname)

/-- To defer an expression leaves all names alone. -/
theorem Renaming.defer {g : Ref} {x : Run} {index : Value} {w u v : World} {cs : List NameChange}
    (h : Renaming g w cs u) (hdefer : x.defer index u = .ok () v) : Renaming g w cs v := by
  obtain ⟨names, b, _, chunks, rfl, -, rfl, -, -⟩ := Run.defer_eq_ok hdefer
  have hmade : Renaming g w cs ((u.push names).push (.binding b)) :=
    (h.spare fun _ => .alloc u names).spare fun _ => .alloc _ (.binding b)
  exact (hmade.spare fun _ => .store _ x.pass (by simp)).spare fun _ => .store _ x.fragment (by simp)

/-! ## Names that are not defined -/

end Stencil
