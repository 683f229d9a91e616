import Stencil.Proofs.NestedFailures
import Stencil.Proofs.Sequences

/-!
# The bundle around a render

A view that renders while another one renders gives its assets to that one when it has finished. Which
view that is stands in the world while templates run, and templates may begin other renders at any time,
fail in them and go on. Each render leaves the enclosing bundle as it has found it, so at the beginning
of a render it is the bundle of the innermost render that is going on, and only that one gets the assets.
-/

namespace Stencil

open World Evaluation Script

/-! ## Bundles that are registered -/

section

variable {n : Nat} {w : World} {b c j o c' j' : Nat} {refs more : References}

/-- Registering a bundle in another one comes to an end. -/
theorem exists_callIn_register (hb : w.IsBundle b c j refs.distinct) (ho : w.IsBundle o c' j' more)
    (hcj : c ≠ j) (hcj' : c ≠ j') (hcss : more.css.length < maxRounds)
    (hjs : more.js.length < maxRounds) :
    ∃ u, View.callIn (interpreter (n + 2)) (.ref b) "register" [.ref o] w = .ok (.ref b) u := by
  have hread : (interpreter (n + 2)).attributeOf (.ref b) "register" w =
      .ok (.method (.ref b) "register") w := by
    rw [attributeOf_succ,
      readAttribute_method hb.parts (by simp) (by simp [IsPlainName]) rfl (by rfl)]
  have hregister : ∃ u, Bundle.register (interpreter (n + 1)) b (.ref o) w = .ok () u := by
    have hcss' : (interpreter (n + 1)).attributeOf (.ref o) "css" w = .ok (.ref c') w := by
      rw [attributeOf_succ, readAttribute_data ho.parts (by simp) (by simp [IsPlainName]) rfl]
    obtain ⟨kc, hc⟩ := hb.css
    obtain ⟨u, hu, -, hf₁⟩ := update_sequence (m := interpreter (n + 1)) hc (.set ho.css) hcss
    have keep {r : Nat} (hr : r < w.objects.size) (hne : r ≠ c) : u.at' r = w.at' r :=
      hf₁.same r hr (by simpa using hne)
    have hjs' : (interpreter (n + 1)).attributeOf (.ref o) "js" u = .ok (.ref j') u := by
      have hou := (keep ho.lt_size (ho.ne_of_holds hb.css)).trans ho.parts
      rw [attributeOf_succ, readAttribute_data hou (by simp) (by simp [IsPlainName]) rfl]
    have hj₁ := hb.js.congr (keep hb.js.lt_size (Ne.symm hcj))
    have hjo₁ := ho.js.congr (keep ho.js.lt_size (Ne.symm hcj'))
    obtain ⟨kj, hj⟩ := id hj₁
    obtain ⟨v, hv, -, -⟩ := update_sequence (m := interpreter (n + 1)) hj (.set hjo₁) hjs
    refine ⟨v, ?_⟩
    unfold Bundle.register
    rw [bind_of_ok (parts_eq hb.parts)]
    dsimp only
    rw [bind_of_ok hcss', bind_of_ok hu, bind_of_ok hjs']
    exact hv
  obtain ⟨u, hu⟩ := hregister
  refine ⟨u, ?_⟩
  unfold View.callIn
  rw [bind_of_ok hread, apply_method]
  simp only [callMethod, Value.text?]
  rw [bind_of_ok (load_ok w b), hb.parts]
  simp only [objectMethod, methodParameters]
  rw [bind_of_ok (w.typeName_eq (.ref b))]
  rw [bind_of_ok (matched_eq rfl rfl w)]
  exact (bind_of_ok hu).trans rfl

end

/-! ## Renders inside of each other -/

/-- However a computation ends, the enclosing bundle is again the one that it began with. -/
class KeepsEnclosing {α : Type} (x : Action α) : Prop where
  keeps : ∀ w : World, (w.after x).enclosing = w.enclosing

instance keepsEnclosing_of_evolving {α : Type} (x : Action α) [hx : Evolving x] : KeepsEnclosing x :=
  ⟨fun w => (hx.evolves w).enclosing⟩

theorem KeepsEnclosing.of_ok {α : Type} {x : Action α} [hx : KeepsEnclosing x] {a : α} {w u : World}
    (h : x w = .ok a u) : u.enclosing = w.enclosing := after_of_ok h ▸ hx.keeps w

/-- What is being handled may change without the enclosing bundle. -/
theorem keepsEnclosing_handling (f : World → List Value) :
    KeepsEnclosing (modify fun w => { w with handling := f w }) := ⟨fun _ => rfl⟩

namespace View

/-- A render that has begun and has not ended yet, with the bundle that it collects its assets in. -/
structure Opened where
  view : Value
  bundle : Value

/-- The bundle that renders give their assets to while some renders are going on, the innermost of them
first, and outside of all of them. -/
def around (opened : List Opened) (outside : Option Ref) : Option Ref :=
  match opened with
  | [] => outside
  | o :: _ => reference? o.bundle

theorem around_concat (opened : List Opened) (o : Opened) (outside : Option Ref) :
    around (opened ++ [o]) outside = around opened (reference? o.bundle) := by
  cases opened <;> rfl

/-- A computation gets to the beginning of another one, after steps that succeed and inside of some renders
which it has begun. What stops in between may be taken as a value. -/
inductive Enters {β : Type} (y : Action β) (v : World) :
    {α : Type} → Action α → World → List Opened → Prop
  | here : Enters y v y v []
  | first {α γ : Type} {x : Action α} {f : α → Action γ} {w : World} {opened : List Opened}
      (h : Enters y v x w opened) : Enters y v (x >>= f) w opened
  | next {α γ : Type} {x : Action α} {f : α → Action γ} {a : α} {w u : World} {opened : List Opened}
      (hkeeps : KeepsEnclosing x) (hx : x w = .ok a u) (h : Enters y v (f a) u opened) :
      Enters y v (x >>= f) w opened
  | line {α : Type} {env : Env} {line : Nat} {x : Action α} {w : World} {opened : List Opened}
      (h : Enters y v x w opened) : Enters y v (onLine env line x) w opened
  | attempt {α : Type} {x : Action α} {w : World} {opened : List Opened}
      (h : Enters y v x w opened) : Enters y v (attempt x) w opened
  | nested {m : Interpreter} {self enc encoding bundle : Value} {w w₁ w₂ : World} {opened : List Opened}
      (hencoding : encodingFor m self enc w = .ok encoding w₁)
      (hbundle : startBundle m self w₁ = .ok bundle w₂)
      (h : Enters y v (renderStages m self encoding) (w₂.withEnclosing (reference? bundle)) opened) :
      Enters y v (render m self enc) w (opened ++ [⟨self, bundle⟩])

/-- At the beginning of a computation the enclosing bundle is that of the innermost render around it. -/
theorem Enters.enclosing_eq {α β : Type} {x : Action α} {y : Action β} {w v : World} {opened : List Opened}
    (h : Enters y v x w opened) : v.enclosing = around opened w.enclosing := by
  induction h with
  | here => rfl
  | first _ ih => exact ih
  | next hkeeps hx _ ih => rw [ih, hkeeps.of_ok hx]
  | line _ ih => exact ih
  | attempt _ ih => exact ih
  | nested _ _ _ ih => rw [ih, around_concat]; rfl

/-! ## The end of a render -/

/-- A render up to the point at which it has its output, with the bundle that it has collected. -/
def collected (m : Interpreter) (self enc : Value) : Action (String × Value) := do
  let encoding ← encodingFor m self enc
  let bundle ← startBundle m self
  let output ← enclosedBy (reference? bundle) (renderGuarded m self encoding)
  return (output, bundle)

section

variable {m : Interpreter} [m.Evolves] {self enc : Value} {w u : World}

/-- A render gives what it has collected to the bundle that was around it at its beginning. -/
theorem render_eq (self enc : Value) (w : World) : render m self enc w =
    (collected m self enc >>= fun p => giveAssets m w.enclosing p.2 >>= fun _ => pure p.1) w := by
  unfold render collected
  simp only [bind_assoc, pure_bind]
  cases hencoding : encodingFor m self enc w with
  | error s u => rw [bind_of_error hencoding, bind_of_error hencoding]
  | ok encoding u =>
    have hget : (get : Action World) u = .ok u u := rfl
    have hu : u.enclosing = w.enclosing := KeepsEnclosing.of_ok hencoding
    rw [bind_of_ok hencoding, bind_of_ok hencoding, bind_of_ok hget, hu]

theorem same_ref_iff {v : Value} {r : Ref} : v.same (.ref r) = true ↔ v = .ref r := by
  cases v <;> simp [Value.same]

/-- How a render ends when a bundle, or none, is around it. -/
structure Finishes (m : Interpreter) (view enc : Value) (w : World) (outside : Option Ref) : Prop where
  /-- A render that fails gives nothing to anyone. -/
  failed : ∀ {s u}, collected m view enc w = .error s u → render m view enc w = .error s u
  /-- Outside of all renders there is no one to give to. -/
  alone : ∀ {out bundle u}, collected m view enc w = .ok (out, bundle) u → outside = none →
    render m view enc w = .ok out u
  /-- A bundle is not given to itself. -/
  itself : ∀ {out u e}, collected m view enc w = .ok (out, .ref e) u → outside = some e →
    render m view enc w = .ok out u
  /-- Any other bundle is registered in the one around it, and that is all. -/
  given : ∀ {out bundle u e}, collected m view enc w = .ok (out, bundle) u → outside = some e →
    bundle ≠ .ref e →
    render m view enc w = (callIn m (.ref e) "register" [bundle] >>= fun _ => pure out) u

theorem finishes (view enc : Value) (w : World) : Finishes m view enc w w.enclosing where
  failed h := by rw [render_eq, bind_of_error h]
  alone h houtside := by
    rw [render_eq, bind_of_ok h, houtside]
    rfl
  itself h houtside := by
    rw [render_eq, bind_of_ok h, houtside]
    simp only [giveAssets, same_ref_iff.2, Bool.not_true, Bool.false_eq_true, if_false]
    rfl
  given h houtside hne := by
    have hsame := Bool.eq_false_iff.2 (mt same_ref_iff.1 hne)
    rw [render_eq, bind_of_ok h, houtside]
    simp only [giveAssets, hsame, Bool.not_false, if_true, bind_assoc, pure_bind]

end

/-- Bundles that have no set in common. -/
structure Apart (w : World) (e b : Ref) (refs more : References) (c j : Ref) : Prop where
  ne : b ≠ e
  enclosing : w.IsBundle e c j refs.distinct
  finished : ∃ c' j', w.IsBundle b c' j' more ∧ c ≠ c' ∧ c ≠ j' ∧ j ≠ j'
  parts : c ≠ j
  css : more.css.length < maxRounds
  js : more.js.length < maxRounds

/-- The references of a finished bundle are added to those of the one around it, and to no others. -/
theorem Finishes.adds {n : Nat} {self enc : Value} {w u : World} {out : String} {e b c j : Nat}
    {refs more : References} (h : Finishes (interpreter (n + 2)) self enc w (some e))
    (hu : collected (interpreter (n + 2)) self enc w = .ok (out, .ref b) u)
    (hapart : Apart u e b refs more c j) :
    ∃ v, render (interpreter (n + 2)) self enc w = .ok out v ∧
      v.IsBundle e c j (refs ++ more).distinct ∧ u.ChangesOnly [c, j] v := by
  obtain ⟨hne, he, ⟨c', j', hb, hcc, hcj', hjj⟩, hcj, hcss, hjs⟩ := hapart
  obtain ⟨v, hv⟩ := exists_callIn_register (n := n) he hb hcj hcj' hcss hjs
  refine ⟨v, ?_, (callIn_register he hb hcj hcc hcj' hjj hv).2⟩
  rw [h.given hu rfl (by simpa using hne), bind_of_ok hv]
  rfl

end View

/-! ## Renders one after another -/

/-- The world after some renders, whether or not they return. -/
def World.rendered (m : Interpreter) (calls : List (Value × Value)) (w : World) : World :=
  calls.foldl (fun w c => w.after (View.render m c.1 c.2)) w

theorem World.rendered_enclosing (m : Interpreter) [m.Evolves] (calls : List (Value × Value)) (w : World) :
    (w.rendered m calls).enclosing = w.enclosing := by
  induction calls generalizing w with
  | nil => rfl
  | cons c calls ih =>
    exact (ih (w.after (View.render m c.1 c.2))).trans (KeepsEnclosing.keeps w)

/-- After any renders, and inside of one of them as deep as it goes, a render leaves the enclosing bundle
as it has found it. What it has collected goes to the bundle of the innermost render around it, if it has
succeeded, and to no one when there is none. -/
theorem View.enclosing_restored {n k : Nat} {calls : List (Value × Value)} {w v : World}
    {self enc child childEnc : Value} {opened : List Opened}
    (h : Enters (render (interpreter k) child childEnc) v (render (interpreter n) self enc)
      (w.rendered (interpreter n) calls) opened) :
    (w.rendered (interpreter n) calls).enclosing = w.enclosing ∧
      v.enclosing = around opened w.enclosing ∧
      (v.after (render (interpreter k) child childEnc)).enclosing = v.enclosing ∧
      Finishes (interpreter k) child childEnc v (around opened w.enclosing) ∧
      ∀ out b u e refs more c j, 2 ≤ k →
        collected (interpreter k) child childEnc v = .ok (out, .ref b) u →
        around opened w.enclosing = some e → Apart u e b refs more c j →
        ∃ u', render (interpreter k) child childEnc v = .ok out u' ∧
          u'.IsBundle e c j (refs ++ more).distinct ∧ u.ChangesOnly [c, j] u' := by
  have hw := w.rendered_enclosing (interpreter n) calls
  have hv : v.enclosing = around opened w.enclosing := hw ▸ h.enclosing_eq
  have hfinishes : Finishes (interpreter k) child childEnc v (around opened w.enclosing) :=
    hv ▸ finishes child childEnc v
  refine ⟨hw, hv, KeepsEnclosing.keeps v, hfinishes, fun out b u e refs more c j hk hu he hapart => ?_⟩
  obtain ⟨k, rfl⟩ := Nat.exists_eq_add_of_le' hk
  rw [he] at hfinishes
  exact hfinishes.adds hu hapart

/-! ## Views in templates -/

namespace View

section

variable {β : Type} {y : Action β} {n c cls : Nat} {w u v w₁ w₂ w₃ : World} {opened : List Opened}
  {m : Interpreter}

/-- The stages of a render enter the script of the content. -/
theorem enters_content [m.Evolves] {self encoding : Value} {q : Ref} {t : Template} {run : Run}
    (hload : loadContent m self encoding (w.push (.pass #[])) = .ok (.ref q) w₁)
    (hgoes : transition m self .contentExecuting w₁ = .ok () w₂) (ht : w₂.at' q = .template t)
    (hstart : Template.startRun m t self (some w.objects.size) .none [] w₂ = .ok run w₃)
    (h : Enters y v (m.execute { globals := run.globals } t.script) w₃ opened) :
    Enters y v (renderStages m self encoding) w opened := by
  have halloc : alloc (.pass #[]) w = .ok w.objects.size (w.push (.pass #[])) := rfl
  have hobject : object? (.ref q) w₂ = .ok (some (.template t)) w₂ := by rw [object?_ref, ht]
  exact .next inferInstance halloc (.first (.next inferInstance hload (.next inferInstance hgoes
    (.next inferInstance hobject (.next inferInstance hstart (.first (.first (.attempt h))))))))

/-- A block enters what one of its statements does, after those before it. -/
theorem enters_block [m.Evolves] {env : Env} {s : Stmt} (first : Block)
    (hfirst : executeBlock m env first w = .ok .next u)
    (h : Enters y v (executeStmt m env s) u opened) :
    Enters y v (executeBlock m env (first ++ [s])) w opened := by
  induction first generalizing w with
  | nil =>
    cases hfirst
    exact .first h
  | cons t first ih =>
    obtain ⟨flow, w', ht, hfirst⟩ := bind_eq_ok.1 hfirst
    cases flow with
    | next => exact .next inferInstance ht (ih hfirst)
    | _ => cases hfirst

/-- What a handler does is entered while its exception is being handled. -/
theorem enters_whileHandling {α : Type} {e : Value} {x : Action α}
    (h : Enters y v x { w with handling := e :: w.handling } opened) :
    Enters y v (whileHandling e x) w opened :=
  .next inferInstance rfl (.next (keepsEnclosing_handling fun _ => e :: w.handling) rfl (.first (.attempt h)))

/-- A plain directive whose value is a view enters the render of the view. -/
theorem enters_writing {env : Env} {line : Nat} {e : Expr} {r : Ref} {run : Run} {x : Value}
    (hname : (interpreter (n + 2)).evaluate env (.name "_tpl_emit") w = .ok (.helper .emit r) w₁)
    (he : (interpreter (n + 2)).evaluate env e w₁ = .ok x w₂) (hrun : w₂.at' r = .run run)
    (hhook : run.hooked (interpreter (n + 1)) x w₂ = .ok (.ref c) w₃)
    (hc : w₃.classOf? c = some cls) (hkind : (w₃.classAt' cls).kind = .view) :
    Enters (render (interpreter n) (.ref c) .none) w₃
      (executeStmt (interpreter (n + 4)) env (.writing line e)) w [] := by
  obtain ⟨attrs, hat⟩ := World.classOf?_eq_some hc
  have hobject : object? (.ref c) w₃ = .ok (some (.instance cls attrs)) w₃ := by rw [object?_ref, hat]
  have hload : load c w₃ = .ok (.instance cls attrs) w₃ := by rw [load_ok, hat]
  have htext : Enters (render (interpreter n) (.ref c) .none) w₃
      ((interpreter (n + 1)).text (.ref c)) w₃ [] := by
    refine .next inferInstance hload (.next inferInstance (classAt_ok w₃ cls) ?_)
    rw [hkind]
    exact .here
  have harguments : arguments (interpreter (n + 2)) env (.helper .emit r) {} [.positional e] w₁ =
      .ok { items := [x] } w₂ := by
    rw [arguments, bind_of_ok he]
    rfl
  have hcall : Enters (render (interpreter n) (.ref c) .none) w₃
      (Run.call (interpreter (n + 1)) .emit r { items := [x] }) w₂ [] :=
    .next inferInstance (Run.load_eq hrun)
      (.first (.next inferInstance hhook (.next inferInstance hobject (.first htext))))
  exact .line (.first (.first (.next inferInstance hname (.next inferInstance harguments hcall))))

end

/-! ## Renders that are found -/

/-- The plain directive at the end of a block. -/
def lastWritten? : (b : Block) → Option { p : Block × Nat × Expr // b = p.1 ++ [.writing p.2.1 p.2.2] }
  | [] => none
  | [s] => do
    let ⟨(line, e), hb⟩ ← World.written? [s]
    return ⟨([], line, e), hb⟩
  | s :: t :: rest => do
    let ⟨(first, line, e), hb⟩ ← lastWritten? (t :: rest)
    return ⟨(s :: first, line, e), by rw [hb]; rfl⟩

/-- What the plain directive at the end of a block embeds. -/
def written? (n : Nat) (env : Env) (b : Block) (w : World) : Option { p : Ref × World //
    Enters (render (interpreter n) (.ref p.1) .none) p.2 (executeBlock (interpreter (n + 4)) env b) w [] } := do
  let ⟨(first, _, e), hb⟩ ← lastWritten? b
  let ⟨(.next, w'), hfirst⟩ ← w.ok? (executeBlock (interpreter (n + 4)) env first) | none
  let ⟨(f, w₁), hname⟩ ← w'.ok? ((interpreter (n + 2)).evaluate env (.name "_tpl_emit"))
  let ⟨(x, w₂), he⟩ ← w₁.ok? ((interpreter (n + 2)).evaluate env e)
  let ⟨(_, run), hf, hrun⟩ ← w₂.writer? f
  let ⟨(y, w₃), hhook⟩ ← w₂.ok? (run.hooked (interpreter (n + 1)) x)
  let ⟨(c, _), hy, hc, hkind⟩ ← w₃.view? y
  return ⟨(c, w₃),
    hb ▸ enters_block first hfirst (enters_writing (hf ▸ hname) he hrun (hy ▸ hhook) hc hkind)⟩

/-- A way from the beginning of a render to its script. -/
structure Start (m : Interpreter) (v : Ref) (w : World) where
  bundle : Value
  script : Block
  globals : Ref
  world : World
  enters : ∀ {β : Type} {y : Action β} {u : World} {opened : List Opened},
    Enters y u (m.execute { globals } script) world opened →
    Enters y u (render m (.ref v) .none) w (opened ++ [⟨.ref v, bundle⟩])

/-- The script of a view, if a render gets to it. -/
def start? (m : Interpreter) [m.Evolves] (v : Ref) (w : World) : Option (Start m v w) := do
  let ⟨(encoding, w₁), hencoding⟩ ← w.ok? (encodingFor m (.ref v) .none)
  let ⟨(bundle, w₂), hbundle⟩ ← w₁.ok? (startBundle m (.ref v))
  let w₂' := w₂.withEnclosing (reference? bundle)
  let ⟨(x, w₃), hload⟩ ← (w₂'.push (.pass #[])).ok? (loadContent m (.ref v) encoding)
  let ⟨((), w₄), hgoes⟩ ← w₃.ok? (transition m (.ref v) .contentExecuting)
  let ⟨(_, t), hx, ht⟩ ← w₄.template? x
  let ⟨(run, w₅), hstart⟩ ← w₄.ok? (Template.startRun m t (.ref v) (some w₂'.objects.size) .none [])
  return {
    bundle, script := t.script, globals := run.globals, world := w₅
    enters := fun h => .nested hencoding hbundle (enters_content (hx ▸ hload) hgoes ht hstart h) }

/-- The bundle at a place with its sets and the references in them. -/
def bundleAt? (w : World) (b : Ref) : Option { p : Ref × Ref × References // w.IsBundle b p.1 p.2.1 p.2.2 } :=
  match hb : w.at' b with
  | .bundle c j =>
    match hc : w.set? c, hj : w.set? j with
    | some css, some js => some ⟨(c, j, ⟨css, js⟩), hb, World.set?_eq_some hc, World.set?_eq_some hj⟩
    | _, _ => none
  | _ => none

/-- The references of two bundles that have no set in common, and the sets of the first one. -/
def apart? (w : World) (e b : Ref) :
    Option { p : (References × References) × Ref × Ref // Apart w e b p.1.1 p.1.2 p.2.1 p.2.2 } := do
  let ⟨(c, j, refs), he⟩ ← bundleAt? w e
  let ⟨(c', j', more), hb⟩ ← bundleAt? w b
  if h : b ≠ e ∧ refs.distinct = refs ∧ c ≠ c' ∧ c ≠ j' ∧ j ≠ j' ∧ c ≠ j ∧
      more.css.length < maxRounds ∧ more.js.length < maxRounds then
    some ⟨((refs, more), c, j), h.1, h.2.1.symm ▸ he, ⟨c', j', hb, h.2.2.1, h.2.2.2.1, h.2.2.2.2.1⟩,
      h.2.2.2.2.2.1, h.2.2.2.2.2.2.1, h.2.2.2.2.2.2.2⟩
  else none

/-- The end of a render that a view's last directive enters, and what it gives there. -/
structure Gift (n k : Nat) (v : Ref) (w : World) where
  child : Ref
  world : World
  opened : List Opened
  out : String
  bundle : Ref
  finished : World
  enclosing : Ref
  refs : References
  more : References
  sets : Ref × Ref
  enters : Enters (render (interpreter k) (.ref child) .none) world (render (interpreter n) (.ref v) .none)
    w opened
  collects : collected (interpreter k) (.ref child) .none world = .ok (out, .ref bundle) finished
  encloses : around opened w.enclosing = some enclosing
  apart : Apart finished enclosing bundle refs more sets.1 sets.2

instance interpreter_evolves_above (n : Nat) : (interpreter (n + 5)).Evolves := interpreter_evolves _

/-- What the view gives that the last directive of another view embeds. -/
def gift? (n : Nat) (v : Ref) (w : World) : Option (Gift (n + 5) n v w) := do
  let s ← start? (interpreter (n + 5)) v w
  let written ← written? n { globals := s.globals } s.script s.world
  match hcollects : collected (interpreter n) (.ref written.1.1) .none written.1.2,
      hencloses : around [⟨.ref v, s.bundle⟩] w.enclosing with
  | .ok (out, .ref bundle) finished, some enclosing => do
    let gift ← apart? finished enclosing bundle
    return ⟨written.1.1, written.1.2, _, out, bundle, finished, enclosing, gift.1.1.1, gift.1.1.2, gift.1.2,
      s.enters written.2, hcollects, hencloses, gift.2⟩
  | _, _ => none

end View

/-- A page that goes on when its card fails and embeds a note, which adds a stylesheet. -/
def lostCard : World := World.after (do
  ContextClass.setUp
  modify fun w => { w with files := sourceFiles [
      ("page", "<% try: %><%= kid %><% except Exception: %>lost<% end %><%= note %>"),
      ("card", "<%= 1 / 0 %>"), ("note", "<% assets.css.add('late.css') %>note")] }
  let note ← View.create machine (← defineView "Note" "note" ["note.css"]) {}
  let card ← View.create machine (← defineView "Card" "card" ["card.css"]) {}
  let _ ← View.create machine (← defineView "Page" "page" ["page.css"])
    { named := [("kid", card), ("note", note)] }) {}

theorem lostCard_checks :
    (View.gift? 5995 34 (lostCard.rendered (interpreter 6000) [(.ref 21, .none)])).any (fun g =>
      g.child == 8 && g.refs == ⟨["page.css", "card.css", "note.css"], []⟩ &&
        g.more == ⟨["note.css", "late.css"], []⟩) = true ∧ lostCard.enclosing = none := by
  decide +kernel

/-- After a render of the card that has failed, and one more that the page has caught, the bundle of the
note goes to the page. -/
theorem lostCard_gives_note : ∃ (v : World) (opened : List View.Opened) (out : String) (u u' : World) (e c j : Ref),
    View.Enters (View.render (interpreter 5995) (.ref 8) .none) v
      (View.render (interpreter 6000) (.ref 34) .none)
      (lostCard.rendered (interpreter 6000) [(.ref 21, .none)]) opened ∧
    v.enclosing = some e ∧ u.IsBundle e c j ⟨["page.css", "card.css", "note.css"], []⟩ ∧
    View.render (interpreter 5995) (.ref 8) .none v = .ok out u' ∧ u'.enclosing = some e ∧
    u'.IsBundle e c j ⟨["page.css", "card.css", "note.css", "late.css"], []⟩ ∧ u.ChangesOnly [c, j] u' := by
  obtain ⟨hsome, h⟩ := (Option.any_eq_true_iff_get _ _).1 lostCard_checks.1
  generalize (View.gift? 5995 34 (lostCard.rendered (interpreter 6000) [(.ref 21, .none)])).get hsome = g at h
  obtain ⟨child, v, opened, out, b, u, e, refs, more, ⟨c, j⟩, henters, hcollects, hencloses, hapart⟩ := g
  simp only [Bool.and_eq_true, beq_iff_eq] at h
  obtain ⟨⟨rfl, rfl⟩, rfl⟩ := h
  obtain ⟨hw, hv, hafter, -, hgives⟩ := View.enclosing_restored henters
  rw [hw] at hencloses
  obtain ⟨u', hrender, hadded, hchanges⟩ :=
    hgives out b u e _ _ c j (by omega) hcollects hencloses hapart
  have hbefore := hapart.enclosing
  rw [after_of_ok hrender, hv, hencloses] at hafter
  exact ⟨v, opened, out, u, u', e, c, j, henters, hv.trans hencloses, hbefore, hrender, hafter, hadded,
    hchanges⟩

end Stencil
