import Stencil.Proofs.Resolution

/-!
# Pending expressions

A deferred expression is pending until it has got its text. Those of a pass are listed in the order of
their creation: a directive adds its expression behind all others. When an expression whose turn has come
leaves the pass and its expressions alone, it is the only one that is not pending any more.
-/

namespace Stencil

open World Evaluation

/-! ## The turn of an expression -/

namespace Binding

/-- The text of a deferred expression. -/
def compute (m : Interpreter) (x : Binding) : Action String := do
  let v ← wrapping m x.templateName (fun _ => x.segment) (m.evaluate { globals := x.globals } x.code)
  shown m v

/-- A deferred expression that has got its text. -/
def settle (x : Binding) (s : String) : Binding := { x with value := some s, resolved := true }

variable {m : Interpreter} {w u : World} {b : Nat} {x : Binding} {s : String} {e : Stop}

theorem evaluate_eq (hb : w.at' b = .binding x) (hp : x.resolved = false) :
    evaluate m b w =
      (compute m x >>= fun s => store b (.binding (x.settle s)) >>= fun _ => pure (.str s)) w := by
  unfold evaluate compute
  rw [bind_of_ok (load_ok w b), hb, bind_assoc]
  simp only [hp, Bool.false_eq_true, if_false]
  refine congrFun (bind_congr fun v => ?_) w
  cases v <;> rfl

/-- A pending expression takes the text that it computes. -/
theorem evaluate_of_ok (hb : w.at' b = .binding x) (hp : x.resolved = false)
    (h : compute m x w = .ok s u) :
    evaluate m b w = .ok (.str s) (u.put b (.binding (x.settle s))) := by
  rw [evaluate_eq hb hp, bind_of_ok h]
  rfl

theorem evaluate_of_error (hb : w.at' b = .binding x) (hp : x.resolved = false)
    (h : compute m x w = .error e u) : evaluate m b w = .error e u := by
  rw [evaluate_eq hb hp, bind_of_error h]

instance evolving_compute [m.Evolves] (x : Binding) : Evolving (compute m x) := by
  unfold compute shown
  repeat' first | infer_instance | with_reducible refine Evolving.bind ?_ fun _ => ?_ | split

end Binding

/-! ## What is pending -/

namespace World

/-- Whether a reference is to a deferred expression that has no text yet. -/
def isPending (w : World) (b : Ref) : Bool :=
  match w.at' b with
  | .binding x => !x.resolved
  | _ => false

/-- The expressions of a pass that are pending, in the order of their creation. -/
def pending (w : World) (r : Ref) : List Ref := ((w.at' r).bindings.filter w.isPending).eraseDups

/-- The entries of a pass are deferred expressions, and those that are not pending have a text. -/
def HoldsExpressions (w : World) (r : Ref) : Prop :=
  ∀ b ∈ (w.at' r).bindings, ∃ x, w.at' b = .binding x ∧ (x.resolved = true → x.value.isSome = true)

/-- A pass and its expressions are the same in two worlds. -/
structure LeavesAlone (r : Ref) (w u : World) : Prop where
  pass : u.at' r = w.at' r
  expressions : ∀ b ∈ (w.at' r).bindings, u.at' b = w.at' b

variable {w u y : World} {r b c : Nat} {x : Binding} {s : String} {rest : List Ref}

theorem isPending_eq_true : w.isPending b = true ↔ ∃ x, w.at' b = .binding x ∧ x.resolved = false := by
  unfold isPending
  cases w.at' b <;> simp

theorem isPending_congr (h : u.at' b = w.at' b) : u.isPending b = w.isPending b := by
  rw [isPending, isPending, h]

theorem mem_pending : b ∈ w.pending r ↔ b ∈ (w.at' r).bindings ∧ w.isPending b = true := by
  rw [pending, List.mem_eraseDups, List.mem_filter]

theorem pending_eq_nil : w.pending r = [] ↔ ∀ b ∈ (w.at' r).bindings, w.isPending b = false := by
  rw [List.eq_nil_iff_forall_not_mem]
  simp [mem_pending]

theorem LeavesAlone.pending_eq (h : LeavesAlone r w u) : u.pending r = w.pending r := by
  unfold pending
  rw [h.pass, List.filter_congr fun b hb => isPending_congr (h.expressions b hb)]

theorem LeavesAlone.holds (h : LeavesAlone r w u) (hw : w.HoldsExpressions r) :
    u.HoldsExpressions r := by
  intro b hb
  rw [h.pass] at hb
  rw [h.expressions b hb]
  exact hw b hb

section

variable (h : LeavesAlone r w u) (hmem : b ∈ (w.at' r).bindings) (hb : w.at' b = .binding x)

include hmem hb in
theorem ne_of_mem_bindings : r ≠ b := by
  rintro rfl
  rw [hb] at hmem
  cases hmem

include h hmem hb

theorem LeavesAlone.pass_settle : (u.put b (.binding (x.settle s))).at' r = w.at' r := by
  rw [at'_put_of_ne (ne_of_mem_bindings hmem hb), h.pass]

theorem LeavesAlone.at'_settle :
    (u.put b (.binding (x.settle s))).at' b = .binding (x.settle s) := by
  have hub := (h.expressions b hmem).trans hb
  exact at'_put_self (lt_size_of_binding hub) hub rfl

/-- An expression that has got its text is the only one of its pass that is not pending any more. -/
theorem LeavesAlone.isPending_settle (hc : c ∈ (w.at' r).bindings) :
    (u.put b (.binding (x.settle s))).isPending c = (c != b && w.isPending c) := by
  by_cases hcb : c = b
  · subst hcb
    rw [isPending, h.at'_settle hmem hb]
    simp [Binding.settle]
  · rw [isPending_congr ((at'_put_of_ne hcb).trans (h.expressions c hc))]
    simp [hcb]

theorem LeavesAlone.holds_settle (hw : w.HoldsExpressions r) :
    (u.put b (.binding (x.settle s))).HoldsExpressions r := by
  intro c hc
  rw [h.pass_settle hmem hb] at hc
  by_cases hcb : c = b
  · subst hcb
    exact ⟨_, h.at'_settle hmem hb, fun _ => rfl⟩
  · rw [at'_put_of_ne hcb, h.expressions c hc]
    exact hw c hc

end

/-- The other expressions are still pending when the first of them has got its text. -/
theorem LeavesAlone.pending_settle (h : LeavesAlone r w u) (hp : w.pending r = b :: rest)
    (hb : w.at' b = .binding x) : (u.put b (.binding (x.settle s))).pending r = rest := by
  have hmem := (mem_pending.1 (hp ▸ List.mem_cons_self : b ∈ w.pending r)).1
  have hrest : rest = (((w.at' r).bindings.filter w.isPending).filter fun c => c != b).eraseDups := by
    unfold pending at hp
    generalize (w.at' r).bindings.filter w.isPending = l at hp
    cases l with
    | nil => cases hp
    | cons c l =>
      rw [List.eraseDups_cons] at hp
      obtain ⟨rfl, rfl⟩ := List.cons.inj hp
      rw [List.filter_cons_of_neg (by simp)]
      rfl
  rw [hrest, List.filter_filter, pending, h.pass_settle hmem hb,
    List.filter_congr fun c hc => h.isPending_settle hmem hb hc]

end World

/-! ## Deferring -/

namespace World

variable {w : World} {r c : Nat} {o : Object} {bs : Array Ref}

theorem isPending_eq : w.isPending c = (w.at' c).binding?.any fun x => !x.resolved := by
  unfold isPending
  cases w.at' c <;> rfl

theorem binding?_eq_some {p : Object} {x : Binding} : p.binding? = some x ↔ p = .binding x := by
  cases p <;> simp [Object.binding?]

/-- What is put in the place of another object than an expression changes no expression. -/
theorem binding?_put (ho : o.binding? = none) :
    ((w.put r o).at' c).binding? = (w.at' c).binding? := by
  by_cases hs : (w.at' r).shape = o.shape
  case neg => rw [put_of_shape_ne hs]
  by_cases hc : c = r
  case neg => rw [at'_put_of_ne hc]
  subst hc
  by_cases hlt : c < w.objects.size
  · rw [at'_put_self hlt rfl hs, ho]
    cases hobj : w.at' c with
    | binding x =>
      rw [hobj] at hs
      cases o <;> first | cases hs; done | cases ho
    | _ => rfl
  · have hle := Nat.le_of_not_lt hlt
    rw [at'_of_size_le hle, at'_of_size_le (by rwa [size_put])]

/-- Writing to a fragment leaves a pass as it is. -/
theorem at'_put_fragment {cs : Array Value} (hpass : w.at' r = .pass bs) :
    (w.put c (.fragment cs)).at' r = .pass bs := by
  by_cases hc : r = c
  · rw [put_of_shape_ne (by rw [← hc, hpass]; rintro ⟨⟩), hpass]
  · rw [at'_put_of_ne hc, hpass]

/-- A pass that is made longer by a new expression, which stands in a fragment. -/
theorem pending_register {code : Binding} (cs : Array Value) (hpass : w.at' r = .pass bs)
    (hr : w.HoldsExpressions r) (hcode : code.resolved = false) :
    let u := ((w.push (.binding code)).put r (.pass (bs.push w.objects.size))).put c (.fragment cs)
    u.at' r = .pass (bs.push w.objects.size) ∧ u.pending r = w.pending r ++ [w.objects.size] ∧
      u.HoldsExpressions r := by
  intro u
  have hlt : r < w.objects.size := by
    refine Nat.lt_of_not_le fun hle => ?_
    rw [at'_of_size_le hle] at hpass
    cases hpass
  have hbs (b : Nat) (hb : b ∈ bs.toList) : b < w.objects.size := by
    obtain ⟨y, hy, -⟩ := hr b (by rwa [hpass])
    exact lt_size_of_binding hy
  have hu : u.at' r = .pass (bs.push w.objects.size) :=
    at'_put_fragment (at'_put_self (by simpa using Nat.lt_succ_of_lt hlt)
      ((at'_push_of_lt hlt).trans hpass) rfl)
  have hbinding (b : Nat) : (u.at' b).binding? = ((w.push (.binding code)).at' b).binding? := by
    rw [binding?_put rfl, binding?_put rfl]
  have hnew : (u.at' w.objects.size).binding? = some code := by
    rw [hbinding, at'_push_size]
    rfl
  have hold (b : Nat) (hb : b ∈ bs.toList) : (u.at' b).binding? = (w.at' b).binding? := by
    rw [hbinding, at'_push_of_lt (hbs b hb)]
  refine ⟨hu, ?_, ?_⟩
  · have hfilter : bs.toList.filter u.isPending = bs.toList.filter w.isPending := by
      refine List.filter_congr fun b hb => ?_
      rw [isPending_eq, isPending_eq, hold b hb]
    have hfresh : ([w.objects.size].removeAll (bs.toList.filter w.isPending)).eraseDups =
        [w.objects.size] := by
      have hmem : w.objects.size ∉ bs.toList.filter w.isPending := fun h =>
        Nat.lt_irrefl _ (hbs _ (List.mem_filter.1 h).1)
      rw [List.removeAll, List.filter_cons_of_pos (by rw [List.elem_eq_mem, decide_eq_false hmem]; rfl)]
      rfl
    rw [pending, pending, hu, hpass]
    simp only [Object.bindings, Array.toList_push, List.filter_append, hfilter]
    rw [List.filter_cons_of_pos (by rw [isPending_eq, hnew]; simp [hcode]), List.filter_nil,
      List.eraseDups_append, hfresh]
  · intro b hb
    rw [hu, Object.bindings, Array.toList_push, List.mem_append, List.mem_singleton] at hb
    rcases hb with hb | rfl
    · obtain ⟨x, hx, hv⟩ := hr b (by rwa [hpass])
      exact ⟨x, binding?_eq_some.1 ((hold b hb).trans (binding?_eq_some.2 hx)), hv⟩
    · exact ⟨code, binding?_eq_some.1 hnew, by simp [hcode]⟩

end World

/-- What a directive defers: the expression of the segment with an index, with the names at a place. -/
structure Run.Defers (x : Run) (index : Value) (names : Ref) (b : Binding) : Prop where
  template : b.templateName = x.template.name
  segment : index.integer?.bind (fun i => (position? x.template.program.segments.length i).bind
    (x.template.program.segments[·]?)) = some b.segment
  code : ∃ d, index.integer?.bind (fun i => x.template.deferred.find? fun d => (d.1 : Int) == i) = some d ∧
    d.2 = b.code
  globals : b.globals = names
  pending : b.resolved = false

/-- A world in which chunks have been added to a fragment. -/
def World.withChunks (w : World) (r : Ref) (cs : List Value) : World :=
  w.put r (.fragment ((w.at' r).chunks ++ cs).toArray)

/-- A world in which an expression has been added to a pass. -/
def World.withBinding (w : World) (r b : Ref) : World :=
  w.put r (.pass ((w.at' r).bindings.toArray.push b))

/-- A directive that defers its expression takes the names as they are, and puts the new expression into
the pass and into the fragment. -/
theorem Run.defer_written {x : Run} {index : Value} {w u : World} (h : x.defer index w = .ok () u) :
    ∃ (names : Object) (code : Binding), x.Defers index w.objects.size code ∧
      (∀ n, w.at' x.globals = .globals n → names = .globals n) ∧
      u = ((((w.push names).push (.binding code)).withBinding x.pass
        (w.push names).objects.size).withChunks x.fragment [.ref (w.push names).objects.size]) := by
  -- What is left once the segment and its code have been found.
  have hsteps : ∃ code : Binding, (∀ names, x.Defers index names { code with globals := names }) ∧
      (snapshot x.globals >>= fun g => alloc (.binding { code with globals := g }) >>= fun b =>
        RenderPass.register x.pass b >>= fun _ => Fragment.append x.fragment (.ref b)) w = .ok () u := by
    unfold defer at h
    cases hi : index.integer? with
    | none =>
      simp only [hi] at h
      obtain ⟨_, _, -, h⟩ := bind_eq_ok.1 h
      obtain ⟨_, _, h, -⟩ := bind_eq_ok.1 h
      exact absurd h typeError_eq_ok
    | some i =>
      simp only [hi, pure_bind] at h
      cases hs : (position? x.template.program.segments.length i).bind
          (x.template.program.segments[·]?) with
      | none =>
        simp only [hs] at h
        exact absurd h raiseText_eq_ok
      | some segment =>
        simp only [hs] at h
        cases hd : x.template.deferred.find? fun d => (d.1 : Int) == i with
        | none =>
          simp only [hd] at h
          exact absurd h raise_eq_ok
        | some d =>
          simp only [hd] at h
          refine ⟨{ templateName := x.template.name, segment, code := d.2, globals := 0 }, fun names => ?_, h⟩
          exact ⟨rfl, by rw [hi]; exact hs, ⟨d, by rw [hi]; exact hd, rfl⟩, rfl, rfl⟩
  obtain ⟨code, hcode, h⟩ := hsteps
  obtain ⟨g, w₁, hg, h⟩ := bind_eq_ok.1 h
  have hw₁ : ∃ names, (w.objects.size = g ∧ w₁ = w.push names) ∧
      ∀ n, w.at' x.globals = .globals n → names = .globals n := by
    unfold snapshot at hg
    rw [bind_of_ok (load_ok w x.globals)] at hg
    cases hn : w.at' x.globals <;> rw [hn] at hg <;> obtain ⟨hsize, hpush⟩ := alloc_eq_ok.1 hg <;>
      refine ⟨_, ⟨hsize, hpush.symm⟩, ?_⟩ <;> rintro _ ⟨⟩
    rfl
  obtain ⟨names, ⟨rfl, rfl⟩, hnames⟩ := hw₁
  obtain ⟨b, w₂, hb, h⟩ := bind_eq_ok.1 h
  obtain ⟨rfl, rfl⟩ := alloc_eq_ok.1 hb
  obtain ⟨_, w₃, hregister, h⟩ := bind_eq_ok.1 h
  unfold RenderPass.register at hregister
  rw [bind_of_ok (RenderPass.bindings_eq _ _)] at hregister
  obtain rfl := store_eq_ok.1 hregister
  unfold Fragment.append at h
  rw [bind_of_ok (Fragment.chunks_eq _ _), List.push_toArray] at h
  exact ⟨names, { code with globals := w.objects.size }, hcode _, hnames, (store_eq_ok.1 h).symm⟩

theorem Run.defer_eq_ok {x : Run} {index : Value} {w u : World} (h : x.defer index w = .ok () u) :
    ∃ (names : Object) (code : Binding) (v : World) (cs : Array Value),
      v = (w.push names).push (.binding code) ∧ code.resolved = false ∧
        u = (v.put x.pass (.pass ((v.at' x.pass).bindings.toArray.push (w.push names).objects.size))).put
          x.fragment (.fragment cs) ∧
        code.globals = w.objects.size ∧ ∀ n, w.at' x.globals = .globals n → names = .globals n := by
  obtain ⟨names, code, hcode, hnames, rfl⟩ := defer_written h
  exact ⟨names, code, _, _, rfl, hcode.pending, rfl, hcode.globals, hnames⟩

/-- A directive that defers its expression adds it to the pass, behind all others. -/
theorem Run.pending_defer {x : Run} {index : Value} {w u : World} {bs : Array Ref}
    (hpass : w.at' x.pass = .pass bs) (hr : w.HoldsExpressions x.pass)
    (h : x.defer index w = .ok () u) :
    ∃ b : Nat, w.objects.size ≤ b ∧ u.at' x.pass = .pass (bs.push b) ∧
      u.pending x.pass = w.pending x.pass ++ [b] ∧ u.HoldsExpressions x.pass := by
  obtain ⟨names, code, _, cs, rfl, hcode, rfl, -, -⟩ := defer_eq_ok h
  have hlt : (x.pass : Nat) < w.objects.size := by
    refine Nat.lt_of_not_le fun hle => ?_
    rw [at'_of_size_le hle] at hpass
    cases hpass
  have hleave : LeavesAlone x.pass w (w.push names) := by
    refine ⟨at'_push_of_lt hlt, fun b hb => ?_⟩
    obtain ⟨y, hy, -⟩ := hr b hb
    exact at'_push_of_lt (lt_size_of_binding hy)
  have hpass' := hleave.pass.trans hpass
  obtain ⟨hu, hpending, hholds⟩ :=
    pending_register (c := x.fragment) cs hpass' (hleave.holds hr) hcode
  rw [at'_push_of_lt (by simpa using Nat.lt_succ_of_lt hlt), hpass']
  simp only [Object.bindings, Array.toArray_toList]
  exact ⟨_, by simp, hu, by rw [hpending, hleave.pending_eq], hholds⟩

namespace RenderPass

/-- What executions of templates do to a pass, with the expressions that they create in order: a directive
defers its expression to the pass, and everything else leaves the pass alone. -/
inductive Deferring (r : Ref) : World → List Ref → World → Prop
  | done (w : World) : Deferring r w [] w
  | other {w u v : World} {created : List Ref} :
      LeavesAlone r w u → Deferring r u created v → Deferring r w created v
  | defer {x : Run} {index : Value} {w u v : World} {b : Ref} {created : List Ref} :
      x.pass = r → x.defer index w = .ok () u → (u.at' r).bindings = (w.at' r).bindings ++ [b] →
      Deferring r u created v → Deferring r w (b :: created) v

/-- After templates have been executed what they have deferred is pending, in the order of its creation. -/
theorem Deferring.pending_eq {r : Ref} {w v : World} {created : List Ref} {bs : Array Ref}
    (h : Deferring r w created v) (hpass : w.at' r = .pass bs) (hr : w.HoldsExpressions r) :
    v.pending r = w.pending r ++ created ∧ v.HoldsExpressions r ∧ ∃ cs, v.at' r = .pass cs := by
  induction h generalizing bs with
  | done => exact ⟨(List.append_nil _).symm, hr, bs, hpass⟩
  | other hleave _ ih =>
    obtain ⟨hpending, hv⟩ := ih (hleave.pass.trans hpass) (hleave.holds hr)
    exact ⟨by rw [hpending, hleave.pending_eq], hv⟩
  | @defer x index w u v b created hx hdefer hb _ ih =>
    subst hx
    obtain ⟨c, -, hpass', hpending', hr'⟩ := Run.pending_defer hpass hr hdefer
    obtain ⟨hpending, hv⟩ := ih hpass' hr'
    obtain rfl : c = b := by simpa [hpass', hpass, Object.bindings] using hb
    exact ⟨by rw [hpending, hpending', List.append_assoc]; rfl, hv⟩

end RenderPass

/-! ## Checking -/

namespace World

variable {w u : World} {r : Ref} {bs : Array Ref}

/-- Whether the entries of a pass are deferred expressions, with a text unless they are pending. -/
def holdsExpressions? (w : World) (r : Ref) : Bool :=
  (w.at' r).bindings.all fun b => (w.at' b).binding?.any fun x => !x.resolved || x.value.isSome

theorem holdsExpressions_of_holdsExpressions? (h : w.holdsExpressions? r = true) :
    w.HoldsExpressions r := by
  intro b hb
  have hb := List.all_eq_true.1 h b hb
  cases hobj : w.at' b with
  | binding x => exact ⟨x, rfl, by simpa [hobj, Object.binding?, Classical.or_iff_not_imp_left] using hb⟩
  | _ => simp [hobj, Object.binding?] at hb

/-- The text that a deferred expression has, if it has got one. -/
def textOf? (w : World) (b : Ref) : Option (Option String × Bool) :=
  (w.at' b).binding?.map fun x => (x.value, x.resolved)

/-- A pass to which nothing was added, and none of whose expressions got another text. -/
theorem LeavesAlone.of_evolves (h : w.Evolves u) (hpass : w.at' r = .pass bs)
    (hr : w.HoldsExpressions r) (hbs : (u.at' r).bindings = (w.at' r).bindings)
    (htexts : ∀ b ∈ (w.at' r).bindings, u.textOf? b = w.textOf? b) : LeavesAlone r w u := by
  refine ⟨?_, fun b hb => ?_⟩
  · have hlt : r < w.objects.size := by
      refine Nat.lt_of_not_le fun hle => ?_
      rw [at'_of_size_le hle] at hpass
      cases hpass
    have hshape := (h.objects r hlt).shape
    rw [hpass] at hshape hbs ⊢
    cases hobj : u.at' r with
    | pass cs =>
      rw [hobj] at hbs
      rw [Array.toList_inj.1 hbs]
    | _ =>
      rw [hobj] at hshape
      cases hshape
  · obtain ⟨x, hx, -⟩ := hr b hb
    obtain ⟨y, hy, hxy⟩ := h.binding hx
    have htext := htexts b hb
    simp only [textOf?, hx, hy, Object.binding?, Option.map_some, Option.some.injEq,
      Prod.mk.injEq] at htext
    rw [hx, hy]
    cases x
    cases y
    simp only [Object.binding.injEq, Binding.mk.injEq]
    exact ⟨hxy.templateName, hxy.segment, hxy.code, hxy.globals, htext⟩

end World

end Stencil
