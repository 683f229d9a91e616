import Stencil.Proofs.AssetTags
import Stencil.Proofs.Composition

/-!
# Tags that stand before what they are for

A layout names the assets of its view anywhere, also before the content. The names are deferred, and they
have their turns after everything that the content has deferred, in the pass that content and layout
share. So their places show what the view has collected when its render returns, as long as nothing that
is deferred after the content's run changes the assets any more.
-/

namespace Stencil

open World Evaluation Script

/-- An expression of a pass takes one world to another in its turn; the turns begin in some world. -/
structure RenderPass.Turn (m : Interpreter) (r : Ref) (x : World) (i : Nat) (e : Ref) (y z : World) :
    Prop where
  before : RenderPass.Turns m r 0 x i y
  place : (y.at' r).bindings[i]? = some e
  evaluated : ∃ a, Binding.evaluate m e y = .ok a z

namespace World

/-- A deferred expression that is pending names a part of the assets of a view. -/
structure Names (w : World) (e v : Ref) (p : Part) (b : Binding) : Prop where
  place : w.at' e = .binding b
  pending : b.resolved = false
  code : b.code.core = .name p.name
  exposes : w.Exposes v b.globals p

/-- The assets that a view has collected stay as they are. -/
def KeepsAssets (v : Ref) (w u : World) : Prop :=
  ∀ b c j refs, w.Collects v b c j refs → u.Collects v b c j refs

/-- A view that is at a stage, and whose class leaves the stage to it. -/
structure AtStage (w : World) (v : Ref) : Prop where
  own : ∃ s, w.own? v "stage" = some (.stage s)
  computed : ∀ cls, w.classOf? v = some cls → ∀ p, w.classValue cls "stage" ≠ some (.property p)

/-- The bundle around a render, unless it is the bundle itself, has two sets of its own. -/
def GivesAside (w : World) (around : Option Ref) (b c j : Ref) : Prop :=
  ∀ o, around = some o → o ≠ b →
    ∃ (c' j' : Ref) (more : References), w.IsBundle o c' j' more.distinct ∧ [c', j', c, j].Nodup

end World

theorem Object.kind_eq_of_shape {k l : AssetKind} {xs ys : OrderedSet Value}
    (h : (Object.assets k xs).shape = (Object.assets l ys).shape) : k = l := by
  simp only [Object.shape, Prod.mk.injEq] at h
  cases k <;> cases l <;> first | rfl | exact absurd h.2 (by decide)

namespace World

variable {w u : World} {v b c j : Nat} {p : Part} {refs : References} {s : String}

/-- The tags of a set are the same in a world in which it has the same references. -/
theorem SetTags.evolves {r : Nat} {l : List String} (h : w.SetTags r s) (hw : w.Holds r l)
    (hu : u.Holds r l) (he : w.Evolves u) : u.SetTags r s := by
  obtain ⟨kind, refs, hr, rfl⟩ := h
  obtain rfl : refs = l := Holds.unique ⟨kind, hr⟩ hw
  obtain ⟨kind', hr'⟩ := hu
  have hshape := (he.objects r (Holds.lt_size ⟨kind, hr⟩)).shape
  rw [hr, hr'] at hshape
  obtain rfl := Object.kind_eq_of_shape hshape
  exact ⟨kind', refs, hr', rfl⟩

theorem GivesAside.withEnclosing {around : Option Ref} (h : w.GivesAside around b c j)
    (bundle : Option Ref) : (w.withEnclosing bundle).GivesAside around b c j := by
  intro o ho hne
  obtain ⟨c', j', more, hb, hnodup⟩ := h o ho hne
  exact ⟨c', j', more, hb.congr rfl rfl rfl, hnodup⟩

theorem Collects.tags (h : w.Collects v b c j refs) (hs : w.SetTags (p.set c j) s) : w.Tags v p s :=
  ⟨b, c, j, h.own, h.bundle.parts, hs⟩

end World

section

variable {n : Nat} {w u x y z : World} {v b c j : Nat} {refs : References}

theorem attributeOf_stage_value {stage : Stage} {a : Value}
    (h : (interpreter n).attributeOf (.stage stage) "value" w = .ok a u) :
    .str stage.name = a ∧ w = u := by
  cases n with
  | zero => exact absurd h attributeOf_zero
  | succ n => exact pure_eq_ok.1 h

theorem text_str {s t : String} (h : (interpreter n).text (.str s) w = .ok t u) : s = t ∧ w = u := by
  cases n with
  | zero => exact absurd h throw_eq_ok
  | succ n => exact pure_eq_ok.1 h

/-- Going on to a stage writes to the log and sets the stage. -/
theorem transition_eq_ok {cls : Nat} {stage : Stage} {a : Unit} (hs : w.AtStage v)
    (hv : w.classOf? v = some cls) (h : View.transition (interpreter n) (.ref v) stage w = .ok a u) :
    ∃ log, setAttribute (.ref v) "stage" (.stage stage) { w with log } = .ok a u := by
  obtain ⟨now, hown⟩ := hs.own
  unfold View.transition at h
  rw [bind_eq_ok] at h
  obtain ⟨_, _, hstage, h⟩ := h
  obtain ⟨rfl, rfl⟩ := attributeOf_own? hv (by simp [IsPlainName]) (hs.computed cls hv) hown hstage
  rw [bind_eq_ok] at h
  obtain ⟨_, _, hvalue, h⟩ := h
  obtain ⟨rfl, rfl⟩ := attributeOf_stage_value hvalue
  rw [bind_eq_ok] at h
  obtain ⟨_, _, hname, h⟩ := h
  obtain rfl := typeName_ref_eq_ok hname
  rw [bind_eq_ok] at h
  obtain ⟨_, _, htext, h⟩ := h
  obtain ⟨rfl, rfl⟩ := text_str htext
  rw [bind_eq_ok] at h
  obtain ⟨_, _, hlog, h⟩ := h
  obtain rfl := logMessage_eq_ok.1 hlog
  exact ⟨_, h⟩

/-- Setting the stage keeps the assets of a view. -/
theorem transition_keepsAssets {stage : Stage} {a : Unit} (hs : w.AtStage v)
    (h : View.transition (interpreter n) (.ref v) stage w = .ok a u) : World.KeepsAssets v w u := by
  intro b c j refs hv
  obtain ⟨cls, hview⟩ := hv.view
  obtain ⟨log, hset⟩ := transition_eq_ok hs hview.classOf h
  have hlog : w.ChangesOnly [] { w with log } := ⟨Nat.le_refl _, fun _ _ _ => rfl, rfl, rfl⟩
  have hv' : World.Collects { w with log } v b c j refs := hv.undisturbed (hlog.undisturbed (by simp))
  obtain ⟨cls', hview'⟩ := hv'.view
  have hun := setAttribute_undisturbed hview'.classOf (.inl (by simp [assetAttributes])) hset
  obtain ⟨-, -, hown⟩ := setAttribute_eq_ok hview'.classOf hset
  exact ⟨⟨cls', hun.isView hview'⟩, by rw [hown, if_neg (by simp), hv'.own], hun.isBundle hv'.bundle⟩

/-- A finished render that gives its assets to the bundle around it keeps them. -/
theorem giveAssets_keepsAssets {around : Option Ref} {a : Unit} (ho : w.GivesAside around b c j)
    (hv : w.Collects v b c j refs)
    (h : View.giveAssets (interpreter n) around (.ref b) w = .ok a u) :
    u.Collects v b c j refs ∧ ∀ p : Part, u.at' (p.set c j) = w.at' (p.set c j) := by
  cases around with
  | none =>
    obtain ⟨-, rfl⟩ := pure_eq_ok.1 h
    exact ⟨hv, fun _ => rfl⟩
  | some o =>
    by_cases hne : o = b
    · subst hne
      have hsame : (Value.ref o).same (.ref o) = true := by simp [Value.same]
      simp only [View.giveAssets, hsame, Bool.not_true, Bool.false_eq_true, if_false] at h
      obtain ⟨-, rfl⟩ := pure_eq_ok.1 h
      exact ⟨hv, fun _ => rfl⟩
    · obtain ⟨c', j', more, hbundle, hnodup⟩ := ho o rfl hne
      simp only [List.nodup_cons, List.mem_cons, List.not_mem_nil, or_false, not_or] at hnodup
      obtain ⟨⟨hcj, hcc, hcj'⟩, ⟨hjc, hjj⟩, -⟩ := hnodup
      obtain ⟨hu, hf⟩ := giveAssets_eq_ok hbundle hv.bundle (Ne.symm hne) hcj hcc hcj' hjj h
      obtain ⟨⟨cls, hview⟩, hown, hb⟩ := hv
      have hun := hf.undisturbed_bundle hbundle hu
      have hsame (r : Nat) (hr : r < w.objects.size) (hc : r ≠ c') (hj : r ≠ j') : u.at' r = w.at' r :=
        hf.same r hr (by simp [hc, hj])
      have hatc := hsame c hb.css.lt_size (Ne.symm hcc) (Ne.symm hjc)
      have hatj := hsame j hb.js.lt_size (Ne.symm hcj') (Ne.symm hjj)
      refine ⟨⟨⟨cls, hun.isView hview⟩, ?_, hb.congr ?_ hatc hatj⟩, fun p => ?_⟩
      · exact (hun.own v (World.lt_size_of_classOf? hview.classOf) _ (by simp [assetAttributes])
          (.inl (by simp))).trans hown
      · exact hsame b hb.lt_size (hb.ne_of_holds hbundle.css) (hb.ne_of_holds hbundle.js)
      · cases p with
        | css => exact hatc
        | js => exact hatj

end

namespace RenderPass

variable {n : Nat} {w x y z : World} {r e : Ref} {v b c j i k : Nat} {refs : References} {p : Part}

/-- The turn of a name of a part of the assets keeps them. -/
theorem Turn.keepsAssets {d : Binding} (h : Turn (interpreter n) r x i e y z) (hn : y.Names e v p d) :
    y.KeepsAssets v z := by
  intro b c j refs hv
  obtain ⟨a, ha⟩ := h.evaluated
  obtain ⟨s, -, rfl⟩ := evaluate_part hn.place hn.pending hn.code hn.exposes hv ha
  exact hv.undisturbed (World.undisturbed_put_binding hn.place)

/-- Assets that each turn keeps are kept by all turns together. -/
theorem Turns.collects {m : Interpreter} (h : Turns m r i y k z)
    (hturns : ∀ i e y z, j ≤ i → Turn m r x i e y z → y.KeepsAssets v z)
    (hy : Turns m r 0 x i y) (hi : j ≤ i) {c d : Nat} (hv : y.Collects v b c d refs) :
    z.Collects v b c d refs := by
  induction h with
  | none => exact hv
  | next hb he ht ih =>
    refine ih (hy.trans (.next hb he (.none _ _))) (by omega) ?_
    exact hturns _ _ _ _ hi ⟨hy, hb, _, he⟩ _ _ _ _ hv

end RenderPass

namespace View

/-- The course of a render that succeeds: what it gives at each stage, and the worlds in between. -/
structure Course (m : Interpreter) (v enc : Value) (w : World) (out : String) (u : World) where
  encoding : Value
  begun : World
  bundle : Value
  started : World
  content : Ref
  ran : World
  fragment : Ref
  laid : World
  resolving : World
  resolved : World
  ended : World
  begins : encodingFor m v enc w = .ok encoding begun
  starts : startBundle m v begun = .ok bundle started
  runs : runContent m v encoding started.objects.size
    ((started.withEnclosing (reference? bundle)).push (.pass #[])) = .ok content ran
  lays : runLayout m v encoding started.objects.size content ran = .ok fragment laid
  goesOn : transition m v .deferredResolution laid = .ok () resolving
  resolves : RenderPass.resolve m started.objects.size fragment resolving = .ok out resolved
  ends : transition m v .done resolved = .ok () ended
  gives : giveAssets m begun.enclosing bundle (ended.withEnclosing started.enclosing) = .ok () u

/-- A render succeeds when it has a course. -/
theorem render_eq_ok_iff_course {m : Interpreter} {v enc : Value} {w u : World} {out : String} :
    render m v enc w = .ok out u ↔ Nonempty (Course m v enc w out u) := by
  rw [render_eq_ok]
  unfold renderStages
  simp only [bind_eq_ok, alloc_eq_ok, pure_eq_ok]
  constructor
  · rintro ⟨e, w₁, x, w₂, w₃, ⟨⟩, he, hx, ⟨_, _, ⟨rfl, rfl⟩, c, w₄, hc, f, w₅, hf, ⟨⟩, w₆, ht, o, w₇,
      ho, ⟨⟩, w₈, hd, rfl, rfl⟩, hy⟩
    exact ⟨e, w₁, x, w₂, c, w₄, f, w₅, w₆, w₇, w₈, he, hx, hc, hf, ht, ho, hd, hy⟩
  · rintro ⟨t⟩
    exact ⟨_, _, _, _, _, (), t.begins, t.starts, ⟨_, _, ⟨rfl, rfl⟩, _, _, t.runs, _, _, t.lays, (), _,
      t.goesOn, _, _, t.resolves, (), _, t.ends, rfl, rfl⟩, t.gives⟩

/-- A render has one course. -/
theorem Course.unique {m : Interpreter} {v enc : Value} {w u : World} {out : String}
    (t t' : Course m v enc w out u) : t = t' := by
  obtain ⟨_, _, _, _, _, _, _, _, _, _, _, h₁, h₂, h₃, h₄, h₅, h₆, h₇, h₈⟩ := t
  obtain ⟨_, _, _, _, _, _, _, _, _, _, _, k₁, k₂, k₃, k₄, k₅, k₆, k₇, k₈⟩ := t'
  cases h₁.symm.trans k₁
  cases h₂.symm.trans k₂
  cases h₃.symm.trans k₃
  cases h₄.symm.trans k₄
  cases h₅.symm.trans k₅
  cases h₆.symm.trans k₆
  cases h₇.symm.trans k₇
  rfl

namespace Course

variable {m : Interpreter} {n : Nat} {v b c j i : Nat} {enc : Value} {w u : World} {out : String}
  {e : Ref} {p : Part} {refs : References} {d : Binding}

/-- The pass that content and layout share. -/
def pass (t : Course m (.ref v) enc w out u) : Ref := t.started.objects.size

/-- How many expressions the content has deferred when its run ends. -/
def count (t : Course m (.ref v) enc w out u) : Nat := (t.ran.at' t.pass).bindings.length

/-- The expression with an index takes one world to another in its turn. -/
def Turn (t : Course m (.ref v) enc w out u) (i : Nat) (e : Ref) (y z : World) : Prop :=
  RenderPass.Turn m t.pass (RenderPass.announced t.pass t.resolving) i e y z

/-- When the first expression of the layout has its turn the view has its assets in a bundle, that of
the render, and from then on each turn is that of a name of a part of them, or keeps them. -/
structure Settles (t : Course m (.ref v) enc w out u) (b c j : Ref) (refs : References) : Prop where
  bundle : t.bundle = .ref b
  collects : ∀ y, RenderPass.Turns m t.pass 0 (RenderPass.announced t.pass t.resolving) t.count y →
    y.Collects v b c j refs
  keeps : ∀ i e y z, t.count ≤ i → t.Turn i e y z →
    (∃ p d, y.Names e v p d) ∨ y.KeepsAssets v z
  stage : t.resolved.AtStage v
  aside : t.ended.GivesAside t.begun.enclosing b c j

/-- In a render that succeeds every place in which the layout names a part of the assets of the view
shows the tags of that part as they are when the render returns: those of all that the view has
collected when the turns of the layout begin. -/
theorem shows_tags (t : Course (interpreter n) (.ref v) enc w out u) (ht : t.Settles b c j refs)
    -- The layout has deferred a name of a part.
    (hi : t.count ≤ i) (he : (t.laid.at' t.pass).bindings[i]? = some e)
    (hn : ∀ y z, t.Turn i e y z → ∃ d, y.Names e v p d) :
    u.Collects v b c j refs ∧ ∃ s texts, u.Tags v p s ∧ out = String.join texts ∧
      (t.resolved.at' t.fragment).chunks.mapM t.resolved.shows? = some texts ∧
      ∀ place : Nat, (t.resolved.at' t.fragment).chunks[place]? = some (.ref e) →
        texts[place]? = some s := by
  obtain ⟨hturns, hjoin⟩ := RenderPass.resolve_eq_ok t.resolves
  obtain ⟨-, texts, htexts, hout⟩ := Fragment.join_eq_ok hjoin
  have hgoes : t.laid.Evolves t.resolving := Evolving.of_ok inferInstance t.goesOn
  have hresolves : t.resolving.Evolves t.resolved := Evolving.of_ok inferInstance t.resolves
  have hlt : i < (t.resolved.at' t.pass).bindings.length :=
    (List.getElem?_eq_some_iff.1 ((hgoes.trans hresolves).getElem?_bindings he)).1
  -- The turns up to that of the name.
  obtain ⟨y₀, h₀, hturns⟩ := hturns.split (Nat.zero_le _) (Nat.le_trans hi (Nat.le_of_lt hlt))
  obtain ⟨y, hy, hturns⟩ := hturns.split hi (Nat.le_of_lt hlt)
  have hkeeps (i e y z) (hi : t.count ≤ i) (h : t.Turn i e y z) : y.KeepsAssets v z := by
    rcases ht.keeps i e y z hi h with ⟨p, d, hn⟩ | h'
    · exact h.keepsAssets hn
    · exact h'
  have hvy := hy.collects hkeeps h₀ (Nat.le_refl _) (ht.collects y₀ h₀)
  have hplace : (y.at' t.pass).bindings[i]? = some e := by
    refine (h₀.trans hy).evolves.getElem?_bindings ?_
    rw [RenderPass.at'_announced]
    exact hgoes.getElem?_bindings he
  -- Its own turn.
  cases hturns with
  | none => exact absurd hlt (Nat.lt_irrefl _)
  | @next _ _ _ z _ e' a hb ha hturns =>
    obtain rfl : e = e' := Option.some.inj (hplace.symm.trans hb)
    obtain ⟨d, hname⟩ := hn y z ⟨h₀.trans hy, hb, a, ha⟩
    obtain ⟨s, hs, hz⟩ := evaluate_part hname.place hname.pending hname.code hname.exposes hvy ha
    have hvr := hturns.collects hkeeps (h₀.trans (hy.trans (.next hb ha (.none _ _)))) (by omega)
      (hkeeps i e y z hi ⟨h₀.trans hy, hb, a, ha⟩ _ _ _ _ hvy)
    have hsr : t.resolved.SetTags (p.set c j) s :=
      hs.evolves (hvy.holds p) (hvr.holds p) ((Evolving.of_ok inferInstance ha).trans hturns.evolves)
    have hshown : t.resolved.shows? (.ref e) = some s := by
      have hz' : z.at' e = .binding { d with value := some s, resolved := true } := by
        rw [hz]
        exact World.at'_put_self (World.lt_size_of_binding hname.place) hname.place rfl
      rw [World.shows?, hturns.evolves.settled hz' rfl]
    -- The end of the render.
    have hve := transition_keepsAssets ht.stage t.ends _ _ _ _ hvr
    have hse : t.ended.SetTags (p.set c j) s :=
      hsr.evolves (hvr.holds p) (hve.holds p) (Evolving.of_ok inferInstance t.ends)
    have hgives := t.gives
    rw [ht.bundle] at hgives
    obtain ⟨hvu, hat⟩ := giveAssets_keepsAssets (ht.aside.withEnclosing t.started.enclosing)
      (hve.undisturbed (World.Undisturbed.refl _ _ _).enclosing_right) hgives
    obtain ⟨kind, l, hset, rfl⟩ := hse
    refine ⟨hvu, _, texts, hvu.tags ⟨kind, l, (hat p).trans hset, rfl⟩, hout, htexts, fun place hplace => ?_⟩
    rw [Fragment.getElem?_of_mapM htexts hplace, hshown]

end Course

end View

/-! ## A page with a layout -/

namespace World

/-- Whether a name of a part of the assets stands for what a view exposes. -/
def exposes? (w : World) (v globals : Ref) (p : Part) : Bool :=
  (match w.at' globals with
    | .globals names => (named? names.values p.name).isNone && foundAgrees names.context (some (.ref v))
    | _ => false) &&
  (w.own? v p.name).isNone &&
  match w.classOf? v with
  | none => false
  | some cls =>
    (match w.classValue cls p.name with
      | some (.exposed name) => name == p.name
      | _ => false) &&
    match (w.classRegistry cls).map w.at' with
    | some (.registry reg) =>
      match (reg.resolve Value.str p.name).2 with
      | some (.member name) => name == p.name
      | _ => false
    | _ => false

/-- Whether an expression that is pending names a part of the assets of a view. -/
def names? (w : World) (e v : Ref) (p : Part) : Bool :=
  match w.at' e with
  | .binding b =>
    !b.resolved && w.exposes? v b.globals p &&
      match b.code.core with
      | .name name => name == p.name
      | _ => false
  | _ => false

/-- Whether a view has its assets in a bundle with some references. -/
def collects? (w : World) (v b c j : Ref) (refs : References) : Bool :=
  (w.viewClass? v).isSome && foundAgrees (w.own? v "_assets") (some (.ref b)) &&
    (match w.at' b with
      | .bundle c' j' => c' == c && j' == j
      | _ => false) && w.set? c == some refs.css && w.set? j == some refs.js

/-- Whether a view is at a stage. -/
def atStage? (w : World) (v : Ref) : Bool :=
  (match w.own? v "stage" with
    | some (.stage _) => true
    | _ => false) &&
  match w.classOf? v with
  | some cls => !w.isComputed cls "stage"
  | none => true

variable {w : World} {v globals e b c j : Ref} {p : Part} {refs : References}

theorem exposes_of_exposes? (h : w.exposes? v globals p = true) : w.Exposes v globals p := by
  simp only [exposes?, Bool.and_eq_true] at h
  obtain ⟨⟨hnames, hown⟩, hclass⟩ := h
  refine ⟨?_, Option.isNone_iff_eq_none.1 hown, ?_⟩
  · split at hnames
    · rename_i names hat
      obtain ⟨hnamed, hcontext⟩ := Bool.and_eq_true_iff.1 hnames
      exact ⟨names, hat, Option.isNone_iff_eq_none.1 hnamed, eq_of_foundAgrees hcontext⟩
    · cases hnames
  · split at hclass
    · cases hclass
    · rename_i cls hcls
      obtain ⟨hvalue, hblock⟩ := Bool.and_eq_true_iff.1 hclass
      refine ⟨cls, hcls, ?_, ?_⟩
      · split at hvalue
        · rename_i name hname
          rw [hname, beq_iff_eq.1 hvalue]
        · cases hvalue
      · split at hblock
        · rename_i reg hreg
          obtain ⟨r, hr, hat⟩ := Option.map_eq_some_iff.1 hreg
          refine ⟨r, reg, hr, hat, ?_⟩
          split at hblock
          · rename_i name hname
            rw [hname, beq_iff_eq.1 hblock]
          · cases hblock
        · cases hblock

theorem names_of_names? (h : w.names? e v p = true) : ∃ d, w.Names e v p d := by
  unfold names? at h
  split at h
  · rename_i d hd
    simp only [Bool.and_eq_true, Bool.not_eq_true'] at h
    obtain ⟨⟨hpending, hexposes⟩, hcode⟩ := h
    refine ⟨d, hd, hpending, ?_, exposes_of_exposes? hexposes⟩
    split at hcode
    · rename_i name hname
      rw [hname, beq_iff_eq.1 hcode]
    · cases hcode
  · cases h

theorem collects_of_collects? (h : w.collects? v b c j refs = true) : w.Collects v b c j refs := by
  simp only [collects?, Bool.and_eq_true, beq_iff_eq] at h
  obtain ⟨⟨⟨⟨hview, hown⟩, hparts⟩, hcss⟩, hjs⟩ := h
  obtain ⟨cls, hcls⟩ := Option.isSome_iff_exists.1 hview
  refine ⟨⟨cls, viewClass?_eq_some hcls⟩, eq_of_foundAgrees hown, ?_, set?_eq_some hcss,
    set?_eq_some hjs⟩
  split at hparts
  · rename_i c' j' hb
    simp only [Bool.and_eq_true, beq_iff_eq] at hparts
    rw [hb, hparts.1, hparts.2]
  · cases hparts

theorem atStage_of_atStage? (h : w.atStage? v = true) : w.AtStage v := by
  obtain ⟨hown, hclass⟩ := Bool.and_eq_true_iff.1 h
  refine ⟨?_, fun cls hcls => ?_⟩
  · split at hown
    · rename_i s hs
      exact ⟨s, hs⟩
    · cases hown
  · rw [hcls] at hclass
    exact isComputed_eq_false (by simpa using hclass)

end World

namespace RenderPass

/-- Whether the turns from an index on are as a view needs them that has its assets in a bundle: those of
the names of parts that are expected, and others that disturb no assets. Up to some index they may be any. -/
def settles? (m : Interpreter) (r v b c j : Ref) (refs : References) (k : Nat)
    (expected : Nat → Option Part) : Nat → Nat → World → Bool
  | 0, _, _ => false
  | fuel + 1, i, y =>
    (i != k || y.collects? v b c j refs) &&
      match (y.at' r).bindings[i]? with
      | none => true
      | some e =>
        match Binding.evaluate m e y with
        | .error _ _ => true
        | .ok _ z =>
          (match expected i with
            | some p => y.names? e v p
            | none => decide (i < k) || y.quiet? z) &&
            settles? m r v b c j refs k expected fuel (i + 1) z

variable {m : Interpreter} {r v b c j : Ref} {refs : References} {k fuel i l : Nat}
  {expected : Nat → Option Part} {w x y z : World}

/-- What is found of the turns from an index on is found of the later ones. -/
theorem Turns.settles? (ht : Turns m r i y l z)
    (h : settles? m r v b c j refs k expected fuel i y = true) :
    ∃ left, RenderPass.settles? m r v b c j refs k expected left l z = true := by
  induction ht generalizing fuel with
  | none => exact ⟨fuel, h⟩
  | next hb he _ ih =>
    cases fuel with
    | zero => cases h
    | succ fuel =>
      rw [RenderPass.settles?, hb] at h
      dsimp only at h
      rw [he] at h
      simp only [Bool.and_eq_true] at h
      exact ih h.2.2

theorem collects_of_settles? (h : settles? m r v b c j refs k expected fuel k y = true) :
    y.Collects v b c j refs := by
  cases fuel with
  | zero => cases h
  | succ fuel =>
    rw [settles?] at h
    simp only [bne_self_eq_false, Bool.false_or, Bool.and_eq_true] at h
    exact collects_of_collects? h.1

theorem turn_of_settles? {e : Ref} {a : Value}
    (h : settles? m r v b c j refs k expected fuel i y = true) (hb : (y.at' r).bindings[i]? = some e)
    (he : Binding.evaluate m e y = .ok a z) :
    (∃ p d, expected i = some p ∧ y.Names e v p d) ∨
      expected i = none ∧ (i < k ∨ y.KeepsAssets v z) := by
  cases fuel with
  | zero => cases h
  | succ fuel =>
    rw [settles?, hb] at h
    dsimp only at h
    rw [he] at h
    simp only [Bool.and_eq_true] at h
    have hturn := h.2.1
    split at hturn
    · rename_i p hp
      obtain ⟨d, hn⟩ := names_of_names? hturn
      exact .inl ⟨p, d, hp, hn⟩
    · rename_i hp
      refine .inr ⟨hp, ?_⟩
      rcases Bool.or_eq_true_iff.1 hturn with hturn | hturn
      · exact .inl (of_decide_eq_true hturn)
      · exact .inr fun _ _ _ _ hv => hv.undisturbed (quiet_of_quiet? hturn).1

end RenderPass

namespace View

/-- The course of a render, if it succeeds. -/
def course? (m : Interpreter) (v enc : Value) (w : World) :
    Option (PSigma fun out : String => PSigma fun u : World => Course m v enc w out u) :=
  match begins : encodingFor m v enc w with
  | .error _ _ => none
  | .ok encoding begun =>
    match starts : startBundle m v begun with
    | .error _ _ => none
    | .ok bundle started =>
      match runs : runContent m v encoding started.objects.size
          ((started.withEnclosing (reference? bundle)).push (.pass #[])) with
      | .error _ _ => none
      | .ok content ran =>
        match lays : runLayout m v encoding started.objects.size content ran with
        | .error _ _ => none
        | .ok fragment laid =>
          match goesOn : transition m v .deferredResolution laid with
          | .error _ _ => none
          | .ok _ resolving =>
            match resolves : RenderPass.resolve m started.objects.size fragment resolving with
            | .error _ _ => none
            | .ok out resolved =>
              match ends : transition m v .done resolved with
              | .error _ _ => none
              | .ok _ ended =>
                match gives : giveAssets m begun.enclosing bundle
                    (ended.withEnclosing started.enclosing) with
                | .error _ _ => none
                | .ok _ u =>
                  some ⟨out, u, encoding, begun, bundle, started, content, ran, fragment, laid, resolving,
                    resolved, ended, begins, starts, runs, lays, goesOn, resolves, ends, gives⟩

namespace Course

variable {m : Interpreter} {v b c j : Nat} {enc : Value} {w u : World} {out : String}
  {refs : References} {expected : Nat → Option Part} {i : Nat} {e : Ref} {p : Part}

/-- Whether a render settles the assets of a view that no other render is around. -/
def settles? (t : Course m (.ref v) enc w out u) (b c j : Ref) (refs : References)
    (expected : Nat → Option Part) : Bool :=
  reference? t.bundle == some b && t.begun.enclosing.isNone && t.resolved.atStage? v &&
    RenderPass.settles? m t.pass v b c j refs t.count expected
      ((t.resolved.at' t.pass).bindings.length + 1) 0 (RenderPass.announced t.pass t.resolving)

theorem settles_of_settles? {t : Course m (.ref v) enc w out u}
    (h : t.settles? b c j refs expected = true) :
    t.Settles b c j refs ∧ ∀ i e p y z, expected i = some p → t.Turn i e y z → ∃ d, y.Names e v p d := by
  simp only [settles?, Bool.and_eq_true, beq_iff_eq, Option.isNone_iff_eq_none] at h
  obtain ⟨⟨⟨hbundle, haround⟩, hstage⟩, hturns⟩ := h
  have hturn (i e y z) (h : t.Turn i e y z) :
      (∃ p d, expected i = some p ∧ y.Names e v p d) ∨
        expected i = none ∧ (i < t.count ∨ y.KeepsAssets v z) := by
    obtain ⟨hbefore, hplace, a, ha⟩ := h
    obtain ⟨left, hleft⟩ := hbefore.settles? hturns
    exact RenderPass.turn_of_settles? hleft hplace ha
  refine ⟨⟨?_, fun y hy => ?_, fun i e y z hi h => ?_, atStage_of_atStage? hstage, ?_⟩, ?_⟩
  · unfold reference? at hbundle
    split at hbundle
    · rename_i r hr
      rw [hr, Option.some.inj hbundle]
    · cases hbundle
  · obtain ⟨left, hleft⟩ := hy.settles? hturns
    exact RenderPass.collects_of_settles? hleft
  · rcases hturn i e y z h with ⟨p, d, -, hn⟩ | ⟨-, h⟩
    · exact .inl ⟨p, d, hn⟩
    · exact .inr (h.resolve_left (by omega))
  · intro o ho
    rw [haround] at ho
    cases ho
  · intro i e p y z hp h
    rcases hturn i e y z h with ⟨p', d, hp', hn⟩ | ⟨hp', -⟩
    · obtain rfl := Option.some.inj (hp.symm.trans hp')
      exact ⟨d, hn⟩
    · rw [hp] at hp'
      cases hp'

end Course

end View

/-- A page with a layout, and a card that it may embed. -/
def framedPage (source frame : String) : World := World.after (do
  ContextClass.setUp
  modify fun w =>
    { w with files := sourceFiles [("page", source), ("card", "card"), ("frame", frame)] }
  let page ← ContextClass.define machine "Page" ContextClass.view [] []
    [("template", .str "page"), ("layout", .str "frame"), ("css", .tuple (texts ["page.css"]))]
  let card ← defineView "Card" "card" ["card.css"]
  let c ← View.create machine card {}
  let _ ← View.create machine page { named := [("kid", c)] }) {}

/-- A page that embeds the card late, in a layout with the stylesheets first. -/
def headPage : World :=
  framedPage "<%-> kid %>" "<%-> css %>|<%= content() %>|<%-> 'end' %>|<%-> js %>"

/-- The names of parts among the expressions that the page and its layout defer. -/
def headNames (i : Nat) : Option Part :=
  if i = 1 then some .css else if i = 3 then some .js else none

theorem headPage_checks :
    (View.course? (interpreter 6000) (.ref 21) .none headPage).any (fun t =>
      t.2.2.settles? 34 32 33 ⟨["page.css", "card.css"], []⟩ headNames && decide (t.2.2.count ≤ 1) &&
        match (t.2.2.laid.at' t.2.2.pass).bindings[1]? with
        | some e => foundAgrees (t.2.2.resolved.at' t.2.2.fragment).chunks[0]? (some (.ref e))
        | none => false) = true := by
  decide +kernel

/-- The page begins with the stylesheet of the card that it embeds further down. -/
theorem headPage_shows_tags : ∃ texts u s,
    View.render (interpreter 6000) (.ref 21) .none headPage = .ok (String.join texts) u ∧
      u.Tags 21 .css s ∧ texts[0]? = some s := by
  obtain ⟨hsome, h⟩ := (Option.any_eq_true_iff_get _ _).1 headPage_checks
  generalize (View.course? (interpreter 6000) (.ref 21) .none headPage).get hsome = found at h
  obtain ⟨out, u, t⟩ := found
  simp only [Bool.and_eq_true, decide_eq_true_eq] at h
  obtain ⟨⟨hsettles, hcount⟩, hplace⟩ := h
  obtain ⟨ht, hnames⟩ := View.Course.settles_of_settles? hsettles
  split at hplace
  · rename_i e he
    obtain ⟨-, s, texts, hs, rfl, -, hshown⟩ := View.Course.shows_tags t ht hcount he
      fun y z h => hnames 1 e .css y z rfl h
    exact ⟨texts, u, s, View.render_eq_ok_iff_course.2 ⟨t⟩, hs, hshown 0 (eq_of_foundAgrees hplace)⟩
  · cases hplace

/-- A page whose content defers an expression that defers another one, which embeds the card. -/
def latePage : World :=
  framedPage "<% def late(): %><%-> kid %><% end %><%-> late() %>" "<%-> css %>|<%-> js %>"

/-- A page whose layout takes the stylesheets away after they have been shown. -/
def clearingPage : World :=
  framedPage "content" "<%-> css %>|<%-> js %><%-> css.clear() %>"

/-- What is deferred after the content's run and changes the assets may come too late for the head. -/
theorem late_changes_are_not_shown :
    (latePage.value? (View.render machine (.ref 21) .none) =
        some (Assets.render .stylesheet ["page.css"] ++ "|") ∧
      (latePage.after (View.render machine (.ref 21) .none)).bundled? 21 "_assets" =
        some ⟨["page.css", "card.css"], []⟩) ∧
    clearingPage.value? (View.render machine (.ref 21) .none) =
        some (Assets.render .stylesheet ["page.css"] ++ "|") ∧
      (clearingPage.after (View.render machine (.ref 21) .none)).bundled? 21 "_assets" =
        some ⟨[], []⟩ := by
  decide +kernel

end Stencil
