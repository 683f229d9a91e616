import Stencil.Proofs.Failures
import Stencil.Proofs.InsertionHistory
import Stencil.Proofs.Sequences

/-!
# Unions of references

Sets of references are united by an operator, by updating a copy, by registering a bundle, and by merging
configurations and making a bundle of the result. All of these give the references of the first, then
those of the second that are not among them, each once and in order.
-/

namespace Stencil

open World Evaluation

/-! ## The union of two sequences -/

/-- The references of a sequence, then those of another one that are not in it, each once. -/
def unionOf (a b : List String) : List String :=
  a.eraseDups ++ (b.filter fun r => !a.contains r).eraseDups

theorem unionOf_eq (a b : List String) : unionOf a b = (OrderedSet.ofList (a ++ b)).toList := by
  have hcontains (r : String) : (a.eraseDups).contains r = a.contains r := by
    rw [Bool.eq_iff_iff]
    simp
  rw [OrderedSet.ofList_append, OrderedSet.insertMany_eq_eraseDups, OrderedSet.toList_ofList, unionOf]
  simp only [hcontains]

theorem insertMany_eq_unionOf (a b : List String) :
    (OrderedSet.insertMany ⟨a.eraseDups⟩ b).toList = unionOf a b := by
  rw [unionOf_eq, OrderedSet.ofList_append, ← OrderedSet.toList_ofList]

theorem ofList_toList_ofList (a : List String) :
    OrderedSet.ofList (OrderedSet.ofList a).toList = OrderedSet.ofList a :=
  OrderedSet.insertMany_ofList _ a

theorem unionOf_eraseDups_left (a b : List String) : unionOf a.eraseDups b = unionOf a b := by
  rw [unionOf_eq, unionOf_eq, ← OrderedSet.toList_ofList, OrderedSet.ofList_append,
    ofList_toList_ofList, OrderedSet.ofList_append]

theorem unionOf_eraseDups_right (a b : List String) : unionOf a b.eraseDups = unionOf a b := by
  rw [unionOf_eq, unionOf_eq, ← OrderedSet.toList_ofList, OrderedSet.ofList_append,
    OrderedSet.insertMany_ofList, OrderedSet.ofList_append]

theorem unionOf_assoc (a b c : List String) :
    unionOf (unionOf a b) c = unionOf a (unionOf b c) := by
  calc unionOf (unionOf a b) c
    _ = unionOf (a ++ b) c := by
      rw [unionOf_eq a b, OrderedSet.toList_ofList, unionOf_eraseDups_left]
    _ = unionOf a (b ++ c) := by rw [unionOf_eq, unionOf_eq, List.append_assoc]
    _ = unionOf a (unionOf b c) := by
      rw [unionOf_eq b c, OrderedSet.toList_ofList, unionOf_eraseDups_right]

theorem unionOf_self (a : List String) : unionOf a a = a.eraseDups := by
  rw [unionOf_eq, OrderedSet.ofList_append_of_subset fun _ => id, OrderedSet.toList_ofList]

/-- What was there first stays first. -/
theorem unionOf_absorb (a b : List String) : unionOf (unionOf a b) a = unionOf a b := by
  rw [unionOf_eq a b, OrderedSet.toList_ofList, unionOf_eraseDups_left, unionOf_eq,
    OrderedSet.ofList_append_of_subset fun _ => List.mem_append_left _, OrderedSet.toList_ofList]

theorem nodup_unionOf (a b : List String) : (unionOf a b).Nodup := by
  rw [unionOf_eq, ← OrderedSet.replay_inserted]
  exact (OrderedSet.inOrderOf_replay _).distinct

theorem ofList_texts (refs : List String) : OrderedSet.ofList (texts refs) = ⟨texts refs.eraseDups⟩ := by
  rw [← OrderedSet.toList_ofList]
  exact insertMany_texts {} refs

/-! ## Unions of sets -/

section

variable {m : Interpreter} {w u : World} {r : Nat} {kind : AssetKind} {a b : List String} {v : Value}

theorem checkKeys_texts (refs : List String) (w : World) :
    (texts refs).forM checkKey w = .ok () w := checkKey_texts.2 rfl

theorem World.Sequence.truth (h : w.Sequence v b) : truth v w = .ok (b.length != 0) w := by
  cases h with
  | tuple =>
    have hlength : (texts b).length = b.length := by simp [texts]
    rw [← hlength]
    rfl
  | @list l items _ _ hl hitems =>
    have hlength : items.size = b.length := by
      rw [← Array.length_toList, hitems]
      simp [texts]
    have hread : length? (.ref l) w = .ok (some items.size) w := by
      refine (bind_of_ok (load_ok w l)).trans ?_
      rw [hl]
      rfl
    rw [← hlength]
    exact bind_of_ok hread
  | @set s _ hs =>
    obtain ⟨kind, hs⟩ := hs
    have hsize : (⟨texts b⟩ : OrderedSet Value).size = b.length := by simp [OrderedSet.size, texts]
    have hread : length? (.ref s) w = .ok (some b.length) w := by
      refine (bind_of_ok (load_ok w s)).trans ?_
      rw [hs, ← hsize]
      rfl
    exact bind_of_ok hread

/-- A set that is made of a sequence. -/
theorem make_sequence (kind : AssetKind) (hv : w.Sequence v b) (hm : b.length < m.rounds) :
    ∃ s u, AssetSet.make m kind v w = .ok s u ∧ u.at' s = .assets kind ⟨texts b.eraseDups⟩ ∧
      w.objects.size ≤ s ∧ w.ChangesOnly [] u := by
  unfold AssetSet.make
  rw [bind_of_ok hv.truth]
  cases b with
  | nil => exact ⟨_, _, rfl, World.at'_push_size _ _, Nat.le_refl _, .push _ _ _⟩
  | cons x b =>
    obtain ⟨u, hu, hchanges⟩ := collect_sequence hv hm
    refine ⟨u.objects.size, u.push (.assets kind (.ofList (texts (x :: b)))), ?_, ?_, hchanges.size,
      hchanges.trans (.push _ _ _)⟩
    · refine (bind_of_ok hu).trans ?_
      exact bind_of_ok (checkKeys_texts _ u)
    · rw [World.at'_push_size, ofList_texts]

theorem construct_assets {s : Ref} (h : AssetSet.make m kind v w = .ok s u) :
    construct m (.assets kind) { items := [v] } w = .ok (.ref s) u := by
  refine (bind_of_ok (matched_eq rfl rfl w)).trans ?_
  exact bind_of_ok h

theorem assets?_eq (hr : w.at' r = .assets kind ⟨texts a⟩) :
    assets? (.ref r) w = .ok (some (kind, ⟨texts a⟩)) w := by
  refine (bind_of_ok (object?_ref w r)).trans ?_
  rw [hr]
  rfl

theorem World.Sequence.isIterable (h : w.Sequence v b) : isIterable v w = .ok true w := by
  cases h with
  | tuple => rfl
  | @list l _ _ _ hl _ =>
    refine (bind_of_ok (load_ok w l)).trans ?_
    rw [hl]
    rfl
  | @set s _ hs =>
    obtain ⟨kind, hs⟩ := hs
    refine (bind_of_ok (load_ok w s)).trans ?_
    rw [hs]
    rfl

/-- Two sets that the program unites by its operator. -/
def unite (m : Interpreter) (a b : Value) : Action Value :=
  binary (collect m) (percent m) (symbol .bitOr) .bitOr a b

theorem exists_assets? (v : Value) (w : World) : ∃ x, assets? v w = .ok x w := by
  cases v with
  | ref r =>
    cases hr : w.at' r with
    | assets kind refs =>
      refine ⟨some (kind, refs), (bind_of_ok (object?_ref w r)).trans ?_⟩
      rw [hr]
      rfl
    | _ =>
      refine ⟨none, (bind_of_ok (object?_ref w r)).trans ?_⟩
      rw [hr]
      rfl
  | _ => exact ⟨none, rfl⟩

/-- What the operator takes on its right. -/
theorem operand_sequence (hv : w.Sequence v b) (hm : b.length < m.rounds) :
    ∃ refs u, AssetSet.operand m v w = .ok ⟨texts refs⟩ u ∧ refs.eraseDups = b.eraseDups ∧
      w.ChangesOnly [] u := by
  have collected (h : assets? v w = .ok none w) : ∃ refs u,
      AssetSet.operand m v w = .ok ⟨texts refs⟩ u ∧ refs.eraseDups = b.eraseDups ∧
        w.ChangesOnly [] u := by
    obtain ⟨u, hu, hchanges⟩ := collect_sequence hv hm
    refine ⟨b.eraseDups, u, ?_, ?_, hchanges⟩
    · refine (bind_of_ok h).trans ((bind_of_ok hu).trans ((bind_of_ok (checkKeys_texts b u)).trans ?_))
      rw [ofList_texts]
      rfl
    · have hdups := ofList_toList_ofList b
      rw [← OrderedSet.toList_ofList, ← OrderedSet.toList_ofList, hdups]
  cases hv with
  | tuple => exact collected rfl
  | @list l _ _ _ hl _ =>
    refine collected ((bind_of_ok (object?_ref w l)).trans ?_)
    rw [hl]
    rfl
  | @set s _ hs =>
    obtain ⟨k, hs⟩ := hs
    exact ⟨b, w, bind_of_ok (assets?_eq hs), rfl, .refl _ _⟩

theorem setOp?_bitOr (hr : w.at' r = .assets kind ⟨texts a⟩) (hv : isIterable v w = .ok true w) :
    setOp? (collect m) .bitOr (.ref r) v w = (AssetSet.operand m v >>= fun refs => do
      return some (← allocValue (.assets kind (.ofList (texts a ++ refs.toList))))) w := by
  obtain ⟨x, hx⟩ := exists_assets? v w
  unfold setOp?
  refine (bind_of_ok (assets?_eq hr)).trans ((bind_of_ok hx).trans ?_)
  exact bind_of_ok hv

/-- The operator makes a new set of its own and leaves everything else as it is. -/
theorem unite_sequence (hr : w.at' r = .assets kind ⟨texts a⟩) (hv : w.Sequence v b)
    (hm : b.length < m.rounds) :
    ∃ s u, unite m (.ref r) v w = .ok (.ref s) u ∧ u.at' s = .assets kind ⟨texts (unionOf a b)⟩ ∧
      w.objects.size ≤ s ∧ w.ChangesOnly [] u := by
  obtain ⟨refs, u, hu, hrefs, hchanges⟩ := operand_sequence hv hm
  have hunion : OrderedSet.ofList (texts a ++ texts refs) = ⟨texts (unionOf a b)⟩ := by
    rw [← texts_append, ofList_texts, ← OrderedSet.toList_ofList, ← unionOf_eq,
      ← unionOf_eraseDups_right, hrefs, unionOf_eraseDups_right]
  have hset : setOp? (collect m) .bitOr (.ref r) v w = .ok (some (.ref u.objects.size))
      (u.push (.assets kind ⟨texts (unionOf a b)⟩)) := by
    rw [setOp?_bitOr hr hv.isIterable, bind_of_ok hu, ← hunion]
    rfl
  exact ⟨_, _, bind_of_ok hset, World.at'_push_size _ _, hchanges.size, hchanges.trans (.push _ _ _)⟩

/-! ## Methods -/

/-- Calling a method of a set that takes one argument. -/
theorem callMethod_assets {refs : OrderedSet Value} {name p : String} (m : Interpreter)
    (hr : w.at' r = .assets kind refs) (hp : methodParameters (.assets kind refs) name = [p])
    (hself : p ≠ "self") (arg : Value) :
    callMethod m (.ref r) name { items := [arg] } w = assetsMethod m r kind refs name arg w := by
  have hself : ("self" == p) = false := by simpa using Ne.symm hself
  refine (bind_of_ok (load_ok w r)).trans ?_
  rw [hr]
  dsimp only
  unfold objectMethod
  rw [bind_of_ok (w.typeName_eq (.ref r)), hp]
  refine (bind_of_ok (matched_eq rfl rfl w)).trans ?_
  simp [Bound.get?, refOf, hself]

/-- Calling a method of a set that takes no argument. -/
theorem callMethod_assets_nil {refs : OrderedSet Value} {name : String} (m : Interpreter)
    (hr : w.at' r = .assets kind refs) (hp : methodParameters (.assets kind refs) name = []) :
    callMethod m (.ref r) name {} w = assetsMethod m r kind refs name .none w := by
  refine (bind_of_ok (load_ok w r)).trans ?_
  rw [hr]
  dsimp only
  unfold objectMethod
  rw [bind_of_ok (w.typeName_eq (.ref r)), hp]
  exact bind_of_ok (matched_eq rfl rfl w)

theorem callMethod_add (hr : w.at' r = .assets kind ⟨texts a⟩) (x : String) :
    callMethod m (.ref r) "add" { items := [.str x] } w =
      .ok .none (w.put r (.assets kind ⟨texts (OrderedSet.insert ⟨a⟩ x).toList⟩)) := by
  rw [callMethod_assets m hr rfl (by decide)]
  exact bind_of_ok (add_text_eq hr x)

theorem erase_texts (s : OrderedSet String) (x : String) :
    OrderedSet.erase ⟨texts s.toList⟩ (.str x) = ⟨texts (s.erase x).toList⟩ := by
  simp [OrderedSet.erase, texts, List.filter_map, Function.comp_def]

theorem callMethod_discard (hr : w.at' r = .assets kind ⟨texts a⟩) (x : String) :
    callMethod m (.ref r) "discard" { items := [.str x] } w =
      .ok .none (w.put r (.assets kind ⟨texts (OrderedSet.erase ⟨a⟩ x).toList⟩)) := by
  have hkey : checkKey (.str x) w = .ok () w := rfl
  have hdiscard : AssetSet.discard r (.str x) w =
      .ok () (w.put r (.assets kind ⟨texts (OrderedSet.erase ⟨a⟩ x).toList⟩)) := by
    refine (bind_of_ok hkey).trans ((bind_of_ok (members_eq hr)).trans ?_)
    rw [← erase_texts]
    rfl
  rw [callMethod_assets m hr rfl (by decide)]
  exact bind_of_ok hdiscard

theorem callMethod_copy (hr : w.at' r = .assets kind ⟨texts a⟩) :
    callMethod m (.ref r) "copy" {} w =
      .ok (.ref w.objects.size) (w.push (.assets kind ⟨texts a⟩)) := by
  rw [callMethod_assets_nil m hr rfl]
  rfl

/-- The two names of the method that adds the references of a sequence. -/
def updating : List String := ["update", "register"]

theorem callMethod_update {name : String} (hname : name ∈ updating)
    (hr : w.at' r = .assets kind ⟨texts a⟩) (hv : w.Sequence v b) (hm : b.length < m.rounds) :
    ∃ u, callMethod m (.ref r) name { items := [v] } w = .ok (.ref r) u ∧
      u.at' r = .assets kind ⟨texts (OrderedSet.insertMany ⟨a⟩ b).toList⟩ ∧ w.ChangesOnly [r] u := by
  obtain ⟨u, hu, hur, hchanges⟩ := update_sequence hr hv hm
  refine ⟨u, ?_, hur, hchanges⟩
  simp only [updating, List.mem_cons, List.not_mem_nil, or_false] at hname
  rcases hname with rfl | rfl
  · rw [callMethod_assets m hr rfl (by decide)]
    exact bind_of_ok hu
  · rw [callMethod_assets m hr rfl (by decide)]
    exact bind_of_ok hu

/-- A copy that is updated holds the union, and the set that it was made of is as it was. -/
theorem update_copy {name : String} (hname : name ∈ updating)
    (hr : w.at' r = .assets kind ⟨texts a.eraseDups⟩) (hv : w.Sequence v b) (hm : b.length < m.rounds) :
    ∃ s u x, callMethod m (.ref r) "copy" {} w = .ok (.ref s) u ∧
      callMethod m (.ref s) name { items := [v] } u = .ok (.ref s) x ∧
      x.at' s = .assets kind ⟨texts (unionOf a b)⟩ ∧ w.ChangesOnly [] x := by
  have hv' : (w.push (.assets kind ⟨texts a.eraseDups⟩)).Sequence v b := hv.push _
  obtain ⟨x, hx, hxs, hchanges⟩ := callMethod_update hname (World.at'_push_size _ _) hv' hm
  refine ⟨w.objects.size, _, x, callMethod_copy hr, hx, ?_, hchanges.push_then⟩
  rw [hxs, insertMany_eq_unionOf]

/-! ## Unions of bundles -/

/-- An interpreter that reads attributes as the program does. -/
def Evaluation.Interpreter.Reads (m : Interpreter) : Prop :=
  ∃ deeper, ∀ v name, m.attributeOf v name = readAttribute deeper v name

theorem interpreter_reads (n : Nat) : (interpreter (n + 1)).Reads :=
  ⟨interpreter n, fun _ _ => rfl⟩

namespace References

/-- The union of references of both kinds. -/
def unionOf (a b : References) : References :=
  ⟨Stencil.unionOf a.css b.css, Stencil.unionOf a.js b.js⟩

/-- References with more of them inserted one after another. -/
def adding (a b : References) : References :=
  ⟨(OrderedSet.insertMany ⟨a.css⟩ b.css).toList, (OrderedSet.insertMany ⟨a.js⟩ b.js).toList⟩

theorem distinct_adding (a b : References) : a.distinct.adding b = (a ++ b).distinct :=
  (distinct_append a b).symm

theorem unionOf_eq_distinct (a b : References) : a.unionOf b = (a ++ b).distinct :=
  congrArg₂ References.mk (unionOf_eq _ _) (unionOf_eq _ _)

end References

variable {o p c j c' j' : Nat} {x y : References}

theorem World.BundleOf.css_ne_js (h : w.BundleOf o c j x) (h' : w.BundleOf p c' j' y) : c ≠ j' := by
  rintro rfl
  have hc := h.css
  rw [h'.js] at hc
  cases hc

/-- Adding to the set of stylesheets of a bundle leaves all bundles, and the sets of scripts, as they are. -/
theorem World.BundleOf.keep_css (ho : w.BundleOf o c j x) (hp : w.BundleOf p c' j' y)
    (h : w.ChangesOnly [c] u) :
    u.at' p = .bundle c' j' ∧ u.at' j' = .assets .script ⟨texts y.js⟩ := by
  constructor
  · rw [h.same p hp.isBundle.lt_size (by simpa using hp.isBundle.ne_of_holds ho.isBundle.css), hp.parts]
  · rw [h.same j' hp.isBundle.js.lt_size (by simpa using Ne.symm (ho.css_ne_js hp)), hp.js]

theorem World.BundleOf.keep_js (ho : w.BundleOf o c j x) (hp : w.BundleOf p c' j' y)
    (h : w.ChangesOnly [j] u) :
    u.at' p = .bundle c' j' ∧ u.at' c' = .assets .stylesheet ⟨texts y.css⟩ := by
  constructor
  · rw [h.same p hp.isBundle.lt_size (by simpa using hp.isBundle.ne_of_holds ho.isBundle.js), hp.parts]
  · rw [h.same c' hp.isBundle.css.lt_size (by simpa using hp.css_ne_js ho), hp.css]

theorem attributeOf_part_eq (hreads : m.Reads) (hp : w.at' p = .bundle c' j') :
    m.attributeOf (.ref p) "css" w = .ok (.ref c') w ∧ m.attributeOf (.ref p) "js" w = .ok (.ref j') w := by
  obtain ⟨deeper, hreads⟩ := hreads
  constructor
  · rw [hreads, readAttribute_data hp (by simp) (by simp [IsPlainName]) rfl]
  · rw [hreads, readAttribute_data hp (by simp) (by simp [IsPlainName]) rfl]

/-- Registering a bundle adds its references of both kinds, also when the bundle is registered in itself. -/
theorem register_eq_ok {z : Unit} (hreads : m.Reads) (ho : w.BundleOf o c j x) (hp : w.BundleOf p c' j' y)
    (h : Bundle.register m o (.ref p) w = .ok z u) :
    u.BundleOf o c j (x.adding y) ∧ w.ChangesOnly [c, j] u := by
  unfold Bundle.register at h
  rw [bind_of_ok (parts_eq ho.parts)] at h
  dsimp only at h
  rw [bind_of_ok (attributeOf_part_eq hreads hp.parts).1, bind_eq_ok] at h
  obtain ⟨_, v, hcss, h⟩ := h
  obtain ⟨hvc, hwv⟩ := update_eq_ok ho.css (.set hp.isBundle.css) hcss
  obtain ⟨hvo, hvj⟩ := ho.keep_css ho hwv
  obtain ⟨hvp, hvj'⟩ := ho.keep_css hp hwv
  rw [bind_of_ok (attributeOf_part_eq hreads hvp).2] at h
  obtain ⟨huj, hvu⟩ := update_eq_ok hvj (.set ⟨_, hvj'⟩) h
  have hv : v.BundleOf o c j ⟨(OrderedSet.insertMany ⟨x.css⟩ y.css).toList, x.js⟩ := ⟨hvo, hvc, hvj⟩
  obtain ⟨huo, huc⟩ := hv.keep_js hv hvu
  exact ⟨⟨huo, huc, huj⟩, (hwv.mono (by simp)).trans (hvu.mono (by simp))⟩

theorem exists_register (hreads : m.Reads) (ho : w.BundleOf o c j x) (hp : w.BundleOf p c' j' y)
    (hcss : y.css.length < m.rounds) (hjs : y.js.length < m.rounds) :
    ∃ u, Bundle.register m o (.ref p) w = .ok () u := by
  obtain ⟨v, hv, -, hwv⟩ := update_sequence ho.css (.set hp.isBundle.css) hcss
  obtain ⟨-, hvj⟩ := ho.keep_css ho hwv
  obtain ⟨hvp, hvj'⟩ := ho.keep_css hp hwv
  obtain ⟨u, hu, -, -⟩ := update_sequence hvj (.set ⟨_, hvj'⟩) hjs
  refine ⟨u, (bind_of_ok (parts_eq ho.parts)).trans ?_⟩
  refine (bind_of_ok (attributeOf_part_eq hreads hp.parts).1).trans ((bind_of_ok hv).trans ?_)
  exact (bind_of_ok (attributeOf_part_eq hreads hvp).2).trans hu

theorem callMethod_register (ho : w.at' o = .bundle c j) (h : Bundle.register m o v w = .ok () u) :
    callMethod m (.ref o) "register" { items := [v] } w = .ok (.ref o) u := by
  refine (bind_of_ok (load_ok w o)).trans ?_
  rw [ho]
  dsimp only
  unfold objectMethod
  rw [bind_of_ok (w.typeName_eq (.ref o))]
  refine (bind_of_ok (matched_eq rfl rfl w)).trans ?_
  exact bind_of_ok h

/-- A bundle that another one is registered in holds the union of the sets of each kind. -/
theorem register_unites (hreads : m.Reads) (ho : w.BundleOf o c j x.distinct)
    (hp : w.BundleOf p c' j' y.distinct) (hcss : y.distinct.css.length < m.rounds)
    (hjs : y.distinct.js.length < m.rounds) :
    ∃ u, callMethod m (.ref o) "register" { items := [.ref p] } w = .ok (.ref o) u ∧
      u.BundleOf o c j (x.unionOf y) ∧ w.ChangesOnly [c, j] u := by
  obtain ⟨u, hu⟩ := exists_register hreads ho hp hcss hjs
  obtain ⟨huo, hchanges⟩ := register_eq_ok hreads ho hp hu
  rw [References.distinct_adding, References.distinct_append_distinct,
    ← References.unionOf_eq_distinct] at huo
  exact ⟨u, callMethod_register ho.parts hu, huo, hchanges⟩

/-! ## Unions of configurations -/

theorem references_texts (hm : a.length < m.rounds) (w : World) :
    ∃ u, ViewConfig.references m (.tuple (texts a)) w = .ok (texts a.eraseDups) u ∧ w.ChangesOnly [] u := by
  obtain ⟨u, hu, hchanges⟩ := collect_sequence (w := w) (.tuple a) hm
  refine ⟨u, ?_, hchanges⟩
  unfold ViewConfig.references
  refine (bind_of_ok hu).trans ((bind_of_ok (checkKeys_texts a u)).trans ?_)
  rw [ofList_texts]
  rfl

theorem mergeAssets_lists {first other : ViewConfig} (hx : first.Lists x) (hy : other.Lists y.distinct) :
    (first.mergeAssets other).Lists (x.unionOf y) := by
  have hunited (a b : List String) :
      ((OrderedSet.ofList (texts a)).insertMany (texts (OrderedSet.ofList b).toList)).toList =
        texts (Stencil.unionOf a b) := by
    rw [OrderedSet.toList_ofList, ofList_texts, insertMany_texts ⟨a.eraseDups⟩, insertMany_eq_unionOf,
      unionOf_eraseDups_right]
  constructor
  · change ((OrderedSet.ofList first.css).insertMany other.css).toList = _
    rw [hx.css, hy.css]
    exact hunited x.css y.css
  · change ((OrderedSet.ofList first.js).insertMany other.js).toList = _
    rw [hx.js, hy.js]
    exact hunited x.js y.js

theorem merge_configs {k l : Nat} {first second : ViewConfig} (hreads : m.Reads)
    (hk : w.at' k = .config first) (hl : w.at' l = .config second) (hx : first.Lists x)
    (hy : second.Lists y) (hcss : y.css.length < m.rounds) (hjs : y.js.length < m.rounds) :
    ∃ n merged u, callMethod m (.ref k) "merge_assets" { items := [.ref l] } w = .ok (.ref n) u ∧
      u.at' n = .config merged ∧ merged.Lists (x.unionOf y) ∧ w.ChangesOnly [] u := by
  obtain ⟨deeper, hreads⟩ := hreads
  have readCss : m.attributeOf (.ref l) "css" w = .ok (.tuple second.css) w := by
    rw [hreads, readAttribute_data hl (by simp) (by simp [IsPlainName]) rfl]
  have readJs : m.attributeOf (.ref l) "js" w = .ok (.tuple second.js) w := by
    rw [hreads, readAttribute_data hl (by simp) (by simp [IsPlainName]) rfl]
  obtain ⟨u, hu, hwu⟩ := references_texts hcss w
  obtain ⟨v, hv, huv⟩ := references_texts hjs u
  rw [← OrderedSet.toList_ofList] at hu hv
  let merged := first.mergeAssets { css := texts y.distinct.css, js := texts y.distinct.js }
  refine ⟨v.objects.size, merged, v.push (.config merged), ?_, World.at'_push_size _ _,
    mergeAssets_lists hx ⟨rfl, rfl⟩, (hwu.trans huv).trans (.push _ _ _)⟩
  refine (bind_of_ok (load_ok w k)).trans ?_
  rw [hk]
  dsimp only
  rw [if_neg (by decide)]
  unfold objectMethod
  rw [bind_of_ok (w.typeName_eq (.ref k))]
  refine (bind_of_ok (matched_eq rfl rfl w)).trans ?_
  rw [← hy.css] at hu
  rw [← hy.js] at hv
  refine (bind_of_ok readCss).trans ((bind_of_ok readJs).trans ?_)
  exact (bind_of_ok hu).trans ((bind_of_ok hv).trans rfl)

theorem bundle_of_config {n : Nat} {config : ViewConfig} (hn : w.at' n = .config config)
    (hx : config.Lists x) (hcss : x.css.length < m.rounds) (hjs : x.js.length < m.rounds) :
    ∃ o c j u, callMethod m (.ref n) "bundle" {} w = .ok (.ref o) u ∧ u.BundleOf o c j x.distinct ∧
      w.ChangesOnly [] u := by
  obtain ⟨c, u, hu, huc, -, hwu⟩ := make_sequence .stylesheet (.tuple x.css) hcss
  obtain ⟨j, v, hv, hvj, -, huv⟩ := make_sequence .script (.tuple x.js) hjs
  have hc : c < u.objects.size := World.lt_size_of_at' huc (by rintro ⟨⟩)
  have hj : j < v.objects.size := World.lt_size_of_at' hvj (by rintro ⟨⟩)
  refine ⟨v.objects.size, c, j, v.push (.bundle c j), ?_, ⟨World.at'_push_size _ _, ?_, ?_⟩,
    (hwu.trans huv).trans (.push _ _ _)⟩
  · rw [← hx.css] at hu
    rw [← hx.js] at hv
    have hmake : Bundle.make m (.tuple config.css) (.tuple config.js) w =
        .ok v.objects.size (v.push (.bundle c j)) := (bind_of_ok hu).trans ((bind_of_ok hv).trans rfl)
    refine (bind_of_ok (load_ok w n)).trans ?_
    rw [hn]
    dsimp only
    rw [if_neg (by decide)]
    unfold objectMethod
    rw [bind_of_ok (w.typeName_eq (.ref n))]
    refine (bind_of_ok (matched_eq rfl rfl w)).trans ?_
    exact bind_of_ok hmake
  · rw [World.at'_push_of_lt (Nat.lt_of_lt_of_le hc huv.size), huv.same c hc (by simp), huc,
      ← OrderedSet.toList_ofList]
    rfl
  · rw [World.at'_push_of_lt hj, hvj, ← OrderedSet.toList_ofList]
    rfl

theorem length_unionOf_le (a b : List String) : (unionOf a b).length ≤ a.length + b.length := by
  have hinsert (s : OrderedSet String) (refs : List String) :
      (s.insertMany refs).toList.length ≤ s.toList.length + refs.length := by
    induction refs generalizing s with
    | nil => exact Nat.le_refl _
    | cons r refs ih =>
      have hone : (s.insert r).toList.length ≤ s.toList.length + 1 := by
        unfold OrderedSet.insert
        split
        · omega
        · simp
      have hrest := ih (s.insert r)
      rw [OrderedSet.insertMany_cons, List.length_cons]
      omega
  have hall := hinsert {} (a ++ b)
  rw [unionOf_eq, ← List.length_append]
  simpa [OrderedSet.ofList, OrderedSet.empty] using hall

theorem distinct_unionOf (x y : References) : (x.unionOf y).distinct = x.unionOf y := by
  rw [References.unionOf_eq_distinct]
  exact congrArg₂ References.mk (congrArg _ (ofList_toList_ofList _)) (congrArg _ (ofList_toList_ofList _))

/-- The bundle of merged configurations holds the union. -/
theorem merged_bundle {k l : Nat} {first second : ViewConfig} (hreads : m.Reads)
    (hk : w.at' k = .config first) (hl : w.at' l = .config second) (hx : first.Lists x)
    (hy : second.Lists y) (hcss : x.css.length + y.css.length < m.rounds)
    (hjs : x.js.length + y.js.length < m.rounds) :
    ∃ n o c j u v, callMethod m (.ref k) "merge_assets" { items := [.ref l] } w = .ok (.ref n) u ∧
      callMethod m (.ref n) "bundle" {} u = .ok (.ref o) v ∧
      v.BundleOf o c j (x.unionOf y) ∧ w.ChangesOnly [] v := by
  obtain ⟨n, merged, u, hu, hun, hmerged, hwu⟩ :=
    merge_configs hreads hk hl hx hy (by omega) (by omega)
  have hcss' := length_unionOf_le x.css y.css
  have hjs' := length_unionOf_le x.js y.js
  obtain ⟨o, c, j, v, hv, hvo, huv⟩ := bundle_of_config (m := m) hun hmerged
    (Nat.lt_of_le_of_lt hcss' hcss) (Nat.lt_of_le_of_lt hjs' hjs)
  rw [distinct_unionOf] at hvo
  exact ⟨n, o, c, j, u, v, hu, hv, hvo, hwu.trans huv⟩

end

/-! ## Runs -/

/-- An operation on sets of references. Where one takes a sequence, the references in it are noted. -/
inductive SetOperation where
  | make (kind : AssetKind) (v : Value) (refs : List String)
  | add (r : Ref) (x : String)
  | discard (r : Ref) (x : String)
  /-- An update under one of its two names. -/
  | update (name : String) (r : Ref) (v : Value) (refs : List String)
  | unite (r : Ref) (v : Value) (refs : List String)
  | copy (r : Ref)

/-- What has happened to each of the sets that a run has made. -/
abbrev Journal := Ref → Option (List (OrderedSet.Event String))

namespace Journal

/-- More has happened to a set. -/
def append (J : Journal) (r : Ref) (events : List (OrderedSet.Event String)) : Journal :=
  fun s => if s = r then (J r).map (· ++ events) else J s

/-- A new set has been filled. -/
def begin (J : Journal) (v : Value) (refs : List String) : Journal :=
  fun s => if refOf v = s then some (refs.map .inserted) else J s

end Journal

/-- The references in a set. -/
def World.referencesIn (w : World) (r : Ref) : List String :=
  match w.at' r with
  | .assets _ refs => refs.toList.filterMap (·.text?)
  | _ => []

namespace SetOperation

/-- Perform an operation by the program. -/
def perform (m : Interpreter) : SetOperation → Action Value
  | make kind v _ => construct m (.assets kind) { items := [v] }
  | add r x => callMethod m (.ref r) "add" { items := [.str x] }
  | discard r x => callMethod m (.ref r) "discard" { items := [.str x] }
  | update name r v _ => callMethod m (.ref r) name { items := [v] }
  | unite r v _ => Stencil.unite m (.ref r) v
  | copy r => callMethod m (.ref r) "copy" {}

/-- An operation can be performed on the sets of a run. -/
def Fits (m : Interpreter) (w : World) (J : Journal) : SetOperation → Prop
  | make _ v refs => w.Sequence v refs ∧ refs.length < m.rounds
  | add r _ | discard r _ | copy r => (J r).isSome
  | update name r v refs =>
    name ∈ updating ∧ (J r).isSome ∧ w.Sequence v refs ∧ refs.length < m.rounds
  | unite r v refs => (J r).isSome ∧ w.Sequence v refs ∧ refs.length < m.rounds

/-- What is noted of an operation that gives a value. -/
def note (w : World) (J : Journal) (op : SetOperation) (v : Value) : Journal :=
  match op with
  | make _ _ refs => J.begin v refs
  | add r x => J.append r [.inserted x]
  | discard r x => J.append r [.discarded x]
  | update _ r _ refs => J.append r (refs.map .inserted)
  | unite r _ refs => J.begin v (w.referencesIn r ++ refs)
  | copy r => J.begin v (w.referencesIn r)

end SetOperation

/-- Operations one after another, from a world on. -/
inductive SetRun (m : Interpreter) (w₀ : World) : World → Journal → Prop
  | start : SetRun m w₀ w₀ fun _ => none
  | step {w u : World} {J : Journal} {op : SetOperation} {v : Value} (hrun : SetRun m w₀ w J)
      (hfits : op.Fits m w J) (h : op.perform m w = .ok v u) : SetRun m w₀ u (op.note w J v)

/-- The sets of a run hold what has happened to them. -/
def Journal.Kept (J : Journal) (w : World) : Prop :=
  ∀ r events, J r = some events → w.Holds r (OrderedSet.replay events).toList

section

variable {m : Interpreter} {w u : World} {J : Journal} {r : Nat}
  {events : List (OrderedSet.Event String)} {refs : List String}

theorem World.Holds.referencesIn (hr : w.Holds r refs) : w.referencesIn r = refs := by
  obtain ⟨kind, hr⟩ := hr
  have htexts : (texts refs).filterMap (·.text?) = refs := by
    rw [texts, List.filterMap_map]
    exact List.filterMap_some
  rw [World.referencesIn, hr]
  exact htexts

theorem Journal.Kept.exists_holds (h : J.Kept w) (hr : (J r).isSome) :
    ∃ events, J r = some events ∧ w.Holds r (OrderedSet.replay events).toList := by
  obtain ⟨events, hr⟩ := Option.isSome_iff_exists.1 hr
  exact ⟨events, hr, h r events hr⟩

/-- A change of one set leaves the others as they are. -/
theorem Journal.Kept.append (h : J.Kept w) (hr : J r = some events) {more : List (OrderedSet.Event String)}
    (hu : u.Holds r (OrderedSet.replay (events ++ more)).toList) (hchanges : w.ChangesOnly [r] u) :
    (J.append r more).Kept u := by
  intro s es hs
  unfold Journal.append at hs
  split at hs
  · rename_i hsr
    subst hsr
    rw [hr] at hs
    obtain rfl := Option.some.inj hs
    exact hu
  · rename_i hsr
    have hold := h s es hs
    exact hold.congr (hchanges.same s hold.lt_size (by simpa using hsr))

/-- A new set leaves the others as they are. -/
theorem Journal.Kept.begin (h : J.Kept w) (hu : u.Holds r (OrderedSet.ofList refs).toList)
    (hchanges : w.ChangesOnly [] u) : (J.begin (.ref r) refs).Kept u := by
  intro s es hs
  unfold Journal.begin at hs
  split at hs
  · rename_i hsr
    obtain rfl : r = s := hsr
    obtain rfl := Option.some.inj hs
    rw [OrderedSet.replay_inserted]
    exact hu
  · have hold := h s es hs
    exact hold.congr (hchanges.same s hold.lt_size (by simp))

/-- Every operation that fits can be performed, and what it does is noted. -/
theorem exists_perform (h : J.Kept w) {op : SetOperation} (hfits : op.Fits m w J) :
    ∃ v u, op.perform m w = .ok v u ∧ (op.note w J v).Kept u := by
  cases op with
  | make kind v refs =>
    obtain ⟨hv, hm⟩ := hfits
    obtain ⟨s, u, hu, hs, -, hchanges⟩ := make_sequence kind hv hm
    rw [← OrderedSet.toList_ofList] at hs
    exact ⟨.ref s, u, construct_assets hu, h.begin ⟨kind, hs⟩ hchanges⟩
  | add r x =>
    obtain ⟨events, hr, kind, hw⟩ := h.exists_holds hfits
    refine ⟨_, _, callMethod_add hw x, h.append hr ⟨kind, ?_⟩ (.put (by simp) _ _)⟩
    rw [World.at'_put_assets hw, OrderedSet.replay_concat]
    rfl
  | discard r x =>
    obtain ⟨events, hr, kind, hw⟩ := h.exists_holds hfits
    refine ⟨_, _, callMethod_discard hw x, h.append hr ⟨kind, ?_⟩ (.put (by simp) _ _)⟩
    rw [World.at'_put_assets hw, OrderedSet.replay_concat]
    rfl
  | update name r v refs =>
    obtain ⟨hname, hfits, hv, hm⟩ := hfits
    obtain ⟨events, hr, kind, hw⟩ := h.exists_holds hfits
    obtain ⟨u, hu, hur, hchanges⟩ := callMethod_update hname hw hv hm
    refine ⟨_, u, hu, h.append hr ⟨kind, ?_⟩ hchanges⟩
    rw [hur, OrderedSet.replay_append_inserted]
  | unite r v refs =>
    obtain ⟨hfits, hv, hm⟩ := hfits
    obtain ⟨events, hr, kind, hw⟩ := h.exists_holds hfits
    obtain ⟨s, u, hu, hs, -, hchanges⟩ := unite_sequence hw hv hm
    rw [unionOf_eq, ← World.Holds.referencesIn ⟨kind, hw⟩] at hs
    exact ⟨.ref s, u, hu, h.begin ⟨kind, hs⟩ hchanges⟩
  | copy r =>
    obtain ⟨events, hr, kind, hw⟩ := h.exists_holds hfits
    have hsame : OrderedSet.ofList (w.referencesIn r) = OrderedSet.replay events := by
      rw [World.Holds.referencesIn ⟨kind, hw⟩]
      exact OrderedSet.ofList_of_nodup (OrderedSet.inOrderOf_replay events).distinct
    refine ⟨_, _, callMethod_copy hw, h.begin ⟨kind, ?_⟩ (.push _ _ _)⟩
    rw [World.at'_push_size, hsame]

theorem SetRun.kept {w₀ : World} (h : SetRun m w₀ w J) : J.Kept w := by
  induction h with
  | start =>
    intro r events hr
    cases hr
  | step hrun hfits hperform ih =>
    obtain ⟨v, u, hu, hkept⟩ := exists_perform ih hfits
    rw [hperform] at hu
    cases hu
    exact hkept

end

/-! ## The ways to unite references -/

/-- The operator and the update of a copy give the union of the references in a set and those of a
sequence, and leave what there was as it is. -/
structure UnitesSets (m : Interpreter) (w : World) (r : Ref) (kind : AssetKind) (v : Value)
    (refs : List String) : Prop where
  operator : ∃ s u, unite m (.ref r) v w = .ok (.ref s) u ∧ u.at' s = .assets kind ⟨texts refs⟩ ∧
    w.ChangesOnly [] u
  updated : ∀ name ∈ updating, ∃ s u x, callMethod m (.ref r) "copy" {} w = .ok (.ref s) u ∧
    callMethod m (.ref s) name { items := [v] } u = .ok (.ref s) x ∧
    x.at' s = .assets kind ⟨texts refs⟩ ∧ w.ChangesOnly [] x

/-- A bundle that another one is registered in holds the union, and nothing but its sets has changed. -/
def UnitesBundles (m : Interpreter) (w : World) (o p css js : Ref) (refs : References) : Prop :=
  ∃ u, callMethod m (.ref o) "register" { items := [.ref p] } w = .ok (.ref o) u ∧
    u.BundleOf o css js refs ∧ w.ChangesOnly [css, js] u

/-- A bundle of merged configurations holds the union, and what there was is as it was. -/
def UnitesConfigs (m : Interpreter) (w : World) (k l : Ref) (refs : References) : Prop :=
  ∃ n o css js u v, callMethod m (.ref k) "merge_assets" { items := [.ref l] } w = .ok (.ref n) u ∧
    callMethod m (.ref n) "bundle" {} u = .ok (.ref o) v ∧ v.BundleOf o css js refs ∧
    w.ChangesOnly [] v

/-- All ways to unite references give one ordered union, which is associative, absorbs what it holds
already and leaves its operands alone, and the references in a set stand in the order of the earliest
insertion of each since it was last discarded. -/
theorem references_united_in_order :
    (∀ (m : Interpreter) (w : World) (kind : AssetKind) (v : Value) (a : List String),
      w.Sequence v a → a.length < m.rounds →
        ∃ s u, construct m (.assets kind) { items := [v] } w = .ok (.ref s) u ∧
          u.at' s = .assets kind ⟨texts a.eraseDups⟩ ∧ w.ChangesOnly [] u) ∧
    (∀ (m : Interpreter) (w : World) (r : Ref) (kind : AssetKind) (v : Value) (a b : List String),
      w.at' r = .assets kind ⟨texts a.eraseDups⟩ → w.Sequence v b → b.length < m.rounds →
        UnitesSets m w r kind v (unionOf a b)) ∧
    (∀ (m : Interpreter) (w : World) (o p c j c' j' : Ref) (x y : References), m.Reads →
      w.BundleOf o c j x.distinct → w.BundleOf p c' j' y.distinct →
      y.distinct.css.length < m.rounds → y.distinct.js.length < m.rounds →
        UnitesBundles m w o p c j (x.unionOf y)) ∧
    (∀ (m : Interpreter) (w : World) (k l : Ref) (first second : ViewConfig) (x y : References),
      m.Reads → w.at' k = .config first → w.at' l = .config second → first.Lists x → second.Lists y →
      x.css.length + y.css.length < m.rounds → x.js.length + y.js.length < m.rounds →
        UnitesConfigs m w k l (x.unionOf y)) ∧
    (∀ a b c, unionOf (unionOf a b) c = unionOf a (unionOf b c)) ∧
    (∀ a, unionOf a a = a.eraseDups) ∧
    (∀ a b, unionOf (unionOf a b) a = unionOf a b) ∧
    (∀ (m : Interpreter) (w₀ w : World) (J : Journal), SetRun m w₀ w J →
      (∀ r events, J r = some events → ∃ kind refs,
        w.at' r = .assets kind ⟨texts refs⟩ ∧ OrderedSet.InOrderOf refs events) ∧
      ∀ op : SetOperation, op.Fits m w J → ∃ v u, op.perform m w = .ok v u) := by
  refine ⟨?_, ?_, ?_, ?_, unionOf_assoc, unionOf_self, unionOf_absorb, ?_⟩
  · intro m w kind v a hv hm
    obtain ⟨s, u, hu, hs, -, hchanges⟩ := make_sequence kind hv hm
    exact ⟨s, u, construct_assets hu, hs, hchanges⟩
  · intro m w r kind v a b hr hv hm
    constructor
    · obtain ⟨s, u, hu, hs, -, hchanges⟩ := unite_sequence hr hv hm
      rw [unionOf_eraseDups_left] at hs
      exact ⟨s, u, hu, hs, hchanges⟩
    · intro name hname
      exact update_copy hname hr hv hm
  · intro m w o p c j c' j' x y hreads ho hp hcss hjs
    exact register_unites hreads ho hp hcss hjs
  · intro m w k l first second x y hreads hk hl hx hy hcss hjs
    exact merged_bundle hreads hk hl hx hy hcss hjs
  · intro m w₀ w J hrun
    have hkept := hrun.kept
    constructor
    · intro r events hr
      obtain ⟨kind, hw⟩ := hkept r events hr
      exact ⟨kind, _, hw, OrderedSet.inOrderOf_replay events⟩
    · intro op hfits
      obtain ⟨v, u, hu, -⟩ := exists_perform hkept hfits
      exact ⟨v, u, hu⟩

/-- A set, two bundles and two configurations. -/
def unitedWorld : World where
  objects := #[.assets .plain ⟨texts ["b", "a"]⟩,
    .assets .stylesheet ⟨texts ["x.css"]⟩, .assets .script ⟨[]⟩, .bundle 1 2,
    .assets .stylesheet ⟨texts ["y.css", "x.css"]⟩, .assets .script ⟨texts ["y.js"]⟩, .bundle 4 5,
    .config { css := texts ["x.css"] },
    .config { css := texts ["y.css", "x.css", "y.css"], js := texts ["y.js"] }]

theorem united_sample :
    UnitesSets machine unitedWorld 0 .plain (.tuple (texts ["c", "b", "c"])) ["b", "a", "c"] ∧
    UnitesBundles machine unitedWorld 3 6 1 2 ⟨["x.css", "y.css"], ["y.js"]⟩ ∧
    UnitesConfigs machine unitedWorld 7 8 ⟨["x.css", "y.css"], ["y.js"]⟩ ∧
    ∃ (s : Ref) (u : World) (J : Journal), SetRun machine unitedWorld u J ∧
      ∃ kind refs, u.at' s = .assets kind ⟨texts refs⟩ ∧
        OrderedSet.InOrderOf refs (["b", "a", "b"].map .inserted) := by
  obtain ⟨hmake, hsets, hbundles, hconfigs, -, -, -, hruns⟩ := references_united_in_order
  have hreads : machine.Reads := interpreter_reads 5999
  have hsequence : unitedWorld.Sequence (.tuple (texts ["b", "a", "b"])) ["b", "a", "b"] := .tuple _
  refine ⟨?_, ?_, ?_, ?_⟩
  · exact hsets machine unitedWorld 0 .plain _ ["b", "a"] ["c", "b", "c"] rfl (.tuple _) (by decide)
  · exact hbundles machine unitedWorld 3 6 1 2 4 5 ⟨["x.css"], []⟩ ⟨["y.css", "x.css"], ["y.js"]⟩ hreads
      ⟨rfl, rfl, rfl⟩ ⟨rfl, rfl, rfl⟩ (by decide) (by decide)
  · exact hconfigs machine unitedWorld 7 8 _ _ ⟨["x.css"], []⟩ ⟨["y.css", "x.css", "y.css"], ["y.js"]⟩
      hreads rfl rfl ⟨rfl, rfl⟩ ⟨rfl, rfl⟩ (by decide) (by decide)
  · obtain ⟨s, u, hu, -, -⟩ := hmake machine unitedWorld .plain _ _ hsequence (by decide)
    have hfits : (SetOperation.make .plain (.tuple (texts ["b", "a", "b"])) ["b", "a", "b"]).Fits machine
        unitedWorld (fun _ => none) := ⟨hsequence, by decide⟩
    have hrun := SetRun.step .start hfits hu
    refine ⟨s, u, _, hrun, (hruns machine unitedWorld u _ hrun).1 s _ ?_⟩
    exact if_pos rfl

end Stencil
