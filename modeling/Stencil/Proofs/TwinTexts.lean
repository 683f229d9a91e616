import Stencil.Proofs.LiteralText
import Stencil.Proofs.TwinRenders

/-!
# Text in twins

A template without directives writes its text and reads nothing. So its run comes to the same in twins, and
so does the resolution of its fragment when nothing has been deferred.
-/

namespace Stencil

open World Evaluation Script

/-- A view with the method of its class that sees each value before it is written. -/
def World.HooksItself (w : World) (v : Ref) : Prop :=
  ∃ cls, w.classOf? v = some cls ∧ (w.classAt' cls).kind = .view ∧
    w.classValue cls "hook" = some (.member "hook") ∧ w.own? v "hook" = none

section

variable {α β : Type} {n : Nat} {c v k : Nat} {w w' u : World}

theorem Sees.map {x : Action α} {a : α} (h : Sees c x a w) (f : α → β) : Sees c (f <$> x) (f a) w := by
  rw [map_eq_pure_bind]
  exact h.bind ⟨rfl, fun _ _ => rfl⟩

theorem World.Twin.hooksItself (h : w.Twin c w') (hh : w.HooksItself v) : w'.HooksItself v := by
  obtain ⟨cls, hcls, hkind, hclass, hown⟩ := hh
  refine ⟨cls, h.classOf? hcls, ?_, ?_, (h.own? v _).trans hown⟩
  · rwa [World.classAt', h.classes]
  · rwa [World.classValue_congr h.classes]

theorem World.Advances.hooksItself (h : w.Advances v u) (hh : w.HooksItself v) : u.HooksItself v := by
  obtain ⟨cls, hcls, hkind, hclass, hown⟩ := hh
  refine ⟨cls, h.classOf.trans hcls, ?_, ?_, (h.own _ (by simp [progressNames])).trans hown⟩
  · rwa [World.classAt', h.classes]
  · rwa [World.classValue_congr h.classes]

/-! ## Running text -/

theorem sees_asContext (hh : w.HooksItself v) : Sees c (asContext (.ref v)) (.ref v) w := by
  have hread {w : World} (hh : w.HooksItself v) : asContext (.ref v) w = .ok (.ref v) w := by
    obtain ⟨cls, hcls, -⟩ := hh
    obtain ⟨attrs, hat⟩ := World.classOf?_eq_some hcls
    have htable : table? (.ref v) w = .ok none w := by
      refine (bind_of_ok (object?_ref w v)).trans ?_
      rw [hat]
      rfl
    exact bind_of_ok htable
  exact ⟨hread hh, fun w' h => hread (h.hooksItself hh)⟩

theorem sees_hasHook (hh : w.HooksItself v) : Sees c (hasHook (.ref v)) true w := by
  have hread {w : World} (hh : w.HooksItself v) : hasHook (.ref v) w = .ok true w := by
    obtain ⟨cls, hcls, hkind, -⟩ := hh
    obtain ⟨attrs, hat⟩ := World.classOf?_eq_some hcls
    refine (bind_of_ok (object?_ref w v)).trans ?_
    rw [hat]
    refine (bind_of_ok (classAt_ok w cls)).trans ?_
    rw [hkind]
    rfl
  exact ⟨hread hh, fun w' h => hread (h.hooksItself hh)⟩

theorem sees_hook (hh : w.HooksItself v) :
    Sees c ((interpreter (n + 1)).attributeOf (.ref v) "hook") (.method (.ref v) "hook") w := by
  have hread {w : World} (hh : w.HooksItself v) :
      (interpreter (n + 1)).attributeOf (.ref v) "hook" w = .ok (.method (.ref v) "hook") w := by
    obtain ⟨cls, hcls, hkind, hclass, hown⟩ := hh
    obtain ⟨attrs, hat⟩ := World.classOf?_eq_some hcls
    rw [World.own?_eq hat] at hown
    rw [attributeOf_class hat (by simp [IsPlainName]) hclass (by simp) hown]
    rfl
  exact ⟨hread hh, fun w' h => hread (h.hooksItself hh)⟩

/-- The run of a template begins with a fragment that text is written to. -/
theorem startRun_steady (hh : w.HooksItself v) (t : Template) (p : Ref) (inner : Value) :
    Steady c (Template.startRun (interpreter (n + 1)) t (.ref v) (some p) inner []) w fun x u =>
      u.WritesTo x.globals x.fragment #[] ∧ w.objects.size ≤ x.fragment ∧ w.ChangesOnly [] u := by
  have hclass := hh
  obtain ⟨cls, hcls, -⟩ := hclass
  have hh₁ : (w.push (.fragment #[])).HooksItself v :=
    (World.Advances.of_refills (.push w _) hcls).hooksItself hh
  refine .next (sees_asContext hh) (.next (a := p) ⟨rfl, fun _ _ => rfl⟩ ?_)
  refine (Steady.alloc (P := fun f u => f = w.objects.size ∧ u = w.push (.fragment #[])) ⟨rfl, rfl⟩).bind
    fun f w₁ hout => ?_
  obtain ⟨hf, hw₁⟩ := hout
  subst hf hw₁
  refine .next (sees_hasHook hh₁) ?_
  refine .next ((sees_hook hh₁).map some) ?_
  refine (Steady.alloc (P := fun g u => g = w.objects.size + 1 ∧
    u = (w.push (.fragment #[])).push (.globals {})) ⟨by simp, rfl⟩).bind fun g w₂ hout => ?_
  obtain ⟨hg, hw₂⟩ := hout
  subst hg
  refine (Steady.alloc (P := fun _ u => ∃ x, u = w₂.push (.run x)) ⟨_, rfl⟩).bind
    fun run w₃ hout => ?_
  obtain ⟨x, hw₃⟩ := hout
  have hsize : w₂.objects.size = w.objects.size + 2 := by simp [hw₂]
  have hglobals : w₃.at' (w.objects.size + 1) = .globals {} := by
    have hat := World.at'_push_size (w.push (.fragment #[])) (.globals {})
    rw [World.size_push] at hat
    rw [hw₃, World.at'_push_of_lt (by omega), hw₂, hat]
  have hfragment : w₃.at' w.objects.size = .fragment #[] := by
    rw [hw₃, World.at'_push_of_lt (by omega), hw₂, World.at'_push_of_lt (by simp), World.at'_push_size]
  have hchanges : w.ChangesOnly [] w₃ := by
    rw [hw₃, hw₂]
    exact (World.ChangesOnly.push _ w _).trans ((World.ChangesOnly.push _ _ _).trans (.push _ _ _))
  have hlt : w.objects.size + 1 < w₃.objects.size := by simp [hw₃, hsize]
  refine (Steady.store hglobals (by rintro k ⟨⟩) (P := fun _ u => ∃ n : Namespace,
    named? n.values "_tpl_write" = some (.method (.ref w.objects.size) "append") ∧
      u = w₃.put (w.objects.size + 1) (.globals n)) ⟨_, ?_, rfl⟩).bind fun _ u hout => ?_
  · simp [named?_setNamed]
  · obtain ⟨names, hnames, hu⟩ := hout
    subst hu
    refine .pure ⟨⟨?_, names, ?_, hnames⟩, Nat.le_refl _, ?_⟩
    · rw [World.at'_put_of_ne (Nat.ne_of_lt (Nat.lt_succ_self _)), hfragment]
    · exact World.at'_put_self hlt hglobals rfl
    · have hput : w.ChangesOnly [w.objects.size + 1] (w₃.put (w.objects.size + 1) (.globals names)) :=
        (hchanges.mono (by simp)).trans (.put (List.mem_singleton.2 rfl) _ _)
      exact hput.forget (Nat.le_succ _)

theorem World.Twin.writesTo {g f : Nat} {cs : Array Value} (h : w.Twin c w') (hw : w.WritesTo g f cs) :
    w'.WritesTo g f cs := by
  obtain ⟨hfragment, names, hnames, hwrite⟩ := hw
  exact ⟨h.at'_eq hfragment (by rintro k ⟨⟩), names, h.at'_eq hnames (by rintro k ⟨⟩), hwrite⟩

/-- Statements that write texts add them to a fragment, in twins as well. -/
theorem writingStmts_steady {g f : Nat} {cs : Array Value} (texts : List String) (line : Nat)
    (hw : w.WritesTo g f cs) :
    Steady c (executeBlock (interpreter (n + 3)) { globals := g } (writingStmts line texts)) w
      fun flow u => flow = Flow.next ∧ u.WritesTo g f (cs ++ (texts.map Value.str).toArray) ∧
        w.ChangesOnly [f] u := by
  induction texts generalizing w cs line with
  | nil => exact .pure ⟨rfl, by simpa using hw, .refl _ _⟩
  | cons s texts ih =>
    have hstmt : Steady c (executeStmt (interpreter (n + 3)) { globals := g } (writingStmt line s)) w
        fun flow u => flow = Flow.next ∧ u = w.put f (.fragment (cs.push (.str s))) := by
      have hwrites := executeStmt_writingStmt n line s hw
      refine ⟨fun w' h => ?_, fun flow u hu => ?_⟩
      · rw [hwrites, executeStmt_writingStmt n line s (h.writesTo hw)]
        exact .ok Flow.next (h.put (h.ne_of_at' hw.fragment (by rintro k ⟨⟩)) _)
      · rw [hwrites] at hu
        cases hu
        exact ⟨rfl, rfl⟩
    refine hstmt.bind fun flow u hout => ?_
    obtain ⟨hflow, hu⟩ := hout
    subst hflow hu
    refine (ih (line + 1) (hw.put (cs.push (.str s)))).mono fun flow u hout => ?_
    obtain ⟨hflow, hwrites, hchanges⟩ := hout
    refine ⟨hflow, ?_, .trans (.put (List.mem_singleton.2 rfl) _ _) hchanges⟩
    simpa using hwrites

/-- A template of text writes its text and reads nothing. -/
theorem execute_text_steady {t : Template} {texts : List String} (hh : w.HooksItself v)
    (ht : t.script = writingStmts 1 texts) (p : Ref) (inner : Value) :
    Steady c (Template.execute (interpreter (n + 4)) t (.ref v) (some p) inner []) w fun f u =>
      u.at' f = .fragment (texts.map Value.str).toArray ∧ w.ChangesOnly [] u := by
  refine (startRun_steady (n := n + 3) hh t p inner).bind fun x u₁ hout => ?_
  obtain ⟨hwrites, hnew, hchanges⟩ := hout
  have hblock {w : World} (hw : w.WritesTo x.globals x.fragment #[]) :
      wrapping (interpreter (n + 4)) t.name t.blamed
          ((interpreter (n + 4)).execute { globals := x.globals } t.script) w =
        executeBlock (interpreter (n + 3)) { globals := x.globals } (writingStmts 1 texts) w := by
    obtain ⟨u, hu, -⟩ := executeBlock_writingStmts n texts 1 hw
    have hscript : (interpreter (n + 4)).execute { globals := x.globals } t.script w = .ok .next u := by
      rw [ht]
      exact hu
    rw [hu]
    exact bind_of_ok (attempt_of_ok hscript)
  have hruns := (writingStmts_steady (n := n) (c := c) texts 1 hwrites).congr (hblock hwrites)
    fun w' h => hblock (h.writesTo hwrites)
  refine hruns.bind fun _ u₂ hout => ?_
  obtain ⟨_, hwrites₂, hchanges₂⟩ := hout
  refine .pure ⟨?_, ?_⟩
  · simpa using hwrites₂.fragment
  · have hall : w.ChangesOnly [x.fragment] u₂ := (hchanges.mono (by simp)).trans hchanges₂
    exact hall.forget hnew

/-- A fragment of text with nothing deferred is joined into the text. -/
theorem resolve_text_sees {p f : Nat} {texts : List String} {m : Interpreter} (hp : w.at' p = .pass #[])
    (hf : w.at' f = .fragment (texts.map Value.str).toArray) :
    Sees c (RenderPass.resolve m p f) (String.join texts) w := by
  have hread {w : World} (hp : w.at' p = .pass #[]) (hf : w.at' f = .fragment (texts.map Value.str).toArray) :
      RenderPass.resolve m p f w = .ok (String.join texts) w := by
    have hload : load p w = .ok (.pass #[]) w := by rw [load_ok, hp]
    have hbindings : RenderPass.bindings p w = .ok #[] w := bind_of_ok hload
    exact (bind_of_ok hbindings).trans (join_texts hf)
  exact ⟨hread hp hf, fun w' h => hread (h.at'_eq hp (by rintro k ⟨⟩)) (h.at'_eq hf (by rintro k ⟨⟩))⟩

end

end Stencil
