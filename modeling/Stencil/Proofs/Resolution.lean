import Stencil.Proofs.Evolution.Interpreter
import Stencil.Proofs.Footprint
import Stencil.Proofs.Lookup

/-!
# Resolving deferred expressions

The deferred expressions of a pass have their turns in the order in which they were created, also those
that are created meanwhile. An expression that is pending when its turn comes has a value afterwards,
and keeps it, so a fragment that is joined at the end shows that value wherever the expression stands.
-/

namespace Stencil

open World Evaluation

namespace World

variable {w u : World} {r : Nat}

theorem lt_size_of_binding {b : Binding} (h : w.at' r = .binding b) : r < w.objects.size := by
  refine Nat.lt_of_not_le fun hle => ?_
  rw [at'_of_size_le hle] at h
  cases h

theorem Evolves.binding {b : Binding} (h : w.Evolves u) (hb : w.at' r = .binding b) :
    ∃ c, u.at' r = .binding c ∧ b.Evolves c :=
  (h.objects r (lt_size_of_binding hb)).binding b hb

/-- An expression that has a value keeps it. -/
theorem Evolves.settled {b : Binding} (h : w.Evolves u) (hb : w.at' r = .binding b)
    (hr : b.resolved = true) : u.at' r = .binding b := by
  obtain ⟨c, hc, hbc⟩ := h.binding hb
  rw [hc, hbc.settled hr]

/-- The deferred expressions of a pass keep their places. -/
theorem Evolves.getElem?_bindings {i : Nat} {b : Ref} (h : w.Evolves u)
    (hb : (w.at' r).bindings[i]? = some b) : (u.at' r).bindings[i]? = some b := by
  have hlt : r < w.objects.size := by
    refine Nat.lt_of_not_le fun hle => ?_
    rw [at'_of_size_le hle] at hb
    cases hb
  obtain ⟨more, hmore⟩ := (h.objects r hlt).bindings
  rw [← hmore, List.getElem?_append_left (List.getElem?_eq_some_iff.1 hb).1, hb]

end World

namespace RenderPass

theorem bindings_eq (r : Ref) (w : World) :
    bindings r w = .ok (w.at' r).bindings.toArray w := by
  unfold bindings
  rw [bind_of_ok (load_ok w r)]
  cases w.at' r <;> rfl

/-- Turns of the deferred expressions of a pass, from an index and a world to others. -/
inductive Turns (m : Interpreter) (r : Ref) : Nat → World → Nat → World → Prop
  | none (i : Nat) (w : World) : Turns m r i w i w
  | next {i k : Nat} {w u x : World} {b : Ref} {v : Value} :
      (w.at' r).bindings[i]? = some b → Binding.evaluate m b w = .ok v u →
      Turns m r (i + 1) u k x → Turns m r i w k x

namespace Turns

variable {m : Interpreter} {r : Ref} {i j k : Nat} {w u x : World}

theorem le (h : Turns m r i w k x) : i ≤ k := by
  induction h with
  | none => exact Nat.le_refl _
  | next _ _ _ ih => omega

theorem trans (h : Turns m r i w j u) (h' : Turns m r j u k x) : Turns m r i w k x := by
  induction h with
  | none => exact h'
  | next hb he _ ih => exact .next hb he (ih h')

theorem evolves [m.Evolves] (h : Turns m r i w k x) : w.Evolves x := by
  induction h with
  | none => exact .refl _
  | next _ he _ ih => exact (Evolving.of_ok inferInstance he).trans ih

/-- There is one world in which an expression has its turn. -/
theorem unique (h : Turns m r i w k u) (h' : Turns m r i w k x) : u = x := by
  induction h with
  | none =>
    cases h' with
    | none => rfl
    | next _ _ h => have := h.le; omega
  | next hb he ht ih =>
    cases h' with
    | none => have := ht.le; omega
    | next hb' he' ht' =>
      cases hb.symm.trans hb'
      cases he.symm.trans he'
      exact ih ht'

/-- Turns can be stopped at any expression in between. -/
theorem split (h : Turns m r i w k x) (hi : i ≤ j) (hj : j ≤ k) :
    ∃ y, Turns m r i w j y ∧ Turns m r j y k x := by
  induction h with
  | none =>
    obtain rfl := Nat.le_antisymm hi hj
    exact ⟨_, .none _ _, .none _ _⟩
  | @next i k w u x b v hb he ht ih =>
    rcases Nat.eq_or_lt_of_le hi with rfl | hlt
    · exact ⟨w, .none _ _, .next hb he ht⟩
    · obtain ⟨y, hy, hk⟩ := ih hlt hj
      exact ⟨y, .next hb he hy, hk⟩

/-- Each expression in between has its turn. -/
theorem turn (h : Turns m r i w k x) (hi : i ≤ j) (hj : j < k) :
    ∃ y b v z, Turns m r i w j y ∧ (y.at' r).bindings[j]? = some b ∧
      Binding.evaluate m b y = .ok v z ∧ Turns m r (j + 1) z k x := by
  obtain ⟨y, hy, hk⟩ := h.split hi (Nat.le_of_lt hj)
  cases hk with
  | none => omega
  | next hb he ht => exact ⟨y, _, _, _, hy, hb, he, ht⟩

end Turns

variable {m : Interpreter} {r : Ref} {w u : World}

/-- The evaluation of a pass goes through all turns. -/
theorem evaluateFrom_eq_ok [m.Evolves] {y : Unit} (h : evaluateFrom m r w = .ok y u) :
    Turns m r 0 w (u.at' r).bindings.length u := by
  unfold evaluateFrom at h
  refine repeatUntil_eq_ok
    (fun i x => Turns m r 0 w i x ∧ i ≤ (x.at' r).bindings.length)
    (fun _ x => Turns m r 0 w (x.at' r).bindings.length x) ?_ ⟨.none 0 w, Nat.zero_le _⟩ h
  rintro i x next z ⟨hx, hi⟩ hstep
  rw [bind_of_ok (bindings_eq r x), List.getElem?_toArray] at hstep
  cases hb : (x.at' r).bindings[i]? with
  | none =>
    rw [hb] at hstep
    obtain ⟨rfl, rfl⟩ := pure_eq_ok.1 hstep
    have := List.getElem?_eq_none_iff.1 hb
    rwa [show (x.at' r).bindings.length = i by omega]
  | some b =>
    rw [hb] at hstep
    obtain ⟨v, _, hv, hstep⟩ := bind_eq_ok.1 hstep
    obtain ⟨rfl, rfl⟩ := pure_eq_ok.1 hstep
    have hz : x.Evolves _ := Evolving.of_ok inferInstance hv
    have := (List.getElem?_eq_some_iff.1 (hz.getElem?_bindings hb)).1
    exact ⟨hx.trans (.next hb hv (.none _ _)), this⟩

end RenderPass

namespace Binding

variable {m : Interpreter} {w u : World} {r : Nat} {b : Binding} {v : Value}

theorem wrapping_eq_ok {α : Type} {templateName : String} {segment : Raised → Segment}
    {x : Action α} {a : α} :
    wrapping m templateName segment x w = .ok a u ↔ x w = .ok a u := by
  unfold wrapping
  rw [bind_eq_ok]
  constructor
  · rintro ⟨r, w₁, hr, h⟩
    rcases attempt_eq_ok.1 hr with ⟨a, ha, rfl⟩ | ⟨e, -, rfl⟩
    · obtain ⟨rfl, rfl⟩ := pure_eq_ok.1 h
      exact ha
    · cases e with
      | exhausted => exact absurd h throw_eq_ok
      | raised r =>
        -- What was raised goes on, as it is or as a fault.
        obtain ⟨_, w₂, -, h⟩ := bind_eq_ok.1 h
        split at h
        · exact absurd h throw_eq_ok
        · obtain ⟨_, _, -, h⟩ := bind_eq_ok.1 h
          exact absurd h throw_eq_ok
  · intro h
    exact ⟨_, _, attempt_of_ok h, rfl⟩

/-- What a deferred expression shows in the place of a value. -/
def shown (m : Interpreter) (x : Value) : Action String :=
  match x with
  | .none => pure ""
  | x => m.text x

/-- An expression that is pending takes the text of what its code gives. -/
theorem evaluate_eq_ok (hb : w.at' r = .binding b) (hp : b.resolved = false)
    (h : evaluate m r w = .ok v u) :
    ∃ x w₁ s w₂, m.evaluate { globals := b.globals } b.code w = .ok x w₁ ∧
      shown m x w₁ = .ok s w₂ ∧ u = w₂.put r (.binding { b with value := some s, resolved := true }) := by
  unfold evaluate at h
  rw [bind_of_ok (load_ok w r), hb] at h
  simp only [hp, Bool.false_eq_true, if_false] at h
  obtain ⟨x, w₁, hx, h⟩ := bind_eq_ok.1 h
  have hs : ∃ s w₂, shown m x w₁ = .ok s w₂ ∧
      u = w₂.put r (.binding { b with value := some s, resolved := true }) := by
    unfold shown
    cases x <;>
    · obtain ⟨s, w₂, hs, h⟩ := bind_eq_ok.1 h
      obtain ⟨_, _, hstore, h⟩ := bind_eq_ok.1 h
      obtain ⟨-, rfl⟩ := pure_eq_ok.1 h
      exact ⟨s, w₂, hs, (store_eq_ok.1 hstore).symm⟩
  obtain ⟨s, w₂, hs, hu⟩ := hs
  exact ⟨x, w₁, s, w₂, wrapping_eq_ok.1 hx, hs, hu⟩

end Binding

namespace World

/-- The text that a chunk of a fragment shows. -/
def shows? (w : World) (chunk : Value) : Option String :=
  match chunk with
  | .ref r =>
    match w.at' r with
    | .binding b => b.value
    | _ => none
  | v => v.text?

end World

namespace Fragment

variable {w u : World} {r : Ref} {out : String}

theorem chunks_eq (r : Ref) (w : World) : chunks r w = .ok (w.at' r).chunks.toArray w := by
  unfold chunks
  rw [bind_of_ok (load_ok w r)]
  cases w.at' r <;> rfl

theorem checkResolved_eq_ok {c : Value} {y : Unit} (h : checkResolved c w = .ok y u) : w = u := by
  unfold checkResolved at h
  rw [bind_eq_ok] at h
  obtain ⟨o, v, ho, h⟩ := h
  obtain rfl := object?_eq_ok ho
  split at h
  · split at h
    · exact absurd h raiseFault_eq_ok
    · exact (pure_eq_ok.1 h).2
  · exact (pure_eq_ok.1 h).2

/-- What has no text leaves none to join. -/
theorem text_eq_ok {i : Nat} {v : Value} {s : String}
    (h : (match v.text? with
      | some s => pure s
      | none => do
        typeError ("sequence item " ++ Text.natText i ++ ": expected str instance, " ++
          (← typeName v) ++ " found") : Action String) w = .ok s u) :
    w = u ∧ v.text? = some s := by
  cases ht : v.text? with
  | none =>
    rw [ht, bind_eq_ok] at h
    obtain ⟨_, _, -, h⟩ := h
    exact absurd h typeError_eq_ok
  | some t =>
    rw [ht] at h
    obtain ⟨rfl, rfl⟩ := pure_eq_ok.1 h
    exact ⟨rfl, rfl⟩

theorem chunkText_eq_ok {i : Nat} {c : Value} {s : String} (h : chunkText i c w = .ok s u) :
    w = u ∧ w.shows? c = some s := by
  unfold chunkText at h
  by_cases hc : ∃ r, c = .ref r
  · obtain ⟨r, rfl⟩ := hc
    rw [bind_of_ok (object?_ref w r)] at h
    cases ho : w.at' r with
    | binding b =>
      rw [ho] at h
      obtain ⟨hu, ht⟩ := text_eq_ok (v := (b.value.map Value.str).getD .none) h
      refine ⟨hu, ?_⟩
      cases hv : b.value <;> simp_all [World.shows?, Value.text?]
    | _ =>
      rw [ho] at h
      exact absurd (text_eq_ok (v := .ref r) h).2 (by simp [Value.text?])
  · have hobject : object? c w = .ok none w := by
      cases c <;> first | rfl | exact absurd ⟨_, rfl⟩ hc
    have hshows : w.shows? c = c.text? := by
      cases c <;> first | rfl | exact absurd ⟨_, rfl⟩ hc
    rw [bind_of_ok hobject] at h
    rw [hshows]
    exact text_eq_ok h

theorem chunkTexts_eq_ok {cs : List Value} {texts : List String} {i : Nat}
    (h : (cs.zipIdx i).mapM (fun p => chunkText p.2 p.1) w = .ok texts u) :
    w = u ∧ cs.mapM w.shows? = some texts := by
  induction cs generalizing i texts u with
  | nil =>
    obtain ⟨rfl, rfl⟩ := pure_eq_ok.1 h
    exact ⟨rfl, rfl⟩
  | cons c cs ih =>
    rw [List.zipIdx_cons, List.mapM_cons] at h
    obtain ⟨s, _, hs, h⟩ := bind_eq_ok.1 h
    obtain ⟨rfl, hc⟩ := chunkText_eq_ok hs
    obtain ⟨rest, x, hrest, h⟩ := bind_eq_ok.1 h
    have hcs := ih hrest
    obtain ⟨rfl, rfl⟩ := pure_eq_ok.1 h
    exact ⟨hcs.1, by rw [List.mapM_cons, hc, hcs.2]; rfl⟩

/-- A chunk shows its text in its place. -/
theorem getElem?_of_mapM {cs : List Value} {texts : List String} {place : Nat} {c : Value}
    (h : cs.mapM w.shows? = some texts) (hc : cs[place]? = some c) : texts[place]? = w.shows? c := by
  induction cs generalizing texts place with
  | nil => simp at hc
  | cons d cs ih =>
    rw [List.mapM_cons] at h
    obtain ⟨s, hs, h⟩ := Option.bind_eq_some_iff.1 h
    obtain ⟨rest, hrest, htexts⟩ := Option.bind_eq_some_iff.1 h
    obtain rfl := Option.some.inj htexts
    cases place with
    | zero =>
      obtain rfl := Option.some.inj hc
      exact hs.symm
    | succ place =>
      rw [List.getElem?_cons_succ] at hc ⊢
      exact ih hrest hc

/-- A fragment that is joined is put together from the texts of its chunks. -/
theorem join_eq_ok (h : join r w = .ok out u) :
    w = u ∧ ∃ texts, (w.at' r).chunks.mapM w.shows? = some texts ∧ out = String.join texts := by
  unfold join at h
  rw [bind_of_ok (chunks_eq r w)] at h
  obtain ⟨_, v, hchecks, h⟩ := bind_eq_ok.1 h
  have hv : w = v := by
    clear h
    rw [List.toList_toArray] at hchecks
    generalize (w.at' r).chunks = cs at hchecks
    induction cs with
    | nil => exact (pure_eq_ok.1 hchecks).2
    | cons c cs ih =>
      obtain ⟨_, _, hc, hchecks⟩ := bind_eq_ok.1 hchecks
      obtain rfl := checkResolved_eq_ok hc
      exact ih hchecks
  subst hv
  obtain ⟨texts, x, htexts, h⟩ := bind_eq_ok.1 h
  have hshown := chunkTexts_eq_ok htexts
  obtain ⟨rfl, rfl⟩ := pure_eq_ok.1 h
  exact ⟨hshown.1, texts, hshown.2, rfl⟩

end Fragment

namespace RenderPass

variable {m : Interpreter} {r fragment : Ref} {w u : World} {out : String}

/-- The world in which the turns of a pass begin; they are announced if there are any. -/
def announced (r : Ref) (w : World) : World :=
  let n := (w.at' r).bindings.length
  if n = 0 then w
  else { w with log := w.log.push ("viewer.templates.engine",
    "Resolving " ++ Text.natText n ++ " deferred expression(s)") }

@[simp] theorem at'_announced (r : Ref) (w : World) (s : Ref) : (announced r w).at' s = w.at' s := by
  unfold announced
  dsimp only
  split <;> rfl

/-- Before a pass is joined all its deferred expressions have had their turns. -/
theorem resolve_eq_ok [m.Evolves] (h : resolve m r fragment w = .ok out u) :
    Turns m r 0 (announced r w) (u.at' r).bindings.length u ∧ Fragment.join fragment u = .ok out u := by
  unfold resolve at h
  rw [bind_of_ok (bindings_eq r w)] at h
  by_cases hlen : (w.at' r).bindings.length = 0
  · simp only [List.size_toArray, hlen, if_true] at h
    obtain rfl := (Fragment.join_eq_ok h).1
    simp only [announced, hlen, if_true]
    exact ⟨.none 0 w, h⟩
  · simp only [List.size_toArray, hlen, if_false] at h
    rw [bind_eq_ok] at h
    obtain ⟨_, x, hx, h⟩ := h
    rw [bind_eq_ok] at h
    obtain ⟨_, y, hy, h⟩ := h
    obtain rfl := (Fragment.join_eq_ok h).1
    obtain rfl := logMessage_eq_ok.1 hx
    simp only [announced, hlen, if_false]
    exact ⟨evaluateFrom_eq_ok hy, h⟩

end RenderPass

end Stencil
