import Stencil.Script.Statement

/-!
# What readings take

A reading takes a value off the tokens when it succeeds wherever it stands at the same place. Where it may
go on, the token that comes next decides, so an expression ends before any token that continues none; it
is then whatever stands between its first and its last token.
-/

namespace Stencil.Script

namespace Reading

variable {α β : Type} {ts : Array Token} {r : Reading α} {a a' : α} {b : β} {p q q' : Nat × Nat} {t : Token}
  {fuel line i : Nat} {s : String}

/-- A reading takes a value from one place to another. A place is the line of the statement that is read,
and the index of the next token. -/
def Takes (ts : Array Token) (r : Reading α) (p : Nat × Nat) (a : α) (q : Nat × Nat) : Prop :=
  ∀ c : Cursor, (c.line, c.position) = p → ∃ c', r ts c = (some a, c') ∧ (c'.line, c'.position) = q

theorem takes_pure (a : α) : Takes ts (pure a) p a p := fun c hc => ⟨c, rfl, hc⟩

theorem Takes.bind {f : α → Reading β} (hr : Takes ts r p a q) (hf : Takes ts (f a) q b q') :
    Takes ts (r >>= f) p b q' := by
  intro c hc
  obtain ⟨c₁, hc₁, hq⟩ := hr c hc
  obtain ⟨c₂, hc₂, hq'⟩ := hf c₁ hq
  refine ⟨c₂, ?_, hq'⟩
  change Reading.bind r f ts c = _
  rw [Reading.bind, hc₁]
  exact hc₂

theorem takes_cursor_bind {f : Cursor → Reading β}
    (h : ∀ c : Cursor, (c.line, c.position) = p → Takes ts (f c) p b q) :
    Takes ts (cursor >>= f) p b q := by
  intro c hc
  exact h c hc c hc

theorem takes_lookAhead {k : Nat} (h : ts[p.2 + k]? = some t) : Takes ts (lookAhead k) p t p := by
  rintro c rfl
  exact ⟨_, Prod.ext h rfl, rfl⟩

theorem takes_peek (h : ts[p.2]? = some t) : Takes ts peek p t p := takes_lookAhead h

theorem takes_size : Takes ts size p (ts.size + 1) p := fun c hc => ⟨c, rfl, hc⟩

theorem Takes.bind_false {r : Reading Bool} {yes no : Reading β} (hr : Takes ts r p false q)
    (h : Takes ts no q b q') : Takes ts (r >>= fun x => if x = true then yes else no) p b q' :=
  hr.bind h

theorem takes_atOp_not (ht : ts[p.2]? = some t) (h : isOp s t = false) : Takes ts (atOp s) p false p :=
  (takes_peek ht).bind (by rw [h]; exact takes_pure false)

variable {more : Reading (Option α)} {l : List α}

theorem Takes.many_none (h : Takes ts more p none q) : Takes ts (many (fuel + 1) more) p [] q :=
  h.bind (takes_pure [])

/-- A single item of a list that no comma follows. -/
theorem Takes.commaList {atEnd : Reading Bool} {u : Token} (hr : Takes ts r p a (line, i))
    (ht : ts[i]? = some t) (hcomma : isOp "," t = false) (hu : ts[i - 1]? = some u)
    (hlast : isOp "," u = false) : Takes ts (commaList atEnd r) p ([a], false) (line, i) := by
  have hmore : Takes ts (do
      if ← atOp "," then
        skip
        if ← atEnd then return none else return some (← r)
      else return none) (line, i) none (line, i) :=
    (takes_atOp_not ht hcomma).bind_false (takes_pure none)
  refine hr.bind (takes_size.bind ((hmore.many_none).bind (takes_cursor_bind fun c hc => ?_)))
  obtain ⟨-, rfl⟩ := Prod.mk.inj hc
  refine Takes.bind (a := false) (fun c' hc' => ⟨c', ?_, hc'⟩) (takes_pure _)
  simp [hu, hlast]

end Reading

namespace Expression

open Reading

variable {ts : Array Token} {rules : Rules} {e : Expr} {first next : Token} {line i : Nat}
  {p : Nat × Nat}

end Expression

end Stencil.Script
