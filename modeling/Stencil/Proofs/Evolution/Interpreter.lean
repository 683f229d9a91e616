import Stencil.Proofs.Rules.Scripts

/-!
# Evolution as a rule

That a world evolves is a rule without conditions. Whatever a script does, and however it
ends, the world evolves.
-/

namespace Stencil

open World Evaluation Rule

/-- Any world may become what it evolves to. -/
def evolution : Rule where
  Inv _ := True
  Rel := World.Evolves
  Admits _ _ := True

namespace World.Evolves

variable {w u : World}

/-- A computation that is done in a bundle leaves the bundle around it as it was. -/
theorem enclosed {bundle : Option Ref} (h : ({ w with enclosing := bundle } : World).Evolves u) :
    w.Evolves { u with enclosing := w.enclosing } :=
  ⟨h.size, h.objects, h.classCount, h.classes, h.files, h.log, rfl, h.handling⟩

theorem handled {handling : List Value} (h : ({ w with handling } : World).Evolves u) :
    w.Evolves { u with handling := w.handling } :=
  ⟨h.size, h.objects, h.classCount, h.classes, h.files, h.log, h.enclosing, rfl⟩

theorem putGlobals {r : Nat} {n : Namespace} (w : World) : w.Evolves (w.put r (.globals n)) :=
  (refl w).put fun _ hs => Object.evolves_of_isFree (Object.isFree_congr hs) hs.symm

end World.Evolves

instance evolution_lawful : evolution.Lawful where
  refl := World.Evolves.refl
  trans := World.Evolves.trans
  admits _ h := h
  push _ _ := ⟨trivial, .push _ _⟩
  put _ hu _ _ ho := ⟨trivial, hu.2.put fun _ => ho⟩
  putNames {w _ _} _ _ := ⟨trivial, .putGlobals w⟩
  log _ := ⟨trivial, .of_objects_eq rfl rfl rfl (by simp) rfl rfl⟩
  setClass _ h := ⟨trivial, .setClass h⟩
  enclose h := h
  enclosed h := ⟨trivial, h.2.enclosed⟩
  handle h := h
  handled h := ⟨trivial, h.2.handled⟩
  fresh _ _ _ _ := trivial
  function _ _ := .inl trivial
  binding _ _ := .inl trivial

instance homed_evolution (env : Env) (home : Option Ref) : evolution.Homed env home := ⟨fun _ => trivial⟩

variable {α : Type} {x : Action α}

instance evolving_of_abides [h : Abides evolution none x] : Evolving x :=
  ⟨fun w => (h.abides w ⟨trivial, fun _ _ => trivial⟩).2⟩

theorem Evolving.abides {home : Option Ref} (h : Evolving x) : Abides evolution home x :=
  ⟨fun w _ => ⟨trivial, h.evolves w⟩⟩

instance evolution_governs (m : Interpreter) [h : m.Evolves] : evolution.Governs m where
  evaluate _ env _ e := (h.evaluate env e).abides
  execute _ env _ b := (h.execute env b).abides
  call _ f args := (h.call f args).abides
  attributeOf _ v name := (h.attributeOf v name).abides
  text _ v := (h.text v).abides
  silence _ env := (h.evaluate env .silence).abides

instance interpreter_evolves (n : Nat) : (interpreter n).Evolves :=
  have := interpreter_governs evolution n
  { evaluate := fun _ _ => inferInstance
    execute := fun _ _ => inferInstance
    call := fun _ _ => inferInstance
    attributeOf := fun _ _ => inferInstance
    text := fun _ => inferInstance }

/-- Whatever is done with the machine, the world evolves. -/
instance machine_evolves : machine.Evolves := interpreter_evolves maxLevels

end Stencil
