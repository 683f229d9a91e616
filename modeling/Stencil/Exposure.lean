/-!
# Exposures

A registry tells for each exposed name its fallback value, the block that computes it and its
description, and holds a block for all names without one. A subtype starts from a copy of the registry
of its base; from then on the two change apart.
-/

namespace Stencil

/-- One entry of a registry. -/
structure Exposure (α : Type) where
  name : String
  /-- The fallback value. -/
  value : Option α := none
  /-- The computation that is applied to the value. -/
  block : Option α := none
  description : Option String := none
  deriving Inhabited

/-- The exposures of a type in the order of their first registration. -/
structure ExposureRegistry (α : Type) where
  entries : List (Exposure α) := []
  /-- The block of every name that has none of its own. -/
  default : Option α := none
  deriving Inhabited

namespace ExposureRegistry

variable {α : Type}

/-- The entry of a name. -/
def get? (r : ExposureRegistry α) (name : String) : Option (Exposure α) :=
  r.entries.find? (·.name == name)

/-- Whether a name is registered. -/
def contains (r : ExposureRegistry α) (name : String) : Bool := (r.get? name).isSome

/-- The entry of a name, or a new one. -/
def entry (r : ExposureRegistry α) (name : String) : Exposure α := (r.get? name).getD { name }

/-- Put an entry in the place of the one with its name, or at the end. -/
def put (r : ExposureRegistry α) (e : Exposure α) : ExposureRegistry α :=
  if r.contains e.name then
    { r with entries := r.entries.map fun d => if d.name == e.name then e else d }
  else { r with entries := r.entries ++ [e] }

/-- Change what is given of the entry of a name: value, block and description, each of which may be
taken away. -/
def amend (r : ExposureRegistry α) (name : String) (value block : Option (Option α))
    (description : Option (Option String)) : ExposureRegistry α :=
  let e := r.entry name
  r.put { e with value := value.getD e.value, block := block.getD e.block
                 description := description.getD e.description }

/-- Give a name a value and a block as far as they are present. -/
def expose (r : ExposureRegistry α) (name : String) (value block : Option α) : ExposureRegistry α :=
  r.amend name (value.map some) (block.map some) none

/-- Give a name a description. -/
def describe (r : ExposureRegistry α) (name : String) (description : Option String) :
    ExposureRegistry α :=
  r.amend name none none (some description)

/-- The value and the block in force for a name; a name without a value stands for itself. -/
def resolve (r : ExposureRegistry α) (ofName : String → α) (name : String) : α × Option α :=
  let e := r.entry name
  (e.value.getD (ofName name), e.block <|> r.default)

/-- The names with their descriptions. -/
def descriptions (r : ExposureRegistry α) : List (String × Option String) :=
  r.entries.map fun e => (e.name, e.description)

end ExposureRegistry

end Stencil
