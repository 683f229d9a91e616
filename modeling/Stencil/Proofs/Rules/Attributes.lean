import Stencil.Proofs.Rules.Containers

/-!
# Rules: attributes and calls of built-in functions

Reading and changing attributes of any value, the built-in functions, and functions of scripts.
-/

namespace Stencil

open World Evaluation Script Rule

variable {R : Rule} [R.Lawful] {home : Option Ref} (m : Interpreter) [R.Governs m]

instance abides_missingAttribute {α : Type} (v : Value) (name : String) :
    Abides R home (missingAttribute v name : Action α) := by
  unfold missingAttribute
  split <;> infer_instance

instance abides_classAttribute? (id : Nat) (name : String) :
    Abides R home (classAttribute? id name) := by
  unfold classAttribute?
  dsimp only
  repeat' first
    | infer_instance
    | with_reducible refine Abides.bind ?_ fun _ => ?_
    | split
    | refine Abides.forIn fun _ _ => ?_

instance abides_registryOf? (id : Nat) : Abides R home (registryOf? id) := by
  unfold registryOf?
  dsimp only
  repeat' first
    | infer_instance
    | with_reducible refine Abides.bind ?_ fun _ => ?_
    | split
    | refine Abides.forIn fun _ _ => ?_

instance abides_registryAt (r : Ref) : Abides R home (registryAt r) := by
  unfold registryAt
  repeat' first | infer_instance | with_reducible refine Abides.bind ?_ fun _ => ?_ | split

instance abides_exposedValue (self : Value) (cls : Nat) (name : String) :
    Abides R home (exposedValue m self cls name) := by
  unfold exposedValue
  repeat' first | infer_instance | with_reducible refine Abides.bind ?_ fun _ => ?_ | split

instance abides_bindAttribute (self : Value) (cls : Nat) (v : Value) :
    Abides R home (bindAttribute m self cls v) := by
  unfold bindAttribute
  repeat' first | infer_instance | with_reducible refine Abides.bind ?_ fun _ => ?_ | split

instance abides_contextAttribute (self : Value) (cls : Nat) (attrs : List (String × Value))
    (name : String) : Abides R home (contextAttribute m self cls attrs name) := by
  unfold contextAttribute
  repeat' first | infer_instance | with_reducible refine Abides.bind ?_ fun _ => ?_ | split

instance abides_instanceAttribute (self : Value) (cls : Nat) (attrs : List (String × Value))
    (name : String) : Abides R home (instanceAttribute m self cls attrs name) := by
  unfold instanceAttribute
  repeat' first | infer_instance | with_reducible refine Abides.bind ?_ fun _ => ?_ | split

instance abides_callableName (v : Value) : Abides R home (callableName v) := by
  unfold callableName
  repeat' first | infer_instance | with_reducible refine Abides.bind ?_ fun _ => ?_ | split

instance abides_ownClassAttribute (cls : Nat) (name : String) :
    Abides R home (ownClassAttribute cls name) := by
  unfold ownClassAttribute
  repeat' first | infer_instance | with_reducible refine Abides.bind ?_ fun _ => ?_ | split

instance abides_typeAttribute (t : TypeRef) (name : String) :
    Abides R home (typeAttribute t name) := by
  unfold typeAttribute
  split <;> infer_instance

mutual

theorem abides_ofDatum' (d : Datum) : Abides R home (ofDatum d) := by
  unfold ofDatum
  split
  case h_6 items => exact (abides_ofData items).bind fun _ => inferInstance
  case h_7 items => exact (abides_ofData items).bind fun _ => inferInstance
  case h_8 entries => exact (abides_ofEntries entries).bind fun _ => inferInstance
  all_goals infer_instance

theorem abides_ofData (ds : List Datum) : Abides R home (ofData ds) := by
  unfold ofData
  split
  · infer_instance
  · exact (abides_ofDatum' _).bind fun _ => (abides_ofData _).bind fun _ => inferInstance

theorem abides_ofEntries (entries : List (Datum × Datum)) : Abides R home (ofEntries entries) := by
  unfold ofEntries
  split
  · infer_instance
  · exact (abides_ofDatum' _).bind fun _ => (abides_ofDatum' _).bind fun _ =>
      (abides_ofEntries _).bind fun _ => inferInstance

end

instance abides_ofDatum (d : Datum) : Abides R home (ofDatum d) := abides_ofDatum' d

instance abides_faultAttribute? (f : Fault) (name : String) :
    Abides R home (faultAttribute? f name) := by
  unfold faultAttribute?
  split <;> infer_instance

instance abides_exceptionAttribute? (e : ExceptionObject) (name : String) :
    Abides R home (exceptionAttribute? e name) := by
  unfold exceptionAttribute?
  split <;> infer_instance

instance abides_objectAttribute? (o : Object) (name : String) :
    Abides R home (objectAttribute? o name) := by
  unfold objectAttribute?
  split <;> infer_instance

instance abides_readAttribute (v : Value) (name : String) :
    Abides R home (readAttribute m v name) := by
  unfold readAttribute
  repeat' first | infer_instance | with_reducible refine Abides.bind ?_ fun _ => ?_ | split

instance abides_attribute? (v : Value) (name : String) : Abides R home (attribute? m v name) := by
  unfold attribute?
  repeat' first | infer_instance | with_reducible refine Abides.bind ?_ fun _ => ?_ | split

instance abides_hasAttribute (v : Value) (name : String) : Abides R home (hasAttribute m v name) := by
  unfold hasAttribute
  infer_instance

instance abides_refuseProperty {α : Type} (v : Value) (name lacking : String) :
    Abides R home (refuseProperty v name lacking : Action α) := by
  unfold refuseProperty
  infer_instance

instance abides_refuseChange {α : Type} (v : Value) (name : String) :
    Abides R home (refuseChange v name : Action α) := by
  unfold refuseChange
  repeat' first | infer_instance | with_reducible refine Abides.bind ?_ fun _ => ?_ | split

instance abides_setAttribute (v : Value) (name : String) (x : Value) :
    Abides R home (setAttribute v name x) := by
  unfold setAttribute
  refine Abides.bind inferInstance fun o => ?_
  split
  case h_2 => exact .classAt_bind fun w hw => Lawful.setClass hw.1 ⟨rfl, rfl, rfl, rfl⟩
  all_goals
    repeat' first | infer_instance | with_reducible refine Abides.bind ?_ fun _ => ?_ | split

instance abides_deleteAttribute (v : Value) (name : String) :
    Abides R home (deleteAttribute v name) := by
  unfold deleteAttribute
  refine Abides.bind inferInstance fun o => ?_
  split
  case h_2 cls _ =>
    refine .classAt_bind fun w hw => ?_
    split
    · exact Lawful.setClass hw.1 ⟨rfl, rfl, rfl, rfl⟩
    · exact Abides.abides w hw
  all_goals
    repeat' first | infer_instance | with_reducible refine Abides.bind ?_ fun _ => ?_ | split

instance abides_expectNames (function : String) (names : List String) (args : Arguments) :
    Abides R home (expectNames function names args) := by
  unfold expectNames
  split <;> infer_instance

instance abides_truncated (x : Float) : Abides R home (truncated x) := by
  unfold truncated
  infer_instance

instance abides_intOfText (s : String) (base : Nat) : Abides R home (intOfText s base) := by
  unfold intOfText
  dsimp only
  repeat' first | infer_instance | with_reducible refine Abides.bind ?_ fun _ => ?_ | split

instance abides_makeInt (args : Arguments) : Abides R home (makeInt args) := by
  unfold makeInt
  repeat' first | infer_instance | with_reducible refine Abides.bind ?_ fun _ => ?_ | split

instance abides_makeFloat (args : Arguments) : Abides R home (makeFloat args) := by
  unfold makeFloat
  repeat' first
    | infer_instance
    | with_reducible refine Abides.bind ?_ fun _ => ?_
    | split
    | exact abides_of_float? ‹_›

instance abides_makeReversed (v : Value) : Abides R home (makeReversed v) := by
  unfold makeReversed
  repeat' first | infer_instance | with_reducible refine Abides.bind ?_ fun _ => ?_ | split

instance abides_makeBuiltin (name : String) (args : Arguments) :
    Abides R home (makeBuiltin m name args) := by
  unfold makeBuiltin
  repeat' first
    | infer_instance
    | with_reducible refine Abides.bind ?_ fun _ => ?_
    | split
    | refine Abides.mapM fun _ => ?_

instance abides_extreme (name : String) (order : Order) (args : Arguments) :
    Abides R home (extreme m name order args) := by
  unfold extreme
  dsimp only
  repeat' first | infer_instance | with_reducible refine Abides.bind ?_ fun _ => ?_ | split

mutual

theorem abides_typesOf' (function : String) (v : Value) : Abides R home (typesOf function v) := by
  unfold typesOf
  split
  case h_2 items => exact abides_typesOfItems function items
  all_goals
    try unfold typesOf.refuse
    infer_instance

theorem abides_typesOfItems (function : String) (items : List Value) :
    Abides R home (typesOf.go function items) := by
  unfold typesOf.go
  split
  · infer_instance
  · exact (abides_typesOf' function _).bind fun _ =>
      (abides_typesOfItems function _).bind fun _ => inferInstance

end

instance abides_typesOf (function : String) (v : Value) : Abides R home (typesOf function v) :=
  abides_typesOf' function v

instance abides_attributeName (report : String) (v : Value) :
    Abides R home (attributeName report v) := by
  unfold attributeName
  split <;> infer_instance

instance abides_search (v : Value) (sought : Bool) : Abides R home (search m v sought) := by
  unfold search
  infer_instance

instance abides_callBuiltin (name : String) (args : Arguments) :
    Abides R home (callBuiltin m name args) := by
  unfold callBuiltin
  dsimp only
  repeat' first | infer_instance | with_reducible refine Abides.bind ?_ fun _ => ?_ | split

instance abides_parameterValues (f : Function) (args : Arguments) :
    Abides R home (parameterValues f args) := by
  unfold parameterValues
  repeat' first
    | infer_instance
    | with_reducible refine Abides.bind ?_ fun _ => ?_
    | split
    | refine Abides.mapM fun _ => ?_

instance abides_callFunction (f : Function) (args : Arguments) :
    Abides R (some f.globals) (callFunction m f args) := by
  unfold callFunction
  dsimp only
  repeat' first | infer_instance | with_reducible refine Abides.bind ?_ fun _ => ?_ | split

/-- A function without code may be called in any names. -/
theorem abides_callSilence {f : Function} (hf : f.body = .expression .silence) (args : Arguments) :
    Abides R home (callFunction m f args) := by
  unfold callFunction
  rw [hf]
  infer_instance

instance abides_makeFunction (env : Env) [henv : R.Homed env home] (name : String)
    (params : List (Parameter Expr)) (body : FunctionBody) :
    Abides R home (makeFunction m env name params body) := by
  unfold makeFunction allocValue
  dsimp only
  repeat' first
    | infer_instance
    | exact (Abides.alloc (by rintro _ ⟨⟩ w; exact henv.admits)).bind fun _ => inferInstance
    | with_reducible refine Abides.bind ?_ fun _ => ?_
    | split
    | refine Abides.mapM fun _ => ?_
    | refine Abides.forIn fun _ _ => ?_

instance abides_frameAt (r : Ref) : Abides R home (frameAt r) := by
  unfold frameAt
  repeat' first | infer_instance | with_reducible refine Abides.bind ?_ fun _ => ?_ | split

instance abides_namespaceAt (r : Ref) : Abides R home (namespaceAt r) := by
  unfold namespaceAt
  repeat' first | infer_instance | with_reducible refine Abides.bind ?_ fun _ => ?_ | split

instance abides_ownerOf (frames : List Ref) (name : String) : Abides R home (ownerOf frames name) := by
  unfold ownerOf
  generalize true = innermost
  induction frames generalizing innermost with
  | nil => unfold ownerOf.go; infer_instance
  | cons r rest ih =>
    unfold ownerOf.go
    infer_instance

instance abides_unboundLocal {α : Type} (name : String) (innermost : Bool) :
    Abides R home (unboundLocal name innermost : Action α) := by
  unfold unboundLocal
  infer_instance

instance abides_undefinedName {α : Type} (name : String) :
    Abides R home (undefinedName name : Action α) := by
  unfold undefinedName
  infer_instance

instance abides_contextName? (context : Value) (name : String) :
    Abides R home (contextName? m context name) := by
  unfold contextName?
  repeat' first | infer_instance | with_reducible refine Abides.bind ?_ fun _ => ?_ | split

instance abides_globalName (globals : Ref) (name : String) :
    Abides R home (globalName m globals name) := by
  unfold globalName
  dsimp only
  repeat' first | infer_instance | with_reducible refine Abides.bind ?_ fun _ => ?_ | split

instance abides_readName (env : Env) [R.Homed env home] (name : String) : Abides R home
    (readName m env name) := by
  unfold readName
  repeat' first | infer_instance | with_reducible refine Abides.bind ?_ fun _ => ?_ | split

instance abides_bindName (env : Env) [R.Homed env home] (name : String) (v : Value) :
    Abides R home (bindName env name v) := by
  unfold bindName
  repeat' first | infer_instance | with_reducible refine Abides.bind ?_ fun _ => ?_ | split

instance abides_unbindName (env : Env) [R.Homed env home] (name : String) :
    Abides R home (unbindName env name) := by
  unfold unbindName
  repeat' first | infer_instance | with_reducible refine Abides.bind ?_ fun _ => ?_ | split

end Stencil
