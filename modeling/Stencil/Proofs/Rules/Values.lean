import Stencil.Proofs.Rules

/-!
# Rules: values

Reading, comparing and showing values, arithmetic, and going through what can be iterated.
-/

namespace Stencil

open World Evaluation Script Rule

variable {R : Rule} [R.Lawful] {home : Option Ref} (m : Interpreter) [R.Governs m]

instance abides_classChain (fuel : Nat) (id : Nat) : Abides R home (classChain fuel id) := by
  induction fuel generalizing id with
  | zero => exact abides_pure _
  | succ fuel ih =>
    unfold classChain
    refine Abides.bind inferInstance fun c => ?_
    split <;> infer_instance

instance abides_chain (id : Nat) : Abides R home (chain id) := by
  unfold chain
  infer_instance

instance abides_objectTypeName (o : Object) : Abides R home (objectTypeName o) := by
  unfold objectTypeName
  repeat' first | infer_instance | with_reducible refine Abides.bind ?_ fun _ => ?_ | split

instance abides_typeOf (v : Value) : Abides R home (typeOf v) := by
  unfold typeOf
  repeat' first | infer_instance | with_reducible refine Abides.bind ?_ fun _ => ?_ | split

instance abides_nameOfType (t : TypeRef) : Abides R home (nameOfType t) := by
  unfold nameOfType
  split <;> infer_instance

instance abides_typeName (v : Value) : Abides R home (typeName v) := by
  unfold typeName
  infer_instance

instance abides_isSubtype (t u : TypeRef) : Abides R home (isSubtype t u) := by
  unfold isSubtype
  repeat' first | infer_instance | with_reducible refine Abides.bind ?_ fun _ => ?_ | split

instance abides_isInstance (v : Value) (t : TypeRef) : Abides R home (isInstance v t) := by
  unfold isInstance
  infer_instance

instance abides_exception? (v : Value) : Abides R home (exception? v) := by
  unfold exception?
  repeat' first | infer_instance | with_reducible refine Abides.bind ?_ fun _ => ?_ | split

instance abides_length? (v : Value) : Abides R home (length? v) := by
  unfold length?
  repeat' first | infer_instance | with_reducible refine Abides.bind ?_ fun _ => ?_ | split

instance abides_truth (v : Value) : Abides R home (truth v) := by
  unfold truth
  repeat' first | infer_instance | with_reducible refine Abides.bind ?_ fun _ => ?_ | split

instance abides_callable (v : Value) : Abides R home (callable v) := by
  unfold callable
  repeat' first | infer_instance | with_reducible refine Abides.bind ?_ fun _ => ?_ | split

instance abides_tooDeep {α : Type} : Abides R home (tooDeep : Action α) := by
  unfold tooDeep
  infer_instance

instance abides_typeNotation (t : TypeRef) : Abides R home (typeNotation t) := by
  unfold typeNotation
  split <;> infer_instance

instance abides_countBindings (chunks : List Value) : Abides R home (countBindings chunks) := by
  unfold countBindings
  repeat' first
    | infer_instance
    | with_reducible refine Abides.bind ?_ fun _ => ?_
    | split
    | refine Abides.forIn fun _ _ => ?_

instance abides_intNotation (i : Int) : Abides R home (intNotation i) := by
  unfold intNotation
  infer_instance

instance abides_notate (fuel : Nat) (seen : List Ref) (v : Value) :
    Abides R home (notate fuel seen v) := by
  induction fuel generalizing seen v with
  | zero => unfold notate; infer_instance
  | succ fuel ih =>
    unfold notate
    dsimp only
    repeat' first
      | infer_instance
      | with_reducible refine Abides.bind ?_ fun _ => ?_
      | split
      | refine Abides.forIn fun _ _ => ?_

instance abides_reprOf (v : Value) : Abides R home (reprOf v) := by
  unfold reprOf
  infer_instance

mutual

theorem abides_checkKey' (v : Value) : Abides R home (checkKey v) := by
  unfold checkKey
  split
  case h_1 items => exact abides_checkKeys items
  all_goals
    repeat' first | infer_instance | with_reducible refine Abides.bind ?_ fun _ => ?_ | split

theorem abides_checkKeys (vs : List Value) : Abides R home (checkKey.go vs) :=
  match vs with
  | [] => abides_pure _
  | v :: vs => (abides_checkKey' v).bind fun _ => abides_checkKeys vs

end

instance abides_checkKey (v : Value) : Abides R home (checkKey v) := abides_checkKey' v

instance abides_equalsWithin (fuel : Nat) (a b : Value) :
    Abides R home (equalsWithin m.text fuel a b) := by
  induction fuel generalizing a b with
  | zero => unfold equalsWithin; infer_instance
  | succ fuel ih =>
    unfold equalsWithin
    dsimp only
    repeat' first
      | infer_instance
      | with_reducible refine Abides.bind ?_ fun _ => ?_
      | split
      | refine Abides.forIn fun _ _ => ?_

instance abides_equals (a b : Value) : Abides R home (equals m.text a b) := by
  unfold equals
  infer_instance

instance abides_coincide (a b : Value) : Abides R home (coincide m.text a b) := by
  unfold coincide
  infer_instance

instance abides_orderedWithin (fuel : Nat) (op : Order) (a b : Value) :
    Abides R home (orderedWithin m.text fuel op a b) := by
  induction fuel generalizing a b with
  | zero => unfold orderedWithin; infer_instance
  | succ fuel ih =>
    have hitems (xs ys : List Value) : Abides R home (orderedWithin.items m.text op fuel xs ys) := by
      induction xs generalizing ys with
      | nil => unfold orderedWithin.items; infer_instance
      | cons x xs ihx =>
        cases ys <;> unfold orderedWithin.items
        case nil => infer_instance
        case cons y ys => exact Abides.bind inferInstance fun _ => by split <;> infer_instance
    unfold orderedWithin
    dsimp only
    repeat' first | infer_instance | with_reducible refine Abides.bind ?_ fun _ => ?_ | split

instance abides_ordered (op : Order) (a b : Value) : Abides R home (ordered m.text op a b) := by
  unfold ordered
  infer_instance

instance abides_zeroDivision {α : Type} (message : String) :
    Abides R home (zeroDivision message : Action α) := by
  unfold zeroDivision
  infer_instance

instance abides_overflow {α : Type} (message : String) :
    Abides R home (overflow message : Action α) := by
  unfold overflow
  infer_instance

instance abides_toFloat (i : Int) : Abides R home (toFloat i) := by
  unfold toFloat
  infer_instance

theorem abides_of_float? {v : Value} {x : Action Float} (h : float? v = some x) : Abides R home x := by
  unfold float? at h
  split at h
  · cases h
    infer_instance
  · obtain ⟨i, -, rfl⟩ := Option.map_eq_some_iff.1 h
    infer_instance

theorem abides_of_integerOp? {op : BinaryOp} {a b : Int} {x : Action Value}
    (h : integerOp? op a b = some x) : Abides R home x := by
  unfold integerOp? at h
  split at h <;> cases h <;>
    repeat' first | infer_instance | with_reducible refine Abides.bind ?_ fun _ => ?_ | split

theorem abides_of_floatOp? {op : BinaryOp} {a b : Float} {x : Action Value}
    (h : floatOp? op a b = some x) : Abides R home x := by
  unfold floatOp? at h
  split at h <;> cases h <;>
    repeat' first | infer_instance | with_reducible refine Abides.bind ?_ fun _ => ?_ | split

theorem abides_of_numberOp? {op : BinaryOp} {a b : Value} {x : Action Value}
    (h : numberOp? op a b = some x) : Abides R home x := by
  unfold numberOp? at h
  split at h
  · split at h
    case h_4 => exact abides_of_integerOp? h
    all_goals
      cases h
      infer_instance
  · split at h
    case h_1 => exact abides_of_integerOp? h
    split at h
    case h_2 => cases h
    case h_1 y z hy hz =>
      split at h <;> cases h
      refine (abides_of_float? hy).bind fun _ => (abides_of_float? hz).bind fun _ => ?_
      split
      · exact abides_of_floatOp? ‹_›
      · infer_instance

instance abides_unsupported {α : Type} (shown : String) (a b : Value) :
    Abides R home (unsupported shown a b : Action α) := by
  unfold unsupported
  infer_instance

instance abides_list? (v : Value) : Abides R home (list? v) := by
  unfold list?
  repeat' first | infer_instance | with_reducible refine Abides.bind ?_ fun _ => ?_ | split

instance abides_assets? (v : Value) : Abides R home (assets? v) := by
  unfold assets?
  repeat' first | infer_instance | with_reducible refine Abides.bind ?_ fun _ => ?_ | split

instance abides_table? (v : Value) : Abides R home (table? v) := by
  unfold table?
  repeat' first | infer_instance | with_reducible refine Abides.bind ?_ fun _ => ?_ | split

instance abides_concatenation? (a b : Value) : Abides R home (concatenation? a b) := by
  unfold concatenation?
  repeat' first | infer_instance | with_reducible refine Abides.bind ?_ fun _ => ?_ | split

instance abides_repetition? (v : Value) (times : Value) : Abides R home (repetition? v times) := by
  unfold repetition?
  repeat' first | infer_instance | with_reducible refine Abides.bind ?_ fun _ => ?_ | split

instance abides_isIterable (v : Value) : Abides R home (isIterable v) := by
  unfold isIterable
  repeat' first | infer_instance | with_reducible refine Abides.bind ?_ fun _ => ?_ | split

instance abides_setOp? (collect : Value → Action (List Value)) [∀ v, Abides R home (collect v)]
    (op : BinaryOp) (a b : Value) : Abides R home (setOp? collect op a b) := by
  unfold setOp?
  dsimp only
  repeat' first | infer_instance | with_reducible refine Abides.bind ?_ fun _ => ?_ | split

instance abides_binary (collect : Value → Action (List Value)) [∀ v, Abides R home (collect v)]
    (percent : String → Value → Action Value) [∀ s v, Abides R home (percent s v)] (shown : String)
    (op : BinaryOp) (a b : Value) : Abides R home (binary collect percent shown op a b) := by
  unfold binary
  split
  case h_1 h => exact abides_of_numberOp? h
  dsimp only
  repeat' first | infer_instance | with_reducible refine Abides.bind ?_ fun _ => ?_ | split

instance abides_unary (op : UnaryOp) (v : Value) : Abides R home (unary op v) := by
  unfold unary
  repeat' first | infer_instance | with_reducible refine Abides.bind ?_ fun _ => ?_ | split

namespace Evaluation.Interpreter

instance abides_apply (f : Value) (args : List Value) : Abides R home (m.apply f args) := by
  unfold apply
  infer_instance

omit [R.Governs m] in
theorem abides_repeatUntil {σ α : Type} {step : σ → Action (Except α σ)} {s : σ}
    (hs : ∀ s, Abides R home (step s)) : Abides R home (m.repeatUntil step s) := by
  unfold repeatUntil
  generalize m.rounds = left
  induction left generalizing s with
  | zero => unfold repeatUntil.go; infer_instance
  | succ left ih =>
    unfold repeatUntil.go
    refine (hs s).bind fun r => ?_
    cases r with
    | error a => exact abides_pure a
    | ok s => exact ih

end Evaluation.Interpreter

instance abides_notIterable {α : Type} (v : Value) : Abides R home (notIterable v : Action α) := by
  unfold notIterable
  infer_instance

instance abides_iteratorOf (items : List Value) : Abides R home (iteratorOf items) := by
  unfold iteratorOf
  infer_instance

instance abides_iterator? (v : Value) : Abides R home (iterator? v) := by
  unfold iterator?
  repeat' first | infer_instance | with_reducible refine Abides.bind ?_ fun _ => ?_ | split

instance abides_iterate (v : Value) : Abides R home (iterate v) := by
  unfold iterate
  repeat' first | infer_instance | with_reducible refine Abides.bind ?_ fun _ => ?_ | split

theorem abides_both {next : Ref → Action (Option Value)} (hn : ∀ r, Abides R home (next r))
    (rs : List Ref) : Abides R home (advance.both next rs) := by
  induction rs with
  | nil => unfold advance.both; infer_instance
  | cons r rs ih =>
    unfold advance.both
    repeat' first | infer_instance | with_reducible refine Abides.bind ?_ fun _ => ?_ | split

instance abides_changed : Abides R home advance.changed := by
  unfold advance.changed
  infer_instance

instance abides_advance (r : Ref) : Abides R home (advance m r) := by
  unfold advance
  generalize m.rounds = depth
  induction depth generalizing r with
  | zero => unfold advance.go; infer_instance
  | succ depth ih =>
    unfold advance.go
    dsimp only
    repeat' first
      | infer_instance
      | with_reducible refine Abides.bind ?_ fun _ => ?_
      | split
      | exact abides_both ih _
      | refine Interpreter.abides_repeatUntil m fun _ => ?_

instance abides_drain (r : Ref) : Abides R home (drain m r) := by
  unfold drain
  refine (Interpreter.abides_repeatUntil m fun _ => ?_).bind fun _ => inferInstance
  repeat' first | infer_instance | with_reducible refine Abides.bind ?_ fun _ => ?_ | split

instance abides_collect (v : Value) : Abides R home (collect m v) := by
  unfold collect
  infer_instance

instance abides_findItem {α : Type} (v : Value) (f : Value → Action (Option α))
    [∀ v, Abides R home (f v)] : Abides R home (findItem m v f) := by
  unfold findItem
  refine Abides.bind inferInstance fun _ => Interpreter.abides_repeatUntil m fun _ => ?_
  repeat' first | infer_instance | with_reducible refine Abides.bind ?_ fun _ => ?_ | split

instance abides_holdsItem (container item : Value) : Abides R home (holdsItem m container item) := by
  unfold holdsItem
  infer_instance

instance abides_isIn (item container : Value) : Abides R home (isIn m item container) := by
  unfold isIn
  repeat' first | infer_instance | with_reducible refine Abides.bind ?_ fun _ => ?_ | split

instance abides_takeItems (r : Ref) (n : Nat) : Abides R home (unpack.takeItems m r n) := by
  induction n with
  | zero => unfold unpack.takeItems; infer_instance
  | succ n ih =>
    unfold unpack.takeItems
    repeat' first | infer_instance | with_reducible refine Abides.bind ?_ fun _ => ?_ | split

instance abides_unpack (before : Nat) (star : Bool) (after : Nat) (v : Value) :
    Abides R home (unpack m before star after v) := by
  unfold unpack
  dsimp only
  repeat' first | infer_instance | with_reducible refine Abides.bind ?_ fun _ => ?_ | split

instance abides_noNames (name : String) (args : Arguments) : Abides R home (noNames name args) := by
  unfold noNames
  infer_instance

instance abides_noArguments (name : String) (args : Arguments) :
    Abides R home (noArguments name args) := by
  unfold noArguments
  infer_instance

instance abides_oneArgument (name : String) (args : Arguments) :
    Abides R home (oneArgument name args) := by
  unfold oneArgument
  split <;> infer_instance

instance abides_countArguments (name : String) (least most : Nat) (args : Arguments) :
    Abides R home (countArguments name least most args) := by
  unfold countArguments
  infer_instance

instance abides_positionalArguments (owner name : String) (least most : Nat) (args : Arguments) :
    Abides R home (positionalArguments owner name least most args) := by
  unfold positionalArguments
  infer_instance

instance abides_namedArguments (name : String) (params : List String) (args : Arguments) :
    Abides R home (namedArguments name params args) := by
  unfold namedArguments
  split <;> infer_instance

instance abides_integerArgument (v : Value) : Abides R home (integerArgument v) := by
  unfold integerArgument
  split <;> infer_instance

instance abides_bounds (length : Nat) (args : List Value) : Abides R home (bounds length args) := by
  unfold bounds
  dsimp only
  repeat' first | infer_instance | with_reducible refine Abides.bind ?_ fun _ => ?_ | split

instance abides_selection (length : Nat) (start stop step : Value) :
    Abides R home (selection length start stop step) := by
  unfold selection
  dsimp only
  repeat' first | infer_instance | with_reducible refine Abides.bind ?_ fun _ => ?_ | split

instance abides_itemOf (kind : String) (items : List Value)
    (rebuild : List Value → Action Value) [∀ vs, Abides R home (rebuild vs)] (index : Value) :
    Abides R home (itemOf kind items rebuild index) := by
  unfold itemOf
  repeat' first | infer_instance | with_reducible refine Abides.bind ?_ fun _ => ?_ | split

instance abides_characterOf (s : String) (index : Value) : Abides R home (characterOf s index) := by
  unfold characterOf
  dsimp only
  repeat' first | infer_instance | with_reducible refine Abides.bind ?_ fun _ => ?_ | split

instance abides_missingKey {α : Type} (key : Value) : Abides R home (missingKey key : Action α) := by
  unfold missingKey
  infer_instance

instance abides_item (v index : Value) : Abides R home (item v index) := by
  unfold item
  dsimp only
  repeat' first | infer_instance | with_reducible refine Abides.bind ?_ fun _ => ?_ | split

instance abides_changedPosition (length : Nat) (index : Value) :
    Abides R home (changedPosition length index) := by
  unfold changedPosition
  repeat' first | infer_instance | with_reducible refine Abides.bind ?_ fun _ => ?_ | split

instance abides_setItem (v index x : Value) : Abides R home (setItem m v index x) := by
  unfold setItem
  repeat' first | infer_instance | with_reducible refine Abides.bind ?_ fun _ => ?_ | split

instance abides_deleteItem (v index : Value) : Abides R home (deleteItem v index) := by
  unfold deleteItem
  repeat' first | infer_instance | with_reducible refine Abides.bind ?_ fun _ => ?_ | split

end Stencil
