import Stencil.Proofs.Rules.Values

/-!
# Rules: texts and containers

The methods of texts, lists, tables and sets of assets, sorting, and the layout of texts.
-/

namespace Stencil

open World Evaluation Script Rule

variable {R : Rule} [R.Lawful] {home : Option Ref} (m : Interpreter) [R.Governs m]

instance abides_textList (pieces : List (List Char)) : Abides R home (textList pieces) := by
  unfold textList
  infer_instance

instance abides_textArgument (v : Value) (report : String → String) :
    Abides R home (textArgument v report) := by
  unfold textArgument
  split <;> infer_instance

instance abides_testEdge (name : String) (test : List Char → List Char → Bool) (s : List Char)
    (args : List Value) : Abides R home (testEdge name test s args) := by
  unfold testEdge
  dsimp only
  repeat' first | infer_instance | with_reducible refine Abides.bind ?_ fun _ => ?_ | split

instance abides_occurrence? (last : Bool) (s : List Char) (args : List Value) :
    Abides R home (occurrence? last s args) := by
  unfold occurrence?
  infer_instance

instance abides_cutArguments (name : String) (s : List Char) (args : Arguments) :
    Abides R home (cutArguments name s args) := by
  unfold cutArguments
  repeat' first | infer_instance | with_reducible refine Abides.bind ?_ fun _ => ?_ | split

instance abides_textMethod (text name : String) (args : Arguments) :
    Abides R home (textMethod m text name args) := by
  unfold textMethod
  dsimp only
  repeat' first | infer_instance | with_reducible refine Abides.bind ?_ fun _ => ?_ | split

section

variable {α : Type} (before : α → α → Action Bool) [∀ x y, Abides R home (before x y)]

instance abides_runLength (falling : Bool) (last : α) (items : List α) :
    Abides R home (runLength before falling last items) := by
  induction items generalizing last with
  | nil => unfold runLength; infer_instance
  | cons x rest ih =>
    unfold runLength
    repeat' first | infer_instance | with_reducible refine Abides.bind ?_ fun _ => ?_ | split

instance abides_firstRun (items : List α) : Abides R home (firstRun before items) := by
  unfold firstRun
  dsimp only
  repeat' first | infer_instance | with_reducible refine Abides.bind ?_ fun _ => ?_ | split

instance abides_placeOf (x : α) (sorted : Array α) (width low high : Nat) :
    Abides R home (placeOf before x sorted width low high) := by
  induction width generalizing low high with
  | zero => unfold placeOf; infer_instance
  | succ width ih =>
    unfold placeOf
    dsimp only
    repeat' first | infer_instance | with_reducible refine Abides.bind ?_ fun _ => ?_ | split

instance abides_insertAll (sorted : Array α) (items : List α) :
    Abides R home (insertAll before sorted items) := by
  induction items generalizing sorted with
  | nil => unfold insertAll; infer_instance
  | cons x rest ih =>
    unfold insertAll
    infer_instance

instance abides_sortItems (items : List α) : Abides R home (sortItems before items) := by
  unfold sortItems
  infer_instance

end

instance abides_sortBy (key : Value) (backward : Bool) (items : List Value) :
    Abides R home (sortBy m key backward items) := by
  unfold sortBy
  split <;> infer_instance

instance abides_sortOptions (name : String) (args : Arguments) :
    Abides R home (sortOptions name args) := by
  unfold sortOptions
  dsimp only
  repeat' first | infer_instance | with_reducible refine Abides.bind ?_ fun _ => ?_ | split

instance abides_placeIn (v : Value) (i : Nat) (items : List Value) :
    Abides R home (placeIn m v i items) := by
  induction items generalizing i with
  | nil => unfold placeIn; infer_instance
  | cons x rest ih =>
    unfold placeIn
    repeat' first | infer_instance | with_reducible refine Abides.bind ?_ fun _ => ?_ | split

instance abides_countIn (v : Value) (items : List Value) : Abides R home (countIn m v items) := by
  induction items with
  | nil => unfold countIn; infer_instance
  | cons x rest ih =>
    unfold countIn
    repeat' first | infer_instance | with_reducible refine Abides.bind ?_ fun _ => ?_ | split

instance abides_indexIn (items : List Value) (args : List Value) (report : String) :
    Abides R home (indexIn m items args report) := by
  unfold indexIn
  repeat' first | infer_instance | with_reducible refine Abides.bind ?_ fun _ => ?_ | split

instance abides_sequenceMethod (kind : String) (items : List Value) (name : String)
    (args : Arguments) : Abides R home (sequenceMethod m kind items name args) := by
  unfold sequenceMethod
  split <;> infer_instance

instance abides_listMethod (r : Ref) (items : Array Value) (name : String) (args : Arguments) :
    Abides R home (listMethod m r items name args) := by
  unfold listMethod
  dsimp only
  repeat' first | infer_instance | with_reducible refine Abides.bind ?_ fun _ => ?_ | split

instance abides_pairOf (index : Nat) (v : Value) : Abides R home (pairOf m index v) := by
  unfold pairOf
  repeat' first | infer_instance | with_reducible refine Abides.bind ?_ fun _ => ?_ | split

instance abides_extendTable (name : String) (t : Table) (args : Arguments) :
    Abides R home (extendTable m name t args) := by
  unfold extendTable
  repeat' first | infer_instance | with_reducible refine Abides.bind ?_ fun _ => ?_ | split

instance abides_tableOfKeys (args : List Value) : Abides R home (tableOfKeys m args) := by
  unfold tableOfKeys
  infer_instance

instance abides_tableMethod (r : Ref) (entries : Table) (name : String) (args : Arguments) :
    Abides R home (tableMethod m r entries name args) := by
  unfold tableMethod
  repeat' first | infer_instance | with_reducible refine Abides.bind ?_ fun _ => ?_ | split

namespace AssetSet

instance abides_members (r : Ref) : Abides R home (members r) := by
  unfold members
  repeat' first | infer_instance | with_reducible refine Abides.bind ?_ fun _ => ?_ | split

instance abides_change (r : Ref) (f : OrderedSet Value → OrderedSet Value) :
    Abides R home (change r f) := by
  unfold change
  infer_instance

instance abides_make (kind : AssetKind) (refs : Value) : Abides R home (make m kind refs) := by
  unfold make
  infer_instance

instance abides_add (r : Ref) (v : Value) : Abides R home (add r v) := by
  unfold add
  infer_instance

instance abides_discard (r : Ref) (v : Value) : Abides R home (discard r v) := by
  unfold discard
  infer_instance

instance abides_each (v : Value) (f : Value → Action Unit) [∀ x, Abides R home (f x)] :
    Abides R home (each m v f) := by
  unfold each
  infer_instance

instance abides_update (r : Ref) (v : Value) : Abides R home (update m r v) := by
  unfold update
  infer_instance

instance abides_render (r : Ref) : Abides R home (render m r) := by
  unfold render
  infer_instance

instance abides_pop (r : Ref) : Abides R home (pop r) := by
  unfold pop
  repeat' first | infer_instance | with_reducible refine Abides.bind ?_ fun _ => ?_ | split

instance abides_operand (v : Value) : Abides R home (operand m v) := by
  unfold operand
  repeat' first | infer_instance | with_reducible refine Abides.bind ?_ fun _ => ?_ | split

instance abides_assign (op : Script.BinaryOp) (r : Ref) (v : Value) :
    Abides R home (assign m op r v) := by
  unfold assign
  split <;> infer_instance

end AssetSet

namespace Bundle

instance abides_parts (r : Ref) : Abides R home (parts r) := by
  unfold parts
  repeat' first | infer_instance | with_reducible refine Abides.bind ?_ fun _ => ?_ | split

instance abides_make (css js : Value) : Abides R home (make m css js) := by
  unfold make
  infer_instance

instance abides_register (r : Ref) (other : Value) : Abides R home (register m r other) := by
  unfold register
  infer_instance

instance abides_render (r : Ref) : Abides R home (render m r) := by
  unfold render
  infer_instance

end Bundle

namespace View

instance abides_attributeIn (v : Value) (first second : String) :
    Abides R home (attributeIn m v first second) := by
  unfold attributeIn
  infer_instance

instance abides_firstTrue_nil : Abides R home (firstTrue []) := by
  unfold firstTrue
  infer_instance

instance abides_firstTrue_cons {x : Action Value} {rest : List (Action Value)} [Abides R home x]
    [Abides R home (firstTrue rest)] : Abides R home (firstTrue (x :: rest)) := by
  cases rest <;> unfold firstTrue <;> infer_instance

instance abides_template (self : Value) : Abides R home (template m self) := by
  unfold template
  infer_instance

instance abides_theme (self : Value) : Abides R home (theme m self) := by
  unfold theme
  infer_instance

instance abides_layout (self : Value) : Abides R home (layout m self) := by
  unfold layout
  infer_instance

instance abides_outputFormat (self : Value) : Abides R home (outputFormat m self) := by
  unfold outputFormat
  infer_instance

instance abides_templateDirectories (self : Value) : Abides R home (templateDirectories m self) := by
  unfold templateDirectories
  infer_instance

instance abides_joinParts (parts : List Value) : Abides R home (joinParts parts) := by
  unfold joinParts
  repeat' first
    | infer_instance
    | with_reducible refine Abides.bind ?_ fun _ => ?_
    | split
    | refine Abides.mapM fun _ => ?_

instance abides_listedDirectories (self : Value) : Abides R home (listedDirectories m self) := by
  unfold listedDirectories
  repeat' first | infer_instance | with_reducible refine Abides.bind ?_ fun _ => ?_ | split

instance abides_pathFor (self name : Value) : Abides R home (pathFor m self name) := by
  unfold pathFor
  repeat' first | infer_instance | with_reducible refine Abides.bind ?_ fun _ => ?_ | split

instance abides_templatePath (self : Value) : Abides R home (templatePath m self) := by
  unfold templatePath
  infer_instance

instance abides_layoutPath (self : Value) : Abides R home (layoutPath m self) := by
  unfold layoutPath
  infer_instance

instance abides_property (self : Value) (name : String) : Abides R home (property m self name) := by
  unfold property
  split <;> infer_instance

end View

instance abides_readSlot (s : List Char) : Abides R home (readSlot s) := by
  unfold readSlot
  dsimp only
  repeat' first | infer_instance | with_reducible refine Abides.bind ?_ fun _ => ?_ | split

instance abides_fillSlot (s : Slot) (place : Nat) (v : Value) :
    Abides R home (fillSlot m s place v) := by
  unfold fillSlot
  dsimp only
  repeat' first
    | infer_instance
    | with_reducible refine Abides.bind ?_ fun _ => ?_
    | split
    | exact abides_of_float? ‹_›

instance abides_layOut (fuel place : Nat) (supply : Supply) (s : List Char) :
    Abides R home (layOut m fuel place supply s) := by
  fun_induction layOut m fuel place supply s <;>
    repeat' first | infer_instance | with_reducible refine Abides.bind ?_ fun _ => ?_ | split

instance abides_percent (s : String) (v : Value) : Abides R home (percent m s v) := by
  unfold percent
  infer_instance

end Stencil
