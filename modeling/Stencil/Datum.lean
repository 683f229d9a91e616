import Stencil.Number.Shortest
import Stencil.Text.Quoted

/-!
# Plain data

Data that settings, fault details and template inputs are made of, and their text. Tables keep the
order in which their keys were first set.
-/

namespace Stencil

/-- A plain value. -/
inductive Datum where
  | none
  | bool (b : Bool)
  | int (i : Int)
  | float (x : Float)
  | str (s : String)
  | list (items : List Datum)
  | tuple (items : List Datum)
  | dict (entries : List (Datum × Datum))
  deriving Inhabited

namespace Datum

/-- The name of the type of a value. -/
def typeName : Datum → String
  | none => "NoneType"
  | bool _ => "bool"
  | int _ => "int"
  | float _ => "float"
  | str _ => "str"
  | list _ => "list"
  | tuple _ => "tuple"
  | dict _ => "dict"

/-- The word for a truth value. -/
def boolText (b : Bool) : String := if b then "True" else "False"

mutual

/-- The text of a value as it is shown inside another one. -/
def repr : Datum → String
  | none => "None"
  | bool b => boolText b
  | int i => Text.intText i
  | float x => Number.floatText x
  | str s => Text.quoted s
  | list items => "[" ++ reprItems items ++ "]"
  | tuple [x] => "(" ++ repr x ++ ",)"
  | tuple items => "(" ++ reprItems items ++ ")"
  | dict entries => "\x7b" ++ reprEntries entries ++ "\x7d"

/-- The texts of values, separated by commas. -/
def reprItems : List Datum → String
  | [] => ""
  | [x] => repr x
  | x :: rest => repr x ++ ", " ++ reprItems rest

/-- The texts of the entries of a table, separated by commas. -/
def reprEntries : List (Datum × Datum) → String
  | [] => ""
  | [(k, v)] => repr k ++ ": " ++ repr v
  | (k, v) :: rest => repr k ++ ": " ++ repr v ++ ", " ++ reprEntries rest

end

/-- The text of a value by itself. -/
def text : Datum → String
  | str s => s
  | d => repr d

/-- Whether two values are the same key of a table: numbers by value, texts and tuples by content. -/
def sameKey : Datum → Datum → Bool
  | none, none => true
  | bool a, bool b => a == b
  | bool a, int b => (if a then 1 else 0) == b
  | int a, bool b => a == (if b then 1 else 0)
  | int a, int b => a == b
  | float a, float b => a == b
  | int a, float b => !b.isNaN && !b.isInf && Number.compareInt a b == .eq
  | float a, int b => !a.isNaN && !a.isInf && Number.compareInt b a == .eq
  | bool a, float b => (if a then 1.0 else 0.0) == b
  | float a, bool b => a == (if b then 1.0 else 0.0)
  | str a, str b => a == b
  | tuple as, tuple bs => sameKeys as bs
  | _, _ => false
where
  /-- Two lists of keys that agree one by one. -/
  sameKeys : List Datum → List Datum → Bool
    | [], [] => true
    | a :: as, b :: bs => sameKey a b && sameKeys as bs
    | _, _ => false

/-- A table with one more entry; a key that is present keeps its place. -/
def insert (entries : List (Datum × Datum)) (k v : Datum) : List (Datum × Datum) :=
  match entries with
  | [] => [(k, v)]
  | (k', v') :: rest => if sameKey k' k then (k', v) :: rest else (k', v') :: insert rest k v

/-- The value of a key. -/
def lookup (entries : List (Datum × Datum)) (k : Datum) : Option Datum :=
  (entries.find? fun e => sameKey e.1 k).map (·.2)

end Datum

end Stencil
