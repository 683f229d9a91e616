/-!
# Ordered sets

Sets that remember the order in which their members were first inserted. A union keeps the members of
the left set in front, an intersection keeps the order of the right set, and a member that is erased and
inserted again moves to the end.
-/

namespace Stencil

/-- A set as the list of its members in the order of their first insertion. -/
structure OrderedSet (α : Type) where
  toList : List α := []
  deriving Inhabited, DecidableEq, Repr

namespace OrderedSet

variable {α : Type} [BEq α]

/-- The set without members. -/
def empty : OrderedSet α := {}

/-- The number of members. -/
def size (s : OrderedSet α) : Nat := s.toList.length

/-- Whether a value is a member. -/
def contains (s : OrderedSet α) (a : α) : Bool := s.toList.contains a

/-- A member more; one that is present keeps its place. -/
def insert (s : OrderedSet α) (a : α) : OrderedSet α :=
  if s.contains a then s else ⟨s.toList ++ [a]⟩

/-- A member less. -/
def erase (s : OrderedSet α) (a : α) : OrderedSet α := ⟨s.toList.filter fun b => !(b == a)⟩

/-- The members of a list, one after another. -/
def insertMany (s : OrderedSet α) (as : List α) : OrderedSet α := as.foldl insert s

/-- The set of the members of a list. -/
def ofList (as : List α) : OrderedSet α := empty.insertMany as

/-- The members of the left set, then those of the right set that are not among them. -/
def union (s t : OrderedSet α) : OrderedSet α := s.insertMany t.toList

/-- The members of the right set that the left set has too. -/
def inter (s t : OrderedSet α) : OrderedSet α := ⟨t.toList.filter s.contains⟩

/-- The members of the left set that the right set lacks. -/
def diff (s t : OrderedSet α) : OrderedSet α := ⟨s.toList.filter fun a => !t.contains a⟩

/-- The members of exactly one of two sets, those of the left set first. -/
def symmDiff (s t : OrderedSet α) : OrderedSet α := (s.diff t).union (t.diff s)

/-- Members taken away, one after another. -/
def eraseMany (s : OrderedSet α) (as : List α) : OrderedSet α := as.foldl erase s

/-- Each value becomes a member when it is none, and is taken away when it is one. -/
def toggle (s : OrderedSet α) (a : α) : OrderedSet α := if s.contains a then s.erase a else s.insert a

/-- Whether every member is one of the right set. -/
def isSubset (s t : OrderedSet α) : Bool := s.toList.all t.contains

/-- Whether two sets have no member in common. -/
def isDisjoint (s t : OrderedSet α) : Bool := !t.toList.any s.contains

/-- Whether two sets have the same members in any order. -/
def sameMembers (s t : OrderedSet α) : Bool := s.size == t.size && s.isSubset t

end OrderedSet

end Stencil
