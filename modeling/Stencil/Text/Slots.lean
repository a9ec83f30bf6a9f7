/-!
# Lists that are read over

When a member of a record comes twice, a reader reads the second value onto the first. For a list
that means that its items are read onto those that stood in their places before, also those that
an even earlier list had and a shorter one left over. `Slots` keeps them.
-/

namespace Stencil

/-- **A list, and what earlier lists have left behind its end.** -/
structure Slots (α : Type) where
  /-- The items. -/
  items : List α := []
  /-- What is left over behind them. -/
  spare : List α := []
  deriving Repr

namespace Slots

/-- What stands in the places of the list, from the first on. -/
def places (s : Slots α) : List α := s.items ++ s.spare

/-- The slots with other items in the first places. -/
def refill (s : Slots α) (items : List α) : Slots α := ⟨items, s.places.drop items.length⟩

end Slots

end Stencil
