/-!
# Stable sorting of lists

A list sorted by a total preorder `le` ("`a` may go before `b`"), elements that `le` finds
equal keeping the order they had: the list a merge sort gives. It is built by inserting the
elements from the last one on, so a list already sorted takes one comparison an element.

* `sortStable le l` is the sorted list.
-/

namespace LogStore.Order

variable {α : Type}

/-- `a` put before the first element that `le` lets it go before: into a sorted list, after the
elements strictly before it and before those equal to it. -/
def insertSorted (le : α → α → Bool) (a : α) : List α → List α
  | [] => [a]
  | b :: bs => if le a b then a :: b :: bs else b :: insertSorted le a bs

/-- The elements sorted by `le`, a total preorder; those it finds equal keep their order. -/
def sortStable (le : α → α → Bool) (l : List α) : List α :=
  l.foldr (insertSorted le) []

end LogStore.Order
