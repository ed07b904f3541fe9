/-!
# Stack — a stack that knows its height

The newest item comes first.  The height is kept beside the items, so that to ask for it costs nothing however many
items there are.
-/
namespace Remedy

/-- **A stack.** -/
structure Stack (α : Type) where
  items : List α
  height : Nat
  height_eq : items.length = height

namespace Stack

def empty : Stack α := ⟨[], 0, rfl⟩

instance : Inhabited (Stack α) := ⟨empty⟩

def push (s : Stack α) (a : α) : Stack α := ⟨a :: s.items, s.height + 1, by simp [s.height_eq]⟩

def pop? : Stack α → Option (α × Stack α)
  | ⟨[], _, _⟩ => none
  | ⟨a :: rest, height, e⟩ => some (a, ⟨rest, height - 1, by simp [← e]⟩)

def above (s : Stack α) (height : Nat) : List α := (s.items.take (s.height - height)).reverse

/-- **Takes off all items above a height.** -/
def cut (s : Stack α) (height : Nat) : Stack α :=
  ⟨s.items.drop (s.height - height), s.height - (s.height - height), by simp [s.height_eq]⟩

/-- **Takes out all items up to a height**, which are the oldest. -/
def skip (s : Stack α) (height : Nat) : Stack α :=
  ⟨s.items.take (s.height - height), s.height - height, by simp [s.height_eq]⟩

theorem above_cut (s : Stack α) (height : Nat) : (s.above height).reverse ++ (s.cut height).items = s.items := by
  simp [above, cut]

end Stack

end Remedy
