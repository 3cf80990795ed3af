/-! Items numbered from zero in the order in which they were added. None is ever taken away, so a
number keeps its meaning; the item under a number that is not in use is the default one. -/

set_option autoImplicit false

namespace Timetable

structure Store (α : Type) where
  items : Array α

namespace Store

variable {α : Type}

def empty : Store α := ⟨#[]⟩

instance : Inhabited (Store α) := ⟨empty⟩

def size (store : Store α) : Nat :=
  store.items.size

def get [Inhabited α] (store : Store α) (number : Nat) : α :=
  store.items[number]?.getD default

def add (store : Store α) (item : α) : Store α :=
  ⟨store.items.push item⟩

def update (store : Store α) (number : Nat) (change : α → α) : Store α :=
  ⟨store.items.modify number change⟩

@[simp] theorem size_empty : (empty : Store α).size = 0 := rfl

@[simp] theorem size_add (store : Store α) (item : α) :
    (store.add item).size = store.size + 1 := by
  simp [size, add]

@[simp] theorem size_update (store : Store α) (number : Nat) (change : α → α) :
    (store.update number change).size = store.size := by
  simp [size, update]

theorem get_add [Inhabited α] (store : Store α) (item : α) (number : Nat) :
    (store.add item).get number = if number = store.size then item else store.get number := by
  unfold get add size
  rw [Array.getElem?_push]
  split <;> rfl

theorem get_update [Inhabited α] (store : Store α) (number other : Nat) (change : α → α) :
    (store.update number change).get other =
      if other = number ∧ number < store.size then change (store.get other)
      else store.get other := by
  unfold get update size
  rw [Array.getElem?_modify]
  by_cases same : number = other
  · subst same
    by_cases within : number < store.items.size
    · simp [within]
    · simp [within]
  · simp [same, Ne.symm same]

end Store

end Timetable
