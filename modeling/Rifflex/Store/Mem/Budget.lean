import Mathlib.Tactic

namespace Rifflex.Mem

-- Every method of `MemoryBudget` returns `Ok(true)`, so only the new inner state is kept.
structure BudgetInner where
  allocated : Int
  used : Int
  allocationIncCounter : Int
deriving DecidableEq, Repr

namespace BudgetInner

def new : BudgetInner := ⟨0, 0, 0⟩

def requireAllocated (inner : BudgetInner) (capacity size : Int) : BudgetInner × Bool × Int :=
  let remaining := capacity - inner.allocated - inner.used
  if remaining < size then (inner, false, -1)
  else
    ({ inner with allocated := inner.allocated + size,
                  allocationIncCounter := inner.allocationIncCounter + 1 },
     true, inner.allocationIncCounter + 1)

def moveAllocatedToUsed (inner : BudgetInner) (size : Int) : BudgetInner :=
  if inner.allocated < size then { inner with allocated := 0, used := inner.used + inner.allocated }
  else { inner with allocated := inner.allocated - size, used := inner.used + size }

def incUsed (inner : BudgetInner) (size : Int) : BudgetInner :=
  { inner with used := inner.used + size }

def decUsed (inner : BudgetInner) (size : Int) : BudgetInner :=
  if inner.used < size then { inner with used := 0 } else { inner with used := inner.used - size }

def decAllocated (inner : BudgetInner) (size : Int) : BudgetInner :=
  if inner.allocated < size then { inner with allocated := 0 }
  else { inner with allocated := inner.allocated - size }

theorem requireAllocated_ok {inner : BudgetInner} {capacity size : Int}
    (h : (inner.requireAllocated capacity size).2.1 = true) :
    size ≤ capacity - inner.allocated - inner.used ∧
      (inner.requireAllocated capacity size).1 =
        { inner with allocated := inner.allocated + size,
                     allocationIncCounter := inner.allocationIncCounter + 1 } ∧
      (inner.requireAllocated capacity size).2.2 = inner.allocationIncCounter + 1 := by
  by_cases hr : capacity - inner.allocated - inner.used < size
  · simp [requireAllocated, hr] at h
  · simp only [requireAllocated, hr, if_false, and_true]
    omega

theorem requireAllocated_rejected {inner : BudgetInner} {capacity size : Int}
    (h : (inner.requireAllocated capacity size).2.1 = false) :
    (inner.requireAllocated capacity size).1 = inner := by
  by_cases hr : capacity - inner.allocated - inner.used < size
  · simp [requireAllocated, hr]
  · simp [requireAllocated, hr] at h

@[simp] theorem moveAllocatedToUsed_used (inner : BudgetInner) (size : Int) :
    (inner.moveAllocatedToUsed size).used = inner.used + min inner.allocated size := by
  unfold moveAllocatedToUsed
  split <;> simp <;> omega

@[simp] theorem moveAllocatedToUsed_allocated (inner : BudgetInner) (size : Int) :
    (inner.moveAllocatedToUsed size).allocated = inner.allocated - min inner.allocated size := by
  unfold moveAllocatedToUsed
  split <;> simp <;> omega

@[simp] theorem moveAllocatedToUsed_counter (inner : BudgetInner) (size : Int) :
    (inner.moveAllocatedToUsed size).allocationIncCounter = inner.allocationIncCounter := by
  unfold moveAllocatedToUsed
  split <;> rfl

@[simp] theorem decUsed_used (inner : BudgetInner) (size : Int) :
    (inner.decUsed size).used = if inner.used < size then 0 else inner.used - size := by
  unfold decUsed
  split <;> rfl

@[simp] theorem decUsed_allocated (inner : BudgetInner) (size : Int) :
    (inner.decUsed size).allocated = inner.allocated := by
  unfold decUsed
  split <;> rfl

@[simp] theorem decUsed_counter (inner : BudgetInner) (size : Int) :
    (inner.decUsed size).allocationIncCounter = inner.allocationIncCounter := by
  unfold decUsed
  split <;> rfl

@[simp] theorem decAllocated_allocated (inner : BudgetInner) (size : Int) :
    (inner.decAllocated size).allocated = if inner.allocated < size then 0 else inner.allocated - size := by
  unfold decAllocated
  split <;> rfl

@[simp] theorem decAllocated_used (inner : BudgetInner) (size : Int) :
    (inner.decAllocated size).used = inner.used := by
  unfold decAllocated
  split <;> rfl

@[simp] theorem decAllocated_counter (inner : BudgetInner) (size : Int) :
    (inner.decAllocated size).allocationIncCounter = inner.allocationIncCounter := by
  unfold decAllocated
  split <;> rfl

end BudgetInner

structure MemoryBudget where
  capacity : Int
  inner : BudgetInner
deriving DecidableEq, Repr

def MemoryBudget.new (capacity : Int) : MemoryBudget := ⟨capacity, BudgetInner.new⟩

end Rifflex.Mem
