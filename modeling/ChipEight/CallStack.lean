/-!
# The return stack

Sixteen slots and a depth. A popped slot keeps its value until it is pushed over; `toList` is the
list of the addresses that are still to be returned to, the last pushed one at its end.
-/

namespace ChipEight

def stackDepth : Nat := 16

structure CallStack where
  slots : Vector UInt16 stackDepth
  depth : Nat
  depth_le : depth ≤ stackDepth
  deriving DecidableEq

namespace CallStack

def empty : CallStack := ⟨Vector.replicate _ 0, 0, Nat.zero_le _⟩

/-- The open return addresses, the first pushed one first. -/
def toList (s : CallStack) : List UInt16 := s.slots.toList.take s.depth

/-- Opens a call that returns to `a`, if a slot is free. -/
def push? (s : CallStack) (a : UInt16) : Option CallStack :=
  if h : s.depth < stackDepth then some ⟨s.slots.set s.depth a, s.depth + 1, h⟩ else none

/-- Closes the last call and gives its return address, if a call is open. -/
def pop? (s : CallStack) : Option (UInt16 × CallStack) :=
  if h : 0 < s.depth then
    have hd := s.depth_le
    have hi : s.depth - 1 < stackDepth := by omega
    some (s.slots[s.depth - 1], ⟨s.slots, s.depth - 1, by omega⟩)
  else none

theorem length_toList (s : CallStack) : s.toList.length = s.depth := by
  simp [toList, s.depth_le]

theorem toList_empty : empty.toList = [] := rfl

theorem toList_push? {s t : CallStack} {a : UInt16} (h : s.push? a = some t) :
    t.toList = s.toList ++ [a] := by
  unfold push? at h
  split at h
  · rename_i hd
    cases h
    simp only [toList, Vector.toList_set]
    rw [List.take_set, List.take_succ_eq_append_getElem (by simpa using hd)]
    simp [Nat.min_eq_left (Nat.le_of_lt hd)]
  · cases h

theorem toList_pop? {s t : CallStack} {a : UInt16} (h : s.pop? = some (a, t)) :
    s.toList = t.toList ++ [a] := by
  unfold pop? at h
  split at h
  · rename_i hd
    obtain ⟨rfl, rfl⟩ := h
    have hle := s.depth_le
    have hi : s.depth - 1 < s.slots.toList.length := by simp; omega
    have := List.take_succ_eq_append_getElem hi
    rw [Nat.sub_add_cancel hd] at this
    simpa [toList] using this
  · cases h

end CallStack

end ChipEight
