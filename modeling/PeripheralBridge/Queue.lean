/-!
# Queues

A queue takes elements at its end and gives them from its front, in the order of a list.
Later elements are kept last one first until the queue is read, so that a long queue takes
an element as fast as a short one.
-/

namespace PeripheralBridge

structure Queue (α : Type) where
  front : List α := []
  /-- The elements after those, last one first. -/
  back : List α := []
  deriving Repr

namespace Queue

variable {α : Type}

def toList (q : Queue α) : List α :=
  match q.back with
  | [] => q.front
  | back => q.front ++ back.reverse

def ofList (elements : List α) : Queue α := ⟨elements, []⟩

def push (q : Queue α) (a : α) : Queue α := { q with back := a :: q.back }

@[simp] theorem toList_ofList (elements : List α) : (ofList elements).toList = elements := rfl

theorem toList_eq (q : Queue α) : q.toList = q.front ++ q.back.reverse := by
  cases q with
  | mk front back => cases back <;> simp [toList]

@[simp] theorem toList_push (q : Queue α) (a : α) : (q.push a).toList = q.toList ++ [a] := by
  simp [toList_eq, push]

end Queue

end PeripheralBridge
