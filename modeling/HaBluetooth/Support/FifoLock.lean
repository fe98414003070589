import Mathlib.Data.List.Basic

/-! Mutual-exclusion locks whose waiters are served first come, first served. A waiter that was woken
takes the lock in a step of its own. -/

namespace HaBluetooth.Support

structure FifoLock (α : Type) where
  locked : Bool
  waiters : List α
  deriving Repr

namespace FifoLock

variable {α : Type}

def free : FifoLock α := ⟨false, []⟩

def acquire (l : FifoLock α) (a : α) : FifoLock α × Option α :=
  if !l.locked && l.waiters.isEmpty then (⟨true, []⟩, some a) else (⟨l.locked, l.waiters ++ [a]⟩, none)

def release (l : FifoLock α) : FifoLock α := { l with locked := false }

def wake (l : FifoLock α) : FifoLock α × Option α :=
  match l with
  | ⟨false, a :: waiters⟩ => (⟨true, waiters⟩, some a)
  | l => (l, none)

lemma acquire_order (l : FifoLock α) (a : α) :
    (l.acquire a).2.toList ++ (l.acquire a).1.waiters = l.waiters ++ [a] := by
  obtain ⟨locked, waiters⟩ := l
  cases locked <;> cases waiters <;> rfl

lemma wake_order (l : FifoLock α) : l.wake.2.toList ++ l.wake.1.waiters = l.waiters := by
  obtain ⟨locked, waiters⟩ := l
  cases locked <;> cases waiters <;> rfl

end FifoLock

end HaBluetooth.Support
