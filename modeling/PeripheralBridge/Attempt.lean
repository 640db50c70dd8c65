/-!
# Attempts

An attempt acts on a state and either yields a value or fails; the state it leaves
behind is kept in both cases, because a failed step on a link has still written,
read or reset something.
-/

namespace PeripheralBridge

def Attempt (σ ε α : Type) : Type := σ → Except ε α × σ

namespace Attempt

variable {σ τ ε δ α β : Type}

instance : Monad (Attempt σ ε) where
  pure a := fun s => (.ok a, s)
  bind x f := fun s =>
    match x s with
    | (.ok a, s') => f a s'
    | (.error e, s') => (.error e, s')

instance : MonadExceptOf ε (Attempt σ ε) where
  throw e := fun s => (.error e, s)
  tryCatch x handle := fun s =>
    match x s with
    | (.ok a, s') => (.ok a, s')
    | (.error e, s') => handle e s'

@[simp] theorem pure_apply (a : α) (s : σ) : (pure a : Attempt σ ε α) s = (.ok a, s) := rfl

@[simp] theorem throw_apply (e : ε) (s : σ) : (throw e : Attempt σ ε α) s = (.error e, s) := rfl

theorem bind_apply (x : Attempt σ ε α) (f : α → Attempt σ ε β) (s : σ) :
    (x >>= f) s = match x s with
      | (.ok a, s') => f a s'
      | (.error e, s') => (.error e, s') := rfl

theorem bind_of_ok {x : Attempt σ ε α} {s s' : σ} {a : α} (h : x s = (.ok a, s'))
    (f : α → Attempt σ ε β) : (x >>= f) s = f a s' := by
  rw [bind_apply, h]

theorem bind_of_error {x : Attempt σ ε α} {s s' : σ} {e : ε} (h : x s = (.error e, s'))
    (f : α → Attempt σ ε β) : (x >>= f) s = (.error e, s') := by
  rw [bind_apply, h]

/-- A result that needs no state. -/
def ofExcept (r : Except ε α) : Attempt σ ε α := fun s => (r, s)

/-- Rename the failure; the states are those of `x`. -/
def mapError (f : ε → δ) (x : Attempt σ ε α) : Attempt σ δ α := fun s =>
  match x s with
  | (.ok a, s') => (.ok a, s')
  | (.error e, s') => (.error (f e), s')

theorem mapError_of_ok {x : Attempt σ ε α} {s s' : σ} {a : α} (h : x s = (.ok a, s'))
    (f : ε → δ) : x.mapError f s = (.ok a, s') := by
  rw [mapError, h]

theorem mapError_of_error {x : Attempt σ ε α} {s s' : σ} {e : ε} (h : x s = (.error e, s'))
    (f : ε → δ) : x.mapError f s = (.error (f e), s') := by
  rw [mapError, h]

theorem mapError_ofExcept (x : Except ε α) (f : ε → δ) (s : σ) :
    (ofExcept x).mapError f s = (x.mapError f, s) := by
  cases x <;> rfl

/-- Run an attempt on one part of a larger state. -/
def onPart (get : τ → σ) (set : σ → τ → τ) (x : Attempt σ ε α) : Attempt τ ε α := fun t =>
  let (r, s) := x (get t)
  (r, set s t)

def read (f : σ → α) : Attempt σ ε α := fun s => (.ok (f s), s)

def update (f : σ → σ) : Attempt σ ε Unit := fun s => (.ok (), f s)

@[simp] theorem ofExcept_apply (r : Except ε α) (s : σ) : ofExcept r s = (r, s) := rfl

@[simp] theorem read_apply (f : σ → α) (s : σ) : (read f : Attempt σ ε α) s = (.ok (f s), s) := rfl

@[simp] theorem update_apply (f : σ → σ) (s : σ) :
    (update f : Attempt σ ε Unit) s = (.ok (), f s) := rfl

end Attempt

end PeripheralBridge
