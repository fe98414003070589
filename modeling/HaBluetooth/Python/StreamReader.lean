import HaBluetooth.Python.Runtime

/-! An `asyncio.StreamReader` whose bytes have all arrived: a program on the bytes not yet read. -/

namespace HaBluetooth.Python

abbrev Reader := EStateM PyError Bytes

def incompleteRead (partialLen expected : ℕ) : PyError :=
  ⟨.incompleteReadError, s!"{partialLen} bytes read on a total of {expected} expected bytes"⟩

def readexactly (n : ℕ) : Reader Bytes := fun buffer =>
  if buffer.length < n then .error (incompleteRead buffer.length n) []
  else .ok (buffer.take n) (buffer.drop n)

namespace Reader

variable {α β : Type}

def lift : Result α → Reader α
  | .ok a => pure a
  | .error e => throw e

lemma lift_ok_bind (a : α) (f : α → Reader β) : lift (.ok a) >>= f = f a := rfl

lemma readexactly_append {n : ℕ} {bs : Bytes} (h : bs.length = n) (rest : Bytes) :
    readexactly n (bs ++ rest) = .ok bs rest := by
  have hn : ¬ (bs ++ rest).length < n := by simp [h]
  rw [readexactly, if_neg hn, List.take_left' h, List.drop_left' h]

lemma readexactly_one (b : UInt8) (rest : Bytes) : readexactly 1 (b :: rest) = .ok [b] rest :=
  @readexactly_append 1 [b] rfl rest

lemma readexactly_eq_ok {n : ℕ} {buffer bs rest : Bytes} :
    readexactly n buffer = .ok bs rest ↔ bs.length = n ∧ buffer = bs ++ rest := by
  constructor
  · intro h
    rw [readexactly] at h
    split at h
    · cases h
    · cases h
      exact ⟨List.length_take_of_le (by omega), (List.take_append_drop n buffer).symm⟩
  · rintro ⟨hn, rfl⟩
    exact readexactly_append hn rest

lemma bind_ok {x : Reader α} {buffer rest : Bytes} {a : α} (f : α → Reader β) (h : x buffer = .ok a rest) :
    (x >>= f) buffer = f a rest := by
  change EStateM.bind x f buffer = _
  rw [EStateM.bind, h]

lemma bind_error {x : Reader α} {buffer rest : Bytes} {e : PyError} (f : α → Reader β)
    (h : x buffer = .error e rest) : (x >>= f) buffer = .error e rest := by
  change EStateM.bind x f buffer = _
  rw [EStateM.bind, h]

lemma bind_eq_ok {x : Reader α} {f : α → Reader β} {buffer rest : Bytes} {b : β} :
    (x >>= f) buffer = .ok b rest ↔ ∃ a mid, x buffer = .ok a mid ∧ f a mid = .ok b rest := by
  constructor
  · intro h
    cases hx : x buffer with
    | error e mid =>
      rw [bind_error f hx] at h
      cases h
    | ok a mid => exact ⟨a, mid, rfl, by rwa [bind_ok f hx] at h⟩
  · rintro ⟨a, mid, hx, hf⟩
    rwa [bind_ok f hx]

end Reader

end HaBluetooth.Python
