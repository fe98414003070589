import Mathlib.Data.List.Basic

/-! Logs whose items have words: the words of the last item that has any. -/

namespace HaBluetooth.Support

variable {β γ : Type} (words : β → List γ) (P : γ → Prop)

def LastWord (log : List β) : Prop :=
  ∀ before item after, log = before ++ item :: after → (∀ later ∈ after, words later = []) → ∀ c ∈ words item, P c

namespace LastWord

variable {words P} {xs ys zs : List β}

lemma nil : LastWord words P [] := fun before item after h => by simp at h

lemma of_forall (h : ∀ x ∈ xs, ∀ c ∈ words x, P c) : LastWord words P xs :=
  fun before item after hx _ => h item (by simp [hx])

lemma append_iff : LastWord words P (xs ++ ys) ↔
    LastWord words P ys ∧ ((∀ y ∈ ys, words y = []) → LastWord words P xs) := by
  constructor
  · intro h
    refine ⟨fun before item after hy => h (xs ++ before) item after (by simp [hy]), fun hq => ?_⟩
    intro before item after hx hafter
    apply h before item (after ++ ys)
    · simp [hx]
    · intro later hl
      exact (List.mem_append.mp hl).elim (hafter later) (hq later)
  · rintro ⟨hys, hxs⟩ before item after h hafter
    rcases List.append_eq_append_iff.mp h with ⟨t, rfl, ht⟩ | ⟨t, rfl, ht⟩
    · exact hys t item after ht hafter
    · cases t with
      | nil => exact hys [] item after ht.symm hafter
      | cons y t =>
        obtain ⟨rfl, rfl⟩ := List.cons.inj ht
        obtain ⟨hquiet, hlater⟩ := List.forall_mem_append.mp hafter
        exact hxs hlater before item t rfl hquiet

lemma insert (h : LastWord words P (xs ++ zs)) (hy : ∀ y ∈ ys, ∀ c ∈ words y, P c) :
    LastWord words P (xs ++ ys ++ zs) := by
  rw [append_iff] at h ⊢
  refine ⟨h.1, fun hz => append_iff.mpr ⟨of_forall hy, fun _ => h.2 hz⟩⟩

lemma append_speaking {item : β} (h : words item ≠ []) (hc : ∀ c ∈ words item, P c) : LastWord words P (xs ++ [item]) :=
  append_iff.mpr ⟨of_forall (by simpa using hc), fun hq => absurd (hq item (List.mem_singleton_self _)) h⟩

lemma append_silent {item : β} (h : words item = []) (hx : LastWord words P xs) : LastWord words P (xs ++ [item]) :=
  append_iff.mpr ⟨of_forall (by simp [h]), fun _ => hx⟩

end LastWord

end HaBluetooth.Support
