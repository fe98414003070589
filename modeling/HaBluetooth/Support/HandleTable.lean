import HaBluetooth.Support.Handles
import Mathlib.Logic.Function.Basic

/-! Handles in a table with at most one for each key. The table is exact when the open handles are those in it,
each under one key only. -/

namespace HaBluetooth.Support

structure HandleTable (κ : Type) where
  handles : Handles
  holder : κ → Option ℕ

namespace HandleTable

variable {κ : Type}

def empty : HandleTable κ := ⟨.empty, fun _ => none⟩

structure Exact (t : HandleTable κ) : Prop where
  live : ∀ n, n ∈ t.handles.live ↔ ∃ k, t.holder k = some n
  apart : ∀ k k' n, t.holder k = some n → t.holder k' = some n → k = k'

lemma empty_exact : (empty : HandleTable κ).Exact where
  live n := by
    constructor
    · intro h
      cases h
    · rintro ⟨k, hk⟩
      cases hk
  apart k k' n h := by cases h

variable [DecidableEq κ] {t : HandleTable κ} {k : κ}

def issue (t : HandleTable κ) (k : κ) : HandleTable κ :=
  ⟨t.handles.issue, Function.update t.holder k (some t.handles.issued)⟩

def close (t : HandleTable κ) (k : κ) (n : ℕ) : HandleTable κ := ⟨t.handles.close n, Function.update t.holder k none⟩

lemma Exact.issue (h : t.Exact) (hk : t.holder k = none) : (t.issue k).Exact where
  live n := by
    change n ∈ insert t.handles.issued t.handles.live ↔
      ∃ k', Function.update t.holder k (some t.handles.issued) k' = some n
    rw [Finset.mem_insert, h.live]
    constructor
    · rintro (rfl | ⟨k', hk'⟩)
      · exact ⟨k, Function.update_self ..⟩
      · refine ⟨k', ?_⟩
        rw [Function.update_of_ne, hk']
        rintro rfl
        cases hk.symm.trans hk'
    · rintro ⟨k', hk'⟩
      by_cases he : k' = k
      · subst he
        rw [Function.update_self] at hk'
        exact .inl (Option.some.inj hk').symm
      · rw [Function.update_of_ne he] at hk'
        exact .inr ⟨k', hk'⟩
  apart k₁ k₂ n h₁ h₂ := by
    have hold {k' : κ} (hk' : t.holder k' = some t.handles.issued) : False :=
      t.handles.issued_not_live ((h.live _).mpr ⟨k', hk'⟩)
    change Function.update t.holder k (some t.handles.issued) _ = _ at h₁ h₂
    rw [Function.update_apply] at h₁ h₂
    split at h₁ <;> split at h₂
    · rename_i e₁ e₂
      exact e₁.trans e₂.symm
    · obtain rfl := Option.some.inj h₁
      exact (hold h₂).elim
    · obtain rfl := Option.some.inj h₂
      exact (hold h₁).elim
    · exact h.apart k₁ k₂ n h₁ h₂

lemma Exact.close {n : ℕ} (h : t.Exact) (hk : t.holder k = some n) : (t.close k n).Exact where
  live m := by
    change m ∈ t.handles.live.erase n ↔ ∃ k', Function.update t.holder k none k' = some m
    rw [Finset.mem_erase, h.live]
    constructor
    · rintro ⟨hm, k', hk'⟩
      refine ⟨k', ?_⟩
      rw [Function.update_of_ne, hk']
      rintro rfl
      exact hm (Option.some.inj (hk'.symm.trans hk))
    · rintro ⟨k', hk'⟩
      rw [Function.update_apply] at hk'
      split at hk'
      · cases hk'
      · rename_i hne
        refine ⟨?_, k', hk'⟩
        rintro rfl
        exact hne (h.apart k' k m hk' hk)
  apart k₁ k₂ m h₁ h₂ := by
    change Function.update t.holder k none _ = _ at h₁ h₂
    rw [Function.update_apply] at h₁ h₂
    split at h₁ <;> split at h₂
    · cases h₁
    · cases h₁
    · cases h₂
    · exact h.apart k₁ k₂ m h₁ h₂

end HandleTable

end HaBluetooth.Support
