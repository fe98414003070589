import Mathlib.Data.Finset.Option

/-! Handles given out one after another, which of them are still open, and a holder who has one at a
time: whoever lets go of a handle without closing it has leaked it for good. -/

namespace HaBluetooth.Support

structure Handles where
  issued : ℕ
  live : Finset ℕ
  live_lt : ∀ n ∈ live, n < issued

namespace Handles

def empty : Handles := ⟨0, ∅, by simp⟩

/-- The new handle is the number `issued` had. -/
def issue (h : Handles) : Handles where
  issued := h.issued + 1
  live := insert h.issued h.live
  live_lt := by
    intro n hn
    rcases Finset.mem_insert.mp hn with rfl | hlive
    · exact Nat.lt_succ_self _
    · exact Nat.lt_succ_of_lt (h.live_lt n hlive)

def close (h : Handles) (n : ℕ) : Handles where
  issued := h.issued
  live := h.live.erase n
  live_lt := fun m hm => h.live_lt m (Finset.mem_of_mem_erase hm)

lemma issued_not_live (h : Handles) : h.issued ∉ h.live := fun hn => lt_irrefl _ (h.live_lt _ hn)

lemma issue_close (h : Handles) : (h.issue.close h.issued).live = h.live := Finset.erase_insert h.issued_not_live

end Handles

structure Holding where
  handles : Handles
  holder : Option ℕ

namespace Holding

def dropped (s : Holding) : Holding := { s with holder := none }

inductive Tended : Holding → Holding → Prop
  | kept (s : Holding) : Tended s s
  | issued (h : Handles) : Tended ⟨h, none⟩ ⟨h.issue, some h.issued⟩
  | closed (h : Handles) (n : ℕ) : Tended ⟨h, some n⟩ ⟨h.close n, none⟩

def Exact (s : Holding) : Prop := s.handles.live = s.holder.toFinset

def Sound (s : Holding) : Prop := ∀ n, s.holder = some n → n ∈ s.handles.live

def Leaked (n : ℕ) (s : Holding) : Prop := n ∈ s.handles.live ∧ s.holder ≠ some n

variable {s s' : Holding} {n : ℕ}

lemma Exact.card_le_one (hs : s.Exact) : s.handles.live.card ≤ 1 := by
  obtain ⟨handles, holder⟩ := s
  rw [show handles.live = holder.toFinset from hs, Option.card_toFinset]
  cases holder with
  | none => exact Nat.zero_le 1
  | some _ => exact le_rfl

lemma Exact.nothing_live (hs : s.Exact) (h : s.holder = none) : s.handles.live = ∅ := by
  rw [hs, h]
  rfl

lemma Exact.close (hs : s.Exact) (h : s.holder = none) (n : ℕ) : Exact ⟨s.handles.close n, none⟩ := by
  change s.handles.live.erase n = ∅
  rw [hs.nothing_live h, Finset.erase_empty]

lemma Tended.exact (h : s.Tended s') (hs : s.Exact) : s'.Exact := by
  cases h with
  | kept => exact hs
  | issued h =>
    change insert h.issued h.live = {h.issued}
    rw [show h.live = ∅ from hs]
    rfl
  | closed h n =>
    change h.live.erase n = ∅
    rw [show h.live = {n} from hs]
    exact Finset.erase_singleton n

lemma Tended.sound (h : s.Tended s') (hs : s.Sound) : s'.Sound := by
  cases h with
  | kept => exact hs
  | issued h =>
    rintro n ⟨⟩
    exact Finset.mem_insert_self _ _
  | closed => exact nofun

lemma Tended.leaked (h : s.Tended s') (hs : s.Leaked n) : s'.Leaked n := by
  cases h with
  | kept => exact hs
  | issued h =>
    refine ⟨Finset.mem_insert_of_mem hs.1, ?_⟩
    simpa using (h.live_lt n hs.1).ne'
  | closed h m =>
    refine ⟨Finset.mem_erase.mpr ⟨?_, hs.1⟩, nofun⟩
    rintro rfl
    exact hs.2 rfl

lemma sound_dropped : s.dropped.Sound := nofun

lemma Leaked.dropped (hs : s.Leaked n) : s.dropped.Leaked n := ⟨hs.1, nofun⟩

lemma Sound.leaked_dropped (hs : s.Sound) (h : s.holder = some n) : s.dropped.Leaked n := ⟨hs n h, nofun⟩

end Holding

end HaBluetooth.Support
