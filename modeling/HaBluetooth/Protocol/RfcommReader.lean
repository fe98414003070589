import HaBluetooth.Protocol.UsbFrames
import HaBluetooth.Python.StreamReader

/-! Reading length-prefixed frames from the serial line. The reader takes the first four bytes that
can be a length for the header of a frame. -/

namespace HaBluetooth.Protocol

open Python Support

def usbMaxFrame : ℕ := 16 * 1024 * 1024

def usbMaxResyncBytes : ℕ := 4096

def Plausible (header : Bytes) : Prop := 0 < BigEndian.value header ∧ BigEndian.value header ≤ usbMaxFrame

instance (header : Bytes) : Decidable (Plausible header) := inferInstanceAs (Decidable (_ ∧ _))

def resyncFailed : PyError :=
  ⟨.valueError, s!"USB stream resync failed after {usbMaxResyncBytes} bytes — bridge will restart"⟩

def resync (skipped : ℕ) (header : Bytes) : Reader Bytes :=
  if Plausible header then readexactly (BigEndian.value header)
  else if usbMaxResyncBytes < skipped + 1 then throw resyncFailed
  else do
    let nextByte ← readexactly 1
    resync (skipped + 1) (header.drop 1 ++ nextByte)
termination_by usbMaxResyncBytes - skipped

def rfcommReadFrame : Reader Bytes := do
  let header ← readexactly 4
  resync 0 header

def readFrames : ℕ → Reader (List Bytes)
  | 0 => pure []
  | n + 1 => do
    let frame ← rfcommReadFrame
    let frames ← readFrames n
    return frame :: frames

/-! ### A frame takes something off the stream -/

lemma resync_shortens {skipped : ℕ} {header buffer frame rest : Bytes}
    (h : resync skipped header buffer = .ok frame rest) : rest.length ≤ buffer.length := by
  fun_induction resync skipped header generalizing buffer with
  | case1 =>
    obtain ⟨-, rfl⟩ := Reader.readexactly_eq_ok.mp h
    simp
  | case2 => cases h
  | case3 skipped header hp hs ih =>
    obtain ⟨nextByte, mid, hread, hrest⟩ := Reader.bind_eq_ok.mp h
    obtain ⟨-, rfl⟩ := Reader.readexactly_eq_ok.mp hread
    have hmid := ih nextByte hrest
    rw [List.length_append]
    omega

lemma rfcommReadFrame_shortens {buffer frame rest : Bytes} (h : rfcommReadFrame buffer = .ok frame rest) :
    rest.length < buffer.length := by
  obtain ⟨header, mid, hread, hrest⟩ := Reader.bind_eq_ok.mp h
  obtain ⟨hlen, rfl⟩ := Reader.readexactly_eq_ok.mp hread
  have hmid := resync_shortens hrest
  rw [List.length_append]
  omega

/-! ### The first plausible window -/

def window (bs : Bytes) (i : ℕ) : Bytes := (bs.drop i).take 4

lemma resync_skips {g w rest : Bytes} {skipped : ℕ} (hw : w.length = 4) (hp : Plausible w)
    (hs : skipped + g.length ≤ usbMaxResyncBytes) (hg : ∀ i < g.length, ¬ Plausible (window (g ++ w) i)) :
    resync skipped ((g ++ w).take 4) ((g ++ w).drop 4 ++ rest) = readexactly (BigEndian.value w) rest := by
  induction g generalizing skipped with
  | nil =>
    have ht : w.take 4 = w := List.take_of_length_le hw.le
    have hd : w.drop 4 = [] := List.drop_eq_nil_of_le hw.le
    rw [List.nil_append, ht, hd, List.nil_append, resync, if_pos hp]
  | cons b g ih =>
    have hhead : ¬ Plausible ((b :: g ++ w).take 4) := hg 0 (by simp)
    have hlen : (b :: g).length = g.length + 1 := rfl
    obtain ⟨c, t, hct⟩ : ∃ c t, (g ++ w).drop 3 = c :: t := by
      refine List.exists_cons_of_ne_nil fun hnil => ?_
      have hl := List.drop_eq_nil_iff.mp hnil
      rw [List.length_append] at hl
      omega
    have hnext : (g ++ w).take 4 = ((b :: g ++ w).take 4).drop 1 ++ [c] := by
      rw [show 4 = 3 + 1 from rfl, List.take_add, hct]
      rfl
    have hrest : (g ++ w).drop 4 = t := by
      rw [show 4 = 3 + 1 from rfl, ← List.drop_drop, hct]
      rfl
    have hdrop : (b :: g ++ w).drop 4 = [c] ++ t := hct
    rw [resync, if_neg hhead, if_neg (by omega), hdrop, List.append_assoc, List.singleton_append,
      Reader.bind_ok _ (Reader.readexactly_one c _), ← hnext, ← hrest]
    exact ih (by omega) fun i hi => hg (i + 1) (by omega)

lemma rfcommReadFrame_skips {g w rest : Bytes} (hw : w.length = 4) (hp : Plausible w)
    (hs : g.length ≤ usbMaxResyncBytes) (hg : ∀ i < g.length, ¬ Plausible (window (g ++ w) i)) :
    rfcommReadFrame (g ++ w ++ rest) = readexactly (BigEndian.value w) rest := by
  have hsplit : g ++ w ++ rest = (g ++ w).take 4 ++ ((g ++ w).drop 4 ++ rest) := by
    rw [← List.append_assoc, List.take_append_drop]
  have hlen : ((g ++ w).take 4).length = 4 := by
    simp
    omega
  rw [hsplit, rfcommReadFrame, Reader.bind_ok _ (Reader.readexactly_append hlen _)]
  exact resync_skips hw hp (by omega) hg

end HaBluetooth.Protocol
