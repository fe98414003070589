import Mathlib.Tactic

/-! Frames cut into pieces, of which the last one is marked, and put together again. -/

namespace HaBluetooth.Support

structure Piece (α : Type) where
  last : Bool
  content : List α
  deriving DecidableEq, Repr

namespace Reassembly

variable {α : Type}

/-- The frames completed from a pending prefix, and the prefix left pending at the end. -/
def assemble (pending : List α) : List (Piece α) → List (List α) × List α
  | [] => ([], pending)
  | p :: ps =>
    if p.last then ((pending ++ p.content) :: (assemble [] ps).1, (assemble [] ps).2)
    else assemble (pending ++ p.content) ps

def frames (pending : List α) (ps : List (Piece α)) : List (List α) := (assemble pending ps).1

def rest (pending : List α) (ps : List (Piece α)) : List α := (assemble pending ps).2

lemma frames_append (pending : List α) (ps qs : List (Piece α)) :
    frames pending (ps ++ qs) = frames pending ps ++ frames (rest pending ps) qs := by
  induction ps generalizing pending with
  | nil => rfl
  | cons p ps ih =>
    simp only [frames, rest] at ih ⊢
    cases hp : p.last <;> simp [assemble, hp, ih]

lemma rest_append (pending : List α) (ps qs : List (Piece α)) :
    rest pending (ps ++ qs) = rest (rest pending ps) qs := by
  induction ps generalizing pending with
  | nil => rfl
  | cons p ps ih =>
    simp only [rest] at ih ⊢
    cases hp : p.last <;> simp [assemble, hp, ih]

lemma frames_open {ps : List (Piece α)} (h : ∀ p ∈ ps, p.last = false) (pending : List α) :
    frames pending ps = [] := by
  induction ps generalizing pending with
  | nil => rfl
  | cons p ps ih =>
    have hp := h p List.mem_cons_self
    simpa [frames, assemble, hp] using ih (fun q hq => h q (List.mem_cons_of_mem p hq)) _

lemma assemble_closed {ps : List (Piece α)} (h : ∀ p ∈ ps, p.last = false) {q : Piece α} (hq : q.last = true)
    (pending : List α) :
    assemble pending (ps ++ [q]) = ([pending ++ (ps ++ [q]).flatMap Piece.content], []) := by
  induction ps generalizing pending with
  | nil => simp [assemble, hq]
  | cons p ps ih =>
    obtain ⟨hp, hps⟩ := List.forall_mem_cons.mp h
    rw [List.cons_append, assemble, hp, if_neg Bool.false_ne_true, ih hps, List.flatMap_cons, List.append_assoc]

lemma frames_head {ps : List (Piece α)} (h : ∃ p ∈ ps, p.last = true) :
    ∃ f fs, ∀ pending, frames pending ps = (pending ++ f) :: fs := by
  induction ps with
  | nil => simp at h
  | cons p ps ih =>
    cases hp : p.last with
    | true => exact ⟨p.content, frames [] ps, fun pending => by simp [frames, assemble, hp]⟩
    | false =>
      obtain ⟨q, hq, hl⟩ := h
      have hmem : q ∈ ps := by
        rcases List.mem_cons.mp hq with rfl | hq
        · simp [hp] at hl
        · exact hq
      obtain ⟨f, fs, hh⟩ := ih ⟨q, hmem, hl⟩
      refine ⟨p.content ++ f, fs, fun pending => ?_⟩
      simpa [frames, assemble, hp] using hh (pending ++ p.content)

lemma pending_prefix (pending : List α) (ps : List (Piece α)) :
    pending <+: (frames pending ps).headD (rest pending ps) := by
  induction ps generalizing pending with
  | nil => exact List.prefix_refl _
  | cons p ps ih =>
    rw [frames, rest, assemble]
    split
    · exact List.prefix_append _ _
    · exact (List.prefix_append _ _).trans (ih _)

lemma frames_pending (pending : List α) (ps : List (Piece α)) :
    frames pending ps = frames [] ps ↔ pending = [] ∨ ∀ p ∈ ps, p.last = false := by
  constructor
  · intro h
    by_contra! hn
    obtain ⟨hne, p, hp, hlast⟩ := hn
    obtain ⟨f, fs, hh⟩ := frames_head ⟨p, hp, by simpa using hlast⟩
    rw [hh pending, hh []] at h
    exact hne (by simpa using h)
  · rintro (rfl | h)
    · rfl
    · rw [frames_open h, frames_open h]

end Reassembly

end HaBluetooth.Support
