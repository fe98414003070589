import HaBluetooth.Gatt.Server

/-! Runs of writes and disconnects, and the frames they hand to `on_frame`. The receive buffer is a
reassembler that no disconnect resets. -/

namespace HaBluetooth.Gatt

open Python Protocol Support

inductive Event
  | write (value : Bytes)
  | disconnect
  deriving DecidableEq, Repr

def piece : Event → Option (Piece UInt8)
  | .write (flag :: payload) => some ⟨decide (flag = bleChunkFinal), payload⟩
  | .write [] | .disconnect => none

def pieces (evs : List Event) : List (Piece UInt8) := evs.filterMap piece

def frameOf : Callback → Option Bytes
  | .onFrame frame => some frame
  | .onConnect | .onDisconnect => none

namespace GattServer

def step (s : GattServer) : Event → GattServer
  | .write value => s.handleWrite value
  | .disconnect => s.markDisconnected

def run (s : GattServer) (evs : List Event) : GattServer := evs.foldl step s

def handed (s : GattServer) : List Bytes := (s.loop.getD []).filterMap frameOf

@[simp] lemma run_nil (s : GattServer) : s.run [] = s := rfl

@[simp] lemma run_cons (s : GattServer) (e : Event) (evs : List Event) :
    s.run (e :: evs) = (s.step e).run evs := rfl

lemma run_append (s : GattServer) (pre post : List Event) : s.run (pre ++ post) = (s.run pre).run post :=
  List.foldl_append

lemma step_reassembles (s : GattServer) (e : Event) (h : s.loop.isSome) :
    (s.step e).loop.isSome ∧ (s.step e).rxBuf = Reassembly.rest s.rxBuf (piece e).toList ∧
      (s.step e).handed = s.handed ++ Reassembly.frames s.rxBuf (piece e).toList := by
  obtain ⟨cs, hc⟩ := Option.isSome_iff_exists.mp h
  cases e with
  | disconnect =>
    cases hconn : s.connected <;>
      simp [step, markDisconnected, callSoon, handed, hconn, hc, piece, Reassembly.rest,
        Reassembly.frames, Reassembly.assemble, frameOf]
  | write value =>
    cases value with
    | nil => simp [step, handleWrite, h, piece, Reassembly.rest, Reassembly.frames, Reassembly.assemble]
    | cons flag payload =>
      by_cases hf : flag = bleChunkFinal
      · cases hconn : s.connected <;>
          simp [step, handleWrite, callSoon, handed, hconn, hc, hf, piece, Reassembly.rest,
            Reassembly.frames, Reassembly.assemble, frameOf, List.filterMap_cons]
      · simp [step, handleWrite, handed, hc, hf, piece, Reassembly.rest, Reassembly.frames,
          Reassembly.assemble]

lemma run_reassembles (s : GattServer) (evs : List Event) (h : s.loop.isSome) :
    (s.run evs).loop.isSome ∧ (s.run evs).rxBuf = Reassembly.rest s.rxBuf (pieces evs) ∧
      (s.run evs).handed = s.handed ++ Reassembly.frames s.rxBuf (pieces evs) := by
  induction evs generalizing s with
  | nil => simp [h, pieces, Reassembly.rest, Reassembly.frames, Reassembly.assemble]
  | cons e evs ih =>
    obtain ⟨hl, hb, hh⟩ := s.step_reassembles e h
    obtain ⟨hl', hb', hh'⟩ := ih (s.step e) hl
    have hp : pieces (e :: evs) = (piece e).toList ++ pieces evs := by
      cases he : piece e <;> simp [pieces, he]
    refine ⟨hl', ?_, ?_⟩
    · rw [run_cons, hb', hb, hp, Reassembly.rest_append]
    · rw [run_cons, hh', hh, hb, hp, Reassembly.frames_append, List.append_assoc]

def SessionsSeparate (s : GattServer) (evs : List Event) : Prop :=
  ∀ pre post, evs = pre ++ .disconnect :: post →
    (s.run evs).handed = (s.run (pre ++ [.disconnect])).handed ++ Reassembly.frames [] (pieces post)

/-- No disconnect finds a partial frame in the buffer, or no frame is completed after it. -/
def CleanDisconnects (s : GattServer) (evs : List Event) : Prop :=
  ∀ pre post, evs = pre ++ .disconnect :: post →
    (s.run pre).rxBuf = [] ∨ ∀ p ∈ pieces post, p.last = false

theorem sessions_separate_iff (s : GattServer) (evs : List Event) (h : s.loop.isSome) :
    s.SessionsSeparate evs ↔ s.CleanDisconnects evs := by
  refine forall₃_congr fun pre post he => ?_
  obtain ⟨hl, hb, -⟩ := s.run_reassembles pre h
  obtain ⟨hl', hb', -⟩ := (s.run pre).step_reassembles .disconnect hl
  obtain ⟨-, -, hh⟩ := ((s.run pre).step .disconnect).run_reassembles post hl'
  have hbuf : ((s.run pre).step .disconnect).rxBuf = (s.run pre).rxBuf := hb'
  rw [he, run_append, run_append, run_cons, run_cons, run_nil, hh, hbuf, List.append_cancel_left_eq,
    Reassembly.frames_pending]

theorem sessions_separate_reconnect :
    init.start.SessionsSeparate [.write [0x01, 0x41], .disconnect, .write [0x00, 0x42], .write [0x01, 0x43]] := by
  refine (sessions_separate_iff init.start _ rfl).mpr fun pre post he => Or.inl ?_
  rcases pre with _ | ⟨a, _ | ⟨b, pre⟩⟩
  · cases he
  · obtain ⟨rfl, -⟩ := List.cons.inj he
    rfl
  · have hmem : Event.disconnect ∈ [Event.write [0x00, 0x42], Event.write [0x01, 0x43]] := by
      rw [(List.cons.inj (List.cons.inj he).2).2]
      exact List.mem_append_right _ List.mem_cons_self
    simp at hmem

theorem stale_prefix_delivered :
    ¬ init.start.SessionsSeparate [.write [0x01, 0x41], .write [0x00, 0x42], .disconnect, .write [0x01, 0x43]] := by
  intro h
  have hh := h [.write [0x01, 0x41], .write [0x00, 0x42]] [.write [0x01, 0x43]] rfl
  revert hh
  decide

end GattServer

end HaBluetooth.Gatt
