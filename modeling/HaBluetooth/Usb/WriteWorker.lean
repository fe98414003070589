import HaBluetooth.Protocol.Resynchronisation
import HaBluetooth.Support.Runs
import HaBluetooth.Usb.Server

/-! One bridge session seen from its write queue, with senders on one side and the worker on the other. -/

namespace HaBluetooth.Usb

open Python Protocol Support

def UsbServer.queued (s : UsbServer) : List (Option Bytes) := s.writeQueue.elim [] BoundedQueue.items

structure WriteSession where
  server : UsbServer
  -- `_write_worker` has not left its loop
  working : Bool
  written : Bytes
  -- the payloads that found a free slot
  accepted : List Bytes

inductive WriteInput
  | send (data : Bytes)
  | work (write : Result Unit)

namespace WriteSession

def init : WriteSession := ⟨⟨some (.empty (Option Bytes) 64)⟩, true, [], []⟩

def send (s : WriteSession) (data : Bytes) : WriteSession :=
  match s.server.sendRaw data with
  | .error _ => s
  | .ok server =>
    if s.server.queued.length < server.queued.length then { s with server, accepted := s.accepted ++ [data] }
    else { s with server }

def leave (s : WriteSession) (server : UsbServer) : WriteSession := { s with server, working := false }

/-- One round of `_write_worker`, which waits while there is nothing in the queue. -/
def work (s : WriteSession) (write : Result Unit) : WriteSession :=
  if s.working then
    match s.server.writeQueue.bind BoundedQueue.get with
    | none => s
    | some (none, queue) => s.leave ⟨some queue⟩
    | some (some data, queue) =>
      match write with
      | .ok () => { s with server := ⟨some queue⟩, written := s.written ++ data }
      | .error _ => s.leave ⟨some queue⟩
  else s

def step (s : WriteSession) : WriteInput → WriteSession
  | .send data => s.send data
  | .work write => s.work write

def outstanding (s : WriteSession) : Bytes := (s.server.queued.filterMap id).flatten

end WriteSession

def WriteInput.Succeeds : WriteInput → Prop
  | .send data => 0 < data.length ∧ data.length ≤ 16 * 1024 * 1024
  | .work write => write = .ok ()

namespace UsbServer

lemma sendRaw_cases {s s' : UsbServer} {data : Bytes} (h : s.sendRaw data = .ok s') :
    s' = s ∨ ∃ frame, frameForUsb data = .ok frame ∧ s'.queued = s.queued ++ [some frame] := by
  obtain ⟨writeQueue⟩ := s
  cases writeQueue with
  | none => exact .inl (Except.ok.inj h).symm
  | some queue =>
    obtain ⟨frame, hframe, hput⟩ := bind_eq_ok.mp h
    cases hq : queue.put (some frame) with
    | none =>
      rw [hq] at hput
      exact .inl (Except.ok.inj hput).symm
    | some queue' =>
      rw [hq] at hput
      obtain rfl := Except.ok.inj hput
      exact .inr ⟨frame, hframe, (BoundedQueue.put_eq_some.mp hq).2⟩

lemma queued_get {s : UsbServer} {x : Option Bytes} {queue : BoundedQueue (Option Bytes) 64}
    (h : s.writeQueue.bind BoundedQueue.get = some (x, queue)) : s.queued = x :: queue.items := by
  obtain ⟨q, hq, hget⟩ := Option.bind_eq_some_iff.mp h
  rw [queued, hq]
  exact BoundedQueue.get_eq_some.mp hget

end UsbServer

/-! ### What was written and what waits are the accepted payloads -/

def Framed (payloads frames : List Bytes) : Prop :=
  List.Forall₂ (fun p frame => frameForUsb p = .ok frame) payloads frames

lemma readFrames_framed {payloads frames : List Bytes} (h : Framed payloads frames)
    (hsize : ∀ p ∈ payloads, 0 < p.length ∧ p.length ≤ usbMaxFrame) :
    readFrames payloads.length frames.flatten = .ok payloads [] := by
  induction h with
  | nil => rfl
  | @cons p frame payloads frames hf _ ih =>
    obtain ⟨⟨hp, hmax⟩, hrest⟩ := List.forall_mem_cons.mp hsize
    have hhead : rfcommReadFrame (frame ++ frames.flatten) = .ok p frames.flatten :=
      reads_of_implausible (g := []) hp hmax hf (Nat.zero_le _) frames.flatten (by simp)
    rw [List.length_cons, readFrames, List.flatten_cons, Reader.bind_ok _ hhead, Reader.bind_ok _ (ih hrest)]
    rfl

namespace WriteSession

structure Clean (s : WriteSession) : Prop where
  working : s.working = true
  sizes : ∀ p ∈ s.accepted, 0 < p.length ∧ p.length ≤ usbMaxFrame
  frames : ∃ done waiting, Framed s.accepted (done ++ waiting) ∧ s.written = done.flatten ∧
    s.server.queued = waiting.map some

lemma init_clean : init.Clean := ⟨rfl, by simp [init], [], [], .nil, rfl, rfl⟩

lemma send_dropped {s : WriteSession} {data : Bytes} (h : (s.send data).accepted = s.accepted) : s.send data = s := by
  rw [send] at h ⊢
  split
  · rfl
  · next server hsend =>
    rcases UsbServer.sendRaw_cases hsend with rfl | ⟨frame, -, hq⟩
    · rw [if_neg (lt_irrefl _)]
    · rw [hsend] at h
      simp [hq] at h

lemma send_clean {s : WriteSession} (h : s.Clean) {data : Bytes} (hd : 0 < data.length ∧ data.length ≤ usbMaxFrame) :
    (s.send data).Clean := by
  rw [send]
  split
  · exact h
  · next server hsend =>
    rcases UsbServer.sendRaw_cases hsend with rfl | ⟨frame, hframe, hq⟩
    · rw [if_neg (lt_irrefl _)]
      exact h
    · obtain ⟨done, waiting, hframed, hwritten, hqueue⟩ := h.frames
      rw [if_pos (by simp [hq])]
      have hsizes : ∀ p ∈ s.accepted ++ [data], 0 < p.length ∧ p.length ≤ usbMaxFrame :=
        List.forall_mem_append.mpr ⟨h.sizes, by simpa using hd⟩
      refine ⟨h.working, hsizes, done, waiting ++ [frame], ?_, hwritten, ?_⟩
      · rw [← List.append_assoc]
        exact List.rel_append hframed (.cons hframe .nil)
      · rw [hq, hqueue, List.map_append]
        rfl

lemma work_clean {s : WriteSession} (h : s.Clean) : (s.work (.ok ())).Clean := by
  obtain ⟨done, waiting, hframed, hwritten, hqueue⟩ := h.frames
  rw [work, if_pos h.working]
  cases hget : s.server.writeQueue.bind BoundedQueue.get with
  | none => exact h
  | some taken =>
    obtain ⟨item, queue⟩ := taken
    have hfirst := (UsbServer.queued_get hget).symm.trans hqueue
    cases waiting with
    | nil => cases hfirst
    | cons frame waiting =>
      obtain ⟨rfl, hrest⟩ := List.cons.inj hfirst
      refine ⟨h.working, h.sizes, done ++ [frame], waiting, ?_, ?_, hrest⟩
      · rwa [List.append_assoc]
      · simp [hwritten]

lemma step_clean (s : WriteSession) (i : WriteInput) (h : s.Clean) (hi : i.Succeeds) : (s.step i).Clean := by
  cases i with
  | send data => exact send_clean h hi
  | work write =>
    obtain rfl : write = .ok () := hi
    exact work_clean h

theorem usb_output_clean {inputs : List WriteInput} (h : ∀ i ∈ inputs, i.Succeeds) :
    let s := inputs.foldl step init
    (∃ frames, Framed s.accepted frames ∧ s.written ++ s.outstanding = frames.flatten) ∧
    readFrames s.accepted.length (s.written ++ s.outstanding) = .ok s.accepted [] ∧
    ∀ data, (s.send data).accepted = s.accepted → s.send data = s := by
  intro s
  have hs : s.Clean := Runs.invariant Clean step_clean init_clean h
  obtain ⟨done, waiting, hframed, hwritten, hqueue⟩ := hs.frames
  have hstream : s.written ++ s.outstanding = (done ++ waiting).flatten := by
    rw [outstanding, hwritten, hqueue, List.flatten_append]
    simp
  refine ⟨⟨_, hframed, hstream⟩, ?_, fun data => send_dropped⟩
  rw [hstream]
  exact readFrames_framed hframed hs.sizes

theorem two_payloads_out : readFrames 2 [0, 0, 0, 1, 0x41, 0, 0, 0, 2, 0x42, 0x43] = .ok [[0x41], [0x42, 0x43]] [] :=
  (@usb_output_clean [.send [0x41], .work (.ok ()), .send [0x42, 0x43]] (by simp [WriteInput.Succeeds])).2.1

end WriteSession

end HaBluetooth.Usb
