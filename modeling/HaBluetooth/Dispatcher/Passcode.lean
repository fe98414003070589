import HaBluetooth.Dispatcher.Handlers

/-! What a client without the passcode learns: any well-formed packet of its own is answered with
a packet that carries the configured passcode. -/

namespace HaBluetooth.Dispatcher

open Python Protocol Support

namespace PacketDispatcher

variable (py : Library) (self : PacketDispatcher)

def receive (raws : List Bytes) : Run Unit := Traced.forEach (self.handleIncomingPacket py) raws

variable {py self}

lemma handle_malformed {raw : Bytes} (h : decodePacket raw = none) : self.handleIncomingPacket py raw = pure () := by
  rw [handleIncomingPacket, h]

lemma handle_stranger {raw payload : Bytes} {p c : ℕ} (h : decodePacket raw = some (p, c, payload))
    (hp : p ≠ self.passcode.toNat) :
    self.handleIncomingPacket py raw = self.sendPacket cmdNack (errorDict "wrong passcode") := by
  rw [handleIncomingPacket, h]
  exact if_pos hp

variable (self) in
lemma nack_reveals : ∃ packet payload,
    Run.sent (self.sendPacket cmdNack (errorDict "wrong passcode")) = [packet] ∧
      decodePacket packet = some (self.passcode.toNat, cmdNack, payload) := by
  obtain ⟨packet, payload, he, -, hd⟩ := encodePacketJson_ok (c := cmdNack) (v := errorDict "wrong passcode")
    self.passcode.toNat_lt (by decide) rfl (by decide)
  refine ⟨packet, payload, ?_, hd⟩
  rw [Run.sent, Traced.observed, sendPacket, he]
  rfl

lemma receive_malformed {raws : List Bytes} (h : ∀ raw ∈ raws, decodePacket raw = none) :
    self.receive py raws = pure () := by
  induction raws with
  | nil => rfl
  | cons raw raws ih =>
    obtain ⟨hraw, hraws⟩ := List.forall_mem_cons.mp h
    rw [receive, Traced.forEach_cons, handle_malformed hraw]
    exact ih hraws

variable (py self) in
lemma receive_reveals {raws : List Bytes}
    (hw : ∀ raw ∈ raws, ∀ c payload, decodePacket raw ≠ some (self.passcode.toNat, c, payload))
    (hd : ¬ ∀ raw ∈ raws, decodePacket raw = none) :
    ∃ packet payload, [packet] <+: Run.sent (self.receive py raws) ∧
      decodePacket packet = some (self.passcode.toNat, cmdNack, payload) := by
  induction raws with
  | nil => simp at hd
  | cons raw raws ih =>
    obtain ⟨hraw, hraws⟩ := List.forall_mem_cons.mp hw
    rw [receive, Traced.forEach_cons]
    cases hr : decodePacket raw with
    | none =>
      rw [handle_malformed hr]
      exact ih hraws fun hh => hd (List.forall_mem_cons.mpr ⟨hr, hh⟩)
    | some r =>
      obtain ⟨p, c, payload⟩ := r
      have hp : p ≠ self.passcode.toNat := by
        rintro rfl
        exact hraw c payload hr
      obtain ⟨packet, payload, hs, hdec⟩ := self.nack_reveals
      rw [handle_stranger hr hp]
      refine ⟨packet, payload, ?_, hdec⟩
      rw [← hs]
      exact Traced.observed_prefix _ _ _

end PacketDispatcher

def Strangers (p : UInt32) (raws : List Bytes) : Prop :=
  ∀ raw ∈ raws, ∀ c payload, decodePacket raw ≠ some (p.toNat, c, payload)

lemma head_eq {α : Type} {a b : α} {l : List α} (ha : [a] <+: l) (hb : [b] <+: l) : a = b := by
  obtain ⟨s, rfl⟩ := ha
  obtain ⟨t, ht⟩ := hb
  exact (List.cons.inj ht).1.symm

section

variable (py : Library) (hass : Hass) (sendRaw : Bytes → Result Unit) {p q : UInt32} {raws : List Bytes}

lemma sent_ne (hp : Strangers p raws) (hq : Strangers q raws) (hne : p ≠ q)
    (hd : ¬ ∀ raw ∈ raws, decodePacket raw = none) :
    Run.sent (PacketDispatcher.receive py ⟨hass, p, sendRaw⟩ raws) ≠
      Run.sent (PacketDispatcher.receive py ⟨hass, q, sendRaw⟩ raws) := by
  intro he
  obtain ⟨a, _, ha, hda⟩ := PacketDispatcher.receive_reveals py ⟨hass, p, sendRaw⟩ hp hd
  obtain ⟨b, _, hb, hdb⟩ := PacketDispatcher.receive_reveals py ⟨hass, q, sendRaw⟩ hq hd
  rw [he] at ha
  rw [head_eq ha hb, hdb] at hda
  exact hne (UInt32.toNat_inj.mp (Prod.mk.inj (Option.some.inj hda)).1.symm)

theorem passcode_hidden_iff (hp : Strangers p raws) (hq : Strangers q raws) :
    Run.sent (PacketDispatcher.receive py ⟨hass, p, sendRaw⟩ raws) =
        Run.sent (PacketDispatcher.receive py ⟨hass, q, sendRaw⟩ raws) ↔
      p = q ∨ ∀ raw ∈ raws, decodePacket raw = none := by
  constructor
  · intro he
    by_contra hh
    obtain ⟨hne, hd⟩ := not_or.mp hh
    exact sent_ne py hass sendRaw hp hq hne hd he
  · rintro (rfl | h)
    · rfl
    · rw [PacketDispatcher.receive_malformed h, PacketDispatcher.receive_malformed h]

end

def guess : Bytes := [0xAA, 0xBB, 0, 0, 0, 0, 0x01, 0, 0, 0, 0x47, 0x8A, 0xCC, 0xDD]

lemma decode_guess : decodePacket guess = some (0, cmdAck, []) := by decide +kernel

lemma strangers_guess {p : UInt32} (hp : p ≠ 0) : Strangers p [guess] := by
  intro raw hraw c payload h
  rw [List.mem_singleton.mp hraw, decode_guess] at h
  exact hp (UInt32.toNat_inj.mp (Prod.mk.inj (Option.some.inj h)).1.symm)

theorem passcode_hidden_guess :
    Run.sent (PacketDispatcher.receive .ascii ⟨.empty, 1, fun _ => .ok ()⟩ [guess]) =
        Run.sent (PacketDispatcher.receive .ascii ⟨.empty, 2, fun _ => .ok ()⟩ [guess]) ↔
      (1 : UInt32) = 2 ∨ ∀ raw ∈ [guess], decodePacket raw = none :=
  passcode_hidden_iff .ascii .empty _ (strangers_guess (by decide)) (strangers_guess (by decide))

theorem guess_reveals_passcode :
    (Strangers 1 [guess] ∧ Strangers 2 [guess]) ∧
      Run.sent (PacketDispatcher.receive .ascii ⟨.empty, 1, fun _ => .ok ()⟩ [guess]) ≠
        Run.sent (PacketDispatcher.receive .ascii ⟨.empty, 2, fun _ => .ok ()⟩ [guess]) := by
  have h1 := strangers_guess (p := 1) (by decide)
  have h2 := strangers_guess (p := 2) (by decide)
  refine ⟨⟨h1, h2⟩, sent_ne .ascii .empty _ h1 h2 (by decide) fun h => ?_⟩
  have hn := h guess List.mem_cons_self
  rw [decode_guess] at hn
  cases hn

end HaBluetooth.Dispatcher
