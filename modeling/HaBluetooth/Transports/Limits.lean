import HaBluetooth.Esphome.Frames
import HaBluetooth.Gatt.SendFrame
import HaBluetooth.Protocol.PacketFormat
import HaBluetooth.Usb.Server

/-! Which packets each idle transport carries whole. -/

namespace HaBluetooth.Transports

open Python Protocol Support Gatt Usb Esphome

def GattCarries (packet : Bytes) : Prop :=
  ∀ s : GattServer, s.connected = true → s.server = true → s.txQueue.items = [] →
    (s.sendFrame packet).2 = true

def UsbCarries (packet : Bytes) : Prop :=
  ∀ (s : UsbServer) (queue : BoundedQueue (Option Bytes) 64), s.writeQueue = some queue → queue.items = [] →
    ∃ frame s' queue', frameForUsb packet = .ok frame ∧ s.sendRaw packet = .ok s' ∧
      s'.writeQueue = some queue' ∧ queue'.items = [some frame]

def ApiCarries {σ : Type} (lib : NoiseLibrary σ) (frame : Frame σ) (packet : Bytes) : Prop :=
  ∃ bytes, (frame.encode lib bleServerSendFrameRequestId (serializeSendFrame packet)).1 = .ok bytes

def idle : GattServer := { GattServer.init.start with connected := true, server := true }

lemma idle_accepts (packet : Bytes) : (idle.sendFrame packet).2 = true ↔ packet.length ≤ 62464 := by
  rw [idle.sendFrame_accepts packet rfl rfl, chunkCount]
  simp only [idle, GattServer.init, GattServer.start, BoundedQueue.empty, List.length_nil]
  omega

lemma gattCarries_iff (packet : Bytes) : GattCarries packet ↔ packet.length ≤ 62464 := by
  refine ⟨fun h => (idle_accepts packet).mp (h idle rfl rfl rfl), fun h s hc hv hq => ?_⟩
  rw [s.sendFrame_accepts packet hc hv, hq, chunkCount, List.length_nil]
  omega

lemma usbCarries {packet : Bytes} (h : packet.length < 256 ^ 4) : UsbCarries packet := by
  intro s queue hs hq
  obtain ⟨queue', hput⟩ : ∃ queue', queue.put (some (BigEndian.toBytes 4 packet.length ++ packet)) = some queue' := by
    simp [BoundedQueue.put, hq]
  refine ⟨_, { s with writeQueue := some queue' }, queue', frameForUsb_ok h, ?_, rfl, ?_⟩
  · simp only [UsbServer.sendRaw, hs, frameForUsb_ok h]
    simp only [bind, Except.bind, hput]
    rfl
  · rw [(BoundedQueue.put_eq_some.mp hput).2, hq]
    rfl

lemma plaintextCarries {σ : Type} (lib : NoiseLibrary σ) (packet : Bytes) : ApiCarries lib .plaintext packet :=
  ⟨_, rfl⟩

lemma noiseCarries {σ : Type} {lib : NoiseLibrary σ} (hlib : lib.Accepting) (st : σ) {packet : Bytes}
    (h : packet.length ≤ 65511) : ApiCarries lib (.noise (some st)) packet := by
  apply noise_encode_ok hlib st (by decide)
  have hv : (encodeVarint packet.length).length ≤ 3 := length_encodeVarint (n := 2) (by omega)
  rw [serializeSendFrame]
  split
  · simp
  · simp only [List.length_append, List.length_cons]
    omega

theorem layers_agree_iff {σ : Type} {lib : NoiseLibrary σ} (hlib : lib.Accepting) {p c : ℕ} {payload packet : Bytes}
    (henc : encodePacket p c payload 0 = .ok packet) :
    (GattCarries packet ∧ UsbCarries packet ∧ ApiCarries lib .plaintext packet ∧
      ∀ st, ApiCarries lib (.noise (some st)) packet) ↔ payload.length ≤ 62450 := by
  have hn : packet.length = 14 + payload.length := by
    obtain ⟨l, rfl, hs, hf, -⟩ := encodePacket_eq_ok.mp henc
    obtain ⟨-, -, rfl⟩ := Prod.mk.inj hf |>.imp_right Prod.mk.inj
    rw [l.bytes_length, hs, List.length_nil, Nat.add_zero]
  rw [gattCarries_iff, hn]
  refine ⟨fun h => by omega, fun h => ⟨by omega, usbCarries (by omega), plaintextCarries lib packet, fun st => ?_⟩⟩
  exact noiseCarries hlib st (by omega)

/-- Stands for the AEAD: sixteen more bytes for each message of at most 65535, and the next nonce. -/
def sixteenMore : NoiseLibrary ℕ where
  encrypt nonce plain :=
    if plain.length ≤ 65535 then (.ok (plain ++ List.replicate 16 0), nonce + 1)
    else (.error ⟨.valueError, "message too long"⟩, nonce)

lemma sixteenMore_accepting : sixteenMore.Accepting where
  encrypt_ok st plain h := ⟨plain ++ List.replicate 16 0, by simp [sixteenMore, h], by simp⟩

lemma length_spaces (n : ℕ) : (List.replicate n 0x20 : Bytes).length = n := List.length_replicate

theorem layers_agree_at_limit :
    ∃ packet packet', encodePacket 1 0x13 (List.replicate 62450 0x20) 0 = .ok packet ∧
      encodePacket 1 0x13 (List.replicate 62451 0x20) 0 = .ok packet' ∧
      (GattCarries packet ∧ UsbCarries packet ∧ ApiCarries sixteenMore .plaintext packet ∧
        ∀ st, ApiCarries sixteenMore (.noise (some st)) packet) ∧
      ¬ (GattCarries packet' ∧ UsbCarries packet' ∧ ApiCarries sixteenMore .plaintext packet' ∧
        ∀ st, ApiCarries sixteenMore (.noise (some st)) packet') := by
  have hencodes (n : ℕ) (hn : n < 256 ^ 2) : ∃ packet, encodePacket 1 0x13 (List.replicate n 0x20) 0 = .ok packet := by
    obtain ⟨l, he, -⟩ := exists_encoding (p := 1) (c := 0x13) (f := 0) (by decide) (by decide) (by decide)
      (show (List.replicate n 0x20 : Bytes).length < 256 ^ 2 by rwa [length_spaces])
    exact ⟨l.bytes, he⟩
  obtain ⟨packet, he⟩ := hencodes 62450 (by decide)
  obtain ⟨packet', he'⟩ := hencodes 62451 (by decide)
  refine ⟨packet, packet', he, he', (layers_agree_iff sixteenMore_accepting he).mpr ?_, fun h => ?_⟩
  · rw [length_spaces]
  · have hle := (layers_agree_iff sixteenMore_accepting he').mp h
    rw [length_spaces] at hle
    omega

theorem largest_packet_rejected :
    ∃ packet, encodePacket 1 0x13 (List.replicate 65535 0x20) 0 = .ok packet ∧
      (idle.sendFrame packet).2 = false := by
  obtain ⟨l, he, -, hf⟩ := exists_encoding (p := 1) (c := 0x13) (f := 0) (by decide) (by decide) (by decide)
    (show (List.replicate 65535 0x20 : Bytes).length < 256 ^ 2 by rw [length_spaces]; decide)
  have hp : l.payload.length = 65535 := by
    rw [(Prod.mk.inj (Prod.mk.inj hf).2).2, length_spaces]
  refine ⟨l.bytes, he, ?_⟩
  rw [← Bool.not_eq_true, idle_accepts, l.bytes_length]
  omega

end HaBluetooth.Transports
