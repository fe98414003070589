import HaBluetooth.Dispatcher.Queries
import HaBluetooth.Dispatcher.Tasks

/-! The dispatcher knows its transport by what becomes of the packets that it sends, and by nothing else. -/

namespace HaBluetooth.Dispatcher

open Python Protocol Support

section

variable {α β : Type} {out out' : Bytes → Result Unit}

/-- The second run is the first, if its sends end in the same way. -/
def Follows (out out' : Bytes → Result Unit) (x y : Run α) : Prop := (∀ data ∈ x.sent, out' data = out data) → y = x

lemma follows_refl (x : Run α) : Follows out out' x x := fun _ => rfl

lemma Follows.bind {x y : Run α} {f g : α → Run β} (h : Follows out out' x y)
    (hf : ∀ a, Follows out out' (f a) (g a)) : Follows out out' (x >>= f) (y >>= g) := by
  intro hsent
  have hx : y = x := h fun data hd => hsent data ((Traced.observed_prefix _ x f).subset hd)
  subst hx
  cases hres : y.result with
  | error e => rw [Traced.bind_error f hres, Traced.bind_error g hres]
  | ok a =>
    have hrest : g a = f a := by
      refine hf a fun data hd => hsent data ?_
      rw [Run.sent, Traced.observed_bind_ok _ f hres]
      exact List.mem_append_right _ hd
    rw [Traced.bind_ok f hres, Traced.bind_ok g hres, hrest]

lemma Follows.handle {x y : Run α} {f g : PyError → Run α} (h : Follows out out' x y)
    (hf : ∀ e, Follows out out' (f e) (g e)) : Follows out out' (x.handle f) (y.handle g) := by
  intro hsent
  cases hres : x.result with
  | ok a =>
    rw [Traced.handle_ok f hres] at hsent ⊢
    rw [h hsent, Traced.handle_ok g hres]
  | error e =>
    rw [Traced.handle_error f hres] at hsent ⊢
    simp only [Run.sent, Traced.observed, List.filterMap_append, List.forall_mem_append] at hsent
    rw [h hsent.1, Traced.handle_error g hres, hf e hsent.2]

end

namespace PacketDispatcher

variable (py : Library) (self : PacketDispatcher) (out : Bytes → Result Unit)

def onto : PacketDispatcher := { self with sendRaw := out }

lemma sendPacket_follows (cmd : ℕ) (obj : Value) :
    Follows self.sendRaw out (self.sendPacket cmd obj) ((self.onto out).sendPacket cmd obj) := by
  intro hsent
  cases he : encodePacketJson self.passcode.toNat cmd obj with
  | error e => simp only [sendPacket, onto, he, Traced.lift_error_bind]
  | ok packet =>
    have hpacket : out packet = self.sendRaw packet := by
      apply hsent
      simp [sendPacket, he, Run.sent, Traced.observed, Effect.bytes]
    simp only [sendPacket, onto, he, Traced.lift_ok_bind, Traced.emit_bind, hpacket]

lemma sendPacket_then_follows {α : Type} (cmd : ℕ) (obj : Value) (a : α) :
    Follows self.sendRaw out (self.sendPacket cmd obj >>= fun _ => pure a)
      ((self.onto out).sendPacket cmd obj >>= fun _ => pure a) :=
  (self.sendPacket_follows out cmd obj).bind fun _ => follows_refl _

lemma acknowledge_follows (raw : Bytes) :
    Follows self.sendRaw out (self.acknowledge py raw) ((self.onto out).acknowledge py raw) := by
  rw [acknowledge, acknowledge]
  cases decodePacket raw with
  | none => exact follows_refl _
  | some r =>
    obtain ⟨passcode, cmd, payloadBytes⟩ := r
    change Follows self.sendRaw out (if passcode ≠ self.passcode.toNat then _ else _)
      (if passcode ≠ self.passcode.toNat then _ else _)
    split_ifs
    · exact self.sendPacket_then_follows out _ _ _
    · exact follows_refl _
    · exact self.sendPacket_then_follows out _ _ _
    · exact self.sendPacket_then_follows out _ _ _

lemma handleReqState_follows (entityId : Value) :
    Follows self.sendRaw out (self.handleReqState py entityId) ((self.onto out).handleReqState py entityId) := by
  rw [handleReqState_eq, handleReqState_eq]
  exact self.sendPacket_follows out _ _

lemma serviceFailed_follows (e : PyError) :
    Follows self.sendRaw out (self.serviceFailed e) ((self.onto out).serviceFailed e) := by
  rw [serviceFailed, serviceFailed]
  split
  · exact self.sendPacket_follows out _ _
  · exact self.sendPacket_follows out _ _

lemma finishService_follows (domain service data : Value) : Follows self.sendRaw out
    (self.finishService domain service data) ((self.onto out).finishService domain service data) := by
  apply Follows.handle
  · exact (follows_refl _).bind fun _ => self.sendPacket_follows out _ _
  · exact self.serviceFailed_follows out

lemma advance_follows (task : Task) :
    Follows self.sendRaw out (self.advance py task) ((self.onto out).advance py task) := by
  cases task with
  | push obj => exact self.sendPacket_then_follows out _ _ _
  | called domain service data =>
    exact (self.finishService_follows out domain service data).bind fun _ => follows_refl _
  | reply cmd payload =>
    rw [advance, advance]
    split_ifs
    · exact self.sendPacket_then_follows out _ _ _
    · exact (follows_refl _).bind fun areaId => self.sendPacket_then_follows out _ _ _
    · exact self.sendPacket_then_follows out _ _ _
    · exact (follows_refl _).bind fun entityId =>
      (self.handleReqState_follows py out entityId).bind fun _ => follows_refl _
    · exact follows_refl _

end PacketDispatcher

end HaBluetooth.Dispatcher
