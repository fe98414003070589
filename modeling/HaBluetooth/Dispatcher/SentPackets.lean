import HaBluetooth.Dispatcher.Tasks

/-! Whatever the dispatcher sends is a packet that it encoded under its own passcode. -/

namespace HaBluetooth.Dispatcher

open Python Protocol Support

def Encoded (passcode : UInt32) (data : Bytes) : Prop := ∃ cmd obj, encodePacketJson passcode.toNat cmd obj = .ok data

def AllEncoded (passcode : UInt32) (ws : List Effect) : Prop :=
  ∀ data ∈ ws.filterMap Effect.bytes, Encoded passcode data

variable {passcode : UInt32}

lemma Encoded.decodes {data : Bytes} (h : Encoded passcode data) :
    ∃ cmd payload, decodePacket data = some (passcode.toNat, cmd, payload) := by
  obtain ⟨cmd, obj, he⟩ := h
  obtain ⟨payload, -, hp⟩ := bind_eq_ok.mp he
  obtain ⟨l, rfl, -, hfields, -⟩ := encodePacket_eq_ok.mp hp
  exact ⟨cmd, payload, hfields ▸ decodePacket_bytes l⟩

lemma Encoded.ne_nil {data : Bytes} (h : Encoded passcode data) : data ≠ [] := by
  rintro rfl
  obtain ⟨cmd, payload, hd⟩ := h.decodes
  cases hd

lemma allEncoded_append (ws ws' : List Effect) (h : AllEncoded passcode ws) (h' : AllEncoded passcode ws') :
    AllEncoded passcode (ws ++ ws') := by
  rw [AllEncoded, List.filterMap_append, List.forall_mem_append]
  exact ⟨h, h'⟩

lemma allEncoded_quiet {α : Type} {x : Run α} (h : x.events.filterMap Effect.bytes = []) :
    x.Throughout (AllEncoded passcode) := by
  rintro ws ⟨more, hws⟩ data hd
  rw [← hws, List.filterMap_append, List.append_eq_nil_iff] at h
  rw [h.1] at hd
  cases hd

lemma allEncoded_pure {α : Type} (a : α) : (pure a : Run α).Throughout (AllEncoded passcode) := allEncoded_quiet rfl

lemma allEncoded_lift {α : Type} (r : Result α) : (Traced.lift r : Run α).Throughout (AllEncoded passcode) :=
  allEncoded_quiet rfl

namespace PacketDispatcher

variable (py : Library) (self : PacketDispatcher)

lemma sendPacket_encoded (cmd : ℕ) (obj : Value) : (self.sendPacket cmd obj).Throughout (AllEncoded self.passcode) := by
  rintro ws ⟨more, hws⟩ data hd
  have hsent : data ∈ (self.sendPacket cmd obj).events.filterMap Effect.bytes := by
    rw [← hws, List.filterMap_append]
    exact List.mem_append_left _ hd
  cases he : encodePacketJson self.passcode.toNat cmd obj with
  | error e => simp [sendPacket, he, Effect.bytes] at hsent
  | ok packet =>
    simp [sendPacket, he, Effect.bytes] at hsent
    exact ⟨cmd, obj, hsent ▸ he⟩

lemma sendPacket_then_encoded {α : Type} (cmd : ℕ) (obj : Value) (a : α) :
    (self.sendPacket cmd obj >>= fun _ => pure a : Run α).Throughout (AllEncoded self.passcode) :=
  (self.sendPacket_encoded cmd obj).bind allEncoded_append fun _ => allEncoded_pure a

lemma acknowledge_encoded (raw : Bytes) : (self.acknowledge py raw).Throughout (AllEncoded self.passcode) := by
  rw [acknowledge]
  split
  · exact allEncoded_pure none
  · split_ifs
    · exact self.sendPacket_then_encoded _ _ _
    · exact allEncoded_pure none
    · exact self.sendPacket_then_encoded _ _ _
    · exact self.sendPacket_then_encoded _ _ _

lemma handleReqState_encoded (entityId : Value) :
    (self.handleReqState py entityId).Throughout (AllEncoded self.passcode) := by
  rw [handleReqState]
  split
  · exact self.sendPacket_encoded _ _
  · split
    · exact self.sendPacket_encoded _ _
    · exact self.sendPacket_encoded _ _

lemma startService_quiet (payload : Value) : (startService payload).Throughout (AllEncoded passcode) := by
  refine (allEncoded_lift _).bind allEncoded_append fun domain => ?_
  refine (allEncoded_lift _).bind allEncoded_append fun service => ?_
  refine (allEncoded_lift _).bind allEncoded_append fun entityId => ?_
  refine (allEncoded_lift _).bind allEncoded_append fun data => ?_
  refine (allEncoded_lift _).bind allEncoded_append fun data => ?_
  exact allEncoded_quiet rfl

lemma finishService_encoded (domain service data : Value) :
    (self.finishService domain service data).Throughout (AllEncoded self.passcode) := by
  have hreport : (.lift (self.hass.callService domain service data) >>= fun _ =>
      self.sendPacket cmdAnsCallService (.dict [("success", .bool true)]) : Run Unit).Throughout
        (AllEncoded self.passcode) :=
    (allEncoded_lift _).bind allEncoded_append fun _ => self.sendPacket_encoded _ _
  refine hreport.handle allEncoded_append fun e => ?_
  obtain ⟨content, he⟩ := self.serviceFailed_eq e
  rw [he]
  exact self.sendPacket_encoded _ _

lemma advance_encoded (task : Task) : (self.advance py task).Throughout (AllEncoded self.passcode) := by
  have hlast {x : Run Unit} (hx : x.Throughout (AllEncoded self.passcode)) :
      (x >>= fun _ => pure none : Run (Option Task)).Throughout (AllEncoded self.passcode) :=
    hx.bind allEncoded_append fun _ => allEncoded_pure none
  cases task with
  | push obj => exact self.sendPacket_then_encoded _ _ _
  | called domain service data => exact hlast (self.finishService_encoded domain service data)
  | reply cmd payload =>
    rw [advance]
    split_ifs
    · exact self.sendPacket_then_encoded _ _ _
    · exact (allEncoded_lift _).bind allEncoded_append fun areaId => self.sendPacket_then_encoded _ _ _
    · exact self.sendPacket_then_encoded _ _ _
    · exact (allEncoded_lift _).bind allEncoded_append fun entityId => hlast (self.handleReqState_encoded py entityId)
    · exact (startService_quiet payload).bind allEncoded_append fun task => allEncoded_pure _

lemma startHandling_encoded (raw : Bytes) : (self.startHandling py raw).Throughout (AllEncoded self.passcode) := by
  refine (self.acknowledge_encoded py raw).bind allEncoded_append fun task => ?_
  cases task with
  | none => exact allEncoded_pure none
  | some task => exact self.advance_encoded py task

end PacketDispatcher

end HaBluetooth.Dispatcher
