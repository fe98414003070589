import HaBluetooth.Dispatcher.SentPackets
import HaBluetooth.Gatt.TxChannel
import HaBluetooth.Native.Server

/-! What clients receive from a running server. Beside the server runs the record of what each session
accepted and was sent; the server's callbacks make no difference to it. -/

namespace HaBluetooth.Gatt

open Python Protocol Support

structure GattServer.Alike (s t : GattServer) : Prop where
  left : s.loop.isSome
  right : t.loop.isSome
  same : { s with loop := some [] } = { t with loop := some [] }

namespace GattServer

variable {s t : GattServer}

lemma Alike.exists (h : s.Alike t) : ∃ cs cs', s.loop = some cs ∧ t = { s with loop := some cs' } := by
  obtain ⟨cs, hcs⟩ := Option.isSome_iff_exists.mp h.left
  obtain ⟨cs', hcs'⟩ := Option.isSome_iff_exists.mp h.right
  have hsame := h.same
  obtain ⟨server, running, connected, rxBuf, queue, loop, called⟩ := s
  obtain ⟨server', running', connected', rxBuf', queue', loop', called'⟩ := t
  cases hsame
  exact ⟨cs, cs', hcs, by rw [show loop' = some cs' from hcs']⟩

lemma alike_mk {cs cs' : List Callback} (h : s.loop = some cs) : s.Alike { s with loop := some cs' } where
  left := by rw [h]; rfl
  right := rfl
  same := rfl

lemma Alike.bare (h : s.Alike t) : { s with loop := some [] }.Alike t := ⟨rfl, h.right, h.same⟩

lemma Alike.sendFrame (h : s.Alike t) (data : Bytes) : (s.sendFrame data).1.Alike (t.sendFrame data).1 ∧
    (s.sendFrame data).2 = (t.sendFrame data).2 := by
  obtain ⟨cs, cs', hcs, rfl⟩ := h.exists
  by_cases hon : s.connected = true ∧ s.server = true
  · rw [s.sendFrame_online data hon.1 hon.2, sendFrame_online { s with loop := some cs' } data hon.1 hon.2]
    exact ⟨@alike_mk _ cs cs' hcs, rfl⟩
  · rw [s.sendFrame_offline data hon, sendFrame_offline { s with loop := some cs' } data hon]
    exact ⟨@alike_mk _ cs cs' hcs, rfl⟩

lemma Alike.markDisconnected (h : s.Alike t) : s.markDisconnected.Alike t.markDisconnected := by
  obtain ⟨cs, cs', hcs, rfl⟩ := h.exists
  obtain ⟨server, running, connected, rxBuf, queue, loop, called⟩ := s
  obtain rfl : loop = some cs := hcs
  cases connected
  · exact ⟨rfl, rfl, rfl⟩
  · exact ⟨rfl, rfl, rfl⟩

lemma Alike.handleWrite (h : s.Alike t) (value : Bytes) : (s.handleWrite value).Alike (t.handleWrite value) := by
  obtain ⟨cs, cs', hcs, rfl⟩ := h.exists
  obtain ⟨server, running, connected, rxBuf, queue, loop, called⟩ := s
  obtain rfl : loop = some cs := hcs
  cases value with
  | nil => exact ⟨rfl, rfl, rfl⟩
  | cons flag payload =>
    by_cases hf : flag = bleChunkFinal
    · subst hf
      cases connected
      · exact ⟨rfl, rfl, rfl⟩
      · exact ⟨rfl, rfl, rfl⟩
    · rw [GattServer.handleWrite, GattServer.handleWrite, if_neg hf, if_neg hf]
      exact ⟨rfl, rfl, rfl⟩

lemma Alike.resume (h : s.Alike t) (u : Update) (w : TxWorker) :
    (s.resume u w).1.Alike (t.resume u w).1 ∧ (s.resume u w).2 = (t.resume u w).2 := by
  obtain ⟨cs, cs', hcs, rfl⟩ := h.exists
  obtain ⟨server, running, connected, rxBuf, ⟨items, hb⟩, loop, called⟩ := s
  obtain rfl : loop = some cs := hcs
  cases w with
  | ended | sleeping => exact ⟨⟨rfl, rfl, rfl⟩, rfl⟩
  | getting =>
    cases items with
    | nil => exact ⟨⟨rfl, rfl, rfl⟩, rfl⟩
    | cons item items =>
      cases item with
      | none => exact ⟨⟨rfl, rfl, rfl⟩, rfl⟩
      | some chunk =>
        cases server <;> cases connected
        all_goals
          cases u with
          | noCharacteristic | raised => exact ⟨⟨rfl, rfl, rfl⟩, rfl⟩
          | returned result => cases result <;> exact ⟨⟨rfl, rfl, rfl⟩, rfl⟩

end GattServer

end HaBluetooth.Gatt

namespace HaBluetooth.Native

open Python Protocol Support Dispatcher Gatt

namespace NativeBleServer

section

variable (py : Library) (passcode : UInt32)

def jobSends (hass : Hass) : Job → List Bytes
  | .callback _ _ => []
  | .handle frame _ => ((dispatcher passcode hass).startHandling py frame).sent
  | .push obj => ((dispatcher passcode hass).advance py (.push obj)).sent

def sends (s : NativeBleServer) : Input → List Bytes
  | .next hass => (s.ready.head?.map (jobSends py passcode hass)).getD []
  | .finish i hass => (s.calls[i]?.map fun call => ((dispatcher passcode hass).advance py call.task).sent).getD []
  | .write _ | .disconnect | .tx _ | .stateChanged _ _ | .stop _ => []

def txEvents (s : NativeBleServer) : Input → List TxEvent
  | .write value => [.write value]
  | .disconnect => [.disconnect]
  | .tx u => [.resume u]
  | i => (s.sends py passcode i).map .send

instance (gatt : GattServer) (data : Bytes) : Decidable (gatt.Overruns data) :=
  inferInstanceAs (Decidable (_ ∧ _ ∧ _ ∧ _))

def Fits (gatt : GattServer) (datas : List Bytes) : Prop :=
  Admits (fun gatt data => (gatt.sendFrame data).1) (fun gatt data => ¬ gatt.Overruns data) gatt datas

instance (gatt : GattServer) (datas : List Bytes) : Decidable (Fits gatt datas) :=
  inferInstanceAs (Decidable (Admits _ _ _ _))

/-- The server is not being stopped, no update fails unnoticed, and no packet is cut off by a full queue. -/
def Undisturbed (s : NativeBleServer) : Input → Prop
  | .stop _ => False
  | .tx u => u = .returned true ∨ u = .returned false
  | i => Fits s.gatt (s.sends py passcode i)

instance (s : NativeBleServer) : ∀ i, Decidable (s.Undisturbed py passcode i)
  | .stop _ => isFalse id
  | .tx _ => inferInstanceAs (Decidable (_ ∨ _))
  | .write _ | .disconnect | .next _ | .finish _ _ | .stateChanged _ _ => inferInstanceAs (Decidable (Fits _ _))

end

end NativeBleServer

structure Watched where
  server : NativeBleServer
  delivery : Delivery

namespace Watched

def init : Watched := ⟨.init, .begin serving .getting⟩

variable (py : Library) (passcode : UInt32)

def step (w : Watched) (i : Input) : Watched :=
  ⟨w.server.step py passcode i, w.delivery.run (w.server.txEvents py passcode i)⟩

def run (w : Watched) (inputs : List Input) : Watched := inputs.foldl (step py passcode) w

structure Sent (datas : List Bytes) (d d' : Delivery) : Prop where
  worker : d'.tx.worker = d.tx.worker
  session : d'.tx.session = d.tx.session
  past : d'.past = d.past
  refines : d'.Refines
  moves : Relation.ReflTransGen Channel.Move d.view d'.view
  accepted : ∃ frames, d'.current.accepted = d.current.accepted ++ frames ∧ frames.Sublist datas ∧
    (d.tx.gatt.connected = false → frames = [])

lemma send_sent {d : Delivery} (h : d.Refines) {data : Bytes} (he : TxEvent.Orderly d.tx (.send data)) :
    Sent [data] d (d.step (.send data)) := by
  obtain ⟨hrefines, hmoves⟩ := Delivery.send_refines h he
  have hstep : d.step (.send data) = _ := Delivery.step_same rfl
  refine ⟨by rw [hstep]; rfl, by rw [hstep]; rfl, by rw [hstep], hrefines, hmoves, _, by rw [hstep], ?_, ?_⟩
  · rw [TxEvent.acceptedFrames]
    split
    · exact List.Sublist.refl _
    · exact List.nil_sublist _
  · intro hoff
    rw [TxEvent.acceptedFrames, d.tx.gatt.sendFrame_offline data fun hh => by rw [hoff] at hh; cases hh.1]
    rfl

lemma Sent.cons {data : Bytes} {datas : List Bytes} {d d' d'' : Delivery} (h : Sent [data] d d')
    (h' : Sent datas d' d'') (hc : d'.tx.gatt.connected = d.tx.gatt.connected) : Sent (data :: datas) d d'' := by
  obtain ⟨first, hfirst, hsub, hoff⟩ := h.accepted
  obtain ⟨frames, hframes, hsub', hoff'⟩ := h'.accepted
  refine ⟨h'.worker.trans h.worker, h'.session.trans h.session, h'.past.trans h.past, h'.refines,
    h.moves.trans h'.moves, first ++ frames, ?_, hsub.append hsub', fun hn => ?_⟩
  · rw [hframes, hfirst, List.append_assoc]
  · rw [hoff hn, hoff' (hc.trans hn)]
    rfl

lemma run_sent {gatt : GattServer} {datas : List Bytes} (hne : ∀ data ∈ datas, data ≠ []) {d : Delivery}
    (ha : gatt.Alike d.tx.gatt) (h : d.Refines)
    (hi : NativeBleServer.Fits gatt datas) :
    (NativeBleServer.sendFrames gatt datas).Alike (d.run (datas.map .send)).tx.gatt ∧
      Sent datas d (d.run (datas.map .send)) := by
  induction datas generalizing gatt d with
  | nil => exact ⟨ha, rfl, rfl, rfl, h, .refl, [], (List.append_nil _).symm, List.Sublist.refl _, fun _ => rfl⟩
  | cons data datas ih =>
    obtain ⟨hdata, hdatas⟩ := List.forall_mem_cons.mp hne
    have hover : ¬ d.tx.gatt.Overruns data := by
      obtain ⟨cs, cs', -, hgatt⟩ := ha.exists
      rw [hgatt]
      exact hi.1
    have hfirst := @send_sent d h data ⟨hdata, hover⟩
    have htx : (d.step (.send data)).tx.gatt = (d.tx.gatt.sendFrame data).1 := by
      rw [Delivery.step_tx]
      rfl
    have hnext : (gatt.sendFrame data).1.Alike (d.step (.send data)).tx.gatt := htx ▸ (ha.sendFrame data).1
    obtain ⟨halike, hsent⟩ := ih hdatas hnext hfirst.refines hi.2
    exact ⟨halike, hfirst.cons hsent (htx ▸ (d.tx.gatt.sendFrame_appends data).1)⟩

def handedIn (s : NativeBleServer) (n : ℕ) : List Bytes := (s.handed.filter fun p => p.session = n).map Handed.data

/-- The record follows the server: sessions are numbered alike, and what a session accepted is among what the
server handed over in it. -/
structure Tracks (passcode : UInt32) (w : Watched) : Prop where
  gatt : w.server.gatt.Alike w.delivery.tx.gatt
  worker : w.delivery.tx.worker = w.server.worker
  session : w.delivery.tx.session = w.server.session
  refines : w.delivery.Refines
  reached : Relation.ReflTransGen Channel.Move .fresh w.delivery.view
  length : w.delivery.past.length = w.server.session
  past : ∀ (n : ℕ) (t : Traffic), w.delivery.past[n]? = some t → t.accepted.Sublist (handedIn w.server n)
  current : w.delivery.current.accepted.Sublist (handedIn w.server w.server.session)
  encoded : ∀ p ∈ w.server.handed, Encoded passcode p.data

variable {py : Library} {passcode : UInt32} {w : Watched}

lemma init_tracks : Tracks passcode init where
  gatt := ⟨rfl, rfl, rfl⟩
  worker := rfl
  session := rfl
  refines := Delivery.begin_refines rfl rfl .getting
  reached := .refl
  length := rfl
  past n t ht := by cases ht
  current := List.nil_sublist _
  encoded p hp := absurd hp List.not_mem_nil

lemma Tracks.sessions (h : w.Tracks passcode) {n : ℕ} {t : Traffic} (ht : w.delivery.sessions[n]? = some t) :
    t.accepted.Sublist (handedIn w.server n) := by
  have hlen := h.length
  rcases lt_or_ge n w.delivery.past.length with hn | hn
  · rw [Delivery.sessions, List.getElem?_append_left hn] at ht
    exact h.past n t ht
  · rw [Delivery.sessions, List.getElem?_append_right hn, List.getElem?_singleton] at ht
    split at ht
    · obtain rfl := Option.some.inj ht
      have hlast : n = w.server.session := by omega
      exact hlast ▸ h.current
    · cases ht

lemma handedIn_perform (s : NativeBleServer) (request : Option ℕ) (r : Run (Option Task)) (n : ℕ) :
    handedIn (s.perform request r) n =
      handedIn s n ++ if (s.gatt.connected && s.gatt.server) = true ∧ s.session = n then r.sent else [] := by
  rw [handedIn, NativeBleServer.perform, List.filter_append, List.map_append]
  congr 1
  cases hon : s.gatt.connected && s.gatt.server with
  | false => rfl
  | true =>
    by_cases hn : s.session = n
    · simp [hn, List.filter_map, Function.comp_def]
    · simp [hn, List.filter_map, Function.comp_def]

lemma perform_tracks (h : w.Tracks passcode) (request : Option ℕ) {r : Run (Option Task)}
    (hr : ∀ data ∈ r.sent, Encoded passcode data)
    (hi : NativeBleServer.Fits w.server.gatt r.sent) :
    Tracks passcode ⟨w.server.perform request r, w.delivery.run (r.sent.map .send)⟩ := by
  obtain ⟨halike, hsent⟩ := run_sent (fun data hd => (hr data hd).ne_nil) h.gatt h.refines hi
  obtain ⟨frames, hframes, hsub, hoff⟩ := hsent.accepted
  refine ⟨halike, hsent.worker.trans h.worker, hsent.session.trans h.session, hsent.refines,
    h.reached.trans hsent.moves, ?_, ?_, ?_, ?_⟩
  · rw [hsent.past]
    exact h.length
  · intro n t ht
    rw [hsent.past] at ht
    rw [handedIn_perform]
    exact (h.past n t ht).trans (List.sublist_append_left _ _)
  · change List.Sublist _ (handedIn (w.server.perform request r) w.server.session)
    rw [handedIn_perform, hframes]
    refine h.current.append ?_
    obtain ⟨cs, cs', -, hgatt⟩ := h.gatt.exists
    have hserver : w.server.gatt.server = true := by
      have hs := h.refines.server
      rwa [hgatt] at hs
    cases hconn : w.server.gatt.connected with
    | false =>
      rw [hoff (by rw [hgatt]; exact hconn)]
      exact List.nil_sublist _
    | true =>
      rw [hserver, if_pos ⟨rfl, rfl⟩]
      exact hsub
  · intro p hp
    rcases List.mem_append.mp hp with hp | hp
    · exact h.encoded p hp
    · split at hp
      · obtain ⟨data, hd, rfl⟩ := List.mem_map.mp hp
        exact hr data hd
      · cases hp

lemma write_tracks (h : w.Tracks passcode) (value : Bytes) : (w.step py passcode (.write value)).Tracks passcode := by
  have halike := h.gatt.handleWrite value
  obtain ⟨hrefines, hmoves⟩ := Delivery.write_refines h.refines value
  obtain ⟨cs, cs', -, hgatt⟩ := h.gatt.exists
  obtain ⟨cs₁, cs₂, -, hgatt'⟩ := halike.exists
  have hflags : (!w.delivery.tx.gatt.connected && (w.delivery.tx.gatt.handleWrite value).connected) =
      (!w.server.gatt.connected && (w.server.gatt.handleWrite value).connected) := by
    rw [hgatt', hgatt]
  change Tracks passcode ⟨w.server.handleWrite value, w.delivery.step (.write value)⟩
  rcases w.delivery.write_step value with ⟨hsession, hold, hstep⟩ | ⟨hsession, hnew, hstep⟩
  · have hserver : w.server.handleWrite value = w.server.scheduling (w.server.gatt.handleWrite value) := by
      rw [NativeBleServer.handleWrite, ← hflags, hold]
      rfl
    rw [hserver]
    rw [hstep] at hrefines hmoves ⊢
    exact ⟨halike.bare, h.worker, hsession.trans h.session, hrefines, h.reached.trans hmoves, h.length, h.past,
      h.current, h.encoded⟩
  · have hserver : w.server.handleWrite value =
        { w.server with session := w.server.session + 1, authenticated := false }.scheduling
          (w.server.gatt.handleWrite value) := by
      rw [NativeBleServer.handleWrite, ← hflags, hnew]
      rfl
    rw [hserver]
    rw [hstep] at hrefines hmoves ⊢
    refine ⟨halike.bare, h.worker, hsession.trans (congrArg (· + 1) h.session), hrefines, h.reached.trans hmoves, ?_,
      ?_, List.nil_sublist _, h.encoded⟩
    · rw [List.length_append, h.length]
      rfl
    · exact fun n t ht => h.sessions ht

lemma disconnect_tracks (h : w.Tracks passcode) : (w.step py passcode .disconnect).Tracks passcode := by
  obtain ⟨hrefines, hmoves⟩ := Delivery.disconnect_refines h.refines
  have hstep : w.delivery.step .disconnect = { w.delivery with tx := w.delivery.tx.step .disconnect } :=
    Delivery.step_silent rfl rfl rfl
  change Tracks passcode ⟨w.server.scheduling w.server.gatt.markDisconnected, w.delivery.step .disconnect⟩
  rw [hstep] at hrefines hmoves ⊢
  exact ⟨h.gatt.markDisconnected.bare, h.worker, h.session, hrefines, h.reached.trans hmoves, h.length, h.past,
    h.current, h.encoded⟩

lemma tx_tracks (h : w.Tracks passcode) (result : Bool) :
    (w.step py passcode (.tx (.returned result))).Tracks passcode := by
  obtain ⟨hrefines, hmoves⟩ := Delivery.resume_refines h.refines result
  obtain ⟨halike, hsame⟩ := h.gatt.resume (.returned result) w.server.worker
  rw [← h.worker] at halike hsame
  have hstep := @Delivery.step_same w.delivery (.resume (.returned result)) rfl
  have hframes : TxEvent.acceptedFrames w.delivery.tx (.resume (.returned result)) = [] := rfl
  change Tracks passcode
    ⟨{ w.server with worker := (w.server.gatt.resume (.returned result) w.server.worker).2.1 }.scheduling
      (w.server.gatt.resume (.returned result) w.server.worker).1, w.delivery.step (.resume (.returned result))⟩
  rw [hstep, hframes, List.append_nil] at hrefines hmoves ⊢
  rw [← h.worker]
  refine ⟨halike.bare, ?_, h.session, hrefines, h.reached.trans hmoves, h.length, h.past, h.current, h.encoded⟩
  exact congrArg Prod.fst hsame.symm

lemma runJob_tracks {server : NativeBleServer} {d : Delivery} (h : Tracks passcode ⟨server, d⟩)
    (hass : Hass) {job : Job}
    (hi : NativeBleServer.Fits server.gatt (NativeBleServer.jobSends py passcode hass job)) :
    Tracks passcode ⟨server.runJob py passcode hass job,
      d.run ((NativeBleServer.jobSends py passcode hass job).map .send)⟩ := by
  cases job with
  | callback c n =>
    cases c with
    | onConnect | onDisconnect | onFrame frame =>
      exact ⟨h.gatt, h.worker, h.session, h.refines, h.reached, h.length, h.past, h.current, h.encoded⟩
  | handle frame n =>
    have hencoded := (NativeBleServer.dispatcher passcode hass).startHandling_encoded py frame _ List.prefix_rfl
    have hshown : Tracks passcode ⟨{ server with
        authenticated := server.authenticated || decide (n = server.session ∧ CarriesPasscode passcode frame) }, d⟩ :=
      ⟨h.gatt, h.worker, h.session, h.refines, h.reached, h.length, h.past, h.current, h.encoded⟩
    exact perform_tracks hshown _ hencoded hi
  | push obj =>
    have hencoded := (NativeBleServer.dispatcher passcode hass).advance_encoded py (.push obj) _ List.prefix_rfl
    exact perform_tracks h _ hencoded hi

lemma next_empty (hready : w.server.ready = []) (hass : Hass) : w.step py passcode (.next hass) = w := by
  obtain ⟨server, d⟩ := w
  change server.ready = [] at hready
  simp [step, NativeBleServer.step, NativeBleServer.txEvents, NativeBleServer.sends, hready, Delivery.run]

lemma next_cons {job : Job} {ready : List Job} (hready : w.server.ready = job :: ready) (hass : Hass) :
    w.step py passcode (.next hass) = ⟨{ w.server with ready := ready }.runJob py passcode hass job,
      w.delivery.run ((NativeBleServer.jobSends py passcode hass job).map .send)⟩ := by
  obtain ⟨server, d⟩ := w
  change server.ready = job :: ready at hready
  simp [step, NativeBleServer.step, NativeBleServer.txEvents, NativeBleServer.sends, hready]

lemma next_tracks (h : w.Tracks passcode) (hass : Hass) (hi : w.server.Undisturbed py passcode (.next hass)) :
    (w.step py passcode (.next hass)).Tracks passcode := by
  cases hready : w.server.ready with
  | nil =>
    rw [next_empty hready]
    exact h
  | cons job ready =>
    have hsends : w.server.sends py passcode (.next hass) = NativeBleServer.jobSends py passcode hass job := by
      simp [NativeBleServer.sends, hready]
    have hrest : Tracks passcode ⟨{ w.server with ready := ready }, w.delivery⟩ :=
      ⟨h.gatt, h.worker, h.session, h.refines, h.reached, h.length, h.past, h.current, h.encoded⟩
    rw [next_cons hready]
    refine runJob_tracks hrest hass ?_
    rw [← hsends]
    exact hi

lemma finish_tracks (h : w.Tracks passcode) (n : ℕ) (hass : Hass)
    (hi : w.server.Undisturbed py passcode (.finish n hass)) :
    (w.step py passcode (.finish n hass)).Tracks passcode := by
  obtain ⟨server, d⟩ := w
  cases hcall : server.calls[n]? with
  | none =>
    have hstep : (Watched.step py passcode ⟨server, d⟩ (.finish n hass)) = ⟨server, d⟩ := by
      simp [step, NativeBleServer.step, NativeBleServer.txEvents, NativeBleServer.sends, hcall, Delivery.run]
    rw [hstep]
    exact h
  | some call =>
    have hsends : server.sends py passcode (.finish n hass) =
        ((NativeBleServer.dispatcher passcode hass).advance py call.task).sent := by
      simp [NativeBleServer.sends, hcall]
    have hstep : (Watched.step py passcode ⟨server, d⟩ (.finish n hass)) =
        ⟨{ server with calls := server.calls.eraseIdx n }.perform call.request
          ((NativeBleServer.dispatcher passcode hass).advance py call.task),
          d.run (((NativeBleServer.dispatcher passcode hass).advance py call.task).sent.map .send)⟩ := by
      rw [← hsends]
      simp [step, NativeBleServer.step, NativeBleServer.txEvents, hcall]
    have hrest : Tracks passcode ⟨{ server with calls := server.calls.eraseIdx n }, d⟩ :=
      ⟨h.gatt, h.worker, h.session, h.refines, h.reached, h.length, h.past, h.current, h.encoded⟩
    have hencoded := (NativeBleServer.dispatcher passcode hass).advance_encoded py call.task _ List.prefix_rfl
    rw [hstep]
    refine perform_tracks hrest _ hencoded ?_
    rw [← hsends]
    exact hi

lemma step_tracks (h : w.Tracks passcode) {i : Input} (hi : w.server.Undisturbed py passcode i) :
    (w.step py passcode i).Tracks passcode := by
  cases i with
  | write value => exact write_tracks h value
  | disconnect => exact disconnect_tracks h
  | tx u =>
    rcases hi with rfl | rfl
    · exact tx_tracks h true
    · exact tx_tracks h false
  | stop part => exact hi.elim
  | stateChanged hass newState =>
    exact ⟨h.gatt, h.worker, h.session, h.refines, h.reached, h.length, h.past, h.current, h.encoded⟩
  | next hass => exact next_tracks h hass hi
  | finish n hass => exact finish_tracks h n hass hi

lemma run_tracks (h : w.Tracks passcode) {inputs : List Input}
    (hi : Admits (NativeBleServer.step py passcode) (fun s i => s.Undisturbed py passcode i) w.server inputs) :
    (w.run py passcode inputs).Tracks passcode := by
  induction inputs generalizing w with
  | nil => exact h
  | cons i inputs ih => exact ih (step_tracks h hi.1) hi.2

lemma run_server (w : Watched) (inputs : List Input) :
    (w.run py passcode inputs).server = w.server.run py passcode inputs := by
  induction inputs generalizing w with
  | nil => rfl
  | cons i inputs ih => exact ih (w.step py passcode i)

theorem clients_read_packets (py : Library) (passcode : UInt32) {inputs : List Input}
    (hi : Admits (NativeBleServer.step py passcode) (NativeBleServer.Undisturbed py passcode) .init inputs) :
    Relation.ReflTransGen Channel.Move .fresh (init.run py passcode inputs).delivery.view ∧
      ∀ (n : ℕ) (t : Traffic), (init.run py passcode inputs).delivery.sessions[n]? = some t →
        received t.chunks <+: t.accepted ∧
          t.accepted.Sublist (handedIn (NativeBleServer.init.run py passcode inputs) n) ∧
          ∀ f ∈ received t.chunks, ∃ cmd payload, decodePacket f = some (passcode.toNat, cmd, payload) := by
  have h := run_tracks init_tracks hi
  have hserver : (init.run py passcode inputs).server =
    NativeBleServer.init.run py passcode inputs := run_server init inputs
  refine ⟨h.reached, fun n t ht => ?_⟩
  have hread := Delivery.sessions_prefix h.reached (List.mem_of_getElem? ht)
  have hsub := h.sessions ht
  rw [hserver] at hsub
  refine ⟨hread, hsub, fun f hf => ?_⟩
  obtain ⟨p, hp, rfl⟩ := List.mem_map.mp (hsub.subset (hread.subset hf))
  rw [← hserver] at hp
  exact (h.encoded p (List.mem_filter.mp hp).1).decodes

def rebuffed : List Input :=
  [.write [0x01, 0xAA, 0xBB, 0, 0, 0, 0, 0x01, 0, 0, 0, 0x47, 0x8A, 0xCC, 0xDD], .next .empty, .next .empty,
    .next .empty]

theorem clients_read_packets_rebuffed :
    Relation.ReflTransGen Channel.Move .fresh (init.run .ascii 1 rebuffed).delivery.view ∧
      ∀ (n : ℕ) (t : Traffic), (init.run .ascii 1 rebuffed).delivery.sessions[n]? = some t →
        received t.chunks <+: t.accepted ∧
          t.accepted.Sublist (handedIn (NativeBleServer.init.run .ascii 1 rebuffed) n) ∧
          ∀ f ∈ received t.chunks, ∃ cmd payload, decodePacket f = some ((1 : UInt32).toNat, cmd, payload) := by
  have hi : Admits (NativeBleServer.step .ascii 1) (NativeBleServer.Undisturbed .ascii 1) .init rebuffed := by
    decide +kernel
  exact clients_read_packets .ascii 1 hi

end Watched

end HaBluetooth.Native
