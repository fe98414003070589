import HaBluetooth.Gatt.TxWorker
import HaBluetooth.Support.Runs

/-! No chunk leaves in a later session than the one it was queued in: the queue only holds what the
current session put there, and it is empty while no client is connected. -/

namespace HaBluetooth.Gatt

open Python Support

namespace TxState

structure Isolated (t : TxState) : Prop where
  record : ∃ old, t.puts = old ++ t.gatt.txQueue.items.map (Prod.mk t.session)
  offline : t.gatt.connected = false → t.gatt.txQueue.items = []
  passed : ∀ p ∈ t.passed, p.put = some (p.session, some p.chunk)

lemma oldestPut_eq {t : TxState} {old : List (ℕ × Option Bytes)} {item : Option Bytes} {items : List (Option Bytes)}
    (hr : t.puts = old ++ t.gatt.txQueue.items.map (Prod.mk t.session))
    (hi : t.gatt.txQueue.items = item :: items) : t.oldestPut = some (t.session, item) := by
  rw [oldestPut, hr, List.length_append, List.length_map, Nat.add_sub_cancel, hi]
  simp

lemma begin_isolated {gatt : GattServer} (h : gatt.txQueue.items = []) (worker : TxWorker) :
    (begin gatt worker).Isolated where
  record := ⟨[], by simp [begin, h]⟩
  offline _ := h
  passed p hp := absurd hp List.not_mem_nil

variable {t : TxState}

lemma write_isolated (h : t.Isolated) (value : Bytes) : (t.step (.write value)).Isolated := by
  obtain ⟨connected, rxBuf, loop, hw, hconn⟩ := t.gatt.handleWrite_frame value
  obtain ⟨old, hold⟩ := h.record
  refine ⟨⟨old, ?_⟩, ?_, h.passed⟩
  · cases hc : t.gatt.connected with
    | true => simp [step, hw, hc, hold]
    | false => simp [step, hw, h.offline hc, hold]
  · simp only [step, hw]
    intro hn
    apply h.offline
    by_contra hc
    rw [hconn (Bool.not_eq_false _ ▸ hc)] at hn
    cases hn

lemma send_isolated (h : t.Isolated) (data : Bytes) : (t.step (.send data)).Isolated := by
  obtain ⟨hc, more, hmore⟩ := t.gatt.sendFrame_appends data
  obtain ⟨old, hold⟩ := h.record
  refine ⟨⟨old, ?_⟩, ?_, h.passed⟩
  · simp only [step, hmore, hold, List.drop_left, List.map_append, List.append_assoc]
  · intro hn
    have hoff : t.gatt.connected = false := hc ▸ hn
    have hh : ¬ (t.gatt.connected = true ∧ t.gatt.server = true) := by simp [hoff]
    simp only [step, t.gatt.sendFrame_offline data hh]
    exact h.offline hoff

lemma disconnect_isolated (h : t.Isolated) : (t.step .disconnect).Isolated := by
  cases hc : t.gatt.connected with
  | false =>
    have hs : t.step .disconnect = t := by rw [step, t.gatt.markDisconnected_offline hc]
    rwa [hs]
  | true =>
    obtain ⟨-, hempty⟩ := t.gatt.markDisconnected_online hc
    exact ⟨⟨t.puts, by simp [step, hempty]⟩, fun _ => hempty, h.passed⟩

lemma resume_isolated (h : t.Isolated) (u : Update) : (t.step (.resume u)).Isolated := by
  obtain ⟨old, hold⟩ := h.record
  rcases t.gatt.resume_cases t.worker u with ⟨hsame, hnone⟩ | ⟨item, queue, hitems, hchunk, hgatt⟩
  · refine ⟨⟨old, ?_⟩, ?_, ?_⟩
    · simp [step, hsame, hold]
    · simpa [step, hsame] using h.offline
    · simpa [step, hnone] using h.passed
  · refine ⟨?_, ?_, ?_⟩
    · rcases hgatt with hg | ⟨hc, hg⟩
      · exact ⟨old ++ [(t.session, item)], by simp [step, hg, hold, hitems]⟩
      · obtain ⟨-, hempty⟩ := GattServer.markDisconnected_online { t.gatt with txQueue := queue } hc
        exact ⟨t.puts, by simp [step, hg, hempty]⟩
    · rcases hgatt with hg | ⟨hc, hg⟩
      · intro hn
        have hoff : t.gatt.connected = false := by simpa [step, hg] using hn
        rw [h.offline hoff] at hitems
        cases hitems
      · intro _
        simp only [step, hg]
        exact (GattServer.markDisconnected_online { t.gatt with txQueue := queue } hc).2
    · intro p hp
      simp only [step, List.mem_append, Option.mem_toList, Option.map_eq_some_iff] at hp
      rcases hp with hp | ⟨chunk, hc, rfl⟩
      · exact h.passed p hp
      · rcases hchunk with hn | hs
        · rw [hn] at hc
          cases hc
        · rw [hs] at hc
          rw [oldestPut_eq hold hitems, hc]

lemma step_isolated (h : t.Isolated) (e : TxEvent) : (t.step e).Isolated := by
  cases e with
  | write value => exact write_isolated h value
  | send data => exact send_isolated h data
  | resume u => exact resume_isolated h u
  | disconnect => exact disconnect_isolated h

lemma run_isolated (h : t.Isolated) (evs : List TxEvent) : (t.run evs).Isolated := by
  have hall : ∀ e ∈ evs, True := fun _ _ => trivial
  exact Runs.invariant Isolated (fun _ e ht _ => step_isolated ht e) h hall

theorem tx_sessions_isolated {gatt : GattServer} (h : gatt.txQueue.items = []) (worker : TxWorker)
    (evs : List TxEvent) :
    (∀ p ∈ ((begin gatt worker).run evs).passed, p.put = some (p.session, some p.chunk)) ∧
      (((begin gatt worker).run evs).gatt.connected = false →
        ((begin gatt worker).run evs).gatt.txQueue.items = []) :=
  ⟨(run_isolated (begin_isolated h worker) evs).passed, (run_isolated (begin_isolated h worker) evs).offline⟩

def twoClients : List TxEvent :=
  [.write [0x01, 0x41], .send (List.replicate 700 0x42), .disconnect, .write [0x01, 0x43], .send [0x44],
    .resume (.returned true)]

theorem tx_sessions_isolated_two_clients :
    (∀ p ∈ ((begin serving .getting).run twoClients).passed, p.put = some (p.session, some p.chunk)) ∧
      (((begin serving .getting).run twoClients).gatt.connected = false →
        ((begin serving .getting).run twoClients).gatt.txQueue.items = []) :=
  tx_sessions_isolated rfl .getting twoClients

end TxState

end HaBluetooth.Gatt
