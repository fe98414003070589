import HaBluetooth.Integration.Setup
import Mathlib.Data.Finset.Card

/-! What a failed setup leaves running. The server is started before the platforms are forwarded and the
views are registered, and no exception of these steps stops it. -/

namespace HaBluetooth.Integration

open Python Support

structure Surroundings.Completes (around : Surroundings) (s : Installed) : Prop where
  forwards : around.forward = .ok ()
  registers : s.viewsRegistered = false → ∀ view, around.registerView view = .ok ()
  listens : around.addUpdateListener = .ok ()

lemma Surroundings.registerViews_ok (around : Surroundings) :
    around.registerViews = .ok () ↔ ∀ view, around.registerView view = .ok () := by
  rw [registerViews]
  constructor
  · intro h
    obtain ⟨⟨⟩, hqr, h⟩ := bind_eq_ok.mp h
    obtain ⟨⟨⟩, hstatus, hconfig⟩ := bind_eq_ok.mp h
    intro view
    cases view with
    | setupQr => exact hqr
    | status => exact hstatus
    | config => exact hconfig
  · intro h
    rw [h, h, h]
    rfl

lemma Surroundings.views_step (around : Surroundings) (registered : Bool) :
    (if registered then .ok () else around.registerViews) = .ok () ↔
      (registered = false → ∀ view, around.registerView view = .ok ()) := by
  rw [← around.registerViews_ok]
  cases registered <;> simp

namespace Installed

variable (s : Installed) (around : Surroundings) (entryId : String) (data : EntryData)

def LeavesNothing : Prop :=
  (s.setupEntry around entryId data).1 ≠ .ok true →
    (s.setupEntry around entryId data).2.bridges.live ⊆ s.bridges.live

lemma startServer_live (start : StartOutcome) (server : Server) :
    (s.startServer start entryId server).bridges.live =
      if start.runs then insert s.bridges.issued s.bridges.live else s.bridges.live := by
  rw [startServer]
  split
  · rfl
  · exact s.bridges.issue_close

lemma setupEntry_idle (h : ∀ server, around.serverOf data ≠ .ok (some server)) :
    (s.setupEntry around entryId data).1 ≠ .ok true ∧ (s.setupEntry around entryId data).2 = s := by
  rw [setupEntry]
  cases hserver : around.serverOf data with
  | error e => exact ⟨nofun, rfl⟩
  | ok chosen =>
    cases chosen with
    | none => exact ⟨nofun, rfl⟩
    | some server => exact (h server hserver).elim

lemma setupEntry_started {server : Server} (h : around.serverOf data = .ok (some server)) :
    ((s.setupEntry around entryId data).1 = .ok true ↔ around.Completes s) ∧
      (s.setupEntry around entryId data).2.bridges = (s.startServer around.start entryId server).bridges ∧
      (s.setupEntry around entryId data).2.servers = (s.startServer around.start entryId server).servers := by
  rw [setupEntry, h]
  dsimp only
  have hviews := around.views_step s.viewsRegistered
  cases hf : around.forward with
  | error e => exact ⟨iff_of_false nofun fun hc => (nomatch hf.symm.trans hc.forwards), rfl, rfl⟩
  | ok =>
    have hflag : (s.startServer around.start entryId server).viewsRegistered = s.viewsRegistered := rfl
    rw [hflag]
    cases hv : (if s.viewsRegistered then .ok () else around.registerViews : Result Unit) with
    | error e =>
      refine ⟨iff_of_false nofun fun hc => ?_, rfl, rfl⟩
      have hok := hviews.mpr hc.registers
      rw [hv] at hok
      cases hok
    | ok =>
      cases hl : around.addUpdateListener with
      | error e => exact ⟨iff_of_false nofun fun hc => (nomatch hl.symm.trans hc.listens), rfl, rfl⟩
      | ok => exact ⟨iff_of_true rfl ⟨hf, hviews.mp hv, hl⟩, rfl, rfl⟩

lemma setupEntry_cases :
    (s.setupEntry around entryId data).1 ≠ .ok true ∧ (s.setupEntry around entryId data).2 = s ∨
      ∃ server, around.serverOf data = .ok (some server) ∧
        ((s.setupEntry around entryId data).1 = .ok true ↔ around.Completes s) ∧
          (s.setupEntry around entryId data).2.bridges = (s.startServer around.start entryId server).bridges ∧
          (s.setupEntry around entryId data).2.servers = (s.startServer around.start entryId server).servers := by
  by_cases hserver : ∃ server, around.serverOf data = .ok (some server)
  · obtain ⟨server, hserver⟩ := hserver
    exact .inr ⟨server, hserver, s.setupEntry_started around entryId data hserver⟩
  · exact .inl (s.setupEntry_idle around entryId data (not_exists.mp hserver))

theorem failed_setup_leaves_nothing_iff :
    s.LeavesNothing around entryId data ↔
      ∀ server, around.serverOf data = .ok (some server) → around.start.runs = true → around.Completes s := by
  constructor
  · intro h server hserver hruns
    obtain ⟨hresult, hbridges, -⟩ := s.setupEntry_started around entryId data hserver
    rw [← hresult]
    by_contra hfailed
    have hsub := h hfailed
    rw [hbridges, startServer_live, if_pos hruns] at hsub
    exact s.bridges.issued_not_live (hsub (Finset.mem_insert_self _ _))
  · intro h hfailed
    rcases s.setupEntry_cases around entryId data with ⟨-, hs⟩ | ⟨server, hserver, hresult, hbridges, -⟩
    · rw [hs]
    · have hidle : around.start.runs ≠ true := fun hruns => hfailed (hresult.mpr (h server hserver hruns))
      rw [hbridges, startServer_live, if_neg hidle]

/-! ### Retrying and unloading -/

lemma setupEntry_live :
    (s.setupEntry around entryId data).2.bridges.live ⊆ insert s.bridges.issued s.bridges.live := by
  rcases s.setupEntry_cases around entryId data with ⟨-, hs⟩ | ⟨server, -, -, hbridges, -⟩
  · rw [hs]
    exact Finset.subset_insert _ _
  · rw [hbridges, startServer_live]
    split
    · exact Finset.Subset.refl _
    · exact Finset.subset_insert _ _

def retries : Installed → List Surroundings → Installed
  | s, [] => s
  | s, around :: later =>
    match s.setupEntry around entryId data with
    | (.ok true, s') => s'
    | (.ok false, s') | (.error _, s') => retries s' later

theorem retries_run_one {attempts : List Surroundings}
    (h : ∀ around ∈ attempts, ∀ s : Installed, s.LeavesNothing around entryId data) :
    (s.retries entryId data attempts).bridges.live.card ≤ s.bridges.live.card + 1 := by
  induction attempts generalizing s with
  | nil => exact Nat.le_succ _
  | cons around later ih =>
    obtain ⟨hfirst, hlater⟩ := List.forall_mem_cons.mp h
    have hlive := Finset.card_le_card (s.setupEntry_live around entryId data)
    have hfailed := hfirst s
    rw [LeavesNothing] at hfailed
    rw [retries]
    split
    · next s' heq =>
      rw [heq] at hlive
      exact hlive.trans (Finset.card_insert_le _ _)
    all_goals
      next heq =>
      rw [heq] at hfailed
      exact (ih _ hlater).trans (Nat.succ_le_succ (Finset.card_le_card (hfailed nofun)))

theorem unload_undoes_setup (h : (s.setupEntry around entryId data).1 = .ok true) :
    ((s.setupEntry around entryId data).2.unloadEntry (.ok ()) (fun _ => true) entryId).2.bridges.live =
      s.bridges.live := by
  rcases s.setupEntry_cases around entryId data with ⟨hfailed, -⟩ | ⟨server, -, -, hbridges, hservers⟩
  · exact (hfailed h).elim
  · rw [unloadEntry, hbridges, hservers]
    simp only [startServer, Function.update_self, List.foldl_cons, List.foldl_nil, if_true]
    split
    · exact s.bridges.issue_close
    · change (s.bridges.issue.close s.bridges.issued).live.erase s.bridges.issued = _
      rw [s.bridges.issue_close, Finset.erase_eq_of_notMem s.bridges.issued_not_live]

def usbEntry : EntryData := [(confAdapterMode, .str "esp32")]

def undisturbed : Surroundings where
  ensureLabels := .ok ()
  imported := .ok ()
  int _ := .ok 0
  construct _ := .ok ()
  start := .returned
  forward := .ok ()
  registerView _ := .ok ()
  addUpdateListener := .ok ()

def forwardRaises : Surroundings :=
  { undisturbed with forward := .error ⟨.other "ImportError", "cannot import platform button"⟩ }

/-- The retry that succeeds overwrites the only reference to the first bridge, and unloading stops the second. -/
theorem raised_forward_leaks :
    ¬ empty.LeavesNothing forwardRaises "entry" usbEntry ∧
      (empty.retries "entry" usbEntry [forwardRaises, undisturbed]).bridges.live = {0, 1} ∧
      ((empty.retries "entry" usbEntry [forwardRaises, undisturbed]).unloadEntry (.ok ()) (fun _ => true)
        "entry").2.bridges.live = {0} := by
  refine ⟨fun h => ?_, by decide +kernel, by decide +kernel⟩
  have hsub := h nofun
  revert hsub
  decide +kernel

end Installed

end HaBluetooth.Integration
