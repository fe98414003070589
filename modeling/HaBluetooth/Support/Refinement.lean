import Mathlib.Data.List.Infix
import Mathlib.Logic.Relation

/-! Forward simulation, and the channel that a connection with sessions is meant to be: what arrives
in a session is a prefix of what was sent in it. -/

namespace HaBluetooth.Support

section Simulation

variable {σ ι α : Type}

/-- Each input is admitted in the state it finds. -/
def Admits (step : σ → ι → σ) (admitted : σ → ι → Prop) : σ → List ι → Prop
  | _, [] => True
  | s, i :: inputs => admitted s i ∧ Admits step admitted (step s i) inputs

instance decidableAdmits (step : σ → ι → σ) (admitted : σ → ι → Prop) [∀ s i, Decidable (admitted s i)] :
    ∀ (s : σ) (inputs : List ι), Decidable (Admits step admitted s inputs)
  | _, [] => isTrue trivial
  | s, i :: inputs =>
    have := decidableAdmits step admitted (step s i) inputs
    inferInstanceAs (Decidable (_ ∧ _))

def Simulates (step : σ → ι → σ) (admitted : σ → ι → Prop) (move : α → α → Prop) (R : σ → α → Prop) : Prop :=
  ∀ s a i, R s a → admitted s i → ∃ a', Relation.ReflTransGen move a a' ∧ R (step s i) a'

variable {step : σ → ι → σ} {admitted : σ → ι → Prop} {move : α → α → Prop} {R : σ → α → Prop} {s : σ} {a : α}

lemma Simulates.run (h : Simulates step admitted move R) (hs : R s a) {inputs : List ι}
    (hi : Admits step admitted s inputs) : ∃ a', Relation.ReflTransGen move a a' ∧ R (inputs.foldl step s) a' := by
  induction inputs generalizing s a with
  | nil => exact ⟨a, .refl, hs⟩
  | cons i inputs ih =>
    obtain ⟨b, hab, hb⟩ := h s a i hs hi.1
    obtain ⟨c, hbc, hc⟩ := ih hb hi.2
    exact ⟨c, hab.trans hbc, hc⟩

lemma Admits.invariant (P : σ → Prop) (hstep : ∀ s i, P s → admitted s i → P (step s i)) (hs : P s) {inputs : List ι}
    (hi : Admits step admitted s inputs) : P (inputs.foldl step s) := by
  induction inputs generalizing s with
  | nil => exact hs
  | cons i inputs ih => exact ih (hstep s i hs hi.1) hi.2

lemma Admits.mono {admitted' : σ → ι → Prop} (hle : ∀ s i, admitted s i → admitted' s i) {inputs : List ι}
    (h : Admits step admitted s inputs) : Admits step admitted' s inputs := by
  induction inputs generalizing s with
  | nil => exact trivial
  | cons i inputs ih => exact ⟨hle s i h.1, ih h.2⟩

lemma Admits.always (h : ∀ s i, admitted s i) (inputs : List ι) : Admits step admitted s inputs := by
  induction inputs generalizing s with
  | nil => exact trivial
  | cons i inputs ih => exact ⟨h s i, ih⟩

lemma Admits.split {before : List ι} {i : ι} {after : List ι} (h : Admits step admitted s (before ++ i :: after)) :
    admitted (before.foldl step s) i := by
  induction before generalizing s with
  | nil => exact h.1
  | cons j before ih => exact ih h.2

lemma Admits.lift {τ : Type} {step' : τ → ι → τ} {proj : τ → σ} (hstep : ∀ t i, proj (step' t i) = step (proj t) i)
    {t : τ} {inputs : List ι} (h : Admits step admitted (proj t) inputs) :
    Admits step' (fun t i => admitted (proj t) i) t inputs := by
  induction inputs generalizing t with
  | nil => exact trivial
  | cons i inputs ih => exact ⟨h.1, ih (hstep t i ▸ h.2)⟩

lemma reachable_preserves (P : α → Prop) (hmove : ∀ a b, P a → move a b → P b) {b : α}
    (h : Relation.ReflTransGen move a b) (ha : P a) : P b := by
  induction h with
  | refl => exact ha
  | tail _ hlast ih => exact hmove _ _ ih hlast

end Simulation

structure Exchange (φ : Type) where
  sent : List φ
  got : List φ
  deriving DecidableEq, Repr

structure Channel (φ : Type) where
  past : List (Exchange φ)
  current : Exchange φ
  deriving DecidableEq, Repr

namespace Channel

variable {φ : Type}

def fresh : Channel φ := ⟨[], [], []⟩

def exchanges (c : Channel φ) : List (Exchange φ) := c.past ++ [c.current]

inductive Move : Channel φ → Channel φ → Prop
  | send (past : List (Exchange φ)) (sent got : List φ) (f : φ) : Move ⟨past, sent, got⟩ ⟨past, sent ++ [f], got⟩
  | deliver (past : List (Exchange φ)) (sent got : List φ) (f : φ) (h : got ++ [f] <+: sent) :
    Move ⟨past, sent, got⟩ ⟨past, sent, got ++ [f]⟩
  | renew (past : List (Exchange φ)) (e : Exchange φ) : Move ⟨past, e⟩ ⟨past ++ [e], [], []⟩

def Orderly (c : Channel φ) : Prop := ∀ e ∈ c.exchanges, e.got <+: e.sent

lemma fresh_orderly : (fresh : Channel φ).Orderly := by
  intro e he
  obtain rfl := List.mem_singleton.mp he
  exact List.prefix_rfl

lemma Move.orderly {c d : Channel φ} (hc : c.Orderly) (h : Move c d) : d.Orderly := by
  rw [Orderly, exchanges, List.forall_mem_append, List.forall_mem_singleton] at hc ⊢
  cases h with
  | send past sent got f => exact ⟨hc.1, hc.2.trans (List.prefix_append _ _)⟩
  | deliver past sent got f h => exact ⟨hc.1, h⟩
  | renew past e =>
    refine ⟨?_, List.prefix_rfl⟩
    rw [List.forall_mem_append, List.forall_mem_singleton]
    exact hc

lemma reachable_orderly {c : Channel φ} (h : Relation.ReflTransGen Move fresh c) : c.Orderly :=
  reachable_preserves Orderly (fun _ _ => Move.orderly) h fresh_orderly

lemma sends (past : List (Exchange φ)) (sent got more : List φ) :
    Relation.ReflTransGen Move ⟨past, sent, got⟩ ⟨past, sent ++ more, got⟩ := by
  induction more using List.reverseRecOn with
  | nil => rw [List.append_nil]
  | append_singleton more f ih =>
    rw [← List.append_assoc]
    exact ih.tail (.send past (sent ++ more) got f)

lemma delivers (past : List (Exchange φ)) {sent got got' : List φ} (h : got <+: got') (hs : got' <+: sent) :
    Relation.ReflTransGen Move ⟨past, sent, got⟩ ⟨past, sent, got'⟩ := by
  obtain ⟨more, rfl⟩ := h
  induction more using List.reverseRecOn with
  | nil => rw [List.append_nil]
  | append_singleton more f ih =>
    rw [← List.append_assoc] at hs ⊢
    exact (ih ((List.prefix_append _ _).trans hs)).tail (.deliver past sent (got ++ more) f hs)

end Channel

end HaBluetooth.Support
