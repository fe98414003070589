import HaBluetooth.Support.Refinement
import Mathlib.Algebra.BigOperators.Ring.List
import Mathlib.Data.List.Perm.Basic
import Mathlib.Tactic.Linarith
import Mathlib.Tactic.Ring

/-! Books kept over a run: entries are written and promises are made and kept, each at its weight. -/

namespace HaBluetooth.Support

/-- What an entry weighs, and what a promise does while it is open. -/
structure Account (ω τ : Type) where
  weigh : ω → ℤ
  owe : τ → ℤ

lemma sum_indicator {α : Type} (p : α → Bool) (l : List α) :
    (l.map fun x => if p x then (1 : ℤ) else 0).sum = l.countP p := by
  induction l with
  | nil => rfl
  | cons x l ih =>
    rw [List.map_cons, List.sum_cons, ih, List.countP_cons]
    cases p x <;> simp [add_comm]

namespace Account

variable {ω τ : Type} (a : Account ω τ)

def balance (entries : List ω) (promises : List τ) : ℤ := (entries.map a.weigh).sum + (promises.map a.owe).sum

def counting (p : ω → Bool) (q : τ → Bool) : Account ω τ where
  weigh w := if p w then 1 else 0
  owe t := if q t then 1 else 0

def sub (b : Account ω τ) : Account ω τ := ⟨fun w => a.weigh w - b.weigh w, fun t => a.owe t - b.owe t⟩

def scale (k : ℤ) : Account ω τ := ⟨fun w => k * a.weigh w, fun t => k * a.owe t⟩

@[simp] lemma balance_nil : a.balance [] [] = 0 := rfl

lemma balance_append (entries entries' : List ω) (promises promises' : List τ) :
    a.balance (entries ++ entries') (promises ++ promises') =
      a.balance entries promises + a.balance entries' promises' := by
  simp only [balance, List.map_append, List.sum_append]
  ring

lemma balance_eraseIdx (entries : List ω) {promises : List τ} {i : ℕ} {t : τ} (h : promises[i]? = some t) :
    a.balance entries (promises.eraseIdx i) = a.balance entries promises - a.owe t := by
  obtain ⟨hi, rfl⟩ := List.getElem?_eq_some_iff.mp h
  have hsum := ((List.getElem_cons_eraseIdx_perm hi).map a.owe).sum_eq
  rw [List.map_cons, List.sum_cons] at hsum
  rw [balance, balance, ← hsum]
  ring

lemma balance_sub (b : Account ω τ) (entries : List ω) (promises : List τ) :
    (a.sub b).balance entries promises = a.balance entries promises - b.balance entries promises := by
  have hsub {α : Type} (f g : α → ℤ) (l : List α) : (l.map fun x => f x - g x).sum = (l.map f).sum - (l.map g).sum := by
    induction l with
    | nil => rfl
    | cons x l ih =>
      simp only [List.map_cons, List.sum_cons, ih]
      ring
  simp only [balance, sub, hsub]
  ring

lemma balance_scale (k : ℤ) (entries : List ω) (promises : List τ) :
    (a.scale k).balance entries promises = k * a.balance entries promises := by
  have hmul {α : Type} (f : α → ℤ) (l : List α) : (l.map fun x => k * f x).sum = k * (l.map f).sum := by
    rw [List.sum_map_mul_left]
  simp only [balance, scale, hmul]
  ring

lemma balance_counting (p : ω → Bool) (q : τ → Bool) (entries : List ω) (promises : List τ) :
    (counting p q).balance entries promises = (entries.countP p + promises.countP q : ℕ) := by
  simp only [balance, counting, sum_indicator, Nat.cast_add]

end Account

variable {σ ι : Type} {step : σ → ι → σ} {admitted : σ → ι → Prop} {s : σ} {inputs : List ι}

lemma Admits.balance_le (measure : σ → ℤ) (credit : ι → ℤ)
    (hstep : ∀ s i, admitted s i → measure (step s i) ≤ measure s + credit i) (h : Admits step admitted s inputs) :
    measure (inputs.foldl step s) ≤ measure s + (inputs.map credit).sum := by
  induction inputs generalizing s with
  | nil => simp
  | cons i inputs ih =>
    rw [List.foldl_cons, List.map_cons, List.sum_cons]
    have hfirst := hstep s i h.1
    have hrest := ih h.2
    linarith

end HaBluetooth.Support
