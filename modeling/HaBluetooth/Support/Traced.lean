import Mathlib.Tactic

/-! Programs that leave a trace of events and either return a value or raise. -/

namespace HaBluetooth.Support

structure Traced (ε ω α : Type) where
  events : List ω
  result : Except ε α

namespace Traced

variable {ε ω α β : Type}

@[ext] lemma ext {x y : Traced ε ω α} (he : x.events = y.events) (hr : x.result = y.result) : x = y := by
  cases x
  cases y
  simp_all

protected def bind (x : Traced ε ω α) (f : α → Traced ε ω β) : Traced ε ω β :=
  match x.result with
  | .ok a => ⟨x.events ++ (f a).events, (f a).result⟩
  | .error e => ⟨x.events, .error e⟩

instance : Monad (Traced ε ω) where
  pure a := ⟨[], .ok a⟩
  bind := Traced.bind

def emit (w : ω) : Traced ε ω Unit := ⟨[w], .ok ()⟩

def lift (r : Except ε α) : Traced ε ω α := ⟨[], r⟩

/-- `try` with one handler for everything raised. -/
def handle (x : Traced ε ω α) (h : ε → Traced ε ω α) : Traced ε ω α :=
  match x.result with
  | .ok _ => x
  | .error e => ⟨x.events ++ (h e).events, (h e).result⟩

def forEach (f : β → Traced ε ω Unit) : List β → Traced ε ω Unit
  | [] => pure ()
  | b :: bs => do
    f b
    forEach f bs

def observed {γ : Type} (f : ω → Option γ) (x : Traced ε ω α) : List γ := x.events.filterMap f

def mapEvents {ω' : Type} (f : ω → ω') (x : Traced ε ω α) : Traced ε ω' α := ⟨x.events.map f, x.result⟩

def Completes (x : Traced ε ω α) : Prop := ∃ a, x.result = .ok a

@[simp] lemma forEach_nil (f : β → Traced ε ω Unit) : forEach f [] = pure () := rfl

@[simp] lemma forEach_cons (f : β → Traced ε ω Unit) (b : β) (bs : List β) :
    forEach f (b :: bs) = f b >>= fun _ => forEach f bs := rfl

@[simp] lemma pure_events (a : α) : (pure a : Traced ε ω α).events = [] := rfl

@[simp] lemma pure_result (a : α) : (pure a : Traced ε ω α).result = .ok a := rfl

@[simp] lemma emit_events (w : ω) : (emit w : Traced ε ω Unit).events = [w] := rfl

@[simp] lemma emit_result (w : ω) : (emit w : Traced ε ω Unit).result = .ok () := rfl

@[simp] lemma lift_events (r : Except ε α) : (lift r : Traced ε ω α).events = [] := rfl

@[simp] lemma lift_result (r : Except ε α) : (lift r : Traced ε ω α).result = r := rfl

lemma bind_ok {x : Traced ε ω α} {a : α} (f : α → Traced ε ω β) (h : x.result = .ok a) :
    x >>= f = ⟨x.events ++ (f a).events, (f a).result⟩ := by
  change Traced.bind x f = _
  rw [Traced.bind, h]

lemma bind_error {x : Traced ε ω α} {e : ε} (f : α → Traced ε ω β) (h : x.result = .error e) :
    x >>= f = ⟨x.events, .error e⟩ := by
  change Traced.bind x f = _
  rw [Traced.bind, h]

@[simp] lemma emit_bind (w : ω) (f : Unit → Traced ε ω β) :
    emit w >>= f = ⟨w :: (f ()).events, (f ()).result⟩ := rfl

@[simp] lemma lift_ok_bind (a : α) (f : α → Traced ε ω β) : lift (.ok a) >>= f = f a := rfl

@[simp] lemma lift_error_bind (e : ε) (f : α → Traced ε ω β) :
    (lift (.error e) : Traced ε ω α) >>= f = ⟨[], .error e⟩ := rfl

lemma map_id (x : Traced ε ω α) : id <$> x = x := by
  change Traced.bind x (fun a => ⟨[], .ok a⟩) = x
  rw [Traced.bind]
  split <;> rename_i h
  · exact ext (List.append_nil _) h.symm
  · exact ext rfl h.symm

lemma assoc {γ : Type} (x : Traced ε ω α) (f : α → Traced ε ω β) (g : β → Traced ε ω γ) :
    x >>= f >>= g = x >>= fun a => f a >>= g := by
  cases h : x.result with
  | error e => rw [bind_error f h, bind_error _ rfl, bind_error _ h]
  | ok a =>
    rw [bind_ok f h, bind_ok _ h]
    cases hf : (f a).result with
    | error e => rw [bind_error g rfl, bind_error g hf]
    | ok b => rw [bind_ok g rfl, bind_ok g hf, List.append_assoc]

instance : LawfulMonad (Traced ε ω) := .mk' _ map_id (fun _ _ => rfl) assoc

lemma lift_bind (r : Except ε α) (f : α → Except ε β) :
    (lift (r >>= f) : Traced ε ω β) = lift r >>= fun a => lift (f a) := by
  cases r <;> rfl

lemma lift_pure (a : α) : (lift (pure a) : Traced ε ω α) = pure a := rfl

lemma bind_result_ok {x : Traced ε ω α} {f : α → Traced ε ω β} {b : β} (h : (x >>= f).result = .ok b) :
    ∃ a, x.result = .ok a ∧ (f a).result = .ok b := by
  cases hx : x.result with
  | error e =>
    rw [bind_error f hx] at h
    cases h
  | ok a => exact ⟨a, rfl, by rwa [bind_ok f hx] at h⟩

lemma mem_bind_events {x : Traced ε ω α} {f : α → Traced ε ω β} {w : ω} :
    w ∈ (x >>= f).events ↔ w ∈ x.events ∨ ∃ a, x.result = .ok a ∧ w ∈ (f a).events := by
  cases h : x.result with
  | ok a => simp [bind_ok f h]
  | error e => simp [bind_error f h]

lemma mem_lift_bind {r : Except ε α} {f : α → Traced ε ω β} {w : ω} :
    w ∈ (lift r >>= f).events ↔ ∃ a, r = .ok a ∧ w ∈ (f a).events := by
  simp [mem_bind_events]

lemma observed_prefix {γ : Type} (g : ω → Option γ) (x : Traced ε ω α) (f : α → Traced ε ω β) :
    observed g x <+: observed g (x >>= f) := by
  cases h : x.result with
  | ok a => exact ⟨observed g (f a), by simp [bind_ok f h, observed]⟩
  | error e => exact ⟨[], by simp [bind_error f h, observed]⟩

lemma handle_ok {x : Traced ε ω α} {a : α} (h : ε → Traced ε ω α) (hx : x.result = .ok a) :
    x.handle h = x := by
  rw [handle, hx]

lemma handle_error {x : Traced ε ω α} {e : ε} (h : ε → Traced ε ω α) (hx : x.result = .error e) :
    x.handle h = ⟨x.events ++ (h e).events, (h e).result⟩ := by
  rw [handle, hx]

lemma bind_pure_events (x : Traced ε ω α) (f : α → β) : (x >>= fun a => pure (f a)).events = x.events := by
  cases h : x.result with
  | ok a => simp [bind_ok _ h]
  | error e => simp [bind_error _ h]

lemma mem_handle_events {x : Traced ε ω α} {h : ε → Traced ε ω α} {w : ω} (hw : w ∈ (x.handle h).events) :
    w ∈ x.events ∨ ∃ e, w ∈ (h e).events := by
  cases hx : x.result with
  | ok a =>
    rw [handle_ok h hx] at hw
    exact .inl hw
  | error e =>
    rw [handle_error h hx] at hw
    exact (List.mem_append.mp hw).imp_right fun he => ⟨e, he⟩

section Observed

variable {γ : Type} (g : ω → Option γ)

lemma observed_bind_ok {x : Traced ε ω α} {a : α} (f : α → Traced ε ω β) (h : x.result = .ok a) :
    observed g (x >>= f) = observed g x ++ observed g (f a) := by
  rw [bind_ok f h, observed, List.filterMap_append]
  rfl

lemma observed_bind_error {x : Traced ε ω α} {e : ε} (f : α → Traced ε ω β) (h : x.result = .error e) :
    observed g (x >>= f) = observed g x := by
  rw [bind_error f h]
  rfl

variable {g}

lemma observed_bind_nil {x : Traced ε ω α} {f : α → Traced ε ω β} (hx : observed g x = [])
    (hf : ∀ a, observed g (f a) = []) :
    observed g (x >>= f) = [] := by
  cases h : x.result with
  | ok a => rw [observed_bind_ok g f h, hx, hf, List.append_nil]
  | error e => rw [observed_bind_error g f h, hx]

lemma observed_bind_pure (x : Traced ε ω α) (f : α → β) : observed g (x >>= fun a => pure (f a)) = observed g x := by
  cases h : x.result with
  | ok a => rw [observed_bind_ok g _ h]; exact List.append_nil _
  | error e => rw [observed_bind_error g _ h]

lemma observed_handle_nil {x : Traced ε ω α} {h : ε → Traced ε ω α} (hx : observed g x = [])
    (hh : ∀ e, observed g (h e) = []) :
    observed g (x.handle h) = [] := by
  cases hres : x.result with
  | ok a => rw [handle_ok h hres, hx]
  | error e =>
    rw [handle_error h hres, observed, List.filterMap_append]
    exact List.append_eq_nil_iff.mpr ⟨hx, hh e⟩

lemma observed_mapEvents {ω' : Type} (f : ω' → ω) (x : Traced ε ω' α) :
    observed g (x.mapEvents f) = observed (g ∘ f) x :=
  List.filterMap_map

end Observed

/-- Whenever the program is cut off, what it has left so far has the property. -/
def Throughout (P : List ω → Prop) (x : Traced ε ω α) : Prop := ∀ ws, ws <+: x.events → P ws

section Throughout

variable {P : List ω → Prop}

lemma prefix_append_cases {ws xs ys : List ω} (h : ws <+: xs ++ ys) : ws <+: xs ∨ ∃ zs, zs <+: ys ∧ ws = xs ++ zs := by
  obtain ⟨t, ht⟩ := h
  rcases List.append_eq_append_iff.mp ht with ⟨a, ha, -⟩ | ⟨c, hc, hys⟩
  · exact .inl ⟨a, ha.symm⟩
  · exact .inr ⟨c, ⟨t, hys.symm⟩, hc⟩

lemma Throughout.append (hP : ∀ ws ws', P ws → P ws' → P (ws ++ ws')) {x : Traced ε ω α} {y : Traced ε ω β}
    (hx : x.Throughout P) (hy : y.Throughout P) {ws : List ω} (h : ws <+: x.events ++ y.events) : P ws := by
  rcases prefix_append_cases h with hw | ⟨zs, hz, rfl⟩
  · exact hx ws hw
  · exact hP _ _ (hx _ (List.prefix_refl _)) (hy zs hz)

lemma Throughout.bind (hP : ∀ ws ws', P ws → P ws' → P (ws ++ ws')) {x : Traced ε ω α} {f : α → Traced ε ω β}
    (hx : x.Throughout P) (hf : ∀ a, (f a).Throughout P) : (x >>= f).Throughout P := by
  intro ws hw
  cases h : x.result with
  | error e =>
    rw [bind_error f h] at hw
    exact hx ws hw
  | ok a =>
    rw [bind_ok f h] at hw
    exact hx.append hP (hf a) hw

lemma Throughout.handle (hP : ∀ ws ws', P ws → P ws' → P (ws ++ ws')) {x : Traced ε ω α} {h : ε → Traced ε ω α}
    (hx : x.Throughout P) (hh : ∀ e, (h e).Throughout P) : (x.handle h).Throughout P := by
  intro ws hw
  cases hr : x.result with
  | ok a =>
    rw [handle_ok h hr] at hw
    exact hx ws hw
  | error e =>
    rw [handle_error h hr] at hw
    exact hx.append hP (hh e) hw

lemma Throughout.forEach (hP : ∀ ws ws', P ws → P ws' → P (ws ++ ws')) (hn : P []) {f : β → Traced ε ω Unit}
    (hf : ∀ b, (f b).Throughout P) (bs : List β) : (forEach f bs).Throughout P := by
  induction bs with
  | nil =>
    intro ws hw
    exact List.prefix_nil.mp hw ▸ hn
  | cons b bs ih => exact (hf b).bind hP fun _ => ih

end Throughout

lemma completes_ok (ws : List ω) (a : α) : (⟨ws, .ok a⟩ : Traced ε ω α).Completes := ⟨a, rfl⟩

lemma not_completes_error (ws : List ω) (e : ε) : ¬ (⟨ws, .error e⟩ : Traced ε ω α).Completes := by
  rintro ⟨a, h⟩
  cases h

lemma completes_mk (ws : List ω) (x : Traced ε ω α) : (⟨ws, x.result⟩ : Traced ε ω α).Completes ↔ x.Completes :=
  Iff.rfl

lemma handle_emit (w : ω) (x : Traced ε ω α) (h : ε → Traced ε ω α) :
    (emit w >>= fun _ => x).handle h = emit w >>= fun _ => x.handle h := by
  rw [emit_bind, emit_bind]
  cases hx : x.result with
  | ok a => rw [handle_ok (x := ⟨w :: x.events, .ok a⟩) h rfl, handle_ok h hx, hx]
  | error e => rw [handle_error (x := ⟨w :: x.events, .error e⟩) h rfl, handle_error h hx, List.cons_append]

end Traced

end HaBluetooth.Support
