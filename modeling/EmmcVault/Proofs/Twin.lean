import EmmcVault.Proofs.HostLog

/-!
# Two runs side by side

`Twin R E V x x'`: from worlds that `R` relates, `x` and `x'` end alike, both
with values that `V` relates or both with failures that `E` relates, and in
worlds that `R` still relates. One rule for each way in which operations are
put together. What an observer of one run could tell apart is what the three
relations do not relate.
-/

namespace EmmcVault

variable {ε ε' σ τ α α' β β' : Type}

inductive Ended (R : σ → σ → Prop) (E : ε → ε → Prop) (V : α → α' → Prop) :
    EStateM.Result ε σ α → EStateM.Result ε σ α' → Prop
  | ok {a a' s s'} (hv : V a a') (hr : R s s') : Ended R E V (.ok a s) (.ok a' s')
  | error {e e' s s'} (he : E e e') (hr : R s s') : Ended R E V (.error e s) (.error e' s')

def Twin (R : σ → σ → Prop) (E : ε → ε → Prop) (V : α → α' → Prop) (x : EStateM ε σ α)
    (x' : EStateM ε σ α') : Prop :=
  ∀ s s', R s s' → Ended R E V (x s) (x' s')

namespace Twin

variable {R : σ → σ → Prop} {E E' : ε → ε → Prop} {V : α → α' → Prop} {W : β → β' → Prop}
  {x : EStateM ε σ α} {x' : EStateM ε σ α'}

/-- Two runs from related worlds end in one of two ways. -/
theorem cases (h : Twin R E V x x') {s s' : σ} (hr : R s s') :
    (∃ a a' t t', x s = .ok a t ∧ x' s' = .ok a' t' ∧ V a a' ∧ R t t') ∨
      ∃ e e' t t', x s = .error e t ∧ x' s' = .error e' t' ∧ E e e' ∧ R t t' := by
  have hend := h s s' hr
  cases hx : x s <;> cases hx' : x' s' <;> rw [hx, hx'] at hend <;> cases hend
  · exact .inl ⟨_, _, _, _, rfl, rfl, ‹_›, ‹_›⟩
  · exact .inr ⟨_, _, _, _, rfl, rfl, ‹_›, ‹_›⟩

theorem pure {a : α} {a' : α'} (h : V a a') : Twin R E V (Pure.pure a) (Pure.pure a') :=
  fun _ _ hr => .ok h hr

theorem throw {e e' : ε} (h : E e e') :
    Twin R E V (throw e : EStateM ε σ α) (throw e' : EStateM ε σ α') :=
  fun _ _ hr => .error h hr

theorem get {V : σ → σ → Prop} (h : ∀ s s', R s s' → V s s') :
    Twin R E V (MonadState.get : EStateM ε σ σ) MonadState.get :=
  fun _ _ hr => .ok (h _ _ hr) hr

theorem modify {f f' : σ → σ} (h : ∀ s s', R s s' → R (f s) (f' s')) :
    Twin R E (fun _ _ => True) (modify f : EStateM ε σ PUnit) (modify f') :=
  fun _ _ hr => .ok trivial (h _ _ hr)

theorem bind {f : α → EStateM ε σ β} {f' : α' → EStateM ε σ β'} (h : Twin R E V x x')
    (hf : ∀ a a', V a a' → Twin R E W (f a) (f' a')) : Twin R E W (x >>= f) (x' >>= f') := by
  intro s s' hr
  show Ended R E W (EStateM.bind x f s) (EStateM.bind x' f' s')
  unfold EStateM.bind
  obtain ⟨a, a', t, t', hx, hx', hv, ht⟩ | ⟨e, e', t, t', hx, hx', he, ht⟩ := h.cases hr
  · rw [hx, hx']
    exact hf a a' hv t t' ht
  · rw [hx, hx']
    exact .error he ht

theorem mono {V' : α → α' → Prop} (h : Twin R E V x x') (he : ∀ e e', E e e' → E' e e')
    (hv : ∀ a a', V a a' → V' a a') : Twin R E' V' x x' := by
  intro s s' hr
  obtain ⟨_, _, _, _, hx, hx', ha, ht⟩ | ⟨_, _, _, _, hx, hx', hb, ht⟩ := h.cases hr
  · rw [hx, hx']
    exact .ok (hv _ _ ha) ht
  · rw [hx, hx']
    exact .error (he _ _ hb) ht

theorem adaptExcept {f : ε → ε'} {E' : ε' → ε' → Prop} (h : Twin R E V x x')
    (hf : ∀ e e', E e e' → E' (f e) (f e')) : Twin R E' V (x.adaptExcept f) (x'.adaptExcept f) := by
  intro s s' hr
  unfold EStateM.adaptExcept
  obtain ⟨_, _, _, _, hx, hx', hv, ht⟩ | ⟨_, _, _, _, hx, hx', he, ht⟩ := h.cases hr
  · rw [hx, hx']
    exact .ok hv ht
  · rw [hx, hx']
    exact .error (hf _ _ he) ht

theorem settled (h : Twin R E V x x') {s s' : σ} (hr : R s s') :
    R (Linux.settled x s) (Linux.settled x' s') := by
  unfold Linux.settled
  obtain ⟨_, _, _, _, hx, hx', -, ht⟩ | ⟨_, _, _, _, hx, hx', -, ht⟩ := h.cases hr <;>
    rw [hx, hx'] <;> exact ht

end Twin

namespace Linux

/-- Worlds that `R` relates, with the same headers staged. -/
structure Session.Alike (R : σ → σ → Prop) (s s' : Session σ) : Prop where
  world : R s.world s'.world
  staged : s.staged = s'.staged

variable {R : σ → σ → Prop} {E : ε → ε → Prop} {V : α → α' → Prop}

theorem Session.Alike.stage {s s' : Session σ} (h : Session.Alike R s s') (device : Path)
    (params : Option EncryptionParams) :
    Session.Alike R (s.stage device params) (s'.stage device params) :=
  ⟨h.world, by simp only [Session.stage, h.staged]⟩

theorem Session.onWorld_twin {x : EStateM ε σ α} {x' : EStateM ε σ α'} (h : Twin R E V x x') :
    Twin (Session.Alike R) E V (Session.onWorld x) (Session.onWorld x') := by
  intro s s' hr
  unfold Session.onWorld
  obtain ⟨_, _, _, _, hx, hx', hv, ht⟩ | ⟨_, _, _, _, hx, hx', he, ht⟩ := h.cases hr.world
  · rw [hx, hx']
    exact .ok hv ⟨ht, hr.staged⟩
  · rw [hx, hx']
    exact .error he ⟨ht, hr.staged⟩

theorem SystemTask.serving_twin {x : SystemTask σ α} {x' : SystemTask σ α'}
    {E : SystemError → SystemError → Prop} {E' : BackendError → BackendError → Prop} {call : String}
    (h : Twin R E V x x') (he : ∀ e e', E e e' → E' (e.ofCall call) (e'.ofCall call)) :
    Twin R E' V (x.serving call) (x'.serving call) :=
  Twin.adaptExcept h he

end Linux

end EmmcVault
