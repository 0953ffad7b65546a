import EmmcVault.Erase.Blocks
import EmmcVault.Erase.Target
import EmmcVault.Erase.Zero
import EmmcVault.Volume

/-!
# Where a run ends

`Triple x s Q E`: started in `s`, `x` ends as `Q` says if it succeeds and as
`E` says if it fails. One rule for each way in which operations are put
together: sequences, renamed failures, undo steps, open devices, loops over
blocks and repeated transfers. `Keeps I F x` is the case in which an invariant
is kept and every failure is one of `F`.
-/

namespace EmmcVault

variable {ε ε' σ τ η α β : Type}

def Triple (x : EStateM ε σ α) (s : σ) (Q : α → σ → Prop) (E : ε → σ → Prop) : Prop :=
  match x s with
  | .ok a s => Q a s
  | .error e s => E e s

namespace Triple

variable {s : σ} {Q Q' : α → σ → Prop} {E E' : ε → σ → Prop} {x : EStateM ε σ α}

theorem pure {a : α} (h : Q a s) : Triple (Pure.pure a) s Q E := h

theorem throw {e : ε} (h : E e s) : Triple (throw e : EStateM ε σ α) s Q E := h

theorem trivial : Triple x s (fun _ _ => True) (fun _ _ => True) := by
  unfold Triple
  split <;> exact True.intro

/-- A run ends as it ends. -/
theorem self : Triple x s (fun a s' => x s = .ok a s') (fun e s' => x s = .error e s') := by
  unfold Triple
  split <;> assumption

theorem of_ok {a : α} {s' : σ} (h : x s = .ok a s') (hq : Q a s') : Triple x s Q E := by
  simp only [Triple, h]
  exact hq

theorem of_error {e : ε} {s' : σ} (h : x s = .error e s') (he : E e s') : Triple x s Q E := by
  simp only [Triple, h]
  exact he

theorem ok (h : Triple x s Q E) {a : α} {s' : σ} (hx : x s = .ok a s') : Q a s' := by
  simpa only [Triple, hx] using h

theorem error (h : Triple x s Q E) {e : ε} {s' : σ} (hx : x s = .error e s') : E e s' := by
  simpa only [Triple, hx] using h

/-- A run that ends as it should ends in one of two ways. -/
theorem cases (h : Triple x s Q E) :
    (∃ a s', x s = .ok a s' ∧ Q a s') ∨ ∃ e s', x s = .error e s' ∧ E e s' := by
  unfold Triple at h
  split at h
  · rename_i a s' hx
    exact .inl ⟨a, s', hx, h⟩
  · rename_i e s' hx
    exact .inr ⟨e, s', hx, h⟩

theorem mono (h : Triple x s Q E) (hq : ∀ a s', Q a s' → Q' a s')
    (he : ∀ e s', E e s' → E' e s') : Triple x s Q' E' := by
  unfold Triple at h ⊢
  split at h
  · exact hq _ _ h
  · exact he _ _ h

theorem and (h : Triple x s Q E) (h' : Triple x s Q' E') :
    Triple x s (fun a t => Q a t ∧ Q' a t) (fun e t => E e t ∧ E' e t) := by
  unfold Triple at h h' ⊢
  split <;> simp_all

theorem bind {f : α → EStateM ε σ β} {R : α → σ → Prop} {Q : β → σ → Prop}
    (h : Triple x s R E) (hf : ∀ a s', R a s' → Triple (f a) s' Q E) :
    Triple (x >>= f) s Q E := by
  unfold Triple at h
  show Triple (EStateM.bind x f) s Q E
  unfold Triple EStateM.bind
  split at h
  · rename_i a s' hx
    rw [hx]
    exact hf a s' h
  · rename_i e s' hx
    rw [hx]
    exact h

theorem adaptExcept {f : ε → ε'} {E : ε' → σ → Prop} (h : Triple x s Q fun e s' => E (f e) s') :
    Triple (x.adaptExcept f) s Q E := by
  unfold Triple at h
  unfold Triple EStateM.adaptExcept
  split at h
  · rename_i hx
    rw [hx]
    exact h
  · rename_i hx
    rw [hx]
    exact h

theorem orFault {call : Call σ α} {fault : BackendError → Fault} {E : Fault → σ → Prop}
    (h : Triple call s Q fun e s' => E (fault e) s') : Triple (call.orFault fault) s Q E :=
  adaptExcept h

theorem step {call : Call σ α} {fault : BackendError → Fault} {E : Failure → σ → Prop}
    (h : Triple call s Q fun e s' => E ⟨fault e, []⟩ s') : Triple (Volume.step call fault) s Q E :=
  adaptExcept h

theorem ofExcept {r : Except ε α} (hq : ∀ a, r = .ok a → Q a s) (he : ∀ e, r = .error e → E e s) :
    Triple (MonadExcept.ofExcept r : EStateM ε σ α) s Q E := by
  cases r with
  | ok a => exact hq a rfl
  | error e => exact he e rfl

/-- The undo step runs where the body failed; the failure it is told of stays
and at most gains a note. -/
theorem undoing {undo : Call σ Unit} {body : EStateM Failure σ α} {E E' : Failure → σ → Prop}
    (hb : Triple body s Q E')
    (hu : ∀ f s', E' f s' → Triple undo s' (fun _ => E f)
      (fun cause => E { f with rollback := f.rollback ++ [cause] })) :
    Triple (Volume.undoing undo body) s Q E := by
  unfold Triple at hb
  unfold Triple Volume.undoing
  split at hb
  · rename_i hx
    simp only [hx]
    exact hb
  · rename_i f s' hx
    have h := hu f s' hb
    unfold Triple at h
    simp only [hx]
    split at h <;> rename_i hy <;> simp only [hy] <;> exact h

/-- `J` holds while the device is open. -/
theorem withHandle {d : BlockDevices σ η} {path : Path} {mode : OpenMode}
    {refused : BackendError → ε} {body : EStateM ε (σ × η) α} {J : σ × η → Prop}
    (ho : Triple (d.openHandle path mode) s (fun h s' => J (s', h)) (fun e => E (refused e)))
    (hb : ∀ t, J t → Triple body t (fun a t => Q a (d.close t)) (fun e t => E e (d.close t))) :
    Triple (d.withHandle path mode refused body) s Q E := by
  unfold Triple at ho
  unfold Triple BlockDevices.withHandle
  split at ho
  · rename_i h s' hx
    have hc := hb _ ho
    unfold Triple at hc
    simp only [hx]
    split at hc <;> rename_i hy <;> simp only [hy] <;> exact hc
  · rename_i hx
    simp only [hx]
    exact ho

/-- A loop over blocks: `Inv` holds at the start of each block, and a block is
as long as the size allows or as what is left. -/
theorem blocks {size : Nat} {positive : 0 < size} {E : ε → τ → Prop}
    {step : (offset length : Nat) → α → EStateM ε τ α} {total : Nat} (Inv : Nat → α → τ → Prop)
    (hstep : ∀ offset a t, offset < total → Inv offset a t →
      Triple (step offset (min size (total - offset)) a) t
        (Inv (offset + min size (total - offset))) E)
    {offset remaining : Nat} {a : α} {t : τ} (hr : offset + remaining = total)
    (hi : Inv offset a t) :
    Triple (Blocks.run size positive step offset remaining a) t (Inv total) E := by
  induction remaining using Nat.strongRecOn generalizing offset a t with
  | ind remaining ih =>
    rw [Blocks.run]
    split
    · rename_i h
      subst h
      exact pure (by simpa [← hr] using hi)
    · rename_i h
      have hlen : total - offset = remaining := by omega
      have hfirst := hstep offset a t (by omega) hi
      rw [hlen] at hfirst
      refine bind hfirst fun a' t' hi' => ih _ ?_ ?_ hi'
      · omega
      · omega

/-- Repeated transfers for one block: `Inv left done` holds before each, with
`left` attempts to go and `done` octets moved. -/
theorem transfer {direction : Direction} {offset length : Nat} {attempts : UInt32}
    {step : (done : Nat) → ByteArray → Call τ (Nat × ByteArray)} {E : Fault → τ → Prop}
    (Inv : (left done : Nat) → ByteArray → τ → Prop)
    (hstep : ∀ left done buffer t, done < length → Inv (left + 1) done buffer t →
      Triple (step done buffer) t
        (fun r t => done + r.1 ≤ length ∧ Inv left (done + r.1) r.2 t)
        (fun cause => E (.internal (.moveZeros direction offset) cause)))
    (hstalled : ∀ done buffer t, done < length → Inv 0 done buffer t →
      E (.zerosStalled direction offset done length attempts) t)
    (huncounted : ∀ left done buffer t, ZeroErase.maxCount < done → done ≤ length →
      Inv left done buffer t → E (.countTooLarge direction offset) t)
    {left done : Nat} {buffer : ByteArray} {t : τ} (hdone : done ≤ length)
    (hi : Inv left done buffer t) :
    Triple (ZeroErase.transfer direction offset length attempts step left done buffer) t
      (fun buffer t => ∃ left, Inv left length buffer t) E := by
  induction left generalizing done buffer t with
  | zero =>
    unfold ZeroErase.transfer
    split
    · exact throw (hstalled _ _ _ ‹_› hi)
    · rw [Nat.le_antisymm hdone (Nat.le_of_not_lt ‹_›)] at hi
      exact pure ⟨0, hi⟩
  | succ left ih =>
    unfold ZeroErase.transfer
    split
    · refine bind (orFault (hstep left done buffer t ‹_› hi)) ?_
      rintro ⟨moved, buffer⟩ t ⟨hmoved, hi⟩
      dsimp only at hmoved hi ⊢
      split
      · exact throw (huncounted _ _ _ _ ‹_› hmoved hi)
      · exact ih hmoved hi
    · rw [Nat.le_antisymm hdone (Nat.le_of_not_lt ‹_›)] at hi
      exact pure ⟨left + 1, hi⟩

end Triple

/-- Started where `I` holds, `x` ends where `I` holds, and fails only for
reasons in `F`. -/
def Keeps (I : σ → Prop) (F : ε → Prop) (x : EStateM ε σ α) : Prop :=
  ∀ s, I s → Triple x s (fun _ => I) (fun e t => I t ∧ F e)

namespace Keeps

variable {I : σ → Prop} {F : ε → Prop} {x : EStateM ε σ α}

theorem pure {a : α} : Keeps I F (Pure.pure a) := fun _ hs => hs

theorem throw {e : ε} (h : F e) : Keeps I F (throw e : EStateM ε σ α) := fun _ hs => ⟨hs, h⟩

theorem bind {f : α → EStateM ε σ β} (h : Keeps I F x) (hf : ∀ a, Keeps I F (f a)) :
    Keeps I F (x >>= f) := fun s hs => Triple.bind (h s hs) fun a _ ht => hf a _ ht

theorem get : Keeps I F (MonadState.get : EStateM ε σ σ) := fun _ hs => hs

theorem ite {c : Prop} [Decidable c] {y : EStateM ε σ α} (hx : Keeps I F x) (hy : Keeps I F y) :
    Keeps I F (if c then x else y) := by
  split
  · exact hx
  · exact hy

theorem adaptExcept {f : ε → ε'} (h : Keeps I (fun _ => True) x) :
    Keeps I (fun _ => True) (x.adaptExcept f) := fun s hs =>
  Triple.adaptExcept (Triple.mono (h s hs) (fun _ _ ht => ht) fun _ _ ht => ht)

theorem orFault {F : Fault → Prop} {call : Call σ α} {fault : BackendError → Fault}
    (h : Keeps I (fun _ => True) call) (hf : ∀ cause, F (fault cause)) :
    Keeps I F (call.orFault fault) := fun s hs =>
  Triple.orFault (Triple.mono (h s hs) (fun _ _ ht => ht) fun cause _ ht => ⟨ht.1, hf cause⟩)

theorem step {F : Failure → Prop} {call : Call σ α} {fault : BackendError → Fault}
    (h : Keeps I (fun _ => True) call) (hf : ∀ cause, F ⟨fault cause, []⟩) :
    Keeps I F (Volume.step call fault) := fun s hs =>
  Triple.step (Triple.mono (h s hs) (fun _ _ ht => ht) fun cause _ ht => ⟨ht.1, hf cause⟩)

theorem ofExcept {r : Except ε α} (h : ∀ e, r = .error e → F e) :
    Keeps I F (MonadExcept.ofExcept r : EStateM ε σ α) := fun _ hs =>
  Triple.ofExcept (fun _ _ => hs) fun e he => ⟨hs, h e he⟩

theorem undoing {F : Failure → Prop} {undo : Call σ Unit} {body : EStateM Failure σ α}
    (hu : Keeps I (fun _ => True) undo) (hb : Keeps I (fun _ => True) body) (hF : ∀ f, F f) :
    Keeps I F (Volume.undoing undo body) := fun s hs =>
  Triple.undoing (hb s hs) fun f t ht =>
    Triple.mono (hu t ht.1) (fun _ _ h => ⟨h, hF f⟩) fun _ _ h => ⟨h.1, hF _⟩

theorem blocks {size : Nat} {positive : 0 < size} {I : τ → Prop}
    {step : (offset length : Nat) → α → EStateM ε τ α}
    (h : ∀ offset length a, Keeps I F (step offset length a)) {offset remaining : Nat} {a : α} :
    Keeps I F (Blocks.run size positive step offset remaining a) := fun _ ht =>
  Triple.mono (Triple.blocks (fun _ _ => I) (fun offset a _ _ hi => h offset _ a _ hi) rfl ht)
    (fun _ _ h => h) fun _ _ h => h

end Keeps

end EmmcVault
