import EmmcVault.Proofs.Watched

/-!
# Failures and the calls behind them

A watched run ends as the run does without a watcher, and each of its failures
is explained: by the first call that failed or, where every call succeeded, by
an objection of the run itself. One rule for each way in which operations are
put together.
-/

namespace EmmcVault

variable {ε ε' σ τ τ' η α β : Type}

namespace Watched

/-- The call that failed and why. -/
def failing? (x : Exchange) : Option (BackendCall × BackendError) :=
  match x.reply with
  | .failed cause => some (x.call, cause)
  | _ => none

def firstFailure? (trace : List Exchange) : Option (BackendCall × BackendError) :=
  trace.findSome? failing?

theorem firstFailure?_append {trace rest : List Exchange} :
    firstFailure? (trace ++ rest) = (firstFailure? trace).or (firstFailure? rest) :=
  List.findSome?_append

/-- The same outcome with a trace put to the state it ends in. -/
def tracked (put : τ → List Exchange → τ') (r : EStateM.Result ε τ α) (trace : List Exchange) :
    EStateM.Result ε τ' α :=
  match r with
  | .ok a t => .ok a (put t trace)
  | .error e t => .error e (put t trace)

/-- An open device over a world with a trace. -/
def onHandle (t : σ × η) (trace : List Exchange) : Watched σ × η := (⟨t.1, trace⟩, t.2)

def failure? : EStateM.Result ε τ α → Option ε
  | .ok .. => none
  | .error e _ => some e

end Watched

open Watched

/-- How a run ended and why: `K` says which failures come of which failing
call, `C` which come of none. -/
inductive Explained (K : BackendCall → BackendError → ε → Prop) (C : ε → Prop)
    (trace : List Exchange) : Option ε → Prop
  | succeeded : firstFailure? trace = none → Explained K C trace none
  | failed {call cause e} : firstFailure? trace = some (call, cause) → K call cause e →
      Explained K C trace (some e)
  | objected {e} : firstFailure? trace = none → C e → Explained K C trace (some e)

namespace Explained

variable {K K' : BackendCall → BackendError → ε → Prop} {C C' : ε → Prop}
  {trace rest : List Exchange} {e? : Option ε}

theorem mono (h : Explained K C trace e?) (hk : ∀ call cause e, K call cause e → K' call cause e)
    (hc : ∀ e, C e → C' e) : Explained K' C' trace e? := by
  cases h with
  | succeeded hn => exact succeeded hn
  | failed hf hK => exact failed hf (hk _ _ _ hK)
  | objected hn hC => exact objected hn (hc _ hC)

/-- Calls that succeeded before explain nothing. -/
theorem prepend (hn : firstFailure? trace = none) (h : Explained K C rest e?) :
    Explained K C (trace ++ rest) e? := by
  have happ : firstFailure? (trace ++ rest) = firstFailure? rest := by
    rw [firstFailure?_append, hn, Option.none_or]
  cases h with
  | succeeded hr => exact succeeded (happ.trans hr)
  | failed hf hK => exact failed (happ.trans hf) hK
  | objected hr hC => exact objected (happ.trans hr) hC

/-- Calls that succeed afterwards change no explanation. -/
theorem append (hn : firstFailure? rest = none) (h : Explained K C trace e?) :
    Explained K C (trace ++ rest) e? := by
  have happ : firstFailure? (trace ++ rest) = firstFailure? trace := by
    rw [firstFailure?_append, hn, Option.or_none]
  cases h with
  | succeeded hr => exact succeeded (happ.trans hr)
  | failed hf hK => exact failed (happ.trans hf) hK
  | objected hr hC => exact objected (happ.trans hr) hC

end Explained

/-- `x` is `y` over a world with a trace, and its trace explains how it ends. -/
def Explains (put : τ → List Exchange → τ') (K : BackendCall → BackendError → ε → Prop)
    (C : ε → Prop) (x : EStateM ε τ' α) (y : EStateM ε τ α) : Prop :=
  ∀ t before, ∃ trace, x (put t before) = tracked put (y t) (before ++ trace) ∧
    Explained K C trace (failure? (y t))

namespace Explains

section
variable {put : τ → List Exchange → τ'} {K K' : BackendCall → BackendError → ε → Prop}
  {C C' : ε → Prop} {x : EStateM ε τ' α} {y : EStateM ε τ α}

theorem mono (h : Explains put K C x y) (hk : ∀ call cause e, K call cause e → K' call cause e)
    (hc : ∀ e, C e → C' e) : Explains put K' C' x y := by
  intro t before
  obtain ⟨trace, hx, he⟩ := h t before
  exact ⟨trace, hx, he.mono hk hc⟩

theorem pure {a : α} : Explains put K C (Pure.pure a) (Pure.pure a) := by
  intro t before
  refine ⟨[], ?_, .succeeded rfl⟩
  rw [List.append_nil]
  rfl

theorem throw {e : ε} (h : C e) :
    Explains put K C (throw e : EStateM ε τ' α) (throw e : EStateM ε τ α) := by
  intro t before
  refine ⟨[], ?_, .objected rfl h⟩
  rw [List.append_nil]
  rfl

theorem ofExcept {r : Except ε α} (h : ∀ e, r = .error e → C e) :
    Explains put K C (MonadExcept.ofExcept r) (MonadExcept.ofExcept r) := by
  cases r with
  | ok a => exact pure
  | error e => exact throw (h e rfl)

theorem bind {f' : α → EStateM ε τ' β} {f : α → EStateM ε τ β} (h : Explains put K C x y)
    (hf : ∀ a, Explains put K C (f' a) (f a)) : Explains put K C (x >>= f') (y >>= f) := by
  intro t before
  obtain ⟨trace, hx, he⟩ := h t before
  show ∃ trace, EStateM.bind x f' _ = tracked put (EStateM.bind y f t) _ ∧
    Explained K C trace (failure? (EStateM.bind y f t))
  unfold EStateM.bind
  cases hy : y t with
  | ok a t' =>
    rw [hy] at hx he
    obtain ⟨rest, hfx, hfe⟩ := hf a t' (before ++ trace)
    cases he with
    | succeeded hn =>
      refine ⟨trace ++ rest, ?_, hfe.prepend hn⟩
      rw [hx, ← List.append_assoc]
      exact hfx
  | error e t' =>
    rw [hy] at hx he
    refine ⟨trace, ?_, he⟩
    rw [hx]
    rfl

theorem adaptExcept {g : ε → ε'} {K : BackendCall → BackendError → ε' → Prop} {C : ε' → Prop}
    (h : Explains put (fun call cause e => K call cause (g e)) (fun e => C (g e)) x y) :
    Explains put K C (x.adaptExcept g) (y.adaptExcept g) := by
  intro t before
  obtain ⟨trace, hx, he⟩ := h t before
  refine ⟨trace, ?_, ?_⟩
  · unfold EStateM.adaptExcept
    rw [hx]
    cases y t <;> rfl
  · unfold EStateM.adaptExcept
    cases hy : y t with
    | ok a t' =>
      rw [hy] at he
      cases he with
      | succeeded hn => exact .succeeded hn
    | error e t' =>
      rw [hy] at he
      cases he with
      | failed hf hK => exact .failed hf hK
      | objected hn hC => exact .objected hn hC

theorem orFault {call' : Call τ' α} {call : Call τ α} {fault : BackendError → Fault}
    {K : BackendCall → BackendError → Fault → Prop} {C : Fault → Prop}
    (h : Explains put (fun c cause e => K c cause (fault e)) (fun e => C (fault e)) call' call) :
    Explains put K C (call'.orFault fault) (call.orFault fault) :=
  adaptExcept h

theorem step {call' : Call τ' α} {call : Call τ α} {fault : BackendError → Fault}
    {K : BackendCall → BackendError → Failure → Prop} {C : Failure → Prop}
    (h : Explains put (fun c cause e => K c cause ⟨fault e, []⟩) (fun e => C ⟨fault e, []⟩)
      call' call) :
    Explains put K C (Volume.step call' fault) (Volume.step call fault) :=
  adaptExcept h

theorem blocks {size : Nat} {positive : 0 < size} {step' : Nat → Nat → α → EStateM ε τ' α}
    {step : Nat → Nat → α → EStateM ε τ α}
    (h : ∀ offset length a, Explains put K C (step' offset length a) (step offset length a))
    {offset remaining : Nat} {a : α} :
    Explains put K C (Blocks.run size positive step' offset remaining a)
      (Blocks.run size positive step offset remaining a) := by
  induction remaining using Nat.strongRecOn generalizing offset a with
  | ind remaining ih =>
    rw [Blocks.run, Blocks.run]
    split
    · exact pure
    · refine bind (h _ _ _) fun a => ih _ ?_
      omega

end

-- ---------------------------------------------------------------------------
-- Calls
-- ---------------------------------------------------------------------------

theorem watch {c : BackendCall} {call : Call σ α} {K : BackendCall → BackendError →
    BackendError → Prop} {C : BackendError → Prop} (h : ∀ cause, K c cause cause) :
    Explains Watched.mk K C (Watched.watch c call) call := by
  intro s before
  cases hs : call s with
  | ok a s' => exact ⟨[⟨c, .done⟩], by simp only [Watched.watch, hs, tracked], .succeeded rfl⟩
  | error cause s' =>
    exact ⟨[⟨c, .failed cause⟩], by simp only [Watched.watch, hs, tracked], .failed rfl (h cause)⟩

theorem watchOpen {q : DeviceRequest} {call : Call (σ × η) α} {K : BackendCall → BackendError →
    BackendError → Prop} {C : BackendError → Prop} (h : ∀ cause, K (.request q) cause cause) :
    Explains onHandle K C (Watched.watchOpen q call) call := by
  intro t before
  cases ht : call t with
  | ok a t' =>
    exact ⟨[⟨.request q, .done⟩], by simp only [Watched.watchOpen, onHandle, ht, tracked],
      .succeeded rfl⟩
  | error cause t' =>
    exact ⟨[⟨.request q, .failed cause⟩],
      by simp only [Watched.watchOpen, onHandle, ht, tracked], .failed rfl (h cause)⟩

section
variable {K : BackendCall → BackendError → ε → Prop} {C : ε → Prop}

/-- A question is never what an operation fails of. -/
theorem query {q : StateM σ Bool} {path : Path} :
    Explains (ε := ε) Watched.mk K C
      (fun w => let (a, w) := ask (.directoryExists path) q w; .ok a w)
      (fun s => let (a, s) := q s; .ok a s) := fun s _ =>
  ⟨[⟨.directoryExists path, .present (q s).1⟩], rfl, .succeeded rfl⟩

theorem withHandle {b : Backends σ η} {path : Path} {mode : OpenMode}
    {refused : BackendError → ε} {body' : EStateM ε (Watched σ × η) α}
    {body : EStateM ε (σ × η) α} (ho : ∀ cause, K (.openHandle path mode) cause (refused cause))
    (hb : Explains onHandle K C body' body) :
    Explains Watched.mk K C (b.watched.devices.withHandle path mode refused body')
      (b.devices.withHandle path mode refused body) := by
  intro s before
  cases hs : b.devices.openHandle path mode s with
  | error cause s' =>
    refine ⟨[⟨.openHandle path mode, .failed cause⟩], ?_, ?_⟩
    · simp only [BlockDevices.withHandle, Backends.watched, Watched.watch, hs, tracked]
    · simp only [BlockDevices.withHandle, hs]
      exact .failed rfl (ho cause)
  | ok handle s' =>
    obtain ⟨trace, hx, he⟩ := hb (s', handle) (before ++ [⟨.openHandle path mode, .done⟩])
    refine ⟨[⟨.openHandle path mode, .done⟩] ++ (trace ++ [⟨.close, .done⟩]), ?_, ?_⟩
    · unfold onHandle at hx
      simp only [BlockDevices.withHandle, Backends.watched, Watched.watch, hs, hx]
      cases body (s', handle) <;> simp [tracked]
    · refine Explained.prepend rfl (Explained.append rfl ?_)
      simp only [BlockDevices.withHandle, hs]
      cases hb : body (s', handle) <;> rw [hb] at he <;> exact he

end

/-- Undo steps come after the call that failed and change no explanation. -/
theorem undoing {K : BackendCall → BackendError → Failure → Prop} {undo : Call σ Unit}
    {c : BackendCall} {x : EStateM Failure (Watched σ) α} {y : EStateM Failure σ α}
    (hk : ∀ call cause f rollback, K call cause f → K call cause { f with rollback })
    (h : Explains Watched.mk K (fun _ => False) x y) :
    Explains Watched.mk K (fun _ => False) (Volume.undoing (Watched.watch c undo) x)
      (Volume.undoing undo y) := by
  intro s before
  obtain ⟨trace, hx, he⟩ := h s before
  cases hy : y s with
  | ok a s' =>
    rw [hy] at hx he
    refine ⟨trace, ?_, ?_⟩
    · simp only [Volume.undoing, hx, hy, tracked]
    · simpa only [Volume.undoing, hy] using he
  | error f s' =>
    rw [hy] at hx he
    cases he with
    | objected _ hfalse => exact hfalse.elim
    | failed hf hK =>
      have blamed : ∀ (rest : List Exchange) rollback,
          Explained K (fun _ => False) (trace ++ rest) (some { f with rollback }) := fun rest _ =>
        .failed (by rw [firstFailure?_append, hf, Option.some_or]) (hk _ _ _ _ hK)
      -- the undo step may fail as well, but it is not the first
      cases hu : undo s' with
      | ok u s'' =>
        refine ⟨trace ++ [⟨c, .done⟩], ?_, ?_⟩
        · simp only [Volume.undoing, hx, hy, tracked, Watched.watch, hu, List.append_assoc]
        · simp only [Volume.undoing, hy, hu]
          exact blamed _ f.rollback
      | error cause s'' =>
        refine ⟨trace ++ [⟨c, .failed cause⟩], ?_, ?_⟩
        · simp only [Volume.undoing, hx, hy, tracked, Watched.watch, hu, List.append_assoc]
        · simp only [Volume.undoing, hy, hu]
          exact blamed _ _

end Explains

end EmmcVault
