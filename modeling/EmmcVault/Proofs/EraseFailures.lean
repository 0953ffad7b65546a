import EmmcVault.Proofs.Explained

/-!
# Failures of an erase

Every failure of an erase has the kind that its first failing call fixes,
whatever the call failed with; the one thing read from a cause is whether a
device that could not be opened is missing. Where no call failed, the erase
objects to a size, to data read back or to a register.
-/

namespace EmmcVault

open Watched

variable {σ η α : Type}

namespace EraseRequest

/-- The kind of the failures of an erase that a failing call causes. -/
def blames : EraseRequest → BackendCall → BackendError → ErrorKind
  | _, .openHandle .., cause => if cause.isNotFound then .resourceNotFound else .internalFailure
  | .cryptoErase, .load _, _ => .resourceNotFound
  | .pattern .., .request .size, _ => .internalFailure
  | .pattern .., .request _, _ => .eraseError
  | _, _, _ => .internalFailure

/-- The kinds of the objections of an erase to sizes, data and registers. -/
inductive Objects : EraseRequest → ErrorKind → Prop
  | tooSmall : Objects .verifyGeometry .geometryTooSmall
  | tooLarge : Objects .verifyGeometry .geometryTooLarge
  | pattern {pass bytes} : Objects (.pattern pass bytes) .eraseError
  | zero {pass bytes} : Objects (.zero pass bytes) .internalFailure
  | sanitize {bytes register} : Objects (.sanitize bytes register) .internalFailure

def Blames (request : EraseRequest) (call : BackendCall) (cause : BackendError) (f : Fault) :
    Prop :=
  f.kind = request.blames call cause

def Objected (request : EraseRequest) (f : Fault) : Prop :=
  request.Objects f.kind ∨ f.exceedsMachine = true

end EraseRequest

section
variable {b : Backends σ η} {v : Volume} {request : EraseRequest} {pass : ErasePass}
  {bytes : Option UInt64}

theorem BlockDevices.readExtCsd_explains {K : BackendCall → BackendError → BackendError → Prop}
    {C : BackendError → Prop} (hk : ∀ data cause,
      K (.request (.command .sendExtCsd data)) cause cause) (hc : ∀ cause, C cause) :
    Explains onHandle K C b.watched.devices.readExtCsd b.devices.readExtCsd := by
  refine Explains.bind (Explains.watchOpen (hk _)) fun data => ?_
  split
  · exact Explains.pure
  · exact Explains.throw (hc _)

theorem EraseTarget.withDevice_explains {mode : OpenMode}
    {body' : EStateM Fault (Watched σ × η) α} {body : EStateM Fault (σ × η) α}
    (hb : Explains onHandle request.Blames request.Objected body' body) :
    Explains Watched.mk request.Blames request.Objected
      ((v.eraseTarget b.watched).withDevice mode body') ((v.eraseTarget b).withDevice mode body) :=
  Explains.withHandle (fun cause => by
    cases request <;> simp only [EraseRequest.Blames, EraseRequest.blames] <;> rfl) hb

theorem EraseTarget.length_explains :
    Explains onHandle request.Blames request.Objected ((v.eraseTarget b.watched).length bytes)
      ((v.eraseTarget b).length bytes) := by
  cases bytes with
  | some n => exact Explains.pure
  | none =>
    refine Explains.orFault (Explains.watchOpen fun _ => ?_)
    cases request <;> rfl

theorem EraseTarget.requireBlock_explains {size : Nat} :
    Explains (τ := σ × η) onHandle request.Blames request.Objected
      (EraseTarget.requireBlock size) (EraseTarget.requireBlock size) := by
  unfold EraseTarget.requireBlock
  split
  · exact Explains.pure
  · exact Explains.throw (.inr rfl)

theorem PatternErase.writeBlock_explains {offset length : Nat} {stream : PatternStream} :
    Explains onHandle (EraseRequest.Blames (.pattern pass bytes))
      (EraseRequest.Objected (.pattern pass bytes))
      (PatternErase.writeBlock (v.eraseTarget b.watched) offset length stream)
      (PatternErase.writeBlock (v.eraseTarget b) offset length stream) := by
  refine Explains.bind (Explains.orFault (Explains.watchOpen fun _ => rfl)) fun written => ?_
  split
  · exact Explains.pure
  · exact Explains.throw (.inl .pattern)

theorem PatternErase.checkBlock_explains {offset length : Nat} {stream : PatternStream} :
    Explains onHandle (EraseRequest.Blames (.pattern pass bytes))
      (EraseRequest.Objected (.pattern pass bytes))
      (PatternErase.checkBlock (v.eraseTarget b.watched) offset length stream)
      (PatternErase.checkBlock (v.eraseTarget b) offset length stream) := by
  refine Explains.bind (Explains.orFault (Explains.watchOpen fun _ => rfl)) fun actual => ?_
  split
  · split
    · exact Explains.throw (.inl .pattern)
    · exact Explains.pure
  · exact Explains.throw (.inl .pattern)

theorem PatternErase.run_explains {size : Nat} {positive : 0 < size} :
    Explains Watched.mk (EraseRequest.Blames (.pattern pass bytes))
      (EraseRequest.Objected (.pattern pass bytes))
      (PatternErase.run (v.eraseTarget b.watched) size positive pass bytes)
      (PatternErase.run (v.eraseTarget b) size positive pass bytes) := by
  refine EraseTarget.withDevice_explains ?_
  refine Explains.bind EraseTarget.length_explains fun total => ?_
  refine Explains.bind EraseTarget.requireBlock_explains fun _ => ?_
  cases pass with
  | overwrite =>
    refine Explains.bind (Explains.blocks fun _ _ _ => PatternErase.writeBlock_explains)
      fun _ => ?_
    exact Explains.bind (Explains.orFault (Explains.watchOpen fun _ => rfl)) fun _ => Explains.pure
  | verify =>
    refine Explains.bind (Explains.blocks fun _ _ _ => PatternErase.checkBlock_explains)
      fun _ => ?_
    exact Explains.bind Explains.pure fun _ => Explains.pure

theorem ZeroErase.transfer_explains {direction : Direction} {offset length : Nat}
    {attempts : UInt32} {step' : Nat → ByteArray → Call (Watched σ × η) (Nat × ByteArray)}
    {step : Nat → ByteArray → Call (σ × η) (Nat × ByteArray)}
    (h : ∀ done buffer, Explains onHandle
      (fun call cause e => (EraseRequest.zero pass bytes).Blames call cause
        (.internal (.moveZeros direction offset) e)) (fun _ => False)
      (step' done buffer) (step done buffer)) {left done : Nat} {buffer : ByteArray} :
    Explains onHandle (EraseRequest.Blames (.zero pass bytes))
      (EraseRequest.Objected (.zero pass bytes))
      (ZeroErase.transfer direction offset length attempts step' left done buffer)
      (ZeroErase.transfer direction offset length attempts step left done buffer) := by
  induction left generalizing done buffer with
  | zero =>
    unfold ZeroErase.transfer
    split
    · exact Explains.throw (.inl .zero)
    · exact Explains.pure
  | succ left ih =>
    unfold ZeroErase.transfer
    split
    · refine Explains.bind (Explains.orFault
        ((h _ _).mono (fun _ _ _ h => h) fun _ h => h.elim)) ?_
      rintro ⟨moved, buffer⟩
      dsimp only
      split
      · exact Explains.throw (.inr rfl)
      · exact ih
    · exact Explains.pure

theorem ZeroErase.writeBlock_explains {offset length : Nat} {u : Unit} :
    Explains onHandle (EraseRequest.Blames (.zero pass bytes))
      (EraseRequest.Objected (.zero pass bytes))
      (ZeroErase.writeBlock (v.eraseTarget b.watched) offset length u)
      (ZeroErase.writeBlock (v.eraseTarget b) offset length u) := by
  refine Explains.bind (ZeroErase.transfer_explains fun _ _ => ?_) fun _ => Explains.pure
  exact Explains.bind (Explains.watchOpen fun _ => rfl) fun _ => Explains.pure

theorem ZeroErase.checkBlock_explains {offset length : Nat} {u : Unit} :
    Explains onHandle (EraseRequest.Blames (.zero pass bytes))
      (EraseRequest.Objected (.zero pass bytes))
      (ZeroErase.checkBlock (v.eraseTarget b.watched) offset length u)
      (ZeroErase.checkBlock (v.eraseTarget b) offset length u) := by
  refine Explains.bind (ZeroErase.transfer_explains fun _ _ => ?_) fun block => ?_
  · exact Explains.bind (Explains.watchOpen fun _ => rfl) fun _ => Explains.pure
  · split
    · exact Explains.throw (.inl .zero)
    · exact Explains.pure

theorem ZeroErase.run_explains {size : Nat} {positive : 0 < size} :
    Explains Watched.mk (EraseRequest.Blames (.zero pass bytes))
      (EraseRequest.Objected (.zero pass bytes))
      (ZeroErase.run (v.eraseTarget b.watched) size positive pass bytes)
      (ZeroErase.run (v.eraseTarget b) size positive pass bytes) := by
  refine EraseTarget.withDevice_explains ?_
  refine Explains.bind EraseTarget.length_explains fun total => ?_
  refine Explains.bind EraseTarget.requireBlock_explains fun _ => ?_
  cases pass with
  | overwrite =>
    refine Explains.bind (Explains.blocks fun _ _ _ => ZeroErase.writeBlock_explains) fun _ => ?_
    exact Explains.bind (Explains.orFault (Explains.watchOpen fun _ => rfl)) fun _ => Explains.pure
  | verify =>
    exact Explains.bind (Explains.blocks fun _ _ _ => ZeroErase.checkBlock_explains)
      fun _ => Explains.pure

theorem SanitizeErase.run_explains {given : Option Mmc.ExtCsd} :
    Explains Watched.mk (EraseRequest.Blames (.sanitize bytes given))
      (EraseRequest.Objected (.sanitize bytes given))
      (SanitizeErase.run (v.eraseTarget b.watched) bytes given)
      (SanitizeErase.run (v.eraseTarget b) bytes given) := by
  refine EraseTarget.withDevice_explains ?_
  refine Explains.bind ?_ fun register => ?_
  · cases given with
    | some register => exact Explains.pure
    | none =>
      exact Explains.orFault
        (BlockDevices.readExtCsd_explains (fun _ _ => rfl) fun _ => .inl .sanitize)
  refine Explains.bind EraseTarget.length_explains fun expected => ?_
  dsimp only
  split
  · refine Explains.bind Explains.pure fun plan => ?_
    exact Explains.bind (Explains.orFault (Explains.watchOpen fun _ => rfl)) fun _ => Explains.pure
  · rename_i h
    refine Explains.throw (.inl ?_)
    rw [SanitizePlan.ofRegister_kind h]
    exact .sanitize

theorem CryptoErase.destroyFrom_explains {left : Nat} {slot : UInt32} {destroyed : UInt64} :
    Explains Watched.mk (EraseRequest.Blames .cryptoErase) (EraseRequest.Objected .cryptoErase)
      (CryptoErase.destroyFrom (v.eraseTarget b.watched) left slot destroyed)
      (CryptoErase.destroyFrom (v.eraseTarget b) left slot destroyed) := by
  induction left generalizing slot destroyed with
  | zero => exact Explains.pure
  | succ left ih =>
    refine Explains.bind (Explains.orFault (Explains.watch fun _ => rfl)) fun status => ?_
    split
    · exact Explains.bind (Explains.orFault (Explains.watch fun _ => rfl)) fun _ => ih
    · exact ih

theorem CryptoErase.run_explains :
    Explains Watched.mk (EraseRequest.Blames .cryptoErase) (EraseRequest.Objected .cryptoErase)
      (CryptoErase.run (v.eraseTarget b.watched)) (CryptoErase.run (v.eraseTarget b)) := by
  refine Explains.bind (Explains.orFault (Explains.watch fun _ => rfl)) fun version => ?_
  refine Explains.bind (Explains.orFault (Explains.watch fun _ => rfl)) fun slots => ?_
  exact Explains.bind CryptoErase.destroyFrom_explains fun _ => Explains.pure

theorem VerifyGeometry.run_explains :
    Explains Watched.mk (EraseRequest.Blames .verifyGeometry)
      (EraseRequest.Objected .verifyGeometry)
      (VerifyGeometry.run (v.eraseTarget b.watched)) (VerifyGeometry.run (v.eraseTarget b)) := by
  refine EraseTarget.withDevice_explains ?_
  refine Explains.bind (Explains.orFault (Explains.watchOpen fun _ => rfl)) fun size => ?_
  refine Explains.bind (Explains.ofExcept fun f hf => ?_) fun _ => Explains.pure
  unfold GeometryBounds.require at hf
  split at hf <;> cases hf
  · exact .inl .tooSmall
  · exact .inl .tooLarge

theorem EraseSettings.blockSize_pos {settings : EraseSettings} (h : settings.blockSize ≠ 0) :
    0 < settings.blockSize.toNat :=
  Nat.pos_of_ne_zero fun hz => h (UInt64.toNat_inj.mp hz)

theorem EraseTarget.run_explains (hb : v.settings.erase.blockSize ≠ 0) :
    Explains Watched.mk request.Blames request.Objected
      ((v.eraseTarget b.watched).run request) ((v.eraseTarget b).run request) := by
  have positive := EraseSettings.blockSize_pos hb
  rw [EraseTarget.run_eq positive, EraseTarget.run_eq positive]
  cases request with
  | verifyGeometry => exact VerifyGeometry.run_explains
  | pattern pass bytes => exact PatternErase.run_explains
  | zero pass bytes => exact ZeroErase.run_explains
  | sanitize bytes register => exact SanitizeErase.run_explains
  | cryptoErase => exact CryptoErase.run_explains

end

end EmmcVault
