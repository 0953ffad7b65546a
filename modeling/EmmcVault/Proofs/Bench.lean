import EmmcVault.Memory.Bench
import EmmcVault.Proofs.Footprint

/-!
# Calls on a bench

How a backend call on the bench of a volume is noted and may fail, and how a
call on its device acts on the bench around it.
-/

namespace EmmcVault.Memory.Bench

variable {δ η α : Type} {w : Bench δ}

/-- The bench with one more call in its journal. -/
def noted (w : Bench δ) (kind : CallKind) : Bench δ :=
  { w with journal := w.journal.note kind }

/-- The call of this kind fails with this cause, since a failure is armed. -/
def Fails (w : Bench δ) (kind : CallKind) (cause : BackendError) : Prop :=
  ∃ code, w.journal.armed kind = some code ∧ cause = .status kind.name code

theorem count_note (j : Journal) (kind other : CallKind) :
    (j.note kind).count other = j.count other + if kind = other then 1 else 0 := by
  simp [Journal.note, Journal.count, List.count_append, List.count_singleton, beq_iff_eq]

theorem record_triple {kind : CallKind} :
    Triple (record kind) w (fun _ w' => w' = w.noted kind ∧ w.journal.armed kind = none)
      (fun cause w' => w' = w.noted kind ∧ w.Fails kind cause) := by
  cases h : w.journal.armed kind with
  | none => exact Triple.of_ok (a := ()) (by simp [record, h]; rfl) ⟨rfl, rfl⟩
  | some code => exact Triple.of_error (by simp [record, h]; rfl) ⟨rfl, code, h, rfl⟩

/-- A call that is noted and then goes on as `rest`, if it is not armed. -/
theorem recorded {kind : CallKind} {rest : Call (Bench δ) α} {Q : α → Bench δ → Prop}
    {E : BackendError → Bench δ → Prop} (hok : Triple rest (w.noted kind) Q E)
    (herr : ∀ cause, w.Fails kind cause → E cause (w.noted kind)) :
    Triple (do record kind; rest) w Q E := by
  refine Triple.bind (Triple.mono record_triple (fun _ _ h => h) ?_) ?_
  · rintro cause _ ⟨rfl, h⟩
    exact herr cause h
  · rintro _ _ ⟨rfl, -⟩
    exact hok

-- ---------------------------------------------------------------------------
-- The device
-- ---------------------------------------------------------------------------

variable {d : BlockDevices δ η}

theorem onDevice_triple {call : Call (δ × η) α} {e : η} {Q : α → Bench δ × η → Prop}
    {E : BackendError → Bench δ × η → Prop}
    (h : Triple call (w.device, e) (fun a u => Q a ({ w with device := u.1 }, u.2))
      (fun cause u => E cause ({ w with device := u.1 }, u.2))) :
    Triple (onDevice call) (w, e) Q E := by
  unfold Triple onDevice at *
  cases hx : call (w.device, e) <;> simp only [hx] at h ⊢ <;> exact h

theorem openHandle_triple {path : Path} {mode : OpenMode} {Q : η → Bench δ → Prop}
    {E : BackendError → Bench δ → Prop}
    (h : Triple (d.openHandle path mode) w.device (fun e device => Q e { w with device })
      (fun cause device => E cause { w with device })) :
    Triple ((devices d).openHandle path mode) w Q E := by
  unfold Triple at *
  simp only [devices]
  cases hx : d.openHandle path mode w.device <;> simp only [hx] at h ⊢ <;> exact h

/-- The device request acts on the device alone. -/
theorem respects_device {J : δ × η → Prop} {q : DeviceRequest} (h : q.Respects d J) :
    q.Respects (devices d) fun u => J (u.1.device, u.2) := by
  have lift : ∀ {α : Type} {call : Call (δ × η) α}, Keeps J (fun _ => True) call →
      Keeps (fun u : Bench δ × η => J (u.1.device, u.2)) (fun _ => True) (onDevice call) := by
    rintro α call hc ⟨w, e⟩ hj
    exact onDevice_triple (hc _ hj)
  cases q <;> exact lift h

/-- Requests to the device leave alone what does not look at the device. -/
theorem respects_of_deviceFree {K : Bench δ → Prop} (hK : ∀ w device, K w → K { w with device })
    (q : DeviceRequest) : q.Respects (devices d) fun u => K u.1 := by
  have lift : ∀ {α : Type} (call : Call (δ × η) α),
      Keeps (fun u : Bench δ × η => K u.1) (fun _ => True) (onDevice call) := by
    rintro α call ⟨w, e⟩ hw
    refine onDevice_triple ?_
    unfold Triple
    split
    · exact hK _ _ hw
    · exact ⟨hK _ _ hw, trivial⟩
  cases q <;> exact lift _

theorem brackets_device {path : Path} {mode : OpenMode} {J : δ × η → Prop} {P : δ → Prop}
    (h : d.Brackets path mode w.device J P) :
    (devices d).Brackets path mode w (fun u => J (u.1.device, u.2)) (fun w => P w.device) where
  opening := openHandle_triple h.opening
  closing := fun u hu => h.closing (u.1.device, u.2) hu

theorem brackets_of_deviceFree {K : Bench δ → Prop} (hK : ∀ w device, K w → K { w with device })
    (hw : K w) {path : Path} {mode : OpenMode} :
    (devices d).Brackets path mode w (fun u => K u.1) K where
  opening := by
    refine openHandle_triple ?_
    unfold Triple
    split <;> exact hK _ _ hw
  closing := by
    rintro ⟨w', e⟩ hw'
    exact hK _ _ hw'

-- ---------------------------------------------------------------------------
-- What does not look at the device
-- ---------------------------------------------------------------------------

section
variable {K : Bench δ → Prop} {v : Volume}

theorem erase_deviceFree (hK : ∀ w device, K w → K { w with device }) {request : EraseRequest}
    (hkeys : (crypto (δ := δ)).KeepsErasing v.identity.device K) :
    Keeps K (fun _ => True) (v.erase (backends d) request) := by
  intro w hw
  by_cases hr : v.Refuses request
  · exact Triple.of_error (Volume.erase_refused hr) ⟨hw, trivial⟩
  · refine Triple.mono (Volume.erase_triple (J := fun u => K u.1) hr hw ?_ ?_ ?_)
      (fun _ _ h => h) fun _ _ h => ⟨h.1, trivial⟩
    · intro mode _
      exact brackets_of_deviceFree hK hw
    · intro q _
      exact respects_of_deviceFree hK q
    · intro _
      exact hkeys

theorem enableBkops_deviceFree (hK : ∀ w device, K w → K { w with device }) :
    Keeps K (fun _ => True) (v.enableBkops (backends d)) := by
  intro w hw
  refine Triple.mono (Volume.enableBkops_triple (J := fun u => K u.1)
    (brackets_of_deviceFree hK hw) (fun _ => ?_) ?_) (fun _ _ h => h) fun _ _ h => ⟨h, trivial⟩
  · exact respects_of_deviceFree hK _
  · exact respects_of_deviceFree hK _

theorem refresh_deviceFree (hK : ∀ w device, K w → K { w with device }) :
    Keeps K (fun _ => True) (v.refresh (backends d)) := by
  intro w hw
  refine Triple.mono (Volume.refresh_triple (J := fun u => K u.1)
    (brackets_of_deviceFree hK hw) ?_ fun _ => ?_) (fun _ _ h => h) fun _ _ h => ⟨h, trivial⟩
  · exact respects_of_deviceFree hK _
  · exact respects_of_deviceFree hK _

end

-- ---------------------------------------------------------------------------
-- The other backends
-- ---------------------------------------------------------------------------

section
variable {P : δ → Prop}

/-- A call that is noted and then leaves the device alone. -/
theorem recorded_device {kind : CallKind} {rest : Call (Bench δ) α}
    (h : Keeps (fun w : Bench δ => P w.device) (fun _ => True) rest) :
    Keeps (fun w : Bench δ => P w.device) (fun _ => True) (do record kind; rest) := by
  intro w hw
  exact recorded (h _ hw) fun _ _ => ⟨hw, trivial⟩

theorem crypto_preserves : (crypto (δ := δ)).Preserves fun w => P w.device where
  format _ _ := recorded_device fun _ h => h
  addKeyslot _ _ := recorded_device fun _ h => h
  load _ := recorded_device fun _ h => h
  activate _ _ _ := by
    refine recorded_device fun w hw => ?_
    refine Triple.bind (R := fun (_ w' : Bench δ) => P w'.device) hw fun w₀ w' hw' => ?_
    split
    · exact hw'
    · exact Triple.throw ⟨hw', trivial⟩
  deactivate _ := recorded_device fun _ h => h
  destroyKeyslot _ _ := recorded_device fun _ h => h
  maxKeyslots _ := recorded_device fun _ h => h
  keyslotStatus _ _ := recorded_device fun _ h => h
  changePassphrase _ _ _ := recorded_device fun _ h => h

theorem filesystem_preserves : (filesystem (δ := δ)).Preserves fun w => P w.device where
  makeFilesystem _ _ _ := recorded_device fun _ h => h
  checkFilesystem _ _ _ := recorded_device fun _ h => h
  mount _ _ _ _ := recorded_device fun _ h => h
  unmount _ := recorded_device fun _ h => h
  createDirectory _ := recorded_device fun _ h => h
  removeDirectory _ := recorded_device fun _ h => h
  directoryExists _ _ h := h

end

end EmmcVault.Memory.Bench
