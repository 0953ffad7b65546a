import EmmcVault.Proofs.HonestTool
import EmmcVault.Volume

/-!
# Destroying the keys of a header

Over a tool that does what it is asked, a crypto erase removes every active
keyslot once, in ascending order, and no other. After it there is none left to
remove.
-/

namespace EmmcVault.CryptoErase

open Text Linux Linux.Cryptsetup

variable {σ η : Type} {v : LuksVersion} {h : Host σ η} {program : String} {volume : Volume}
  {Shows : KeyslotSet v → σ → Prop} {S : KeyslotSet v} {removals : List ToolRun}

/-- From a slot below which none is active, the active ones are removed in
turn. -/
theorem destroyFrom_triple (honest : Honest h program volume.identity.device Shows)
    (hd : volume.identity.device.text?.isSome = true) {left : Nat} {slot : UInt32}
    {destroyed : UInt64} {s : Session (Logged σ)} (hs : Holds Shows S removals s.world)
    (hleft : slot.toNat + left = v.maxKeyslots.toNat) (hmin : ∀ n ∈ S.slots, slot ≤ n) :
    Triple (destroyFrom (volume.eraseTarget (h.logged.backendsUsing program)) left slot destroyed) s
      (fun total s' => total = destroyed + UInt64.ofNat S.slots.length ∧
        Holds Shows .empty
          (removals ++ S.slots.map (killRun program volume.identity.device)) s'.world)
      (fun _ _ => False) := by
  -- on the slots still to be asked about: below `slot` none is active any more
  induction left generalizing slot destroyed S removals s with
  | zero =>
    have hnone : S.slots = [] := by
      refine List.eq_nil_iff_forall_not_mem.mpr fun n hn => ?_
      have hlt := S.below n hn
      have hle := hmin n hn
      rw [UInt32.lt_iff_toNat_lt] at hlt
      rw [UInt32.le_iff_toNat_le] at hle
      omega
    refine Triple.pure ⟨by simp [hnone], ?_⟩
    rw [hnone, ← KeyslotSet.eq_empty hnone]
    simpa using hs
  | succ left ih =>
    have hslot : slot < v.maxKeyslots := by
      rw [UInt32.lt_iff_toNat_lt]
      omega
    have hnext : (slot + 1).toNat + left = v.maxKeyslots.toNat := by
      have hle := v.maxKeyslots_le
      rw [UInt32.toNat_add]
      simp only [UInt32.toNat_one]
      omega
    refine Triple.bind (Triple.orFault (keyslotStatus_triple honest hd hs)) ?_
    rintro _ s' ⟨rfl, hs'⟩
    split
    · rename_i hmaterial
      have hm := (KeyslotSet.status_holdsKeyMaterial hslot).mp hmaterial
      have hfirst := KeyslotSet.eq_cons_erase hm hmin
      refine Triple.bind (Triple.orFault (destroyKeyslot_triple honest hd hs' hm))
        fun _ s'' hs'' => ?_
      refine Triple.mono (ih hs'' hnext fun n hn => KeyslotSet.succ_le_of_lt
        (KeyslotSet.lt_of_mem_erase hm hmin hn)) ?_ fun _ _ h => h
      rintro _ s₃ ⟨rfl, hs₃⟩
      have hlength : S.slots.length = (S.erase slot).slots.length + 1 := congrArg List.length hfirst
      have hremoved : removals ++ S.slots.map (killRun program volume.identity.device) =
          removals ++ [killRun program volume.identity.device slot] ++
            (S.erase slot).slots.map (killRun program volume.identity.device) := by
        rw [List.append_assoc]
        exact congrArg (removals ++ ·) (congrArg (List.map _) hfirst)
      rw [hlength, hremoved, UInt64.ofNat_add, UInt64.add_assoc, UInt64.add_comm 1]
      exact ⟨rfl, hs₃⟩
    · rename_i hmaterial
      have hm : slot ∉ S.slots := fun hm =>
        hmaterial ((KeyslotSet.status_holdsKeyMaterial hslot).mpr hm)
      refine ih hs' hnext fun n hn => ?_
      refine KeyslotSet.succ_le_of_lt (UInt32.lt_of_le_of_ne (hmin n hn) ?_)
      rintro rfl
      exact hm hn

theorem run_triple (honest : Honest h program volume.identity.device Shows)
    (hd : volume.identity.device.text?.isSome = true) {s : Session (Logged σ)}
    (hs : Holds Shows S removals s.world) :
    Triple (run (volume.eraseTarget (h.logged.backendsUsing program))) s
      (fun report s' => report = ⟨.cryptoErase, UInt64.ofNat S.slots.length⟩ ∧
        Holds Shows .empty
          (removals ++ S.slots.map (killRun program volume.identity.device)) s'.world)
      (fun _ _ => False) := by
  refine Triple.bind (Triple.orFault (load_triple honest hd hs)) ?_
  intro version s₁ hloaded
  obtain ⟨hversion, hs₁⟩ := hloaded
  subst hversion
  refine Triple.bind (R := fun slots s' => slots = version.maxKeyslots ∧ s' = s₁)
    (Triple.orFault (Triple.pure ⟨rfl, rfl⟩)) ?_
  rintro _ _ ⟨rfl, rfl⟩
  refine Triple.bind (destroyFrom_triple honest hd hs₁ (by simp) fun n _ =>
    UInt32.le_iff_toNat_le.mpr (Nat.zero_le _)) ?_
  rintro _ s₂ ⟨rfl, hs₂⟩
  exact Triple.pure ⟨by rw [UInt64.zero_add], hs₂⟩

/-- A crypto erase of a device whose header has the active slots `S` removes
each of them once, in ascending order, and no other slot; a second one removes
none. -/
theorem run_destroys_all (honest : Honest h program volume.identity.device Shows)
    (hd : volume.identity.device.text?.isSome = true) (S : KeyslotSet v) (s : Session (Logged σ))
    (hs : Shows S s.world.world) :
    ∃ report s' s'',
      run (volume.eraseTarget (h.logged.backendsUsing program)) s = .ok report s' ∧
      report.method = .cryptoErase ∧ report.amount.toNat = S.slots.length ∧
      s'.world.runs.filter removes = s.world.runs.filter removes ++
        S.slots.map (killRun program volume.identity.device) ∧
      Shows .empty s'.world.world ∧
      run (volume.eraseTarget (h.logged.backendsUsing program)) s' = .ok ⟨.cryptoErase, 0⟩ s'' ∧
      s''.world.runs.filter removes = s'.world.runs.filter removes := by
  have hholds : Holds Shows S (s.world.runs.filter removes) s.world := ⟨hs, rfl⟩
  obtain ⟨report, s', hrun, rfl, hs'⟩ | ⟨_, _, _, hfalse⟩ :=
    (run_triple honest hd hholds).cases
  · obtain ⟨again, s'', hrun', rfl, hs''⟩ | ⟨_, _, _, hfalse⟩ :=
      (run_triple honest hd ⟨hs'.1, rfl⟩).cases
    · refine ⟨_, s', s'', hrun, rfl, ?_, hs'.2, hs'.1, hrun', ?_⟩
      · have hle := S.length_le
        have hmax := v.maxKeyslots_le
        exact UInt64.toNat_ofNat_of_lt' (by simp only [UInt64.size]; omega)
      · exact hs''.2.trans (List.append_nil _)
    · exact hfalse.elim
  · exact hfalse.elim

/-- Two keys, in the first slot and in the fourth. -/
theorem run_destroys_all_twoKeys :
    let volume : Volume :=
      .attach ⟨.ofString "/dev/mmcblk0p5", "data", .ofString "/mnt/data"⟩ ⟨0, 1024⟩ {}
    let device := volume.identity.device
    let h := Host.ofTools (fun _ _ => true) headerTool
    let target := volume.eraseTarget (h.logged.backendsUsing tool)
    Honest h tool device HasSlots ∧ device.text?.isSome = true ∧ HasSlots twoKeys ⟨[0, 3], none⟩ ∧
      ∃ report s' s'', run target ⟨⟨⟨[0, 3], none⟩, []⟩, fun _ => none⟩ = .ok report s' ∧
        report.method = .cryptoErase ∧ report.amount.toNat = 2 ∧
        s'.world.runs.filter removes = [killRun tool device 0, killRun tool device 3] ∧
        HasSlots .empty s'.world.world ∧ run target s' = .ok ⟨.cryptoErase, 0⟩ s'' ∧
        s''.world.runs.filter removes = s'.world.runs.filter removes := by
  intro volume device h target
  have hd : device.text?.isSome = true := by decide
  have hs : HasSlots twoKeys ⟨[0, 3], none⟩ := rfl
  exact ⟨headerTool_honest device, hd, hs,
    run_destroys_all (headerTool_honest device) hd twoKeys
      ⟨⟨⟨[0, 3], none⟩, []⟩, fun _ => none⟩ hs⟩

end EmmcVault.CryptoErase
