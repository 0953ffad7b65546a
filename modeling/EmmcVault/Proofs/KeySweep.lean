import EmmcVault.Memory.Bench
import EmmcVault.Proofs.Bench
import EmmcVault.Proofs.History
import EmmcVault.Proofs.Transcript
import Mathlib.Data.List.Induction

/-!
# The sweep of a key destruction

A crypto erase asks about every keyslot in turn and destroys a slot right after
it was found to hold key material. It stops at the first call that fails. What
the later slots hold may change meanwhile: each is asked about when its turn
comes.
-/

namespace EmmcVault

open Transcribed

variable {σ η δ : Type}

namespace CryptoErase

-- ---------------------------------------------------------------------------
-- Transcripts
-- ---------------------------------------------------------------------------

/-- A slot that was asked about, and destroyed if it held key material. -/
def visit (device : Path) (slot : UInt32) (status : KeySlotStatus) : List Line :=
  ⟨.keyslotStatus device slot, .ok status⟩ ::
    if status.holdsKeyMaterial then [⟨.destroyKeyslot device slot, .ok ()⟩] else []

/-- The slots from the first one on, found in these states. -/
def visits (device : Path) (seen : List KeySlotStatus) : List Line :=
  seen.zipIdx.flatMap fun (status, i) => visit device (UInt32.ofNat i) status

/-- The header was read and its slots were counted. -/
def opening (device : Path) (version : LuksVersion) (slots : UInt32) : List Line :=
  [⟨.load device, .ok version⟩, ⟨.maxKeyslots version, .ok slots⟩]

/-- The transcripts of a key destruction and what it gives. -/
inductive Course (device : Path) : List Line → Except Fault EraseReport → Prop
  | unloaded (cause) :
      Course device [⟨.load device, .error cause⟩] (.error (.notFound .loadHeader cause))
  | uncounted (version cause) :
      Course device [⟨.load device, .ok version⟩, ⟨.maxKeyslots version, .error cause⟩]
        (.error (.internal .queryKeyslotCount cause))
  | unqueried {version} {slots : UInt32} {seen : List KeySlotStatus} (cause)
      (more : seen.length < slots.toNat) :
      Course device (opening device version slots ++ visits device seen ++
          [⟨.keyslotStatus device (UInt32.ofNat seen.length), .error cause⟩])
        (.error (.internal (.queryKeyslot (UInt32.ofNat seen.length)) cause))
  | undestroyed {version} {slots : UInt32} {seen : List KeySlotStatus} {status : KeySlotStatus}
      (cause) (more : seen.length < slots.toNat) (material : status.holdsKeyMaterial = true) :
      Course device (opening device version slots ++ visits device seen ++
          [⟨.keyslotStatus device (UInt32.ofNat seen.length), .ok status⟩,
            ⟨.destroyKeyslot device (UInt32.ofNat seen.length), .error cause⟩])
        (.error (.internal (.destroyKeyslot (UInt32.ofNat seen.length)) cause))
  | swept {version} {slots : UInt32} {seen : List KeySlotStatus}
      (all : seen.length = slots.toNat) :
      Course device (opening device version slots ++ visits device seen)
        (.ok ⟨.cryptoErase, UInt64.ofNat (seen.countP (·.holdsKeyMaterial))⟩)

section
variable {device : Path} {seen : List KeySlotStatus} {status : KeySlotStatus} {b : Backends σ η}
  {v : Volume}

theorem visits_append :
    visits device (seen ++ [status]) =
      visits device seen ++ visit device (UInt32.ofNat seen.length) status := by
  simp [visits, List.zipIdx_append]

theorem visits_append_material (material : status.holdsKeyMaterial = true) :
    visits device (seen ++ [status]) =
      visits device seen ++ [⟨.keyslotStatus device (UInt32.ofNat seen.length), .ok status⟩] ++
        [⟨.destroyKeyslot device (UInt32.ofNat seen.length), .ok ()⟩] := by
  rw [visits_append, visit, if_pos material, List.append_assoc]
  rfl

theorem visits_append_empty (material : ¬ status.holdsKeyMaterial = true) :
    visits device (seen ++ [status]) =
      visits device seen ++ [⟨.keyslotStatus device (UInt32.ofNat seen.length), .ok status⟩] := by
  rw [visits_append, visit, if_neg material]

/-- From any slot on, after the slots before it. -/
theorem destroyFrom_transcribes {version : LuksVersion} {slots : UInt32} {left : Nat}
    (seen : List KeySlotStatus) (hleft : seen.length + left = slots.toNat) :
    Transcribes Transcribed.mk
      (destroyFrom (v.eraseTarget b.transcribed) left (UInt32.ofNat seen.length)
        (UInt64.ofNat (seen.countP (·.holdsKeyMaterial))))
      (destroyFrom (v.eraseTarget b) left (UInt32.ofNat seen.length)
        (UInt64.ofNat (seen.countP (·.holdsKeyMaterial))))
      (opening v.identity.device version slots ++ visits v.identity.device seen)
      (fun total lines => Course v.identity.device lines (.ok ⟨.cryptoErase, total⟩))
      (fun f lines => Course v.identity.device lines (.error f)) := by
  -- `seen` are the states found so far; slot and counter are read off it
  induction left generalizing seen with
  | zero => exact Transcribes.pure (.swept hleft)
  | succ left ih =>
    unfold destroyFrom
    have hnext : ∀ status : KeySlotStatus, UInt32.ofNat seen.length + 1 =
        UInt32.ofNat (seen ++ [status]).length := by
      intro status
      rw [List.length_append, UInt32.ofNat_add]
      rfl
    refine Transcribes.bind (R := fun status lines => lines =
      opening v.identity.device version slots ++ (visits v.identity.device seen ++
        [⟨.keyslotStatus v.identity.device (UInt32.ofNat seen.length), .ok status⟩]))
      (Transcribes.orFault (Transcribes.take (fun _ => List.append_assoc ..) fun cause =>
        .unqueried cause (by omega))) ?_
    rintro status _ rfl
    split
    · rename_i material
      refine Transcribes.bind (R := fun _ lines => lines =
        opening v.identity.device version slots ++ visits v.identity.device (seen ++ [status]))
        (Transcribes.orFault (Transcribes.take (fun _ => ?_) fun cause => ?_)) ?_
      · rw [visits_append_material material, List.append_assoc]
        rfl
      · rw [← List.append_assoc, List.append_assoc _ [_]]
        exact .undestroyed cause (by omega) material
      · rintro _ _ rfl
        have hcount : UInt64.ofNat (seen.countP (·.holdsKeyMaterial)) + 1 =
            UInt64.ofNat ((seen ++ [status]).countP (·.holdsKeyMaterial)) := by
          rw [List.countP_append, List.countP_singleton, if_pos material, UInt64.ofNat_add]
          rfl
        rw [hnext status, hcount]
        exact ih _ (by rw [List.length_append, List.length_singleton]; omega)
    · rename_i material
      have hcount : UInt64.ofNat (seen.countP (·.holdsKeyMaterial)) =
          UInt64.ofNat ((seen ++ [status]).countP (·.holdsKeyMaterial)) := by
        rw [List.countP_append, List.countP_singleton, if_neg material, Nat.add_zero]
      rw [hnext status, hcount, ← visits_append_empty material]
      exact ih _ (by rw [List.length_append, List.length_singleton]; omega)

theorem run_transcribes :
    Transcribes Transcribed.mk (run (v.eraseTarget b.transcribed)) (run (v.eraseTarget b)) []
      (fun report lines => Course v.identity.device lines (.ok report))
      (fun f lines => Course v.identity.device lines (.error f)) := by
  refine Transcribes.bind (R := fun version lines => lines =
    [⟨.load v.identity.device, .ok version⟩])
    (Transcribes.orFault (Transcribes.take (fun _ => rfl) fun cause => .unloaded cause)) ?_
  rintro version _ rfl
  refine Transcribes.bind (R := fun slots lines => lines =
    opening v.identity.device version slots ++ visits v.identity.device [])
    (Transcribes.orFault (Transcribes.take (fun _ => rfl) fun cause => .uncounted version cause)) ?_
  rintro slots _ rfl
  refine Transcribes.bind (destroyFrom_transcribes [] (Nat.zero_add _)) ?_
  intro total lines hlines
  exact Transcribes.pure hlines

end

-- ---------------------------------------------------------------------------
-- What a transcript tells
-- ---------------------------------------------------------------------------

/-- The destruction stopped at a slot: it could not ask about it or could not
destroy it. -/
def StoppedAt (f : Fault) (slot : UInt32) : Prop :=
  ∃ cause, f = .internal (.queryKeyslot slot) cause ∨ f = .internal (.destroyKeyslot slot) cause

section
variable {device : Path} {seen : List KeySlotStatus} {status : KeySlotStatus} {slot : UInt32}
  {lines : List Line} {line : Line} {r : Except Fault EraseReport}

theorem visit_cases (h : line ∈ visit device slot status) :
    line = ⟨.keyslotStatus device slot, .ok status⟩ ∨
      status.holdsKeyMaterial = true ∧ line = ⟨.destroyKeyslot device slot, .ok ()⟩ := by
  rw [visit, List.mem_cons] at h
  split at h
  · exact h.imp_right fun h => ⟨‹_›, List.mem_singleton.mp h⟩
  · exact .inl (h.resolve_right List.not_mem_nil)

theorem mem_visits :
    line ∈ visits device seen ↔
      ∃ i status, seen[i]? = some status ∧ line ∈ visit device (UInt32.ofNat i) status := by
  simp only [visits, List.mem_flatMap, List.mem_zipIdx_iff_getElem?, Prod.exists]
  exact exists_comm

theorem visits_succeeded (h : line ∈ visits device seen) : line.Succeeded := by
  obtain ⟨i, status, -, hvisit⟩ := mem_visits.mp h
  obtain rfl | ⟨-, rfl⟩ := visit_cases hvisit <;> rfl

theorem visits_countP : (visits device seen).countP Line.destroys =
    seen.countP (·.holdsKeyMaterial) := by
  induction seen using List.reverseRecOn with
  | nil => rfl
  | append_singleton seen status ih =>
    rw [visits_append, List.countP_append, List.countP_append, ih, List.countP_singleton, visit]
    split <;> rfl

/-- A slot that was passed was asked about, and destroyed if it had to be. -/
theorem visited (device : Path) (hlt : slot.toNat < seen.length) :
    ∃ status, ⟨.keyslotStatus device slot, .ok status⟩ ∈ visits device seen ∧
      (status.holdsKeyMaterial = true →
        ⟨.destroyKeyslot device slot, .ok ()⟩ ∈ visits device seen) := by
  have hmem : ∀ line ∈ visit device slot seen[slot.toNat], line ∈ visits device seen := by
    intro line hline
    refine mem_visits.mpr ⟨slot.toNat, _, List.getElem?_eq_getElem hlt, ?_⟩
    rw [UInt32.ofNat_toNat]
    exact hline
  refine ⟨seen[slot.toNat], hmem _ List.mem_cons_self, fun material => hmem _ ?_⟩
  rw [visit, if_pos material]
  exact List.mem_cons_of_mem _ List.mem_cons_self

theorem visits_touches (hseen : seen.length < UInt32.size) (h : line ∈ visits device seen)
    (ht : line.Touches slot) : slot ≤ UInt32.ofNat seen.length := by
  obtain ⟨i, status, hi, hvisit⟩ := mem_visits.mp h
  obtain ⟨hlt, -⟩ := List.getElem?_eq_some_iff.mp hi
  have hslot : slot = UInt32.ofNat i := by
    obtain ⟨device, hcall⟩ := ht
    obtain rfl | ⟨-, rfl⟩ := visit_cases hvisit <;> rcases hcall with hcall | hcall <;>
      cases hcall <;> rfl
  rw [hslot, UInt32.le_iff_toNat_le, UInt32.toNat_ofNat_of_lt' (by omega),
    UInt32.toNat_ofNat_of_lt' hseen]
  omega

theorem Course.ok_iff (h : Course device lines r) :
    (∃ report, r = .ok report) ↔ ∀ line ∈ lines, line.Succeeded := by
  have failing : ∀ {call : BackendCall} {cause f}, ⟨call, .error cause⟩ ∈ lines →
      ((∃ report : EraseReport, (.error f : Except Fault EraseReport) = .ok report) ↔
        ∀ line ∈ lines, line.Succeeded) := by
    intro call cause f hmem
    refine ⟨nofun, fun hall => ?_⟩
    cases hall _ hmem
  cases h with
  | unloaded cause => exact failing List.mem_cons_self
  | uncounted version cause => exact failing (List.mem_cons_of_mem _ List.mem_cons_self)
  | unqueried cause more => exact failing (List.mem_append_right _ List.mem_cons_self)
  | undestroyed cause more material =>
    exact failing (List.mem_append_right _ (List.mem_cons_of_mem _ List.mem_cons_self))
  | swept all =>
    refine ⟨fun _ line hline => ?_, fun _ => ⟨_, rfl⟩⟩
    rcases List.mem_append.mp hline with hline | hline
    · rcases List.mem_cons.mp hline with rfl | hline
      · rfl
      · rw [List.mem_singleton.mp hline]
        rfl
    · exact visits_succeeded hline

theorem Course.amount {report : EraseReport} (h : Course device lines (.ok report)) :
    report.method = .cryptoErase ∧ report.amount.toNat = lines.countP Line.destroys := by
  cases h with
  | @swept version slots seen all =>
    have hcount : seen.countP (·.holdsKeyMaterial) ≤ seen.length := List.countP_le_length
    have hslots := slots.toNat_lt
    rw [List.countP_append, visits_countP]
    refine ⟨rfl, (UInt64.toNat_ofNat_of_lt' ?_).trans (Nat.zero_add _).symm⟩
    simp only [UInt64.size]
    omega

/-- Where some slots were passed and what follows touches none after the next,
every slot before that one is dealt with and none after it was touched. -/
theorem passed {version : LuksVersion} {slots : UInt32} {last : List Line}
    (more : seen.length < slots.toNat)
    (hlast : ∀ line ∈ last, ∀ j, line.Touches j → j ≤ UInt32.ofNat seen.length)
    (hlines : lines = opening device version slots ++ visits device seen ++ last) :
    (∀ j < UInt32.ofNat seen.length,
      ∃ status, ⟨.keyslotStatus device j, .ok status⟩ ∈ lines ∧
        (status.holdsKeyMaterial = true → ⟨.destroyKeyslot device j, .ok ()⟩ ∈ lines)) ∧
    ∀ line ∈ lines, ∀ j, line.Touches j → j ≤ UInt32.ofNat seen.length := by
  subst hlines
  have hsize : seen.length < UInt32.size := Nat.lt_trans more slots.toNat_lt
  have hmem : ∀ {line}, line ∈ visits device seen →
      line ∈ opening device version slots ++ visits device seen ++ last := fun h =>
    List.mem_append_left _ (List.mem_append_right _ h)
  constructor
  · intro j hj
    rw [UInt32.lt_iff_toNat_lt, UInt32.toNat_ofNat_of_lt' hsize] at hj
    obtain ⟨status, hquery, hdestroy⟩ := visited device hj
    exact ⟨status, hmem hquery, fun material => hmem (hdestroy material)⟩
  · intro line hline j ht
    rcases List.mem_append.mp hline with hline | hline
    · rcases List.mem_append.mp hline with hline | hline
      · obtain ⟨_, hcall⟩ := ht
        rcases List.mem_cons.mp hline with rfl | hline
        · rcases hcall with hcall | hcall <;> cases hcall
        · rw [List.mem_singleton.mp hline] at hcall
          rcases hcall with hcall | hcall <;> cases hcall
      · exact visits_touches hsize hline ht
    · exact hlast line hline j ht

/-- Where it stops at a slot, the slots before it are dealt with and none after
it was touched. -/
theorem Course.stopped {f : Fault} (h : Course device lines (.error f)) (hf : StoppedAt f slot) :
    (∀ j < slot, ∃ status, ⟨.keyslotStatus device j, .ok status⟩ ∈ lines ∧
      (status.holdsKeyMaterial = true → ⟨.destroyKeyslot device j, .ok ()⟩ ∈ lines)) ∧
    ∀ line ∈ lines, ∀ j, line.Touches j → j ≤ slot := by
  obtain ⟨cause', hf⟩ := hf
  cases h with
  | unloaded cause => rcases hf with hf | hf <;> cases hf
  | uncounted version cause => rcases hf with hf | hf <;> cases hf
  | unqueried cause more =>
    rcases hf with hf | hf <;> cases hf
    refine passed more ?_ rfl
    rintro line hline j ⟨_, hcall⟩
    rw [List.mem_singleton.mp hline] at hcall
    rcases hcall with hcall | hcall <;> cases hcall
    exact UInt32.le_refl _
  | undestroyed cause more material =>
    rcases hf with hf | hf <;> cases hf
    refine passed more ?_ rfl
    rintro line hline j ⟨_, hcall⟩
    rcases List.mem_cons.mp hline with rfl | hline
    · rcases hcall with hcall | hcall <;> cases hcall
      exact UInt32.le_refl _
    · rw [List.mem_singleton.mp hline] at hcall
      rcases hcall with hcall | hcall <;> cases hcall
      exact UInt32.le_refl _

end

-- ---------------------------------------------------------------------------
-- Over a header in memory
-- ---------------------------------------------------------------------------

end CryptoErase

namespace Memory.Header

/-- The header after these slots were destroyed in turn. -/
def withoutSlots (h : Header) (kills : List UInt32) : Header :=
  kills.foldl keyslotDestroyed h

/-- Of the first `k` slots, those with key material, in ascending order. -/
def keysBelow (h : Header) (k : Nat) : List UInt32 :=
  ((List.range k).map UInt32.ofNat).filter fun slot => (h.status slot).holdsKeyMaterial

section
variable {h : Header} {kills : List UInt32} {slot : UInt32} {k : Nat}

theorem withoutSlots_version : (h.withoutSlots kills).version = h.version := by
  induction kills generalizing h with
  | nil => rfl
  | cons kill kills ih => exact ih

theorem withoutSlots_limit {version : LuksVersion} :
    (h.withoutSlots kills).limit version = h.limit version := by
  induction kills generalizing h with
  | nil => rfl
  | cons kill kills ih => exact ih

theorem withoutSlots_destroyed : (h.withoutSlots kills).destroyed = h.destroyed ++ kills := by
  induction kills generalizing h with
  | nil => exact (List.append_nil _).symm
  | cons kill kills ih =>
    refine ih.trans ?_
    rw [keyslotDestroyed, List.append_assoc]
    rfl

theorem withoutSlots_slots :
    (h.withoutSlots kills).slots slot = if slot ∈ kills then some .inactive else h.slots slot := by
  induction kills generalizing h with
  | nil => rfl
  | cons kill kills ih =>
    refine ih.trans ?_
    by_cases hrest : slot ∈ kills
    · simp [hrest]
    · by_cases hkill : slot = kill <;> simp [hrest, hkill, keyslotDestroyed, setSlot]

theorem withoutSlots_status :
    (h.withoutSlots kills).status slot =
      if slot ∈ kills ∧ slot < h.limit h.version then .inactive else h.status slot := by
  rw [status, withoutSlots_version, withoutSlots_limit, withoutSlots_slots, status]
  by_cases hbelow : slot < h.limit h.version
  · rw [if_neg (UInt32.not_le.mpr hbelow), if_neg (UInt32.not_le.mpr hbelow)]
    by_cases hkill : slot ∈ kills <;> simp [hkill, hbelow]
  · rw [if_pos (UInt32.not_lt.mp hbelow), if_pos (UInt32.not_lt.mp hbelow),
      if_neg fun h => hbelow h.2]

theorem mem_keysBelow (hk : k ≤ UInt32.size) :
    slot ∈ h.keysBelow k ↔ slot.toNat < k ∧ (h.status slot).holdsKeyMaterial = true := by
  rw [keysBelow, List.mem_filter, List.mem_map]
  refine and_congr_left fun _ => ⟨?_, fun hlt => ⟨slot.toNat, List.mem_range.mpr hlt, ?_⟩⟩
  · rintro ⟨i, hi, rfl⟩
    rw [List.mem_range] at hi
    rw [UInt32.toNat_ofNat_of_lt' (by omega)]
    exact hi
  · exact UInt32.ofNat_toNat

theorem keysBelow_sorted (hk : k ≤ UInt32.size) : (h.keysBelow k).Pairwise (· < ·) := by
  refine List.Pairwise.filter _ (List.pairwise_map.mpr ?_)
  refine List.Pairwise.imp_of_mem ?_ List.pairwise_lt_range
  intro i j hi hj hlt
  rw [List.mem_range] at hi hj
  rw [UInt32.lt_iff_toNat_lt, UInt32.toNat_ofNat_of_lt' (by omega),
    UInt32.toNat_ofNat_of_lt' (by omega)]
  exact hlt

theorem keysBelow_succ :
    h.keysBelow (k + 1) = h.keysBelow k ++
      if (h.status (UInt32.ofNat k)).holdsKeyMaterial then [UInt32.ofNat k] else [] := by
  rw [keysBelow, List.range_succ, List.map_append, List.filter_append, List.map_singleton,
    List.filter_cons, List.filter_nil]
  rfl

/-- A slot is as it was until its turn comes. -/
theorem status_of_keysBelow (hk : k < UInt32.size) :
    (h.withoutSlots (h.keysBelow k)).status (UInt32.ofNat k) = h.status (UInt32.ofNat k) := by
  rw [withoutSlots_status, if_neg]
  rintro ⟨hmem, -⟩
  rw [mem_keysBelow (Nat.le_of_lt hk), UInt32.toNat_ofNat_of_lt' hk] at hmem
  exact Nat.lt_irrefl k hmem.1

end

end Memory.Header

namespace CryptoErase

open Memory Header

section
variable {d : BlockDevices δ η} {v : Volume} {w : Bench δ} {h : Header}

/-- From slot `k` on, after the keys below it were destroyed. -/
theorem destroyFrom_bench {left k : Nat} (hw : w.header = h.withoutSlots (h.keysBelow k))
    (hleft : k + left = (h.limit h.version).toNat) :
    Triple (destroyFrom (v.eraseTarget (Bench.backends d)) left (UInt32.ofNat k)
        (UInt64.ofNat (h.keysBelow k).length)) w
      (fun total w' => total = UInt64.ofNat (h.keysBelow (h.limit h.version).toNat).length ∧
        w'.header = h.withoutSlots (h.keysBelow (h.limit h.version).toNat))
      (fun _ _ => True) := by
  -- what is destroyed below `k` does not change the states from `k` on
  induction left generalizing k w with
  | zero =>
    obtain rfl : k = (h.limit h.version).toNat := hleft
    exact Triple.pure ⟨rfl, hw⟩
  | succ left ih =>
    have hsize := (h.limit h.version).toNat_lt
    have hk : k < UInt32.size := Nat.lt_trans (by omega) hsize
    have hnext : UInt32.ofNat k + 1 = UInt32.ofNat (k + 1) := by
      rw [UInt32.ofNat_add]
      rfl
    unfold destroyFrom
    refine Triple.bind (R := fun status w' => status = h.status (UInt32.ofNat k) ∧
      w'.header = h.withoutSlots (h.keysBelow k)) (Triple.orFault (Bench.recorded ?_
        fun _ _ => trivial)) ?_
    · refine ⟨?_, hw⟩
      show w.header.status _ = _
      rw [hw]
      exact status_of_keysBelow hk
    rintro _ w' ⟨rfl, hw'⟩
    split
    · rename_i material
      refine Triple.bind (R := fun _ w' => w'.header = h.withoutSlots (h.keysBelow (k + 1)))
        (Triple.orFault (Bench.recorded ?_ fun _ _ => trivial)) ?_
      · show w'.header.keyslotDestroyed _ = _
        rw [hw', keysBelow_succ, if_pos material, withoutSlots, withoutSlots, List.foldl_append]
        rfl
      · intro _ w'' hw''
        have hcount : UInt64.ofNat (h.keysBelow k).length + 1 =
            UInt64.ofNat (h.keysBelow (k + 1)).length := by
          rw [keysBelow_succ, if_pos material, List.length_append, UInt64.ofNat_add]
          rfl
        rw [hnext, hcount]
        exact ih hw'' (by omega)
    · rename_i material
      have hsame : h.keysBelow (k + 1) = h.keysBelow k := by
        rw [keysBelow_succ, if_neg material, List.append_nil]
      rw [hnext, ← hsame]
      exact ih (hsame ▸ hw') (by omega)

theorem run_bench :
    Triple (run (v.eraseTarget (Bench.backends d))) w
      (fun report w' => report = ⟨.cryptoErase, UInt64.ofNat (w.header.keysBelow
          (w.header.limit w.header.version).toNat).length⟩ ∧
        w'.header = w.header.withoutSlots (w.header.keysBelow
          (w.header.limit w.header.version).toNat))
      (fun _ _ => True) := by
  refine Triple.bind (R := fun version w' => version = w.header.version ∧ w'.header = w.header)
    (Triple.orFault (Bench.recorded ⟨rfl, rfl⟩ fun _ _ => trivial)) ?_
  rintro _ w₁ ⟨rfl, hw₁⟩
  refine Triple.bind (R := fun slots w' => slots = w.header.limit w.header.version ∧
    w'.header = w.header) (Triple.orFault (Bench.recorded ⟨?_, hw₁⟩ fun _ _ => trivial)) ?_
  · show w₁.header.limit _ = _
    rw [hw₁]
  rintro _ w₂ ⟨rfl, hw₂⟩
  refine Triple.bind (destroyFrom_bench (k := 0) hw₂ (Nat.zero_add _)) ?_
  rintro _ w₃ ⟨rfl, hw₃⟩
  exact Triple.pure ⟨rfl, hw₃⟩

end

/-- Whatever the header answers, a key destruction asks about its slots in turn
and destroys each one right after it was found to hold key material, up to the
first call that fails. It succeeds exactly if no call fails and tells how many
slots it destroyed. A header in memory has no key left then, and every slot that
held none is as it was. -/
theorem sweeps_slots (v : Volume) :
    (∀ {σ η : Type} (b : Backends σ η) (s : σ),
      ∃ lines, run (v.eraseTarget b.transcribed) ⟨s, []⟩ =
          ending Transcribed.mk (run (v.eraseTarget b) s) lines ∧
        Course v.identity.device lines (outcome (run (v.eraseTarget b) s)) ∧
        ((∃ report, outcome (run (v.eraseTarget b) s) = .ok report) ↔
          ∀ line ∈ lines, line.Succeeded) ∧
        (∀ report, outcome (run (v.eraseTarget b) s) = .ok report →
          report.method = .cryptoErase ∧ report.amount.toNat = lines.countP Line.destroys) ∧
        ∀ f slot, outcome (run (v.eraseTarget b) s) = .error f → StoppedAt f slot →
          (∀ j < slot, ∃ status, ⟨.keyslotStatus v.identity.device j, .ok status⟩ ∈ lines ∧
            (status.holdsKeyMaterial = true →
              ⟨.destroyKeyslot v.identity.device j, .ok ()⟩ ∈ lines)) ∧
          ∀ line ∈ lines, ∀ j, line.Touches j → j ≤ slot) ∧
    ∀ {δ η : Type} (d : BlockDevices δ η) (w : Bench δ) report w',
      run (v.eraseTarget (Bench.backends d)) w = .ok report w' →
      ∃ kills : List UInt32, kills.Pairwise (· < ·) ∧
        (∀ slot, slot ∈ kills ↔ slot < w.header.limit w.header.version ∧
          (w.header.status slot).holdsKeyMaterial = true) ∧
        w'.header.destroyed = w.header.destroyed ++ kills ∧
        report.amount.toNat = kills.length ∧
        (∀ slot < w.header.limit w.header.version,
          (w'.header.status slot).holdsKeyMaterial = false) ∧
        ∀ slot, slot ∉ kills → w'.header.slots slot = w.header.slots slot := by
  constructor
  · intro σ η b s
    obtain ⟨lines, hrun, hcourse⟩ := Transcribes.runs (run_transcribes (b := b) (v := v)) s
    refine ⟨lines, hrun, hcourse, hcourse.ok_iff, fun report hreport => ?_, fun f slot hf => ?_⟩
    · rw [hreport] at hcourse
      exact hcourse.amount
    · rw [hf] at hcourse
      exact hcourse.stopped
  · intro δ η d w report w' hrun
    obtain ⟨rfl, hw'⟩ := (run_bench (d := d) (v := v)).ok hrun
    have hsize := (w.header.limit w.header.version).toNat_lt
    have hkeys : ∀ slot, slot ∈ w.header.keysBelow (w.header.limit w.header.version).toNat ↔
        slot < w.header.limit w.header.version ∧
          (w.header.status slot).holdsKeyMaterial = true := fun slot => by
      rw [mem_keysBelow (Nat.le_of_lt hsize), UInt32.lt_iff_toNat_lt]
    refine ⟨_, keysBelow_sorted (Nat.le_of_lt hsize), hkeys, ?_, ?_, fun slot hlt => ?_,
      fun slot hslot => ?_⟩
    · rw [hw', withoutSlots_destroyed]
    · have hcount := List.length_filter_le (fun slot => (w.header.status slot).holdsKeyMaterial)
        ((List.range (w.header.limit w.header.version).toNat).map UInt32.ofNat)
      rw [List.length_map, List.length_range] at hcount
      refine UInt64.toNat_ofNat_of_lt' ?_
      simp only [UInt64.size, keysBelow]
      omega
    · rw [hw', withoutSlots_status]
      by_cases hmaterial : (w.header.status slot).holdsKeyMaterial = true
      · rw [if_pos ⟨(hkeys slot).mpr ⟨hlt, hmaterial⟩, hlt⟩]
        rfl
      · rw [if_neg fun h => hmaterial ((hkeys slot).mp h.1).2]
        exact Bool.eq_false_iff.mpr hmaterial
    · rw [hw', withoutSlots_slots, if_neg hslot]

/-- Three of five slots hold key material; the last of them is beyond the limit. -/
def fiveSlots : Bench Disk :=
  { sample.world with
    header := ({} : Header).withKeyslots 4 [.active, .inactive, .active, .invalid, .activeLast] }

theorem sweeps_slots_fiveSlots :
    ∃ report w', run (sample.volume.eraseTarget Bench.onDisk) fiveSlots = .ok report w' ∧
      report.amount = 2 ∧ w'.header.destroyed = [0, 2] ∧ (w'.header.status 2) = .inactive ∧
      ∃ lines, run (sample.volume.eraseTarget Bench.onDisk.transcribed) ⟨fiveSlots, []⟩ =
          ending Transcribed.mk (run (sample.volume.eraseTarget Bench.onDisk) fiveSlots) lines ∧
        Course sample.volume.identity.device lines (.ok report) := by
  obtain ⟨lines, hrun, hcourse, -⟩ := (sweeps_slots sample.volume).1 Bench.onDisk fiveSlots
  exact ⟨_, _, rfl, rfl, rfl, rfl, lines, hrun, hcourse⟩

end CryptoErase

end EmmcVault
