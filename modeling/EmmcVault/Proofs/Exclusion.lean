import EmmcVault.Proofs.SandboxLocks
import EmmcVault.Service.Claim

/-!
# One operation on a volume at a time

Processes are kept apart by the lock on the volume's file and the threads of one
process by the claim on its manager. Neither is ever given out twice, neither is
refused without need, and neither is lost with a holder that dies.
-/

namespace EmmcVault.Service

open Linux

-- ---------------------------------------------------------------------------
-- Claims
-- ---------------------------------------------------------------------------

/-- What any number of threads have done with a value since `initial`: the
guards that are held now and the value as it was left last. A claim that is
refused changes nothing. -/
inductive Claiming {ι α : Type} (initial : α) : List ι → α → Shared α → Prop
  | start : Claiming initial [] initial { value := initial }
  | claimed {guards left s value s'} (thread : ι) : Claiming initial guards left s →
      s.tryClaim = .ok (value, s') → Claiming initial (thread :: guards) left s'
  | released {before thread after left s} (value : α) :
      Claiming initial (before ++ thread :: after) left s →
      Claiming initial (before ++ after) value (s.release value)
  | died {before thread after left s} (value : α) :
      Claiming initial (before ++ thread :: after) left s →
      Claiming initial (before ++ after) value (s.abandon value)

/-- A claim is given out where no guard is held, with the value as it was left,
and refused elsewhere. -/
structure ClaimsExclude {ι α : Type} (guards : List ι) (left : α) (s : Shared α) : Prop where
  one : guards.length ≤ 1
  granted : (∃ value s', s.tryClaim = .ok (value, s')) ↔ guards = []
  busy : guards ≠ [] → ∃ fault, s.tryClaim = .error fault ∧ fault.kind = .busy
  kept : ∀ value s', s.tryClaim = .ok (value, s') → value = left

section
variable {ι α : Type} {initial left : α} {guards : List ι} {s : Shared α}

/-- Nobody holds a guard and the value can be claimed, or one thread holds the
one guard. -/
def Accounted (guards : List ι) (left : α) (s : Shared α) : Prop :=
  s.value = left ∧
    (guards = [] ∧ s.claimed = false ∨ (∃ thread, guards = [thread]) ∧ s.claimed = true)

theorem alone_of_singleton {before after : List ι} {thread other : ι}
    (h : before ++ thread :: after = [other]) : before ++ after = [] := by
  cases before with
  | nil => exact (List.cons.inj h).2
  | cons first before => simp at h

theorem Claiming.accounted (h : Claiming initial guards left s) : Accounted guards left s := by
  induction h with
  | start => exact ⟨rfl, .inl ⟨rfl, rfl⟩⟩
  | claimed thread _ hx ih =>
    obtain ⟨hv, ⟨rfl, hc⟩ | ⟨-, hc⟩⟩ := ih
    · rw [Shared.tryClaim_free hc] at hx
      cases hx
      exact ⟨hv, .inr ⟨⟨thread, rfl⟩, rfl⟩⟩
    · rw [Shared.tryClaim_claimed hc] at hx
      cases hx
  | released value _ ih =>
    obtain ⟨-, ⟨hnone, -⟩ | ⟨⟨other, hone⟩, -⟩⟩ := ih
    · simp at hnone
    · exact ⟨rfl, .inl ⟨alone_of_singleton hone, rfl⟩⟩
  | died value _ ih =>
    obtain ⟨-, ⟨hnone, -⟩ | ⟨⟨other, hone⟩, -⟩⟩ := ih
    · simp at hnone
    · exact ⟨rfl, .inl ⟨alone_of_singleton hone, rfl⟩⟩

theorem Accounted.exclude (h : Accounted guards left s) : ClaimsExclude guards left s := by
  obtain ⟨hv, ⟨rfl, hc⟩ | ⟨⟨thread, rfl⟩, hc⟩⟩ := h
  · have hclaim := Shared.tryClaim_free hc
    refine ⟨Nat.zero_le _, ⟨fun _ => rfl, fun _ => ⟨_, _, hclaim⟩⟩, fun hne => (hne rfl).elim, ?_⟩
    intro value s' hx
    cases hclaim.symm.trans hx
    exact hv
  · have hclaim := Shared.tryClaim_claimed hc
    refine ⟨Nat.le_refl _, ⟨?_, nofun⟩, fun _ => ⟨_, hclaim, rfl⟩, ?_⟩
    · rintro ⟨value, s', hx⟩
      cases hclaim.symm.trans hx
    · intro value s' hx
      cases hclaim.symm.trans hx

end

-- ---------------------------------------------------------------------------
-- Locks
-- ---------------------------------------------------------------------------

section
variable {σ η φ : Type} {h : Host σ η} {k : Flock h φ}

/-- The locks that live are on different files and in force. A volume whose file
can be opened is locked where it is free and in use elsewhere, which changes no
lock; it is free again once its lock is dropped. -/
structure LocksExclude (k : Flock h φ) (live : List (VolumeLock η)) (s : σ) : Prop where
  apart : live.Pairwise fun a b => k.file a.file ≠ k.file b.file
  inForce : ∀ l ∈ live, k.locked s (k.entry s l.path)
  granted : ∀ directory name, VolumeLock.opens h directory name s = true →
    ((∃ lock s', VolumeLock.acquire h directory name s = .ok lock s') ↔
      Free k live s (lockPath directory name))
  busy : ∀ directory name, VolumeLock.opens h directory name s = true →
    ¬ Free k live s (lockPath directory name) → ∃ fault s',
      VolumeLock.acquire h directory name s = .error (.refused fault) s' ∧ fault.kind = .busy ∧
        k.Same s s'
  again : ∀ before lock after, live = before ++ lock :: after → ∀ directory name,
    k.entry s (lockPath directory name) = k.entry s lock.path →
    VolumeLock.opens h directory name (lock.release h s) = true →
      ∃ lock' s', VolumeLock.acquire h directory name (lock.release h s) = .ok lock' s'

theorem Standing.exclude (laws : k.Lawful) {live : List (VolumeLock η)} {s : σ}
    (h₁ : Standing k live s) : LocksExclude k live s where
  apart := h₁.apart
  inForce l hl := (h₁.locked _).mpr ⟨l, hl, (h₁.held l hl).2⟩
  granted directory name ho := (h₁.acquire_iff laws ho).1
  busy directory name ho hf := by
    obtain ⟨s', hx, hsame⟩ := (h₁.acquire_iff laws ho).2 hf
    exact ⟨_, s', hx, rfl, hsame⟩
  again := by
    rintro before lock after rfl directory name hentry ho
    have hdropped := h₁.dropped laws
    obtain ⟨hholds, hfile⟩ := h₁.held lock (by simp)
    obtain ⟨-, hkept, hlocks⟩ := laws.close_holding s lock.file h₁.sound hholds
    refine (hdropped.acquire_iff laws ho).1.mpr (hdropped.free_iff.mpr fun hl => ?_)
    exact ((hlocks _).mp hl).2 ((hkept _).trans (hentry.trans hfile.symm))

/-- On a host that locks files as it must, nobody shares a volume: whatever
locks are taken, refused and dropped, and whatever claims are made, given back
or lost with a thread that dies. -/
theorem exclusive_access (laws : k.Lawful) {start : σ} (hsound : k.sound start)
    (hnone : ∀ f, ¬ k.locked start f) :
    (∀ live s, Locking h start live s → LocksExclude k live s) ∧
      (∀ s directory a b, a ≠ b → '/' ∉ a.toList → '/' ∉ b.toList →
        k.entry s (lockPath directory a) ≠ k.entry s (lockPath directory b)) ∧
      ∀ {ι α : Type} (initial : α) (guards : List ι) left shared,
        Claiming initial guards left shared → ClaimsExclude guards left shared :=
  ⟨fun _ _ hrun => (hrun.standing laws hsound hnone).exclude laws,
    fun _ _ _ _ hne ha hb => lockPath_apart laws hne ha hb,
    fun _ _ _ _ hrun => hrun.accounted.exclude⟩

end

/-- On the machine in memory a volume that is in use can be locked once its lock
is dropped, and a thread that dies leaves what it made to the next. -/
theorem exclusive_access_sandbox :
    let acquire (s : Sandbox) := VolumeLock.acquire Sandbox.host (.ofString "/locks") "data" s
    (∃ lock s fault s' lock' s'', acquire {} = .ok lock s ∧
      acquire s = .error (.refused fault) s' ∧ fault.kind = .busy ∧
      acquire (lock.release Sandbox.host s') = .ok lock' s'') ∧
    ∃ shared : Shared Nat, shared.poisoned = true ∧ Claiming 0 ([] : List Unit) 1 shared ∧
      ∃ shared', shared.tryClaim = .ok (1, shared') := by
  intro acquire
  have hsound : Sandbox.flock.sound {} := .nil
  obtain ⟨hlocks, -, hclaims⟩ := exclusive_access Sandbox.flock_lawful hsound
    fun _ => List.not_mem_nil
  refine ⟨?_, ?_⟩
  · -- the file can be opened each time
    have hopens : (match acquire {} with
      | .ok lock s => VolumeLock.opens Sandbox.host (.ofString "/locks") "data" s &&
        match acquire s with
        | .ok .. => false
        | .error _ s' => VolumeLock.opens Sandbox.host (.ofString "/locks") "data"
            (lock.release Sandbox.host s')
      | .error .. => false) = true := by decide +kernel
    cases hx : acquire {} with
    | error f s => simp [hx] at hopens
    | ok lock s =>
      simp only [hx, Bool.and_eq_true] at hopens
      have hrun := Locking.acquired _ _ .start hx
      have hends : Triple acquire {} _ _ := VolumeLock.acquire_triple Sandbox.flock_lawful hsound
      obtain ⟨hpath, -⟩ := hends.ok hx
      obtain ⟨fault, s', hbusy, hkind, -⟩ := (hlocks _ _ hrun).busy _ _ hopens.1 fun hfree =>
        hfree lock (List.mem_singleton_self _) (by rw [hpath])
      have hagain := hopens.2
      rw [show acquire s = _ from hbusy] at hagain
      obtain ⟨lock', s'', hlast⟩ := (hlocks _ _ (hrun.refused _ _ hbusy)).again [] lock [] rfl
        (.ofString "/locks") "data" (by rw [hpath]) hagain
      exact ⟨lock, s, fault, s', lock', s'', rfl, hbusy, hkind, hlast⟩
  · have hclaimed : Claiming 0 ([] ++ () :: []) 0 _ := Claiming.start.claimed () rfl
    have hdied := Claiming.died 1 hclaimed
    obtain ⟨value, shared', hx⟩ := (hclaims _ _ _ _ hdied).granted.mpr rfl
    cases (hclaims _ _ _ _ hdied).kept value shared' hx
    exact ⟨_, rfl, hdied, shared', hx⟩

end EmmcVault.Service
