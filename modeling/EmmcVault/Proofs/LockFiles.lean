import EmmcVault.Proofs.Triple
import EmmcVault.Service.Lock

/-!
# Locks on files

What is relied on of a host that locks files, and what becomes of the locks on
volumes there. However they are taken and given back, those that live are on
different files and are all in force, and nothing else is locked. So a volume
can be locked exactly where no lock that lives is on its file.
-/

namespace EmmcVault

open Text

/-- The name of an entry of a directory. -/
structure Path.Plain (name : Bytes) : Prop where
  nonempty : name ≠ []
  unseparated : Path.separator ∉ name
  notHere : name ≠ Path.here
  notUp : name ≠ Path.up

namespace Linux

variable {σ η φ : Type} {h : Host σ η}

-- ---------------------------------------------------------------------------
-- Making directories
-- ---------------------------------------------------------------------------

section
variable {I : σ → Prop}

theorem Host.ensureDirectory_keeps {p : Path} (hmake : Keeps I (fun _ => True) (h.makeDirectory p)) :
    Keeps I (fun _ => True) (h.ensureDirectory p) := by
  intro s hs
  have hmade := hmake s hs
  unfold Triple at hmade
  unfold Triple Host.ensureDirectory
  split at hmade <;> rename_i s₂ hx <;> simp only [hx]
  · exact hmade
  · by_cases hd : h.isDirectory s₂ p = true
    · simp only [if_pos hd]
      exact hmade.1
    · simp only [if_neg hd]
      exact hmade

/-- What the making of each directory keeps, the making of all keeps. -/
theorem Host.makeFirst_keeps {paths : List Path}
    (hmake : ∀ p ∈ paths, Keeps I (fun _ => True) (h.makeDirectory p)) :
    Keeps I (fun _ => True) (h.makeFirst paths) := by
  induction paths with
  | nil => exact Keeps.pure
  | cons p above ih =>
    intro s hs
    have hfirst := Host.ensureDirectory_keeps (hmake p List.mem_cons_self)
    have habove := ih fun q hq => hmake q (List.mem_cons_of_mem _ hq)
    have hmade := hfirst s hs
    unfold Triple at hmade
    unfold Triple Host.makeFirst
    split at hmade <;> rename_i hx <;> simp only [hx]
    · exact hmade
    · rename_i e s₂
      by_cases hmissing : e.isNotFound = true
      · simp only [if_pos hmissing]
        exact Keeps.bind habove (fun _ => hfirst) s₂ hmade.1
      · simp only [if_neg hmissing]
        exact hmade

end

-- ---------------------------------------------------------------------------
-- Files and their locks
-- ---------------------------------------------------------------------------

/-- How files and their locks show in the states of a host. -/
structure Flock (h : Host σ η) (φ : Type) where
  /-- States that the host can be in. -/
  sound : σ → Prop
  /-- The file that a path leads to, or will lead to once it is made. -/
  entry : σ → Path → φ
  file : η → φ
  /-- The file is locked through this opening. -/
  holds : η → Bool
  locked : σ → φ → Prop

namespace Flock

/-- No path leads elsewhere than before, and no file was locked or unlocked. -/
structure Same (k : Flock h φ) (s s' : σ) : Prop where
  sound : k.sound s'
  entry : ∀ p, k.entry s' p = k.entry s p
  locked : ∀ f, k.locked s' f ↔ k.locked s f

/-- A lock is given to one opening of a file at a time and given back when it is
closed. What is done to directories and files does not matter to locks, and the
entries of a directory are different files. -/
structure Lawful (k : Flock h φ) : Prop where
  makeDirectory : ∀ p s, k.sound s →
    Triple (h.makeDirectory p) s (fun _ => k.Same s) (fun _ => k.Same s)
  openOrCreate : ∀ p s, k.sound s →
    Triple (h.openOrCreate p) s
      (fun e s' => k.Same s s' ∧ k.file e = k.entry s p ∧ k.holds e = false) (fun _ => k.Same s)
  tryLock_free : ∀ s e, k.sound s → k.holds e = false → ¬ k.locked s (k.file e) →
    ∃ s' e', h.tryLock (s, e) = .ok true (s', e') ∧ k.file e' = k.file e ∧ k.holds e' = true ∧
      k.sound s' ∧ (∀ p, k.entry s' p = k.entry s p) ∧
      ∀ f, k.locked s' f ↔ f = k.file e ∨ k.locked s f
  tryLock_locked : ∀ s e, k.sound s → k.holds e = false → k.locked s (k.file e) →
    ∃ s' e', h.tryLock (s, e) = .ok false (s', e') ∧ k.holds e' = false ∧ k.Same s s'
  close_holding : ∀ s e, k.sound s → k.holds e = true →
    k.sound (h.close (s, e)) ∧ (∀ p, k.entry (h.close (s, e)) p = k.entry s p) ∧
      ∀ f, k.locked (h.close (s, e)) f ↔ k.locked s f ∧ f ≠ k.file e
  close_other : ∀ s e, k.sound s → k.holds e = false → k.Same s (h.close (s, e))
  apart : ∀ s (directory : Path) a b, Path.Plain a → Path.Plain b → a ≠ b →
    k.entry s (directory.join ⟨a⟩) ≠ k.entry s (directory.join ⟨b⟩)

variable {k : Flock h φ} {s s' s'' : σ}

theorem Same.refl (hs : k.sound s) : k.Same s s :=
  ⟨hs, fun _ => rfl, fun _ => Iff.rfl⟩

theorem Same.trans (h₁ : k.Same s s') (h₂ : k.Same s' s'') : k.Same s s'' :=
  ⟨h₂.sound, fun p => (h₂.entry p).trans (h₁.entry p), fun f => (h₂.locked f).trans (h₁.locked f)⟩

theorem Lawful.makeDirectories_keeps (laws : k.Lawful) {p : Path} :
    Keeps (k.Same s) (fun _ => True) (h.makeDirectories p) := by
  refine Host.makeFirst_keeps fun path _ s₁ h₁ => ?_
  refine Triple.mono (laws.makeDirectory path s₁ h₁.sound) ?_ ?_
  · exact fun _ _ h₂ => h₁.trans h₂
  · exact fun _ _ h₂ => ⟨h₁.trans h₂, trivial⟩

end Flock

end Linux

namespace Service

open Linux

variable {σ η φ : Type} {h : Host σ η} {k : Flock h φ} {s s' : σ}

-- ---------------------------------------------------------------------------
-- One lock
-- ---------------------------------------------------------------------------

namespace VolumeLock

/-- The lock file of a volume can be opened, and is made where it is missing. -/
def opens (h : Host σ η) (directory : Path) (name : String) (s : σ) : Bool :=
  match h.makeDirectories directory s with
  | .ok _ s =>
    match h.openOrCreate (lockPath directory name) s with
    | .ok .. => true
    | .error .. => false
  | .error .. => false

/-- The lock was taken between the two states, and nothing else happened. -/
structure Taken (k : Flock h φ) (lock : VolumeLock η) (s s' : σ) : Prop where
  sound : k.sound s'
  entry : ∀ p, k.entry s' p = k.entry s p
  file : k.file lock.file = k.entry s lock.path
  holds : k.holds lock.file = true
  free : ¬ k.locked s (k.entry s lock.path)
  locked : ∀ f, k.locked s' f ↔ f = k.entry s lock.path ∨ k.locked s f

/-- A volume is locked if its file is not; else it is in use, or the file cannot
be opened. -/
theorem acquire_triple (laws : k.Lawful) (hs : k.sound s) {directory : Path} {name : String} :
    Triple (acquire h directory name) s
      (fun lock s' => lock.path = lockPath directory name ∧ Taken k lock s s')
      (fun f s' => k.Same s s' ∧ (opens h directory name s = true →
        f = .refused (.inUse name) ∧ k.locked s (k.entry s (lockPath directory name)))) := by
  refine Triple.bind (Triple.adaptExcept (Triple.mono (Triple.and Triple.self
    (laws.makeDirectories_keeps s (.refl hs))) (fun _ _ h => h) ?_)) ?_
  · rintro cause s₁ ⟨hx, h₁, -⟩
    exact ⟨h₁, fun ho => by simp [opens, hx] at ho⟩
  rintro ⟨⟩ s₁ ⟨hmade, h₁⟩
  refine Triple.bind (Triple.adaptExcept (Triple.mono (Triple.and Triple.self
    (laws.openOrCreate (lockPath directory name) s₁ h₁.sound)) (fun _ _ h => h) ?_)) ?_
  · rintro cause s₂ ⟨hx, h₂⟩
    exact ⟨h₁.trans h₂, fun ho => by simp [opens, hmade, hx] at ho⟩
  rintro e s₂ ⟨-, h₂, hfile, hholds⟩
  have hsame : k.Same s s₂ := h₁.trans h₂
  have hentry : k.file e = k.entry s (lockPath directory name) := hfile.trans (h₁.entry _)
  by_cases hlocked : k.locked s₂ (k.file e)
  · obtain ⟨s₃, e', hx, hholds', h₃⟩ := laws.tryLock_locked s₂ e hsame.sound hholds hlocked
    refine Triple.of_error (e := .refused (.inUse name)) (by simp only [hx]; rfl)
      ⟨?_, fun _ => ⟨rfl, ?_⟩⟩
    · exact (hsame.trans h₃).trans (laws.close_other s₃ e' h₃.sound hholds')
    · rw [← hentry]
      exact (hsame.locked _).mp hlocked
  · obtain ⟨s₃, e', hx, hfile', hholds', hsound, hkept, hlocks⟩ :=
      laws.tryLock_free s₂ e hsame.sound hholds hlocked
    refine Triple.of_ok (a := ⟨lockPath directory name, e'⟩) (by simp only [hx]; rfl) ⟨rfl, ?_⟩
    refine ⟨hsound, fun p => (hkept p).trans (hsame.entry p), hfile'.trans hentry, hholds', ?_, ?_⟩
    · intro hl
      refine hlocked ((hsame.locked _).mpr ?_)
      rw [hentry]
      exact hl
    · intro f
      rw [hlocks, hsame.locked, hentry]

end VolumeLock

-- ---------------------------------------------------------------------------
-- Many locks
-- ---------------------------------------------------------------------------

/-- What any number of holders have done since `start`: the locks that live now
and the state of the host. -/
inductive Locking (h : Host σ η) (start : σ) : List (VolumeLock η) → σ → Prop
  | start : Locking h start [] start
  | acquired {live s lock s'} (directory : Path) (name : String) : Locking h start live s →
      VolumeLock.acquire h directory name s = .ok lock s' → Locking h start (lock :: live) s'
  | refused {live s f s'} (directory : Path) (name : String) : Locking h start live s →
      VolumeLock.acquire h directory name s = .error f s' → Locking h start live s'
  | dropped {before lock after s} : Locking h start (before ++ lock :: after) s →
      Locking h start (before ++ after) (lock.release h s)

/-- The locks that live are on different files, and these are what is locked. -/
structure Standing (k : Flock h φ) (live : List (VolumeLock η)) (s : σ) : Prop where
  sound : k.sound s
  apart : live.Pairwise fun a b => k.file a.file ≠ k.file b.file
  held : ∀ l ∈ live, k.holds l.file = true ∧ k.file l.file = k.entry s l.path
  locked : ∀ f, k.locked s f ↔ ∃ l ∈ live, k.file l.file = f

namespace Standing

variable {live : List (VolumeLock η)}

theorem same (h₁ : Standing k live s) (hs : k.Same s s') : Standing k live s' where
  sound := hs.sound
  apart := h₁.apart
  held l hl := ⟨(h₁.held l hl).1, (h₁.held l hl).2.trans (hs.entry _).symm⟩
  locked f := (hs.locked f).trans (h₁.locked f)

theorem acquired {lock : VolumeLock η} (h₁ : Standing k live s)
    (ht : VolumeLock.Taken k lock s s') : Standing k (lock :: live) s' where
  sound := ht.sound
  apart := by
    refine List.pairwise_cons.mpr ⟨fun l hl he => ht.free ?_, h₁.apart⟩
    rw [← ht.file, he]
    exact (h₁.locked _).mpr ⟨l, hl, rfl⟩
  held := by
    refine List.forall_mem_cons.mpr ⟨⟨ht.holds, ht.file.trans (ht.entry _).symm⟩, fun l hl => ?_⟩
    exact ⟨(h₁.held l hl).1, (h₁.held l hl).2.trans (ht.entry _).symm⟩
  locked f := by
    rw [ht.locked, h₁.locked, ← ht.file]
    simp [eq_comm]

theorem dropped (laws : k.Lawful) {before after : List (VolumeLock η)} {lock : VolumeLock η}
    (h₁ : Standing k (before ++ lock :: after) s) :
    Standing k (before ++ after) (lock.release h s) := by
  obtain ⟨hholds, -⟩ := h₁.held lock (by simp)
  obtain ⟨hsound, hentry, hlocks⟩ := laws.close_holding s lock.file h₁.sound hholds
  obtain ⟨hother, hapart⟩ := List.pairwise_cons.mp
    ((List.perm_middle.pairwise_iff fun hne => hne.symm).mp h₁.apart)
  have hmem : ∀ l, l ∈ before ++ lock :: after ↔ l = lock ∨ l ∈ before ++ after := by
    intro l
    rw [List.perm_middle.mem_iff, List.mem_cons]
  refine ⟨hsound, hapart, fun l hl => ?_, fun f => ?_⟩
  · obtain ⟨hl₁, hl₂⟩ := h₁.held l ((hmem l).mpr (.inr hl))
    exact ⟨hl₁, hl₂.trans (hentry _).symm⟩
  · show k.locked (h.close (s, lock.file)) f ↔ _
    rw [hlocks, h₁.locked]
    constructor
    · rintro ⟨⟨l, hl, rfl⟩, hne⟩
      obtain rfl | hl := (hmem l).mp hl
      · exact (hne rfl).elim
      · exact ⟨l, hl, rfl⟩
    · rintro ⟨l, hl, rfl⟩
      exact ⟨⟨l, (hmem l).mpr (.inr hl), rfl⟩, (hother l hl).symm⟩

end Standing

theorem Locking.standing (laws : k.Lawful) {start : σ} (hsound : k.sound start)
    (hfree : ∀ f, ¬ k.locked start f) {live : List (VolumeLock η)}
    (hrun : Locking h start live s) : Standing k live s := by
  induction hrun with
  | start => exact ⟨hsound, .nil, List.forall_mem_nil _, fun f => by simp [hfree f]⟩
  | acquired directory name _ hx ih =>
    exact ih.acquired ((VolumeLock.acquire_triple laws ih.sound).ok hx).2
  | refused directory name _ hx ih =>
    exact ih.same ((VolumeLock.acquire_triple laws ih.sound).error hx).1
  | dropped _ ih => exact ih.dropped laws

-- ---------------------------------------------------------------------------
-- Who gets a lock
-- ---------------------------------------------------------------------------

/-- No lock that lives is on the file that the path leads to. -/
def Free (k : Flock h φ) (live : List (VolumeLock η)) (s : σ) (p : Path) : Prop :=
  ∀ l ∈ live, k.entry s l.path ≠ k.entry s p

namespace Standing

variable {live : List (VolumeLock η)} {directory : Path} {name : String}

theorem free_iff (h₁ : Standing k live s) {p : Path} :
    Free k live s p ↔ ¬ k.locked s (k.entry s p) := by
  rw [h₁.locked]
  constructor
  · rintro hfree ⟨l, hl, hfile⟩
    exact hfree l hl ((h₁.held l hl).2.symm.trans hfile)
  · intro hnone l hl hentry
    exact hnone ⟨l, hl, (h₁.held l hl).2.trans hentry⟩

/-- Of volumes whose files can be opened, those that no lock that lives is on
can be locked, and the others are in use. -/
theorem acquire_iff (laws : k.Lawful) (h₁ : Standing k live s)
    (ho : VolumeLock.opens h directory name s = true) :
    ((∃ lock s', VolumeLock.acquire h directory name s = .ok lock s') ↔
        Free k live s (lockPath directory name)) ∧
      (¬ Free k live s (lockPath directory name) → ∃ s',
        VolumeLock.acquire h directory name s = .error (.refused (.inUse name)) s' ∧
          k.Same s s') := by
  rw [h₁.free_iff]
  have hends : Triple (VolumeLock.acquire h directory name) s _ _ :=
    VolumeLock.acquire_triple laws h₁.sound
  obtain ⟨lock, s', hx, hpath, ht⟩ | ⟨f, s', hx, hsame, hf⟩ := hends.cases
  · have hfree := ht.free
    rw [hpath] at hfree
    exact ⟨⟨fun _ => hfree, fun _ => ⟨lock, s', hx⟩⟩, fun hl => (hl hfree).elim⟩
  · obtain ⟨rfl, hl⟩ := hf ho
    refine ⟨⟨?_, fun hfree => (hfree hl).elim⟩, fun _ => ⟨s', hx, hsame⟩⟩
    rintro ⟨lock, s'', hy⟩
    cases hx.symm.trans hy

end Standing

theorem lockName_plain {name : String} (h : '/' ∉ name.toList) :
    Path.Plain (Utf8.encode (name ++ ".lock")) := by
  have hlength : 5 ≤ (Utf8.encode (name ++ ".lock")).length := by
    rw [Utf8.encode_append, List.length_append]
    exact Nat.le_add_left _ _
  refine ⟨?_, fun hs => ?_, ?_, ?_⟩
  · rintro he
    rw [he] at hlength
    cases hlength
  · have hslash := Utf8.mem_of_mem_encode (by decide) hs
    rw [String.toList_append, List.mem_append] at hslash
    obtain hslash | hslash := hslash
    · exact h hslash
    · exact absurd hslash (by decide)
  · intro he
    rw [he] at hlength
    exact absurd hlength (by decide)
  · intro he
    rw [he] at hlength
    exact absurd hlength (by decide)

/-- Volumes of different names have different lock files in a directory. -/
theorem lockPath_apart (laws : k.Lawful) {directory : Path} {a b : String} (hne : a ≠ b)
    (ha : '/' ∉ a.toList) (hb : '/' ∉ b.toList) :
    k.entry s (lockPath directory a) ≠ k.entry s (lockPath directory b) := by
  refine laws.apart s directory _ _ (lockName_plain ha) (lockName_plain hb) fun he => hne ?_
  have happend : a ++ ".lock" = b ++ ".lock" := Utf8.encode_injective he
  rw [← String.toList_inj, String.toList_append, String.toList_append] at happend
  exact String.toList_inj.mp (List.append_cancel_right happend)

end Service

end EmmcVault
