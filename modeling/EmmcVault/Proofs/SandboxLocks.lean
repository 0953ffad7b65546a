import EmmcVault.Linux.Sandbox.Host
import EmmcVault.Proofs.LockFiles

/-!
# Locks on the machine in memory

The machine in memory locks files as a host must: it tells them by their places,
which a path leads to whatever the tree holds on the way.
-/

namespace EmmcVault

open Text

-- ---------------------------------------------------------------------------
-- Parts of a path
-- ---------------------------------------------------------------------------

namespace Path

variable {name : Bytes}

theorem partsFrom_append {part start rest : Bytes} :
    partsFrom part (start ++ separator :: rest) = partsFrom part start ++ partsFrom [] rest := by
  induction start generalizing part with
  | nil => cases part <;> simp [partsFrom]
  | cons b start ih =>
    by_cases hb : b = separator
    · cases part <;> simp [partsFrom, hb, ih]
    · simp [partsFrom, hb, ih]

theorem partsFrom_unseparated {part : Bytes} (h : separator ∉ name) (hne : part ++ name ≠ []) :
    partsFrom part name = [part.reverse ++ name] := by
  induction name generalizing part with
  | nil => cases part <;> simp_all [partsFrom]
  | cons b name ih =>
    obtain ⟨hb, hname⟩ := not_or.mp (mt List.mem_cons.mpr h)
    rw [partsFrom, if_neg fun he => hb he.symm, ih hname (by simp)]
    simp

theorem isAbsolute_unseparated (h : separator ∉ name) : (Path.mk name).isAbsolute = false := by
  cases name with
  | nil => rfl
  | cons b name =>
    have hb : b ≠ separator := by
      rintro rfl
      exact h List.mem_cons_self
    simp [Path.isAbsolute, hb]

/-- A path goes one part further, from the same start. -/
theorem join_part {directory : Path} (hne : name ≠ []) (hsep : separator ∉ name) :
    (directory.join ⟨name⟩).parts = directory.parts ++ [name] ∧
      (directory.join ⟨name⟩).isAbsolute = directory.isAbsolute := by
  have hparts : partsFrom [] name = [name] := partsFrom_unseparated hsep hne
  have hrelative := isAbsolute_unseparated hsep
  obtain ⟨octets⟩ := directory
  obtain rfl | ⟨start, last, rfl⟩ := List.eq_nil_or_concat octets
  · have hjoin : (Path.mk []).join ⟨name⟩ = ⟨name⟩ := by simp [join]
    rw [hjoin]
    exact ⟨hparts, hrelative⟩
  rw [List.concat_eq_append]
  by_cases hl : last = separator
  · subst hl
    have hjoin : (Path.mk (start ++ [separator])).join ⟨name⟩ =
        ⟨start ++ separator :: name⟩ := by
      simp [join, hrelative]
    rw [hjoin]
    refine ⟨?_, ?_⟩
    · simp [Path.parts, partsFrom_append, hparts, partsFrom]
    · cases start <;> simp [Path.isAbsolute]
  · have hjoin : (Path.mk (start ++ [last])).join ⟨name⟩ =
        ⟨start ++ [last] ++ separator :: name⟩ := by
      simp [join, hrelative, hl]
    rw [hjoin]
    refine ⟨?_, ?_⟩
    · rw [Path.parts, partsFrom_append, hparts]
      rfl
    · cases start <;> simp [Path.isAbsolute]

end Path

namespace Linux.Sandbox

-- ---------------------------------------------------------------------------
-- Places
-- ---------------------------------------------------------------------------

/-- One step along a path. -/
def follow (dir : Place) (name : Bytes) : Place :=
  if name = Path.here then dir else if name = Path.up then dir.dropLast else dir ++ [name]

/-- Where a path leads, whatever is there. -/
def placeOf (s : Sandbox) (p : Path) : Place :=
  p.parts.foldl follow (if p.isAbsolute then [] else s.current)

theorem follow_plain {dir : Place} {name : Bytes} (hh : name ≠ Path.here) (hu : name ≠ Path.up) :
    follow dir name = dir ++ [name] := by
  rw [follow, if_neg hh, if_neg hu]

theorem placeOf_join {s : Sandbox} {directory : Path} {name : Bytes} (hne : name ≠ [])
    (hsep : Path.separator ∉ name) :
    s.placeOf (directory.join ⟨name⟩) = follow (s.placeOf directory) name := by
  obtain ⟨hparts, habsolute⟩ : (directory.join ⟨name⟩).parts = _ ∧ _ := Path.join_part hne hsep
  rw [placeOf, hparts, habsolute, List.foldl_append]
  rfl

/-- An entry of a directory lies in the directory, under its name. -/
theorem placeOf_entry {s : Sandbox} {directory : Path} {name : Bytes} (h : Path.Plain name) :
    s.placeOf (directory.join ⟨name⟩) = s.placeOf directory ++ [name] := by
  rw [placeOf_join h.nonempty h.unseparated, follow_plain h.notHere h.notUp]

theorem walk_follow {t : Tree} {dir dir' : Place} {names : List Bytes}
    (h : walk t dir names = .ok dir') : dir' = names.foldl follow dir := by
  induction names generalizing dir with
  | nil =>
    cases h
    rfl
  | cons name rest ih =>
    rw [walk] at h
    rw [List.foldl_cons, follow]
    split at h
    · rename_i hh
      rw [if_pos hh]
      exact ih h
    rename_i hh
    rw [if_neg hh]
    split at h
    · rename_i hu
      rw [if_pos hu]
      exact ih h
    rename_i hu
    rw [if_neg hu]
    split at h
    · cases h
    split at h
    · cases h
    · exact ih h
    · cases h

/-- A path that ends with a name leads through directories to that name. -/
theorem target_named {t : Tree} {current : Place} {p : Path} {dir : Place} {name : Bytes}
    {closed : Bool} (h : target t current p = .ok (.named dir name closed)) :
    ∃ start, p.parts = start ++ [name] ∧
      walk t (if p.isAbsolute then [] else current) start = .ok dir ∧
      name ≠ Path.here ∧ name ≠ Path.up := by
  unfold target at h
  split at h
  · cases h
  split at h
  · cases h
  split at h
  · cases h
  split at h
  · cases h
  · rename_i last hlast
    dsimp only at h
    generalize hwalk : walk t (if p.isAbsolute = true then [] else current)
      p.parts.dropLast = r at h
    cases r with
    | error e => cases h
    | ok dir' =>
      have hlast' : (if last = Path.here then (pure (Target.here dir') : Except IoError Target)
          else if last = Path.up then pure (.up dir')
          else if maxName < last.length then throw (.kernel .nameTooLong)
          else pure (.named dir' last (p.octets.getLast? == some Path.separator))) =
            .ok (.named dir name closed) := h
      split at hlast'
      · cases hlast'
      rename_i hh
      split at hlast'
      · cases hlast'
      rename_i hu
      split at hlast'
      · cases hlast'
      cases hlast'
      obtain ⟨start, hparts⟩ := List.getLast?_eq_some_iff.mp hlast
      rw [hparts, List.dropLast_concat] at hwalk
      exact ⟨start, hparts, hwalk, hh, hu⟩

theorem target_place {s : Sandbox} {p : Path} {dir : Place} {name : Bytes} {closed : Bool}
    (h : target s.tree s.current p = .ok (.named dir name closed)) :
    dir ++ [name] = s.placeOf p := by
  obtain ⟨start, hparts, hwalk, hh, hu⟩ := target_named h
  rw [placeOf, hparts, List.foldl_append, ← walk_follow hwalk]
  exact (follow_plain hh hu).symm

-- ---------------------------------------------------------------------------
-- Locks
-- ---------------------------------------------------------------------------

/-- Files are told by their places. -/
def flock : Flock host Place where
  sound s := s.locked.Nodup
  entry := placeOf
  file := FileHandle.place
  holds := FileHandle.holdsLock
  locked s place := place ∈ s.locked

/-- What only changes the tree locks nothing. -/
theorem onTree_same {α : Type} {call : Tree → Place → Except IoError (α × Tree)} {s : Sandbox}
    (hs : flock.sound s) :
    Triple (onTree call) s (fun a s' => flock.Same s s' ∧
      ∃ tree, call s.tree s.current = .ok (a, tree)) (fun _ => flock.Same s) := by
  unfold Triple onTree
  cases hx : call s.tree s.current with
  | error e => exact .refl hs
  | ok r => exact ⟨⟨hs, fun _ => rfl, fun _ => Iff.rfl⟩, r.2, rfl⟩

theorem makeDirectory_same {p : Path} {s : Sandbox} (hs : flock.sound s) :
    Triple (makeDirectory p) s (fun _ => flock.Same s) (fun _ => flock.Same s) := by
  unfold makeDirectory
  exact Triple.mono (onTree_same hs) (fun _ _ h => h.1) fun _ _ h => h

theorem openOrCreate_same {p : Path} {s : Sandbox} (hs : flock.sound s) :
    Triple (openOrCreate p) s
      (fun e s' => flock.Same s s' ∧ e.place = s.placeOf p ∧ e.holdsLock = false)
      (fun _ => flock.Same s) := by
  unfold openOrCreate
  refine Triple.mono (onTree_same hs) ?_ fun _ _ h => h
  rintro e s' ⟨hsame, tree, hcall⟩
  refine ⟨hsame, ?_⟩
  generalize htarget : target s.tree s.current p = r at hcall
  cases r with
  | error cause => cases hcall
  | ok found =>
    cases found with
    | named dir name closed =>
      cases closed with
      | true => cases hcall
      | false =>
        rw [← target_place htarget]
        cases hn : s.tree.node? (dir ++ [name]) with
        | none =>
          simp only [hn, bind, Except.bind] at hcall
          cases hcall
          exact ⟨rfl, rfl⟩
        | some node =>
          cases node <;> simp only [hn, bind, Except.bind] at hcall <;> cases hcall <;>
            exact ⟨rfl, rfl⟩
    | root => cases hcall
    | here => cases hcall
    | up => cases hcall

theorem flock_lawful : flock.Lawful where
  makeDirectory p s hs := makeDirectory_same hs
  openOrCreate p s hs := openOrCreate_same hs
  tryLock_free s e hs _ hfree := by
    refine ⟨_, _, if_neg hfree, rfl, rfl, ?_, fun _ => rfl, fun f => List.mem_cons⟩
    exact List.nodup_cons.mpr ⟨hfree, hs⟩
  tryLock_locked s e hs hholds hlocked := ⟨_, _, if_pos hlocked, hholds, .refl hs⟩
  close_holding s e hs hholds := by
    have hclose : host.close (s, e) = { s with locked := s.locked.erase e.place } := if_pos hholds
    rw [hclose]
    refine ⟨hs.erase _, fun _ => rfl, fun f => ?_⟩
    exact (hs.mem_erase_iff).trans and_comm
  close_other s e hs hholds := by
    have hclose : host.close (s, e) = s := if_neg (by simp [show e.holdsLock = false from hholds])
    rw [hclose]
    exact .refl hs
  apart s directory a b ha hb hne := by
    show s.placeOf _ ≠ s.placeOf _
    rw [placeOf_entry ha, placeOf_entry hb]
    simpa using hne

end Linux.Sandbox

end EmmcVault
