import EmmcVault.Proofs.SandboxLocks
import EmmcVault.Service.Attach

/-!
# Where an accepted configuration points

The lock file of an accepted configuration lies in the lock directory, under the
name of the container. The mapped device lies in the directory of mappings,
under that name too, unless the name is `.` or `..`: these names pass the
validation, and lead to the directory itself and to the one above it.
-/

namespace EmmcVault

open Text

namespace Linux.Sandbox

variable {s : Sandbox} {place : Place} {node : Node}

-- ---------------------------------------------------------------------------
-- What a look-up finds
-- ---------------------------------------------------------------------------

/-- What stands at the end of a path, in a directory that is there. -/
def Ends (t : Tree) (dir : Place) (name : Bytes) (closed : Bool) (node : Node) : Prop :=
  if name = Path.here ∨ name = Path.up then node = .directory
  else name.length ≤ maxName ∧ t.node? (dir ++ [name]) = some node ∧
    (closed = true → node = .directory)

theorem exists_ends {t : Tree} {dir : Place} {name : Bytes} :
    (∃ node, Ends t dir name false node) ↔ name = Path.here ∨ name = Path.up ∨
      name.length ≤ maxName ∧ t.node? (dir ++ [name]) ≠ none := by
  unfold Ends
  rw [← or_assoc]
  by_cases hspecial : name = Path.here ∨ name = Path.up
  · simp [hspecial]
  · simp [hspecial, Option.ne_none_iff_exists']

section
variable {p : Path} {start : List Bytes} {name : Bytes}

theorem stat?_of_target_error {cause : IoError}
    (h : target s.tree s.current p = .error cause) : s.stat? p = none := by
  rw [stat?, find, h]
  rfl

theorem stat?_unusable (h : ¬ (0 ∉ p.octets ∧ p.octets.length ≤ maxPath)) : s.stat? p = none := by
  obtain ⟨cause, htarget⟩ : ∃ cause, target s.tree s.current p = .error cause := by
    unfold target
    split
    · exact ⟨_, rfl⟩
    rename_i hzero
    split
    · exact ⟨_, rfl⟩
    split
    · exact ⟨_, rfl⟩
    rename_i hlength
    exact absurd ⟨by simpa using hzero, by omega⟩ h
  exact stat?_of_target_error htarget

theorem target_last (s : Sandbox) (hparts : p.parts = start ++ [name])
    (husable : 0 ∉ p.octets ∧ p.octets.length ≤ maxPath) :
    target s.tree s.current p = (do
      let dir ← (walk s.tree (if p.isAbsolute then [] else s.current) start).mapError .kernel
      if name = Path.here then pure (.here dir)
      else if name = Path.up then pure (.up dir)
      else if maxName < name.length then throw (.kernel .nameTooLong)
      else pure (.named dir name (p.octets.getLast? == some Path.separator))) := by
  have hne : p.octets ≠ [] := by
    intro he
    rw [Path.parts, he] at hparts
    cases start <;> cases hparts
  rw [target, if_neg (by simpa using husable.1), if_neg (by simpa using hne),
    if_neg (Nat.not_lt.mpr husable.2), hparts, List.getLast?_concat, List.dropLast_concat]

theorem stat?_of_named {dir : Place} {closed : Bool}
    (htarget : target s.tree s.current p = .ok (.named dir name closed)) :
    s.stat? p = some (place, node) ↔ place = dir ++ [name] ∧
      s.tree.node? (dir ++ [name]) = some node ∧ (closed = true → node = .directory) := by
  rw [stat?, find, htarget]
  simp only [bind, Except.bind, pure, Except.pure]
  cases hnode : s.tree.node? (dir ++ [name]) with
  | none =>
    refine iff_of_false (fun h => ?_) fun h => ?_
    · cases h
    · cases h.2.1
  | some found =>
    cases found with
    | directory =>
      simp only [Except.toOption, Option.some.injEq, Prod.mk.injEq]
      exact ⟨fun h => ⟨h.1.symm, h.2, fun _ => h.2.symm⟩, fun h => ⟨h.1.symm, h.2.1⟩⟩
    | file | null =>
      cases closed with
      | false => simp [Except.toOption, eq_comm]
      | true =>
        -- What is no directory ends no path that a separator closes.
        refine iff_of_false (fun h => ?_) fun h => ?_
        · cases h
        · obtain ⟨-, hnode, hdirectory⟩ := h
          cases hnode
          cases hdirectory rfl

/-- A look-up whose way is there finds what stands at the end of the path. -/
theorem stat?_of_walk {dir : Place} (hparts : p.parts = start ++ [name])
    (husable : 0 ∉ p.octets ∧ p.octets.length ≤ maxPath)
    (hwalk : walk s.tree (if p.isAbsolute then [] else s.current) start = .ok dir) :
    s.stat? p = some (place, node) ↔ place = follow dir name ∧
      Ends s.tree dir name (p.octets.getLast? == some Path.separator) node := by
  have htarget : target s.tree s.current p =
      if name = Path.here then .ok (.here dir)
      else if name = Path.up then .ok (.up dir)
      else if maxName < name.length then .error (.kernel .nameTooLong)
      else .ok (.named dir name (p.octets.getLast? == some Path.separator)) :=
    (target_last s hparts husable).trans (by rw [hwalk]; rfl)
  generalize (p.octets.getLast? == some Path.separator) = closed at htarget ⊢
  unfold Ends follow
  by_cases hh : name = Path.here
  · rw [if_pos hh] at htarget
    have hfound : s.stat? p = some (dir, .directory) := by
      rw [stat?, find, htarget]
      rfl
    simp [hfound, hh, eq_comm]
  by_cases hu : name = Path.up
  · rw [if_neg hh, if_pos hu] at htarget
    have hfound : s.stat? p = some (dir.dropLast, .directory) := by
      rw [stat?, find, htarget]
      rfl
    rw [if_neg hh, if_pos hu, if_pos (.inr hu), hfound]
    simp [eq_comm]
  rw [if_neg hh, if_neg hu] at htarget
  rw [if_neg hh, if_neg hu, if_neg (not_or.mpr ⟨hh, hu⟩)]
  by_cases hlong : maxName < name.length
  · rw [if_pos hlong] at htarget
    simp [stat?_of_target_error htarget, Nat.not_le.mpr hlong]
  rw [if_neg hlong] at htarget
  rw [stat?_of_named htarget, and_iff_right (Nat.not_lt.mp hlong)]

/-- A look-up follows directories that are there, and finds what stands at the
end of the path. -/
theorem stat?_eq_some (hparts : p.parts = start ++ [name]) :
    s.stat? p = some (place, node) ↔ (0 ∉ p.octets ∧ p.octets.length ≤ maxPath) ∧
      ∃ dir, walk s.tree (if p.isAbsolute then [] else s.current) start = .ok dir ∧
        place = follow dir name ∧
        Ends s.tree dir name (p.octets.getLast? == some Path.separator) node := by
  by_cases husable : 0 ∉ p.octets ∧ p.octets.length ≤ maxPath
  case neg => exact iff_of_false (by simp [stat?_unusable husable]) (husable ·.1)
  cases hwalk : walk s.tree (if p.isAbsolute then [] else s.current) start with
  | error cause =>
    have htarget : target s.tree s.current p = .error (.kernel cause) := by
      rw [target_last s hparts husable, hwalk]
      rfl
    simp [stat?_of_target_error htarget]
  | ok dir =>
    rw [stat?_of_walk hparts husable hwalk]
    simp [husable]

end

-- ---------------------------------------------------------------------------
-- The directory of mappings
-- ---------------------------------------------------------------------------

/-- Where mappings are shown. -/
def mappings : Place := [Utf8.encode "dev", Utf8.encode "mapper"]

theorem walk_name {t : Tree} {dir dir' : Place} {name : Bytes} {rest : List Bytes}
    (hname : Path.Plain name) (hshort : name.length ≤ maxName) :
    walk t dir (name :: rest) = .ok dir' ↔
      t.isDirectory (dir ++ [name]) = true ∧ walk t (dir ++ [name]) rest = .ok dir' := by
  rw [walk, if_neg hname.notHere, if_neg hname.notUp, if_neg (by omega), Tree.isDirectory]
  cases t.node? (dir ++ [name]) with
  | none => simp
  | some node => cases node <;> simp

theorem walk_mappings {t : Tree} {dir : Place} :
    walk t [] mappings = .ok dir ↔ t.isDirectory [Utf8.encode "dev"] = true ∧
      t.isDirectory mappings = true ∧ mappings = dir := by
  rw [mappings, walk_name (by constructor <;> decide) (by decide),
    walk_name (by constructor <;> decide) (by decide), walk, Except.ok.injEq]
  rfl

end Linux.Sandbox

namespace Service

open Linux Sandbox

variable {s : Sandbox}

theorem encode_ne_nil {name : String} (h : name ≠ "") : Utf8.encode name ≠ [] :=
  fun he => h (Utf8.encode_injective (t := "") he)

theorem encode_unseparated {name : String} (h : '/' ∉ name.toList) :
    Path.separator ∉ Utf8.encode name :=
  fun hmem => h (Utf8.mem_of_mem_encode (by decide) hmem)

theorem encode_here {name : String} : Utf8.encode name = Path.here ↔ name = "." :=
  ⟨fun h => Utf8.encode_injective (t := ".") h, fun h => h ▸ rfl⟩

theorem encode_up {name : String} : Utf8.encode name = Path.up ↔ name = ".." :=
  ⟨fun h => Utf8.encode_injective (t := "..") h, fun h => h ▸ rfl⟩

theorem mapper_entry_octets {name : Bytes} (hne : name ≠ []) (hsep : Path.separator ∉ name) :
    (0 ∈ (mapperDirectory.join ⟨name⟩).octets ↔ 0 ∈ name) ∧
      (mapperDirectory.join ⟨name⟩).octets.length = 12 + name.length ∧
      ((mapperDirectory.join ⟨name⟩).octets.getLast? == some Path.separator) = false := by
  have hoctets : (mapperDirectory.join ⟨name⟩).octets = Utf8.encode "/dev/mapper/" ++ name := by
    rw [Path.join, Path.isAbsolute_unseparated hsep]
    rfl
  rw [hoctets]
  refine ⟨?_, ?_, ?_⟩
  · rw [List.mem_append, or_iff_right (by decide)]
  · rw [List.length_append]
    rfl
  · obtain ⟨start, last, rfl⟩ := (List.eq_nil_or_concat name).resolve_left hne
    have hlast : last ≠ Path.separator := by
      rintro rfl
      exact hsep (by simp)
    simp [hlast]

/-- An entry of the directory of mappings can be looked up exactly if the
directory is there and has it; `.` and `..` are always there. -/
theorem mapper_entry_exists {name : Bytes} (hne : name ≠ []) (hsep : Path.separator ∉ name) :
    s.pathExists (mapperDirectory.join ⟨name⟩) = true ↔
      (s.tree.isDirectory [Utf8.encode "dev"] = true ∧ s.tree.isDirectory mappings = true) ∧
      (name = Path.here ∨ name = Path.up ∨
        0 ∉ name ∧ name.length ≤ maxName ∧ s.tree.node? (mappings ++ [name]) ≠ none) := by
  obtain ⟨hparts, habsolute⟩ : (mapperDirectory.join ⟨name⟩).parts = _ ∧ _ :=
    Path.join_part hne hsep
  obtain ⟨hzero, hlength, hopen⟩ := mapper_entry_octets hne hsep
  rw [pathExists, Option.isSome_iff_exists, Prod.exists]
  simp only [stat?_eq_some (show _ = mappings ++ [name] from hparts), habsolute,
    show mapperDirectory.isAbsolute = true from rfl, if_true, walk_mappings, hzero, hlength,
    hopen]
  constructor
  · rintro ⟨place, node, ⟨hz, -⟩, _, ⟨hdev, hmappings, rfl⟩, -, hends⟩
    obtain hh | hu | hnode := exists_ends.mp ⟨node, hends⟩
    · exact ⟨⟨hdev, hmappings⟩, .inl hh⟩
    · exact ⟨⟨hdev, hmappings⟩, .inr (.inl hu)⟩
    · exact ⟨⟨hdev, hmappings⟩, .inr (.inr ⟨hz, hnode⟩)⟩
  · rintro ⟨⟨hdev, hmappings⟩, hname⟩
    obtain ⟨hz, hshort⟩ : 0 ∉ name ∧ name.length ≤ maxName := by
      obtain rfl | rfl | ⟨hz, hshort, -⟩ := hname
      · decide
      · decide
      · exact ⟨hz, hshort⟩
    have hfits : 12 + name.length ≤ maxPath := by
      unfold maxName at hshort
      unfold maxPath
      omega
    obtain ⟨node, hends⟩ := exists_ends.mpr (hname.imp_right (Or.imp_right And.right))
    exact ⟨_, node, ⟨hz, hfits⟩, _, ⟨hdev, hmappings, rfl⟩, rfl, hends⟩

theorem Config.validate_ok {c : Config} (h : c.validate = .ok ()) :
    c.bounds.isValid = true ∧ c.volume.container ≠ "" ∧ '/' ∉ c.volume.container.toList ∧
      c.settings.validate = .ok () := by
  unfold Config.validate at h
  dsimp only at h
  split at h
  · cases h
  rename_i hbounds
  split at h
  · cases h
  rename_i hname
  simp only [Bool.or_eq_true, String.isEmpty_iff, List.contains_iff_mem, not_or] at hname
  refine ⟨by simpa using hbounds, hname.1, hname.2, ?_⟩
  cases hs : c.settings.validate with
  | ok _ => rfl
  | error fault =>
    rw [hs] at h
    cases h

theorem Config.state_volumeOn {σ η : Type} {h : Host σ η} {c : Config} {w : σ} :
    (c.volumeOn h w).state = .unlocked ↔ h.pathExists w c.identity.mappedDevice = true := by
  rw [volumeOn]
  cases h.pathExists w c.identity.mappedDevice <;> simp

/-- The lock file of an accepted configuration lies in the lock directory under
the name of the container, and the lock state is that of the path of the mapped
device. This path leads to the entry of that name in the directory of mappings,
so that a volume is taken for unlocked by its own mapping, for all names but
two: a container `.` leads to the directory of mappings itself and `..` to the
one above, and such a volume is unlocked as soon as that directory is there. -/
theorem Config.accepted_paths {c : Config} (hc : c.validate = .ok ()) :
    (∀ {σ η : Type} (h : Host σ η) (w : σ),
      (c.volumeOn h w).state = .unlocked ↔ h.pathExists w c.identity.mappedDevice = true) ∧
    ∀ s : Sandbox,
      s.placeOf (lockPath c.lockDirectory c.volume.container) =
        s.placeOf c.lockDirectory ++ [Utf8.encode (c.volume.container ++ ".lock")] ∧
      s.placeOf c.identity.mappedDevice =
        (if c.volume.container = "." then mappings
          else if c.volume.container = ".." then mappings.dropLast
          else mappings ++ [Utf8.encode c.volume.container]) ∧
      ((c.volumeOn host s).state = .unlocked ↔
        (s.tree.isDirectory [Utf8.encode "dev"] = true ∧ s.tree.isDirectory mappings = true) ∧
        (c.volume.container = "." ∨ c.volume.container = ".." ∨
          0 ∉ Utf8.encode c.volume.container ∧
          (Utf8.encode c.volume.container).length ≤ maxName ∧
          s.tree.node? (mappings ++ [Utf8.encode c.volume.container]) ≠ none)) := by
  obtain ⟨-, hne, hslash, -⟩ := c.validate_ok hc
  have hnonempty := encode_ne_nil hne
  have hsep := encode_unseparated hslash
  refine ⟨fun h w => c.state_volumeOn, fun s => ⟨?_, ?_, ?_⟩⟩
  · exact placeOf_entry (lockName_plain hslash)
  · show s.placeOf (mapperDirectory.join ⟨Utf8.encode c.volume.container⟩) = _
    rw [placeOf_join hnonempty hsep]
    simp only [follow, encode_here, encode_up]
    rfl
  · rw [c.state_volumeOn, ← encode_here, ← encode_up]
    exact mapper_entry_exists hnonempty hsep

namespace Config

def named (container : String) : Config where
  volume := { device := Path.ofString "/dev/mmcblk0", container, minBytes := 0, maxBytes := 1024 }

/-- A system with some mappings and no more. -/
def mapped (names : List String) : Sandbox where
  tree := ⟨[([Utf8.encode "dev"], .directory), (mappings, .directory)] ++
    names.map fun name => (mappings ++ [Utf8.encode name], .null)⟩

theorem accepted_paths_emmc :
    (named "emmc_luks").validate = .ok () ∧
      ((named "emmc_luks").volumeOn host (mapped ["emmc_luks"])).state = .unlocked ∧
      ((named "emmc_luks").volumeOn host (mapped ["other"])).state ≠ .unlocked := by
  have hc : (named "emmc_luks").validate = .ok () := by rfl
  obtain ⟨-, hpaths⟩ := accepted_paths hc
  exact ⟨hc, (hpaths (mapped ["emmc_luks"])).2.2.mpr (by decide),
    mt (hpaths (mapped ["other"])).2.2.mp (by decide)⟩

/-- Without any mapping, a volume named `..` is accepted and unlocked. -/
theorem not_accepted_inside :
    (named "..").validate = .ok () ∧
      (mapped []).placeOf (named "..").identity.mappedDevice = [Utf8.encode "dev"] ∧
      (mapped []).tree.node? (mappings ++ [Utf8.encode ".."]) = none ∧
      ((named "..").volumeOn host (mapped [])).state = .unlocked := by
  refine ⟨rfl, by decide, by decide, by decide⟩

end Config

end Service

end EmmcVault
