import EmmcVault.Linux.Sandbox.Setup
import EmmcVault.Linux.Tool
import EmmcVault.Proofs.SandboxLocks

/-!
# How the tree of the machine grows

A directory is made with those missing on the way to it, and removed alone.
What both together leave of a tree is said place by place.
-/

namespace EmmcVault

open Text

-- ---------------------------------------------------------------------------
-- Paths made of parts
-- ---------------------------------------------------------------------------

namespace Path

/-- Parts that a written form can be cut into again. -/
def Proper (names : List Bytes) : Prop :=
  ∀ name ∈ names, name ≠ [] ∧ separator ∉ name

theorem partsFrom_proper {part octets : Bytes} (h : separator ∉ part) :
    Proper (partsFrom part octets) := by
  induction octets generalizing part with
  | nil => cases part <;> simp_all [partsFrom, Proper]
  | cons b octets ih =>
    rw [partsFrom]
    split
    · have hrest : Proper (partsFrom [] octets) := ih (by simp)
      split
      · exact hrest
      · rename_i hne
        intro name hname
        rcases List.mem_cons.mp hname with rfl | hname
        · simp_all
        · exact hrest name hname
    · rename_i hb
      exact ih (by simp [h, Ne.symm hb])

theorem key_proper {p : Path} : Proper p.key.parts := by
  have hparts : Proper p.parts := partsFrom_proper (by simp)
  intro name hname
  simp only [key, List.mem_append, List.mem_filter] at hname
  rcases hname with hname | ⟨hname, -⟩
  · split at hname
    · obtain rfl := List.mem_singleton.mp hname
      decide
    · cases hname
  · exact hparts name hname

theorem parts_path {k : Key} (h : Proper k.parts) : (Key.path k).parts = k.parts := by
  have hjoined : partsFrom [] (List.intercalate [separator] k.parts) = k.parts := by
    obtain ⟨absolute, names⟩ := k
    dsimp only at h ⊢
    clear absolute
    induction names with
    | nil => rfl
    | cons name names ih =>
      obtain ⟨hne, hsep⟩ := h name List.mem_cons_self
      have hname : partsFrom [] name = [name] := partsFrom_unseparated hsep hne
      have hrest := ih fun n hn => h n (List.mem_cons_of_mem _ hn)
      cases names with
      | nil => simpa using hname
      | cons next names =>
        have hcons : List.intercalate [separator] (name :: next :: names) =
            name ++ separator :: List.intercalate [separator] (next :: names) := by
          simp [List.intercalate_cons_cons]
        rw [hcons, partsFrom_append, hname, hrest]
        rfl
  unfold Key.path Path.parts
  split
  · simpa [partsFrom] using hjoined
  · exact hjoined

theorem isAbsolute_path {k : Key} (h : Proper k.parts) :
    (Key.path k).isAbsolute = k.absolute := by
  obtain ⟨absolute, names⟩ := k
  cases absolute with
  | true => rfl
  | false =>
    cases names with
    | nil => rfl
    | cons name names =>
      obtain ⟨hne, hsep⟩ := h name List.mem_cons_self
      obtain ⟨b, name, rfl⟩ := List.exists_cons_of_ne_nil hne
      have hb : b ≠ separator := by
        rintro rfl
        exact hsep List.mem_cons_self
      cases names <;> simp [Key.path, isAbsolute, List.intercalate, hb]

end Path

namespace Linux.Sandbox

-- ---------------------------------------------------------------------------
-- The way to a directory
-- ---------------------------------------------------------------------------

/-- The places that names lead to one after the other. -/
def wayFrom (dir : Place) : List Bytes → List Place
  | [] => []
  | name :: rest =>
    if name = Path.here ∨ name = Path.up then wayFrom (follow dir name) rest
    else follow dir name :: wayFrom (follow dir name) rest

/-- The places that a path names, its own last if it ends with a name. -/
def way (s : Sandbox) (p : Path) : List Place :=
  wayFrom (if p.isAbsolute then [] else s.current) p.parts

theorem wayFrom_append {dir : Place} {names rest : List Bytes} :
    wayFrom dir (names ++ rest) = wayFrom dir names ++ wayFrom (names.foldl follow dir) rest := by
  induction names generalizing dir with
  | nil => rfl
  | cons name names ih =>
    simp only [List.cons_append, wayFrom, ih, List.foldl_cons]
    split <;> rfl

theorem wayFrom_filter {dir : Place} {names : List Bytes} :
    wayFrom dir (names.filter (· != Path.here)) = wayFrom dir names := by
  induction names generalizing dir with
  | nil => rfl
  | cons name names ih =>
    by_cases hh : name = Path.here
    · simp [wayFrom, hh, follow, ih]
    · simp [wayFrom, hh, ih]

theorem way_key {s : Sandbox} {p : Path} :
    s.way p = wayFrom (if p.isAbsolute then [] else s.current) p.key.parts := by
  have hleading : ∀ dir, wayFrom dir p.key.parts = wayFrom dir (p.parts.filter (· != Path.here)) := by
    intro dir
    simp only [Path.key]
    split
    · simp [wayFrom, follow]
    · rfl
  rw [way, hleading, wayFrom_filter]

/-- What lies above a path lies on the way to it. -/
theorem way_ancestor {s : Sandbox} {p a : Path} (ha : a ∈ p.ancestors) {q : Place}
    (hq : q ∈ s.way a) : q ∈ s.way p := by
  unfold Path.ancestors at ha
  split at ha
  · cases ha
  · rcases List.mem_cons.mp ha with rfl | ha
    · exact hq
    · simp only [List.mem_map] at ha
      obtain ⟨n, -, rfl⟩ := ha
      have hproper : Path.Proper (p.key.parts.take (n + 1)) := fun name hname =>
        Path.key_proper name (List.mem_of_mem_take hname)
      rw [way, Path.parts_path hproper, Path.isAbsolute_path hproper] at hq
      rw [way_key, ← List.take_append_drop (n + 1) p.key.parts, wayFrom_append]
      exact List.mem_append_left _ hq

theorem walk_way {t : Tree} {dir dir' : Place} {names : List Bytes}
    (h : walk t dir names = .ok dir') {q : Place} (hq : q ∈ wayFrom dir names) :
    t.isDirectory q = true := by
  induction names generalizing dir with
  | nil => cases hq
  | cons name names ih =>
    rw [walk] at h
    by_cases hh : name = Path.here
    · simp only [hh, wayFrom, follow, if_true, true_or] at h hq
      exact ih h hq
    by_cases hu : name = Path.up
    · simp only [hu, wayFrom, follow, if_true, or_true, if_neg (hu ▸ hh)] at h hq
      exact ih h hq
    simp only [wayFrom, follow_plain hh hu, hh, hu, or_self, if_false] at h hq
    split at h
    · cases h
    split at h
    · cases h
    · rename_i hnode
      rcases List.mem_cons.mp hq with rfl | hq
      · simp [Tree.isDirectory, hnode]
      · exact ih h hq
    · cases h

/-- A path that ends with a name leads through directories, to a place that
is not the root. -/
theorem target_way {s : Sandbox} {p : Path} {dir : Place} {name : Bytes} {closed : Bool}
    (h : target s.tree s.current p = .ok (.named dir name closed)) :
    s.placeOf p = dir ++ [name] ∧ s.placeOf p ∈ s.way p ∧
      ∀ q ∈ s.way p, q = s.placeOf p ∨ s.tree.isDirectory q = true := by
  obtain ⟨start, hparts, hwalk, hh, hu⟩ := target_named h
  have hplace := target_place h
  have hway : s.way p = wayFrom (if p.isAbsolute then [] else s.current) start ++ [s.placeOf p] := by
    rw [way, hparts, wayFrom_append, ← walk_follow hwalk, ← hplace]
    simp [wayFrom, hh, hu, follow_plain hh hu]
  refine ⟨hplace.symm, by simp [hway], fun q hq => ?_⟩
  rw [hway, List.mem_append, List.mem_singleton] at hq
  rcases hq with hq | hq
  · exact .inr (walk_way hwalk hq)
  · exact .inl hq

-- ---------------------------------------------------------------------------
-- Trees that grow
-- ---------------------------------------------------------------------------

theorem lookup_filter_ne {κ α : Type} [BEq κ] [LawfulBEq κ] [DecidableEq κ]
    {entries : List (κ × α)} {a k : κ} :
    (entries.filter fun e => e.1 != a).lookup k = if k = a then none else entries.lookup k := by
  induction entries with
  | nil => simp
  | cons e entries ih =>
    obtain ⟨b, x⟩ := e
    by_cases hb : b = a
    · subst hb
      rw [List.filter_cons_of_neg (by simp), ih]
      by_cases hk : k = b
      · simp [hk]
      · have hne : (k == b) = false := by simpa using hk
        simp [hk, List.lookup_cons, hne]
    · rw [List.filter_cons_of_pos (by simpa using hb)]
      by_cases hk : k = b
      · simp [hk, hb]
      · have hne : (k == b) = false := by simpa using hk
        simp [List.lookup_cons, hne, ih]

theorem lookup_map_at {κ α : Type} [BEq κ] [LawfulBEq κ] [DecidableEq κ]
    {entries : List (κ × α)} {a k : κ} {x : α} :
    (entries.map fun e => if e.1 = a then (e.1, x) else e).lookup k =
      if k = a then (entries.lookup k).map fun _ => x else entries.lookup k := by
  induction entries with
  | nil => simp
  | cons e entries ih =>
    obtain ⟨b, y⟩ := e
    have hentry : (if b = a then (b, x) else (b, y)) = (b, if b = a then x else y) := by
      split <;> rfl
    by_cases hk : k = b
    · subst hk
      by_cases ha : k = a <;> simp [ha]
    · have hne : (k == b) = false := by simpa using hk
      simp only [List.map_cons, hentry, List.lookup_cons, hne]
      exact ih

theorem node?_remove {t : Tree} {place q : Place} (h : place ≠ []) :
    (t.remove place).node? q = if q = place then none else t.node? q := by
  by_cases hroot : q = []
  · simp [Tree.node?, hroot, h.symm]
  · simp [Tree.node?, hroot, Tree.remove, lookup_filter_ne]

/-- Directories were made at some of the places, and nothing else was done. -/
def Grown (places : List Place) (t t' : Tree) : Prop :=
  ∃ made : List Place, t'.entries = made.map (·, Node.directory) ++ t.entries ∧
    ∀ q ∈ made, q ∈ places ∧ t.node? q = none

namespace Grown

variable {places : List Place} {t t' : Tree} {q place : Place}

theorem refl : Grown places t t := ⟨[], rfl, by simp⟩

theorem node?_eq {made : List Place} (h : t'.entries = made.map (·, Node.directory) ++ t.entries)
    (hq : q ≠ []) : t'.node? q = if q ∈ made then some .directory else t.node? q := by
  have hmade : (made.map (·, Node.directory)).lookup q =
      if q ∈ made then some .directory else none := by
    clear h
    induction made with
    | nil => rfl
    | cons r made ih =>
      by_cases hr : q = r
      · simp [hr]
      · have hne : (q == r) = false := by simpa using hr
        simp [List.lookup_cons, hne, hr, ih]
  have hne : q.isEmpty = false := by simpa using hq
  simp only [Tree.node?, hne, h, List.lookup_append, hmade]
  by_cases hm : q ∈ made <;> simp [hm]

theorem add (h : Grown places t t') (hp : place ∈ places) (hfree : t'.node? place = none) :
    Grown places t (t'.add place .directory) := by
  obtain ⟨made, hentries, hmade⟩ := h
  refine ⟨place :: made, by simp [Tree.add, hentries], fun q hq => ?_⟩
  rcases List.mem_cons.mp hq with rfl | hq
  · have hne : q ≠ [] := by
      rintro rfl
      cases hfree
    rw [node?_eq hentries hne] at hfree
    split at hfree
    · cases hfree
    · exact ⟨hp, hfree⟩
  · exact hmade q hq

/-- What becomes of the tree when one of the places is removed again, while
the others hold directories. -/
theorem node?_removed (h : Grown places t t') (hplace : place ≠ [])
    (hall : ∀ q ∈ places, q = place ∨ t'.isDirectory q = true) :
    (t'.remove place).node? q = if q = place then none
      else if q ∈ places then some .directory else t.node? q := by
  rw [node?_remove hplace]
  split
  · rfl
  rename_i hq
  split
  · rename_i hmem
    simpa [Tree.isDirectory] using (hall q hmem).resolve_left hq
  · rename_i hmem
    obtain ⟨made, hentries, hmade⟩ := h
    by_cases hroot : q = []
    · rw [hroot]
      rfl
    · rw [node?_eq hentries hroot, if_neg fun hm => hmem (hmade q hm).1]

theorem remove_eq_iff (h : Grown places t t') (hplace : place ≠ [])
    (hall : ∀ q ∈ places, q = place ∨ t'.isDirectory q = true) :
    t'.remove place = t ↔
      t.node? place = none ∧ ∀ q ∈ places, q ≠ place → t.isDirectory q = true := by
  refine ⟨fun he => ⟨?_, fun q hq hne => ?_⟩, fun ⟨hfree, hkept⟩ => ?_⟩
  · rw [← he, node?_remove hplace, if_pos rfl]
  · have hnode := h.node?_removed (q := q) hplace hall
    rw [he, if_neg hne, if_pos hq] at hnode
    simp [Tree.isDirectory, hnode]
  · obtain ⟨made, hentries, hmade⟩ := h
    have hgone : (made.map (·, Node.directory)).filter (fun e => e.1 != place) = [] := by
      refine List.filter_eq_nil_iff.mpr fun e he => ?_
      obtain ⟨q, hq, rfl⟩ := List.mem_map.mp he
      obtain ⟨hmem, hnone⟩ := hmade q hq
      intro hne
      have hdirectory := hkept q hmem (by simpa using hne)
      simp [Tree.isDirectory, hnone] at hdirectory
    have hlookup : t.entries.lookup place = none := by
      simpa [Tree.node?, hplace] using hfree
    have hrest : t.entries.filter (fun e => e.1 != place) = t.entries := by
      refine List.filter_eq_self.mpr fun e he => ?_
      have hne := List.lookup_eq_none_iff.mp hlookup e he
      rw [bne_comm]
      exact hne
    have hremoved : (t'.remove place).entries = t.entries := by
      simp only [Tree.remove, hentries, List.filter_append]
      rw [hgone, hrest, List.nil_append]
    exact congrArg Tree.mk hremoved

end Grown

-- ---------------------------------------------------------------------------
-- Directories of the machine
-- ---------------------------------------------------------------------------

theorem onTree_triple {α : Type} {call : Tree → Place → Except IoError (α × Tree)} {s : Sandbox}
    {Q : α → Sandbox → Prop} {E : IoError → Sandbox → Prop}
    (hq : ∀ a tree, call s.tree s.current = .ok (a, tree) → Q a { s with tree })
    (he : ∀ e, E e s) : Triple (onTree call) s Q E := by
  unfold Triple onTree
  cases hx : call s.tree s.current with
  | error e => exact he e
  | ok r => exact hq r.1 r.2 hx

theorem makeDirectory_triple {p : Path} {s : Sandbox} :
    Triple (makeDirectory p) s
      (fun _ s' => s.placeOf p ∈ s.way p ∧ s.tree.node? (s.placeOf p) = none ∧
        s' = { s with tree := s.tree.add (s.placeOf p) .directory })
      (fun _ s' => s' = s) := by
  refine onTree_triple (fun _ tree hcall => ?_) fun _ => rfl
  generalize htarget : target s.tree s.current p = r at hcall
  cases r with
  | error e => cases hcall
  | ok found =>
    cases found with
    | named dir name closed =>
      obtain ⟨hplace, hway, -⟩ := target_way htarget
      rw [hplace] at hway ⊢
      cases hnode : s.tree.node? (dir ++ [name]) with
      | some node =>
        simp only [bind, Except.bind, hnode] at hcall
        cases hcall
      | none =>
        simp only [bind, Except.bind, hnode] at hcall
        cases hcall
        exact ⟨hway, rfl, rfl⟩
    | root => cases hcall
    | here => cases hcall
    | up => cases hcall

theorem removeDirectory_triple {p : Path} {s : Sandbox} :
    Triple (removeDirectory p) s
      (fun _ s' => s.placeOf p ≠ [] ∧
        (∀ q ∈ s.way p, q = s.placeOf p ∨ s.tree.isDirectory q = true) ∧
        s' = { s with tree := s.tree.remove (s.placeOf p) })
      (fun _ s' => s' = s) := by
  refine onTree_triple (fun _ tree hcall => ?_) fun _ => rfl
  generalize htarget : target s.tree s.current p = r at hcall
  cases r with
  | error e => cases hcall
  | ok found =>
    cases found with
    | named dir name closed =>
      obtain ⟨hplace, -, hall⟩ := target_way htarget
      rw [hplace] at hall ⊢
      cases hnode : s.tree.node? (dir ++ [name]) with
      | none =>
        simp only [bind, Except.bind, hnode] at hcall
        cases hcall
      | some node =>
        cases node with
        | directory =>
          simp only [bind, Except.bind, hnode] at hcall
          split at hcall
          · cases hcall
            exact ⟨by simp, hall, rfl⟩
          · cases hcall
        | file f =>
          simp only [bind, Except.bind, hnode] at hcall
          cases hcall
        | null =>
          simp only [bind, Except.bind, hnode] at hcall
          cases hcall
    | root => cases hcall
    | here => cases hcall
    | up => cases hcall

/-- From `s₀` on, directories were made on the way to a path. -/
structure Paved (s₀ : Sandbox) (p : Path) (s : Sandbox) : Prop where
  current : s.current = s₀.current
  grown : Grown (s₀.way p) s₀.tree s.tree

theorem makeDirectories_paved {s₀ : Sandbox} {p : Path} :
    Keeps (Paved s₀ p) (fun _ => True) (host.makeDirectories p) := by
  refine Host.makeFirst_keeps fun a ha s hs => ?_
  have hway : s.way a = s₀.way a := by simp only [way, hs.current]
  refine Triple.mono makeDirectory_triple ?_ ?_
  · rintro _ _ ⟨hmem, hfree, rfl⟩
    exact ⟨hs.current, hs.grown.add (way_ancestor ha (hway ▸ hmem)) hfree⟩
  · rintro _ _ rfl
    exact ⟨hs, trivial⟩

/-- What a directory that was made, or found, and then given up leaves of a tree:
itself it is gone, what is on the way to it stays. -/
structure Remains (s₀ : Sandbox) (p : Path) (t : Tree) : Prop where
  node?_eq : s₀.isDirectory p = false → ∀ q, t.node? q =
    if q = s₀.placeOf p then none
    else if q ∈ s₀.way p then some .directory else s₀.tree.node? q
  restored_iff : t = s₀.tree ↔ s₀.isDirectory p = true ∨ s₀.tree.node? (s₀.placeOf p) = none ∧
    ∀ q ∈ s₀.way p, q ≠ s₀.placeOf p → s₀.tree.isDirectory q = true

theorem Remains.of_present {s₀ : Sandbox} {p : Path} (h : s₀.isDirectory p = true) :
    Remains s₀ p s₀.tree where
  node?_eq hmissing := by simp [h] at hmissing
  restored_iff := by simp [h]

theorem removeDirectory_remains {s₀ s : Sandbox} {p : Path} (hs : Paved s₀ p s)
    (hmissing : s₀.isDirectory p = false) :
    Triple (removeDirectory p) s (fun _ s' => Remains s₀ p s'.tree) (fun _ _ => True) := by
  have hway : s.way p = s₀.way p := by simp only [way, hs.current]
  have hplace : s.placeOf p = s₀.placeOf p := by simp only [placeOf, hs.current]
  refine Triple.mono removeDirectory_triple ?_ fun _ _ _ => trivial
  rintro _ _ ⟨hne, hall, rfl⟩
  rw [hway, hplace] at hall
  rw [hplace] at hne ⊢
  refine ⟨fun _ q => hs.grown.node?_removed hne hall, ?_⟩
  simp only [hmissing, Bool.false_eq_true, false_or]
  exact hs.grown.remove_eq_iff hne hall

-- ---------------------------------------------------------------------------
-- Files with other content
-- ---------------------------------------------------------------------------

section
variable {t : Tree} {current place : Place} {p : Path} {f : File} {content : ByteArray}

theorem node?_setContent (h : t.node? place = some (.file f)) {q : Place} :
    (t.setContent place content).node? q =
      if q = place then some (.file { f with content }) else t.node? q := by
  have hne : place ≠ [] := by
    rintro rfl
    cases h
  have hlookup : t.entries.lookup place = some (.file f) := by
    simpa [Tree.node?, hne] using h
  have hreplaced : t.setContent place content = t.replace place (.file { f with content }) := by
    simp only [Tree.setContent, Tree.file?, h]
  by_cases hq : q = []
  · simp [hq, Tree.node?, hne.symm]
  · have hsome : ∀ tree : Tree, tree.node? q = tree.entries.lookup q := fun tree => by
      simp [Tree.node?, hq]
    rw [hsome, hsome, hreplaced, Tree.replace, lookup_map_at]
    split
    · rename_i hplace
      rw [hplace, hlookup]
      rfl
    · rfl

variable (h : t.node? place = some (.file f))
include h

theorem walk_setContent {names : List Bytes} {dir : Place} :
    walk (t.setContent place content) dir names = walk t dir names := by
  induction names generalizing dir with
  | nil => rfl
  | cons name names ih =>
    rw [walk, walk, ih, ih, node?_setContent h]
    by_cases hp : dir ++ [name] = place
    · rw [if_pos hp, hp, h]
    · rw [if_neg hp, ih]

theorem target_setContent : target (t.setContent place content) current p = target t current p := by
  simp only [target, walk_setContent h]

end

theorem find_file_iff {t : Tree} {current place : Place} {p : Path} {f : File} :
    find t current p = .ok (place, .file f) ↔
      (∃ dir name, target t current p = .ok (.named dir name false) ∧ dir ++ [name] = place) ∧
        t.node? place = some (.file f) := by
  unfold find
  constructor
  · intro h
    generalize htarget : target t current p = r at h
    cases r with
    | error e => cases h
    | ok found =>
      cases found with
      | named dir name closed =>
        cases hnode : t.node? (dir ++ [name]) with
        | none =>
          simp only [bind, Except.bind, hnode] at h
          cases h
        | some node =>
          simp only [bind, Except.bind, hnode] at h
          cases node with
          | directory => cases h
          | file g =>
            cases closed with
            | true => cases h
            | false =>
              cases h
              exact ⟨⟨dir, name, rfl, rfl⟩, hnode⟩
          | null => cases closed <;> cases h
      | root => cases h
      | here => cases h
      | up => cases h
  · rintro ⟨⟨dir, name, htarget, rfl⟩, hnode⟩
    simp only [htarget, bind, Except.bind, hnode]
    rfl

/-- A file is found as before when its content is replaced. -/
theorem find_setContent {t : Tree} {current place : Place} {p : Path} {f : File}
    {content : ByteArray} (h : find t current p = .ok (place, .file f)) :
    find (t.setContent place content) current p = .ok (place, .file { f with content }) := by
  obtain ⟨htarget, hnode⟩ := find_file_iff.mp h
  refine find_file_iff.mpr ⟨?_, ?_⟩
  · rw [target_setContent hnode]
    exact htarget
  · rw [node?_setContent hnode, if_pos rfl]

-- ---------------------------------------------------------------------------
-- Calls that leave the tree alone
-- ---------------------------------------------------------------------------

section
variable {K : Sandbox → Prop} (hK : ∀ s s', s'.tree = s.tree → s'.current = s.current → K s → K s')
include hK

theorem startTool_keeps (c : ToolCommand) : Keeps K (fun _ => True) (startTool c) := by
  intro s hs
  unfold Triple
  generalize hx : startTool c s = x
  unfold startTool at hx
  split at hx <;> subst hx
  · exact hK s _ rfl rfl hs
  · exact ⟨hs, trivial⟩

theorem feedTool_keeps (input : Bytes) : Keeps K (fun _ => True) (feedTool input) := by
  intro s hs
  unfold Triple
  generalize hx : feedTool input s = x
  unfold feedTool at hx
  split at hx
  · subst hx
    exact hK s _ rfl rfl hs
  split at hx <;> subst hx
  · exact ⟨hs, trivial⟩
  · exact hs

theorem waitTool_keeps : Keeps K (fun _ => True) waitTool := by
  intro s hs
  unfold Triple
  generalize hx : waitTool s = x
  unfold waitTool at hx
  split at hx
  · dsimp only at hx
    split at hx <;> subst hx <;> exact hK s _ rfl rfl hs
  · subst hx
    exact hK s _ rfl rfl hs
  · subst hx
    exact ⟨hs, trivial⟩

theorem run_keeps (r : ToolRun) : Keeps K (fun _ => True) (host.run r) := by
  have hfeed : Keeps K (fun _ => True) (host.feedInput r.input) := by
    cases r.input with
    | none => exact .pure
    | some input => exact feedTool_keeps hK input
  exact .bind (startTool_keeps hK _) fun _ => .bind hfeed fun _ => waitTool_keeps hK

theorem mount_keeps (c : MountCall) : Keeps K (fun _ => True) (mount c) := by
  intro s hs
  unfold Triple
  generalize hx : mount c s = x
  unfold mount kernelAnswer at hx
  split at hx <;> subst hx
  · exact ⟨hK s _ rfl rfl hs, trivial⟩
  · exact hK s _ rfl rfl hs

end

end Linux.Sandbox

end EmmcVault
