import EmmcVault.Proofs.Twin
import Mathlib.Data.List.Forall2

/-!
# Runs that differ in their passphrases

Two requests are alike when an observer of the system cannot tell from them
which passphrases are handled: the same tool with the same arguments, the same
file made with the same permissions. The path of a key file is chosen at
random, and what a tool reads from its standard input or from the key file is
not observed.

Where the system does not look at secrets either, and tools and files take one
passphrase where they take another, the operations that take a passphrase make
alike requests and end alike, whatever the passphrase.
-/

namespace EmmcVault.Linux

open Text

variable {σ η α α' : Type}

/-- The same tool with the same arguments; where the last is a key file, it may
have another name. `N` relates the paths of key files. -/
inductive ToolCommand.Alike (N : Path → Path → Prop) : ToolCommand → ToolCommand → Prop
  | same {c} : Alike N c c
  | keyed {program args piped} {key key' : Path} (hn : N key key') :
      Alike N { program, args := args ++ [key.octets], piped }
        { program, args := args ++ [key'.octets], piped }

/-- The same run but for what the tool reads. `P` relates the passphrases on
standard input. -/
structure ToolRun.Alike (N : Path → Path → Prop) (P : Bytes → Bytes → Prop) (r r' : ToolRun) :
    Prop where
  command : r.command.Alike N r'.command
  input : Option.Rel P r.input r'.input

theorem ToolRun.Alike.program {N : Path → Path → Prop} {P : Bytes → Bytes → Prop} {r r' : ToolRun}
    (h : ToolRun.Alike N P r r') : r.program = r'.program := by
  have hprogram : ∀ {c c'}, ToolCommand.Alike N c c' → c.program = c'.program := by
    rintro c c' (_ | _) <;> rfl
  exact hprogram h.command

inductive HostCall.Alike (N : Path → Path → Prop) (P : Bytes → Bytes → Prop) :
    HostCall → HostCall → Prop
  | start {c c'} (h : ToolCommand.Alike N c c') : Alike N P (.start c) (.start c')
  | feed {input input'} (h : P input input') : Alike N P (.feed input) (.feed input')
  | wait : Alike N P .wait .wait
  | createFile {key key' permissions} (hn : N key key') :
      Alike N P (.createFile key permissions) (.createFile key' permissions)
  | writeFile {key key' contents contents'} (hn : N key key') :
      Alike N P (.writeFile key contents) (.writeFile key' contents')
  | removeFile {key key'} (hn : N key key') : Alike N P (.removeFile key) (.removeFile key')

/-- Logs of alike calls, on worlds that `R` relates. -/
structure Logged.Alike (R : σ → σ → Prop) (N : Path → Path → Prop) (P : Bytes → Bytes → Prop)
    (s s' : Logged σ) : Prop where
  world : R s.world s'.world
  calls : List.Forall₂ (HostCall.Alike N P) s.calls s'.calls

/-- Why a path that is not text cannot be an argument. -/
def notText (path : Path) : SystemError :=
  .operationFailed s!"non UTF-8 path {Utf8.quoted path.octets}"

/-- The same failure, but for a path that its text names. -/
inductive SameText {ε : Type} (N : Path → Path → Prop) (text : Path → ε) : ε → ε → Prop
  | same {e} : SameText N text e e
  | naming {p p'} (hn : N p p') : SameText N text (text p) (text p')

theorem SameText.map {ε ε' : Type} {N : Path → Path → Prop} {text : Path → ε} {e e' : ε}
    (he : SameText N text e e') (f : ε → ε') : SameText N (fun p => f (text p)) (f e) (f e') := by
  cases he with
  | same => exact .same
  | naming hn => exact .naming hn

/-- A system that answers alike requests alike in worlds that `R` relates. Files
with secrets differ between such worlds in their names and in what they hold;
`F` relates the secrets that are written to them. -/
structure Host.Blind (h : Host σ η) (R : σ → σ → Prop) (N : Path → Path → Prop)
    (P F : Bytes → Bytes → Prop) : Prop where
  temporaryPath : ∀ w w', R w w' → N (h.temporaryPath w) (h.temporaryPath w')
  /-- Random names do not differ in whether they are text. -/
  text : ∀ p p', N p p' → p.text?.isSome = p'.text?.isSome
  start : ∀ c c', ToolCommand.Alike N c c' → Twin R Eq Eq (h.start c) (h.start c')
  /-- A tool takes either passphrase as a whole, or neither. -/
  feed : ∀ input input', P input input' → Twin R Eq Eq (h.feed input) (h.feed input')
  wait : Twin R Eq Eq h.wait h.wait
  createFile : ∀ p p' permissions, N p p' →
    Twin R Eq Eq (h.createFile p permissions) (h.createFile p' permissions)
  /-- Either secret is written as a whole, or neither. -/
  writeFile : ∀ p p' secret secret', N p p' → F secret secret' →
    Twin R Eq Eq (h.writeFile p secret) (h.writeFile p' secret')
  /-- Zeros in place of a secret tell nothing, whether or not they are written. -/
  scrub : ∀ w w' p p' length length', R w w' → N p p' →
    R (settled (h.writeFile p (List.replicate length 0)) w)
      (settled (h.writeFile p' (List.replicate length' 0)) w')
  removeFile : ∀ p p', N p p' → Twin R Eq Eq (h.removeFile p) (h.removeFile p')
  fileLength : ∀ w w' p p', R w w' → N p p' →
    (h.fileLength w p).isSome = (h.fileLength w' p').isSome

variable {h : Host σ η} {R : σ → σ → Prop} {N : Path → Path → Prop} {P F : Bytes → Bytes → Prop}

theorem Logged.log_twin {ε : Type} {E : ε → ε → Prop} {V : α → α' → Prop} {c c' : HostCall}
    {x : EStateM ε σ α} {x' : EStateM ε σ α'} (hc : HostCall.Alike N P c c')
    (hx : Twin R E V x x') :
    Twin (Logged.Alike R N P) E V (Logged.log c x) (Logged.log c' x') := by
  intro s s' hr
  have hcalls := List.rel_append hr.calls (List.Forall₂.cons hc .nil)
  unfold Logged.log
  obtain ⟨_, _, _, _, hx, hx', hv, ht⟩ | ⟨_, _, _, _, hx, hx', he, ht⟩ := hx.cases hr.world
  · rw [hx, hx']
    exact .ok hv ⟨ht, hcalls⟩
  · rw [hx, hx']
    exact .error he ⟨ht, hcalls⟩

theorem Logged.Alike.log {s s' : Logged σ} {c c' : HostCall} {call : EStateM ε σ α}
    {call' : EStateM ε σ α'} (hr : Logged.Alike R N P s s') (hc : HostCall.Alike N P c c')
    (hw : R (settled call s.world) (settled call' s'.world)) :
    Logged.Alike R N P (settled (log c call) s) (settled (log c' call') s') := by
  rw [settled_log, settled_log]
  exact ⟨hw, List.rel_append hr.calls (.cons hc .nil)⟩

theorem Host.Blind.logged (hb : h.Blind R N P F) :
    h.logged.Blind (Logged.Alike R N P) N P F where
  temporaryPath _ _ hr := hb.temporaryPath _ _ hr.world
  text := hb.text
  start _ _ hc := Logged.log_twin (.start hc) (hb.start _ _ hc)
  feed _ _ hp := Logged.log_twin (.feed hp) (hb.feed _ _ hp)
  wait := Logged.log_twin .wait hb.wait
  createFile _ _ _ hn := Logged.log_twin (.createFile hn) (hb.createFile _ _ _ hn)
  writeFile _ _ _ _ hn hf := Logged.log_twin (.writeFile hn) (hb.writeFile _ _ _ _ hn hf)
  scrub _ _ _ _ _ _ hr hn := hr.log (.writeFile hn) (hb.scrub _ _ _ _ _ _ hr.world hn)
  removeFile _ _ hn := Logged.log_twin (.removeFile hn) (hb.removeFile _ _ hn)
  fileLength _ _ _ _ hr hn := hb.fileLength _ _ _ _ hr.world hn

-- ---------------------------------------------------------------------------
-- Tools and key files
-- ---------------------------------------------------------------------------

theorem ToolRun.Alike.plain {program : String} {args : List Bytes} {input input' : Bytes}
    (hp : P input input') :
    ToolRun.Alike N P ⟨program, args, some input⟩ ⟨program, args, some input'⟩ :=
  ⟨.same, .some hp⟩

theorem ToolRun.Alike.keyArgument {program : String} {args : List String} {arg input input' : Bytes}
    {key key' : Path} (hp : P input input') (hn : N key key') :
    ToolRun.Alike N P (Cryptsetup.toolRun program args [arg, key.octets] (some input))
      (Cryptsetup.toolRun program args [arg, key'.octets] (some input')) := by
  have hargs (p : Path) : args.map Utf8.encode ++ [arg, p.octets] =
      (args.map Utf8.encode ++ [arg]) ++ [p.octets] := by simp
  simp only [Cryptsetup.toolRun, hargs]
  exact ⟨.keyed hn, .some hp⟩

theorem pathArg_twin {E : SystemError → SystemError → Prop} {p p' : Path}
    (ht : p.text?.isSome = p'.text?.isSome) (he : E (notText p) (notText p')) :
    Twin R E (fun arg arg' => arg = p.octets ∧ arg' = p'.octets) (Cryptsetup.pathArg p)
      (Cryptsetup.pathArg p') := by
  unfold Cryptsetup.pathArg
  rw [ht]
  split
  · exact Twin.pure ⟨rfl, rfl⟩
  · exact Twin.throw he

namespace Host.Blind

variable (hb : h.Blind R N P F)
include hb

theorem run {r r' : ToolRun} (hr : ToolRun.Alike N P r r') :
    Twin R Eq Eq (h.run r) (h.run r') := by
  obtain ⟨program, args, input⟩ := r
  obtain ⟨program', args', input'⟩ := r'
  refine Twin.bind (hb.start _ _ hr.command) fun _ _ _ => ?_
  refine Twin.bind (V := Eq) ?_ fun _ _ _ => hb.wait
  cases hr.input with
  | some hp => exact hb.feed _ _ hp
  | none => exact Twin.pure rfl

theorem runChecked {r r' : ToolRun} (hr : ToolRun.Alike N P r r') :
    Twin R Eq Eq (h.runChecked r) (h.runChecked r') := by
  unfold Host.runChecked Host.report
  refine Twin.bind (V := Eq) ?_ ?_
  · refine Twin.bind (V := Eq) ?_ ?_
    · exact Twin.adaptExcept (hb.run hr) fun _ _ he => congrArg _ he
    · rintro out _ rfl
      exact Twin.pure rfl
  · rintro report _ rfl
    rw [hr.program]
    split
    · exact Twin.pure rfl
    · exact Twin.throw rfl

theorem shred {p p' : Path} {w w' : σ} (hn : N p p') (hr : R w w') :
    R (h.shred p w) (h.shred p' w') := by
  unfold Host.shred
  refine Twin.settled (hb.removeFile _ _ hn) ?_
  -- Zeros are written in both worlds or in none, as many as each secret is long.
  have hlength := hb.fileLength _ _ _ _ hr hn
  cases hl : h.fileLength w p <;> cases hl' : h.fileLength w' p' <;> rw [hl, hl'] at hlength
  · exact hr
  · cases hlength
  · cases hlength
  · exact hb.scrub _ _ _ _ _ _ hr hn

theorem withSecret {E : SystemError → SystemError → Prop} {V : α → α' → Prop}
    {body : Path → SystemTask σ α} {body' : Path → SystemTask σ α'} {secret secret' : Bytes}
    (hf : F secret secret') (he : ∀ e, E e e) (hbody : ∀ p p', N p p' → Twin R E V (body p) (body' p')) :
    Twin R E V (h.withSecret secret body) (h.withSecret secret' body') := by
  intro w w' hr
  have hn := hb.temporaryPath w w' hr
  unfold Host.withSecret
  obtain ⟨_, _, w₁, w₁', hx, hx', -, hr₁⟩ | ⟨e, _, w₁, w₁', hx, hx', rfl, hr₁⟩ :=
    (hb.createFile _ _ ownerOnly hn).cases hr
  · have hrest : Twin R E V
        (do (h.writeFile (h.temporaryPath w) secret).adaptExcept SystemError.io
            body (h.temporaryPath w))
        (do (h.writeFile (h.temporaryPath w') secret').adaptExcept SystemError.io
            body' (h.temporaryPath w')) :=
      Twin.bind (Twin.adaptExcept (hb.writeFile _ _ _ _ hn hf) fun e _ h => h ▸ he (.io e))
        fun _ _ _ => hbody _ _ hn
    obtain ⟨_, _, _, _, hy, hy', hv, hr₂⟩ | ⟨_, _, _, _, hy, hy', hf, hr₂⟩ := hrest.cases hr₁
    · simp only [hx, hx', hy, hy']
      exact .ok hv (hb.shred hn hr₂)
    · simp only [hx, hx', hy, hy']
      exact .error hf (hb.shred hn hr₂)
  · simp only [hx, hx']
    exact .error (he _) hr₁

-- ---------------------------------------------------------------------------
-- Headers and mappings
-- ---------------------------------------------------------------------------

variable {program : String} {device : Path}

theorem writeHeader {params : EncryptionParams} {passphrase passphrase' : Bytes}
    (hp : P passphrase passphrase') :
    Twin R Eq (fun _ _ => True) (Cryptsetup.writeHeader h program device params passphrase)
      (Cryptsetup.writeHeader h program device params passphrase') := by
  unfold Cryptsetup.writeHeader Cryptsetup.run
  refine Twin.bind (pathArg_twin rfl rfl) ?_
  rintro _ _ ⟨rfl, rfl⟩
  exact Twin.bind (hb.runChecked (.plain hp)) fun _ _ _ => Twin.pure trivial

theorem activate {name : String} {passphrase passphrase' : Bytes}
    (hp : P passphrase passphrase') :
    Twin R Eq Eq (Cryptsetup.activate h program device name passphrase)
      (Cryptsetup.activate h program device name passphrase') := by
  unfold Cryptsetup.activate Cryptsetup.run
  refine Twin.bind (pathArg_twin rfl rfl) ?_
  rintro _ _ ⟨rfl, rfl⟩
  refine Twin.bind (hb.runChecked (.plain hp)) ?_
  rintro report _ rfl
  exact Twin.pure rfl

theorem changeKey {old old' new new' : Bytes} (hp : P old old') (hf : F new new') :
    Twin R (SameText N notText) Eq (Cryptsetup.changeKey h program device old new)
      (Cryptsetup.changeKey h program device old' new') := by
  unfold Cryptsetup.changeKey Cryptsetup.run
  refine Twin.bind (pathArg_twin rfl .same) ?_
  rintro _ _ ⟨rfl, rfl⟩
  refine Twin.bind (V := Eq) (hb.withSecret hf (fun _ => .same) fun p p' hn => ?_) ?_
  · refine Twin.bind (pathArg_twin (hb.text _ _ hn) (.naming hn)) ?_
    rintro _ _ ⟨rfl, rfl⟩
    exact Twin.mono (hb.runChecked (.keyArgument hp hn)) (fun _ _ he => he ▸ .same) fun _ _ hv => hv
  · rintro report _ rfl
    exact Twin.pure rfl

theorem addKeyslot {passphrase passphrase' : Bytes} (hp : P passphrase passphrase') :
    Twin (Session.Alike R) Eq Eq (Cryptsetup.addKeyslot h program device passphrase)
      (Cryptsetup.addKeyslot h program device passphrase') := by
  unfold Cryptsetup.addKeyslot
  refine Twin.bind (Twin.get (V := fun s s' => s.staged = s'.staged) fun _ _ hr => hr.staged) ?_
  intro s s' hs
  rw [hs]
  split
  · exact Twin.throw rfl
  · rename_i params _
    refine Twin.bind (Twin.modify fun _ _ hr => hr.stage device none) fun _ _ _ => ?_
    refine Twin.bind (V := fun _ _ => True) (Session.onWorld_twin ?_) fun _ _ _ => Twin.pure rfl
    exact SystemTask.serving_twin (hb.writeHeader hp) fun _ _ he => congrArg _ he

end Host.Blind

end EmmcVault.Linux
