import EmmcVault.Service.Program

/-!
# Passphrases written as lines

What is written one passphrase a line is read back octet for octet, whatever
the line ends, and each read takes one line and no more. A command takes as many
lines as it needs passphrases, in order; where one of them is empty or missing
there is no operation.
-/

namespace EmmcVault.Service

open Text

namespace Passphrase

/-- How a line ends; only at the end of an input there may be no line end. -/
inductive LineEnd where
  | feed
  | returnFeed
  | missing
deriving DecidableEq

def LineEnd.octets : LineEnd → Bytes
  | feed => [lineFeed]
  | returnFeed => [carriageReturn, lineFeed]
  | missing => []

/-- A passphrase on a line of its own. -/
structure InputLine where
  passphrase : Bytes
  ending : LineEnd
  nonempty : passphrase ≠ []
  noLineFeed : lineFeed ∉ passphrase
  noReturn : passphrase.getLast? ≠ some carriageReturn

def InputLine.octets (l : InputLine) : Bytes :=
  l.passphrase ++ l.ending.octets

def text (lines : List InputLine) : Bytes :=
  lines.flatMap InputLine.octets

theorem text_cons {l : InputLine} {lines : List InputLine} :
    text (l :: lines) = l.octets ++ text lines :=
  List.flatMap_cons

/-- The line that the input begins with is empty, or there is none. -/
inductive Lacking : Bytes → Prop
  | missing {returns} : (∀ b ∈ returns, b = carriageReturn) → Lacking returns
  | empty {returns rest} : (∀ b ∈ returns, b = carriageReturn) →
      Lacking (returns ++ lineFeed :: rest)

-- ---------------------------------------------------------------------------
-- One line
-- ---------------------------------------------------------------------------

theorem cutLine_of_notMem {line : Bytes} (h : lineFeed ∉ line) : cutLine line = (line, []) := by
  induction line with
  | nil => rfl
  | cons b line ih =>
    obtain ⟨hb, hline⟩ := not_or.mp (mt List.mem_cons.mpr h)
    rw [cutLine, if_neg (Ne.symm hb), ih hline]

theorem cutLine_lineFeed {line rest : Bytes} (h : lineFeed ∉ line) :
    cutLine (line ++ lineFeed :: rest) = (line ++ [lineFeed], rest) := by
  induction line with
  | nil => rfl
  | cons b line ih =>
    obtain ⟨hb, hline⟩ := not_or.mp (mt List.mem_cons.mpr h)
    rw [List.cons_append, cutLine, if_neg (Ne.symm hb), ih hline, List.cons_append]

theorem trimEnd_append {line ends : Bytes} (h : ∀ b ∈ ends, b = lineFeed ∨ b = carriageReturn) :
    trimEnd (line ++ ends) = trimEnd line := by
  rw [trimEnd, List.reverse_append, List.dropWhile_append_of_pos, trimEnd]
  intro b hb
  simpa using h b (List.mem_reverse.mp hb)

theorem InputLine.trimEnd_passphrase (l : InputLine) : trimEnd l.passphrase = l.passphrase := by
  obtain ⟨start, b, hp⟩ : ∃ start b, l.passphrase = start ++ [b] :=
    ⟨_, _, (List.dropLast_concat_getLast l.nonempty).symm⟩
  have hfeed : b ≠ lineFeed := fun hb => l.noLineFeed (by simp [hp, hb])
  have hreturn : b ≠ carriageReturn := fun hb => l.noReturn (by simp [hp, hb])
  rw [trimEnd, hp, List.reverse_append, List.reverse_singleton, List.singleton_append,
    List.dropWhile_cons_of_neg (by simp [hfeed, hreturn])]
  simp

/-- The next line is read without its line end, and what follows it is left. -/
theorem next?_of_cutLine {input line ends rest : Bytes}
    (hcut : cutLine input = (line ++ ends, rest))
    (hends : ∀ b ∈ ends, b = lineFeed ∨ b = carriageReturn) :
    next? input = if (trimEnd line).isEmpty then none else some (trimEnd line, rest) := by
  rw [next?, hcut]
  simp only [trimEnd_append hends]

theorem InputLine.cutLine_octets (l : InputLine) {rest : Bytes}
    (h : l.ending = .missing → rest = []) :
    cutLine (l.octets ++ rest) = (l.octets, rest) := by
  unfold InputLine.octets
  cases he : l.ending with
  | feed =>
    rw [List.append_assoc]
    exact cutLine_lineFeed l.noLineFeed
  | returnFeed =>
    have hline : lineFeed ∉ l.passphrase ++ [carriageReturn] := by
      simpa using ⟨l.noLineFeed, by decide⟩
    simpa [LineEnd.octets] using @cutLine_lineFeed _ rest hline
  | missing =>
    simpa [LineEnd.octets, h he] using cutLine_of_notMem l.noLineFeed

theorem LineEnd.mem_octets {e : LineEnd} : ∀ b ∈ e.octets, b = lineFeed ∨ b = carriageReturn := by
  cases e <;> simp [octets]

theorem InputLine.next?_octets (l : InputLine) {rest : Bytes}
    (h : l.ending = .missing → rest = []) :
    next? (l.octets ++ rest) = some (l.passphrase, rest) := by
  rw [next?_of_cutLine (l.cutLine_octets h) LineEnd.mem_octets, l.trimEnd_passphrase,
    if_neg (by simpa using l.nonempty)]

theorem Lacking.next?_eq_none {input : Bytes} (h : Lacking input) : next? input = none := by
  obtain ⟨rest, ends, hcut, hends⟩ : ∃ rest ends, cutLine input = ([] ++ ends, rest) ∧
      ∀ b ∈ ends, b = lineFeed ∨ b = carriageReturn := by
    cases h with
    | missing hreturns =>
      refine ⟨_, _, cutLine_of_notMem fun hm => ?_, fun b hb => .inr (hreturns b hb)⟩
      exact absurd (hreturns _ hm) (by decide)
    | empty hreturns =>
      refine ⟨_, _, cutLine_lineFeed fun hm => ?_, ?_⟩
      · exact absurd (hreturns _ hm) (by decide)
      · simpa using fun b hb => hb.elim (fun hb => .inr (hreturns b hb)) .inl
  exact next?_of_cutLine hcut hends

end Passphrase

open Passphrase

-- ---------------------------------------------------------------------------
-- Successive reads
-- ---------------------------------------------------------------------------

theorem takePassphrase_line (l : InputLine) {rest : Bytes} (h : l.ending = .missing → rest = []) :
    takePassphrase (l.octets ++ rest) = .ok (l.passphrase, rest) := by
  rw [takePassphrase, l.next?_octets h]

theorem takePassphrase_lacking {input : Bytes} (h : Lacking input) :
    takePassphrase input = .error .emptyPassphrase := by
  rw [takePassphrase, h.next?_eq_none]

/-- So many passphrases from the input, in order, and what follows them. -/
def takePassphrases : Nat → Bytes → Except ServiceError (List Bytes × Bytes)
  | 0, input => .ok ([], input)
  | n + 1, input => do
    let (passphrase, rest) ← takePassphrase input
    let (passphrases, rest) ← takePassphrases n rest
    return (passphrase :: passphrases, rest)

theorem takePassphrases_succ_ok {n : Nat} {input rest : Bytes} {ps : List Bytes}
    (h : takePassphrases (n + 1) input = .ok (ps, rest)) : ∃ p mid qs, ps = p :: qs ∧
      takePassphrase input = .ok (p, mid) ∧ takePassphrases n mid = .ok (qs, rest) := by
  rw [takePassphrases] at h
  cases hp : takePassphrase input with
  | error e =>
    rw [hp] at h
    cases h
  | ok found =>
    obtain ⟨p, mid⟩ := found
    cases hqs : takePassphrases n mid with
    | error e =>
      simp only [hp, bind, Except.bind, hqs] at h
      cases h
    | ok found =>
      simp only [hp, bind, Except.bind, hqs] at h
      cases h
      exact ⟨p, mid, _, rfl, rfl, hqs⟩

theorem takePassphrases_succ_error {n : Nat} {input : Bytes} {e : ServiceError}
    (h : takePassphrases (n + 1) input = .error e) : takePassphrase input = .error e ∨
      ∃ p mid, takePassphrase input = .ok (p, mid) ∧ takePassphrases n mid = .error e := by
  rw [takePassphrases] at h
  cases hp : takePassphrase input with
  | error e' =>
    rw [hp] at h
    cases h
    exact .inl rfl
  | ok found =>
    obtain ⟨p, mid⟩ := found
    refine .inr ⟨p, mid, rfl, ?_⟩
    cases hqs : takePassphrases n mid with
    | error e' =>
      simp only [hp, bind, Except.bind, hqs] at h
      cases h
      rfl
    | ok found =>
      simp only [hp, bind, Except.bind, hqs] at h
      cases h

/-- A line without a line end has nothing behind it. -/
def Passphrase.Terminated : List InputLine → Bytes → Prop
  | [], _ => True
  | l :: lines, tail => (l.ending = .missing → text lines ++ tail = []) ∧ Terminated lines tail

section
variable {lines : List InputLine} {tail : Bytes} {n : Nat}

theorem Passphrase.terminated_of_dropLast (h : ∀ l ∈ lines.dropLast, l.ending ≠ .missing) :
    Terminated lines [] := by
  induction lines with
  | nil => trivial
  | cons l lines ih =>
    cases lines with
    | nil => exact ⟨fun _ => rfl, trivial⟩
    | cons m lines =>
      rw [List.dropLast_cons_cons, List.forall_mem_cons] at h
      exact ⟨fun hmissing => absurd hmissing h.1, ih h.2⟩

theorem Passphrase.terminated_of_forall (h : ∀ l ∈ lines, l.ending ≠ .missing) :
    Terminated lines tail := by
  induction lines with
  | nil => trivial
  | cons l lines ih =>
    rw [List.forall_mem_cons] at h
    exact ⟨fun hmissing => absurd hmissing h.1, ih h.2⟩

theorem takePassphrases_cons {l : InputLine} (h : Terminated (l :: lines) tail) :
    takePassphrases (n + 1) (text (l :: lines) ++ tail) =
      (takePassphrases n (text lines ++ tail)).map fun found =>
        (l.passphrase :: found.1, found.2) := by
  rw [takePassphrases, text_cons, List.append_assoc, takePassphrase_line l h.1]
  rfl

theorem takePassphrases_text (h : Terminated lines tail) (hn : n ≤ lines.length) :
    takePassphrases n (text lines ++ tail) =
      .ok ((lines.take n).map InputLine.passphrase, text (lines.drop n) ++ tail) := by
  induction lines generalizing n with
  | nil =>
    obtain rfl := Nat.le_zero.mp hn
    rfl
  | cons l lines ih =>
    cases n with
    | zero => rfl
    | succ n =>
      rw [takePassphrases_cons h, ih h.2 (Nat.le_of_succ_le_succ hn)]
      rfl

theorem takePassphrases_lacking (h : Terminated lines tail) (htail : Lacking tail)
    (hn : lines.length < n) :
    takePassphrases n (text lines ++ tail) = .error .emptyPassphrase := by
  induction lines generalizing n with
  | nil =>
    obtain ⟨n, rfl⟩ := Nat.exists_eq_succ_of_ne_zero (Nat.ne_of_gt hn)
    rw [takePassphrases, text, List.flatMap_nil, List.nil_append, takePassphrase_lacking htail]
    rfl
  | cons l lines ih =>
    obtain ⟨n, rfl⟩ := Nat.exists_eq_succ_of_ne_zero (Nat.ne_of_gt (Nat.zero_lt_of_lt hn))
    rw [takePassphrases_cons h, ih h.2 (Nat.lt_of_succ_lt_succ hn)]
    rfl

end

-- ---------------------------------------------------------------------------
-- Commands
-- ---------------------------------------------------------------------------

namespace Command

/-- How many passphrases a command needs. -/
def passphrases : Command → Nat
  | format _ | unlock => 1
  | changePassword => 2
  | status | lock | erase _ | bkops => 0

/-- The operation that a command stands for, given its passphrases in order. -/
inductive Becomes : Command → List Bytes → Operation → Prop
  | status : Becomes status [] .refresh
  | format {t password} : Becomes (format t) [password] (.format password t)
  | unlock {password} : Becomes unlock [password] (.unlock password)
  | lock : Becomes lock [] .lock
  | changePassword {old new} : Becomes changePassword [old, new] (.changePassword old new)
  | erase {request} : Becomes (erase request) [] (.erase request)
  | bkops : Becomes bkops [] .enableBkops

variable {c : Command} {input rest : Bytes} {ps : List Bytes} {e : ServiceError}

theorem operation_of_ok (h : takePassphrases c.passphrases input = .ok (ps, rest)) :
    ∃ operation, c.Becomes ps operation ∧ c.operation input = .ok (operation, rest) := by
  cases c with
  | format t =>
    obtain ⟨p, mid, _, rfl, hp, hrest⟩ := takePassphrases_succ_ok h
    cases hrest
    exact ⟨_, .format, by rw [operation, hp]; rfl⟩
  | unlock =>
    obtain ⟨p, mid, _, rfl, hp, hrest⟩ := takePassphrases_succ_ok h
    cases hrest
    exact ⟨_, .unlock, by rw [operation, hp]; rfl⟩
  | changePassword =>
    obtain ⟨old, mid, _, rfl, hold, hmid⟩ := takePassphrases_succ_ok h
    obtain ⟨new, _, _, rfl, hnew, hrest⟩ := takePassphrases_succ_ok hmid
    cases hrest
    exact ⟨_, .changePassword, by simp only [operation, hold, bind, Except.bind, hnew]; rfl⟩
  | status =>
    cases h
    exact ⟨_, .status, rfl⟩
  | lock =>
    cases h
    exact ⟨_, .lock, rfl⟩
  | erase request =>
    cases h
    exact ⟨_, .erase, rfl⟩
  | bkops =>
    cases h
    exact ⟨_, .bkops, rfl⟩

theorem operation_of_error (h : takePassphrases c.passphrases input = .error e) :
    c.operation input = .error e := by
  cases c with
  | format t | unlock =>
    obtain hp | ⟨_, _, _, hrest⟩ := takePassphrases_succ_error h
    · rw [operation, hp]
      rfl
    · cases hrest
  | changePassword =>
    obtain hold | ⟨old, mid, hold, hmid⟩ := takePassphrases_succ_error h
    · rw [operation, hold]
      rfl
    · obtain hnew | ⟨_, _, _, hrest⟩ := takePassphrases_succ_error hmid
      · simp only [operation, hold, bind, Except.bind, hnew]
      · cases hrest
  | status | lock | erase request | bkops => cases h

end Command

/-- The input behind so many lines, whatever they hold. -/
def Passphrase.skipLines : Nat → Bytes → Bytes
  | 0, input => input
  | n + 1, input => skipLines n (cutLine input).2

theorem takePassphrase_rest {input passphrase rest : Bytes}
    (h : takePassphrase input = .ok (passphrase, rest)) : rest = (cutLine input).2 := by
  by_cases hp : (trimEnd (cutLine input).1).isEmpty
  · simp only [takePassphrase, next?, if_pos hp] at h
    cases h
  · simp only [takePassphrase, next?, if_neg hp] at h
    cases h
    rfl

theorem takePassphrases_rest {n : Nat} {input rest : Bytes} {ps : List Bytes}
    (h : takePassphrases n input = .ok (ps, rest)) : rest = skipLines n input := by
  induction n generalizing input ps with
  | zero =>
    cases h
    rfl
  | succ n ih =>
    obtain ⟨_, mid, _, rfl, hmid, hrest⟩ := takePassphrases_succ_ok h
    obtain rfl := takePassphrase_rest hmid
    exact ih hrest

theorem Command.operation_rest {c : Command} {input rest : Bytes} {operation : Operation}
    (h : c.operation input = .ok (operation, rest)) : rest = skipLines c.passphrases input := by
  cases hp : takePassphrases c.passphrases input with
  | error e => cases h.symm.trans (operation_of_error hp)
  | ok found =>
    obtain ⟨_, -, hoperation⟩ := operation_of_ok hp
    cases h.symm.trans hoperation
    exact takePassphrases_rest hp

/-- What is read from these lines. -/
structure ReadBack (lines : List InputLine) : Prop where
  /-- Each read gives the passphrase of its line and leaves the lines behind it. -/
  reads : ∀ n ≤ lines.length, takePassphrases n (text lines) =
    .ok ((lines.take n).map InputLine.passphrase, text (lines.drop n))
  /-- After the last line there is no passphrase. -/
  ends : takePassphrase (text (lines.drop lines.length)) = .error .emptyPassphrase
  /-- A command takes the passphrases it needs, in order, and no other line. -/
  commands : ∀ c : Command, c.passphrases ≤ lines.length →
    ∃ operation, c.Becomes ((lines.take c.passphrases).map InputLine.passphrase) operation ∧
      c.operation (text lines) = .ok (operation, text (lines.drop c.passphrases))
  /-- A line that is missing leaves a command without an operation. -/
  missing : ∀ c : Command, lines.length < c.passphrases →
    c.operation (text lines) = .error .emptyPassphrase
  /-- So does an empty line among those that it needs. -/
  empty : ∀ (c : Command) (tail : Bytes), (∀ l ∈ lines, l.ending ≠ .missing) → Lacking tail →
    lines.length < c.passphrases → c.operation (text lines ++ tail) = .error .emptyPassphrase

/-- Passphrases written one a line are read back octet for octet. Whatever the
input holds, a command that becomes an operation has taken as many lines as it
needs passphrases, and one that needs none leaves the input alone. -/
theorem passphrases_read_back {lines : List InputLine}
    (h : ∀ l ∈ lines.dropLast, l.ending ≠ .missing) : ReadBack lines ∧
    ∀ (c : Command) (input : Bytes),
      (∀ operation rest, c.operation input = .ok (operation, rest) →
        rest = skipLines c.passphrases input) ∧
      (c.passphrases = 0 →
        ∃ operation, c.Becomes [] operation ∧ c.operation input = .ok (operation, input)) := by
  have hterminated := terminated_of_dropLast h
  have hreads {n : Nat} (hn : n ≤ lines.length) : takePassphrases n (text lines) =
      .ok ((lines.take n).map InputLine.passphrase, text (lines.drop n)) := by
    simpa using takePassphrases_text hterminated hn
  refine ⟨⟨fun n hn => hreads hn, ?_, fun c hc => Command.operation_of_ok (hreads hc), ?_, ?_⟩, ?_⟩
  · rw [List.drop_length]
    exact takePassphrase_lacking (.missing nofun)
  · intro c hc
    have hlacking := takePassphrases_lacking hterminated (.missing nofun) hc
    rw [List.append_nil] at hlacking
    exact Command.operation_of_error hlacking
  · intro c tail hall htail hc
    exact Command.operation_of_error
      (takePassphrases_lacking (terminated_of_forall hall) htail hc)
  · refine fun c input => ⟨fun _ _ => Command.operation_rest, fun hc => ?_⟩
    refine Command.operation_of_ok ?_
    rw [hc]
    rfl

/-- A passphrase with a NUL, a carriage return and a broken octet on the first line, and
a last line without an end. -/
theorem passphrases_read_back_binary :
    ∃ old new : InputLine, old.octets = [0x00, 0x0D, 0xFF, 0x0D, 0x0A] ∧ new.octets = [0x62] ∧
      Command.changePassword.operation [0x00, 0x0D, 0xFF, 0x0D, 0x0A, 0x62] =
        .ok (.changePassword [0x00, 0x0D, 0xFF] [0x62], []) ∧
      Command.changePassword.operation [0x00, 0x0D, 0xFF, 0x0D, 0x0A, 0x0D, 0x0A] =
        .error .emptyPassphrase := by
  let old : InputLine := ⟨[0x00, 0x0D, 0xFF], .returnFeed, by decide, by decide, by decide⟩
  let new : InputLine := ⟨[0x62], .missing, by decide, by decide, by decide⟩
  have hboth : ∀ l ∈ [old, new].dropLast, l.ending ≠ .missing := by decide
  have hold : ∀ l ∈ [old].dropLast, l.ending ≠ .missing := nofun
  obtain ⟨_, hbecomes, hoperation⟩ :=
    (passphrases_read_back hboth).1.commands .changePassword (Nat.le_refl 2)
  cases hbecomes
  exact ⟨old, new, rfl, rfl, hoperation, (passphrases_read_back hold).1.empty .changePassword
    [0x0D, 0x0A] (by decide) (@Lacking.empty [0x0D] [] (by simp [carriageReturn])) (by decide)⟩

end EmmcVault.Service
