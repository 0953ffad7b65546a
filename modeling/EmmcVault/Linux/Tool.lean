import EmmcVault.Linux.Host
import EmmcVault.Text.Blank

/-!
# Running tools

A tool is started, given what it is to read, and waited for. What it prints is
read as text, with a replacement character where it is not; its complaints lose
the blanks around them. Secrets reach a tool on its standard input or by the
path of a file, never as arguments.
-/

namespace EmmcVault.Linux

open Text

structure ToolRun where
  program : String
  args : List Bytes
  /-- What is written to the tool's standard input; without it the tool has none. -/
  input : Option Bytes := none
deriving DecidableEq, Repr

def ToolRun.command (r : ToolRun) : ToolCommand where
  program := r.program
  args := r.args
  piped := r.input.isSome

structure ToolReport where
  code : Option Int
  out : String
  complaint : String
deriving DecidableEq, Repr

namespace ToolReport

def ofOutput (o : ToolOutput) : ToolReport where
  code := o.code
  out := Utf8.lossy o.out
  complaint := String.ofList (trim (Utf8.lossy o.err).toList)

def succeeded (r : ToolReport) : Bool :=
  r.code == some 0

/-- The failure of a tool that ended with this report. -/
def failure (r : ToolReport) (program : String) : SystemError :=
  .commandFailed program r.code r.complaint

end ToolReport

namespace Host

variable {σ η : Type} (h : Host σ η)

def feedInput : Option Bytes → SystemCall σ Unit
  | some input => h.feed input
  | none => pure ()

/-- Runs a tool to its end. One that does not take its input is left to itself. -/
def run (run : ToolRun) : SystemCall σ ToolOutput := do
  h.start run.command
  h.feedInput run.input
  h.wait

/-- Runs a tool, whatever its exit code. -/
def report (run : ToolRun) : SystemTask σ ToolReport := do
  return .ofOutput (← (h.run run).adaptExcept .io)

/-- Runs a tool that must succeed. -/
def runChecked (run : ToolRun) : SystemTask σ ToolReport := do
  let report ← h.report run
  if report.succeeded then pure report else throw (report.failure run.program)

def requireTool (tool : String) (missing : SystemError) : SystemTask σ Unit := do
  if h.hasTool (← get) tool then pure () else throw missing

end Host

/-- Names the backend call that a step serves. -/
def SystemTask.serving {σ α : Type} (call : String) (task : SystemTask σ α) : Call σ α :=
  task.adaptExcept (·.ofCall call)

end EmmcVault.Linux
