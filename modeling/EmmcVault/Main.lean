import EmmcVault.Linux.Sandbox.Setup
import EmmcVault.Service.Program

/-!
# Rehearsing the service

Runs a command of the service on a machine in memory. The machine holds copies
of the configuration file and of the device it names, its tools succeed, and
nothing outside is changed. The tools that would have been run are listed on
standard error.
-/

open EmmcVault EmmcVault.Linux EmmcVault.Service EmmcVault.Text

/-- The machine with a copy of a file that is there outside. -/
def withCopy (s : Sandbox) (p : Path) : IO Sandbox := do
  match p.text? with
  | none => return s
  | some name =>
    try
      let content ← IO.FS.readBinFile name
      let above := p.parent?.elim s s.withDirectory
      return above.withFile p content
    catch _ => return s

/-- Copies what a command line refers to. -/
def furnished (args : List String) : IO Sandbox := do
  let s := Sandbox.fresh
  match CommandLine.read args with
  | .error _ => return s
  | .ok invocation =>
    let s ← withCopy s invocation.config
    match Config.load Sandbox.host invocation.config s with
    | .ok config s => withCopy s config.volume.device
    | .error _ s => return s

def showRun (run : Sandbox.Process) : String :=
  " ".intercalate (run.program :: run.args.map Utf8.lossy)

def main (args : List String) : IO UInt32 := do
  let input ← (← IO.getStdin).readToEnd
  let (ending, s) := Program.run Sandbox.host args (Utf8.encode input) (← furnished args)
  IO.print ending.out
  IO.eprint ending.err
  for seen in s.runs do
    IO.eprintln s!"would run: {showRun seen.run}"
  return ending.exitCode
