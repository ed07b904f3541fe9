import Remedy.Cli
/-!
# Main — the command line

Reads the files of a command and prints its transcript: output to the standard output, messages and faults to the
standard error.
-/
namespace Remedy

/-- Why a file cannot be read. -/
def readingFailure : IO.Error → String
  | .noFileOrDirectory _ _ _ => "No such file or directory (os error 2)"
  | .permissionDenied _ _ _ => "Permission denied (os error 13)"
  | e => toString e

/-- Reads a file, or finds out why it cannot be read. -/
def readSource (path : String) : IO SourceFile := do
  try
    let bytes ← IO.FS.readBinFile path
    match String.fromUTF8? bytes with
    | some text => return ⟨path, .ok text⟩
    | none => return ⟨path, .error "stream did not contain valid UTF-8"⟩
  catch e => return ⟨path, .error (readingFailure e)⟩

def runCommand (config : Config) : Cli.Command → IO Cli.Transcript
  | .check rules => return Cli.check (← readSource rules)
  | .run rules facts => return Cli.run config (← readSource rules) (← readSource facts)
  | .query rules goal limit => return Cli.query config (← readSource rules) goal limit

def report (t : Cli.Transcript) : IO UInt32 := do
  t.messages.forM fun m => IO.eprintln ("info: " ++ m)
  t.lines.forM IO.println
  match t.fault with
  | none => return 0
  | some f =>
    IO.eprintln ("error: " ++ f.message)
    return 1

end Remedy

def main (arguments : List String) : IO UInt32 := do
  match Remedy.Cli.Invocation.ofList? arguments with
  | none =>
    IO.eprintln Remedy.Cli.usage
    return 2
  | some i =>
    match Remedy.Cli.settings (← i.config.mapM Remedy.readSource) with
    | .error f => Remedy.report (.stopped f)
    | .ok config => Remedy.report (← Remedy.runCommand config i.command)
