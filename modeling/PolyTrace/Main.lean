import PolyTrace.Instances.CommandLine

/-!
# The command that generates instances
-/

open PolyTrace

/-- Run the instance generator on the arguments of the command. -/
def main (arguments : List String) : IO UInt32 := do
  match CommandLine.run arguments with
  | .error _ =>
    IO.eprintln "The instances cannot be generated."
    return 1
  | .ok effect =>
    IO.print effect.output
    match effect.file with
    | some (path, text) => IO.FS.writeFile path text
    | none => pure ()
    return UInt32.ofNat effect.exitCode
