import Allotment.Command.Run
import Allotment.Host.Disk
import Allotment.Host.Network

/-!
# The program

Runs the command line on the real surroundings. What stops a run is told on standard error.
-/

namespace Allotment

/-- The real surroundings. -/
def surroundings : Host IO where
  files := Disk.files
  environment name := IO.getEnv name
  transport := Network.transport
  print text := do
    let output ← IO.getStdout
    output.putStr text
    output.flush
  pause milliseconds := IO.sleep (UInt32.ofNat (min milliseconds.toNat (UInt32.size - 1)))

/-- What is told on standard error when a run ends. -/
def Command.Exit.complaint? : Command.Exit → Option String
  | .success => none
  | .failure cause => some ("error: " ++ cause.message)
  | .usage => some Command.helpText

end Allotment

def main (arguments : List String) : IO UInt32 := do
  let ending ← Allotment.Command.run Allotment.surroundings arguments
  if let some complaint := ending.complaint? then IO.eprintln complaint
  return ending.code
