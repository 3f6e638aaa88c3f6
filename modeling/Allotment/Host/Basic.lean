import Allotment.Key.Source
import Allotment.Ledger.JsonRpc

/-!
# What a program runs in

`Host m` is everything that a program asks of its surroundings: files, environment variables, a way to remote
endpoints, standard output and time.
-/

namespace Allotment

/-- The surroundings of a program. -/
structure Host (m : Type → Type) where
  files : Files m
  environment : Environment m
  transport : JsonRpc.Transport m
  /-- Puts a text on standard output. -/
  print : String → m Unit
  /-- Waits for a number of milliseconds. -/
  pause : UInt64 → m Unit

end Allotment
