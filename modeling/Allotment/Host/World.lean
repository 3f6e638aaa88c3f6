import Allotment.Files.Tree
import Allotment.Host.Basic

/-!
# Worlds

A `World` is a host as a value: on it a program is a function, and waiting takes no time.
-/

namespace Allotment

/-- A host as a value; `network` is the state of all that is remote. -/
structure World (σ : Type) where
  files : FileTree
  environment : List (String × String)
  output : String
  network : σ

namespace World

/-- Something done to the files of a world. -/
def onFiles (act : StateM FileTree α) : StateM (World σ) α := fun world =>
  let (a, files) := act world.files
  (a, { world with files })

/-- What follows a start in a text that starts so. -/
def after? : List Char → List Char → Option (List Char)
  | [], rest => some rest
  | c :: start, c' :: rest => if c = c' then after? start rest else none
  | _ :: _, [] => none

/-- The value of a variable among entries, each being a name, an equals sign and a value in one text: what follows the
name and an equals sign in the first entry that starts so. -/
def valueOf? (entries : List (String × String)) (name : String) : Option String :=
  if name.isEmpty then none
  else entries.findSome? fun (entry, value) =>
    (after? (name ++ "=").toList (entry ++ "=" ++ value).toList).map String.ofList

/-- The surroundings that a world is, where `answer` tells what an endpoint replies to a call. -/
def host (answer : JsonRpc.Transport (StateM σ)) : Host (StateM (World σ)) where
  files := FileTree.files.lift onFiles
  environment name := fun world => (valueOf? world.environment name, world)
  transport.carry endpoint seconds call := fun world =>
    let (reply, network) := answer endpoint seconds call world.network
    (reply, { world with network })
  transport.wording := answer.wording
  print text := fun world => ((), { world with output := world.output ++ text })
  pause _ := pure ()

end World

end Allotment
