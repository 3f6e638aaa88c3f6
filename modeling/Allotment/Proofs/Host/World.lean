import Allotment.Host.World
import Allotment.Proofs.Files.Basic
import Allotment.Proofs.Files.Tree

/-!
# Parts of a world

What is done with the files of a world is a computation on its tree of files (`World.files_host`), and what goes to an
endpoint is one on its network (`World.transport_host`): neither sees or changes anything else in the world. Where nothing
is asked of the network it may as well reach no endpoint (`World.unreachable`).
-/

namespace Allotment.World

variable {σ : Type}

/-- Something done to the network of a world. -/
def onNetwork {α : Type} (act : StateM σ α) : StateM (World σ) α := fun world =>
  let (a, network) := act world.network
  (a, { world with network })

theorem onNetwork_apply {α : Type} (act : StateM σ α) (world : World σ) :
    onNetwork act world = ((act world.network).1, { world with network := (act world.network).2 }) := rfl

theorem onFiles_apply {α : Type} (act : StateM FileTree α) (world : World σ) :
    onFiles act world = ((act world.files).1, { world with files := (act world.files).2 }) := rfl

/-- A computation on a world that is a computation on its files. -/
def filesCorrespondence (σ : Type) : Claim.Correspondence (StateM (World σ)) (StateM FileTree) where
  rel x y := x = onFiles y
  rel_pure _ := rfl
  rel_bind {_ _ x y f g} first second := by
    obtain rfl := first
    obtain rfl : f = fun a => onFiles (g a) := funext second
    rfl

/-- A computation on a world that is a computation on its network. -/
def networkCorrespondence (σ : Type) : Claim.Correspondence (StateM (World σ)) (StateM σ) where
  rel x y := x = onNetwork y
  rel_pure _ := rfl
  rel_bind {_ _ x y f g} first second := by
    obtain rfl := first
    obtain rfl : f = fun a => onNetwork (g a) := funext second
    rfl

/-- No endpoint is reached. -/
def unreachable : JsonRpc.Transport (StateM σ) where
  carry _ _ _ := pure (.failed "unreachable")
  wording.refused _ := "not an endpoint"
  wording.unread _ _ := "not a reply"

variable (answer : JsonRpc.Transport (StateM σ))

theorem files_host : Files.Corresponding (filesCorrespondence σ) (host answer).files FileTree.files where
  read _ := rfl
  present _ := rfl
  isDirectory _ := rfl
  createDirectory _ := rfl
  write _ _ := rfl
  createDraft _ := rfl
  fill _ _ := rfl
  publish _ _ := rfl
  discard _ := rfl

theorem transport_host (endpoint : String) (seconds : Nat) (call : JsonRpc.Call) :
    (networkCorrespondence σ).rel ((host answer).transport endpoint seconds call) (answer endpoint seconds call) := rfl

/-- A file of a world that can be read is there. -/
theorem present_host {world : World σ} {path : Path} {contents : ByteArray}
    (found : world.files.read path = .ok contents) : (host answer).files.present path world = (true, world) := by
  show (world.files.present path, world) = _
  rw [FileTree.present_of_read found]

theorem readText_host {world : World σ} {path : Path} {text : String}
    (found : world.files.read path = .ok text.toUTF8) :
    (host answer).files.readText path world = (.ok text, world) := by
  have lifted : (host answer).files.readText path = onFiles (FileTree.files.readText path) :=
    (files_host answer).readText path
  rw [lifted, onFiles_apply, FileTree.readText_eq, found]
  simp only [Except.bind, Files.textOf_toUTF8]

end Allotment.World
