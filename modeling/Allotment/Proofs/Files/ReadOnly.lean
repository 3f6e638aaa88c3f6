import Allotment.Files.Tree
import Allotment.Proofs.Files.Basic

/-!
# Access that only reads

`Files.readOnly` refuses every operation that changes something. What is done in the same way with such access is done
without a change, and over a tree of files it is a question to the tree, which stays as it is
(`FileTree.corresponding_readOnly`).
-/

namespace Allotment

/-- The answer to everything that would change something. -/
def Files.refusal : FileError := .other "Read-only file system (os error 30)"

/-- The same access to what is there, and none to anything that changes it. -/
def Files.readOnly {m : Type → Type} [Monad m] (files : Files m) : Files m where
  read := files.read
  present := files.present
  isDirectory := files.isDirectory
  createDirectory _ := return .error refusal
  write _ _ := return .error refusal
  createDraft _ := return .error refusal
  fill _ _ := return .error refusal
  publish _ _ := return .error refusal
  discard _ := return ()

namespace FileTree

/-- A question to the tree, as a computation that leaves the tree as it was. -/
def asking {α : Type} (question : ReaderM FileTree α) : StateM FileTree α :=
  fun tree => (question tree, tree)

/-- The access to files that asks the tree. -/
def reader : Files (ReaderM FileTree) where
  read path tree := tree.read path
  present path tree := tree.present path
  isDirectory path tree := tree.isDirectory path
  createDirectory _ _ := .error Files.refusal
  write _ _ _ := .error Files.refusal
  createDraft _ _ := .error Files.refusal
  fill _ _ _ := .error Files.refusal
  publish _ _ _ := .error Files.refusal
  discard _ _ := ()

/-- Asking the tree goes along with sequencing. -/
def askingCorrespondence : Claim.Correspondence (StateM FileTree) (ReaderM FileTree) :=
  .along asking (fun _ => rfl) (fun _ _ => rfl)

theorem corresponding_readOnly : Files.Corresponding askingCorrespondence files.readOnly reader where
  read _ := rfl
  present _ := rfl
  isDirectory _ := rfl
  createDirectory _ := rfl
  write _ _ := rfl
  createDraft _ := rfl
  fill _ _ := rfl
  publish _ _ := rfl
  discard _ := rfl

end FileTree

end Allotment
