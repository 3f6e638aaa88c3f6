import Allotment.Host.Basic
import Allotment.Proofs.Files.Basic

/-!
# Watching a program

`Host.watched` is any host at all, with someone who writes down what a program lets out: the text on standard output
and the calls sent to endpoints. A computation that uses files and environment variables only is seen from outside as
if nothing were done (`Scene.insideCorrespondence`), and one that also asks endpoints still prints nothing
(`Scene.quietCorrespondence`).
-/

namespace Allotment

/-- The state of a host, and what a program on it has let out so far. -/
structure Scene (τ : Type) where
  state : τ
  output : String
  sent : List JsonRpc.Call

namespace Scene

variable {τ α : Type}

/-- Something done to the state of a host that nobody outside sees. -/
def inside (act : StateM τ α) : StateM (Scene τ) α := fun scene =>
  let (a, state) := act scene.state
  (a, { scene with state })

/-- A computation that nobody outside sees anything of. -/
def insideCorrespondence (τ : Type) : Claim.Correspondence (StateM (Scene τ)) (StateM τ) :=
  .along inside (fun _ => rfl) (fun _ _ => rfl)

/-- A computation that prints nothing, whatever it sends. -/
def quietCorrespondence (τ : Type) : Claim.Correspondence (StateM (Scene τ)) (StateM τ) where
  rel x y := ∀ scene, ∃ sent, x scene = ((y scene.state).1, ⟨(y scene.state).2, scene.output, sent⟩)
  rel_pure _ scene := ⟨scene.sent, rfl⟩
  rel_bind {_ _ x y f g} first second scene := by
    obtain ⟨sent, ran⟩ := first scene
    have run : (x >>= f) scene = f (y scene.state).1 ⟨(y scene.state).2, scene.output, sent⟩ := by
      show f (x scene).1 (x scene).2 = _
      rw [ran]
    rw [run]
    exact second _ _

theorem quiet_of_inside {x : StateM (Scene τ) α} {y : StateM τ α} (within : (insideCorrespondence τ).rel x y) :
    (quietCorrespondence τ).rel x y := by
  obtain rfl := within
  exact fun scene => ⟨scene.sent, rfl⟩

end Scene

namespace Host

variable {τ : Type}

/-- A host with someone watching what is printed and what is sent. -/
def watched (host : Host (StateM τ)) : Host (StateM (Scene τ)) where
  files := host.files.lift Scene.inside
  environment name := Scene.inside (host.environment name)
  transport.carry endpoint seconds call := fun scene =>
    let (reply, state) := host.transport endpoint seconds call scene.state
    (reply, { scene with state, sent := scene.sent ++ [call] })
  transport.wording := host.transport.wording
  print text := fun scene =>
    let ((), state) := host.print text scene.state
    ((), { scene with state, output := scene.output ++ text })
  pause milliseconds := Scene.inside (host.pause milliseconds)

theorem files_watched (host : Host (StateM τ)) :
    Files.Corresponding (Scene.insideCorrespondence τ) host.watched.files host.files :=
  Files.corresponding_lift Scene.inside (fun _ => rfl) (fun _ _ => rfl) host.files

/-- Files are used in silence. -/
theorem files_quiet (host : Host (StateM τ)) :
    Files.Corresponding (Scene.quietCorrespondence τ) host.watched.files host.files :=
  host.files_watched.mono Scene.quiet_of_inside

/-- Calls are sent in silence. -/
theorem transport_quiet (host : Host (StateM τ)) (endpoint : String) (seconds : Nat) (call : JsonRpc.Call) :
    (Scene.quietCorrespondence τ).rel (host.watched.transport endpoint seconds call)
      (host.transport endpoint seconds call) :=
  fun scene => ⟨scene.sent ++ [call], rfl⟩

theorem environment_watched (host : Host (StateM τ)) (name : String) :
    (Scene.insideCorrespondence τ).rel (host.watched.environment name) (host.environment name) := rfl

end Host

end Allotment
