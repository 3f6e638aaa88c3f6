import Allotment.Files.Basic
import Allotment.Proofs.Claim.Session
import Allotment.Proofs.Text.Utf8

/-!
# Access to files

The bytes of a text are read as that text (`Files.textOf_toUTF8`). Two accesses to files correspond when their single
operations do, and then so does what is made of them (`Files.Corresponding`).
-/

namespace Allotment.Files

theorem textOf_eq_ok_iff {contents : ByteArray} {text : String} :
    textOf contents = .ok text ↔ contents = text.toUTF8 := by
  rw [← Text.fromUTF8?_eq_some_iff, textOf]
  cases String.fromUTF8? contents with
  | none => exact ⟨nofun, nofun⟩
  | some other => simp

theorem textOf_toUTF8 (text : String) : textOf text.toUTF8 = .ok text :=
  textOf_eq_ok_iff.mpr rfl

variable {m n : Type → Type} [Monad m] [Monad n] {c : Claim.Correspondence m n} {files : Files m} {files' : Files n}

/-- Two accesses to files whose operations correspond one by one. -/
structure Corresponding (c : Claim.Correspondence m n) (files : Files m) (files' : Files n) : Prop where
  read (path : Path) : c.rel (files.read path) (files'.read path)
  present (path : Path) : c.rel (files.present path) (files'.present path)
  isDirectory (path : Path) : c.rel (files.isDirectory path) (files'.isDirectory path)
  createDirectory (path : Path) : c.rel (files.createDirectory path) (files'.createDirectory path)
  write (path : Path) (contents : ByteArray) : c.rel (files.write path contents) (files'.write path contents)
  createDraft (directory : Path) : c.rel (files.createDraft directory) (files'.createDraft directory)
  fill (draft : Draft) (contents : ByteArray) : c.rel (files.fill draft contents) (files'.fill draft contents)
  publish (draft : Draft) (path : Path) : c.rel (files.publish draft path) (files'.publish draft path)
  discard (draft : Draft) : c.rel (files.discard draft) (files'.discard draft)

/-- Access to the files of a part of a state corresponds to the access to that part. -/
theorem corresponding_lift (up : {α : Type} → n α → m α) (up_pure : ∀ {α : Type} (a : α), pure a = up (pure a))
    (up_bind : ∀ {α β : Type} (x : n α) (f : α → n β), (up x >>= fun a => up (f a)) = up (x >>= f)) (files : Files n) :
    Corresponding (.along up up_pure up_bind) (files.lift up) files where
  read _ := rfl
  present _ := rfl
  isDirectory _ := rfl
  createDirectory _ := rfl
  write _ _ := rfl
  createDraft _ := rfl
  fill _ _ := rfl
  publish _ _ := rfl
  discard _ := rfl

namespace Corresponding

/-- Operations that correspond in one way correspond in every way that asks for less. -/
theorem mono {c' : Claim.Correspondence m n} (corresponding : Corresponding c files files')
    (less : ∀ {α : Type} {x : m α} {y : n α}, c.rel x y → c'.rel x y) : Corresponding c' files files' where
  read path := less (corresponding.read path)
  present path := less (corresponding.present path)
  isDirectory path := less (corresponding.isDirectory path)
  createDirectory path := less (corresponding.createDirectory path)
  write path contents := less (corresponding.write path contents)
  createDraft directory := less (corresponding.createDraft directory)
  fill draft contents := less (corresponding.fill draft contents)
  publish draft path := less (corresponding.publish draft path)
  discard draft := less (corresponding.discard draft)

theorem readText (corresponding : Corresponding c files files') (path : Path) :
    c.rel (files.readText path) (files'.readText path) := by
  refine c.rel_bind (corresponding.read path) fun outcome => ?_
  cases outcome with
  | ok contents => exact c.rel_pure _
  | error e => exact c.rel_pure _

theorem allowDirectory (corresponding : Corresponding c files files') (path : Path) (e : FileError) :
    c.rel (files.allowDirectory path e) (files'.allowDirectory path e) :=
  c.rel_bind (corresponding.isDirectory path) fun _ => c.rel_pure _

theorem createMissing (corresponding : Corresponding c files files') (paths : List Path) :
    c.rel (files.createMissing paths) (files'.createMissing paths) := by
  induction paths with
  | nil => exact c.rel_pure _
  | cons path above ih =>
    refine c.rel_bind (corresponding.createDirectory path) fun outcome => ?_
    cases outcome with
    | ok _ => exact c.rel_pure _
    | error e =>
      cases e with
      | notFound =>
        refine c.rel_bind ih fun outcome => ?_
        cases outcome with
        | error e => exact c.rel_pure _
        | ok _ =>
          refine c.rel_bind (corresponding.createDirectory path) fun outcome => ?_
          cases outcome with
          | ok _ => exact c.rel_pure _
          | error e => exact corresponding.allowDirectory path e
      | _ => exact corresponding.allowDirectory path _

theorem createDirectories (corresponding : Corresponding c files files') (path : Path) :
    c.rel (files.createDirectories path) (files'.createDirectories path) :=
  corresponding.createMissing path.ancestors

theorem replace (corresponding : Corresponding c files files') (directory path : Path) (contents : ByteArray) :
    c.rel (files.replace directory path contents) (files'.replace directory path contents) := by
  have discarded (draft : Draft) (e : FileError) :=
    c.rel_bind (corresponding.discard draft) fun _ => c.rel_pure (Except.error (α := Unit) e)
  refine c.rel_bind (corresponding.createDraft directory) fun outcome => ?_
  cases outcome with
  | error e => exact c.rel_pure _
  | ok draft =>
    refine c.rel_bind (corresponding.fill draft contents) fun outcome => ?_
    cases outcome with
    | error e => exact discarded draft e
    | ok _ =>
      refine c.rel_bind (corresponding.publish draft path) fun outcome => ?_
      cases outcome with
      | error e => exact discarded draft e
      | ok _ => exact c.rel_pure _

end Corresponding

end Allotment.Files
