import Allotment.Proofs.Json.Regular
import Allotment.Proofs.Plan.Listed
import Allotment.Settings.Config

/-!
# Configurations as texts

A configuration that was read from a text has tables of regular values (`Config.met_of_ofText`), and so it is read back
from the text that it is written as, just if the limit allows for its nesting (`Config.ofText_pretty`). Only its tables
count there: all else in it is far from the limit (`Config.nesting_write`).
-/

namespace Allotment

open Json

/-! ## Parts of a configuration -/

theorem Path.restores_decoder : Path.decoder.Restores (fun path => .string path.text) 0 where
  sound _ := rfl
  decode path _ _ := by
    show (decodePieces (path.text.toList.map pieceOf)).map Path.mk = .ok path
    rw [decodePieces_pieceOf]
    rfl

/-- A source of keys is an object around a text. -/
theorem KeySource.fits (source : KeySource) : KeySource.decoder.Fits KeySource.toJson source where
  sound := by cases source <;> rfl
  decode {depth} some := by
    cases source with
    | env name =>
      have kind : Kind.decode (.string ("env".toList.map pieceOf)) = .ok .env := rfl
      have held := Decoder.restores_string.decode name (Nat.zero_le (depth - 1))
      refine allowed_inside fun inside => ?_
      refine .trans ?_ (allowed_of_true inside).symm
      rw [kind, ok_bind]
      dsimp only
      rw [held]
      rfl
    | file path =>
      have kind : Kind.decode (.string ("file".toList.map pieceOf)) = .ok .file := rfl
      have held := Path.restores_decoder.decode path (Nat.zero_le (depth - 1))
      refine allowed_inside fun inside => ?_
      refine .trans ?_ (allowed_of_true inside).symm
      rw [kind, ok_bind]
      dsimp only
      rw [held]
      rfl

theorem KeySource.nesting_toJson (source : KeySource) : source.toJson.nesting = 1 := by
  cases source <;> rfl

theorem Json.nesting_ofOption {α : Type} {write : α → Json} (flat : ∀ a, (write a).nesting = 0) (o : Option α) :
    (ofOption write o).nesting = 0 := by
  cases o with
  | none => rfl
  | some a => exact flat a

section Flat

variable {α σ : Type} {decoder : Decoder α} {write : α → Json}

/-- A field without containers fits. -/
theorem Json.Field.fits_flat (restores : decoder.Restores write 0) (flat : ∀ a, (write a).nesting = 0) (name : String)
    (get : σ → α) (set : α → σ → σ) (s : σ) : (Field.of name decoder write get set).Fits s (set (get s)) :=
  Field.fits_of (.of_restores restores flat _) name set

/-- An optional field without containers fits. -/
theorem Json.Field.fits_flat? (restores : decoder.Restores write 0) (visible : ∀ a, (write a).document ≠ .null)
    (flat : ∀ a, (write a).nesting = 0) (name : String) (get : σ → Option α) (set : Option α → σ → σ) (s : σ) :
    (Field.of name (Decoder.option decoder) (ofOption write) get set).Fits s (set (get s)) :=
  fits_flat (Decoder.restores_option restores visible) (nesting_ofOption flat) name get set s

end Flat

/-! ## Sections -/

theorem Fees.fits (fees : Fees) : Fees.format.decoder.Fits Fees.format.write fees := by
  have gas := Field.fits_flat Decoder.restores_uint64 (fun _ => rfl) (σ := Fees)
  have amount := Field.fits_flat (Decoder.restores_plainNat Wei.size) (fun _ => rfl) (σ := Fees)
  exact RecordFormat.fits (by decide)
    (.cons (gas _ _ _ fees) (.cons (amount _ _ _ fees) (.cons (amount _ _ _ fees) .nil))) rfl

theorem LedgerSettings.fits (ledger : LedgerSettings) :
    LedgerSettings.format.decoder.Fits LedgerSettings.format.write ledger := by
  have text := Field.fits_flat Decoder.restores_string (fun _ => rfl) (σ := LedgerSettings)
  have number := Field.fits_flat Decoder.restores_uint64 (fun _ => rfl) (σ := LedgerSettings)
  have number? := Field.fits_flat? Decoder.restores_uint64 (fun _ => nofun) (fun _ => rfl) (σ := LedgerSettings)
  exact RecordFormat.fits (by decide)
    (.cons (text _ _ _ ledger) (.cons (number _ _ _ ledger) (.cons (number? _ _ _ ledger) .nil))) rfl

theorem SnapshotSettings.fits {snapshot : SnapshotSettings} (dev : Decoder.object.Fits .object snapshot.devPoints)
    (node : Decoder.object.Fits .object snapshot.nodePoints) :
    SnapshotSettings.format.decoder.Fits SnapshotSettings.format.write snapshot := by
  have text? := Field.fits_flat? Decoder.restores_string (fun _ => nofun) (fun _ => rfl) (σ := SnapshotSettings)
  have path? := Field.fits_flat? Path.restores_decoder (fun _ => nofun) (fun _ => rfl) (σ := SnapshotSettings)
  have path := Field.fits_flat Path.restores_decoder (fun _ => rfl) (σ := SnapshotSettings)
  have flag := Field.fits_flat Decoder.restores_bool (fun _ => rfl) (σ := SnapshotSettings)
  exact RecordFormat.fits (by decide)
    (.cons (text? _ _ _ snapshot) (.cons (Field.fits_of dev _ _) (.cons (Field.fits_of node _ _)
      (.cons (path? _ _ _ snapshot) (.cons (path? _ _ _ snapshot) (.cons (path _ _ _ snapshot)
        (.cons (flag _ _ _ snapshot) .nil))))))) rfl

theorem ClaimSettings.fits (claim : ClaimSettings) :
    ClaimSettings.format.decoder.Fits ClaimSettings.format.write claim := by
  have text? := Field.fits_flat? Decoder.restores_string (fun _ => nofun) (fun _ => rfl) (σ := ClaimSettings)
  have text := Field.fits_flat Decoder.restores_string (fun _ => rfl) (σ := ClaimSettings)
  have path? := Field.fits_flat? Path.restores_decoder (fun _ => nofun) (fun _ => rfl) (σ := ClaimSettings)
  have number := Field.fits_flat Decoder.restores_uint64 (fun _ => rfl) (σ := ClaimSettings)
  have accounts := Decoder.fits_list fun account (_ : account ∈ claim.accounts) =>
    Decoder.Fits.of_restores Decoder.restores_string (fun _ => rfl) account
  exact RecordFormat.fits (by decide)
    (.cons (text? _ _ _ claim) (.cons (text? _ _ _ claim) (.cons (text _ _ _ claim)
      (.cons (Field.fits_of accounts _ _) (.cons (path? _ _ _ claim) (.cons (Field.fits_of claim.signingKey.fits _ _)
        (.cons (number _ _ _ claim) (.cons (Field.fits_of claim.gas.fits _ _) .nil)))))))) rfl

namespace Config

theorem fits {c : Config} (dev : Decoder.object.Fits .object c.snapshot.devPoints)
    (node : Decoder.object.Fits .object c.snapshot.nodePoints) : format.decoder.Fits format.write c :=
  RecordFormat.fits (by decide)
    (.cons (Field.fits_of c.ledger.fits _ _)
      (.cons (Field.fits_of (SnapshotSettings.fits dev node) _ _) (.cons (Field.fits_of c.claim.fits _ _) .nil)))
    rfl

/-! ## Tables that were read -/

/-- The members of a table are met one after the other, inside of three containers. -/
theorem met_of_ofText {name text : String} {get : SnapshotSettings → List (String × Json)}
    (part : SnapshotSettings.format.Part name Decoder.object get) (none : get SnapshotSettings.standard = [])
    {c : Config} (read : ofText text = .ok c) :
    Decoder.Met (Depth.outermost - 3) ((Json.read text).document.embeds = false) (get c.snapshot) := by
  have start : Decoder.Met (Depth.outermost - 3) ((Json.read text).document.embeds = false)
      (get SnapshotSettings.standard) := none ▸ .nil
  refine part_snapshot.invariant (Q := fun s => Decoder.Met _ _ (get s)) (fun snapshot mem s given => ?_)
    (decoder_of_decodeText read) start
  refine part.invariant (fun table mem' members given => ?_) given start
  obtain ⟨distinct, regular, shallow⟩ := Decoder.object_reads given
  refine ⟨distinct, regular, fun plain => shallow ?_⟩
  exact Document.embeds_of_mem_parts (Document.embeds_of_mem_parts plain mem) mem'

/-! ## Nesting -/

/-- A configuration is as deep as its tables of points: these stand in an object of an object. -/
theorem nesting_write (c : Config) :
    (format.write c).nesting =
      max (membersNesting c.snapshot.devPoints) (membersNesting c.snapshot.nodePoints) + 3 := by
  have text? (o : Option String) : (Json.ofText? o).nesting = 0 := nesting_ofOption (fun _ => rfl) o
  have path? (o : Option Path) : (Json.ofPath? o).nesting = 0 := nesting_ofOption (fun _ => rfl) o
  have number? (o : Option UInt64) : (Json.ofOption .ofUInt64 o).nesting = 0 := nesting_ofOption (fun _ => rfl) o
  have accounts : itemsNesting (c.claim.accounts.map .string) = 0 := by
    have flat : itemsNesting (c.claim.accounts.map .string) < 1 :=
      (itemsNesting_lt_iff Nat.one_pos).mpr (List.forall_mem_map.mpr fun _ _ => Nat.one_pos)
    omega
  simp only [RecordFormat.write, format, LedgerSettings.format, SnapshotSettings.format, ClaimSettings.format,
    Fees.format, Field.of, List.map, nesting, membersNesting, text?, path?, number?, accounts,
    KeySource.nesting_toJson, Json.ofUInt64, Json.ofNat]
  omega

theorem ofText_pretty {c : Config} (dev : Decoder.object.Fits .object c.snapshot.devPoints)
    (node : Decoder.object.Fits .object c.snapshot.nodePoints) :
    ofText c.pretty = allowed ((format.write c).nesting < Depth.outermost) c :=
  (fits dev node).decodeText .pretty

/-- **A configuration that was read is read back just if the limit allows for its nesting**, provided that its tables
are exact. -/
theorem ofText_pretty_of_ofText {text : String} {c : Config} (read : ofText text = .ok c)
    (dev : exactMembers c.snapshot.devPoints = true) (node : exactMembers c.snapshot.nodePoints = true) :
    ofText c.pretty = allowed ((format.write c).nesting < Depth.outermost) c :=
  ofText_pretty ((met_of_ofText part_devPoints rfl read).fits dev) ((met_of_ofText part_nodePoints rfl read).fits node)

/-- The limit allows for what was read, unless a text is embedded. -/
theorem nesting_lt_of_ofText {text : String} {c : Config} (read : ofText text = .ok c)
    (plain : (Json.read text).document.embeds = false) : (format.write c).nesting < Depth.outermost := by
  have inside : 1 ≤ Depth.outermost - 3 := by decide
  have dev := (membersNesting_lt_iff inside).mpr ((met_of_ofText part_devPoints rfl read).shallow plain)
  have node := (membersNesting_lt_iff inside).mpr ((met_of_ofText part_nodePoints rfl read).shallow plain)
  rw [nesting_write]
  exact Nat.add_lt_of_lt_sub (Nat.max_lt.mpr ⟨dev, node⟩)

end Config

end Allotment
