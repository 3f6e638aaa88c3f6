import Allotment.Proofs.Json.Plain
import Allotment.Proofs.Points.Entries

/-!
# Points from the members of an object

What each member of an object gives and what may be wrong with it:

* `Table.Accepts`: a member gives an entry or nothing if its value is a plain number and its name is blank or denotes an
  account;
* `Table.Rejects`: what else a member may be, and the error that says so; its value is looked at first;
* `Table.ofJson_reads`: an object gives a table just if all members are accepted, and fails as the first that is not.

Which values are plain is told by the text that an object is read from.
-/

namespace Allotment.Points.Table

open Json (Document)

/-- A member gives an entry, or nothing where its name is blank. -/
def Accepts (member : String × Json) : Prop :=
  (∃ points, member.2.IsPlain points) ∧
    (Text.isBlankText member.1 = true ∨ ∃ a, Address.parse member.1 = .ok a)

/-- What is wrong with a member of a table. The name does not matter where the value is no plain number. -/
inductive Rejects (table : String) : String × Json → Error → Prop
  | points {raw : String} {value : Json} : (∀ points, ¬value.IsPlain points) →
    Rejects table (raw, value) (.invalidPoints table raw value.compact)
  | account {raw : String} {value : Json} {points : UInt64} : value.IsPlain points → Text.isBlankText raw = false →
    (∀ a, Address.parse raw ≠ .ok a) → Rejects table (raw, value) (.invalidAccount table raw)

variable {name : String} {member : String × Json} {row : Option Entry} {e : Error}

theorem readMember_gives_iff :
    readMember name member = .ok row ↔
      ∃ points, member.2.IsPlain points ∧ readEntry name member.1 points = .ok row := by
  rw [readMember]
  simp only [← Json.toUInt64?_eq_some_iff]
  cases member.2.toUInt64? with
  | none => simp
  | some points => simp

theorem exists_readMember_iff : (∃ row, readMember name member = .ok row) ↔ Accepts member := by
  simp only [readMember_gives_iff, Accepts]
  constructor
  · rintro ⟨row, points, plain, given⟩
    exact ⟨⟨points, plain⟩, exists_readEntry_iff.mp ⟨row, given⟩⟩
  · rintro ⟨⟨points, plain⟩, known⟩
    obtain ⟨row, given⟩ : ∃ row, readEntry name member.1 points = .ok row := exists_readEntry_iff.mpr known
    exact ⟨row, points, plain, given⟩

theorem readMember_fails_iff : readMember name member = .error e ↔ Rejects name member e := by
  obtain ⟨raw, value⟩ := member
  rw [readMember]
  constructor
  · intro failed
    split at failed
    case h_1 points taken =>
      obtain ⟨visible, other, rfl⟩ := readEntry_fails_iff.mp failed
      exact .account (Json.toUInt64?_eq_some_iff.mp taken) visible other
    case h_2 none =>
      cases failed
      refine .points fun points plain => ?_
      rw [Json.toUInt64?_eq_some_iff.mpr plain] at none
      cases none
  · rintro (⟨none⟩ | ⟨plain, visible, other⟩)
    · cases taken : value.toUInt64? with
      | none => rfl
      | some points => exact absurd (Json.toUInt64?_eq_some_iff.mp taken) (none points)
    · rw [Json.toUInt64?_eq_some_iff.mpr plain]
      exact readEntry_fails_iff.mpr ⟨visible, other, rfl⟩

/-- **An object gives the entries of its members, or the error of the first that is rejected.** Where the object is read
from a text and no name is repeated in it, the members are those of the text, and a value is a plain number just where
the text has one: digits without sign, point and exponent. -/
theorem ofJson_reads (name : String) :
    (∀ members : List (String × Json),
      ((∃ table, ofJson name members = .ok table) ↔ ∀ member ∈ members, Accepts member) ∧
      (∀ table, ofJson name members = .ok table → table.name = name ∧
        List.Forall₂ (fun member entry => Address.parse member.1 = .ok entry.account ∧ member.2.IsPlain entry.points)
          (members.filter fun member => !Text.isBlankText member.1) table.entries) ∧
      ∀ e, ofJson name members = .error e ↔
        ∃ earlier member later, members = earlier ++ member :: later ∧ (∀ before ∈ earlier, Accepts before) ∧
          Rejects name member e) ∧
    ∀ (text : String) (documents : List (Document × Document)) (members : List (String × Json)),
      (Json.read text).document = .object documents →
      (documents.map fun document => Json.Decoder.memberName document.1).Nodup →
      Json.decodeText Json.Decoder.object text = .ok members →
      List.Forall₂ (fun document member => Json.Decoder.memberName document.1 = .ok member.1 ∧
        ∀ points, member.2.IsPlain points ↔ document.2.SaysPlain points) documents members := by
  refine ⟨fun members => ⟨?_, fun table made => ?_, fun e => ?_⟩, fun text documents members whole distinct read => ?_⟩
  · rw [ofJson, exists_collect_iff]
    simp only [exists_readMember_iff]
  · exact entries_of_collect Prod.fst (fun member points => member.2.IsPlain points)
      (fun member row => readMember_gives_iff.mp) made
  · rw [ofJson, collect_eq_error_iff]
    simp only [exists_readMember_iff, readMember_fails_iff]
  · have decoded := Json.decoder_of_decodeText read
    rw [whole] at decoded
    exact (Json.Decoder.object_eq_ok distinct decoded).imp fun document member ⟨named, given⟩ =>
      ⟨named, fun points => Json.Decoder.value_isPlain_iff given⟩

/-- Points for an account and for a blank name. -/
def listing : List (String × Json) :=
  [("0x00000000000000000000000000000000000000ab", .ofUInt64 0xffffffffffffffff), (" ", .ofUInt64 7)]

theorem names_listing :
    ((Json.memberDocuments listing).map fun document => Json.Decoder.memberName document.1) =
      [.ok "0x00000000000000000000000000000000000000ab", .ok " "] := by
  simp only [listing, Json.memberDocuments, List.map_cons, List.map_nil, Json.Decoder.memberName,
    Json.decodePieces_pieceOf]

/-- The greatest number of points is read for the account, and nothing for the blank name. -/
theorem ofJson_reads_listing :
    ∃ table, Json.decodeText Json.Decoder.object (Json.object listing).compact = .ok listing ∧
      ofJson "dev" listing = .ok table ∧
      List.Forall₂ (fun document member => Json.Decoder.memberName document.1 = .ok member.1 ∧
        ∀ points, member.2.IsPlain points ↔ document.2.SaysPlain points) (Json.memberDocuments listing) listing ∧
      List.Forall₂ (fun member entry => Address.parse member.1 = .ok entry.account ∧ member.2.IsPlain entry.points)
        (listing.filter fun member => !Text.isBlankText member.1) table.entries := by
  have fits : Json.Decoder.object.Fits .object listing :=
    Json.Decoder.fits_object (by decide) ⟨⟨by decide, by decide⟩, ⟨by decide, by decide⟩, trivial⟩ rfl
  have whole : (Json.read (Json.object listing).compact).document = .object (Json.memberDocuments listing) := by
    have read := Json.read_render Json.Layout.compact fits.sound (List.forall_mem_nil _)
    rw [String.ofList_nil, String.append_empty] at read
    exact congrArg Json.Reading.document read
  have read : Json.decodeText Json.Decoder.object (Json.object listing).compact = .ok listing :=
    (fits.decodeText .compact).trans (Json.allowed_of_true (by decide))
  have made : ofJson "dev" listing = .ok ⟨"dev", [⟨⟨(Vector.replicate 19 0).push 0xab⟩, 0xffffffffffffffff⟩]⟩ := by
    decide +kernel
  obtain ⟨reads, texts⟩ := ofJson_reads "dev"
  exact ⟨_, read, made, texts _ _ _ whole (by rw [names_listing]; simp) read, ((reads listing).2.1 _ made).2⟩

-- minus zero is no plain number, and it is looked at although the name is blank
example : (Json.decodeText Json.Decoder.object "\x7b\" \": -0, \"?\": 1\x7d").toOption.map (ofJson "dev") =
    some (.error (.invalidPoints "dev" " " "-0.0")) := by decide +kernel

end Allotment.Points.Table
