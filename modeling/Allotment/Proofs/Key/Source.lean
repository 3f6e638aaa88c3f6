import Allotment.Key.Source
import Allotment.Proofs.Address
import Allotment.Proofs.Host.World
import Allotment.Proofs.Outcome
import Allotment.Proofs.Text.Utf8

/-!
# One key in a variable and in a file

- a text that denotes a secret is 64 digits with a mark in front or none (`Secret.digits_of_ofHex?`);
- contents are taken for such a text unless the mark is `0X` (`Secret.looksLikeHex_of_ofHex?`), and a text is never
  taken for a secret in 32 bytes, as it has more of them (`Secret.ofContents?_toUTF8`);
- so a variable and a file that hold one text give the same secret, or else the mark is `0X` and the file is refused
  (`Secret.load_file_of_variable`).
-/

namespace Allotment

/-! ## What a text is taken for -/

namespace Secret

variable {text : String} {secret : Secret}

/-- Whether a text is written with the mark `0X`. -/
def markedUpper (text : String) : Bool :=
  ['0', 'X'].isPrefixOf (Text.trimChars text.toList)

/-- A text that denotes a secret has 64 digits after its mark. -/
theorem digits_of_ofHex? (denotes : ofHex? text = some secret) :
    (Hex.dropMark (Text.trimChars text.toList)).length = 64 ∧
      ∀ c ∈ Hex.dropMark (Text.trimChars text.toList), Hex.isDigit c = true := by
  simp only [ofHex?, Option.bind_eq_bind, Option.bind_eq_some_iff] at denotes
  obtain ⟨bytes, decoded, whole, exact, -⟩ := denotes
  obtain ⟨length, digits⟩ := Hex.digits_of_decode? decoded
  refine ⟨?_, digits⟩
  rw [length, Bytes.exactly?_eq_some_iff.mp exact, whole.length_toList]

/-- A text that denotes a secret looks like one unless it has the mark that is not looked for. -/
theorem looksLikeHex_of_ofHex? (denotes : ofHex? text = some secret) : looksLikeHex text = !markedUpper text := by
  obtain ⟨length, digits⟩ := digits_of_ofHex? denotes
  unfold looksLikeHex markedUpper
  generalize Text.trimChars text.toList = cs at length digits
  have plain : (!(Hex.dropMark cs).isEmpty && (Hex.dropMark cs).all Hex.isDigit) = true := by
    have nonempty : Hex.dropMark cs ≠ [] := by
      intro empty
      rw [empty] at length
      cases length
    rw [List.all_eq_true.mpr digits, Bool.and_true, Bool.not_eq_true', List.isEmpty_eq_false_iff]
    exact nonempty
  rcases Hex.dropMark_cases cs with lower | upper | ⟨none, other⟩
  · obtain ⟨rest, rfl⟩ : ∃ rest, cs = '0' :: 'x' :: rest := ⟨_, lower⟩
    exact plain
  · -- the digits are looked for from the mark on, and `X` is none
    have noDigit : Hex.isDigit 'X' = false := by decide
    rw [upper]
    simp [noDigit]
  · have unmarked : ['0', 'X'].isPrefixOf cs = false := by
      rw [Bool.eq_false_iff, Ne, List.isPrefixOf_iff_prefix]
      rintro ⟨rest, marked⟩
      exact (other rest).2 marked.symm
    rw [none] at plain
    rw [unmarked]
    split
    case h_1 rest => exact absurd rfl (other rest).1
    case h_2 => exact plain

/-- **Contents that are a text that denotes a secret** denote this secret too, unless the text has the mark `0X`. -/
theorem ofContents?_toUTF8 (denotes : ofHex? text = some secret) :
    ofContents? text.toUTF8 = if markedUpper text then none else some secret := by
  -- the digits alone are more than the 32 bytes of a secret that is not written in digits
  have long : 32 < text.toUTF8.data.toList.length := by
    have digits := (digits_of_ofHex? denotes).1
    have mark := Hex.length_dropMark_le (Text.trimChars text.toList)
    have trimmed := Text.length_trimChars_le text.toList
    have bytes := Text.length_le_size_toUTF8 text
    rw [Array.length_toList, ByteArray.size_data]
    omega
  have noRaw : Bytes.exactly? 32 text.toUTF8.data.toList = none := dif_neg (by omega)
  rw [ofContents?, Text.fromUTF8?_eq_some_iff.mpr rfl, noRaw]
  simp only [looksLikeHex_of_ofHex? denotes]
  cases markedUpper text with
  | true => rfl
  | false => exact denotes

/-! ## Loading -/

/-- The secret in a variable is what its text denotes. -/
theorem ofHex?_of_ofVariable {name : String} (given : ofVariable name (some text) = .ok secret) :
    ofHex? text = some secret := by
  unfold ofVariable at given
  dsimp only at given
  split at given
  case isTrue => cases given
  case isFalse =>
    cases read : ofHex? text with
    | none =>
      rw [read] at given
      cases given
    | some other =>
      rw [read] at given
      cases given
      rfl

variable {σ : Type} (answer : JsonRpc.Transport (StateM σ))

/-- What a file gives that can be read. -/
theorem loadFile_of_read {world : World σ} {path : Path} {contents : ByteArray}
    (read : world.files.read path = .ok contents) :
    loadFile (World.host answer).files path world = (orInvalid (ofContents? contents), world) := by
  have there := World.present_host answer read
  have held : (World.host answer).files.read path world = (.ok contents, world) := by
    show (world.files.read path, world) = _
    rw [read]
  simp only [loadFile, bind, StateT.bind, there, if_true, held]
  rfl

/-- **A secret in a variable and in a file.** A text that gives a secret as the value of a variable gives the same
secret as the contents of a file, unless the text has the mark `0X`: then the file is refused. -/
theorem load_file_of_variable {world : World σ} {name text : String} {path place : Path} {secret : Secret}
    (held : World.valueOf? world.environment name = some text)
    (given : load (World.host answer).files (World.host answer).environment (.env name) world = (.ok secret, world))
    (leads : path.expand (World.host answer).environment world = (place, world))
    (contents : world.files.read place = .ok text.toUTF8) :
    load (World.host answer).files (World.host answer).environment (.file path) world =
      (if markedUpper text then .error .invalidFormat else .ok secret, world) := by
  have value : (ofVariable name (some text), world) = (.ok secret, world) := by
    rw [← held]
    exact given
  have denotes : ofHex? text = some secret := ofHex?_of_ofVariable (Prod.mk.inj value).1
  have loaded : load (World.host answer).files (World.host answer).environment (.file path) world =
      loadFile (World.host answer).files place world := by
    show ((path.expand (World.host answer).environment >>= loadFile (World.host answer).files) : StateM _ _) world = _
    simp only [bind, StateT.bind, leads]
  rw [loaded, loadFile_of_read answer contents, ofContents?_toUTF8 denotes]
  split
  case isTrue => rfl
  case isFalse => rfl

/-- A world whose variable `CLAIM_KEY` and whose file `claim.key` hold one text. -/
def heldTwice (text : String) : World Unit where
  files := ⟨[(["claim.key"], .file text.toUTF8)], []⟩
  environment := [("CLAIM_KEY", text)]
  output := ""
  network := ()

/-- The secret whose last byte alone is not zero. -/
def lastByte (byte : UInt8) : Secret := ⟨(Vector.replicate 31 0).push byte⟩

/-- Digits of either case after the mark `0x`, with white space around. -/
def spaced : String := " 0x00000000000000000000000000000000000000000000000000000000000000aB\n"

/-- The spaced text is the same secret in a file as in a variable. -/
theorem load_file_of_variable_spaced :
    World.valueOf? (heldTwice spaced).environment "CLAIM_KEY" = some spaced ∧
    load (World.host World.unreachable).files (World.host World.unreachable).environment (.env "CLAIM_KEY")
      (heldTwice spaced) = (.ok (lastByte 0xab), heldTwice spaced) ∧
    (heldTwice spaced).files.read ⟨"claim.key"⟩ = .ok spaced.toUTF8 ∧
    load (World.host World.unreachable).files (World.host World.unreachable).environment (.file ⟨"claim.key"⟩)
      (heldTwice spaced) = (.ok (lastByte 0xab), heldTwice spaced) := by
  have held : World.valueOf? (heldTwice spaced).environment "CLAIM_KEY" = some spaced := rfl
  have given : load (World.host World.unreachable).files (World.host World.unreachable).environment (.env "CLAIM_KEY")
      (heldTwice spaced) = (.ok (lastByte 0xab), heldTwice spaced) := rfl
  have leads : Path.expand (World.host World.unreachable).environment ⟨"claim.key"⟩ (heldTwice spaced) =
      (⟨"claim.key"⟩, heldTwice spaced) := rfl
  have contents : (heldTwice spaced).files.read ⟨"claim.key"⟩ = .ok spaced.toUTF8 := rfl
  have unmarked : markedUpper spaced = false := by decide +kernel
  have loaded := load_file_of_variable World.unreachable held given leads contents
  rw [unmarked] at loaded
  exact ⟨held, given, contents, loaded⟩

/-- Digits after the mark `0X`. -/
def markedDigits : String := "0X00000000000000000000000000000000000000000000000000000000000000ab"

/-- A text that is a secret in a variable and is refused in a file. -/
theorem load_file_ne_variable :
    World.valueOf? (heldTwice markedDigits).environment "CLAIM_KEY" = some markedDigits ∧
    (heldTwice markedDigits).files.read ⟨"claim.key"⟩ = .ok markedDigits.toUTF8 ∧
    (load (World.host World.unreachable).files (World.host World.unreachable).environment (.env "CLAIM_KEY")
      (heldTwice markedDigits)).1 = .ok (lastByte 0xab) ∧
    (load (World.host World.unreachable).files (World.host World.unreachable).environment (.file ⟨"claim.key"⟩)
      (heldTwice markedDigits)).1 = .error .invalidFormat := by
  exact ⟨rfl, rfl, rfl, rfl⟩

end Secret

end Allotment
