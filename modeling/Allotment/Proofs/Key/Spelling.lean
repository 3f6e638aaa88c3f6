import Allotment.Proofs.Bytes.Hex
import Allotment.Proofs.Files.Tree
import Allotment.Proofs.Key.Source

/-!
# How a secret may be spelled

* `Secret.Spells`: sixty-four hexadecimal digits that are not all zero, of either case, with a mark in front or none, and
  white space around;
* `Secret.ofHex?_eq_some_iff`: just these texts denote a secret, which is the one that is written with their digits when
  capitals are made small;
* `Secret.ReadsAsDigits`: contents that are looked at as a text, all others being the bytes of a secret or nothing
  (`Secret.ofContents?_of_readsAsDigits`, `Secret.ofContents?_of_not_readsAsDigits`);
* `Secret.loadFile_spelled`: so a file gives the secret that is spelled in it or that its bytes are, or none;
* `Secret.load_eq_zero_iff`: the secret that is all zero comes from no text and from just the file that holds its bytes.
-/

namespace Allotment.Secret

variable {text : String} {digits : List Char} {secret : Secret} {contents : ByteArray}

/-! ## Texts -/

/-- A text is spelled in the digits of a secret: there are sixty-four of them and not all are zero, with a mark in front
or none, and nothing but white space around. -/
structure Spells (text : String) (digits : List Char) : Prop where
  spelled : Hex.SpelledIn [[], ['0', 'x'], ['0', 'X']] text digits
  sixtyFour : digits.length = 64
  nonzero : ∃ c ∈ digits, c ≠ '0'

/-- The secret that is all zero, which no text denotes. -/
def zero : Secret := ⟨Vector.replicate 32 0⟩

theorem eq_zero_iff : secret = zero ↔ ∀ byte ∈ secret.bytes.toList, byte = 0 := by
  have replicated : secret = zero ↔ secret.bytes.toList = List.replicate 32 0 := by
    rw [← Vector.toList_replicate, Vector.toList_inj]
    constructor
    · rintro rfl
      rfl
    · intro same
      exact congrArg Secret.mk same
  rw [replicated, List.eq_replicate_iff]
  exact and_iff_right secret.bytes.length_toList

/-- A secret is not zero just if a digit of it is not, whatever the case of the digits. -/
theorem ne_zero_iff (known : ∀ c ∈ digits, c ∈ Hex.alphabet)
    (same : digits.map Char.toLower = Hex.encode secret.bytes.toList) : secret ≠ zero ↔ ∃ c ∈ digits, c ≠ '0' := by
  rw [Ne, eq_zero_iff, ← Hex.forall_eq_zero_iff known same]
  simp

/-- **Just the spellings of a secret denote it.** -/
theorem ofHex?_eq_some_iff :
    ofHex? text = some secret ↔
      ∃ digits, Spells text digits ∧ digits.map Char.toLower = Hex.encode secret.bytes.toList := by
  simp only [ofHex?, Option.bind_eq_bind, Option.bind_eq_some_iff, Bytes.exactly?_eq_some_iff]
  constructor
  · rintro ⟨bytes, decoded, v, rfl, made⟩
    split at made
    case isTrue => cases made
    case isFalse nonzero =>
      obtain rfl := Option.some.inj made
      obtain ⟨length, all⟩ := Hex.digits_of_decode? decoded
      have spelled := Hex.spelledIn_iff_dropMark.mpr ⟨rfl, all⟩
      have same := Hex.map_toLower_of_decode? decoded
      refine ⟨_, ⟨spelled, by rw [length, v.length_toList], ?_⟩, same⟩
      have notZero : (⟨v⟩ : Secret) ≠ zero := fun zeros => nonzero (congrArg Secret.bytes zeros)
      exact (ne_zero_iff spelled.digits same).mp notZero
  · rintro ⟨digits, spells, same⟩
    have nonzero := (ne_zero_iff spells.spelled.digits same).mpr spells.nonzero
    refine ⟨secret.bytes.toList, ?_, secret.bytes, rfl, if_neg fun zeros => nonzero (congrArg Secret.mk zeros)⟩
    rw [(Hex.spelledIn_iff_dropMark.mp spells.spelled).1,
      Hex.decode?_congr (Hex.map_value?_of_map_toLower spells.spelled.digits same), Hex.decode?_encode]

/-- Digits that are as many as a secret has and not all zero always denote one. -/
theorem exists_ofHex?_of_spells (spells : Spells text digits) : ∃ secret, ofHex? text = some secret := by
  obtain ⟨bytes, decoded, sized⟩ := Hex.exists_decode? 32 spells.sixtyFour spells.spelled.isDigit
  obtain ⟨v, rfl⟩ : ∃ v : Vector UInt8 32, bytes = v.toList := ⟨⟨bytes.toArray, by simpa using sized⟩, rfl⟩
  exact ⟨⟨v⟩, ofHex?_eq_some_iff.mpr ⟨digits, spells, Hex.map_toLower_of_decode? decoded⟩⟩

/-- Every other text denotes none. -/
theorem ofHex?_eq_none_iff : ofHex? text = none ↔ ¬∃ digits, Spells text digits := by
  constructor
  · rintro none ⟨digits, spells⟩
    obtain ⟨secret, denoted⟩ := exists_ofHex?_of_spells spells
    simp [none] at denoted
  · intro other
    cases denoted : ofHex? text with
    | none => rfl
    | some secret =>
      obtain ⟨digits, spells, -⟩ := ofHex?_eq_some_iff.mp denoted
      exact absurd ⟨digits, spells⟩ other

theorem ofHex?_ne_zero : ofHex? text ≠ some zero := by
  intro denoted
  obtain ⟨digits, spells, same⟩ := ofHex?_eq_some_iff.mp denoted
  exact (ne_zero_iff spells.spelled.digits same).mpr spells.nonzero rfl

theorem orInvalid_eq_ok_iff {found : Option Secret} : orInvalid found = .ok secret ↔ found = some secret := by
  cases found with
  | none => exact ⟨nofun, nofun⟩
  | some other => exact ⟨fun same => congrArg some (Except.ok.inj same), fun same => congrArg _ (Option.some.inj same)⟩

theorem orInvalid_eq_error_iff {found : Option Secret} {e : KeyError} :
    orInvalid found = .error e ↔ e = .invalidFormat ∧ found = none := by
  cases found with
  | none => exact ⟨fun same => ⟨(Except.error.inj same).symm, rfl⟩, fun same => congrArg _ same.1.symm⟩
  | some other => exact ⟨nofun, fun same => nomatch same.2⟩

/-! ## Contents of files -/

/-- Contents are looked at as a text: some digits are spelled in them, after the mark `0x` or none. -/
def ReadsAsDigits (contents : ByteArray) : Prop :=
  ∃ text digits, contents = text.toUTF8 ∧ digits ≠ [] ∧ Hex.SpelledIn [[], ['0', 'x']] text digits

theorem looksLikeHex_iff :
    looksLikeHex text = true ↔ ∃ digits, digits ≠ [] ∧ Hex.SpelledIn [[], ['0', 'x']] text digits := by
  simp only [Hex.spelledIn_iff (show [[], ['0', 'x']] ⊆ [[], ['0', 'x'], ['0', 'X']] by simp), List.mem_cons,
    List.not_mem_nil, or_false, exists_eq_or_imp, exists_eq_left, List.nil_append, List.cons_append]
  unfold looksLikeHex
  generalize Text.trimChars text.toList = cs
  have body (rest : List Char) : (!rest.isEmpty && rest.all Hex.isDigit) = true ↔
      rest ≠ [] ∧ ∀ c ∈ rest, Hex.isDigit c = true := by
    simp
  split
  case h_1 rest =>
    rw [body]
    constructor
    · rintro ⟨nonempty, all⟩
      exact ⟨rest, nonempty, .inr rfl, all⟩
    · rintro ⟨digits, nonempty, same | same, all⟩
      · exact absurd same.symm (Hex.ne_mark_of_digits all rest).1
      · obtain rfl : rest = digits := by simpa using same
        exact ⟨nonempty, all⟩
  case h_2 unmarked =>
    rw [body]
    constructor
    · rintro ⟨nonempty, all⟩
      exact ⟨cs, nonempty, .inl rfl, all⟩
    · rintro ⟨digits, nonempty, rfl | same, all⟩
      · exact ⟨nonempty, all⟩
      · exact absurd same (unmarked digits)

theorem readsAsDigits_iff : ReadsAsDigits contents ↔ (String.fromUTF8? contents).any looksLikeHex = true := by
  constructor
  · rintro ⟨text, digits, rfl, nonempty, spelled⟩
    rw [Text.fromUTF8?_eq_some_iff.mpr rfl]
    exact looksLikeHex_iff.mpr ⟨digits, nonempty, spelled⟩
  · intro looks
    cases decoded : String.fromUTF8? contents with
    | none => simp [decoded] at looks
    | some text =>
      rw [decoded] at looks
      obtain ⟨digits, nonempty, spelled⟩ := looksLikeHex_iff.mp looks
      exact ⟨text, digits, Text.fromUTF8?_eq_some_iff.mp decoded, nonempty, spelled⟩

instance : DecidablePred ReadsAsDigits := fun _ => decidable_of_iff _ readsAsDigits_iff.symm

theorem readsAsDigits_toUTF8 : ReadsAsDigits text.toUTF8 ↔ looksLikeHex text = true := by
  rw [readsAsDigits_iff, Text.fromUTF8?_eq_some_iff.mpr rfl]
  rfl

/-- Contents that read as digits are what these denote. -/
theorem ofContents?_of_readsAsDigits (reads : ReadsAsDigits text.toUTF8) : ofContents? text.toUTF8 = ofHex? text := by
  rw [ofContents?, Text.fromUTF8?_eq_some_iff.mpr rfl]
  exact if_pos (readsAsDigits_toUTF8.mp reads)

/-- All others are the bytes of a secret. -/
theorem ofContents?_of_not_readsAsDigits (other : ¬ReadsAsDigits contents) :
    ofContents? contents = some secret ↔ contents.data.toList = secret.bytes.toList := by
  have raw : ofContents? contents = (Bytes.exactly? 32 contents.data.toList).map Secret.mk := by
    unfold ofContents?
    cases decoded : String.fromUTF8? contents with
    | none => rfl
    | some text =>
      obtain rfl := Text.fromUTF8?_eq_some_iff.mp decoded
      exact if_neg fun looks => other (readsAsDigits_toUTF8.mpr looks)
  simp only [raw, Option.map_eq_some_iff, Bytes.exactly?_eq_some_iff]
  constructor
  · rintro ⟨v, same, rfl⟩
    exact same
  · intro same
    exact ⟨secret.bytes, same, rfl⟩

/-- A text is no secret in bytes when it holds the digits of one, as it has more than 32 bytes. -/
theorem lt_size_toUTF8 {marks : List (List Char)} (known : marks ⊆ [[], ['0', 'x'], ['0', 'X']])
    (spelled : Hex.SpelledIn marks text digits) (sixtyFour : digits.length = 64) : 32 < text.toUTF8.size := by
  obtain ⟨⟨mark, -, left⟩, -⟩ := (Hex.spelledIn_iff known).mp spelled
  have trimmed := Text.length_trimChars_le text.toList
  have bytes := Text.length_le_size_toUTF8 text
  rw [left, List.length_append] at trimmed
  omega

/-! ## Loading -/

/-- A file is read if it is there, and no file is changed. -/
theorem loadFile_eq (path : Path) (tree : FileTree) :
    loadFile FileTree.files path tree =
      (if tree.present path then
        match tree.read path with
        | .ok contents => orInvalid (ofContents? contents)
        | .error cause => .error (.unreadable cause)
      else .error (.absentFile path), tree) := by
  have there : FileTree.files.present path tree = (tree.present path, tree) := rfl
  have held : FileTree.files.read path tree = (tree.read path, tree) := rfl
  simp only [loadFile, bind, StateT.bind, there]
  cases tree.present path with
  | false => rfl
  | true =>
    simp only [if_true, StateT.bind, bind, held]
    cases tree.read path with
    | ok contents => rfl
    | error cause => rfl

theorem loadFile_eq_of_read {path : Path} {tree : FileTree} (read : tree.read path = .ok contents) :
    loadFile FileTree.files path tree = (orInvalid (ofContents? contents), tree) := by
  rw [loadFile_eq, FileTree.present_of_read read, read]
  rfl

theorem loadFile_eq_ok_iff {path : Path} {tree tree' : FileTree} :
    loadFile FileTree.files path tree = (.ok secret, tree') ↔
      tree' = tree ∧ ∃ contents, tree.read path = .ok contents ∧ ofContents? contents = some secret := by
  constructor
  · intro loaded
    rw [loadFile_eq] at loaded
    obtain ⟨found, rfl⟩ := Prod.mk.inj loaded
    refine ⟨rfl, ?_⟩
    split at found
    case isFalse => cases found
    case isTrue =>
      split at found
      case h_1 contents read => exact ⟨contents, read, orInvalid_eq_ok_iff.mp found⟩
      case h_2 => cases found
  · rintro ⟨rfl, contents, read, found⟩
    rw [loadFile_eq_of_read read, found]
    rfl

theorem load_env (env : String → Option String) (name : String) (tree : FileTree) :
    load FileTree.files (fun name => pure (env name)) (.env name) tree = (ofVariable name (env name), tree) := rfl

theorem load_file (env : String → Option String) (path : Path) (tree : FileTree) :
    load FileTree.files (fun name => pure (env name)) (.file path) tree =
      loadFile FileTree.files (Path.expandFrom ⟨(env "HOME").getD "/tmp"⟩ path) tree := rfl

/-- Loading a secret changes no file. -/
theorem load_eq (env : String → Option String) (source : KeySource) (tree : FileTree) :
    ∃ result, load FileTree.files (fun name => pure (env name)) source tree = (result, tree) := by
  cases source with
  | env name => exact ⟨_, load_env env name tree⟩
  | file path => exact ⟨_, (load_file env path tree).trans (loadFile_eq _ tree)⟩

/-- What a file gives whose contents do not read as digits. -/
theorem loadFile_of_not_readsAsDigits {path : Path} {tree : FileTree} (read : tree.read path = .ok contents)
    (other : ¬ReadsAsDigits contents) :
    (∀ secret, contents.data.toList = secret.bytes.toList → loadFile FileTree.files path tree = (.ok secret, tree)) ∧
    (contents.size ≠ 32 → loadFile FileTree.files path tree = (.error .invalidFormat, tree)) := by
  rw [loadFile_eq_of_read read]
  constructor
  · intro secret same
    rw [(ofContents?_of_not_readsAsDigits other).mpr same]
    rfl
  · intro sized
    cases found : ofContents? contents with
    | none => rfl
    | some secret =>
      have same := congrArg List.length ((ofContents?_of_not_readsAsDigits other).mp found)
      rw [secret.bytes.length_toList, Array.length_toList, ByteArray.size_data] at same
      exact absurd same sized

/-- A file in which a secret is spelled gives it, if the mark is the one that is looked for. -/
theorem loadFile_of_spelled {path : Path} {tree : FileTree} (nonzero : secret ≠ zero)
    (spelled : Hex.SpelledIn [[], ['0', 'x']] text digits)
    (same : digits.map Char.toLower = Hex.encode secret.bytes.toList) (read : tree.read path = .ok text.toUTF8) :
    loadFile FileTree.files path tree = (.ok secret, tree) := by
  have sixtyFour : digits.length = 64 := by
    have := congrArg List.length same
    rwa [List.length_map, Hex.length_encode, secret.bytes.length_toList] at this
  have reads : ReadsAsDigits text.toUTF8 := by
    refine ⟨text, digits, rfl, ?_, spelled⟩
    rintro rfl
    simp at sixtyFour
  have spells : Spells text digits := ⟨spelled.mono (by simp), sixtyFour, (ne_zero_iff spelled.digits same).mp nonzero⟩
  rw [loadFile_eq_of_read read, ofContents?_of_readsAsDigits reads, ofHex?_eq_some_iff.mpr ⟨digits, spells, same⟩]
  rfl

/-- A file that holds the bytes of a secret gives it, or none where the bytes read as digits: they are too few. -/
theorem loadFile_of_bytes {path : Path} {tree : FileTree} (same : contents.data.toList = secret.bytes.toList)
    (read : tree.read path = .ok contents) :
    (ReadsAsDigits contents → loadFile FileTree.files path tree = (.error .invalidFormat, tree)) ∧
    (¬ReadsAsDigits contents → loadFile FileTree.files path tree = (.ok secret, tree)) := by
  refine ⟨fun reads => ?_, fun other => (loadFile_of_not_readsAsDigits read other).1 secret same⟩
  obtain ⟨text, digits, rfl, nonempty, spelled⟩ := reads
  have few : text.toUTF8.size = 32 := by
    rw [← ByteArray.size_data, ← Array.length_toList, same, secret.bytes.length_toList]
  have none : ofHex? text = none := by
    rw [ofHex?_eq_none_iff]
    rintro ⟨digits, spells⟩
    have := lt_size_toUTF8 (List.Subset.refl _) spells.spelled spells.sixtyFour
    omega
  rw [loadFile_eq_of_read read, ofContents?_of_readsAsDigits ⟨text, digits, rfl, nonempty, spelled⟩, none]
  rfl

/-- **A secret has many spellings, and nothing else is taken for it.** A text denotes a secret just if it is spelled in
the secret's own digits but for capitals, and not all of them are zero; every other text is refused. A file whose
contents read as digits is what these denote, any other one is the bytes of a secret or refused. So a file gives a
secret that is not zero from its digits in any spelling without the mark `0X`, and from its bytes unless these read as
digits, in which case it gives none. -/
theorem loadFile_spelled :
    (∀ text secret, orInvalid (ofHex? text) = .ok secret ↔
      ∃ digits, Spells text digits ∧ digits.map Char.toLower = Hex.encode secret.bytes.toList) ∧
    (∀ text e, orInvalid (ofHex? text) = .error e ↔ e = .invalidFormat ∧ ¬∃ digits, Spells text digits) ∧
    ∀ (tree : FileTree) path contents, tree.read path = .ok contents →
      (∀ text, contents = text.toUTF8 → ReadsAsDigits contents →
        loadFile FileTree.files path tree = (orInvalid (ofHex? text), tree)) ∧
      (¬ReadsAsDigits contents →
        (∀ secret, contents.data.toList = secret.bytes.toList →
          loadFile FileTree.files path tree = (.ok secret, tree)) ∧
        (contents.size ≠ 32 → loadFile FileTree.files path tree = (.error .invalidFormat, tree))) ∧
      ∀ secret, secret ≠ zero →
        (∀ text digits, contents = text.toUTF8 → Hex.SpelledIn [[], ['0', 'x']] text digits →
          digits.map Char.toLower = Hex.encode secret.bytes.toList →
          loadFile FileTree.files path tree = (.ok secret, tree)) ∧
        (contents.data.toList = secret.bytes.toList →
          (ReadsAsDigits contents → loadFile FileTree.files path tree = (.error .invalidFormat, tree)) ∧
          (¬ReadsAsDigits contents → loadFile FileTree.files path tree = (.ok secret, tree))) := by
  refine ⟨fun text secret => orInvalid_eq_ok_iff.trans ofHex?_eq_some_iff, fun text e => ?_, ?_⟩
  · rw [orInvalid_eq_error_iff, ofHex?_eq_none_iff]
  · intro tree path contents read
    refine ⟨?_, loadFile_of_not_readsAsDigits read, fun secret nonzero => ⟨?_, fun same => loadFile_of_bytes same read⟩⟩
    · rintro text rfl reads
      rw [loadFile_eq_of_read read, ofContents?_of_readsAsDigits reads]
    · rintro text digits rfl spelled same
      exact loadFile_of_spelled nonzero spelled same read

/-- Three files: digits of either case with white space around, the bytes of the same secret, and the bytes of a secret
that read as digits. -/
def keyFiles : FileTree where
  entries := [
    (["hex.key"], .file spaced.toUTF8),
    (["raw.key"], .file ⟨(lastByte 0xab).bytes.toArray⟩),
    (["ones.key"], .file ⟨Array.replicate 32 0x31⟩)]
  current := []

/-- One secret from the text of a file and from the bytes of another, and a secret whose bytes are refused. -/
theorem loadFile_spelled_keyFiles :
    keyFiles.read ⟨"hex.key"⟩ = .ok spaced.toUTF8 ∧
    loadFile FileTree.files ⟨"hex.key"⟩ keyFiles = (.ok (lastByte 0xab), keyFiles) ∧
    keyFiles.read ⟨"raw.key"⟩ = .ok ⟨(lastByte 0xab).bytes.toArray⟩ ∧
    loadFile FileTree.files ⟨"raw.key"⟩ keyFiles = (.ok (lastByte 0xab), keyFiles) ∧
    keyFiles.read ⟨"ones.key"⟩ = .ok ⟨Array.replicate 32 0x31⟩ ∧
    loadFile FileTree.files ⟨"ones.key"⟩ keyFiles = (.error .invalidFormat, keyFiles) := by
  have hex : keyFiles.read ⟨"hex.key"⟩ = .ok spaced.toUTF8 := rfl
  have raw : keyFiles.read ⟨"raw.key"⟩ = .ok ⟨(lastByte 0xab).bytes.toArray⟩ := rfl
  have ones : keyFiles.read ⟨"ones.key"⟩ = .ok ⟨Array.replicate 32 0x31⟩ := rfl
  have spelled : Hex.SpelledIn [[], ['0', 'x']] spaced (List.replicate 62 '0' ++ ['a', 'B']) :=
    (Hex.spelledIn_iff (by simp)).mpr ⟨⟨['0', 'x'], by simp, by decide +kernel⟩, List.all_eq_true.mp (by decide)⟩
  have other : ¬ReadsAsDigits ⟨(lastByte 0xab).bytes.toArray⟩ := by decide +kernel
  have reads : ReadsAsDigits ⟨Array.replicate 32 0x31⟩ := by decide +kernel
  refine ⟨hex, ?_, raw, ?_, ones, ?_⟩
  · exact ((loadFile_spelled.2.2 _ _ _ hex).2.2 _ (by decide)).1 _ _ rfl spelled (by decide)
  · exact (((loadFile_spelled.2.2 _ _ _ raw).2.2 _ (by decide)).2 rfl).2 other
  · exact (((loadFile_spelled.2.2 _ _ _ ones).2.2 ⟨Vector.replicate 32 0x31⟩ (by decide)).2 rfl).1 reads

/-! ## The secret that is all zero -/

/-- Digits that are all zero denote nothing, neither as a text nor as the contents of a file. -/
theorem ofContents?_of_zeros (spelled : Hex.SpelledIn [[], ['0', 'x'], ['0', 'X']] text digits)
    (sixtyFour : digits.length = 64) (zeros : ∀ c ∈ digits, c = '0') :
    ofHex? text = none ∧ ofContents? text.toUTF8 = none := by
  have none : ofHex? text = none := by
    rw [ofHex?_eq_none_iff]
    rintro ⟨digits', spells⟩
    obtain rfl : digits = digits' :=
      (Hex.spelledIn_iff_dropMark.mp spelled).1.symm.trans (Hex.spelledIn_iff_dropMark.mp spells.spelled).1
    obtain ⟨c, mem, nonzero⟩ := spells.nonzero
    exact nonzero (zeros c mem)
  refine ⟨none, ?_⟩
  by_cases reads : ReadsAsDigits text.toUTF8
  · rw [ofContents?_of_readsAsDigits reads, none]
  · cases found : ofContents? text.toUTF8 with
    | none => rfl
    | some secret =>
      have same := congrArg List.length ((ofContents?_of_not_readsAsDigits reads).mp found)
      have long := lt_size_toUTF8 (List.Subset.refl _) spelled sixtyFour
      rw [secret.bytes.length_toList, Array.length_toList, ByteArray.size_data] at same
      omega

/-- A text with digits in it is not blank. -/
theorem isBlankText_of_spelled (spelled : Hex.SpelledIn [[], ['0', 'x'], ['0', 'X']] text digits)
    (nonempty : digits ≠ []) : Text.isBlankText text = false := by
  rw [Bool.eq_false_iff, Ne, Text.isBlankText, List.all_eq_true, ← Text.trimChars_eq_nil_iff]
  intro blank
  obtain ⟨⟨mark, -, left⟩, -⟩ := (Hex.spelledIn_iff (List.Subset.refl _)).mp spelled
  rw [blank] at left
  exact nonempty (List.append_eq_nil_iff.mp left.symm).2

/-- Of contents, just the bytes of this secret denote it. -/
theorem ofContents?_eq_zero_iff : ofContents? contents = some zero ↔ contents.data.toList = zero.bytes.toList := by
  constructor
  · intro found
    by_cases reads : ReadsAsDigits contents
    · obtain ⟨text, -, rfl, -⟩ := id reads
      rw [ofContents?_of_readsAsDigits reads] at found
      exact absurd found ofHex?_ne_zero
    · exact (ofContents?_of_not_readsAsDigits reads).mp found
  · intro same
    have other : ¬ReadsAsDigits ⟨zero.bytes.toArray⟩ := by decide +kernel
    obtain rfl : contents = ⟨zero.bytes.toArray⟩ := congrArg ByteArray.mk (Array.toList_inj.mp same)
    exact (ofContents?_of_not_readsAsDigits other).mpr rfl

/-- **Where the secret that is all zero comes from.** It comes from no variable and from no text, but from a file that
holds its 32 bytes, and from nothing else. Its digits are refused wherever they stand. -/
theorem load_eq_zero_iff (env : String → Option String) (tree : FileTree) :
    (∀ source tree', load FileTree.files (fun name => pure (env name)) source tree = (.ok zero, tree') ↔
      tree' = tree ∧ ∃ path contents, source = .file path ∧
        tree.read (Path.expandFrom ⟨(env "HOME").getD "/tmp"⟩ path) = .ok contents ∧
        contents.data.toList = zero.bytes.toList) ∧
    ∀ text digits, Hex.SpelledIn [[], ['0', 'x'], ['0', 'X']] text digits → digits.length = 64 →
      (∀ c ∈ digits, c = '0') →
      (∀ name, env name = some text →
        load FileTree.files (fun name => pure (env name)) (.env name) tree = (.error .invalidFormat, tree)) ∧
      ∀ path, tree.read (Path.expandFrom ⟨(env "HOME").getD "/tmp"⟩ path) = .ok text.toUTF8 →
        load FileTree.files (fun name => pure (env name)) (.file path) tree = (.error .invalidFormat, tree) := by
  constructor
  · intro source tree'
    cases source with
    | env name =>
      rw [load_env]
      constructor
      · intro given
        have given := (Prod.mk.inj given).1
        cases value : env name with
        | none => simp [value, ofVariable] at given
        | some text =>
          rw [value] at given
          exact absurd (ofHex?_of_ofVariable given) ofHex?_ne_zero
      · rintro ⟨-, path, contents, ⟨⟩, -⟩
    | file path =>
      simp only [load_file, loadFile_eq_ok_iff, ofContents?_eq_zero_iff]
      constructor
      · rintro ⟨rfl, contents, read, zeros⟩
        exact ⟨rfl, path, contents, rfl, read, zeros⟩
      · rintro ⟨rfl, _, contents, ⟨⟩, read, zeros⟩
        exact ⟨rfl, contents, read, zeros⟩
  · intro text digits spelled sixtyFour zeros
    obtain ⟨noText, noContents⟩ := ofContents?_of_zeros spelled sixtyFour zeros
    constructor
    · intro name value
      have visible : Text.isBlankText text = false := by
        refine isBlankText_of_spelled spelled ?_
        rintro rfl
        simp at sixtyFour
      rw [load_env, value, ofVariable, visible, noText]
      rfl
    · intro path read
      rw [load_file, loadFile_eq_of_read read, noContents]
      rfl

/-- Two files: the bytes of the secret that is all zero, and its digits. -/
def zeroFiles : FileTree where
  entries := [
    (["zero.key"], .file ⟨zero.bytes.toArray⟩),
    (["hex.key"], .file (String.ofList (List.replicate 64 '0')).toUTF8)]
  current := []

/-- The secret that is all zero is taken from its bytes and refused as digits. -/
theorem load_eq_zero_zeroFiles :
    load FileTree.files (fun _ => pure none) (.file ⟨"zero.key"⟩) zeroFiles = (.ok zero, zeroFiles) ∧
    load FileTree.files (fun _ => pure none) (.file ⟨"hex.key"⟩) zeroFiles = (.error .invalidFormat, zeroFiles) := by
  have spelled : Hex.SpelledIn [[], ['0', 'x'], ['0', 'X']] (String.ofList (List.replicate 64 '0'))
      (List.replicate 64 '0') :=
    Hex.spelledIn_iff_dropMark.mpr ⟨by decide +kernel, List.all_eq_true.mp (by decide)⟩
  have zeros : ∀ c ∈ List.replicate 64 '0', c = '0' := fun c mem => List.eq_of_mem_replicate mem
  have both := load_eq_zero_iff (fun _ => none) zeroFiles
  exact ⟨(both.1 _ _).mpr ⟨rfl, _, _, rfl, rfl, rfl⟩, (both.2 _ _ spelled rfl zeros).2 _ rfl⟩

/-- Not every secret that is loaded has a byte that is not zero: a file of 32 zero bytes gives one. -/
theorem not_forall_load_ne_zero :
    ¬∀ (env : String → Option String) (source : KeySource) (tree tree' : FileTree) (secret : Secret),
      load FileTree.files (fun name => pure (env name)) source tree = (.ok secret, tree') → secret ≠ zero :=
  fun never => never (fun _ => none) (.file ⟨"zero.key"⟩) zeroFiles zeroFiles zero rfl rfl

end Allotment.Secret
