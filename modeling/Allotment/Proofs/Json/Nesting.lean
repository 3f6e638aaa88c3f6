import Allotment.Proofs.Json.Restoring

/-!
# How deep values are nested

A text is read with a limit on the arrays and objects that are nested in one another. What was written is read back as
it was just if the limit allows for its nesting, and is malformed otherwise:

* `Decoder.valueWith_document` and `Decoder.object_document` say so of any values that are `Regular`, as all values are
  that have been read;
* `Decoder.Fits` says so of a decoder and a value, and is put together along lists and records (`Decoder.fits_list`,
  `RecordFormat.fits`); what can be restored at any depth fits at any depth (`Decoder.Fits.of_restores`);
* `Decoder.Fits.decodeText` carries this over to texts.
-/

namespace Allotment.Json

/-! ## Nesting -/

mutual

/-- How many arrays and objects are nested in one another in a value. -/
def nesting : Json → Nat
  | .array items => itemsNesting items + 1
  | .object members => membersNesting members + 1
  | _ => 0

/-- How many are nested in one another in an item. -/
def itemsNesting : List Json → Nat
  | [] => 0
  | item :: items => max item.nesting (itemsNesting items)

/-- How many are nested in one another in the value of a member. -/
def membersNesting : List (String × Json) → Nat
  | [] => 0
  | (_, value) :: members => max value.nesting (membersNesting members)

end

variable {depth : Nat}

theorem itemsNesting_lt_iff (some : 1 ≤ depth) {items : List Json} :
    itemsNesting items < depth ↔ ∀ item ∈ items, item.nesting < depth := by
  induction items with
  | nil => exact ⟨nofun, fun _ => some⟩
  | cons item items ih => rw [itemsNesting, Nat.max_lt, ih, List.forall_mem_cons]

theorem membersNesting_lt_iff (some : 1 ≤ depth) {members : List (String × Json)} :
    membersNesting members < depth ↔ ∀ member ∈ members, member.2.nesting < depth := by
  induction members with
  | nil => exact ⟨nofun, fun _ => some⟩
  | cons member members ih => rw [membersNesting, Nat.max_lt, ih, List.forall_mem_cons]

/-! ## Exact values -/

mutual

/-- Whether no floating-point number stands in a value. -/
def isExact : Json → Bool
  | .number (.real _) => false
  | .array items => exactItems items
  | .object members => exactMembers members
  | _ => true

/-- Whether no floating-point number stands in the items. -/
def exactItems : List Json → Bool
  | [] => true
  | item :: items => item.isExact && exactItems items

/-- Whether no floating-point number stands in the values of members. -/
def exactMembers : List (String × Json) → Bool
  | [] => true
  | (_, value) :: members => value.isExact && exactMembers members

end

mutual

/-- The document of an exact value is without faults. -/
theorem sound_document (value : Json) : value.document.sound = value.isExact := by
  match value with
  | .null | .bool _ | .number (.integer _) | .number (.real _) | .string _ => rfl
  | .array items => exact sound_documents items
  | .object members => exact sound_memberDocuments members

theorem sound_documents (items : List Json) : Document.soundItems (documents items) = exactItems items := by
  match items with
  | [] => rfl
  | item :: items => rw [documents, Document.soundItems, sound_document item, sound_documents items, exactItems]

theorem sound_memberDocuments (members : List (String × Json)) :
    Document.soundMembers (memberDocuments members) = exactMembers members := by
  match members with
  | [] => rfl
  | (_, value) :: members =>
    rw [memberDocuments, Document.soundMembers, sound_document value, sound_memberDocuments members, exactMembers]
    rfl

end

/-! ## Regular values -/

/-- An integer is one that a numeral is read as. -/
def Number.Regular : Number → Prop
  | .integer value => -0x8000000000000000 ≤ value ∧ value < 0x10000000000000000
  | .real _ => True

mutual

/-- A value is one that can be read: its integers are, the names in an object differ, and no object starts with the
reserved name. -/
def Regular : Json → Prop
  | .number n => n.Regular
  | .array items => RegularItems items
  | .object members =>
    (members.map Prod.fst).Nodup ∧ (members.map Prod.fst).head? ≠ some Decoder.embeddedName ∧ RegularMembers members
  | _ => True

/-- All items can be read. -/
def RegularItems : List Json → Prop
  | [] => True
  | item :: items => item.Regular ∧ RegularItems items

/-- The values of all members can be read. -/
def RegularMembers : List (String × Json) → Prop
  | [] => True
  | (_, value) :: members => value.Regular ∧ RegularMembers members

end

/-! ## What the limit allows for -/

section Limit

variable {α β : Type} {p q r : Prop} [Decidable p] [Decidable q] [Decidable r] {a : α} {b : β}

/-- A value that is read if the limit allows for it. -/
def allowed (p : Prop) [Decidable p] (a : α) : Except Fault α := if p then .ok a else .error .malformed

theorem allowed_of_true (holds : p) : allowed p a = .ok a := if_pos holds

theorem allowed_of_false (fails : ¬p) : allowed p a = .error .malformed := if_neg fails

theorem map_allowed (f : α → β) : (allowed p a).map f = allowed p (f a) := by
  unfold allowed
  split
  case isTrue => rfl
  case isFalse => rfl

/-- Two values are read one after the other if the limit allows for both. -/
theorem allowed_bind {next : α → Except Fault β} (both : r ↔ p ∧ q) (after : p → next a = allowed q b) :
    (allowed p a >>= next) = allowed r b := by
  by_cases first : p
  case pos =>
    rw [allowed_of_true first, ok_bind, after first]
    by_cases second : q
    case pos => rw [allowed_of_true second, allowed_of_true (both.mpr ⟨first, second⟩)]
    case neg => rw [allowed_of_false second, allowed_of_false fun whole => second (both.mp whole).2]
  case neg =>
    rw [allowed_of_false first, allowed_of_false fun whole => first (both.mp whole).1]
    rfl

/-- A container is read if the limit allows for one more and for what is inside. -/
theorem allowed_inside {depth n : Nat} {inside : Except Fault α}
    (read : 1 ≤ depth - 1 → inside = allowed (n < depth - 1) a) :
    (if depth ≤ 1 then .error .malformed else inside) = allowed (n + 1 < depth) a := by
  by_cases outside : depth ≤ 1
  case pos => rw [if_pos outside, allowed_of_false (by omega)]
  case neg =>
    rw [if_neg outside, read (by omega)]
    exact if_congr (by omega) rfl rfl

end Limit

/-! ## Reading what was written -/

theorem decode_integer {value : Int} (regular : (Number.integer value).Regular) :
    (Numeral.ofInt value).decode = .ok (.integer value) := by
  obtain ⟨low, high⟩ := regular
  by_cases negative : value < 0
  case pos =>
    have fits : 0 < value.natAbs ∧ value.natAbs ≤ 0x8000000000000000 := by omega
    have whole : -(value.natAbs : Int) = value := by omega
    have denoted : (Numeral.ofInt value).toNumber? = some (.integer (-(value.natAbs : Int))) := by
      rw [Numeral.toNumber?, if_neg (by simp [Numeral.ofInt, negative]),
        if_pos (by simp [Numeral.isPlain, Numeral.ofInt, negative, fits])]
      rfl
    rw [Numeral.decode, denoted, whole]
  case neg =>
    obtain ⟨n, rfl⟩ := Int.eq_ofNat_of_zero_le (Int.not_lt.mp negative)
    exact decode_natural (show n < 0x10000000000000000 by omega)

/-- A member with a new name is put behind the others. -/
theorem insertMember_of_not_mem {name : String} {value : Json} {members : List (String × Json)}
    (fresh : name ∉ members.map Prod.fst) : insertMember name value members = members ++ [(name, value)] := by
  induction members with
  | nil => rfl
  | cons member members ih =>
    rw [List.map_cons, List.mem_cons, not_or] at fresh
    rw [insertMember, if_neg (Ne.symm fresh.1), ih fresh.2, List.cons_append]

namespace Decoder

variable (embedded : String → Except Fault Json)

mutual

/-- **A value is read as it was written just if the limit allows for its nesting.** -/
theorem valueWith_document (value : Json) (regular : value.Regular) (exact : value.isExact = true) {depth : Nat}
    (some : 1 ≤ depth) : valueWith embedded depth value.document = allowed (value.nesting < depth) value := by
  match value with
  | .null | .bool _ => exact (allowed_of_true some).symm
  | .number (.integer value) =>
    rw [document, Number.document, valueWith, decode_integer regular]
    exact (allowed_of_true some).symm
  | .number (.real _) => cases exact
  | .string value =>
    rw [document, valueWith, decodePieces_pieceOf]
    exact (allowed_of_true some).symm
  | .array items =>
    rw [document, valueWith, nesting]
    exact allowed_inside fun some => by rw [itemsWith_documents items regular exact some, map_allowed]
  | .object [] =>
    rw [document, memberDocuments, valueWith, nesting, membersNesting]
    exact allowed_inside fun some => (allowed_of_true some).symm
  | .object ((name, first) :: members) =>
    obtain ⟨distinct, plain, regularFirst, regularMembers⟩ := regular
    obtain ⟨exactFirst, exactMembers⟩ := Bool.and_eq_true_iff.mp exact
    have plain : name ≠ embeddedName := fun same => plain (congrArg Option.some same)
    rw [document, memberDocuments, valueWith, nesting, membersNesting]
    refine allowed_inside fun some => ?_
    rw [objectWith, memberName, decodePieces_pieceOf, ok_bind, if_neg plain,
      valueWith_document first regularFirst exactFirst some]
    refine allowed_bind Nat.max_lt fun _ => ?_
    rw [membersWith_documents members regularMembers exactMembers some distinct, map_allowed, List.singleton_append]

theorem itemsWith_documents (items : List Json) (regular : RegularItems items) (exact : exactItems items = true)
    {depth : Nat} (some : 1 ≤ depth) :
    itemsWith embedded depth (documents items) = allowed (itemsNesting items < depth) items := by
  match items with
  | [] => exact (allowed_of_true some).symm
  | item :: items =>
    obtain ⟨regularFirst, regularItems⟩ := regular
    obtain ⟨exactFirst, exactItems⟩ := Bool.and_eq_true_iff.mp exact
    rw [documents, itemsWith, itemsNesting, valueWith_document item regularFirst exactFirst some,
      itemsWith_documents items regularItems exactItems some]
    exact allowed_bind Nat.max_lt fun _ => map_allowed (item :: ·)

/-- Members with new names are put behind those already met. -/
theorem membersWith_documents (members : List (String × Json)) (regular : RegularMembers members)
    (exact : exactMembers members = true) {depth : Nat} (some : 1 ≤ depth) {met : List (String × Json)}
    (distinct : ((met ++ members).map Prod.fst).Nodup) :
    membersWith embedded depth met (memberDocuments members) =
      allowed (membersNesting members < depth) (met ++ members) := by
  match members with
  | [] =>
    rw [List.append_nil]
    exact (allowed_of_true some).symm
  | (name, value) :: members =>
    obtain ⟨regularFirst, regularMembers⟩ := regular
    obtain ⟨exactFirst, exactMembers⟩ := Bool.and_eq_true_iff.mp exact
    have fresh : name ∉ met.map Prod.fst := by
      rw [List.map_append, List.nodup_append] at distinct
      exact fun mem => distinct.2.2 name mem name List.mem_cons_self rfl
    rw [← List.singleton_append, ← List.append_assoc] at distinct ⊢
    rw [List.singleton_append, memberDocuments, membersWith, memberName, decodePieces_pieceOf, ok_bind, membersNesting,
      valueWith_document value regularFirst exactFirst some]
    refine allowed_bind Nat.max_lt fun _ => ?_
    rw [insertMember_of_not_mem fresh, membersWith_documents members regularMembers exactMembers some distinct]

end

/-! ## Decoders -/

variable {α σ : Type}

/-- What a decoder takes out of the document of a value written is that value, if the limit allows for its nesting. -/
structure Fits (decoder : Decoder α) (write : α → Json) (a : α) : Prop where
  sound : (write a).document.sound = true
  decode {depth : Nat} (some : 1 ≤ depth) :
    decoder depth (write a).document = allowed ((write a).nesting < depth) a

/-- What is restored at any depth fits. -/
theorem Fits.of_restores {decoder : Decoder α} {write : α → Json} (restores : decoder.Restores write 0)
    (flat : ∀ a, (write a).nesting = 0) (a : α) : decoder.Fits write a where
  sound := restores.sound a
  decode some := by rw [restores.decode a (Nat.zero_le _), allowed_of_true (by rw [flat]; exact some)]

/-- The members of an object with regular and exact values fit. -/
theorem fits_object {members : List (String × Json)} (distinct : (members.map Prod.fst).Nodup)
    (regular : RegularMembers members) (exact : exactMembers members = true) :
    Decoder.object.Fits .object members where
  sound := (sound_memberDocuments members).trans exact
  decode some := by
    rw [document, object, enter, nesting]
    exact allowed_inside fun some => membersWith_documents embeddedValue members regular exact some distinct

/-- A list fits whose items fit. -/
theorem fits_list {decoder : Decoder α} {write : α → Json} {items : List α}
    (fits : ∀ a ∈ items, decoder.Fits write a) :
    (Decoder.list decoder).Fits (fun items => .array (items.map write)) items where
  sound := by
    show Document.soundItems (documents (items.map write)) = true
    rw [documents_eq, Document.soundItems_eq, List.all_eq_true]
    simp only [List.mem_map]
    rintro _ ⟨_, ⟨a, mem, rfl⟩, rfl⟩
    exact (fits a mem).sound
  decode {depth} some := by
    have inside {depth : Nat} (some : 1 ≤ depth) :
        (documents (items.map write)).mapM (decoder depth) =
          allowed (itemsNesting (items.map write) < depth) items := by
      induction items with
      | nil => exact (allowed_of_true some).symm
      | cons a items ih =>
        obtain ⟨first, others⟩ := List.forall_mem_cons.mp fits
        rw [List.map_cons, documents, List.mapM_cons, first.decode some, itemsNesting]
        refine allowed_bind Nat.max_lt fun _ => ?_
        rw [ih others]
        exact map_allowed (a :: ·)
    rw [document, list, enter, nesting]
    exact allowed_inside inside

end Decoder

/-! ## Records -/

variable {α σ : Type}

/-- What is read for a field that was written from `s` is the given change, if the limit allows for its nesting. -/
structure Field.Fits (field : Field σ) (s : σ) (change : σ → σ) : Prop where
  sound : (field.write s).document.sound = true
  read {depth : Nat} (some : 1 ≤ depth) :
    field.read depth (field.write s).document = allowed ((field.write s).nesting < depth) change

/-- A field whose value fits puts that value in place. -/
theorem Field.fits_of {decoder : Decoder α} {write : α → Json} {get : σ → α} {s : σ}
    (fits : decoder.Fits write (get s)) (name : String) (set : α → σ → σ) :
    (Field.of name decoder write get set).Fits s (set (get s)) where
  sound := fits.sound
  read {depth} some := by
    show (decoder depth (write (get s)).document).map set = _
    rw [fits.decode some, map_allowed]
    rfl

/-- A record is as deep as its fields, and one deeper. -/
theorem RecordFormat.nesting_write_lt_iff {format : RecordFormat σ} {s : σ} (some : 1 ≤ depth) :
    (format.write s).nesting < depth + 1 ↔ ∀ field ∈ format.fields, (field.write s).nesting < depth := by
  rw [write, nesting, Nat.add_lt_add_iff_right, membersNesting_lt_iff some, List.forall_mem_map]

/-- **A record fits whose fields fit** and together make up the whole structure. -/
theorem RecordFormat.fits {format : RecordFormat σ} (distinct : (format.fields.map Field.name).Nodup) {s : σ}
    {changes : List (σ → σ)} (fields : List.Forall₂ (Field.Fits · s ·) format.fields changes)
    (whole : changes.foldl (fun s change => change s) format.initial = s) :
    format.decoder.Fits format.write s where
  sound := sound_write (fields.imp fun _ _ fits => fits.sound)
  decode {depth} some := by
    by_cases outside : depth ≤ 1
    case pos =>
      rw [allowed_of_false (by rw [write, nesting]; omega)]
      exact if_pos outside
    case neg =>
      obtain ⟨depth, rfl⟩ : ∃ inside, depth = inside + 1 := ⟨depth - 1, by omega⟩
      rw [decoder_written distinct (by omega) (fields.imp fun field change fits => fits.read (by omega)) whole]
      exact if_congr (nesting_write_lt_iff (by omega)).symm rfl rfl

/-- What is taken out of the text of a value is what is taken out of its document. -/
theorem decodeText_render (decoder : Decoder α) {value : Json} (sound : value.document.sound = true) (layout : Layout) :
    decodeText decoder (value.render layout) = decoder Depth.outermost value.document := by
  have read := read_render layout sound (List.forall_mem_nil _)
  rw [String.ofList_nil, String.append_empty] at read
  rw [decodeText, read]
  dsimp only
  cases decoder Depth.outermost value.document with
  | error fault => rfl
  | ok a => rfl

/-- What fits is taken out of its text, if the outermost limit allows for its nesting. -/
theorem Decoder.Fits.decodeText {decoder : Decoder α} {write : α → Json} {a : α} (fits : decoder.Fits write a)
    (layout : Layout) :
    decodeText decoder ((write a).render layout) = allowed ((write a).nesting < Depth.outermost) a :=
  (decodeText_render decoder fits.sound layout).trans (fits.decode (by decide))

/-! ## Embedded texts -/

namespace Decoder

/-- What a decoder takes out of a text that a regular and exact value is written as. -/
theorem fits_valueWith (embedded : String → Except Fault Json) {value : Json} (regular : value.Regular)
    (exact : value.isExact = true) : Fits (valueWith embedded) id value where
  sound := (sound_document value).trans exact
  decode := valueWith_document embedded value regular exact

/-- **A text that is embedded is read with the whole limit for itself**, however deep it stands. -/
theorem value_embedded {value : Json} (regular : value.Regular) (exact : value.isExact = true)
    (nonempty : value.compact ≠ "") {depth : Nat} (some : 2 ≤ depth) :
    Decoder.value depth (Json.object [(embeddedName, .string value.compact)]).document =
      allowed (value.nesting < Depth.outermost) value := by
  obtain ⟨limit, length⟩ := Nat.exists_eq_succ_of_ne_zero (mt String.length_eq_zero_iff.mp nonempty)
  have said : embeddedValue value.compact = allowed (value.nesting < Depth.outermost) value := by
    rw [embeddedValue, length, valueOfText]
    exact (fits_valueWith _ regular exact).decodeText .compact
  rw [Decoder.value, document, memberDocuments, document, valueWith, if_neg (Nat.not_le.mpr some), objectWith,
    memberName, decodePieces_pieceOf, ok_bind, if_pos rfl, embeddedText, decodePieces_pieceOf, ok_bind, said]
  exact allowed_bind (iff_of_eq (and_true _).symm) fun _ => (allowed_of_true trivial).symm

end Decoder

end Allotment.Json
