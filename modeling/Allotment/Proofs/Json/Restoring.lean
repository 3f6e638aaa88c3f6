import Mathlib.Data.List.Forall2
import Mathlib.Data.List.Nodup
import Allotment.Json.Record
import Allotment.Proofs.Json.Written
import Allotment.Proofs.Outcome

/-!
# Decoders that take out what was written

`Decoder.Restores decoder write least` says that `decoder` takes the value out of the document of what `write` made of
it, wherever a depth of `least` is left. Numbers and strings are restored anywhere; a list needs one container more
than its items (`Decoder.restores_list`), and a record one more than its fields, provided that their names differ
(`RecordFormat.restores`). What is restored from documents is restored from texts (`Decoder.Restores.decodeText`).
-/

namespace Allotment.Json

variable {α σ : Type}

/-- What the decoder takes out of the document of a value written is that value. -/
structure Decoder.Restores (decoder : Decoder α) (write : α → Json) (least : Nat) : Prop where
  sound (a : α) : (write a).document.sound = true
  decode (a : α) {depth : Nat} (enough : least ≤ depth) : decoder depth (write a).document = .ok a

theorem Decoder.Restores.mono {decoder : Decoder α} {write : α → Json} {least least' : Nat}
    (restores : decoder.Restores write least) (more : least ≤ least') : decoder.Restores write least' where
  sound := restores.sound
  decode a _ enough := restores.decode a (Nat.le_trans more enough)

/-! ## Numbers and strings -/

theorem decode_natural {n : Nat} (fits : n < UInt64.size) : (Numeral.ofInt n).decode = .ok (.integer n) := by
  have plain : ((n : Int) < 0) = False := eq_false (by omega)
  simp [Numeral.decode, Numeral.toNumber?, Numeral.ofInt, Numeral.isPlain, fits]

theorem toUInt64?_natural (n : UInt64) : (Number.integer n.toNat).toUInt64? = some n := by
  have fits : (0 : Int) ≤ n.toNat ∧ (n.toNat : Int).toNat < UInt64.size := ⟨Int.natCast_nonneg _, n.toNat_lt_size⟩
  rw [Number.toUInt64?, dif_pos fits]
  rfl

theorem Decoder.restores_uint64 : Decoder.uint64.Restores Json.ofUInt64 0 where
  sound _ := rfl
  decode n depth _ := by
    show Decoder.uint64 depth (.number (.ofInt n.toNat)) = .ok n
    simp only [Decoder.uint64, decode_natural n.toNat_lt_size, toUInt64?_natural]

theorem decodePieces_pieceOf (s : String) : decodePieces (s.toList.map pieceOf) = .ok s := by
  rw [decodePieces, joinPieces?_pieceOf]
  show Except.ok (String.ofList s.toList) = .ok s
  rw [String.ofList_toList]

theorem Decoder.restores_string : Decoder.string.Restores Json.string 0 where
  sound _ := rfl
  decode s _ _ := decodePieces_pieceOf s

theorem Decoder.restores_bool : Decoder.bool.Restores Json.bool 0 where
  sound _ := rfl
  decode _ _ _ := rfl

theorem Decoder.restores_plainNat (bound : Nat) :
    (Decoder.plainNat bound).Restores (fun n => Json.ofNat n.val) 0 where
  sound _ := rfl
  decode n depth _ := by
    have natural : ¬(n.val : Int) < 0 := by omega
    have plain : (Numeral.ofInt n.val).isPlain ∧ (Numeral.ofInt n.val).negative = false ∧
        (Numeral.ofInt n.val).whole < bound := ⟨rfl, decide_eq_false natural, n.isLt⟩
    show Decoder.plainNat bound depth (.number (.ofInt n.val)) = .ok n
    rw [Decoder.plainNat, dif_pos plain]
    rfl

/-- A value that is not written as null is told from none. -/
theorem Decoder.restores_option {decoder : Decoder α} {write : α → Json} {least : Nat}
    (restores : decoder.Restores write least) (visible : ∀ a, (write a).document ≠ .null) :
    (Decoder.option decoder).Restores (Json.ofOption write) least where
  sound o := by
    cases o with
    | none => rfl
    | some a => exact restores.sound a
  decode o depth enough := by
    cases o with
    | none => rfl
    | some a =>
      show Decoder.option decoder depth (write a).document = .ok (some a)
      unfold Decoder.option
      split
      case h_1 null => exact absurd null (visible a)
      case h_2 =>
        rw [restores.decode a enough]
        rfl

/-! ## Lists -/

theorem documents_eq (items : List Json) : documents items = items.map document := by
  induction items with
  | nil => rfl
  | cons item items ih => rw [documents, ih, List.map_cons]

theorem Document.soundItems_eq (items : List Document) : soundItems items = items.all sound := by
  induction items with
  | nil => rfl
  | cons item items ih => rw [soundItems, ih, List.all_cons]

theorem Decoder.mapM_restores {decoder : Decoder α} {write : α → Json} {least depth : Nat}
    (restores : decoder.Restores write least) (enough : least ≤ depth) (items : List α) :
    (items.map fun a => (write a).document).mapM (decoder depth) = .ok items := by
  induction items with
  | nil => rfl
  | cons a items ih =>
    rw [List.map_cons, List.mapM_cons, restores.decode a enough, ih]
    rfl

/-- Opening a container leaves one depth less. -/
theorem Decoder.enter_of_le {depth : Nat} (enough : 2 ≤ depth) (inside : Depth → Except Fault α) :
    Decoder.enter depth inside = inside (depth - 1) := by
  rw [enter, if_neg (Nat.not_le.mpr enough)]

/-- What is inside of a container is read with one depth less, if there is any left. -/
theorem Decoder.enter_eq_ok_iff {depth : Nat} {inside : Depth → Except Fault α} {a : α} :
    Decoder.enter depth inside = .ok a ↔ 1 ≤ depth - 1 ∧ inside (depth - 1) = .ok a := by
  unfold enter
  split
  case isTrue outside =>
    constructor
    · rintro ⟨⟩
    · rintro ⟨some, -⟩
      exact absurd outside (Nat.not_le.mpr (Nat.lt_of_sub_pos some))
  case isFalse left => rw [and_iff_right (Nat.le_sub_one_of_lt (Nat.not_le.mp left))]

/-- A list is restored where its items are restored one container deeper. -/
theorem Decoder.restores_list {decoder : Decoder α} {write : α → Json} {least : Nat}
    (restores : decoder.Restores write least) :
    (Decoder.list decoder).Restores (fun items => .array (items.map write)) (max 2 (least + 1)) where
  sound items := by
    show Document.soundItems (documents (items.map write)) = true
    rw [documents_eq, Document.soundItems_eq, List.all_eq_true]
    simp only [List.mem_map]
    rintro _ ⟨_, ⟨a, -, rfl⟩, rfl⟩
    exact restores.sound a
  decode items (depth : Nat) enough := by
    show Decoder.list decoder depth (.array (documents (items.map write))) = .ok items
    rw [documents_eq, List.map_map, Decoder.list, Decoder.enter_of_le (by omega)]
    exact mapM_restores restores (by omega) items

/-! ## Records -/

/-- What is read for a field that was written from `s` is the given change. -/
structure Field.Restores (field : Field σ) (s : σ) (least : Nat) (change : σ → σ) : Prop where
  sound : (field.write s).document.sound = true
  read {depth : Nat} (enough : least ≤ depth) : field.read depth (field.write s).document = .ok change

theorem Field.Restores.mandatory {field : Field σ} {s : σ} {least : Nat} {change : σ → σ}
    (restores : field.Restores s least change) : field.mandatory.Restores s least change where
  sound := restores.sound
  read := restores.read

/-- A field whose value is restored puts that value in place. -/
theorem Field.restores_of {decoder : Decoder α} {write : α → Json} {least : Nat}
    (restores : decoder.Restores write least) (name : String) (get : σ → α) (set : α → σ → σ) (s : σ) :
    (Field.of name decoder write get set).Restores s least (set (get s)) where
  sound := restores.sound (get s)
  read {depth} enough := by
    show (decoder depth (write (get s)).document).map set = .ok (set (get s))
    rw [restores.decode (get s) enough]
    rfl

namespace RecordFormat

theorem find?_of_mem {fields : List (Field σ)} (distinct : (fields.map Field.name).Nodup) {field : Field σ}
    (mem : field ∈ fields) : fields.find? (·.name == field.name) = some field := by
  induction fields with
  | nil => cases mem
  | cons other fields ih =>
    obtain ⟨fresh, distinct⟩ := List.nodup_cons.mp distinct
    rcases List.mem_cons.mp mem with rfl | mem
    · exact List.find?_cons_of_pos (beq_self_eq_true field.name)
    · have differs : other.name ≠ field.name := fun same => fresh (same ▸ List.mem_map_of_mem mem)
      rw [List.find?_cons_of_neg (by simpa using differs), ih distinct mem]

/-- Members written from fields that have not been met are read one after the other, as far as they fit. -/
theorem readMembers_written {fields todo : List (Field σ)} (distinct : (fields.map Field.name).Nodup)
    (known : todo ⊆ fields) {s : σ} {depth : Nat} {fault : Fault} {fits : Field σ → Prop} [DecidablePred fits]
    {changes : List (σ → σ)}
    (reads : List.Forall₂ (fun field change =>
      field.read depth (field.write s).document = if fits field then .ok change else .error fault) todo changes)
    {met : List String} (fresh : ((todo.map Field.name).reverse ++ met).Nodup) (start : σ) :
    readMembers fields depth start met (memberDocuments (todo.map fun field => (field.name, field.write s))) =
      if ∀ field ∈ todo, fits field then
        .ok (changes.foldl (fun s change => change s) start, (todo.map Field.name).reverse ++ met)
      else .error fault := by
  induction reads generalizing met start with
  | nil => rfl
  | @cons field change todo changes read _ ih =>
    obtain ⟨mem, known⟩ := List.cons_subset.mp known
    rw [List.map_cons, List.reverse_cons, List.append_assoc] at fresh
    rw [List.map_cons (f := Field.name), List.reverse_cons, List.append_assoc]
    have unmet : met.contains field.name = false := by
      have := (List.nodup_append.mp fresh).2.1
      simpa using (List.nodup_cons.mp this).1
    rw [List.map_cons, memberDocuments, readMembers]
    simp only [Decoder.memberName, decodePieces_pieceOf, ok_bind, find?_of_mem distinct mem, unmet, read,
      List.forall_mem_cons]
    by_cases fit : fits field
    case pos =>
      simp only [fit, if_true, true_and]
      exact ih known fresh (change start)
    case neg =>
      simp only [fit, if_false, false_and]
      rfl

theorem soundMembers_written {s : σ} {fields : List (Field σ)} {changes : List (σ → σ)}
    (sound : List.Forall₂ (fun field _ => (field.write s).document.sound = true) fields changes) :
    Document.soundMembers (memberDocuments (fields.map fun field => (field.name, field.write s))) = true := by
  induction sound with
  | nil => rfl
  | cons first _ ih =>
    rw [List.map_cons, memberDocuments, Document.soundMembers, first, ih]
    rfl

/-- A record is without faults whose fields are. -/
theorem sound_write {format : RecordFormat σ} {s : σ} {changes : List (σ → σ)}
    (sound : List.Forall₂ (fun field _ => (field.write s).document.sound = true) format.fields changes) :
    (format.write s).document.sound = true :=
  soundMembers_written sound

/-- No field is missing when all have been met. -/
theorem find?_missing (fields : List (Field σ)) {met : List String} (all : ∀ field ∈ fields, field.name ∈ met) :
    fields.find? (fun field => field.required && !met.contains field.name) = none := by
  simp only [List.find?_eq_none, Bool.and_eq_true, Bool.not_eq_true', not_and, Bool.not_eq_false, List.contains_iff_mem]
  exact fun field mem _ => all field mem

/-- A record is read as it was written, as far as its fields fit that together make up the whole structure. -/
theorem decoder_written {format : RecordFormat σ} (distinct : (format.fields.map Field.name).Nodup) {s : σ}
    {depth : Nat} (more : 2 ≤ depth) {fault : Fault} {fits : Field σ → Prop} [DecidablePred fits]
    {changes : List (σ → σ)}
    (reads : List.Forall₂ (fun field change =>
      field.read (depth - 1) (field.write s).document = if fits field then .ok change else .error fault)
      format.fields changes)
    (whole : changes.foldl (fun s change => change s) format.initial = s) :
    format.decoder depth (format.write s).document =
      if ∀ field ∈ format.fields, fits field then .ok s else .error fault := by
  have fresh : ((format.fields.map Field.name).reverse ++ []).Nodup := by
    rwa [List.append_nil, List.nodup_reverse]
  have read := readMembers_written distinct (List.Subset.refl _) reads fresh format.initial
  rw [List.append_nil, whole] at read
  have complete : ∀ field ∈ format.fields, field.name ∈ (format.fields.map Field.name).reverse := fun field mem =>
    List.mem_reverse.mpr (List.mem_map_of_mem mem)
  show format.decoder depth (.object (memberDocuments (format.fields.map fun field => (field.name, field.write s)))) = _
  rw [decoder, Decoder.enter_of_le more, read]
  split
  case isTrue =>
    simp only [ok_bind, find?_missing format.fields complete]
    rfl
  case isFalse => rfl

/-- **A record is read as it was written**, where its fields are restored one container deeper and together make up
the whole structure. -/
theorem restores {format : RecordFormat σ} (distinct : (format.fields.map Field.name).Nodup) (least : Nat)
    (changes : σ → List (σ → σ))
    (fields : ∀ s, List.Forall₂ (Field.Restores · s least ·) format.fields (changes s))
    (whole : ∀ s, (changes s).foldl (fun s change => change s) format.initial = s) :
    format.decoder.Restores format.write (max 2 (least + 1)) where
  sound s := sound_write ((fields s).imp fun _ _ restored => restored.sound)
  decode s (depth : Nat) enough := by
    have reads : List.Forall₂ (fun field change =>
        field.read (depth - 1) (field.write s).document = if True then .ok change else .error .malformed)
        format.fields (changes s) :=
      (fields s).imp fun _ _ restored => by rw [if_pos trivial, restored.read (by omega)]
    rw [decoder_written distinct (by omega) reads (whole s), if_pos fun _ _ => trivial]

end RecordFormat

/-! ## Texts -/

/-- What is taken out of a text is taken out of its document. -/
theorem decoder_of_decodeText {decoder : Decoder α} {text : String} {a : α} (given : decodeText decoder text = .ok a) :
    decoder Depth.outermost (read text).document = .ok a := by
  unfold decodeText at given
  dsimp only at given
  split at given
  case h_1 => cases given
  case h_2 decoded =>
    split at given
    case isTrue =>
      obtain rfl := Except.ok.inj given
      exact decoded
    case isFalse => cases given

/-- What is restored from documents is restored from texts, also when white space follows them. -/
theorem Decoder.Restores.decodeText {decoder : Decoder α} {write : α → Json} {least : Nat}
    (restores : decoder.Restores write least) (enough : least ≤ Depth.outermost) (a : α) (layout : Layout)
    (blank : List Char) (spaces : ∀ c ∈ blank, isSpace c = true) :
    decodeText decoder ((write a).render layout ++ String.ofList blank) = .ok a := by
  simp only [Json.decodeText, read_render layout (restores.sound a) spaces, restores.decode a enough]
  rfl

end Allotment.Json
