import Mathlib.Data.List.Induction
import Allotment.Proofs.Json.Restoring

/-!
# Where the parts of a record are read

- of the members of an object that are met one after the other, a name keeps the place where it is first met and has
  the value that it is last met with (`find?_collected`);
- members whose values are numbers are met with these values (`Decoder.members_of_numbers`);
- a part of a record is what its decoder takes out of the document at its place, in an object as well as in an array
  (`RecordFormat.get_of_decoder`), provided that the other fields leave that part alone (`RecordFormat.Part`).
-/

namespace Allotment.Json

/-! ## Members met one after the other -/

/-- Of the names with a property, the first one stays the first one when a member is added. -/
theorem find?_insertMember (p : String → Bool) (name : String) (value : Json) (members : List (String × Json)) :
    (insertMember name value members).find? (fun m => p m.1) =
      match members.find? (fun m => p m.1) with
      | some (name', value') => some (name', if name' = name then value else value')
      | none => if p name then some (name, value) else none := by
  induction members with
  | nil =>
    rw [insertMember, List.find?_cons]
    cases p name with
    | true => rfl
    | false => rfl
  | cons member members ih =>
    obtain ⟨name', value'⟩ := member
    rw [insertMember]
    by_cases same : name' = name
    case pos =>
      obtain rfl := same
      rw [if_pos rfl, List.find?_cons, List.find?_cons]
      cases wanted : p name' with
      | true => simp
      | false =>
        cases found : members.find? (fun m => p m.1) with
        | none => rfl
        | some member =>
          -- the name that is found has the property, and the name that is added has it not
          have has : p member.1 = true := List.find?_some (p := fun m : String × Json => p m.1) found
          have other : member.1 ≠ name' := by
            rintro rfl
            rw [wanted] at has
            cases has
          simp [other]
    case neg =>
      rw [if_neg same, List.find?_cons, List.find?_cons]
      cases p name' with
      | true => simp [same]
      | false => exact ih

variable {α : Type}

/-- An object made of entries one after the other. -/
def collected (value : α → Json) (entries : List (String × α)) : List (String × Json) :=
  entries.foldl (fun met entry => insertMember entry.1 (value entry.2) met) []

/-- An entry that is found has a last one with its name. -/
theorem exists_last {entries : List (String × α)} {p : String × α → Bool} {first : String × α}
    (found : entries.find? p = some first) :
    ∃ last, entries.reverse.find? (fun entry => entry.1 = first.1) = some last := by
  rw [← Option.isSome_iff_exists, List.find?_isSome]
  exact ⟨first, List.mem_reverse.mpr (List.mem_of_find?_eq_some found), by simp⟩

/-- The first name with a property is that of the first entry with a name that has it; its value is that of the last
entry with the very same name. -/
theorem find?_collected (p : String → Bool) (value : α → Json) (entries : List (String × α)) :
    (collected value entries).find? (fun m => p m.1) =
      (entries.find? (fun entry => p entry.1)).bind fun first =>
        (entries.reverse.find? (fun entry => entry.1 = first.1)).map fun last => (first.1, value last.2) := by
  unfold collected
  induction entries using List.reverseRecOn with
  | nil => rfl
  | append_singleton entries entry ih =>
    obtain ⟨name, v⟩ := entry
    rw [List.foldl_append, List.foldl_cons, List.foldl_nil, find?_insertMember, ih, List.find?_append,
      List.reverse_append, List.reverse_singleton, List.singleton_append]
    cases found : entries.find? (fun entry => p entry.1) with
    | none =>
      cases has : p name with
      | true => simp [has]
      | false => simp [has]
    | some first =>
      obtain ⟨last, spelled⟩ := exists_last found
      by_cases same : first.1 = name
      case pos =>
        obtain rfl := same
        simp [spelled]
      case neg =>
        have other : ¬ name = first.1 := fun equal => same equal.symm
        simp [spelled, same, other]

theorem Number.eq_of_toUInt64? {n : Number} {v : UInt64} (fits : n.toUInt64? = some v) : n = .integer v.toNat := by
  cases n with
  | real value => cases fits
  | integer value =>
    rw [Number.toUInt64?] at fits
    split at fits
    case isFalse => cases fits
    case isTrue range =>
      obtain rfl := Option.some.inj fits
      rw [UInt64.toNat_ofNatLT, Int.toNat_of_nonneg range.1]

/-- The name and the number that a member is. -/
def Document.number? (member : Document × Document) : Option (String × UInt64) := do
  let name ← (Decoder.memberName member.1).toOption
  let number ← (Decoder.uint64 0 member.2).toOption
  return (name, number)

/-- The names and numbers that an object lists in the order of the text, if it lists nothing else. -/
def Document.numbers? : Document → Option (List (String × UInt64))
  | .object members => members.mapM number?
  | _ => none

/-- A number is found as a value wherever a value may stand. -/
theorem Decoder.valueWith_of_uint64 {embedded : String → Except Fault Json} {depth depth' : Depth} {document : Document}
    {v : UInt64} (number : Decoder.uint64 depth' document = .ok v) :
    Decoder.valueWith embedded depth document = .ok (.ofUInt64 v) := by
  unfold Decoder.uint64 at number
  split at number
  case h_2 => cases number
  case h_1 numeral =>
    rw [Decoder.valueWith]
    cases decoded : numeral.decode with
    | error fault => simp [decoded] at number
    | ok n =>
      cases fits : n.toUInt64? with
      | some v' =>
        simp only [decoded, fits] at number
        obtain rfl := Except.ok.inj number
        rw [Number.eq_of_toUInt64? fits]
        rfl
      | none =>
        simp only [decoded, fits] at number
        cases n with
        | integer value => cases number
        | real value => cases number

theorem Decoder.membersWith_of_numbers {embedded : String → Except Fault Json} {depth : Depth}
    {members : List (Document × Document)} {entries : List (String × UInt64)}
    (numbers : members.mapM Document.number? = some entries) (met : List (String × Json)) :
    Decoder.membersWith embedded depth met members =
      .ok (entries.foldl (fun met entry => insertMember entry.1 (.ofUInt64 entry.2) met) met) := by
  induction members generalizing entries met with
  | nil =>
    obtain rfl : [] = entries := Option.some.inj numbers
    rfl
  | cons member members ih =>
    rw [List.mapM_cons] at numbers
    simp only [Option.bind_eq_bind, Option.bind_eq_some_iff] at numbers
    obtain ⟨⟨name, v⟩, first, entries, others, ⟨⟩⟩ := numbers
    simp only [Document.number?, Option.bind_eq_bind, Option.bind_eq_some_iff, toOption_eq_some_iff] at first
    obtain ⟨name, named, v, number, ⟨⟩⟩ := first
    obtain ⟨key, document⟩ := member
    rw [Decoder.membersWith, named, ok_bind, Decoder.valueWith_of_uint64 number, ok_bind, ih others]
    rfl

/-- An object that lists numbers is read as its members met one after the other. -/
theorem Decoder.members_of_numbers {depth : Depth} {document : Document} {entries : List (String × UInt64)}
    {members : List (String × Json)} (numbers : document.numbers? = some entries)
    (read : Decoder.object depth document = .ok members) : members = collected .ofUInt64 entries := by
  unfold Document.numbers? at numbers
  split at numbers
  case h_2 => cases numbers
  case h_1 listed =>
    rw [Decoder.object, Decoder.enter_eq_ok_iff] at read
    obtain ⟨-, read⟩ := read
    rw [Decoder.membersWith_of_numbers numbers] at read
    exact (Except.ok.inj read).symm

/-! ## Parts of a record -/

variable {σ : Type}

namespace Field

/-- Whatever is read into the field is what the decoder gives, and puts a part of the structure in place. -/
def Puts (field : Field σ) (decoder : Decoder α) (get : σ → α) : Prop :=
  ∀ ⦃depth document change⦄, field.read depth document = .ok change →
    ∀ s, decoder depth document = .ok (get (change s))

/-- Whatever is read into the field changes nothing in a part of the structure. -/
def Leaves (field : Field σ) (get : σ → α) : Prop :=
  ∀ ⦃depth document change⦄, field.read depth document = .ok change → ∀ s, get (change s) = get s

variable {name : String} {decoder : Decoder α} {write : α → Json} {get : σ → α} {set : α → σ → σ}

/-- What is read into a field is put in place by its setter. -/
theorem read_of {depth : Depth} {document : Document} {change : σ → σ}
    (read : (Field.of name decoder write get set).read depth document = .ok change) :
    ∃ a, decoder depth document = .ok a ∧ change = set a := by
  obtain ⟨a, decoded, rfl⟩ := map_eq_ok_iff.mp read
  exact ⟨a, decoded, rfl⟩

theorem puts_of (found : ∀ a s, get (set a s) = a) : (Field.of name decoder write get set).Puts decoder get := by
  intro depth document change read s
  obtain ⟨a, decoded, rfl⟩ := read_of read
  rw [decoded, found]

theorem leaves_of {β : Type} {other : σ → β} (kept : ∀ a s, other (set a s) = other s) :
    (Field.of name decoder write get set).Leaves other := by
  intro depth document change read s
  obtain ⟨a, -, rfl⟩ := read_of read
  exact kept a s

end Field

namespace RecordFormat

/-- The document that a record has for the field with a name. -/
def place? (format : RecordFormat σ) (name : String) : Document → Option Document
  | .object members => (members.find? fun m => (Decoder.memberName m.1).toOption == some name).map (·.2)
  | .array items => items[format.fields.findIdx (·.name == name)]?
  | _ => none

/-- A part of a structure that the field with a name puts in place and no other field changes. -/
structure Part (format : RecordFormat σ) (name : String) (decoder : Decoder α) (get : σ → α) : Prop where
  fields : ∀ field ∈ format.fields, field.name = name ∧ field.Puts decoder get ∨ field.name ≠ name ∧ field.Leaves get
  named : ∃ field ∈ format.fields, field.name = name

variable {format : RecordFormat σ} {name : String} {decoder : Decoder α} {get : σ → α}

theorem Part.puts (part : format.Part name decoder get) {field : Field σ} (mem : field ∈ format.fields)
    (named : field.name = name) : field.Puts decoder get := by
  rcases part.fields field mem with ⟨-, puts⟩ | ⟨other, -⟩
  · exact puts
  · exact absurd named other

theorem Part.leaves (part : format.Part name decoder get) {field : Field σ} (mem : field ∈ format.fields)
    (other : field.name ≠ name) : field.Leaves get := by
  rcases part.fields field mem with ⟨named, -⟩ | ⟨-, leaves⟩
  · exact absurd named other
  · exact leaves

/-- What can be done with one member: it is passed over, or it is read into a field that has not been met. -/
theorem readMembers_cons_eq_ok {fields : List (Field σ)} {depth : Depth} {s : σ} {met : List String}
    {key document : Document} {members : List (Document × Document)} {read : σ × List String}
    (given : readMembers fields depth s met ((key, document) :: members) = .ok read) :
    ∃ name, Decoder.memberName key = .ok name ∧
      (fields.find? (·.name == name) = none ∧ readMembers fields depth s met members = .ok read ∨
        ∃ field ∈ fields, ∃ change, field.name = name ∧ name ∉ met ∧ field.read depth document = .ok change ∧
          readMembers fields depth (change s) (name :: met) members = .ok read) := by
  rw [readMembers] at given
  obtain ⟨name, spelled, given⟩ := bind_eq_ok_iff.mp given
  refine ⟨name, spelled, ?_⟩
  cases found : fields.find? (·.name == name) with
  | none =>
    rw [found] at given
    obtain ⟨-, -, given⟩ := bind_eq_ok_iff.mp given
    exact .inl ⟨rfl, given⟩
  | some field =>
    rw [found] at given
    obtain ⟨fresh, given⟩ := check_eq_ok_iff.mp given
    obtain ⟨change, changed, given⟩ := bind_eq_ok_iff.mp given
    have named : field.name = name := by simpa using List.find?_some found
    exact .inr ⟨field, List.mem_of_find?_eq_some found, change, named, by simpa using fresh, changed, given⟩

/-- No member changes a part that has been met. -/
theorem get_of_readMembers_met (part : format.Part name decoder get) {depth : Depth} {s s' : σ}
    {met met' : List String} {members : List (Document × Document)}
    (read : readMembers format.fields depth s met members = .ok (s', met')) (known : name ∈ met) : get s' = get s := by
  induction members generalizing s met with
  | nil =>
    obtain ⟨rfl, -⟩ := Prod.mk.inj (Except.ok.inj read)
    rfl
  | cons member members ih =>
    obtain ⟨name', -, ⟨-, read⟩ | ⟨field, mem, change, named, fresh, changed, read⟩⟩ := readMembers_cons_eq_ok read
    · exact ih read known
    · have other : field.name ≠ name := by
        rintro rfl
        exact fresh (named ▸ known)
      rw [ih read (List.mem_cons_of_mem _ known)]
      exact part.leaves mem other changed s

/-- The part of a record that is read from members is taken out of the member with its name. -/
theorem get_of_readMembers (part : format.Part name decoder get) {depth : Depth} {s s' : σ} {met met' : List String}
    {members : List (Document × Document)} {member : Document × Document}
    (read : readMembers format.fields depth s met members = .ok (s', met'))
    (found : members.find? (fun m => (Decoder.memberName m.1).toOption == some name) = some member) :
    decoder depth member.2 = .ok (get s') := by
  induction members generalizing s met with
  | nil => cases found
  | cons first members ih =>
    obtain ⟨name', spelled, step⟩ := readMembers_cons_eq_ok read
    by_cases here : name' = name
    case pos =>
      obtain rfl := here
      rw [List.find?_cons_of_pos (by simp [toOption_eq_some_iff.mpr spelled])] at found
      obtain rfl := Option.some.inj found
      obtain ⟨unknown, -⟩ | ⟨field, mem, change, named, -, changed, read⟩ := step
      · obtain ⟨field, mem, named⟩ := part.named
        exact absurd named (by simpa using List.find?_eq_none.mp unknown field mem)
      · rw [get_of_readMembers_met part read List.mem_cons_self]
        exact part.puts mem named changed s
    case neg =>
      rw [List.find?_cons_of_neg (by simp [toOption_eq_some_iff.mpr spelled, here])] at found
      obtain ⟨-, read⟩ | ⟨field, -, change, -, -, -, read⟩ := step
      · exact ih read found
      · exact ih read found

/-- Items for other fields change nothing. -/
theorem get_of_readItems_others (part : format.Part name decoder get) {expected : String} {depth : Depth} {s s' : σ}
    {index : Nat} {fields : List (Field σ)} {items : List Document} (known : fields ⊆ format.fields)
    (others : ∀ field ∈ fields, field.name ≠ name) (read : readItems expected depth s index fields items = .ok s') :
    get s' = get s := by
  induction fields generalizing s index items with
  | nil =>
    cases items with
    | nil =>
      cases read
      rfl
    | cons item items => cases read
  | cons field fields ih =>
    obtain ⟨mem, known⟩ := List.cons_subset.mp known
    obtain ⟨other, others⟩ := List.forall_mem_cons.mp others
    cases items with
    | nil =>
      rw [readItems] at read
      split at read
      case isTrue => cases read
      case isFalse => exact ih known others read
    | cons item items =>
      rw [readItems] at read
      obtain ⟨change, changed, read⟩ := bind_eq_ok_iff.mp read
      rw [ih known others read]
      exact part.leaves mem other changed s

/-- The part of a record that is read from items is taken out of the item at the place of its field. -/
theorem get_of_readItems (part : format.Part name decoder get) {expected : String} {depth : Depth} {s s' : σ}
    {index : Nat} {fields : List (Field σ)} {items : List Document} {item : Document} (known : fields ⊆ format.fields)
    (distinct : (fields.map Field.name).Nodup) (read : readItems expected depth s index fields items = .ok s')
    (found : items[fields.findIdx (·.name == name)]? = some item) : decoder depth item = .ok (get s') := by
  induction fields generalizing s index items with
  | nil =>
    cases items with
    | nil => cases found
    | cons item items => cases read
  | cons field fields ih =>
    obtain ⟨mem, known⟩ := List.cons_subset.mp known
    obtain ⟨fresh, distinct⟩ := List.nodup_cons.mp distinct
    cases items with
    | nil => cases found
    | cons first items =>
      rw [readItems] at read
      obtain ⟨change, changed, read⟩ := bind_eq_ok_iff.mp read
      by_cases here : field.name = name
      case pos =>
        rw [List.findIdx_cons, here, beq_self_eq_true] at found
        obtain rfl : first = item := Option.some.inj found
        have others : ∀ field ∈ fields, field.name ≠ name := by
          rintro other otherMem rfl
          exact fresh (here ▸ List.mem_map_of_mem otherMem)
        rw [get_of_readItems_others part known others read]
        exact part.puts mem here changed s
      case neg =>
        rw [List.findIdx_cons, beq_false_of_ne here] at found
        exact ih known distinct read found

/-- **A part of a record is what is taken out of its place in the document.** -/
theorem get_of_decoder (part : format.Part name decoder get) (distinct : (format.fields.map Field.name).Nodup)
    {depth : Depth} {document place : Document} {s : σ} (read : format.decoder depth document = .ok s)
    (found : format.place? name document = some place) : decoder (depth - 1) place = .ok (get s) := by
  unfold place? at found
  split at found
  case h_1 members =>
    obtain ⟨member, first, rfl⟩ := Option.map_eq_some_iff.mp found
    rw [RecordFormat.decoder, Decoder.enter_eq_ok_iff] at read
    obtain ⟨-, read⟩ := read
    obtain ⟨⟨s', met⟩, readAll, complete⟩ := bind_eq_ok_iff.mp read
    dsimp only at complete
    split at complete
    case h_1 => cases complete
    case h_2 =>
      obtain rfl := Except.ok.inj complete
      exact get_of_readMembers part readAll first
  case h_2 items =>
    rw [RecordFormat.decoder, Decoder.enter_eq_ok_iff] at read
    obtain ⟨-, read⟩ := read
    exact get_of_readItems part (List.Subset.refl _) distinct read found
  case h_3 => cases found

/-- An object with one member is the initial structure with that part in place. -/
theorem decoder_member (distinct : (format.fields.map Field.name).Nodup)
    (optional : ∀ field ∈ format.fields, field.required = false) {field : Field σ} (mem : field ∈ format.fields)
    {depth : Nat} (more : 2 ≤ depth) {value : Json} {change : σ → σ}
    (read : field.read (depth - 1) value.document = .ok change) :
    format.decoder depth (Json.object [(field.name, value)]).document = .ok (change format.initial) := by
  have complete (met : List String) :
      format.fields.find? (fun field => field.required && !met.contains field.name) = none := by
    rw [List.find?_eq_none]
    intro field mem
    rw [optional field mem]
    exact Bool.false_ne_true
  rw [document, memberDocuments, memberDocuments, decoder, Decoder.enter_of_le more, readMembers, Decoder.memberName,
    decodePieces_pieceOf, ok_bind, find?_of_mem distinct mem]
  simp only [List.contains_nil, read, ok_bind, readMembers, complete]
  rfl

end RecordFormat

end Allotment.Json
