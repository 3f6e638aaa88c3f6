import Allotment.Proofs.Json.Nesting
import Allotment.Proofs.Json.Parts

/-!
# What values that were read look like

Whatever text or document it is, a value that is read is regular, and unless a text is embedded somewhere in the
document it is nested no deeper than the limit allows (`Decoder.valueWith_reads`, `Decoder.object_reads`). A text that
is embedded is read on its own, with the whole limit for itself, so that the value it gives may be nested deeper.

`RecordFormat.decoder_invariant` carries such facts over to records: what holds of the initial structure and is kept by
each field holds of all that is read.
-/

namespace Allotment.Json

/-! ## Documents with embedded texts -/

namespace Document

mutual

/-- Whether some object in a document starts with the reserved name. -/
def embeds : Document → Bool
  | .array items => itemsEmbed items
  | .object members =>
    (members.head?.any fun member => (Decoder.memberName member.1).toOption == some Decoder.embeddedName) ||
      membersEmbed members
  | _ => false

/-- Whether an object in some item starts so. -/
def itemsEmbed : List Document → Bool
  | [] => false
  | item :: items => item.embeds || itemsEmbed items

/-- Whether an object in the value of some member starts so. -/
def membersEmbed : List (Document × Document) → Bool
  | [] => false
  | (_, value) :: members => value.embeds || membersEmbed members

end

/-- The values directly inside a container. -/
def parts : Document → List Document
  | .array items => items
  | .object members => members.map Prod.snd
  | _ => []

theorem itemsEmbed_eq_false_iff {items : List Document} :
    itemsEmbed items = false ↔ ∀ item ∈ items, item.embeds = false := by
  induction items with
  | nil => simp [itemsEmbed]
  | cons item items ih => rw [itemsEmbed, Bool.or_eq_false_iff, ih, List.forall_mem_cons]

theorem membersEmbed_eq_false_iff {members : List (Document × Document)} :
    membersEmbed members = false ↔ ∀ member ∈ members, member.2.embeds = false := by
  induction members with
  | nil => simp [membersEmbed]
  | cons member members ih => rw [membersEmbed, Bool.or_eq_false_iff, ih, List.forall_mem_cons]

/-- Where no text is embedded in a document, none is in its parts. -/
theorem embeds_of_mem_parts {d part : Document} (plain : d.embeds = false) (mem : part ∈ d.parts) :
    part.embeds = false := by
  cases d with
  | fault | null | bool _ | number _ | string _ => cases mem
  | array items => exact itemsEmbed_eq_false_iff.mp plain part mem
  | object members =>
    obtain ⟨member, memMember, rfl⟩ := List.mem_map.mp mem
    exact membersEmbed_eq_false_iff.mp (Bool.or_eq_false_iff.mp plain).2 member memMember

end Document

/-! ## Members met one after the other -/

theorem regularMembers_iff {members : List (String × Json)} :
    RegularMembers members ↔ ∀ member ∈ members, member.2.Regular := by
  induction members with
  | nil => simp [RegularMembers]
  | cons member members ih => rw [RegularMembers, ih, List.forall_mem_cons]

/-- The values of members are the one added and those there were. -/
theorem forall_insertMember {P : Json → Prop} {name : String} {value : Json} {members : List (String × Json)}
    (new : P value) (old : ∀ member ∈ members, P member.2) :
    ∀ member ∈ insertMember name value members, P member.2 := by
  induction members with
  | nil => exact List.forall_mem_singleton.mpr new
  | cons member members ih =>
    obtain ⟨first, others⟩ := List.forall_mem_cons.mp old
    rw [insertMember]
    split
    case isTrue => exact List.forall_mem_cons.mpr ⟨new, others⟩
    case isFalse => exact List.forall_mem_cons.mpr ⟨first, ih others⟩

/-- A name that is added is one that was there, or comes behind all of them. -/
theorem names_insertMember (name : String) (value : Json) (members : List (String × Json)) :
    (insertMember name value members).map Prod.fst = members.map Prod.fst ∨
      name ∉ members.map Prod.fst ∧
        (insertMember name value members).map Prod.fst = members.map Prod.fst ++ [name] := by
  by_cases known : name ∈ members.map Prod.fst
  case pos =>
    left
    induction members with
    | nil => cases known
    | cons member members ih =>
      rw [insertMember]
      split
      case isTrue => rfl
      case isFalse other =>
        have known := (List.mem_cons.mp known).resolve_left fun same => other same.symm
        rw [List.map_cons, List.map_cons, ih known]
  case neg =>
    right
    rw [insertMember_of_not_mem known, List.map_append]
    exact ⟨known, rfl⟩

/-- Names stay different when a member is added, and those there were stay in front. -/
theorem nodup_names_insertMember (name : String) (value : Json) {members : List (String × Json)}
    (distinct : (members.map Prod.fst).Nodup) :
    ((insertMember name value members).map Prod.fst).Nodup ∧
      members.map Prod.fst <+: (insertMember name value members).map Prod.fst := by
  rcases names_insertMember name value members with same | ⟨fresh, more⟩
  · rw [same]
    exact ⟨distinct, List.prefix_refl _⟩
  · rw [more]
    rw [← List.concat_eq_append]
    exact ⟨distinct.concat fresh, List.prefix_concat _ _⟩

/-! ## Values that were read -/

/-- Every number that a numeral denotes is regular. -/
theorem Numeral.regular_of_decode {numeral : Numeral} {n : Number} (decoded : numeral.decode = .ok n) : n.Regular := by
  unfold Numeral.decode at decoded
  split at decoded
  case h_2 => cases decoded
  case h_1 n' denoted =>
    obtain rfl := Except.ok.inj decoded
    unfold Numeral.toNumber? at denoted
    split at denoted
    case isTrue natural =>
      obtain rfl := Option.some.inj denoted
      simp only [Bool.and_eq_true, decide_eq_true_eq] at natural
      exact ⟨by omega, Int.ofNat_lt.mpr natural.2⟩
    case isFalse =>
      split at denoted
      case isTrue negative =>
        obtain rfl := Option.some.inj denoted
        simp only [Bool.and_eq_true, decide_eq_true_eq] at negative
        exact ⟨by omega, by omega⟩
      case isFalse =>
        obtain ⟨value, -, rfl⟩ := Option.map_eq_some_iff.mp denoted
        trivial

namespace Decoder

variable {embedded : String → Except Fault Json}

/-- Members as they are met one after the other: their names differ, their values are regular, and if `plain` holds
these are nested no deeper than the limit allows. -/
structure Met (depth : Nat) (plain : Prop) (members : List (String × Json)) : Prop where
  distinct : (members.map Prod.fst).Nodup
  regular : ∀ member ∈ members, member.2.Regular
  shallow : plain → ∀ member ∈ members, member.2.nesting < depth

theorem Met.nil {depth : Nat} {plain : Prop} : Met depth plain [] := ⟨List.nodup_nil, nofun, fun _ => nofun⟩

/-- Members that were met fit if they are exact. -/
theorem Met.fits {depth : Nat} {plain : Prop} {members : List (String × Json)} (met : Met depth plain members)
    (exact : exactMembers members = true) : Decoder.object.Fits .object members :=
  fits_object met.distinct (regularMembers_iff.mpr met.regular) exact

/-- A member that is met keeps the names that were met before in front. -/
theorem Met.insert {depth : Nat} {plain also : Prop} {members : List (String × Json)} (before : Met depth plain members)
    (name : String) {value : Json} (regular : value.Regular) (shallow : also → value.nesting < depth) :
    Met depth (plain ∧ also) (insertMember name value members) ∧
      members.map Prod.fst <+: (insertMember name value members).map Prod.fst := by
  obtain ⟨distinct, front⟩ := nodup_names_insertMember name value before.distinct
  refine ⟨⟨distinct, forall_insertMember regular before.regular, fun plain => ?_⟩, front⟩
  exact forall_insertMember (P := fun value => value.nesting < depth) (shallow plain.2) (before.shallow plain.1)

mutual

/-- **A value that is read is regular**, and nested no deeper than the limit allows unless a text is embedded. -/
theorem valueWith_reads (closed : ∀ {text value}, embedded text = .ok value → value.Regular) (d : Document)
    {depth : Nat} (some : 1 ≤ depth) {value : Json} (read : valueWith embedded depth d = .ok value) :
    value.Regular ∧ (d.embeds = false → value.nesting < depth) := by
  match d with
  | .fault => cases read
  | .null | .bool _ =>
    cases read
    exact ⟨trivial, fun _ => some⟩
  | .number numeral =>
    rw [valueWith] at read
    obtain ⟨n, decoded, rfl⟩ := map_eq_ok_iff.mp read
    exact ⟨Numeral.regular_of_decode decoded, fun _ => some⟩
  | .string pieces =>
    rw [valueWith] at read
    obtain ⟨text, -, rfl⟩ := map_eq_ok_iff.mp read
    exact ⟨trivial, fun _ => some⟩
  | .array items =>
    rw [valueWith] at read
    split at read
    case isTrue => cases read
    case isFalse outside =>
      have inside : 1 ≤ depth - 1 := Nat.le_sub_one_of_lt (Nat.not_le.mp outside)
      obtain ⟨values, decoded, rfl⟩ := map_eq_ok_iff.mp read
      obtain ⟨regular, shallow⟩ := itemsWith_reads closed items inside decoded
      refine ⟨regular, fun plain => ?_⟩
      have := shallow plain
      rw [nesting]
      omega
  | .object [] =>
    rw [valueWith] at read
    split at read
    case isTrue => cases read
    case isFalse outside =>
      cases read
      exact ⟨⟨List.nodup_nil, nofun, trivial⟩, fun _ => Nat.not_le.mp outside⟩
  | .object ((key, first) :: members) =>
    rw [valueWith] at read
    split at read
    case isTrue => cases read
    case isFalse outside =>
      have inside : 1 ≤ depth - 1 := Nat.le_sub_one_of_lt (Nat.not_le.mp outside)
      rw [objectWith] at read
      obtain ⟨name, named, read⟩ := bind_eq_ok_iff.mp read
      split at read
      case isTrue reserved =>
        obtain ⟨text, -, read⟩ := bind_eq_ok_iff.mp read
        obtain ⟨value', said, read⟩ := bind_eq_ok_iff.mp read
        split at read
        case isFalse => cases read
        case isTrue =>
          cases read
          refine ⟨closed said, fun plain => ?_⟩
          -- the document embeds the text
          have starts := (Bool.or_eq_false_iff.mp plain).1
          rw [List.head?_cons, Option.any_some, named, reserved] at starts
          cases starts
      case isFalse other =>
        obtain ⟨value', decoded, read⟩ := bind_eq_ok_iff.mp read
        obtain ⟨values, decodedAll, rfl⟩ := map_eq_ok_iff.mp read
        obtain ⟨regular, shallow⟩ := valueWith_reads closed first inside decoded
        have before : Met (depth - 1) (first.embeds = false) [(name, value')] :=
          ⟨List.nodup_singleton name, List.forall_mem_singleton.mpr regular,
            fun plain => List.forall_mem_singleton.mpr (shallow plain)⟩
        obtain ⟨met, names, more⟩ := membersWith_reads closed members inside before decodedAll
        refine ⟨⟨met.distinct, ?_, regularMembers_iff.mpr met.regular⟩, fun plain => ?_⟩
        · rw [← more]
          exact fun same => other (Option.some.inj same)
        · obtain ⟨-, plain⟩ := Bool.or_eq_false_iff.mp plain
          have := (membersNesting_lt_iff inside).mpr (met.shallow (Bool.or_eq_false_iff.mp plain))
          rw [nesting]
          omega

theorem itemsWith_reads (closed : ∀ {text value}, embedded text = .ok value → value.Regular) (items : List Document)
    {depth : Nat} (some : 1 ≤ depth) {values : List Json} (read : itemsWith embedded depth items = .ok values) :
    RegularItems values ∧ (Document.itemsEmbed items = false → itemsNesting values < depth) := by
  match items with
  | [] =>
    cases read
    exact ⟨trivial, fun _ => some⟩
  | item :: items =>
    rw [itemsWith] at read
    obtain ⟨value, decoded, read⟩ := bind_eq_ok_iff.mp read
    obtain ⟨values, decodedAll, read⟩ := bind_eq_ok_iff.mp read
    cases read
    obtain ⟨regular, shallow⟩ := valueWith_reads closed item some decoded
    obtain ⟨regularOthers, shallowOthers⟩ := itemsWith_reads closed items some decodedAll
    refine ⟨⟨regular, regularOthers⟩, fun plain => ?_⟩
    obtain ⟨first, others⟩ := Bool.or_eq_false_iff.mp plain
    exact Nat.max_lt.mpr ⟨shallow first, shallowOthers others⟩

/-- Members that are read are met behind those that were. -/
theorem membersWith_reads (closed : ∀ {text value}, embedded text = .ok value → value.Regular)
    (members : List (Document × Document)) {depth : Nat} (some : 1 ≤ depth) {met values : List (String × Json)}
    {plain : Prop} (before : Met depth plain met) (read : membersWith embedded depth met members = .ok values) :
    Met depth (plain ∧ Document.membersEmbed members = false) values ∧ met.map Prod.fst <+: values.map Prod.fst := by
  match members with
  | [] =>
    cases read
    exact ⟨⟨before.distinct, before.regular, fun plain => before.shallow plain.1⟩, List.prefix_refl _⟩
  | (key, document) :: members =>
    rw [membersWith] at read
    obtain ⟨name, -, read⟩ := bind_eq_ok_iff.mp read
    obtain ⟨value, decoded, read⟩ := bind_eq_ok_iff.mp read
    obtain ⟨regular, shallow⟩ := valueWith_reads closed document some decoded
    obtain ⟨met', front⟩ := before.insert name regular shallow
    obtain ⟨all, front'⟩ := membersWith_reads closed members some met' read
    refine ⟨⟨all.distinct, all.regular, fun plain => all.shallow ?_⟩, front.trans front'⟩
    obtain ⟨first, others⟩ := Bool.or_eq_false_iff.mp plain.2
    exact ⟨⟨plain.1, first⟩, others⟩

end

/-- What a text says is regular. -/
theorem regular_of_valueOfText {limit : Nat} {text : String} {value : Json}
    (said : valueOfText limit text = .ok value) : value.Regular := by
  induction limit generalizing text value with
  | zero => cases said
  | succ limit ih => exact (valueWith_reads ih _ (by decide) (decoder_of_decodeText said)).1

/-- **The members of an object that is read** are met one after the other, starting with none. -/
theorem object_reads {d : Document} {depth : Nat} {members : List (String × Json)}
    (given : Decoder.object depth d = .ok members) : Met (depth - 1) (d.embeds = false) members := by
  unfold Decoder.object at given
  split at given
  case h_2 => cases given
  case h_1 documents =>
    obtain ⟨inside, given⟩ := enter_eq_ok_iff.mp given
    have none : Met (depth - 1) True [] := .nil
    obtain ⟨met, -⟩ := membersWith_reads regular_of_valueOfText documents inside none given
    exact ⟨met.distinct, met.regular, fun plain => met.shallow ⟨trivial, (Bool.or_eq_false_iff.mp plain).2⟩⟩

end Decoder

/-! ## Records that were read -/

namespace RecordFormat

variable {σ : Type} {P : σ → Prop}

theorem readMembers_invariant {fields : List (Field σ)} {depth : Nat} {s s' : σ} {met met' : List String}
    {members : List (Document × Document)}
    (step : ∀ field ∈ fields, ∀ part ∈ members.map Prod.snd, ∀ change, field.read depth part = .ok change →
      ∀ s, P s → P (change s))
    (given : readMembers fields depth s met members = .ok (s', met')) (start : P s) : P s' := by
  induction members generalizing s met with
  | nil =>
    cases given
    exact start
  | cons member members ih =>
    have step' field mem := (List.forall_mem_cons.mp (step field mem)).2
    obtain ⟨name, -, ⟨-, given⟩ | ⟨field, mem, change, -, -, changed, given⟩⟩ := readMembers_cons_eq_ok given
    · exact ih step' given start
    · exact ih step' given (step field mem _ List.mem_cons_self change changed s start)

theorem readItems_invariant {fields : List (Field σ)} {expected : String} {depth : Nat} {s s' : σ} {index : Nat}
    {items : List Document}
    (step : ∀ field ∈ fields, ∀ part ∈ items, ∀ change, field.read depth part = .ok change → ∀ s, P s → P (change s))
    (given : readItems expected depth s index fields items = .ok s') (start : P s) : P s' := by
  induction fields generalizing s index items with
  | nil =>
    cases items with
    | nil =>
      cases given
      exact start
    | cons item items => cases given
  | cons field fields ih =>
    obtain ⟨first, others⟩ := List.forall_mem_cons.mp step
    cases items with
    | nil =>
      rw [readItems] at given
      split at given
      case isTrue => cases given
      case isFalse => exact ih others given start
    | cons item items =>
      rw [readItems] at given
      obtain ⟨change, changed, given⟩ := bind_eq_ok_iff.mp given
      exact ih (fun field mem part memPart => others field mem part (List.mem_cons_of_mem _ memPart)) given
        (first item List.mem_cons_self change changed s start)

/-- **What each field keeps holds of all records that are read**, if it holds of the initial one. -/
theorem decoder_invariant {format : RecordFormat σ} {depth : Nat} {d : Document} {s : σ}
    (step : ∀ field ∈ format.fields, ∀ part ∈ d.parts, ∀ change, field.read (depth - 1) part = .ok change →
      ∀ s, P s → P (change s))
    (given : format.decoder depth d = .ok s) (initial : P format.initial) : P s := by
  unfold decoder at given
  split at given
  case h_1 members =>
    obtain ⟨-, given⟩ := Decoder.enter_eq_ok_iff.mp given
    obtain ⟨⟨s', met⟩, read, given⟩ := bind_eq_ok_iff.mp given
    dsimp only at given
    split at given
    case h_1 => cases given
    case h_2 =>
      cases given
      exact readMembers_invariant step read initial
  case h_2 items =>
    obtain ⟨-, given⟩ := Decoder.enter_eq_ok_iff.mp given
    exact readItems_invariant step given initial
  case h_3 => cases given

/-- **What a part is always read as holds of it** in all records that are read, if it holds in the initial one. -/
theorem Part.invariant {α : Type} {format : RecordFormat σ} {name : String} {decoder : Decoder α} {get : σ → α}
    (part : format.Part name decoder get) {Q : α → Prop} {depth : Nat} {d : Document} {s : σ}
    (reads : ∀ part ∈ d.parts, ∀ a, decoder (depth - 1) part = .ok a → Q a)
    (given : format.decoder depth d = .ok s) (initial : Q (get format.initial)) : Q (get s) := by
  refine decoder_invariant (P := fun s => Q (get s)) (fun field mem part' memPart change changed s kept => ?_) given
    initial
  rcases part.fields field mem with ⟨-, puts⟩ | ⟨-, leaves⟩
  · exact reads part' memPart _ (puts changed s)
  · rwa [leaves changed s]

end RecordFormat

end Allotment.Json
