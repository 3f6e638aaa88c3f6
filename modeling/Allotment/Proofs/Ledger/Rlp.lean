import Allotment.Ledger.Rlp
import Allotment.Proofs.Bytes.Minimal

/-!
# Reading nested byte strings

`decodeAll?` reads items strictly: every length must be written in the one way that is meant for it, and a byte that
can stand for itself must do so. Such reading undoes writing and takes nothing else (`decodeAll?_eq_some_iff`), as long
as all lengths fit into 64 bits. Everything is settled at the front of the bytes, where an item is its kind and its
payload (`readFrame?_frame`, `eq_frame_of_readFrame?`).
-/

namespace Allotment.Rlp

/-! ## The reader -/

/-- The bytes of the given number at the front, and those after them. -/
def cut? (length : Nat) (bytes : Bytes) : Option (Bytes × Bytes) :=
  if length ≤ bytes.length then some (bytes.take length, bytes.drop length) else none

/-- The payload whose length is written in the first `size` bytes, and what follows it. A length below 56 is not
written so. -/
def cutLong? (size : Nat) (bytes : Bytes) : Option (Bytes × Bytes) := do
  let (spelled, bytes) ← cut? size bytes
  let length ← Bytes.number? spelled
  if length < 56 then none else cut? length bytes

/-- Whether bytes are a single one that stands for itself. -/
def standsAlone : Bytes → Bool
  | [byte] => byte < 0x80
  | _ => false

/-- The front of some bytes: whether an item is a list, its payload, and the bytes after it. -/
structure Frame where
  isList : Bool
  payload : Bytes
  rest : Bytes

/-- The item at the front of some bytes, still packed. -/
def readFrame? : Bytes → Option Frame
  | [] => none
  | first :: bytes =>
    let mark := first.toNat
    if mark < 0x80 then some ⟨false, [first], bytes⟩
    else if mark < 0xb8 then do
      let (payload, rest) ← cut? (mark - 0x80) bytes
      if standsAlone payload then none else some ⟨false, payload, rest⟩
    else if mark < 0xc0 then (cutLong? (mark - 0xb7) bytes).map fun (payload, rest) => ⟨false, payload, rest⟩
    else if mark < 0xf8 then (cut? (mark - 0xc0) bytes).map fun (payload, rest) => ⟨true, payload, rest⟩
    else (cutLong? (mark - 0xf7) bytes).map fun (payload, rest) => ⟨true, payload, rest⟩

/-! ## Fronts -/

theorem cut?_eq_some_iff {length : Nat} {bytes payload rest : Bytes} :
    cut? length bytes = some (payload, rest) ↔ payload.length = length ∧ bytes = payload ++ rest := by
  constructor
  · intro read
    rw [cut?] at read
    split at read
    case isTrue enough =>
      cases read
      exact ⟨List.length_take_of_le enough, (List.take_append_drop length bytes).symm⟩
    case isFalse => cases read
  · rintro ⟨rfl, rfl⟩
    simp [cut?]

theorem cutLong?_eq_some_iff {size : Nat} {bytes payload rest : Bytes} :
    cutLong? size bytes = some (payload, rest) ↔
      (Bytes.minimal payload.length).length = size ∧ 56 ≤ payload.length ∧
        bytes = Bytes.minimal payload.length ++ (payload ++ rest) := by
  constructor
  · intro read
    simp only [cutLong?, Option.bind_eq_bind, Option.bind_eq_some_iff, Prod.exists] at read
    obtain ⟨spelled, others, first, length, number, second⟩ := read
    split at second
    case isTrue => cases second
    case isFalse long =>
      obtain ⟨sized, rfl⟩ := cut?_eq_some_iff.mp first
      obtain ⟨rfl, rfl⟩ := cut?_eq_some_iff.mp second
      obtain rfl := Bytes.number?_eq_some_iff.mp number
      exact ⟨sized, by omega, rfl⟩
  · rintro ⟨rfl, long, rfl⟩
    have first : cut? (Bytes.minimal payload.length).length (Bytes.minimal payload.length ++ (payload ++ rest)) =
        some (Bytes.minimal payload.length, payload ++ rest) := cut?_eq_some_iff.mpr ⟨rfl, rfl⟩
    have number : Bytes.number? (Bytes.minimal payload.length) = some payload.length :=
      Bytes.number?_eq_some_iff.mpr rfl
    have second : cut? payload.length (payload ++ rest) = some (payload, rest) := cut?_eq_some_iff.mpr ⟨rfl, rfl⟩
    simp only [cutLong?, first, Option.bind_eq_bind, Option.bind_some, number, second]
    exact if_neg (by omega)

/-- The bytes of an item of the given kind. -/
def frame (isList : Bool) (payload : Bytes) : Bytes :=
  if isList then header 0xc0 payload.length ++ payload else encodeBytes payload

theorem encodeBytes_alone {payload : Bytes} (alone : standsAlone payload = true) :
    ∃ byte, payload = [byte] ∧ byte < 0x80 ∧ encodeBytes payload = [byte] := by
  match payload, alone with
  | [byte], alone =>
    have small : byte < 0x80 := of_decide_eq_true alone
    exact ⟨byte, rfl, small, if_pos small⟩

theorem encodeBytes_headed {payload : Bytes} (headed : standsAlone payload = false) :
    encodeBytes payload = header 0x80 payload.length ++ payload := by
  match payload, headed with
  | [], _ => rfl
  | [byte], headed => exact if_neg (of_decide_eq_false headed)
  | _ :: _ :: _, _ => rfl

theorem standsAlone_long {payload : Bytes} (long : 1 < payload.length) : standsAlone payload = false := by
  match payload with
  | [] => rfl
  | [_] => exact absurd long (Nat.lt_irrefl 1)
  | _ :: _ :: _ => rfl

theorem header_short {base length : Nat} (short : length < 56) : header base length = [UInt8.ofNat (base + length)] :=
  if_pos short

theorem header_long {base length : Nat} (long : 56 ≤ length) :
    header base length = UInt8.ofNat (base + 55 + (Bytes.minimal length).length) :: Bytes.minimal length :=
  if_neg (by omega)

/-- The length of anything that fits into 64 bits takes one to eight bytes. -/
theorem length_minimal_le {length : Nat} (long : 56 ≤ length) (fits : length < UInt64.size) :
    1 ≤ (Bytes.minimal length).length ∧ (Bytes.minimal length).length ≤ 8 := by
  have bits : length.log2 < 64 := (Nat.log2_lt (by omega)).mpr fits
  rw [Bytes.length_minimal, Bytes.widthOf, if_neg (by omega)]
  omega

/-- A mark below 256 is read as it was meant. -/
theorem toNat_mark {mark : Nat} (small : mark < 256) : (UInt8.ofNat mark).toNat = mark :=
  UInt8.toNat_ofNat_of_lt small

/-- The front of what was written. -/
theorem readFrame?_frame (isList : Bool) {payload : Bytes} (rest : Bytes) (fits : payload.length < UInt64.size) :
    readFrame? (frame isList payload ++ rest) = some ⟨isList, payload, rest⟩ := by
  have short : cut? payload.length (payload ++ rest) = some (payload, rest) := cut?_eq_some_iff.mpr ⟨rfl, rfl⟩
  have long (h : 56 ≤ payload.length) : cutLong? (Bytes.minimal payload.length).length
      (Bytes.minimal payload.length ++ (payload ++ rest)) = some (payload, rest) :=
    cutLong?_eq_some_iff.mpr ⟨rfl, h, rfl⟩
  cases isList with
  | true =>
    rw [frame, if_pos rfl]
    rcases Nat.lt_or_ge payload.length 56 with small | large
    · rw [header_short small, List.append_assoc, List.singleton_append, readFrame?,
        toNat_mark (by omega), if_neg (by omega), if_neg (by omega), if_neg (by omega), if_pos (by omega),
        Nat.add_sub_cancel_left, short]
      rfl
    · have := length_minimal_le large fits
      rw [header_long large, List.cons_append, List.cons_append, List.append_assoc, readFrame?,
        toNat_mark (by omega), if_neg (by omega), if_neg (by omega), if_neg (by omega), if_neg (by omega),
        Nat.add_sub_cancel_left, long large]
      rfl
  | false =>
    rw [frame, if_neg Bool.false_ne_true]
    cases alone : standsAlone payload with
    | true =>
      obtain ⟨byte, rfl, small, written⟩ := encodeBytes_alone alone
      have mark : byte.toNat < 0x80 := small
      rw [written, List.singleton_append, readFrame?, if_pos mark]
    | false =>
      rw [encodeBytes_headed alone]
      rcases Nat.lt_or_ge payload.length 56 with small | large
      · rw [header_short small, List.append_assoc, List.singleton_append, readFrame?,
          toNat_mark (by omega), if_neg (by omega), if_pos (by omega), Nat.add_sub_cancel_left, short]
        simp [alone]
      · have := length_minimal_le large fits
        rw [header_long large, List.cons_append, List.cons_append, List.append_assoc, readFrame?,
          toNat_mark (by omega), if_neg (by omega), if_neg (by omega), if_pos (by omega),
          Nat.add_sub_cancel_left, long large]
        rfl

/-- What is read at the front was written so. -/
theorem eq_frame_of_readFrame? {bytes payload rest : Bytes} {isList : Bool}
    (read : readFrame? bytes = some ⟨isList, payload, rest⟩) : bytes = frame isList payload ++ rest := by
  cases bytes with
  | nil => cases read
  | cons first bytes =>
    have spelled {n : Nat} (mark : first.toNat = n) : first = UInt8.ofNat n := by rw [← mark, UInt8.ofNat_toNat]
    have := first.toNat_lt
    rw [readFrame?] at read
    split at read
    case isTrue alone =>
      cases read
      have small : first < 0x80 := alone
      have written : encodeBytes [first] = [first] := if_pos small
      rw [frame, if_neg Bool.false_ne_true, written, List.singleton_append]
    split at read
    case isTrue =>
      simp only [Option.bind_eq_bind, Option.bind_eq_some_iff, Prod.exists] at read
      obtain ⟨_, _, short, read⟩ := read
      split at read
      case isTrue => cases read
      case isFalse headed =>
        cases read
        obtain ⟨sized, rfl⟩ := cut?_eq_some_iff.mp short
        have mark : first = UInt8.ofNat (0x80 + payload.length) := spelled (by omega)
        rw [frame, if_neg Bool.false_ne_true, encodeBytes_headed (by simpa using headed), header_short (by omega),
          ← mark, List.append_assoc, List.singleton_append]
    split at read
    case isTrue =>
      simp only [Option.map_eq_some_iff, Prod.exists] at read
      obtain ⟨_, _, long, read⟩ := read
      cases read
      obtain ⟨sized, large, rfl⟩ := cutLong?_eq_some_iff.mp long
      have mark : first = UInt8.ofNat (0x80 + 55 + (Bytes.minimal payload.length).length) := spelled (by omega)
      rw [frame, if_neg Bool.false_ne_true, encodeBytes_headed (standsAlone_long (by omega)), header_long large,
        ← mark, List.append_assoc, List.cons_append]
    split at read
    case isTrue =>
      simp only [Option.map_eq_some_iff, Prod.exists] at read
      obtain ⟨_, _, short, read⟩ := read
      cases read
      obtain ⟨sized, rfl⟩ := cut?_eq_some_iff.mp short
      have mark : first = UInt8.ofNat (0xc0 + payload.length) := spelled (by omega)
      rw [frame, if_pos rfl, header_short (by omega), ← mark, List.append_assoc, List.singleton_append]
    case isFalse =>
      simp only [Option.map_eq_some_iff, Prod.exists] at read
      obtain ⟨_, _, long, read⟩ := read
      cases read
      obtain ⟨sized, large, rfl⟩ := cutLong?_eq_some_iff.mp long
      have mark : first = UInt8.ofNat (0xc0 + 55 + (Bytes.minimal payload.length).length) := spelled (by omega)
      rw [frame, if_pos rfl, header_long large, ← mark, List.append_assoc, List.cons_append]

/-! ## Items -/

/-- Whether an item is a list. -/
def Item.isList : Item → Bool
  | .bytes _ => false
  | .list _ => true

/-- What an item holds, in bytes. -/
def Item.payload : Item → Bytes
  | .bytes string => string
  | .list items => encodeAll items

theorem encode_eq_frame (item : Item) : encode item = frame item.isList item.payload := by
  cases item with
  | bytes string => rw [encode]; rfl
  | list items => rw [encode]; rfl

/-- A list is longer than its payload. -/
theorem length_lt_list (payload : Bytes) : payload.length < (frame true payload).length := by
  have : 0 < (header 0xc0 payload.length).length := by
    rw [header]
    split <;> exact Nat.succ_pos _
  rw [frame, if_pos rfl, List.length_append]
  omega

theorem length_header_mono (base : Nat) {length length' : Nat} (le : length ≤ length') :
    (header base length).length ≤ (header base length').length := by
  have width := Bytes.widthOf_mono le
  rcases Nat.lt_or_ge length 56 with small | large
  · rw [header_short small, header]
    split <;> simp
  · rw [header_long large, header_long (by omega), List.length_cons, List.length_cons, Bytes.length_minimal,
      Bytes.length_minimal]
    omega

/-- A list tells its payload, however long it is: of two payloads the longer one makes the longer list. -/
theorem frame_list_inj {payload payload' : Bytes} (same : frame true payload = frame true payload') :
    payload = payload' := by
  have whole (p : Bytes) : (frame true p).length = (header 0xc0 p.length).length + p.length := by
    rw [frame, if_pos rfl, List.length_append]
  have lengths := congrArg List.length same
  rw [whole, whole] at lengths
  have size : payload.length = payload'.length := by
    rcases Nat.le_total payload.length payload'.length with le | le
    · have := length_header_mono 0xc0 le
      omega
    · have := length_header_mono 0xc0 le
      omega
  rw [frame, if_pos rfl, frame, if_pos rfl] at same
  exact List.append_inj_right' same size

/-- No item takes no bytes. -/
theorem frame_ne_nil (isList : Bool) (payload : Bytes) : frame isList payload ≠ [] := by
  intro empty
  cases isList with
  | true => exact absurd (length_lt_list payload) (by simp [empty])
  | false =>
    rw [frame, if_neg Bool.false_ne_true] at empty
    cases alone : standsAlone payload with
    | true =>
      obtain ⟨byte, -, -, written⟩ := encodeBytes_alone alone
      rw [written] at empty
      cases empty
    | false =>
      rw [encodeBytes_headed alone, header] at empty
      split at empty <;> cases empty

/-- What follows the front is shorter than the whole. -/
theorem length_rest_lt {bytes payload rest : Bytes} {isList : Bool}
    (read : readFrame? bytes = some ⟨isList, payload, rest⟩) : rest.length < bytes.length := by
  have := List.length_pos_iff.mpr (frame_ne_nil isList payload)
  rw [eq_frame_of_readFrame? read, List.length_append]
  omega

theorem length_payload_lt {bytes payload rest : Bytes} (read : readFrame? bytes = some ⟨true, payload, rest⟩) :
    payload.length < bytes.length := by
  have := length_lt_list payload
  rw [eq_frame_of_readFrame? read, List.length_append]
  omega

/-- The items that bytes hold, one after the other up to the end. -/
def decodeAll? (bytes : Bytes) : Option (List Item) :=
  match _read : readFrame? bytes with
  | none => if bytes.isEmpty then some [] else none
  | some ⟨false, payload, rest⟩ => (decodeAll? rest).map (.bytes payload :: ·)
  | some ⟨true, payload, rest⟩ => do
    let items ← decodeAll? payload
    let others ← decodeAll? rest
    return .list items :: others
termination_by bytes.length
decreasing_by
  · exact length_rest_lt ‹_›
  · exact length_payload_lt ‹_›
  · exact length_rest_lt ‹_›

theorem length_payload_le (item : Item) : item.payload.length ≤ (encode item).length := by
  rw [encode_eq_frame]
  cases item with
  | list items => exact Nat.le_of_lt (length_lt_list _)
  | bytes string =>
    show string.length ≤ (encodeBytes string).length
    cases alone : standsAlone string with
    | true =>
      obtain ⟨byte, rfl, -, written⟩ := encodeBytes_alone alone
      rw [written]
    | false => simp [encodeBytes_headed alone]

/-- The front of items that were written one after the other is that of the first. -/
theorem readFrame?_encodeAll {bytes : Bytes} {item : Item} {items : List Item} (fits : bytes.length < UInt64.size)
    (written : encodeAll (item :: items) = bytes) :
    readFrame? bytes = some ⟨item.isList, item.payload, encodeAll items⟩ := by
  subst written
  have := length_payload_le item
  rw [encodeAll, List.length_append] at fits
  rw [encodeAll, encode_eq_frame, readFrame?_frame _ _ (by omega)]

/-- Items one after the other tell the first one's payload and those after it, however long these are. -/
theorem encodeAll_cons_inj {item item' : Item} {items items' : List Item} (fits : item.payload.length < UInt64.size)
    (fits' : item'.payload.length < UInt64.size) (same : encodeAll (item :: items) = encodeAll (item' :: items')) :
    item.payload = item'.payload ∧ encodeAll items = encodeAll items' := by
  have front {i : Item} (is : List Item) (short : i.payload.length < UInt64.size) :
      readFrame? (encodeAll (i :: is)) = some ⟨i.isList, i.payload, encodeAll is⟩ := by
    rw [encodeAll, encode_eq_frame, readFrame?_frame _ _ short]
  have fronts := (front items fits).symm.trans (same ▸ front items' fits')
  obtain ⟨-, payload, rest⟩ := Frame.mk.inj (Option.some.inj fronts)
  exact ⟨payload, rest⟩

theorem encodeAll_cons_ne_nil (item : Item) (items : List Item) : encodeAll (item :: items) ≠ [] := by
  rw [encodeAll, encode_eq_frame]
  exact List.append_ne_nil_of_left_ne_nil (frame_ne_nil _ _) _

/-- Only items that start with what is at the front can have been written. -/
theorem eq_cons_of_readFrame? {bytes payload rest : Bytes} {isList : Bool} {items : List Item}
    (fits : bytes.length < UInt64.size) (read : readFrame? bytes = some ⟨isList, payload, rest⟩)
    (written : encodeAll items = bytes) :
    ∃ item others, items = item :: others ∧ item.isList = isList ∧ item.payload = payload ∧
      encodeAll others = rest := by
  cases items with
  | nil =>
    subst written
    cases read
  | cons item others =>
    cases read.symm.trans (readFrame?_encodeAll fits written)
    exact ⟨item, others, rfl, rfl, rfl, rfl⟩

/-- **Strict reading of items undoes writing and takes nothing else.** -/
theorem decodeAll?_eq_some_iff {bytes : Bytes} {items : List Item} (fits : bytes.length < UInt64.size) :
    decodeAll? bytes = some items ↔ encodeAll items = bytes := by
  -- Along the reader's own recursion; the front decides which items can be meant.
  fun_induction decodeAll? bytes generalizing items with
  | case1 bytes none empty =>
    obtain rfl : bytes = [] := by simpa using empty
    cases items with
    | nil => exact iff_of_true rfl rfl
    | cons item others => exact iff_of_false nofun (encodeAll_cons_ne_nil item others)
  | case2 bytes none more =>
    refine ⟨nofun, fun written => ?_⟩
    cases items with
    | nil => exact absurd (List.isEmpty_iff.mpr written.symm) more
    | cons item others => cases none.symm.trans (readFrame?_encodeAll fits written)
  | case3 bytes payload rest read ih =>
    have := length_rest_lt read
    rw [Option.map_eq_some_iff]
    constructor
    · rintro ⟨others, later, rfl⟩
      rw [encodeAll, (ih (by omega)).mp later, eq_frame_of_readFrame? read]
      rfl
    · intro written
      obtain ⟨item, others, rfl, kind, rfl, later⟩ := eq_cons_of_readFrame? fits read written
      cases item with
      | list inner => cases kind
      | bytes string => exact ⟨others, (ih (by omega)).mpr later, rfl⟩
  | case4 bytes payload rest read ih₁ ih₂ =>
    have := length_rest_lt read
    have := length_payload_lt read
    simp only [Option.bind_eq_bind, Option.bind_eq_some_iff, Option.pure_def, Option.some.injEq]
    constructor
    · rintro ⟨inner, within, others, later, rfl⟩
      rw [encodeAll, encode, (ih₁ (by omega)).mp within, (ih₂ (by omega)).mp later, eq_frame_of_readFrame? read]
      rfl
    · intro written
      obtain ⟨item, others, rfl, kind, rfl, later⟩ := eq_cons_of_readFrame? fits read written
      cases item with
      | bytes string => cases kind
      | list inner => exact ⟨inner, (ih₁ (by omega)).mpr rfl, others, (ih₂ (by omega)).mpr later, rfl⟩

end Allotment.Rlp
