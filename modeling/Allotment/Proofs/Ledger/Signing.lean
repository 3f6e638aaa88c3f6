import Allotment.Ledger.Signer
import Allotment.Proofs.Ledger.Envelope

/-!
# What is signed can be read back

The bytes of a signed contract call are an envelope: whoever reads them strictly finds the call, and a signature that
the signer made for just the fields that were read (`Signer.sign_readable`). So bytes that are equal were signed for
equal calls.
-/

namespace Allotment

/-! ## The size of signed bytes -/

namespace Rlp

theorem length_header_le (base : Nat) {length : Nat} (fits : length < UInt64.size) :
    (header base length).length ≤ 9 := by
  rcases Nat.lt_or_ge length 56 with small | large
  · rw [header_short small, List.length_singleton]
    omega
  · have := length_minimal_le large fits
    rw [header_long large, List.length_cons]
    omega

/-- An item takes at most nine bytes more than its payload. -/
theorem length_encode_le (item : Item) (fits : item.payload.length < UInt64.size) :
    (encode item).length ≤ item.payload.length + 9 := by
  rw [encode_eq_frame]
  cases item with
  | list items =>
    have := length_header_le 0xc0 fits
    rw [frame, Item.isList, if_pos rfl, List.length_append]
    omega
  | bytes string =>
    rw [frame, Item.isList, if_neg Bool.false_ne_true]
    cases alone : standsAlone (Item.bytes string).payload with
    | true =>
      obtain ⟨byte, spelled, -, written⟩ := encodeBytes_alone alone
      rw [written, spelled, List.length_singleton]
      omega
    | false =>
      have := length_header_le 0x80 fits
      rw [encodeBytes_headed alone, List.length_append]
      omega

end Rlp

namespace ItemFormat

/-- A number of at most 256 bits. -/
theorem length_encode_below_le {bound : Nat} (fits : bound ≤ Word.size) (n : Fin bound) :
    (Rlp.encode ((below bound).write n)).length ≤ 41 := by
  have width : Bytes.widthOf n.val ≤ 32 := by
    rw [Bytes.widthOf]
    split
    case isTrue => omega
    case isFalse positive =>
      have : n.val.log2 < 256 := (Nat.log2_lt positive).mpr (Nat.lt_of_lt_of_le n.isLt fits)
      omega
  have payload : ((below bound).write n).payload.length ≤ 32 := by
    show (Bytes.minimal n.val).length ≤ 32
    rwa [Bytes.length_minimal]
  have := Rlp.length_encode_le _ (Nat.lt_of_le_of_lt payload (by decide))
  omega

theorem length_encode_uint64_le (n : UInt64) : (Rlp.encode (uint64.write n)).length ≤ 41 :=
  length_encode_below_le (by decide) n.toFin

theorem length_encode_address_le (a : Address) : (Rlp.encode (address.write a)).length ≤ 29 := by
  have payload : (address.write a).payload.length = 20 := a.bytes.length_toList
  have := Rlp.length_encode_le (address.write a) (by rw [payload]; decide)
  omega

end ItemFormat

/-! ## Signatures -/

namespace Secp256k1

/-- Whatever point the secret number leads to: a proof about the point itself would set out to compute it. -/
theorem signWith?_lt {key : PrivateKey} {hash k : Nat} {signature : Signature}
    (signed : signWith? key hash k = some signature) : signature.r < order ∧ signature.s < order := by
  have below (n : Nat) : n % order < order := Nat.mod_lt n (by decide)
  unfold signWith? at signed
  generalize baseMultiple k = point at signed
  obtain ⟨x, y⟩ := point
  dsimp only at signed
  generalize inverse order k * ((hash + x % order * key.value) % order) = product at signed
  have first := below x
  have second := below product
  split at signed
  case isTrue => cases signed
  case isFalse =>
    split at signed
    case isTrue upper =>
      obtain rfl := Option.some.inj signed
      exact ⟨first, Nat.sub_lt (by decide) (Nat.zero_lt_of_lt upper)⟩
    case isFalse =>
      obtain rfl := Option.some.inj signed
      exact ⟨first, second⟩

/-- Both numbers of a signature are below the order of the curve. -/
theorem sign?_lt {key : PrivateKey} {hash : Digest} {signature : Signature}
    (signed : sign? key hash = some signature) : signature.r < order ∧ signature.s < order := by
  simp only [sign?, Option.bind_eq_bind, Option.bind_eq_some_iff] at signed
  obtain ⟨k, -, signed⟩ := signed
  exact signWith?_lt signed

end Secp256k1

/-! ## Contract calls -/

/-- The envelope of a contract call. -/
def Transaction.envelope (tx : Transaction) (odd : Bool) (r s : Word) : Envelope where
  chainId := tx.chainId
  nonce := tx.nonce
  maxPriorityFee := tx.fees.maxPriorityFee
  maxFee := tx.fees.maxFee
  gasLimit := tx.fees.gasLimit
  recipient := some tx.contract
  value := 0
  input := tx.input
  accessList := []
  odd
  r
  s

namespace Transaction

theorem signingHash_envelope (tx : Transaction) (odd : Bool) (r s : Word) :
    (tx.envelope odd r s).signingHash = tx.signingHash := by
  rw [Envelope.signingHash, signingHash]
  rfl

theorem encodeSigned_eq (tx : Transaction) (odd : Bool) (r s : Word) :
    tx.encodeSigned ⟨odd, r.val, s.val⟩ = (tx.envelope odd r s).encode := rfl

/-- The length of the envelope of a call has 64 bits if that of its input has 63. -/
theorem length_encode_envelope {tx : Transaction} (fits : tx.input.length < 0x8000000000000000) (odd : Bool)
    (r s : Word) : (tx.envelope odd r s).encode.length < UInt64.size := by
  have size : UInt64.size = 0x10000000000000000 := rfl
  have number {bound : Nat} (small : bound ≤ Word.size) (n : Fin bound) := ItemFormat.length_encode_below_le small n
  have chainId := ItemFormat.length_encode_uint64_le tx.chainId
  have nonce := ItemFormat.length_encode_uint64_le tx.nonce
  have maxPriorityFee := number (by decide) tx.fees.maxPriorityFee
  have maxFee := number (by decide) tx.fees.maxFee
  have gasLimit := ItemFormat.length_encode_uint64_le tx.fees.gasLimit
  have recipient : (Rlp.encode (ItemFormat.recipient.write (some tx.contract))).length ≤ 29 :=
    ItemFormat.length_encode_address_le tx.contract
  have value := number (Nat.le_refl _) 0
  have input : (Rlp.encode (ItemFormat.bytes.write tx.input)).length ≤ tx.input.length + 9 :=
    Rlp.length_encode_le (.bytes tx.input) (Nat.lt_trans fits (by decide))
  have accessList : (Rlp.encode (Access.format.list.write [])).length = 1 := by decide
  have parity : (Rlp.encode (ItemFormat.flag.write odd)).length ≤ 41 := by
    cases odd <;> decide
  have first := number (Nat.le_refl _) r
  have second := number (Nat.le_refl _) s
  have payload : (Rlp.encodeAll (tx.envelope odd r s).items).length ≤ tx.input.length + 500 := by
    simp only [Envelope.items, Envelope.unsigned, envelope, List.cons_append, List.nil_append, Rlp.encodeAll,
      List.length_append, List.length_nil]
    omega
  have whole : (Rlp.encode (.list (tx.envelope odd r s).items)).length ≤ tx.input.length + 509 := by
    have := Rlp.length_encode_le (.list (tx.envelope odd r s).items) (Nat.lt_of_le_of_lt payload (by omega))
    rw [Rlp.Item.payload] at this
    omega
  rw [Envelope.encode, List.length_cons]
  omega

/-- The fields of an envelope tell the call. -/
theorem eq_of_envelope_eq {tx tx' : Transaction} {odd odd' : Bool} {r s r' s' : Word}
    (same : tx'.envelope odd' r' s' = tx.envelope odd r s) : tx' = tx := by
  obtain ⟨chainId', nonce', ⟨gasLimit', maxFee', maxPriorityFee'⟩, contract', input'⟩ := tx'
  obtain ⟨chainId, nonce, ⟨gasLimit, maxFee, maxPriorityFee⟩, contract, input⟩ := tx
  simp only [envelope, Envelope.mk.injEq, Option.some.injEq] at same
  obtain ⟨rfl, rfl, rfl, rfl, rfl, rfl, -, rfl, -⟩ := same
  rfl

theorem decode?_envelope {tx : Transaction} (fits : tx.input.length < 0x8000000000000000) (odd : Bool) (r s : Word) :
    Envelope.decode? (tx.envelope odd r s).encode = some (tx.envelope odd r s) :=
  (Envelope.decode?_eq_some_iff (length_encode_envelope fits odd r s)).mpr rfl

end Transaction

/-! ## Reading what was signed -/

/-- A signature was put to the call. -/
theorem Signer.attach_eq_ok {tx : Transaction} {signature : Option Secp256k1.Signature} {signed : SignedTransaction}
    (attached : attach tx signature = .ok signed) :
    ∃ given, signature = some given ∧
      signed = ⟨tx.encodeSigned given, Keccak.hash (tx.encodeSigned given), tx.nonce⟩ := by
  cases signature with
  | none => cases attached
  | some given =>
    cases attached
    exact ⟨given, rfl, rfl⟩

/-- What a signer makes of a call is an envelope with a signature of the hash of its fields. -/
theorem Signer.sign_eq_ok {signer : Signer} {tx : Transaction} {signed : SignedTransaction}
    (signing : signer.sign tx = .ok signed) :
    ∃ odd r s,
      signed = ⟨(tx.envelope odd r s).encode, Keccak.hash (tx.envelope odd r s).encode, tx.nonce⟩ ∧
      Secp256k1.sign? signer.key (tx.envelope odd r s).signingHash = some (tx.envelope odd r s).signature := by
  obtain ⟨signature, given, rfl⟩ := attach_eq_ok signing
  have small : Secp256k1.order ≤ Word.size := by decide
  have ⟨first, second⟩ := Secp256k1.sign?_lt given
  have whole := tx.encodeSigned_eq signature.odd ⟨signature.r, Nat.lt_of_lt_of_le first small⟩
    ⟨signature.s, Nat.lt_of_lt_of_le second small⟩
  refine ⟨signature.odd, ⟨signature.r, Nat.lt_of_lt_of_le first small⟩,
    ⟨signature.s, Nat.lt_of_lt_of_le second small⟩, ?_, ?_⟩
  · rw [← whole]
  · rw [Transaction.signingHash_envelope]
    exact given

/-- Signed bytes tell the sequence number, and need not be short for that. -/
theorem Transaction.nonce_of_encodeSigned {tx tx' : Transaction} {signature signature' : Secp256k1.Signature}
    (same : tx.encodeSigned signature = tx'.encodeSigned signature') : tx.nonce = tx'.nonce := by
  have short (n : UInt64) : (Rlp.Item.nat n.toNat).payload.length < UInt64.size := by
    have width : Bytes.widthOf n.toNat ≤ Bytes.widthOf (UInt64.size - 1) := Bytes.widthOf_mono (Nat.le_pred_of_lt n.toNat_lt)
    show (Bytes.minimal n.toNat).length < UInt64.size
    rw [Bytes.length_minimal]
    exact Nat.lt_of_le_of_lt width (by decide)
  have lists := (List.cons.inj same).2
  rw [Rlp.encode_eq_frame, Rlp.encode_eq_frame] at lists
  have items := Rlp.frame_list_inj lists
  -- The chain id comes first, and behind it the sequence number.
  obtain ⟨-, later⟩ := Rlp.encodeAll_cons_inj (short _) (short _) items
  obtain ⟨spelled, -⟩ := Rlp.encodeAll_cons_inj (short _) (short _) later
  have spelled : Bytes.minimal tx.nonce.toNat = Bytes.minimal tx'.nonce.toNat := spelled
  rw [← UInt64.toNat_inj, ← Bytes.toNat_minimal tx.nonce.toNat, spelled, Bytes.toNat_minimal]

theorem Signer.nonce_of_raw {signer signer' : Signer} {tx tx' : Transaction} {signed signed' : SignedTransaction}
    (signing : signer.sign tx = .ok signed) (signing' : signer'.sign tx' = .ok signed')
    (same : signed.raw = signed'.raw) : tx.nonce = tx'.nonce := by
  obtain ⟨_, -, rfl⟩ := attach_eq_ok signing
  obtain ⟨_, -, rfl⟩ := attach_eq_ok signing'
  exact Transaction.nonce_of_encodeSigned same

/-- **What is signed can be read back.** The bytes are the type byte and one list that goes to the end; a strict reader
finds in them just the call that was to be signed, without value and without a list of accesses, and the signature that
the signer makes of the hash of the nine fields found; no other bytes are read so; the hash is that of the bytes; and
the bytes of another call of the same signer are other bytes. No byte string in memory is as long as the bound on the
inputs. -/
theorem Signer.sign_readable {signer : Signer} {tx : Transaction} {signed : SignedTransaction}
    (fits : tx.input.length < 0x8000000000000000) (signing : signer.sign tx = .ok signed) :
    ∃ (body : Bytes) (fields : List Rlp.Item) (e : Envelope),
      signed.raw = 0x02 :: body ∧ Rlp.decodeAll? body = some [.list fields] ∧
      Envelope.decode? signed.raw = some e ∧
      (∀ raw : Bytes, raw.length < UInt64.size → Envelope.decode? raw = some e → raw = signed.raw) ∧
      e.chainId = tx.chainId ∧ e.nonce = tx.nonce ∧ e.maxPriorityFee = tx.fees.maxPriorityFee ∧
      e.maxFee = tx.fees.maxFee ∧ e.gasLimit = tx.fees.gasLimit ∧ e.recipient = some tx.contract ∧ e.value = 0 ∧
      e.input = tx.input ∧ e.accessList = [] ∧
      Secp256k1.sign? signer.key (Keccak.hash (0x02 :: Rlp.encode (.list e.unsigned))) = some e.signature ∧
      signed.hash = Keccak.hash signed.raw ∧ signed.nonce = tx.nonce ∧
      ∀ (tx' : Transaction) (signed' : SignedTransaction), tx'.input.length < 0x8000000000000000 →
        signer.sign tx' = .ok signed' → tx' ≠ tx → signed'.raw ≠ signed.raw := by
  obtain ⟨odd, r, s, rfl, given⟩ := sign_eq_ok signing
  have read := Transaction.decode?_envelope fits odd r s
  have length := Transaction.length_encode_envelope fits odd r s
  refine ⟨Rlp.encode (.list (tx.envelope odd r s).items), (tx.envelope odd r s).items, tx.envelope odd r s, rfl, ?_,
    read, ?_, rfl, rfl, rfl, rfl, rfl, rfl, rfl, rfl, rfl, given, rfl, rfl, ?_⟩
  · rw [Envelope.encode, List.length_cons] at length
    exact (Rlp.decodeAll?_eq_some_iff (by omega)).mpr (by simp [Rlp.encodeAll])
  · intro raw small reads
    exact ((Envelope.decode?_eq_some_iff small).mp reads).symm
  · intro tx' signed' fits' signing' other same
    obtain ⟨odd', r', s', rfl, -⟩ := sign_eq_ok signing'
    have read' := Transaction.decode?_envelope fits' odd' r' s'
    have same : (tx'.envelope odd' r' s').encode = (tx.envelope odd r s).encode := same
    rw [same, read] at read'
    exact other (Transaction.eq_of_envelope_eq (Option.some.inj read').symm)

/-- A call with one byte of input that needs a header, signed with the key one. -/
theorem Signer.sign_readable_one :
    ∃ signed, (⟨1, by decide, by decide⟩ : Signer).sign
        ⟨11155111, 7, .standard, ⟨Vector.replicate 20 0x33⟩, [0x80]⟩ = .ok signed ∧
      ∃ e, Envelope.decode? signed.raw = some e ∧ e.nonce = 7 ∧ e.input = [0x80] := by
  have signs : ((⟨1, by decide, by decide⟩ : Signer).sign
      ⟨11155111, 7, .standard, ⟨Vector.replicate 20 0x33⟩, [0x80]⟩).isOk = true := by decide +kernel
  cases signing : (⟨1, by decide, by decide⟩ : Signer).sign
      ⟨11155111, 7, .standard, ⟨Vector.replicate 20 0x33⟩, [0x80]⟩ with
  | error cause =>
    rw [signing] at signs
    cases signs
  | ok signed =>
    obtain ⟨_, _, e, _, _, read, _, _, nonce, _, _, _, _, _, input, _⟩ :=
      sign_readable (by decide) signing
    exact ⟨signed, rfl, e, read, nonce, input⟩

end Allotment
