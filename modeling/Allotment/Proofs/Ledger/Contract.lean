import Allotment.Ledger.Contract
import Allotment.Proofs.Ledger.Abi

/-!
# What is asked of the contracts

The input of a function is the first four bytes of the hash of its signature, and after them its arguments in the
standard form: a head with a word for each, and the tail of the period. `inputs_encode_arguments` spells these bytes
out; the arguments are read back from them, and no two different calls have the same input.

The selectors of the three functions are told apart by computing them (`signature_of_selector`). Where two calls have
the same selector, their arguments are told apart in the head and in the tail one by one (`Call.input_injective`).
-/

namespace Allotment.Contract

open Abi (Value word contents filling decode?)

/-- A function of the contracts with its arguments. -/
inductive Call where
  | claimReward (period : String) (token : Address)
  | claimable (period : String) (token account : Address)
  | boundNodeCount (account : Address)
  deriving DecidableEq

namespace Call

/-- The signature of the function. -/
def signature : Call → String
  | .claimReward _ _ => "claimReward(string,address)"
  | .claimable _ _ _ => "claimable(string,address,address)"
  | .boundNodeCount _ => "boundNodeCount(address)"

/-- The arguments of the function. -/
def arguments : Call → List Value
  | .claimReward period token => [.string period, .address token]
  | .claimable period token account => [.string period, .address token, .address account]
  | .boundNodeCount account => [.address account]

/-- The input of the function. -/
def input : Call → Bytes
  | .claimReward period token => Contract.claimReward period token
  | .claimable period token account => Contract.claimable period token account
  | .boundNodeCount account => Contract.boundNodeCount account

theorem input_eq (call : Call) : call.input = Abi.selector call.signature ++ Abi.encode call.arguments := by
  cases call with
  | claimReward | claimable | boundNodeCount => rfl

theorem length_input (call : Call) :
    call.input.length = 4 + 32 * call.arguments.length + (call.arguments.flatMap Value.tail).length := by
  rw [input_eq, List.length_append, Abi.length_selector, Abi.length_encode, Nat.add_assoc]

/-- The arguments are read from what follows the selector. -/
theorem decode?_input (call : Call) (fits : Abi.Fits (32 * call.arguments.length) call.arguments) :
    decode? (call.arguments.map Value.kind) (call.input.drop 4) = some call.arguments := by
  rw [input_eq, List.drop_left' (Abi.length_selector _)]
  exact Abi.decode?_eq_some_iff.mpr ⟨rfl, rfl, fits⟩

variable {call call' : Call}

/-- The functions have different selectors. -/
theorem signature_of_selector (same : Abi.selector call.signature = Abi.selector call'.signature) :
    call.signature = call'.signature := by
  have first : Abi.selector "claimReward(string,address)" = [0xfe, 0x1f, 0x31, 0x81] := by decide +kernel
  have second : Abi.selector "claimable(string,address,address)" = [0x56, 0xdd, 0x0c, 0x0b] := by decide +kernel
  have third : Abi.selector "boundNodeCount(address)" = [0xc0, 0xc8, 0xe1, 0x66] := by decide +kernel
  cases call with
  | claimReward | claimable | boundNodeCount =>
    cases call' with
    | claimReward | claimable | boundNodeCount => simp_all [signature]

/-- **Different calls have different inputs**, however long the period is. -/
theorem input_injective : Function.Injective input := by
  intro call call' same
  rw [input_eq, input_eq] at same
  obtain ⟨sameSelector, sameBytes⟩ := List.append_inj same (by rw [Abi.length_selector, Abi.length_selector])
  have sameFunction := signature_of_selector sameSelector
  cases call with
  | claimReward period token =>
    cases call' with
    | claimReward period' token' =>
      rw [arguments, arguments, Abi.encode_inj (by rfl)] at sameBytes
      simp only [Abi.heads_cons_inj, Abi.head_address_inj, List.flatMap_cons, List.flatMap_nil,
        Abi.tail_address, List.append_nil, Abi.tail_string_inj] at sameBytes
      rw [sameBytes.1.2.1, sameBytes.2]
    | claimable | boundNodeCount => simp [signature] at sameFunction
  | claimable period token account =>
    cases call' with
    | claimable period' token' account' =>
      rw [arguments, arguments, Abi.encode_inj (by rfl)] at sameBytes
      simp only [Abi.heads_cons_inj, Abi.head_address_inj, List.flatMap_cons, List.flatMap_nil,
        Abi.tail_address, List.append_nil, Abi.tail_string_inj] at sameBytes
      rw [sameBytes.1.2.1, sameBytes.1.2.2.1, sameBytes.2]
    | claimReward | boundNodeCount => simp [signature] at sameFunction
  | boundNodeCount account =>
    cases call' with
    | boundNodeCount account' =>
      rw [arguments, arguments, Abi.encode_inj (by rfl)] at sameBytes
      simp only [Abi.heads_cons_inj, Abi.head_address_inj] at sameBytes
      rw [sameBytes.1.1]
    | claimReward | claimable => simp [signature] at sameFunction

end Call

/-- **The input of a function is its selector and the standard form of its arguments**, and it is the input of no other
call. The arguments are read back from it if the length of the period fits into a word, as it does for every text that
can be held in memory. -/
theorem inputs_encode_arguments :
    (∀ period token,
      claimReward period token = (Keccak.hash (contents "claimReward(string,address)")).toList.take 4 ++
        (word 64 ++ (List.replicate 12 0x00 ++ token.bytes.toList) ++
          (word period.utf8ByteSize ++ (contents period ++ List.replicate (filling period.utf8ByteSize) 0x00))) ∧
      (claimReward period token).length = 4 + 32 * 2 + 32 + 32 * ((period.utf8ByteSize + 31) / 32) ∧
      (period.utf8ByteSize < 2 ^ 256 →
        decode? [.string, .address] ((claimReward period token).drop 4) = some [.string period, .address token])) ∧
    (∀ period token account,
      claimable period token account = (Keccak.hash (contents "claimable(string,address,address)")).toList.take 4 ++
        (word 96 ++ (List.replicate 12 0x00 ++ token.bytes.toList) ++ (List.replicate 12 0x00 ++ account.bytes.toList) ++
          (word period.utf8ByteSize ++ (contents period ++ List.replicate (filling period.utf8ByteSize) 0x00))) ∧
      (claimable period token account).length = 4 + 32 * 3 + 32 + 32 * ((period.utf8ByteSize + 31) / 32) ∧
      (period.utf8ByteSize < 2 ^ 256 →
        decode? [.string, .address, .address] ((claimable period token account).drop 4) =
          some [.string period, .address token, .address account])) ∧
    (∀ account,
      boundNodeCount account = (Keccak.hash (contents "boundNodeCount(address)")).toList.take 4 ++
        (List.replicate 12 0x00 ++ account.bytes.toList) ∧
      (boundNodeCount account).length = 36 ∧
      decode? [.address] ((boundNodeCount account).drop 4) = some [.address account]) ∧
    Function.Injective Call.input := by
  have low : 64 < 2 ^ 256 ∧ 96 < 2 ^ 256 := by decide
  refine ⟨fun period token => ⟨?_, ?_, fun fits => ?_⟩, fun period token account => ⟨?_, ?_, fun fits => ?_⟩,
    fun account => ⟨?_, ?_, ?_⟩, Call.input_injective⟩
  · rw [claimReward, Abi.selector_eq, Abi.encode]
    simp only [Abi.heads, Value.head, List.flatMap_cons, List.flatMap_nil, Abi.tail_address, List.append_nil,
      Abi.tail_string, Abi.length_contents, List.append_assoc]
    rfl
  · refine (Call.length_input (.claimReward period token)).trans ?_
    simp only [Call.arguments, List.length_cons, List.length_nil, List.flatMap_cons, List.flatMap_nil, Abi.tail_address,
      List.append_nil, Abi.length_tail_string, Nat.add_assoc]
  · exact Call.decode?_input (.claimReward period token) ⟨⟨low.1, fits⟩, trivial, trivial⟩
  · rw [claimable, Abi.selector_eq, Abi.encode]
    simp only [Abi.heads, Value.head, List.flatMap_cons, List.flatMap_nil, Abi.tail_address, List.append_nil,
      Abi.tail_string, Abi.length_contents, List.append_assoc]
    rfl
  · refine (Call.length_input (.claimable period token account)).trans ?_
    simp only [Call.arguments, List.length_cons, List.length_nil, List.flatMap_cons, List.flatMap_nil, Abi.tail_address,
      List.append_nil, Abi.length_tail_string, Nat.add_assoc]
  · exact Call.decode?_input (.claimable period token account) ⟨⟨low.2, fits⟩, trivial, trivial, trivial⟩
  · rw [boundNodeCount, Abi.selector_eq, Abi.encode]
    simp only [Abi.heads, Value.head, List.flatMap_cons, List.flatMap_nil, Abi.tail_address, List.append_nil]
  · exact Call.length_input (.boundNodeCount account)
  · exact Call.decode?_input (.boundNodeCount account) ⟨trivial, trivial⟩

/-- The bytes of a period count and not its characters, which would fit into one word here. -/
theorem inputs_encode_arguments_umlauts :
    let period := "2026-01 – Nachträge für Oktober"
    let token : Address := ⟨Vector.replicate 20 0x22⟩
    let account : Address := ⟨Vector.replicate 20 0x44⟩
    period.length = 31 ∧ period.utf8ByteSize < 2 ^ 256 ∧ (claimReward period token).length = 4 + 32 * 5 ∧
      decode? [.string, .address] ((claimReward period token).drop 4) = some [.string period, .address token] ∧
      decode? [.string, .address, .address] ((claimable period token account).drop 4) =
        some [.string period, .address token, .address account] := by
  intro period token account
  have fits : period.utf8ByteSize < 2 ^ 256 := by decide
  obtain ⟨claims, asks, -, -⟩ := inputs_encode_arguments
  exact ⟨by decide, fits, (claims period token).2.1.trans (by decide), (claims period token).2.2 fits,
    (asks period token account).2.2 fits⟩

end Allotment.Contract
