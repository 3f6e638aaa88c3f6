import Allotment.Json.Decode
import Allotment.Ledger.Basic
import Allotment.Ledger.Endpoint

/-!
# A ledger behind a remote endpoint

Requests become calls of remote procedures with JSON parameters. What carries a call to the endpoint and brings back
the reply is the `Transport`, which also words what goes wrong on the way. A reply is either an error object, which is
shown in full, or a result of the kind the request asks for.
-/

namespace Allotment.JsonRpc

/-- A call of a remote procedure. -/
structure Call where
  method : Method
  params : List Json

/-- What comes back from an endpoint. -/
inductive Reply where
  /-- No text came back, for the reason given. -/
  | failed (reason : String)
  /-- The endpoint answered with a text. -/
  | body (text : String)

/-- How texts are refused that are of no use. -/
structure Wording where
  /-- Why a text is not an endpoint. -/
  refused : (endpoint : String) → String
  /-- Why a text is not a reply to a call. -/
  unread : Call → (text : String) → String

/-- Carries calls to an endpoint, each within a number of seconds, and words what goes wrong. -/
structure Transport (m : Type → Type) where
  carry : (endpoint : String) → (seconds : Nat) → Call → m Reply
  wording : Wording

namespace Transport

variable {m : Type → Type}

instance : CoeFun (Transport m) fun _ => (endpoint : String) → (seconds : Nat) → Call → m Reply := ⟨carry⟩

/-- The transport in a larger monad. -/
def lift {n : Type → Type} (transport : Transport m) (up : {α : Type} → m α → n α) : Transport n where
  carry endpoint seconds call := up (transport endpoint seconds call)
  wording := transport.wording

end Transport

/-- An address as remote procedures write it. -/
def addressParam (a : Address) : Json := .string a.lowerText

/-- Bytes as remote procedures write them. -/
def bytesParam (bytes : Bytes) : Json := .string (Hex.text bytes)

/-- The call for a request. -/
def callOf : Request → Call
  | .call contract data =>
    ⟨.call, [.object [("to", addressParam contract), ("data", bytesParam data)], .string "latest"]⟩
  | .chainId => ⟨.chainId, []⟩
  | .sequenceNumber account => ⟨.sequenceNumber, [addressParam account, .string "pending"]⟩
  | .submit raw => ⟨.submit, [bytesParam raw]⟩

/-- The text of a call, as it is sent. -/
def Call.text (call : Call) : String :=
  (Json.object [("jsonrpc", .string "2.0"), ("id", .ofNat 0), ("method", .string call.method.name),
    ("params", .array call.params)]).compact

/-! ## Replies -/

/-- An error that the endpoint reports. -/
structure ErrorObject where
  code : Int
  message : String
  data : Option Json

/-- The wording of an error code. -/
def codeText (code : Int) : String :=
  if code = -32700 then "ParseError"
  else if code = -32600 then "InvalidRequest"
  else if code = -32601 then "MethodNotFound"
  else if code = -32602 then "InvalidParams"
  else if code = -32603 then "InternalError"
  else "ServerError(" ++ toString code ++ ")"

/-- An error object in full. -/
def ErrorObject.text (e : ErrorObject) : String :=
  let data := match e.data with
    | none => "None"
    | some data => "Some(RawValue(" ++ data.compact ++ "))"
  "ErrorObject \x7b code: " ++ codeText e.code ++ ", message: " ++ Text.quoted e.message ++ ", data: " ++ data ++ " \x7d"

/-- The error object that a value is. -/
def readError? (value : Json) : Option ErrorObject :=
  match value with
  | .object members =>
    match members.lookup "code", members.lookup "message" with
    | some (.number (.integer code)), some (.string message) =>
      match members.lookup "data" with
      | none => some ⟨code, message, none⟩
      | some .null => some ⟨code, message, none⟩
      | some data => some ⟨code, message, some data⟩
    | _, _ => none
  | _ => none

/-- What the body of a reply holds: a result or an error object, and nothing else. -/
def readBody? (text : String) : Option (Except ErrorObject Json) :=
  match Json.decodeText Json.Decoder.object text with
  | .error _ => none
  | .ok members =>
    match members.lookup "result", members.lookup "error" with
    | some result, none => some (.ok result)
    | none, some e => (readError? e).map .error
    | _, _ => none

/-- An unsigned 64-bit number: hexadecimal after a mark, decimal, empty for zero, or a JSON integer. -/
def readQuantity? : Json → Option UInt64
  | .string text =>
    let digits := text.toList
    let value :=
      if digits.isEmpty then some 0
      else if Hex.dropMark digits ≠ digits then Endpoint.readRadix? 16 (Hex.dropMark digits)
      else Text.readDigits? digits
    value.bind fun n => if h : n < UInt64.size then some (UInt64.ofNatLT n h) else none
  | value => value.toUInt64?

/-- Bytes in hexadecimal, with or without the mark. -/
def readBytes? : Json → Option Bytes
  | .string text =>
    match text.toList with
    | '0' :: 'x' :: rest => Hex.decode? rest
    | cs => Hex.decode? cs
  | _ => none

/-- The result of a request that a value is. -/
def readResult? : (request : Request) → Json → Option request.Result
  | .call .., value => readBytes? value
  | .chainId, value => readQuantity? value
  | .sequenceNumber _, value => readQuantity? value
  | .submit _, value => (readBytes? value).bind (Bytes.exactly? 32)

/-- The answer to a request that a reply is. -/
def answerOf (wording : Wording) (request : Request) (reply : Reply) : request.Answer :=
  let failure (reason : String) : request.Answer := .error (.rpc (callOf request).method reason)
  match reply with
  | .failed reason => failure reason
  | .body text =>
    match readBody? text with
    | some (.ok result) =>
      match readResult? request result with
      | some result => .ok result
      | none => failure (wording.unread (callOf request) text)
    | some (.error e) => failure e.text
    | none => failure (wording.unread (callOf request) text)

/-- The error of an endpoint that is none. -/
def refusal (wording : Wording) (endpoint : String) : LedgerError :=
  .invalidEndpoint (endpoint ++ ": " ++ wording.refused endpoint)

/-- The ledger at an endpoint; nothing is sent before the first request. -/
def connect {m : Type → Type} [Monad m] (transport : Transport m) (endpoint : String) (seconds : Nat) :
    Except LedgerError (Ledger m) :=
  if Endpoint.isValid endpoint then
    .ok fun request => do return answerOf transport.wording request (← transport endpoint seconds (callOf request))
  else .error (refusal transport.wording endpoint)

end Allotment.JsonRpc
