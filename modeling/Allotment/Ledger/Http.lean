import Allotment.Ledger.JsonRpc

/-!
# Calls of remote procedures as web requests

A call is posted to the place that an endpoint names, on a connection that is closed after the response. The body of
the response is all that follows its head, in chunks or not. Endpoints with encryption have no place here.
-/

namespace Allotment.Http

/-- The place that a request goes to. -/
structure Place where
  host : String
  /-- The number of the service at the host. -/
  service : Nat
  /-- The host and the service as the endpoint has them. -/
  authority : String
  path : String

/-- The path of a request: it starts with a slash and has no fragment. -/
def requestPath (path : List Char) : String :=
  let path := path.takeWhile (· != '#')
  String.ofList (if path.head? = some '/' then path else '/' :: path)

/-- A host without the brackets around it. -/
def unbracketed : List Char → List Char
  | '[' :: rest => rest.dropLast
  | host => host

/-- The place that an endpoint without encryption names. -/
def Place.ofEndpoint? (endpoint : String) : Option Place := do
  let parts ← Endpoint.parts? endpoint
  if parts.secure then none
  let host ← Endpoint.hostForm? parts.host
  let service := match parts.service with
    | some (digit :: digits) => Text.digitsValue (digit :: digits)
    | _ => 80
  return {
    host := String.ofList (unbracketed host)
    service
    authority := String.ofList host ++ ":" ++ toString service
    path := requestPath parts.path }

/-- The text of a request. -/
def requestText (place : Place) (body : String) : String :=
  "POST " ++ place.path ++ " HTTP/1.1\r\n" ++
  "Host: " ++ place.authority ++ "\r\n" ++
  "Content-Type: application/json\r\n" ++
  "Content-Length: " ++ toString body.utf8ByteSize ++ "\r\n" ++
  "Connection: close\r\n\r\n" ++ body

/-! ## Responses -/

/-- The bytes before and after the first empty line. -/
def splitHead? : Bytes → Option (Bytes × Bytes)
  | [] => none
  | byte :: rest =>
    match byte, rest with
    | 13, 10 :: 13 :: 10 :: body => some ([], body)
    | _, _ => (splitHead? rest).map fun (head, body) => (byte :: head, body)

/-- The status in the first line of a head. -/
def statusOf? (line : List Char) : Option Nat :=
  match (Text.splitChars ' ' line).2 with
  | code :: _ => Text.readDigits? code
  | [] => none

/-- Whether a line of a head says that the body is in chunks. -/
def saysChunked (line : List Char) : Bool :=
  match line.span (· != ':') with
  | (name, _ :: value) =>
    name.map Char.toLower = "transfer-encoding".toList &&
      (Text.trimChars value).map Char.toLower = "chunked".toList
  | _ => false

/-- The bytes before and after the first line end. -/
def splitLine? : Bytes → Option (Bytes × Bytes)
  | [] => none
  | 13 :: 10 :: rest => some ([], rest)
  | byte :: rest => (splitLine? rest).map fun (line, rest) => (byte :: line, rest)

/-- The size at the start of the line before a chunk. -/
def chunkSize? (line : Bytes) : Option Nat :=
  let digits := (line.map fun byte => Char.ofNat byte.toNat).takeWhile Hex.isDigit
  if digits.isEmpty then none else Endpoint.readRadix? 16 digits

/-- The contents of at most so many chunks. -/
def readChunks? : Nat → Bytes → Option Bytes
  | 0, _ => none
  | limit + 1, bytes => do
    let (line, rest) ← splitLine? bytes
    let size ← chunkSize? line
    if size = 0 then return []
    if rest.length < size + 2 then none
    return rest.take size ++ (← readChunks? limit (rest.drop (size + 2)))

/-- The status and the body of a response. -/
def readResponse? (bytes : Bytes) : Option (Nat × String) := do
  let (head, body) ← splitHead? bytes
  let head ← String.fromUTF8? head.toByteArray
  let lines := Text.lineChars head.toList
  let status ← statusOf? (← lines.head?)
  let body ← if lines.any saysChunked then readChunks? (body.length + 1) body else some body
  return (status, ← String.fromUTF8? body.toByteArray)

/-- The reply that a response is. -/
def replyOf (bytes : Bytes) : JsonRpc.Reply :=
  match readResponse? bytes with
  | none => .failed "no response"
  | some (status, body) =>
    if 200 ≤ status ∧ status < 300 then .body body else .failed ("status " ++ toString status)

end Allotment.Http
