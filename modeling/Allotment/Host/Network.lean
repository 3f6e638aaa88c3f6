import Allotment.Ledger.Http
import Std.Async.DNS
import Std.Async.TCP
import Std.Async.Timer

/-!
# The network

Carries calls to endpoints over connections without encryption; other endpoints are not reached.
-/

namespace Allotment.Network

open Std Async

/-- What arrives on a connection until it is closed. -/
partial def receiveAll (connection : TCP.Socket.Client) (received : ByteArray) : Async ByteArray := do
  match ← connection.recv? 65536 with
  | some bytes => receiveAll connection (received ++ bytes)
  | none => return received

/-- The address of a socket. -/
def socketAddress (address : Net.IPAddr) (service : Nat) : Net.SocketAddress :=
  match address with
  | .v4 address => .v4 ⟨address, UInt16.ofNat service⟩
  | .v6 address => .v6 ⟨address, UInt16.ofNat service⟩

/-- A connection to one of several addresses, the first that takes it. -/
def connect (service : Nat) : List Net.IPAddr → Async TCP.Socket.Client
  | [] => throw (IO.userError "no address")
  | address :: addresses => do
    let connection ← TCP.Socket.Client.mk
    try
      connection.connect (socketAddress address service)
      return connection
    catch _ => connect service addresses

/-- Posts a text to a place and brings back what is answered. -/
def exchange (place : Http.Place) (body : String) : Async Bytes := do
  let addresses ← DNS.getAddrInfo place.host (toString place.service)
  let connection ← connect place.service addresses.toList
  connection.send (Http.requestText place body).toUTF8
  return (← receiveAll connection ByteArray.empty).data.toList

/-- Does something for a number of seconds at most. -/
def within (seconds : Nat) (act : Async α) : Async (Option α) :=
  Async.race (some <$> act) do
    sleep (.ofNat (1000 * seconds))
    return none

/-- Carries calls to endpoints. -/
def transport : JsonRpc.Transport IO where
  carry endpoint seconds call := do
    match Http.Place.ofEndpoint? endpoint with
    | none => return .failed "no connection of this kind"
    | some place =>
      try
        match ← (within seconds (exchange place call.text)).block with
        | some bytes => return Http.replyOf bytes
        | none => return .failed "out of time"
      catch e => return .failed e.toString
  wording.refused _ := "not an address"
  wording.unread _ _ := "not a reply"

end Allotment.Network
