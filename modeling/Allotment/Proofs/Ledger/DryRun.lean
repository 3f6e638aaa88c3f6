import Allotment.Ledger.DryRun

/-!
# What passes through a dry run

Requests of all kinds are put to a dry run one after the other (`ask`). Reads go on to the ledger below, each once and
as they are; submissions never do.

* `Overlay`: the answers of a dry run beside those of the ledger below, one constructor a kind of request;
* `Overlaid`: what a sequence of requests comes to, with all that reaches the ledger below and all that is kept back;
* `dryRun_overlaid`: every sequence of requests comes to that, whatever the ledger below is like.
-/

namespace Allotment

namespace Request

/-- Whether a request leaves the ledger as it was meant to be left: all but submissions do. -/
def isRead : Request → Bool
  | .submit _ => false
  | _ => true

/-- The transaction that a request submits. -/
def submitted? : Request → Option Bytes
  | .submit raw => some raw
  | _ => none

theorem submitted?_of_isRead {request : Request} (read : request.isRead) : request.submitted? = none := by
  cases request with
  | submit raw => cases read
  | _ => rfl

end Request

namespace Ledger

/-- A request with its answer. -/
structure Exchange where
  request : Request
  answer : request.Answer

/-- Puts requests to a ledger one after the other. -/
def ask {m : Type → Type} [Monad m] (ledger : Ledger m) : List Request → m (List Exchange)
  | [] => return []
  | request :: requests => do
    let answer ← ledger request
    let later ← ask ledger requests
    return ⟨request, answer⟩ :: later

/-- The answers of a dry run that has kept back `count` submissions, beside the answers that it gets from below. -/
inductive Overlay : Nat → List Exchange → List Exchange → Prop where
  | nil (count : Nat) : Overlay count [] []
  | call {count : Nat} {above below : List Exchange} (contract : Address) (data : Bytes)
      (answer : Except LedgerError Bytes) : Overlay count above below →
      Overlay count (⟨.call contract data, answer⟩ :: above) (⟨.call contract data, answer⟩ :: below)
  | chainId {count : Nat} {above below : List Exchange} (answer : Except LedgerError UInt64) :
      Overlay count above below → Overlay count (⟨.chainId, answer⟩ :: above) (⟨.chainId, answer⟩ :: below)
  | numbered {count : Nat} {above below : List Exchange} {first number : UInt64} (account : Address) :
      (first.toNat + count < UInt64.size → number.toNat = first.toNat + count) → Overlay count above below →
      Overlay count (⟨.sequenceNumber account, .ok number⟩ :: above) (⟨.sequenceNumber account, .ok first⟩ :: below)
  | unnumbered {count : Nat} {above below : List Exchange} (account : Address) (cause : LedgerError) :
      Overlay count above below →
      Overlay count (⟨.sequenceNumber account, .error cause⟩ :: above)
        (⟨.sequenceNumber account, .error cause⟩ :: below)
  | submit {count : Nat} {above below : List Exchange} (raw : Bytes) : Overlay (count + 1) above below →
      Overlay count (⟨.submit raw, .ok (Keccak.hash raw)⟩ :: above) below

/-- A sum that has room in 64 bits is the sum of the numbers. -/
theorem toNat_add_ofNat {first : UInt64} {count : Nat} (fits : first.toNat + count < UInt64.size) :
    (first + UInt64.ofNat count).toNat = first.toNat + count := by
  have same : first + UInt64.ofNat count = UInt64.ofNat (first.toNat + count) := by
    rw [UInt64.ofNat_add, UInt64.ofNat_toNat]
  rw [same]
  exact UInt64.toNat_ofNat_of_lt fits

/-- What a dry run that has kept back `count` submissions makes of an answer from below. -/
def fromBelow (count : Nat) : (request : Request) → request.Answer → request.Answer
  | .sequenceNumber _, answer => answer.map (· + UInt64.ofNat count)
  | .call .., answer => answer
  | .chainId, answer => answer
  | .submit _, answer => answer

theorem Overlay.read {count : Nat} {above below : List Exchange} {request : Request} (read : request.isRead)
    (answer : request.Answer) (overlay : Overlay count above below) :
    Overlay count (⟨request, fromBelow count request answer⟩ :: above) (⟨request, answer⟩ :: below) := by
  cases request with
  | call contract data => exact .call contract data answer overlay
  | chainId => exact .chainId answer overlay
  | submit raw => cases read
  | sequenceNumber account =>
    cases answer with
    | error cause => exact .unnumbered account cause overlay
    | ok first => exact .numbered account toNat_add_ofNat overlay

section Runs

variable {σ : Type}

/-- A read goes on to the ledger below and keeps nothing back. -/
theorem dryRun_read (inner : Ledger (StateM σ)) {request : Request} (read : request.isRead) (kept : Submissions)
    (w : σ) :
    ((inner.dryRun request).run kept).run w =
      ((fromBelow kept.length request ((inner request).run w).1, kept), ((inner request).run w).2) := by
  cases request with
  | submit raw => cases read
  | _ => rfl

/-- With a log below, a read is also the next thing in the log. -/
theorem dryRun_logged_read (inner : Ledger (StateM σ)) {request : Request} (read : request.isRead)
    (kept : Submissions) (log : List Request) (w : σ) :
    (((dryRun inner.logged request).run kept).run log).run w =
      (((fromBelow kept.length request ((inner request).run w).1, kept), log ++ [request]),
        ((inner request).run w).2) := by
  cases request with
  | submit raw => cases read
  | _ => rfl

/-- What a sequence of requests comes to in a dry run: `below` is what the ledger below answers when it gets the reads
alone, and `above` what the dry run answers. -/
structure Overlaid (inner : Ledger (StateM σ)) (requests : List Request) (kept : Submissions) (w : σ)
    (above below : List Exchange) (w' : σ) : Prop where
  reads : (ask inner (requests.filter Request.isRead)).run w = (below, w')
  runs : ((ask inner.dryRun requests).run kept).run w =
    ((above, kept ++ requests.filterMap Request.submitted?), w')
  /-- A log of all that reaches the ledger below has the reads, in order. -/
  logs : ∀ log, (((ask (dryRun inner.logged) requests).run kept).run log).run w =
    (((above, kept ++ requests.filterMap Request.submitted?), log ++ requests.filter Request.isRead), w')
  requests : above.map (·.request) = requests
  answers : Overlay kept.length above below

namespace Overlaid

variable {inner : Ledger (StateM σ)} {requests : List Request} {kept : Submissions} {w w' : σ}
  {above below : List Exchange}

/-- Nothing asked is nothing answered. -/
theorem nil : Overlaid inner [] kept w [] [] w where
  reads := rfl
  runs := by
    rw [List.filterMap_nil, List.append_nil]
    rfl
  logs log := by
    rw [List.filterMap_nil, List.filter_nil, List.append_nil, List.append_nil]
    rfl
  requests := rfl
  answers := .nil _

/-- One more submission, before all others, is kept back and does nothing else. -/
theorem submit (raw : Bytes) (later : Overlaid inner requests (kept ++ [raw]) w above below w') :
    Overlaid inner (.submit raw :: requests) kept w (⟨.submit raw, .ok (Keccak.hash raw)⟩ :: above) below w' where
  reads := later.reads
  runs := by
    have first : ((ask inner.dryRun (.submit raw :: requests)).run kept).run w =
        let rest := ((ask inner.dryRun requests).run (kept ++ [raw])).run w
        ((⟨.submit raw, .ok (Keccak.hash raw)⟩ :: rest.1.1, rest.1.2), rest.2) := rfl
    rw [first, later.runs, List.append_assoc]
    rfl
  logs log := by
    have first : (((ask (dryRun inner.logged) (.submit raw :: requests)).run kept).run log).run w =
        let rest := (((ask (dryRun inner.logged) requests).run (kept ++ [raw])).run log).run w
        (((⟨.submit raw, .ok (Keccak.hash raw)⟩ :: rest.1.1.1, rest.1.1.2), rest.1.2), rest.2) := rfl
    rw [first, later.logs, List.append_assoc]
    rfl
  requests := congrArg (_ :: ·) later.requests
  answers := by
    have answers := later.answers
    rw [List.length_append] at answers
    exact .submit raw answers

/-- One more read, before all others, goes on to the ledger below. -/
theorem read {request : Request} (read : request.isRead)
    (later : Overlaid inner requests kept ((inner request).run w).2 above below w') :
    Overlaid inner (request :: requests) kept w
      (⟨request, fromBelow kept.length request ((inner request).run w).1⟩ :: above)
      (⟨request, ((inner request).run w).1⟩ :: below) w' where
  reads := by
    have first : (ask inner (request :: requests.filter Request.isRead)).run w =
        let rest := (ask inner (requests.filter Request.isRead)).run ((inner request).run w).2
        (⟨request, ((inner request).run w).1⟩ :: rest.1, rest.2) := rfl
    rw [List.filter_cons_of_pos read, first, later.reads]
  runs := by
    have first : ((ask inner.dryRun (request :: requests)).run kept).run w =
        let asked := ((inner.dryRun request).run kept).run w
        let rest := ((ask inner.dryRun requests).run asked.1.2).run asked.2
        ((⟨request, asked.1.1⟩ :: rest.1.1, rest.1.2), rest.2) := rfl
    rw [first, dryRun_read inner read]
    dsimp only
    rw [later.runs, List.filterMap_cons_none (Request.submitted?_of_isRead read)]
  logs log := by
    have first : (((ask (dryRun inner.logged) (request :: requests)).run kept).run log).run w =
        let asked := (((dryRun inner.logged request).run kept).run log).run w
        let rest := (((ask (dryRun inner.logged) requests).run asked.1.1.2).run asked.1.2).run asked.2
        (((⟨request, asked.1.1.1⟩ :: rest.1.1.1, rest.1.1.2), rest.1.2), rest.2) := rfl
    rw [first, dryRun_logged_read inner read]
    dsimp only
    rw [later.logs, List.filterMap_cons_none (Request.submitted?_of_isRead read), List.filter_cons_of_pos read,
      List.append_assoc]
    rfl
  requests := congrArg (_ :: ·) later.requests
  answers := .read read _ later.answers

end Overlaid

/-- **Every sequence of requests is dealt with request by request**, whatever the ledger below is like and whatever was
kept back before. -/
theorem dryRun_overlaid (inner : Ledger (StateM σ)) (requests : List Request) (kept : Submissions) (w : σ) :
    ∃ above below w', Overlaid inner requests kept w above below w' := by
  induction requests generalizing kept w with
  | nil => exact ⟨[], [], w, .nil⟩
  | cons request requests ih =>
    cases read : request.isRead with
    | true =>
      obtain ⟨above, below, w', later⟩ := ih kept ((inner request).run w).2
      exact ⟨_, _, w', later.read read⟩
    | false =>
      cases request with
      | submit raw =>
        obtain ⟨above, below, w', later⟩ := ih (kept ++ [raw]) w
        exact ⟨_, below, w', later.submit raw⟩
      | _ => cases read

end Runs

end Ledger

end Allotment
