import Allotment.Proofs.Claim.Deletion

/-!
# What is asked for each line

`calls` picks the questions out of the events of a session. A line that is an address has exactly one, which is about
that address and comes before anything else that is done for the line (`Segment.begins`); a line that is none has none.
`Transcript.segment_at` finds the segment of a line by its place in the list, together with what was announced and
asked before it.
-/

namespace Allotment.Claim

/-- The questions that were asked, in order. -/
def calls (events : List Event) : List Request :=
  events.filterMap fun
    | .asked (.call contract data) _ => some (.call contract data)
    | _ => none

theorem calls_append (xs ys : List Event) : calls (xs ++ ys) = calls xs ++ calls ys :=
  List.filterMap_append

/-- The questions that lines call for: one about each that is an address. -/
def Submitter.callsFor (s : Submitter) (reward : Reward) (lines : List String) : List Request :=
  (lines.filterMap Address.parse?).map (s.question reward)

/-- The questions that lines call for are those of one line after the other. -/
theorem Submitter.callsFor_cons (s : Submitter) (reward : Reward) (line : String) (lines : List String) :
    s.callsFor reward (line :: lines) = s.callsFor reward [line] ++ s.callsFor reward lines := by
  rw [callsFor, callsFor, callsFor, ← List.map_append, ← List.filterMap_append]
  rfl

variable {s : Submitter} {reward : Reward} {line : String} {lines : List String} {events : List Event}
  {outcome : Outcome} {outcomes : List Outcome}

/-- Handing in a claim asks no question. -/
theorem Submission.calls_eq {sign : Transaction → Except LedgerError SignedTransaction}
    {answer : Except LedgerError Digest} (submission : Submission s sign reward events answer) : calls events = [] := by
  cases submission with
  | unnumbered | unsigned | handedIn => rfl

/-- A line asks the question it calls for, and no other. -/
theorem Segment.calls_eq (segment : Segment s reward line events outcome) : calls events = s.callsFor reward [line] := by
  cases segment with
  | malformed parsed => simp [Submitter.callsFor, parsed, calls]
  | unanswered cause parsed => simp [Submitter.callsFor, parsed, calls]
  | short parsed | nothing parsed => simp [Submitter.callsFor, parsed, calls]
  | entitled parsed _ _ submission =>
    have others := submission.calls_eq
    simp only [calls] at others
    simp [Submitter.callsFor, parsed, calls, others]

/-- What is done for a line that is an address begins with the question about it, and its outcome is not that of a line
that is none. -/
theorem Segment.begins {account : Address} (segment : Segment s reward line events outcome)
    (parsed : Address.parse? line = some account) :
    (∃ answer rest, events = .asked (s.question reward account) answer :: rest ∧ calls rest = []) ∧
      outcome ≠ .invalidAddress := by
  have same {other : Address} (parsed' : Address.parse? line = some other) : other = account :=
    Option.some.inj (parsed'.symm.trans parsed)
  cases segment with
  | malformed none =>
    rw [none] at parsed
    cases parsed
  | unanswered cause parsed' =>
    obtain rfl := same parsed'
    exact ⟨⟨_, _, rfl, rfl⟩, nofun⟩
  | short parsed' =>
    obtain rfl := same parsed'
    exact ⟨⟨_, _, rfl, rfl⟩, nofun⟩
  | nothing parsed' =>
    obtain rfl := same parsed'
    exact ⟨⟨_, _, rfl, rfl⟩, nofun⟩
  | @entitled _ _ _ answer parsed' _ _ submission =>
    obtain rfl := same parsed'
    refine ⟨⟨_, _, rfl, submission.calls_eq⟩, fun invalid => ?_⟩
    have busy := idle_ofAnswer answer
    rw [invalid] at busy
    cases busy

/-- **The segment of a line is found by its place.** -/
theorem Transcript.segment_at (transcript : Transcript s reward lines events outcomes) {i : Nat}
    (found : lines[i]? = some line) :
    ∃ before own outcome later, events = before ++ own ++ .told line outcome :: later ∧
      Segment s reward line own outcome ∧ outcomes[i]? = some outcome ∧
      announcements before = (lines.zip outcomes).take i ∧ calls before = s.callsFor reward (lines.take i) := by
  induction transcript generalizing i with
  | none => cases found
  | @last first own outcome segment =>
    cases i with
    | zero =>
      obtain rfl := Option.some.inj found
      exact ⟨[], own, outcome, [], rfl, segment, rfl, rfl, rfl⟩
    | succ i => cases found
  | @next first second lines own rest outcome outcomes segment _ ih =>
    cases i with
    | zero =>
      obtain rfl := Option.some.inj found
      exact ⟨[], own, outcome, .paused :: rest, rfl, segment, rfl, rfl, rfl⟩
    | succ i =>
      obtain ⟨before, own', outcome', later, rfl, segment', there, announced, asked⟩ := ih found
      refine ⟨own ++ .told first outcome :: .paused :: before, own', outcome', later, by simp, segment', there, ?_, ?_⟩
      · rw [announcements_append, segment.announcements_eq, List.zip_cons_cons, List.take_succ_cons, ← announced]
        rfl
      · rw [calls_append, segment.calls_eq, List.take_succ_cons, s.callsFor_cons reward first (List.take i _), ← asked]
        rfl

theorem Minutes.segment_at {signer : Signer} {contract : Address} {fees : Fees} {chainId : Option UInt64}
    (minutes : Minutes signer contract fees reward lines chainId events (.ok outcomes)) {i : Nat}
    (found : lines[i]? = some line) :
    ∃ id before own outcome later, events = before ++ own ++ .told line outcome :: later ∧
      Segment ⟨signer, contract, fees, id⟩ reward line own outcome ∧ outcomes[i]? = some outcome ∧
      announcements before = (lines.zip outcomes).take i ∧
      calls before = Submitter.callsFor ⟨signer, contract, fees, id⟩ reward (lines.take i) := by
  cases minutes with
  | @given id _ _ transcript => exact ⟨id, transcript.segment_at found⟩
  | @found id events _ transcript =>
    obtain ⟨before, own, outcome, later, rfl, segment, there, announced, asked⟩ := transcript.segment_at found
    exact ⟨id, .asked .chainId (.ok id) :: before, own, outcome, later, rfl, segment, there, announced, asked⟩

end Allotment.Claim
