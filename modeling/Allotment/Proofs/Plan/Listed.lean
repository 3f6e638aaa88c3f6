import Allotment.Proofs.Json.Parts
import Allotment.Proofs.Plan.Sources
import Allotment.Proofs.Snapshot.Rows

/-!
# From the text of the settings to the points of an account

- the entries that a text lists for a table (`Config.listed?`) are met one after the other when it is read, and a
  repeated name takes the later value (`Config.devPoints_of_ofText`, `Config.nodePoints_of_ofText`);
- a table that is made of members has for an account what the first name has that denotes it (`Points.Table.get?_ofJson`);
- so of the entries for an account the first one counts, whatever its spelling is, but with the value of the last entry
  that is spelled just the same (`Config.first_spelling_counts`).
-/

namespace Allotment

open Points

/-! ## Tables made of members -/

namespace Points.Table

/-- A member is left out just if its name denotes no account. -/
theorem readMember_eq_ok {name : String} {member : String × Json} {entry : Option Points.Entry}
    (read : readMember name member = .ok entry) :
    ∃ points, member.2.toUInt64? = some points ∧ entry = (Address.parse? member.1).map (⟨·, points⟩) := by
  unfold readMember at read
  cases number : member.2.toUInt64? with
  | none => rw [number] at read; cases read
  | some points =>
    refine ⟨points, rfl, ?_⟩
    rw [number] at read
    dsimp only [readEntry] at read
    split at read
    case isTrue blank =>
      cases read
      rw [Address.parse?_of_isBlankText blank]
      rfl
    case isFalse =>
      cases denoted : Address.parse? member.1 with
      | none => rw [denoted] at read; cases read
      | some account =>
        rw [denoted] at read
        cases read
        rfl

theorem find?_of_mapM_readMember {name : String} {members : List (String × Json)} {read : List (Option Points.Entry)}
    (all : members.mapM (readMember name) = .ok read) (account : Address) :
    ((read.filterMap id).find? (·.account = account)).map (·.points) =
      (members.find? fun m => Address.parse? m.1 = some account).bind fun m => m.2.toUInt64? := by
  induction members generalizing read with
  | nil =>
    cases all
    rfl
  | cons member members ih =>
    rw [List.mapM_cons] at all
    obtain ⟨entry, first, goesOn⟩ := bind_eq_ok_iff.mp all
    obtain ⟨others, rest, same⟩ := bind_eq_ok_iff.mp goesOn
    obtain rfl := Except.ok.inj same
    obtain ⟨points, number, rfl⟩ := readMember_eq_ok first
    have ih := ih rest
    cases denoted : Address.parse? member.1 with
    | none => simpa [denoted] using ih
    | some account' =>
      by_cases here : account' = account
      case pos => simp [denoted, here, number]
      case neg => simpa [denoted, here] using ih

/-- A table has for an account what the first member has whose name denotes it. -/
theorem get?_ofJson {name : String} {members : List (String × Json)} {table : Table}
    (made : ofJson name members = .ok table) (account : Address) :
    table.get? account =
      (members.find? fun m => Address.parse? m.1 = some account).bind fun m => m.2.toUInt64? := by
  obtain ⟨read, all, same⟩ := bind_eq_ok_iff.mp made
  obtain rfl := Except.ok.inj same
  exact find?_of_mapM_readMember all account

/-- Of entries that are met one after the other, the first one for an account is found, with the value of the last one
that is spelled just the same. -/
theorem get?_ofJson_collected {name : String} {entries : List (String × UInt64)} {table : Table}
    (made : ofJson name (Json.collected .ofUInt64 entries) = .ok table) {account : Address} {first : String × UInt64}
    (found : entries.find? (fun entry => Address.parse? entry.1 = some account) = some first) :
    ∃ last, entries.reverse.find? (fun entry => entry.1 = first.1) = some last ∧
      table.get? account = some last.2 := by
  obtain ⟨last, spelled⟩ := Json.exists_last found
  refine ⟨last, spelled, ?_⟩
  have counts := Json.find?_collected (fun key => decide (Address.parse? key = some account)) .ofUInt64 entries
  rw [found, Option.bind_some, spelled] at counts
  rw [get?_ofJson made, counts]
  exact Json.toUInt64?_natural last.2

/-- What a table has comes before what is put behind it. -/
theorem get?_append {name : String} {own others : List Points.Entry} {account : Address} {points : UInt64}
    (found : get? ⟨name, own⟩ account = some points) : get? ⟨name, own ++ others⟩ account = some points := by
  unfold get? at found ⊢
  obtain ⟨entry, first, rfl⟩ := Option.map_eq_some_iff.mp found
  rw [List.find?_append, first]
  rfl

end Points.Table

/-! ## The settings text -/

namespace Config

open Json

/-- What a settings text lists for a table of points: names and numbers in the order of the text. -/
def listed? (text name : String) : Option (List (String × UInt64)) := do
  let snapshot ← format.place? "snapshot" (Json.read text).document
  let table ← SnapshotSettings.format.place? name snapshot
  table.numbers?

theorem part_snapshot : format.Part "snapshot" SnapshotSettings.format.decoder (·.snapshot) where
  fields field mem := by
    simp only [format, List.mem_cons, List.not_mem_nil, or_false] at mem
    rcases mem with rfl | rfl | rfl
    case inr.inl => exact .inl ⟨rfl, Field.puts_of fun _ _ => rfl⟩
    all_goals exact .inr ⟨by decide, Field.leaves_of fun _ _ => rfl⟩
  named := ⟨_, .tail _ (.head _), rfl⟩

theorem part_devPoints : SnapshotSettings.format.Part "dev_points" Decoder.object (·.devPoints) where
  fields field mem := by
    simp only [SnapshotSettings.format, List.mem_cons, List.not_mem_nil, or_false] at mem
    rcases mem with rfl | rfl | rfl | rfl | rfl | rfl | rfl
    case inr.inl => exact .inl ⟨rfl, Field.puts_of fun _ _ => rfl⟩
    all_goals exact .inr ⟨by decide, Field.leaves_of fun _ _ => rfl⟩
  named := ⟨_, .tail _ (.head _), rfl⟩

theorem part_nodePoints : SnapshotSettings.format.Part "node_points" Decoder.object (·.nodePoints) where
  fields field mem := by
    simp only [SnapshotSettings.format, List.mem_cons, List.not_mem_nil, or_false] at mem
    rcases mem with rfl | rfl | rfl | rfl | rfl | rfl | rfl
    case inr.inr.inl => exact .inl ⟨rfl, Field.puts_of fun _ _ => rfl⟩
    all_goals exact .inr ⟨by decide, Field.leaves_of fun _ _ => rfl⟩
  named := ⟨_, .tail _ (.tail _ (.head _)), rfl⟩

/-- What a text lists for a table is what the configuration has for it, met one after the other. -/
theorem points_of_ofText {text name : String} {c : Config} {get : SnapshotSettings → List (String × Json)}
    (part : SnapshotSettings.format.Part name Decoder.object get) (read : ofText text = .ok c)
    {entries : List (String × UInt64)} (listed : listed? text name = some entries) :
    get c.snapshot = collected .ofUInt64 entries := by
  simp only [listed?, Option.bind_eq_bind, Option.bind_eq_some_iff] at listed
  obtain ⟨snapshot, place, table, place', numbers⟩ := listed
  have whole : format.decoder Depth.outermost (Json.read text).document = .ok c := decoder_of_decodeText read
  have inner := RecordFormat.get_of_decoder part_snapshot (by decide) whole place
  exact Decoder.members_of_numbers numbers (RecordFormat.get_of_decoder part (by decide) inner place')

end Config

/-! ## What counts -/

/-- Of the entries for an account the first one counts in a table and in its column of a snapshot, with the value of
the last entry that is spelled just the same. This is its own value if no two entries are spelled the same. -/
def SnapshotPlan.FirstCounts (plan : SnapshotPlan) (table : Table) (column : Record → UInt64)
    (entries : List (String × UInt64)) : Prop :=
  ∀ account first, entries.find? (fun entry => Address.parse? entry.1 = some account) = some first →
    ∃ last, entries.reverse.find? (fun entry => entry.1 = first.1) = some last ∧
      table.get? account = some last.2 ∧
      (∀ bounds,
        let s := Snapshot.build plan.dev plan.node bounds
        (last.2 ≠ 0 → account ∈ s.wallets) ∧ ∀ r ∈ s.raw, r.account = account → column r = last.2) ∧
      ((entries.map Prod.fst).Nodup → last = first)

/-- Where no spelling is repeated, the last entry with the spelling of the first one is the first one. -/
theorem last_eq_first {entries : List (String × UInt64)} (distinct : (entries.map Prod.fst).Nodup)
    {p : String × UInt64 → Bool} {first last : String × UInt64} (found : entries.find? p = some first)
    (spelled : entries.reverse.find? (fun entry => entry.1 = first.1) = some last) : last = first := by
  have lastMem : last ∈ entries := List.mem_reverse.mp (List.mem_of_find?_eq_some spelled)
  have same : last.1 = first.1 := by simpa using List.find?_some spelled
  exact List.inj_on_of_nodup_map distinct lastMem (List.mem_of_find?_eq_some found) same

/-- The entries that a table starts with count so, if the table is one of the plan and fills the column. -/
theorem SnapshotPlan.firstCounts_of {plan : SnapshotPlan} {table : Table} {column : Record → UInt64} {name : String}
    {own others : List Points.Entry} {entries : List (String × UInt64)}
    (made : Table.ofJson name (Json.collected .ofUInt64 entries) = .ok ⟨name, own⟩)
    (whole : table = ⟨name, own ++ others⟩) (side : table = plan.dev ∨ table = plan.node)
    (fills : ∀ bounds account, column (Record.of plan.dev plan.node bounds account) = table.points account) :
    plan.FirstCounts table column entries := by
  intro account first found
  obtain ⟨last, spelled, counted⟩ := Table.get?_ofJson_collected made found
  have counted : table.get? account = some last.2 := by
    rw [whole]
    exact Table.get?_append counted
  have points : table.points account = last.2 := by
    rw [Table.points, counted]
    rfl
  refine ⟨last, spelled, counted, fun bounds => ⟨fun nonzero => ?_, fun r mem same => ?_⟩,
    fun distinct => last_eq_first distinct found spelled⟩
  · rw [Snapshot.mem_wallets_build, carries_iff]
    rw [← points] at nonzero
    rcases side with rfl | rfl
    · exact .inl nonzero
    · exact .inr nonzero
  · rw [Snapshot.eq_of_mem_build mem, fills, same, points]

namespace Settings

variable {σ : Type} {answer : JsonRpc.Transport (StateM σ)}

/-- Settings that were loaded are what the text of their file says; the world stays as it is. -/
theorem load_eq_ok {path : Path} {text : String} {world world' : World σ} {settings : Settings}
    (held : world.files.read path = .ok text.toUTF8)
    (loaded : load (World.host answer).files path world = (.ok settings, world')) :
    Config.ofText text = .ok settings.config ∧ world' = world := by
  have there := World.present_host answer held
  have said := World.readText_host answer held
  simp only [load, read, readConfig, bind, StateT.bind, there, if_true, said] at loaded
  cases decoded : Config.ofText text with
  | error fault =>
    rw [decoded] at loaded
    cases loaded
  | ok config =>
    rw [decoded] at loaded
    cases loaded
    exact ⟨rfl, rfl⟩

variable {path : Path} {text : String} {world between planning : World σ} {settings : Settings} {plan : SnapshotPlan}

/-- **From the text of the settings on, the first entry for an account counts**, whatever its spelling is, and wherever
the account is named again. What it counts with is the value of the last entry that is spelled just the same. -/
theorem first_spelling_counts (held : world.files.read path = .ok text.toUTF8)
    (loaded : load (World.host answer).files path world = (.ok settings, between))
    (planned : settings.config.snapshotPlan (World.host answer).files between = (.ok plan, planning)) :
    (∀ entries, Config.listed? text "dev_points" = some entries →
      plan.FirstCounts plan.dev (·.devPoints) entries) ∧
    ∀ entries, Config.listed? text "node_points" = some entries →
      plan.FirstCounts plan.node (·.nodePoints) entries := by
  obtain ⟨decoded, rfl⟩ := load_eq_ok held loaded
  obtain ⟨-, -, ⟨dev, devFile, devSources, devTable⟩, node, nodeFile, nodeSources, nodeTable⟩ :=
    Config.snapshotPlan_eq_ok planned
  constructor
  · intro entries listed
    have members := Config.points_of_ofText Config.part_devPoints decoded listed
    exact SnapshotPlan.firstCounts_of (members ▸ devSources.own) devTable (.inl rfl) fun _ _ => rfl
  · intro entries listed
    have members := Config.points_of_ofText Config.part_nodePoints decoded listed
    exact SnapshotPlan.firstCounts_of (members ▸ nodeSources.own) nodeTable (.inr rfl) fun _ _ => rfl

/-- A world with a settings file. -/
def holding (text : String) : World Unit where
  files := ⟨[(["settings.json"], .file text.toUTF8)], []⟩
  environment := []
  output := ""
  network := ()

/-- What loading a settings file and planning a snapshot from it is seen to come to. -/
theorem exists_plan (text : String) (p : SnapshotPlan → Bool)
    (seen : (((attempt .settings (load (World.host World.unreachable).files ⟨"settings.json"⟩) >>= fun settings =>
      settings.config.snapshotPlan (World.host World.unreachable).files) (holding text)).1.toOption.any p) = true) :
    ∃ settings plan,
      load (World.host World.unreachable).files ⟨"settings.json"⟩ (holding text) = (.ok settings, holding text) ∧
      settings.config.snapshotPlan (World.host World.unreachable).files (holding text) = (.ok plan, holding text) ∧
      p plan = true := by
  cases whole : ((attempt .settings (load (World.host World.unreachable).files ⟨"settings.json"⟩) >>= fun settings =>
      settings.config.snapshotPlan (World.host World.unreachable).files) (holding text)) with
  | mk outcome after =>
    rw [whole] at seen
    cases outcome with
    | error cause => cases seen
    | ok plan =>
      obtain ⟨settings, between, attempted, planned⟩ := exceptT_bind_eq_ok whole
      have loaded := attempt_eq_ok attempted
      have held : (holding text).files.read ⟨"settings.json"⟩ = .ok text.toUTF8 := rfl
      obtain ⟨-, rfl⟩ := load_eq_ok held loaded
      obtain ⟨rfl, -⟩ := Config.snapshotPlan_eq_ok planned
      exact ⟨settings, plan, loaded, planned, seen⟩

/-- Settings that list an account in two spellings. -/
def respelled : String :=
  "\x7b\"snapshot\": \x7b\"dev_points\": \x7b\"0x00000000000000000000000000000000000000ab\": 5, " ++
    "\"00000000000000000000000000000000000000AB\": 7\x7d\x7d\x7d"

/-- The first of the two spellings counts. -/
theorem first_spelling_counts_respelled :
    ∃ settings plan,
      load (World.host World.unreachable).files ⟨"settings.json"⟩ (holding respelled) =
        (.ok settings, holding respelled) ∧
      settings.config.snapshotPlan (World.host World.unreachable).files (holding respelled) =
        (.ok plan, holding respelled) ∧
      plan.FirstCounts plan.dev (·.devPoints)
        [("0x00000000000000000000000000000000000000ab", 5), ("00000000000000000000000000000000000000AB", 7)] := by
  have held : (holding respelled).files.read ⟨"settings.json"⟩ = .ok respelled.toUTF8 := rfl
  have listed : Config.listed? respelled "dev_points" = some [("0x00000000000000000000000000000000000000ab", 5),
      ("00000000000000000000000000000000000000AB", 7)] := by decide +kernel
  obtain ⟨settings, plan, loaded, planned, -⟩ := exists_plan respelled (fun _ => true) (by decide +kernel)
  exact ⟨settings, plan, loaded, planned, (first_spelling_counts held loaded planned).1 _ listed⟩

/-- Settings that list an account twice in one spelling. -/
def repeated : String :=
  "\x7b\"snapshot\": \x7b\"dev_points\": \x7b\"0x00000000000000000000000000000000000000ab\": 5, " ++
    "\"0x00000000000000000000000000000000000000ab\": 7\x7d\x7d\x7d"

/-- The second of two entries in one spelling counts. -/
theorem repeated_spelling_counts :
    Config.listed? repeated "dev_points" = some [("0x00000000000000000000000000000000000000ab", 5),
      ("0x00000000000000000000000000000000000000ab", 7)] ∧
    Address.parse? "0x00000000000000000000000000000000000000ab" = some ⟨(Vector.replicate 19 0).push 0xab⟩ ∧
    ∃ settings plan,
      load (World.host World.unreachable).files ⟨"settings.json"⟩ (holding repeated) =
        (.ok settings, holding repeated) ∧
      settings.config.snapshotPlan (World.host World.unreachable).files (holding repeated) =
        (.ok plan, holding repeated) ∧
      plan.dev.get? ⟨(Vector.replicate 19 0).push 0xab⟩ = some 7 := by
  refine ⟨by decide +kernel, by decide +kernel, ?_⟩
  obtain ⟨settings, plan, loaded, planned, counts⟩ := exists_plan repeated
    (fun plan => plan.dev.get? ⟨(Vector.replicate 19 0).push 0xab⟩ = some 7) (by decide +kernel)
  exact ⟨settings, plan, loaded, planned, by simpa using counts⟩

end Settings

end Allotment
