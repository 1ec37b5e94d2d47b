import DeviceWatch.Connector.Seed
import DeviceWatch.Proofs.Connector.Consistency

/-!
# What a seed file leaves behind

Whether an entry is valid depends on the entry alone, and not on what is registered by then.  So the
entries that are skipped can be left out, and a seed amounts to registering the valid ones in order.
What becomes of one connector follows from the first and the last valid entry under its id: the last
one defines it, and it keeps the place and the creation time that it had, or got from the first.
-/

namespace DeviceWatch

namespace SeedEntry

variable {e : SeedEntry} {dispatch : DispatchConfig} {now : Instant} {c : Connector}

def intervalSecs (e : SeedEntry) (dispatch : DispatchConfig) : Nat :=
  e.input.pollIntervalSecs.getD dispatch.defaultPollIntervalSecs

/-- The entry passes every check of a definition. -/
structure Valid (e : SeedEntry) (dispatch : DispatchConfig) : Prop where
  validId : Connector.validateId e.id = .ok ()
  validSettings : e.input.settings.validate = .ok ()
  aboveFloor : dispatch.minPollIntervalSecs ≤ e.intervalSecs dispatch
  belowMaximum : e.intervalSecs dispatch ≤ maxPollIntervalSecs

/-- The connector that is defined by `e` now, and was created at another time, with the poll history
of an old one if there was one. -/
def connector (e : SeedEntry) (dispatch : DispatchConfig) (old? : Option Connector)
    (created now : Instant) : Connector where
  id := e.id
  name := e.input.name.getD e.id
  settings := e.input.settings
  enabled := e.input.enabled
  pollIntervalSecs := e.intervalSecs dispatch
  lastPollAt := old?.bind (·.lastPollAt)
  status := old?.elim .disconnected (·.status)
  errorMessage := old?.bind (·.errorMessage)
  consecutiveFailures := old?.elim 0 (·.consecutiveFailures)
  createdAt := old?.elim created (·.createdAt)
  updatedAt := now

theorem replacing_connector (e : SeedEntry) (dispatch : DispatchConfig) (old? : Option Connector)
    (now : Instant) :
    Registry.replacing old? (e.connector dispatch none now now) =
      e.connector dispatch old? now now := by
  cases old? <;> rfl

/-- Of the definitions before the last one, only the creation time stays. -/
theorem connector_connector (first last : SeedEntry) (dispatch : DispatchConfig)
    (old? : Option Connector) (created defined later now : Instant) :
    last.connector dispatch (some (first.connector dispatch old? created defined)) later now =
      last.connector dispatch old? created now := by
  cases old? <;> rfl

theorem toConnector_of_valid (valid : e.Valid dispatch) (now : Instant) :
    e.input.toConnector e.id dispatch now = .ok (e.connector dispatch none now now) := by
  have interval : Connector.validateInterval (e.intervalSecs dispatch)
      dispatch.minPollIntervalSecs = .ok () := by
    rw [Connector.validateInterval, if_neg (Nat.not_lt.mpr valid.aboveFloor),
      if_neg (Nat.not_lt.mpr valid.belowMaximum)]
  unfold intervalSecs at interval
  simp only [ConnectorInput.toConnector, valid.validId, valid.validSettings, interval, bind,
    Except.bind]
  rfl

theorem valid_of_toConnector (done : e.input.toConnector e.id dispatch now = .ok c) :
    e.Valid dispatch := by
  obtain ⟨validId, validSettings, interval, rfl⟩ := Registry.toConnector_eq done
  obtain ⟨aboveFloor, belowMaximum⟩ := Connector.validateInterval_eq_ok interval
  exact ⟨validId, validSettings, aboveFloor, belowMaximum⟩

instance (e : SeedEntry) (dispatch : DispatchConfig) : Decidable (e.Valid dispatch) :=
  decidable_of_iff ((e.input.toConnector e.id dispatch default).isOk = true) <| by
    constructor
    · intro accepted
      cases done : e.input.toConnector e.id dispatch default with
      | error refusal => rw [done] at accepted; cases accepted
      | ok c => exact valid_of_toConnector done
    · intro valid
      rw [toConnector_of_valid valid]
      rfl

end SeedEntry

namespace Seed

def readEntries (written : List (Instant × Yaml)) : List (Instant × Option SeedEntry) :=
  written.map fun w => (w.1, entry? w.2)

/-- The entry, if it could be read and is valid. -/
def valid? (dispatch : DispatchConfig) (entry : Option SeedEntry) : Option SeedEntry :=
  entry.filter fun e => e.Valid dispatch

def valid (dispatch : DispatchConfig) (entries : List (Instant × Option SeedEntry)) :
    List (Instant × SeedEntry) :=
  entries.filterMap fun entry => (valid? dispatch entry.2).map fun e => (entry.1, e)

/-- What becomes of a connector under the definitions of its id, in order: the last one holds, from
the time of the first one on if there was none before. -/
def connectorAfter? (dispatch : DispatchConfig) (old? : Option Connector) :
    List (Instant × SeedEntry) → Option Connector
  | [] => old?
  | first :: rest =>
    let last := rest.getLastD first
    some (last.2.connector dispatch old? first.1 last.1)

section Valid

variable {dispatch : DispatchConfig} {entry : Instant × Option SeedEntry}

theorem valid_cons_of_none (refused : valid? dispatch entry.2 = none)
    (rest : List (Instant × Option SeedEntry)) :
    valid dispatch (entry :: rest) = valid dispatch rest :=
  List.filterMap_cons_none (by rw [refused, Option.map_none])

theorem valid_cons_of_some {e : SeedEntry} (found : valid? dispatch entry.2 = some e)
    (rest : List (Instant × Option SeedEntry)) :
    valid dispatch (entry :: rest) = (entry.1, e) :: valid dispatch rest :=
  List.filterMap_cons_some (by rw [found, Option.map_some])

theorem valid_of_mem {entries : List (Instant × Option SeedEntry)}
    {e : Instant × SeedEntry} (there : e ∈ valid dispatch entries) : e.2.Valid dispatch := by
  obtain ⟨entry, -, read⟩ := List.mem_filterMap.mp there
  obtain ⟨e, found, rfl⟩ := Option.map_eq_some_iff.mp read
  exact of_decide_eq_true (Option.filter_eq_some_iff.mp found).2

theorem length_valid_add (dispatch : DispatchConfig)
    (entries : List (Instant × Option SeedEntry)) :
    (valid dispatch entries).length + entries.countP (fun e => (valid? dispatch e.2).isNone) =
      entries.length := by
  rw [valid, List.length_filterMap_eq_countP,
    entries.length_eq_countP_add_countP fun e => (valid? dispatch e.2).isSome]
  simp only [Option.isSome_map, Nat.add_left_cancel_iff]
  refine List.countP_congr fun e _ => ?_
  simp

end Valid

theorem connectorAfter?_cons (dispatch : DispatchConfig) (old? : Option Connector)
    (e : Instant × SeedEntry) (rest : List (Instant × SeedEntry)) :
    connectorAfter? dispatch (some (e.2.connector dispatch old? e.1 e.1)) rest =
      connectorAfter? dispatch old? (e :: rest) := by
  cases rest with
  | nil => rfl
  | cons first rest =>
    simp only [connectorAfter?, SeedEntry.connector_connector, List.getLastD_cons]

end Seed

section EraseDups

variable {α : Type} [DecidableEq α] {l : List α} {a : α}

theorem eraseDups_of_nodup (distinct : l.Nodup) : l.eraseDups = l := by
  induction l with
  | nil => rfl
  | cons a rest ih =>
    obtain ⟨new, distinct⟩ := List.nodup_cons.mp distinct
    have others : rest.filter (fun b => !b == a) = rest := by
      refine List.filter_eq_self.mpr fun b there => ?_
      have differ : b ≠ a := fun same => new (same ▸ there)
      simpa using differ
    rw [List.eraseDups_cons, others, ih distinct]

theorem eraseDups_append_cons_of_mem (known : a ∈ l) (rest : List α) :
    (l ++ a :: rest).eraseDups = (l ++ rest).eraseDups := by
  rw [List.eraseDups_append, List.eraseDups_append, List.cons_removeAll]
  simp [known]

end EraseDups

namespace Registry

variable {r : Registry} {e : SeedEntry} {now : Instant}

/-- Registers definitions one by one, and fails if one of them is refused. -/
def upsertAll (r : Registry) (entries : List (Instant × SeedEntry)) : Outcome Registry :=
  entries.foldlM (fun r e => (r.upsert e.2.id e.2.input e.1).map Prod.snd) r

def define (r : Registry) (e : Instant × SeedEntry) : Registry :=
  let c := e.2.connector r.dispatch (r.connectors.find? e.2.id) e.1 e.1
  { r with connectors := r.connectors.insert e.2.id c }

theorem upsert_of_valid (valid : e.Valid r.dispatch) (now : Instant) :
    ∃ c, r.upsert e.id e.input now = .ok (c, r.define (now, e)) := by
  rw [upsert_eq_map, SeedEntry.toConnector_of_valid valid]
  refine ⟨_, congrArg Except.ok (Prod.ext rfl ?_)⟩
  simp only [define, SeedEntry.replacing_connector]

theorem upsert_of_not_valid (invalid : ¬ e.Valid r.dispatch) (now : Instant) :
    ∃ refusal, r.upsert e.id e.input now = .error refusal := by
  rw [upsert_eq_map]
  cases done : e.input.toConnector e.id r.dispatch now with
  | error refusal => exact ⟨refusal, rfl⟩
  | ok c => exact absurd (SeedEntry.valid_of_toConnector done) invalid

theorem upsertAll_of_valid {entries : List (Instant × SeedEntry)}
    (valid : ∀ e ∈ entries, e.2.Valid r.dispatch) :
    r.upsertAll entries = .ok (entries.foldl define r) := by
  induction entries generalizing r with
  | nil => rfl
  | cons e rest ih =>
    have later := ih (r := r.define e) fun other there => valid other (List.mem_cons_of_mem e there)
    obtain ⟨c, done⟩ := upsert_of_valid (valid e List.mem_cons_self) e.1
    rw [upsertAll, List.foldlM_cons, done]
    exact later

theorem applySeedEntry_of_valid {entry : Option SeedEntry}
    (found : Seed.valid? r.dispatch entry = some e) (now : Instant) (loaded skipped : Nat) :
    applySeedEntry now (⟨loaded, skipped⟩, r) entry =
      (⟨loaded + 1, skipped⟩, r.define (now, e)) := by
  obtain ⟨read, valid⟩ := Option.filter_eq_some_iff.mp found
  obtain ⟨c, done⟩ := upsert_of_valid (of_decide_eq_true valid) now
  simp only [applySeedEntry, read, done]

/-- An entry that could not be read and one that is refused are skipped alike. -/
theorem applySeedEntry_of_none {entry : Option SeedEntry}
    (refused : Seed.valid? r.dispatch entry = none) (now : Instant) (loaded skipped : Nat) :
    applySeedEntry now (⟨loaded, skipped⟩, r) entry = (⟨loaded, skipped + 1⟩, r) := by
  cases entry with
  | none => rfl
  | some e =>
    have invalid : ¬ e.Valid r.dispatch := by
      simpa [Seed.valid?, Option.filter] using refused
    obtain ⟨refusal, answer⟩ := upsert_of_not_valid invalid now
    simp only [applySeedEntry, answer]

theorem foldl_applySeedEntry (entries : List (Instant × Option SeedEntry)) (loaded skipped : Nat)
    (r : Registry) :
    entries.foldl (fun state entry => applySeedEntry entry.1 state entry.2)
        (⟨loaded, skipped⟩, r) =
      (⟨loaded + (Seed.valid r.dispatch entries).length,
        skipped + entries.countP fun e => (Seed.valid? r.dispatch e.2).isNone⟩,
        (Seed.valid r.dispatch entries).foldl define r) := by
  induction entries generalizing loaded skipped r with
  | nil => rfl
  | cons entry rest ih =>
    rw [List.foldl_cons]
    cases found : Seed.valid? r.dispatch entry.2 with
    | none =>
      rw [applySeedEntry_of_none found, ih, Seed.valid_cons_of_none found,
        List.countP_cons_of_pos (by simp [found]), Nat.add_right_comm, Nat.add_assoc]
    | some e =>
      rw [applySeedEntry_of_valid found, ih, Seed.valid_cons_of_some found,
        List.countP_cons_of_neg (by simp [found]), List.length_cons, Nat.add_right_comm,
        Nat.add_assoc]
      rfl

/-- What is registered is what the valid entries define, and the report counts these and the
others. -/
theorem applyEntries_eq (r : Registry) (entries : List (Instant × Option SeedEntry)) :
    r.applyEntries entries =
      (⟨(Seed.valid r.dispatch entries).length,
        entries.countP fun e => (Seed.valid? r.dispatch e.2).isNone⟩,
        (Seed.valid r.dispatch entries).foldl define r) := by
  have result := foldl_applySeedEntry entries 0 0 r
  rw [Nat.zero_add, Nat.zero_add] at result
  exact result

theorem foldl_define_frame (r : Registry) (entries : List (Instant × SeedEntry)) :
    (entries.foldl define r).dispatch = r.dispatch ∧
      (entries.foldl define r).inFlight = r.inFlight := by
  induction entries generalizing r with
  | nil => exact ⟨rfl, rfl⟩
  | cons e rest ih => exact ih (r.define e)

theorem keys_foldl_define (r : Registry) (entries : List (Instant × SeedEntry)) :
    (entries.foldl define r).connectors.keys =
      (r.connectors.keys ++ entries.map (·.2.id)).eraseDups := by
  induction entries generalizing r with
  | nil =>
    rw [List.map_nil, List.append_nil]
    exact (eraseDups_of_nodup r.connectors.distinct).symm
  | cons e rest ih =>
    rw [List.foldl_cons, ih (r.define e), define, OrderedMap.keys_insert, List.map_cons]
    split
    · rename_i known
      rw [eraseDups_append_cons_of_mem known]
    · rw [List.append_assoc, List.singleton_append]

theorem find?_foldl_define (r : Registry) (entries : List (Instant × SeedEntry)) (id : String) :
    (entries.foldl define r).connectors.find? id =
      Seed.connectorAfter? r.dispatch (r.connectors.find? id)
        (entries.filter fun e => e.2.id = id) := by
  induction entries generalizing r with
  | nil => rfl
  | cons e rest ih =>
    rw [List.foldl_cons, ih (r.define e), define, OrderedMap.find?_insert, List.filter_cons]
    by_cases own : e.2.id = id
    · rw [if_pos own.symm, own, if_pos (decide_eq_true rfl), Seed.connectorAfter?_cons]
    · rw [if_neg (Ne.symm own), if_neg (by simpa using own)]

/-- A seed leaves the registry that its valid entries alone would have left, registered one by one
in the order of the file, and none of them is refused.  The report counts these and all the others.
Only connectors change: they stand in the order in which their ids have come up, those that were
registered before in front, and each is defined by the last valid entry under its id, with the
creation time and the poll history that it had, or else created with the first such entry.  A file
that cannot be read, or is no seed file, leaves the registry as it is; any other is applied entry
by entry. -/
theorem seeds_valid_entries_only (r : Registry) :
    (∀ written : List (Instant × Yaml),
      let valid := Seed.valid r.dispatch (Seed.readEntries written)
      let applied := r.applyEntries (Seed.readEntries written)
      r.upsertAll valid = .ok applied.2 ∧
        applied.1.loaded = valid.length ∧
        applied.1.loaded + applied.1.skipped = written.length ∧
        applied.2.dispatch = r.dispatch ∧ applied.2.inFlight = r.inFlight ∧
        applied.2.connectors.keys =
          (r.connectors.keys ++ valid.map fun e => e.2.id).eraseDups ∧
        ∀ id, applied.2.connectors.find? id =
          Seed.connectorAfter? r.dispatch (r.connectors.find? id)
            (valid.filter fun e => e.2.id = id)) ∧
      ∀ now, r.applySeedFile now none = (.error .unreadable, r) ∧
        ∀ text, (Seed.written? text = none →
            r.applySeedFile now (some text) = (.error .malformed, r)) ∧
          ∀ values, Seed.written? text = some values →
            let applied := r.applyEntries (Seed.readEntries (values.map fun v => (now, v)))
            r.applySeedFile now (some text) = (.ok applied.1, applied.2) := by
  refine ⟨fun written => ?_, fun now => ⟨rfl, fun text => ⟨fun none' => ?_, fun values read => ?_⟩⟩⟩
  · intro valid applied
    obtain ⟨dispatch, inFlight⟩ := foldl_define_frame r valid
    have total := Seed.length_valid_add r.dispatch (Seed.readEntries written)
    have result : applied = (⟨valid.length,
        (Seed.readEntries written).countP fun e => (Seed.valid? r.dispatch e.2).isNone⟩,
        valid.foldl define r) :=
      r.applyEntries_eq (Seed.readEntries written)
    rw [result]
    exact ⟨upsertAll_of_valid fun e there => Seed.valid_of_mem there, rfl,
      total.trans (List.length_map _), dispatch, inFlight, keys_foldl_define r valid,
      find?_foldl_define r valid⟩
  · simp only [applySeedFile, Seed.read?, none', Option.map_none]
  · simp only [applySeedFile, Seed.read?, read, Option.map_some, applySeed, Seed.readEntries,
      List.map_map, Function.comp_def]

/-- The second entry has no id, and the fourth polls too often; the last one redefines the first. -/
example :
    let config : Yaml × Yaml :=
      (.str "config", .map [(.str "type", .str "ping"), (.str "host", .str "10.1.1.1")])
    let applied := (empty {}).applyEntries (Seed.readEntries [
      (⟨0⟩, .map [(.str "id", .str "edge-1"), config]),
      (⟨1⟩, .map [config]),
      (⟨2⟩, .map [(.str "id", .str "edge-2"), config]),
      (⟨3⟩, .map [(.str "id", .str "edge-1"), config, (.str "poll_interval_secs", .int 5)]),
      (⟨4⟩, .map [(.str "id", .str "edge-1"), config, (.str "name", .str "core")])])
    applied.1 = ⟨3, 2⟩ ∧ applied.2.connectors.keys = ["edge-1", "edge-2"] ∧
      (applied.2.connectors.find? "edge-1").map (fun c => (c.name, c.createdAt, c.updatedAt)) =
        some ("core", ⟨0⟩, ⟨4⟩) := by
  decide +kernel

end Registry

end DeviceWatch
