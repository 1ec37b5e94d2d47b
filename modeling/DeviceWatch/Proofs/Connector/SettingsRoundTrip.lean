import DeviceWatch.Connector.Settings
import DeviceWatch.Proofs.Json.Records

/-!
# Settings are read as they were written

Whatever settings were read from JSON, they are written so that they are read as the same settings;
typed settings are, wherever they come from.  Settings of a kind that is not typed are kept field by
field.
-/

namespace DeviceWatch.ConnectorSettings

def IsGeneric (c : ConnectorSettings) : Prop := ∃ kind fields, c = .generic kind fields

open Json Json.RecordReader

theorem readString_str (s : String) : readString (.str s) = .ok s := rfl

theorem holds_timeout {fields : List (String × Json)} (distinct : (fields.map Prod.fst).Nodup)
    {t : Option UInt64} (there : timeoutField t ∈ fields) : timeoutReader.Holds fields t :=
  holds_optional distinct there (readOption_ofOption _ readWord64_ofNat nofun t)

theorem snmpReader_holds (s : SnmpSettings) : snmpReader.Holds (fields (.snmp s)) s := by
  have distinct : ((fields (.snmp s)).map Prod.fst).Nodup := by simp [fields, timeoutField]
  have oids := readList_map _ readString_str s.oids
  refine (((((Holds.map SnmpSettings.mk ?_).seq ?_).seq ?_).seq ?_).seq ?_).seq ?_
  · exact holds_required distinct (by simp [fields]) (readString_str s.host)
  · exact holds_defaulted distinct (by simp [fields]) (readWord16_ofNat s.port) _
  · exact holds_defaulted distinct (by simp [fields]) (readString_str s.community) _
  · exact holds_defaulted distinct (by simp [fields]) (readString_str s.version) _
  · exact holds_defaulted distinct (by simp [fields, texts]) oids _
  · exact holds_timeout distinct (by simp [fields])

theorem sshReader_holds (s : SshSettings) : sshReader.Holds (fields (.ssh s)) s := by
  have distinct : ((fields (.ssh s)).map Prod.fst).Nodup := by simp [fields, timeoutField]
  have credential := readOption_ofOption _ readString_str nofun s.credentialRef
  have commands := readList_map _ readString_str s.commands
  refine (((((Holds.map SshSettings.mk ?_).seq ?_).seq ?_).seq ?_).seq ?_).seq ?_
  · exact holds_required distinct (by simp [fields]) (readString_str s.host)
  · exact holds_defaulted distinct (by simp [fields]) (readWord16_ofNat s.port) _
  · exact holds_required distinct (by simp [fields]) (readString_str s.username)
  · exact holds_optional distinct (by simp [fields]) credential
  · exact holds_defaulted distinct (by simp [fields, texts]) commands _
  · exact holds_timeout distinct (by simp [fields])

theorem httpReader_holds (s : HttpSettings) : httpReader.Holds (fields (.http s)) s := by
  have distinct : ((fields (.http s)).map Prod.fst).Nodup := by simp [fields, timeoutField]
  have status := readOption_ofOption _ readWord16_ofNat nofun s.expectedStatus
  let written : Json := .obj (s.headers.entries.map fun e => (e.1, .str e.2))
  have headers : (readTable readString written).map SortedTable.ofList = .ok s.headers := by
    rw [readTable_map _ readString_str, Except.map, s.headers.ofList_entries]
  refine ((((Holds.map HttpSettings.mk ?_).seq ?_).seq ?_).seq ?_).seq ?_
  · exact holds_required distinct (by simp [fields]) (readString_str s.url)
  · exact holds_defaulted distinct (by simp [fields]) (readString_str s.method) _
  · exact holds_optional distinct (by simp [fields]) status
  · exact holds_defaulted distinct (by simp [fields, written]) headers _
  · exact holds_timeout distinct (by simp [fields])

theorem pingReader_holds (s : PingSettings) : pingReader.Holds (fields (.ping s)) s := by
  have distinct : ((fields (.ping s)).map Prod.fst).Nodup := by simp [fields, timeoutField]
  refine ((Holds.map PingSettings.mk ?_).seq ?_).seq ?_
  · exact holds_required distinct (by simp [fields]) (readString_str s.host)
  · exact holds_defaulted distinct (by simp [fields]) (readWord32_ofNat s.count) _
  · exact holds_timeout distinct (by simp [fields])

/-- The fields beside the kind are read as the settings, and none of them is the kind. -/
structure Legible (c : ConnectorSettings) : Prop where
  reads : readFields c.kind c.fields = .ok c
  noKind : ∀ e ∈ c.fields, e.1 ≠ "type"

theorem legible_of_typed {c : ConnectorSettings} (typed : ¬ c.IsGeneric) : c.Legible := by
  cases c with
  | snmp s => exact ⟨by simp [readFields, kind, (snmpReader_holds s).readObject], by simp [fields, timeoutField]⟩
  | ssh s => exact ⟨by simp [readFields, kind, (sshReader_holds s).readObject], by simp [fields, timeoutField]⟩
  | http s => exact ⟨by simp [readFields, kind, (httpReader_holds s).readObject], by simp [fields, timeoutField]⟩
  | ping s => exact ⟨by simp [readFields, kind, (pingReader_holds s).readObject], by simp [fields, timeoutField]⟩
  | generic kind fields => exact absurd ⟨kind, fields, rfl⟩ typed

theorem readFields_generic {kind : String} (other : kind ∉ typedKinds) (fields : List (String × Json)) :
    readFields kind fields = .ok (.generic kind fields) := by
  simp only [typedKinds, List.mem_cons, List.not_mem_nil, or_false, not_or] at other
  obtain ⟨snmp, ssh, http, ping⟩ := other
  rw [readFields, if_neg snmp, if_neg ssh, if_neg http, if_neg ping]

/-- What is read is of the kind that is named, and typed just if that kind is. -/
theorem readFields_kind {kind : String} {fields : List (String × Json)} {c : ConnectorSettings}
    (read : readFields kind fields = .ok c) :
    c.kind = kind ∧ (c.IsGeneric ↔ kind ∉ typedKinds) := by
  by_cases known : kind ∈ typedKinds
  · have typed : c.kind = kind ∧ ¬ c.IsGeneric := by
      simp only [typedKinds, List.mem_cons, List.not_mem_nil, or_false] at known
      rcases known with rfl | rfl | rfl | rfl <;> simp [readFields] at read <;> split at read <;>
        cases read <;> exact ⟨rfl, nofun⟩
    exact ⟨typed.1, iff_of_false typed.2 (not_not_intro known)⟩
  · rw [readFields_generic known] at read
    cases read
    exact ⟨rfl, iff_of_true ⟨kind, fields, rfl⟩ known⟩

theorem ofJson_eq_ok {v : Json} {c : ConnectorSettings} (read : ofJson v = .ok c) :
    ∃ kind fields, v = .obj fields ∧ v.get? "type" = some (.str kind) ∧
      readFields kind (eraseField "type" fields) = .ok c := by
  unfold ofJson at read
  split at read
  · rename_i fields
    split at read
    · rename_i kind named
      obtain ⟨value, found, isText⟩ := Option.bind_eq_some_iff.mp named
      refine ⟨kind, fields, rfl, ?_, read⟩
      rw [Json.get?, found]
      cases value with
      | str s =>
        cases isText
        rfl
      | _ => cases isText
    · cases read
  · cases read

theorem get?_toJson (c : ConnectorSettings) (key : String) :
    c.toJson.get? key = if key = "type" then some (.str c.kind) else c.fields.lookup key :=
  SortedTable.lookup_insertEntry "type" _ c.fields key

theorem Legible.ofJson_toJson {c : ConnectorSettings} (legible : c.Legible) :
    ofJson c.toJson = .ok c := by
  have kind : (SortedTable.insertEntry "type" (.str c.kind) c.fields).lookup "type" =
      some (.str c.kind) := by
    rw [SortedTable.lookup_insertEntry, if_pos rfl]
  have rest := eraseField_insertEntry legible.noKind (.str c.kind)
  simp only [ofJson, toJson, kind, Option.bind_some, asString?, rest, legible.reads]

theorem legible_of_ofJson {v : Json} {c : ConnectorSettings} (read : ofJson v = .ok c) :
    c.Legible := by
  obtain ⟨kind, fields, -, -, read⟩ := ofJson_eq_ok read
  by_cases known : kind ∈ typedKinds
  · exact legible_of_typed fun generic => (readFields_kind read).2.mp generic known
  · rw [readFields_generic known] at read
    cases read
    exact ⟨readFields_generic known _, fun e there => ne_of_mem_eraseField there⟩

/-- Settings that were read from a value are written as a value that names their kind and is read as
the same settings.  They are generic just if the kind is not a typed one; then they are all that the
value holds beside its kind, every field is written as it was read, and nothing else is if the value
is in key order.  Typed settings are read as they were written, whatever they are. -/
theorem settings_round_trip :
    (∀ v c, ofJson v = .ok c →
      ofJson c.toJson = .ok c ∧
      v.get? "type" = some (.str c.kind) ∧ c.toJson.get? "type" = some (.str c.kind) ∧
      (c.IsGeneric ↔ c.kind ∉ ["snmp", "ssh", "http", "ping"]) ∧
      (c.IsGeneric → ∃ fields, v = .obj fields ∧ c.fields = eraseField "type" fields ∧
        (∀ key, c.toJson.get? key = v.get? key) ∧
        (fields.Pairwise (fun a b => a.1 < b.1) → c.toJson = v))) ∧
    ∀ c : ConnectorSettings, ¬ c.IsGeneric → ofJson c.toJson = .ok c := by
  refine ⟨fun v c read => ?_, fun c typed => (legible_of_typed typed).ofJson_toJson⟩
  obtain ⟨kind, fields, rfl, named, readFields⟩ := ofJson_eq_ok read
  obtain ⟨rfl, generic⟩ := readFields_kind readFields
  refine ⟨(legible_of_ofJson read).ofJson_toJson, named, ?_, generic, fun untyped => ?_⟩
  · rw [get?_toJson, if_pos rfl]
  · rw [readFields_generic (generic.mp untyped)] at readFields
    have kept : c.fields = eraseField "type" fields :=
      congrArg ConnectorSettings.fields (Except.ok.inj readFields).symm
    refine ⟨fields, rfl, kept, fun key => ?_, fun sorted => ?_⟩
    · rw [get?_toJson, kept, lookup_eraseField]
      split
      · rename_i isKind
        rw [isKind, named]
      · rfl
    · rw [toJson, kept, insertEntry_eraseField sorted named]

/-- Settings of a kind that the service does not know, with a field that has no value. -/
def camera : Json :=
  .obj [("host", .str "10.1.1.9"), ("type", .str "camera"), ("zones", .arr [.int 1, .null])]

theorem settings_round_trip_camera :
    let c := generic "camera" [("host", .str "10.1.1.9"), ("zones", .arr [.int 1, .null])]
    ofJson camera = .ok c ∧ ofJson c.toJson = .ok c ∧ c.toJson = camera := by
  intro c
  have read : ofJson camera = .ok c := by rfl
  obtain ⟨back, -, -, -, kept⟩ := settings_round_trip.1 camera c read
  obtain ⟨fields, held, -, -, same⟩ := kept ⟨_, _, rfl⟩
  refine ⟨read, back, same ?_⟩
  cases held
  decide

end DeviceWatch.ConnectorSettings
