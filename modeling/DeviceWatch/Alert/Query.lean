import DeviceWatch.Alert.Store

/-!
Listing alerts page by page, and counting them by status and severity.
-/

namespace DeviceWatch

/-- Which alerts to show.  No status stands for the open ones; texts are searched up to case. -/
structure AlertQuery where
  statuses : List AlertStatus := []
  severities : List Severity := []
  category : Option String := none
  device : Option String := none
  text : Option String := none
  connectorId : Option String := none
  page : Nat := 0
  pageSize : Nat := 0
  deriving DecidableEq

structure AlertPage where
  items : List Alert
  total : Nat
  page : Nat
  pageSize : Nat

abbrev Tally (κ : Type) := OrderedMap κ Nat

def Tally.add {κ : Type} [DecidableEq κ] (t : Tally κ) (k : κ) : Tally κ :=
  t.insert k ((t.find? k).getD 0 + 1)

structure AlertAggregate where
  total : Nat
  byStatus : Tally AlertStatus
  bySeverity : Tally Severity
  bySeverityStatus : OrderedMap Severity (Tally AlertStatus)

namespace AlertQuery

def effectiveStatuses (q : AlertQuery) : List AlertStatus :=
  if q.statuses.isEmpty then AlertStatus.openOnes else q.statuses

def defaultPageSize : Nat := 50

def maxPageSize : Nat := 500

def effectivePage (q : AlertQuery) : Nat := max q.page 1

def effectivePageSize (q : AlertQuery) : Nat :=
  if q.pageSize = 0 then defaultPageSize else min q.pageSize maxPageSize

/-- Whether an optional condition holds, and likewise of none. -/
def wanted {α : Type} (condition : Option α) (holds : α → Bool) : Bool :=
  match condition with
  | some a => holds a
  | none => true

def anyContains (texts : List (Option String)) (needle : String) : Bool :=
  texts.any fun t => match t with
    | some t => Text.containsIgnoringCase t needle
    | none => false

def accepts (q : AlertQuery) (a : Alert) : Bool :=
  q.effectiveStatuses.contains a.status &&
  (q.severities.isEmpty || q.severities.contains a.severity) &&
  wanted q.category (fun c => match a.category with
    | some own => Text.eqIgnoreAsciiCase own c
    | none => false) &&
  wanted q.connectorId (fun id => a.connectorId == some id) &&
  wanted q.device (anyContains [a.deviceIp, a.deviceName]) &&
  wanted q.text (anyContains [some a.message, some a.alertType, a.deviceName, a.category])

end AlertQuery

namespace AlertStore

def matching (s : AlertStore) (q : AlertQuery) : List Alert := s.alerts.filter q.accepts

/-- The most recently updated first; ties keep the order of creation. -/
def newestFirst (alerts : List Alert) : List Alert :=
  alerts.mergeSort fun a b => decide (b.updatedAt ≤ a.updatedAt)

def query (s : AlertStore) (q : AlertQuery) : AlertPage :=
  let found := newestFirst (s.matching q)
  { items := (found.drop ((q.effectivePage - 1) * q.effectivePageSize)).take q.effectivePageSize
    total := found.length
    page := q.effectivePage
    pageSize := q.effectivePageSize }

def tally (g : AlertAggregate) (a : Alert) : AlertAggregate where
  total := g.total + 1
  byStatus := g.byStatus.add a.status
  bySeverity := g.bySeverity.add a.severity
  bySeverityStatus :=
    g.bySeverityStatus.insert a.severity
      (((g.bySeverityStatus.find? a.severity).getD .empty).add a.status)

/-- The counts over all pages of a query.  Every status and severity that could show has a row. -/
def aggregate (s : AlertStore) (q : AlertQuery) : AlertAggregate :=
  (s.matching q).foldl tally {
    total := 0
    byStatus := q.effectiveStatuses.foldl (fun t k => t.insert k 0) .empty
    bySeverity := Severity.all.foldl (fun t k => t.insert k 0) .empty
    bySeverityStatus := .empty }

end AlertStore

def Tally.toJson {κ : Type} (name : κ → String) (t : Tally κ) : Json :=
  .object (t.entries.map fun (k, n) => (name k, .ofNat n))

def AlertAggregate.toJson (g : AlertAggregate) : Json := .object [
  ("total", .ofNat g.total),
  ("by_status", g.byStatus.toJson AlertStatus.name),
  ("by_severity", g.bySeverity.toJson Severity.name),
  ("by_severity_status",
    .object (g.bySeverityStatus.entries.map fun (k, t) => (k.name, t.toJson AlertStatus.name)))]

def AlertPage.fields (p : AlertPage) : List (String × Json) := [
  ("items", .arr (p.items.map Alert.toJson)),
  ("total", .ofNat p.total),
  ("page", .ofNat p.page),
  ("page_size", .ofNat p.pageSize)]

end DeviceWatch
