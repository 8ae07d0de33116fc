import Mathlib.Data.List.Sort
import Fleet.ControlPlane.Health

set_option autoImplicit false

namespace Fleet.Dashboard

open Db NodeAdapter ShimResponses Health

/-- The order the database sorts texts in. -/
structure Collation where
  le : String → String → Bool
  total : ∀ a b, le a b = true ∨ le b a = true
  trans : ∀ a b c, le a b = true → le b c = true → le a c = true
  antisymm : ∀ a b, le a b = true → le b a = true → a = b

-- `ORDER BY region, name`.
def Collation.before (collation : Collation) (a b : String × String) : Bool :=
  if a.1 = b.1 then collation.le a.2 b.2 else collation.le a.1 b.1

-- What Python's floats do: addition, and the conversion of an integer, which can overflow.
structure Floats where
  add : Option (Int × Int) → Option (Int × Int) → Option (Int × Int)
  ofInt : Int → Except PyException (Option (Int × Int))

-- While a node's live facts are fetched.
inductive Course (Moment : Type) where
  | fetched (state : NodeState) (sessions : List (SessionInfo Moment))
  | raised (text : String)

structure Visit (Moment : Type) where
  -- What opening the sealed credentials raises, if anything.
  unsealing : Option PyException
  course : Course Moment
  closing : Option PyException

structure SiteSummary where
  nodeId : String
  name : String
  region : String
  adapterType : AdapterType
  status : HealthStatus
  serversTotal : Nat := 0
  serversOnline : Nat := 0
  orgs : Nat := 0
  usersTotal : Nat := 0
  usersDisabled : Nat := 0
  activeSessions : Nat := 0
  onlineClients : Value := .int 0
  lastCheckedAt : Option Datetime
  lastSyncedAt : Option Datetime
  lastLatencyMs : Option Nat
  error : Option String

structure DashboardTotals where
  sites : Nat := 0
  sitesReachable : Nat := 0
  serversTotal : Nat := 0
  serversOnline : Nat := 0
  usersTotal : Nat := 0
  activeSessions : Nat := 0
  onlineClients : Value := .int 0

structure DashboardOut where
  generatedAt : Datetime
  totals : DashboardTotals
  sites : List SiteSummary

section Sums

variable (floats : Floats)

inductive Number where
  | whole (value : Int)
  | real (value : Option (Int × Int))

def number? : Value → Option Number
  | .bool value => some (.whole value.toNat)
  | .int value => some (.whole value)
  | .float value => some (.real value)
  | _ => none

-- `a + b` where the left operand is a number already.
def plus (a b : Value) : Except Raised Value :=
  match number? a, number? b with
  | some (.whole m), some (.whole n) => .ok (.int (m + n))
  | some (.whole m), some (.real y) =>
      (floats.ofInt m).mapError .escaped |>.map fun x => .float (floats.add x y)
  | some (.real x), some (.whole n) =>
      (floats.ofInt n).mapError .escaped |>.map fun y => .float (floats.add x y)
  | some (.real x), some (.real y) => .ok (.float (floats.add x y))
  | _, _ => .error (.escaped .typeError)

-- `sum`.
def sum (values : List Value) : Except Raised Value := values.foldlM (plus floats) (.int 0)

end Sums

section Fetch

variable {Moment : Type}

abbrev Fetched (Moment : Type) : Type :=
  Option NodeState × List (SessionInfo Moment) × Option String

def buildAdapter (node : NodeRow) (visit : Visit Moment) : Except Raised AdapterType :=
  match visit.unsealing with
  | some exception => .error (.escaped exception)
  | none => (buildAdapterForNode node.toNode).mapError Actions.raisedBy

-- The stubs raise NotImplementedError, whose text is empty, and have nothing to close.
def courseOf (node : NodeRow) (visit : Visit Moment) : Course Moment :=
  if implements node.adapterType .getState then visit.course else .raised ""

def closingOf (node : NodeRow) (visit : Visit Moment) : Option PyException :=
  if implements node.adapterType .getState then visit.closing else none

def fetchNode (node : NodeRow) (visit : Visit Moment) : Except Raised (Fetched Moment) :=
  if node.enabled = false ∨ node.status = .down then
    .ok (none, [], if node.enabled then none else some "node disabled")
  else
    match buildAdapter node visit with
    | .error raised => .error raised
    | .ok _ =>
        match closingOf node visit with
        | some exception => .error (.escaped exception)
        | none =>
            match courseOf node visit with
            | .fetched state sessions => .ok (some state, sessions, none)
            | .raised text => .ok (none, [], some ("live fetch failed: " ++ text))

end Fetch

section Summaries

variable {Moment : Type} (floats : Floats)

def isOnline (server : ServerInfo) : Bool :=
  match server.status with
  | .str text => text = "online"
  | _ => false

def summarize (node : NodeRow) : Fetched Moment → Except Raised SiteSummary
  | (state, sessions, error) =>
      let summary : SiteSummary := {
        nodeId := node.id, name := node.name, region := node.region
        adapterType := node.adapterType, status := node.status
        lastCheckedAt := node.lastCheckedAt, lastSyncedAt := node.lastSyncedAt
        lastLatencyMs := node.lastLatencyMs, error := error }
      match state with
      | none => .ok summary
      | some state =>
          (sum floats (state.servers.map ServerInfo.onlineClients)).map fun onlineClients =>
            { summary with
              serversTotal := state.servers.length
              serversOnline := state.servers.countP isOnline
              orgs := state.orgs.length
              usersTotal := state.users.length
              usersDisabled := state.users.countP fun user => user.disabled.truthy
              onlineClients := onlineClients
              activeSessions := sessions.length }

def tally (out : DashboardOut) (site : NodeRow × Fetched Moment) : Except Raised DashboardOut := do
  let summary ← summarize floats site.1 site.2
  let onlineClients ← plus floats out.totals.onlineClients summary.onlineClients
  return { out with
    sites := out.sites ++ [summary]
    totals := { out.totals with
      sitesReachable := out.totals.sitesReachable + if site.1.status = .reachable then 1 else 0
      serversTotal := out.totals.serversTotal + summary.serversTotal
      serversOnline := out.totals.serversOnline + summary.serversOnline
      usersTotal := out.totals.usersTotal + summary.usersTotal
      activeSessions := out.totals.activeSessions + summary.activeSessions
      onlineClients := onlineClients } }

variable (collation : Collation)

def place (node : NodeRow) : String × String := (node.region, node.name)

def ordered (registry : Registry) : List NodeRow :=
  registry.rows.insertionSort fun a b => collation.before (place a) (place b)

-- Where several fetches raise, `gather` passes on the one that did so first; the model takes the
-- first of the list.
def buildDashboard (registry : Registry) (visits : String → Visit Moment) (now : Datetime) :
    Except Raised DashboardOut := do
  let nodes := ordered collation registry
  let results ← nodes.mapM fun node => fetchNode node (visits node.id)
  (nodes.zip results).foldlM (tally floats)
    { generatedAt := now, totals := { sites := nodes.length }, sites := [] }

end Summaries

end Fleet.Dashboard
