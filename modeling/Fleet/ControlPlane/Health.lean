import Fleet.ControlPlane.Actions

set_option autoImplicit false

namespace Fleet.Health

open Db NodeAdapter ShimResponses

-- The registry row with the fields the health engine keeps.
structure NodeRow extends Node where
  lastCheckedAt : Option Datetime
  lastLatencyMs : Option Nat
  consecutiveFailures : Nat
  lastError : Option String

def NodeRow.key (row : NodeRow) : String := row.id

structure Registry where
  rows : List NodeRow
  unique : Keyed.Unique NodeRow.key rows

def Registry.node? (registry : Registry) (nodeId : String) : Option NodeRow :=
  Keyed.lookup NodeRow.key nodeId registry.rows

-- What happens while a shim's `health()` is awaited; `raised` is whatever else it raises.
inductive Course where
  | exchanged (exchange : Exchange)
  | timedOut
  | raised (text : String)

structure Visit where
  course : Course
  -- What `adapter.close()` raises, if it has a client to close.
  closing : Option PyException
  now : Datetime

inductive Ended where
  | returned (result : NodeHealth)
  | timedOut
  | raised (text : String)

structure Settings where
  healthDownThreshold : Int

section Probe

variable {Moment : Type} (runtime : Runtime Moment) (str : PyException → String)
  (settings : Settings)

-- The stubs answer at once.
def health (node : Node) (course : Course) : Ended :=
  match node.adapterType, course with
  | .mongo, _ =>
      .returned {
        reachability := .degraded
        error := some "mongo adapter is a stub (read-only fast path — not yet implemented)"
        detail := [("read_only", .bool true)] }
  | .ssh, _ =>
      .returned {
        reachability := .degraded
        error := some "ssh adapter is a stub (bootstrap / break-glass — not yet implemented)"
        detail := [("role", .str "bootstrap/break-glass")] }
  | .shim, .timedOut => .timedOut
  | .shim, .raised text => .raised text
  | .shim, .exchanged exchange =>
      match ShimResponses.health runtime (ShimAdapter.base node.endpoint) exchange with
      | .ok result => .returned result
      | .error (.adapterError text) => .raised text
      | .error (.escaped exception) => .raised (str exception)

def closeError (node : Node) (visit : Visit) : Option PyException :=
  match node.adapterType with
  | .shim => visit.closing
  | _ => none

def settle : Ended → NodeHealth
  | .returned result => result
  | .timedOut => { reachability := .down, error := some "health probe timed out" }
  | .raised text => { reachability := .down, error := some ("probe error: " ++ text) }

/-- `_probe`: the adapter is built before the `try`, and closed on the way out of it. -/
def probe (node : Node) (visit : Visit) : Except Raised NodeHealth :=
  match buildAdapterForNode node with
  | .error error => .error (Actions.raisedBy error)
  | .ok _ =>
      match closeError node visit with
      | some exception => .error (.escaped exception)
      | none => .ok (settle (health runtime str node visit.course))

def statusOf : Reachability → HealthStatus
  | .reachable => .reachable
  | .degraded => .degraded
  | .down => .down

def fold (node : NodeRow) (now : Datetime) (result : NodeHealth) : NodeRow :=
  let checked := { node with lastCheckedAt := some now, lastLatencyMs := result.latencyMs }
  match result.reachability with
  | .reachable =>
      { checked with consecutiveFailures := 0, status := .reachable, lastError := none }
  | reachability =>
      let failures := node.consecutiveFailures + 1
      { checked with
        consecutiveFailures := failures
        lastError := result.error
        status :=
          if settings.healthDownThreshold ≤ failures then .down else statusOf reachability }

def checkNode (node : NodeRow) (visit : Visit) : Except Raised NodeRow :=
  (probe runtime str node.toNode visit).map (fold settings node visit.now)

-- The rows of the session and the number of nodes checked so far.
def checkEach (visits : String → Visit) (session : List NodeRow) (checked : Nat) :
    List NodeRow → Except Raised (List NodeRow × Nat)
  | [] => .ok (session, checked)
  | node :: rest =>
      match checkNode runtime str settings node (visits node.id) with
      | .ok after =>
          checkEach visits (Keyed.replace NodeRow.key after session) (checked + 1) rest
      | .error raised => .error raised

def enabledNodes (registry : Registry) : List NodeRow := registry.rows.filter fun node => node.enabled

end Probe

section Lemmas

variable {Moment : Type} {runtime : Runtime Moment} {str : PyException → String}
  {settings : Settings}

theorem fold_node (node : NodeRow) (now : Datetime) (result : NodeHealth) :
    (fold settings node now result).key = node.key ∧
      (fold settings node now result).enabled = node.enabled ∧
        (fold settings node now result).adapterType = node.adapterType ∧
          (fold settings node now result).endpoint = node.endpoint ∧
            (fold settings node now result).credentials = node.credentials := by
  unfold fold
  cases result.reachability <;> exact ⟨rfl, rfl, rfl, rfl, rfl⟩

theorem checkNode_key {node after : NodeRow} {visit : Visit}
    (checked : checkNode runtime str settings node visit = .ok after) : after.key = node.key := by
  unfold checkNode at checked
  cases probed : probe runtime str node.toNode visit with
  | error raised => simp [probed, Except.map] at checked
  | ok result =>
      simp only [probed, Except.map, Except.ok.injEq] at checked
      rw [← checked]
      exact (fold_node node visit.now result).1

theorem checkEach_keys {visits : String → Visit} {session rows : List NodeRow}
    {checked count : Nat} {nodes : List NodeRow}
    (looped : checkEach runtime str settings visits session checked nodes = .ok (rows, count)) :
    rows.map NodeRow.key = session.map NodeRow.key := by
  induction nodes generalizing session checked with
  | nil =>
      cases looped
      rfl
  | cons node rest ih =>
      rw [checkEach] at looped
      split at looped
      · rw [ih looped, Keyed.map_key_replace]
      · cases looped

end Lemmas

section Sweep

variable {Moment : Type} (runtime : Runtime Moment) (str : PyException → String)
  (settings : Settings)

structure Swept where
  registry : Registry
  reply : Except Raised Nat

/-- One session, one commit after the last node, and one handler that rolls it back. -/
def sweepOnce (registry : Registry) (visits : String → Visit) : Swept :=
  match looped : checkEach runtime str settings visits registry.rows 0 (enabledNodes registry) with
  | .ok (rows, checked) =>
      ⟨⟨rows, by rw [Keyed.Unique, checkEach_keys looped]; exact registry.unique⟩, .ok checked⟩
  | .error raised => ⟨registry, .error raised⟩

end Sweep

end Fleet.Health
