import Fleet.ControlPlane.Health
import Fleet.ControlPlane.MutationAudit
import Fleet.Shared.Execution

set_option autoImplicit false

namespace Fleet.Health

open Db NodeAdapter ShimResponses Execution

section Isolation

variable {Moment : Type} (runtime : Runtime Moment) (str : PyException → String)
  (settings : Settings)

-- The probe of an enabled node is left by neither of the two steps outside its `try`.
def Sound (registry : Registry) (visits : String → Visit) : Prop :=
  ∀ node ∈ registry.rows, node.enabled = true →
    rejects node.adapterType node.endpoint node.credentials = none ∧
      closeError node.toNode (visits node.id) = none

/-- The sweep completes and stores for each enabled node its own check, and nothing else. -/
structure Isolated (registry : Registry) (visits : String → Visit) (swept : Swept) : Prop where
  completed : swept.reply = .ok (enabledNodes registry).length
  stored : ∀ node ∈ registry.rows, node.enabled = true → ∀ after,
    checkNode runtime str settings node (visits node.id) = .ok after →
      swept.registry.node? node.id = some after
  untouched : ∀ node ∈ registry.rows, node.enabled = false →
    swept.registry.node? node.id = some node
  -- Of two runs that share the node and its visit, the rest of the fleet shows in neither.
  alone : ∀ other otherVisits, Sound other otherVisits → ∀ node ∈ registry.rows,
    node ∈ other.rows → visits node.id = otherVisits node.id →
      swept.registry.node? node.id =
        (sweepOnce runtime str settings other otherVisits).registry.node? node.id

end Isolation

section Checks

variable {Moment : Type} {runtime : Runtime Moment} {str : PyException → String}
  {settings : Settings}

theorem probe_ok_iff (node : Node) (visit : Visit) :
    Returns (probe runtime str node visit) ↔
      rejects node.adapterType node.endpoint node.credentials = none ∧
        closeError node visit = none := by
  by_cases built : rejects node.adapterType node.endpoint node.credentials = none
  · rw [probe, Actions.buildAdapterForNode_eq built]
    cases closing : closeError node visit with
    | none => exact iff_of_true (returns_ok _) ⟨built, rfl⟩
    | some exception => exact iff_of_false (not_returns_error _) (by simp)
  · obtain ⟨error, refused⟩ := Actions.buildAdapterForNode_rejected built
    rw [probe, refused]
    exact iff_of_false (not_returns_error _) fun sound => built sound.1

theorem checkNode_ok_iff (node : NodeRow) (visit : Visit) :
    Returns (checkNode runtime str settings node visit) ↔
      rejects node.adapterType node.endpoint node.credentials = none ∧
        closeError node.toNode visit = none := by
  rw [checkNode, returns_map, probe_ok_iff]

variable (runtime str settings) (visits : String → Visit)

theorem checkEach_ok (session : List NodeRow) (checked : Nat) {nodes : List NodeRow}
    (unique : (nodes.map NodeRow.key).Nodup)
    (settled : ∀ node ∈ nodes, Returns (checkNode runtime str settings node (visits node.id))) :
    ∃ rows, checkEach runtime str settings visits session checked nodes =
        .ok (rows, checked + nodes.length) ∧
      (∀ k, k ∉ nodes.map NodeRow.key →
        Keyed.lookup NodeRow.key k rows = Keyed.lookup NodeRow.key k session) ∧
      ∀ node ∈ nodes, node.key ∈ session.map NodeRow.key → ∀ after,
        checkNode runtime str settings node (visits node.id) = .ok after →
          Keyed.lookup NodeRow.key node.key rows = some after := by
  induction nodes generalizing session checked with
  | nil => exact ⟨session, rfl, by simp, by simp⟩
  | cons node rest ih =>
      obtain ⟨fresh, unique⟩ := List.nodup_cons.1 unique
      obtain ⟨first, done⟩ := settled node List.mem_cons_self
      have site := checkNode_key done
      obtain ⟨rows, looped, frame, stored⟩ := ih (Keyed.replace NodeRow.key first session)
        (checked + 1) unique fun other member => settled other (by simp [member])
      refine ⟨rows, ?_, ?_, ?_⟩
      · simp only [checkEach, done, looped, List.length_cons, Nat.add_assoc, Nat.add_comm 1]
      · intro k absent
        rw [List.map_cons, List.mem_cons, not_or] at absent
        rw [frame k absent.2, Keyed.lookup_replace, site, if_neg (Ne.symm absent.1)]
      · intro other member present after result
        rcases List.mem_cons.1 member with rfl | later
        · rw [frame _ fresh, Keyed.lookup_replace, if_pos site]
          obtain ⟨old, found⟩ := Option.isSome_iff_exists.1 (Keyed.lookup_isSome.2 present)
          rw [found, Option.map_some, ← Except.ok.inj (done.symm.trans result)]
        · exact stored other later (by rwa [Keyed.map_key_replace]) after result

theorem checkEach_error (session : List NodeRow) (checked : Nat) {nodes : List NodeRow}
    {node : NodeRow} (member : node ∈ nodes)
    (failed : ¬ Returns (checkNode runtime str settings node (visits node.id))) :
    ∃ raised, checkEach runtime str settings visits session checked nodes = .error raised := by
  induction nodes generalizing session checked with
  | nil => cases member
  | cons head rest ih =>
      cases result : checkNode runtime str settings head (visits head.id) with
      | error raised => exact ⟨raised, by simp [checkEach, result]⟩
      | ok after =>
          rcases List.mem_cons.1 member with rfl | later
          · exact absurd (result ▸ returns_ok after) failed
          · simp only [checkEach, result]
            exact ih _ _ later

end Checks

section Sweeps

variable {Moment : Type} (runtime : Runtime Moment) (str : PyException → String)
  (settings : Settings) (registry : Registry) (visits : String → Visit)

theorem sweepOnce_unsound (unsound : ¬ Sound registry visits) :
    ∃ raised, sweepOnce runtime str settings registry visits = ⟨registry, .error raised⟩ := by
  simp only [Sound, not_forall] at unsound
  obtain ⟨node, member, enabled, failing⟩ := unsound
  have among : node ∈ enabledNodes registry := List.mem_filter.2 ⟨member, enabled⟩
  obtain ⟨raised, looped⟩ := checkEach_error runtime str settings visits registry.rows 0 among
    fun returns => failing ((checkNode_ok_iff _ _).1 returns)
  refine ⟨raised, ?_⟩
  unfold sweepOnce
  split
  next rows checked completed => exact absurd (completed.symm.trans looped) (by simp)
  next other stopped => rw [Except.error.inj (stopped.symm.trans looped)]

-- What the sweep stores of a node is a function of the node and of its visit.
theorem sweepOnce_sound (sound : Sound registry visits) :
    (sweepOnce runtime str settings registry visits).reply = .ok (enabledNodes registry).length ∧
      ∀ node ∈ registry.rows,
        (sweepOnce runtime str settings registry visits).registry.node? node.id =
          if node.enabled = true then
            (checkNode runtime str settings node (visits node.id)).toOption
          else some node := by
  have unique : ((enabledNodes registry).map NodeRow.key).Nodup :=
    registry.unique.sublist (List.filter_sublist.map _)
  have ready : ∀ node ∈ enabledNodes registry,
      Returns (checkNode runtime str settings node (visits node.id)) := by
    intro node member
    obtain ⟨present, enabled⟩ := List.mem_filter.1 member
    exact (checkNode_ok_iff _ _).2 (sound node present enabled)
  obtain ⟨rows, looped, frame, stored⟩ :=
    checkEach_ok runtime str settings visits registry.rows 0 unique ready
  have swept : (sweepOnce runtime str settings registry visits).registry.rows = rows ∧
      (sweepOnce runtime str settings registry visits).reply =
        .ok (0 + (enabledNodes registry).length) := by
    unfold sweepOnce
    split
    next completed => cases completed.symm.trans looped; exact ⟨rfl, rfl⟩
    next stopped => exact absurd (stopped.symm.trans looped) (by simp)
  refine ⟨by rw [swept.2, Nat.zero_add], fun node member => ?_⟩
  rw [Registry.node?, swept.1]
  split
  next enabled =>
    have among : node ∈ enabledNodes registry := List.mem_filter.2 ⟨member, enabled⟩
    obtain ⟨after, result⟩ := ready node among
    rw [result]
    exact stored node among (List.mem_map_of_mem member) after result
  next disabled =>
    refine (frame node.key fun present => ?_).trans (registry.unique.lookup_of_mem member)
    obtain ⟨other, among, same⟩ := List.mem_map.1 present
    obtain ⟨inside, enabled⟩ := List.mem_filter.1 among
    exact disabled (registry.unique.eq_of_key inside member same ▸ enabled)

theorem sweepOnce_isolated_iff :
    Isolated runtime str settings registry visits
        (sweepOnce runtime str settings registry visits) ↔ Sound registry visits := by
  constructor
  · intro isolated
    by_contra unsound
    obtain ⟨raised, swept⟩ := sweepOnce_unsound runtime str settings registry visits unsound
    have completed := isolated.completed
    rw [swept] at completed
    cases completed
  · intro sound
    obtain ⟨completed, stored⟩ := sweepOnce_sound runtime str settings registry visits sound
    refine ⟨completed, ?_, ?_, ?_⟩
    · intro node member enabled after result
      rw [stored node member, if_pos enabled, result]
      rfl
    · intro node member disabled
      rw [stored node member, if_neg (by simp [disabled])]
    · intro other otherVisits otherSound node member present same
      rw [stored node member,
        (sweepOnce_sound runtime str settings other otherVisits otherSound).2 node present, same]

/-- Of every fleet and whatever its nodes do. -/
def SweepIsolation : Prop :=
  ∀ registry visits, Isolated runtime str settings registry visits
    (sweepOnce runtime str settings registry visits)

def sweepStep (registry : Registry) (visits : String → Visit) : Option Registry :=
  some (sweepOnce runtime str settings registry visits).registry

-- One node whose class rejects what is stored for it keeps every health field as it was.
theorem rejected_starves {node : NodeRow} (member : node ∈ registry.rows)
    (enabled : node.enabled = true)
    (rejected : rejects node.adapterType node.endpoint node.credentials ≠ none)
    {sweeps : List (String → Visit)} {final : Registry}
    (reached : run (sweepStep runtime str settings) registry sweeps = some final) :
    final = registry := by
  refine run_preserves (· = registry) ?_ rfl reached
  rintro _ visits next rfl taken
  obtain ⟨raised, swept⟩ := sweepOnce_unsound runtime str settings _ visits
    fun sound => rejected (sound node member enabled).1
  rw [sweepStep, swept] at taken
  exact (Option.some.inj taken).symm

end Sweeps

section Unbuildable

def unchecked (node : Node) : NodeRow :=
  { node with
    lastCheckedAt := none, lastLatencyMs := none, consecutiveFailures := 0, lastError := none }

-- A node that was registered without credentials, beside one that has them.
def bare : Node := { Actions.hcmc with id := "n2", name := "dn-1", credentials := [] }

def pair : Registry where
  rows := [unchecked Actions.hcmc, unchecked bare]
  unique := by
    unfold Keyed.Unique
    decide

def silent : Visit := ⟨.timedOut, none, ⟨2026, 9, 22, 12, 0, 0, 0, 0⟩⟩

theorem bare_breaks_sweep : ¬ SweepIsolation bareRuntime (fun _ => "") ⟨3⟩ := by
  intro isolation
  have completed := (isolation pair fun _ => silent).completed
  obtain ⟨raised, swept⟩ := sweepOnce_unsound bareRuntime (fun _ => "") ⟨3⟩ pair
    (fun _ => silent) fun sound => by
      cases (sound (unchecked bare) (by simp [pair]) rfl).1
  rw [swept] at completed
  cases completed

end Unbuildable

end Fleet.Health
