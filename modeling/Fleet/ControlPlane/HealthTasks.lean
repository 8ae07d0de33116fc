import Fleet.ControlPlane.HealthRollUp
import Fleet.Shared.Execution
import Fleet.Shared.Journal

set_option autoImplicit false

namespace Fleet.HealthTasks

open Db NodeAdapter ShimResponses Health
open HealthRollUp (Check folded)

-- Which columns a session writes back: all that were assigned, or those that no longer hold what
-- was read.
inductive Flush where
  | assigned
  | changed
  deriving DecidableEq

def Flush.writes {Value : Type} [DecidableEq Value] : Flush → Value → Value → Bool
  | .assigned, _, _ => true
  | .changed, read, new => read ≠ new

def Flush.column {Value : Type} [DecidableEq Value] (flush : Flush) (read new stored : Value) :
    Value :=
  if flush.writes read new then new else stored

structure Checked where
  read : NodeRow
  check : Check

def Checked.key (entry : Checked) : String := entry.read.key

-- A task between two of its awaits.
structure Task where
  checked : List Checked
  pending : List NodeRow

structure State where
  registry : Registry
  tasks : Nat → Option Task
  -- The outcomes committed so far, each with its node.
  journal : List (String × Check)

inductive Label where
  | sweep (task : Nat)
  | check (task : Nat) (nodeId : String)
  -- The probe that the task awaits has ended.
  | probed (task : Nat) (visit : Visit)

def State.start (registry : Registry) : State := ⟨registry, fun _ => none, []⟩

def State.set (state : State) (id : Nat) (task : Option Task) : State :=
  { state with tasks := fun other => if other = id then task else state.tasks other }

section Steps

variable (flush : Flush) (settings : Settings)

def Checked.node (entry : Checked) : NodeRow :=
  fold settings entry.read entry.check.now entry.check.result

def Checked.writeBack (entry : Checked) (stored : NodeRow) : NodeRow :=
  let new := entry.node settings
  { stored with
    lastCheckedAt := flush.column entry.read.lastCheckedAt new.lastCheckedAt stored.lastCheckedAt
    lastLatencyMs := flush.column entry.read.lastLatencyMs new.lastLatencyMs stored.lastLatencyMs
    consecutiveFailures := flush.column entry.read.consecutiveFailures new.consecutiveFailures
      stored.consecutiveFailures
    status := flush.column entry.read.status new.status stored.status
    lastError := flush.column entry.read.lastError new.lastError stored.lastError }

def landed (entries : List Checked) (stored : NodeRow) : NodeRow :=
  match Keyed.lookup Checked.key stored.key entries with
  | some entry => entry.writeBack flush settings stored
  | none => stored

theorem landed_key (entries : List Checked) (stored : NodeRow) :
    (landed flush settings entries stored).key = stored.key := by
  unfold landed
  split <;> rfl

def State.commit (state : State) (entries : List Checked) : State where
  registry := {
    rows := state.registry.rows.map (landed flush settings entries)
    unique := by
      rw [Keyed.Unique, List.map_map]
      refine Eq.mp (congrArg List.Nodup (List.map_congr_left ?_)) state.registry.unique
      exact fun stored _ => (landed_key flush settings entries stored).symm }
  tasks := state.tasks
  journal := state.journal ++ entries.map fun entry => (entry.key, entry.check)

variable {Moment : Type} (runtime : Runtime Moment) (str : PyException → String)

-- The outcome of the probe a task awaits; the row it is folded into is the one that was read.
def resume (state : State) (id : Nat) (visit : Visit) (task : Task) : Option State :=
  match task.pending with
  | [] => none
  | node :: rest =>
      match probe runtime str node.toNode visit with
      -- The session is rolled back and closed.
      | .error _ => some (state.set id none)
      | .ok result =>
          let checked := task.checked ++ [⟨node, ⟨result, visit.now⟩⟩]
          if rest = [] then some ((state.set id none).commit flush settings checked)
          else some (state.set id (some ⟨checked, rest⟩))

/-- What one task does between two awaits. -/
def step (state : State) : Label → Option State
  | .sweep id =>
      match state.tasks id, enabledNodes state.registry with
      | some _, _ => none
      | none, [] => some state
      | none, nodes => some (state.set id (some ⟨[], nodes⟩))
  | .check id nodeId =>
      match state.tasks id, state.registry.node? nodeId with
      | some _, _ => none
      | none, none => some state
      | none, some node => some (state.set id (some ⟨[], [node]⟩))
  | .probed id visit => (state.tasks id).bind (resume flush settings runtime str state id visit)

-- What a task commits when its last probe ends.
def committing (state : State) (id : Nat) (visit : Visit) : Option (List Checked) :=
  (state.tasks id).bind fun task =>
    match task.pending with
    | [node] =>
        match probe runtime str node.toNode visit with
        | .ok result => some (task.checked ++ [⟨node, ⟨result, visit.now⟩⟩])
        | .error _ => none
    | _ => none

end Steps

section Property

def vitals (node : NodeRow) : HealthStatus × Nat := (node.status, node.consecutiveFailures)

/-- Every node stands as if all the outcomes committed for it had been folded one after another, in
some order. -/
def Serial (settings : Settings) (initial : Registry) (state : State) : Prop :=
  ∀ row ∈ state.registry.rows, ∃ first, initial.node? row.id = some first ∧
    ∃ order, order.Perm (Journal.of row.id state.journal) ∧
      vitals row = vitals (folded settings first order)

variable (flush : Flush) {Moment : Type} (runtime : Runtime Moment) (str : PyException → String)

-- The column is written, or need not be.
def Flush.settles {Value : Type} [DecidableEq Value] (read new stored : Value) : Prop :=
  stored = new ∨ flush.writes read new

/-- What is stored is what the task read, or the probe succeeded and the session does not write one
of the two columns over a row that needs both. -/
def Current (entry : Checked) (stored : NodeRow) : Prop :=
  vitals stored = vitals entry.read ∨ entry.check.outcome = .reachable ∧
    (flush.settles entry.read.status .reachable stored.status ∧
        flush.settles entry.read.consecutiveFailures 0 stored.consecutiveFailures ∨
      ¬flush.writes entry.read.status .reachable ∧
        ¬flush.writes entry.read.consecutiveFailures 0)

-- The outcomes a task commits are current for their nodes.
def Undisturbed (state : State) : Label → Prop
  | .probed id visit => ∀ entries, committing runtime str state id visit = some entries →
      ∀ entry ∈ entries, ∀ stored, state.registry.node? entry.key = some stored →
        Current flush entry stored
  | _ => True

end Property

section Vitals

variable {flush : Flush} {settings : Settings}

theorem vitals_fold {node other : NodeRow} (same : vitals node = vitals other) (check : Check) :
    vitals (fold settings node check.now check.result) =
      vitals (fold settings other check.now check.result) := by
  have failures : node.consecutiveFailures = other.consecutiveFailures := congrArg Prod.snd same
  unfold fold
  cases check.result.reachability <;> simp [vitals, failures]

theorem column_self {Value : Type} [DecidableEq Value] (read new : Value) :
    flush.column read new read = new := by
  cases flush with
  | assigned => rfl
  | changed =>
      by_cases moved : read = new <;> simp [Flush.column, Flush.writes, moved]

theorem column_settled {Value : Type} [DecidableEq Value] {read new stored : Value}
    (settled : flush.settles read new stored) : flush.column read new stored = new := by
  unfold Flush.column
  split
  · rfl
  next kept => exact settled.resolve_right kept

theorem eq_of_unwritten {Value : Type} [DecidableEq Value] {read new : Value}
    (unwritten : ¬flush.writes read new) : read = new := by
  cases flush with
  | assigned => exact absurd rfl unwritten
  | changed => simpa [Flush.writes] using unwritten

/-- A commit either counts after all the others, or leaves the row as it is and counts where the task
read it, in a row that a success does not change. -/
theorem vitals_writeBack (settings : Settings) {entry : Checked} {stored : NodeRow}
    (current : Current flush entry stored) :
    vitals (entry.writeBack flush settings stored) =
        vitals (fold settings stored entry.check.now entry.check.result) ∨
      vitals (entry.writeBack flush settings stored) = vitals stored ∧
        vitals (fold settings entry.read entry.check.now entry.check.result) =
          vitals entry.read := by
  rcases current with same | ⟨success, columns⟩
  · left
    rw [vitals_fold same]
    obtain ⟨status, failures⟩ := Prod.mk.inj same
    simp only [vitals, Checked.writeBack, Checked.node, status, failures, column_self]
  · obtain ⟨counted, marked⟩ := HealthRollUp.fold_reachable settings entry.read success
    rcases columns with ⟨status, failures⟩ | ⟨status, failures⟩
    · obtain ⟨zero, reachable⟩ := HealthRollUp.fold_reachable settings stored success
      left
      simp only [vitals, Checked.writeBack, Checked.node, counted, marked, zero, reachable,
        column_settled status, column_settled failures]
    · right
      constructor
      · simp [vitals, Checked.writeBack, Checked.node, counted, marked, Flush.column, status,
          failures]
      · rw [vitals, counted, marked, vitals, eq_of_unwritten status, eq_of_unwritten failures]

theorem vitals_folded {node other : NodeRow} (same : vitals node = vitals other)
    (checks : List Check) :
    vitals (folded settings node checks) = vitals (folded settings other checks) := by
  induction checks generalizing node other with
  | nil => exact same
  | cons check rest ih => exact ih (vitals_fold same check)

theorem folded_append (node : NodeRow) (early late : List Check) :
    folded settings node (early ++ late) = folded settings (folded settings node early) late :=
  List.foldl_append

/-- An outcome that changes nothing where it is read can be counted there. -/
theorem vitals_insert {first : NodeRow} {early : List Check} {check : Check}
    (idle : vitals (folded settings first (early ++ [check])) =
      vitals (folded settings first early)) (late : List Check) :
    vitals (folded settings first (early ++ check :: late)) =
      vitals (folded settings first (early ++ late)) := by
  have split : early ++ check :: late = (early ++ [check]) ++ late := by simp
  rw [split, folded_append, folded_append first early late]
  exact vitals_folded idle late

end Vitals

section Runs

variable {flush : Flush} {settings : Settings} {Moment : Type} {runtime : Runtime Moment}
  {str : PyException → String}

def Task.reads (task : Task) : List NodeRow := task.checked.map Checked.read ++ task.pending

/-- An order of a node's outcomes that explains its row now, and what every task read of it. -/
structure Explains (settings : Settings) (state : State) (first row : NodeRow)
    (order : List Check) : Prop where
  perm : order.Perm (Journal.of row.id state.journal)
  now : vitals row = vitals (folded settings first order)
  earlier : ∀ id task, state.tasks id = some task → ∀ read ∈ task.reads, read.key = row.key →
    ∃ early, early <+: order ∧ vitals read = vitals (folded settings first early)

structure Sound (settings : Settings) (initial : Registry) (state : State) : Prop where
  explained : ∀ row ∈ state.registry.rows, ∃ first, initial.node? row.id = some first ∧
    ∃ order, Explains settings state first row order
  -- No task checks a node twice.
  distinct : ∀ id task, state.tasks id = some task → (task.reads.map NodeRow.key).Nodup

variable {initial : Registry} {state next : State}

theorem start_sound : Sound settings initial (.start initial) where
  explained row member := by
    refine ⟨row, initial.unique.lookup_of_mem member, [], List.Perm.refl _, rfl, ?_⟩
    intro id task running
    cases running
  distinct _ _ running := by cases running

/-- A task may be ended, go on with what it read, or read what is stored. -/
theorem set_sound (sound : Sound settings initial state) {id : Nat} {task : Option Task}
    (distinct : ∀ running, task = some running → (running.reads.map NodeRow.key).Nodup)
    (known : ∀ running, task = some running → ∀ read ∈ running.reads,
      read ∈ state.registry.rows ∨ ∃ before, state.tasks id = some before ∧ read ∈ before.reads) :
    Sound settings initial (state.set id task) where
  explained row member := by
    obtain ⟨first, found, order, explains⟩ := sound.explained row member
    refine ⟨first, found, order, explains.perm, explains.now, ?_⟩
    intro other running taken read reads same
    simp only [State.set] at taken
    split_ifs at taken with here
    · rcases known running taken read reads with stored | ⟨before, ran, reads⟩
      · obtain rfl := state.registry.unique.eq_of_key stored member same
        exact ⟨order, List.prefix_refl _, explains.now⟩
      · exact explains.earlier id before ran read reads same
    · exact explains.earlier other running taken read reads same
  distinct other running taken := by
    simp only [State.set] at taken
    split_ifs at taken
    · exact distinct running taken
    · exact sound.distinct other running taken

-- Where the outcome goes in the order of the others.
theorem explains_commit {first stored : NodeRow} {order : List Check}
    (explains : Explains settings state first stored order) {entry : Checked}
    (current : Current flush entry stored) {entries : List Checked}
    (alone : Journal.of stored.id (entries.map fun entry => (entry.key, entry.check)) =
      [entry.check])
    (read : ∃ early, early <+: order ∧
      vitals entry.read = vitals (folded settings first early)) :
    ∃ order, Explains settings (state.commit flush settings entries) first
      (entry.writeBack flush settings stored) order := by
  have journal : Journal.of stored.id (state.commit flush settings entries).journal =
      Journal.of stored.id state.journal ++ [entry.check] := by
    rw [State.commit, Journal.of_append, alone]
  rcases vitals_writeBack settings current with moved | ⟨kept, idle⟩
  · refine ⟨order ++ [entry.check], ?_, ?_, ?_⟩
    · exact (explains.perm.append_right _).trans (List.Perm.of_eq journal.symm)
    · rw [moved, HealthRollUp.folded_concat]
      exact vitals_fold explains.now entry.check
    · intro id task running other reads same
      obtain ⟨early, within, seen⟩ := explains.earlier id task running other reads same
      exact ⟨early, within.trans (List.prefix_append _ _), seen⟩
  · obtain ⟨early, ⟨late, rfl⟩, seen⟩ := read
    have still : vitals (folded settings first (early ++ [entry.check])) =
        vitals (folded settings first early) := by
      rw [HealthRollUp.folded_concat, ← vitals_fold seen entry.check, idle, seen]
    refine ⟨early ++ entry.check :: late, ?_, ?_, ?_⟩
    · calc List.Perm (early ++ entry.check :: late) ((early ++ late) ++ [entry.check]) := by
            rw [List.append_assoc]
            exact (List.perm_append_singleton entry.check late).symm.append_left early
        List.Perm _ (Journal.of stored.id state.journal ++ [entry.check]) :=
            explains.perm.append_right _
        _ = _ := journal.symm
    · rw [kept, explains.now, vitals_insert still]
    · intro id task running other reads same
      obtain ⟨before, within, saw⟩ := explains.earlier id task running other reads same
      rcases List.prefix_or_prefix_of_prefix within (List.prefix_append early late) with
        shorter | ⟨middle, rfl⟩
      · exact ⟨before, shorter.trans (List.prefix_append _ _), saw⟩
      · refine ⟨early ++ entry.check :: middle, ?_, saw.trans (vitals_insert still middle).symm⟩
        have inside := (List.prefix_append_right_inj early).1 within
        exact (List.prefix_append_right_inj early).2 (List.cons_prefix_cons.2 ⟨rfl, inside⟩)

theorem commit_sound (sound : Sound settings initial state) {entries : List Checked}
    (distinct : (entries.map Checked.key).Nodup)
    (current : ∀ entry ∈ entries, ∀ stored, state.registry.node? entry.key = some stored →
      Current flush entry stored)
    (read : ∀ entry ∈ entries, ∀ first stored order,
      Explains settings state first stored order → entry.key = stored.key →
        ∃ early, early <+: order ∧ vitals entry.read = vitals (folded settings first early)) :
    Sound settings initial (state.commit flush settings entries) where
  explained row member := by
    obtain ⟨stored, present, rfl⟩ := List.mem_map.1 member
    obtain ⟨first, found, order, explains⟩ := sound.explained stored present
    have batch : ((entries.map fun entry => (entry.key, entry.check)).map Prod.fst).Nodup := by
      rw [List.map_map]
      exact distinct
    cases reached : Keyed.lookup Checked.key stored.key entries with
    | none =>
        have untouched : Journal.of stored.id
            (entries.map fun entry => (entry.key, entry.check)) = [] := by
          refine Journal.of_eq_nil fun update inside => ?_
          obtain ⟨entry, landing, rfl⟩ := List.mem_map.1 inside
          exact Keyed.lookup_eq_none.1 reached entry landing
        rw [landed, reached]
        refine ⟨first, found, order, ?_, explains.now, explains.earlier⟩
        rw [State.commit, Journal.of_append, untouched, List.append_nil]
        exact explains.perm
    | some entry =>
        have landing := Keyed.mem_of_lookup reached
        have named : entry.key = stored.key := Keyed.lookup_key reached
        have alone : Journal.of stored.key
            (entries.map fun entry => (entry.key, entry.check)) = [entry.check] := by
          rw [← named]
          exact Journal.of_eq_singleton batch (List.mem_map_of_mem landing)
        have there : state.registry.node? entry.key = some stored := by
          rw [named]
          exact state.registry.unique.lookup_of_mem present
        rw [landed, reached]
        exact ⟨first, found, explains_commit explains (current entry landing stored there) alone
          (read entry landing first stored order explains named)⟩
  distinct := sound.distinct

theorem resume_sound (sound : Sound settings initial state) {id : Nat} {visit : Visit}
    {task : Task} (running : state.tasks id = some task)
    (resumed : resume flush settings runtime str state id visit task = some next)
    (undisturbed : Undisturbed flush runtime str state (.probed id visit)) :
    Sound settings initial next := by
  have distinct := sound.distinct id task running
  unfold resume at resumed
  split at resumed
  · cases resumed
  next node rest pending =>
    split at resumed
    · obtain rfl := Option.some.inj resumed
      exact set_sound sound (by simp) (by simp)
    next result probed =>
      let entry : Checked := ⟨node, ⟨result, visit.now⟩⟩
      have reads : Task.reads ⟨task.checked ++ [entry], rest⟩ = task.reads := by
        simp [Task.reads, pending, entry]
      dsimp only at resumed
      split_ifs at resumed with last
      · obtain rfl := Option.some.inj resumed
        have all : Task.reads ⟨task.checked ++ [entry], rest⟩ =
            (task.checked ++ [entry]).map Checked.read := by simp [Task.reads, last]
        have landed : Sound settings initial
            (state.commit flush settings (task.checked ++ [entry])) := by
          refine commit_sound sound ?_ ?_ ?_
          · rw [← reads, all, List.map_map] at distinct
            exact distinct
          · exact undisturbed _ (by simp [committing, running, pending, last, probed, entry])
          · intro done landing first stored order explains same
            refine explains.earlier id task running done.read ?_ same
            rw [← reads, all]
            exact List.mem_map_of_mem landing
        exact set_sound landed (by simp) (by simp)
      · obtain rfl := Option.some.inj resumed
        refine set_sound sound ?_ ?_
        · rintro _ ⟨rfl⟩
          rw [reads]
          exact distinct
        · rintro _ ⟨rfl⟩ read member
          rw [reads] at member
          exact .inr ⟨task, running, member⟩

theorem step_sound (sound : Sound settings initial state) {label : Label}
    (undisturbed : Undisturbed flush runtime str state label)
    (taken : step flush settings runtime str state label = some next) :
    Sound settings initial next := by
  cases label with
  | sweep id =>
      rw [step] at taken
      split at taken
      · cases taken
      · obtain rfl := Option.some.inj taken
        exact sound
      · obtain rfl := Option.some.inj taken
        refine set_sound sound ?_ ?_
        · rintro _ ⟨rfl⟩
          exact (List.filter_sublist.map NodeRow.key).nodup state.registry.unique
        · rintro _ ⟨rfl⟩ read member
          exact .inl (List.mem_of_mem_filter member)
  | check id nodeId =>
      rw [step] at taken
      split at taken
      · cases taken
      · obtain rfl := Option.some.inj taken
        exact sound
      next node _ found =>
        obtain rfl := Option.some.inj taken
        refine set_sound sound ?_ ?_
        · rintro _ ⟨rfl⟩
          simp [Task.reads]
        · rintro _ ⟨rfl⟩ read member
          obtain rfl := List.mem_singleton.1 member
          exact .inl (Keyed.mem_of_lookup found)
  | probed id visit =>
      obtain ⟨task, running, resumed⟩ := Option.bind_eq_some_iff.1 taken
      exact resume_sound sound running resumed undisturbed

theorem checks_serial (flush : Flush) (settings : Settings) {Moment : Type}
    (runtime : Runtime Moment) (str : PyException → String) (initial : Registry)
    (labels : List Label) (final : State)
    (undisturbed : Execution.Along (Undisturbed flush runtime str)
      (step flush settings runtime str) (.start initial) labels)
    (reached : Execution.run (step flush settings runtime str) (.start initial) labels =
      some final) : Serial settings initial final := by
  have sound : Sound settings initial final :=
    Execution.run_invariant (Sound settings initial)
      (fun _ _ _ sound undisturbed taken => step_sound sound undisturbed taken) start_sound
      undisturbed reached
  intro row member
  obtain ⟨first, found, order, explains⟩ := sound.explained row member
  exact ⟨first, found, order, explains.perm, explains.now⟩

end Runs

section Overlap

def lone : Registry := ⟨[unchecked Actions.hcmc], by simp [Keyed.Unique]⟩

def stepped (flush : Flush) : State → Label → Option State :=
  step flush ⟨3⟩ bareRuntime fun _ => ""

def answered : Visit :=
  ⟨.exchanged (.response { status := 200, content := .empty }), none, silent.now⟩

-- A sweep that finds the node well overlaps a check that does not, and commits after it.
def overtaken : List Label :=
  [.check 0 Actions.hcmc.id, .probed 0 answered, .sweep 1, .check 2 Actions.hcmc.id,
    .probed 2 silent, .probed 1 answered]

theorem overtaken_undisturbed : Execution.Along
    (Undisturbed .changed bareRuntime fun _ => "") (stepped .changed) (.start lone) overtaken := by
  refine ⟨trivial, ?_, trivial, trivial, ?_, ?_, trivial⟩ <;> intro entries same <;>
    obtain rfl := Option.some.inj same <;> intro entry member stored found <;>
    obtain rfl := List.mem_singleton.1 member <;> obtain rfl := Option.some.inj found
  · exact .inl rfl
  · exact .inl rfl
  · exact .inr ⟨rfl, .inr ⟨by decide, by decide⟩⟩

theorem overtaken_serial : ∃ final,
    Execution.run (stepped .changed) (.start lone) overtaken = some final ∧
      Serial ⟨3⟩ lone final :=
  ⟨_, rfl, checks_serial .changed ⟨3⟩ bareRuntime (fun _ => "") lone overtaken _
    overtaken_undisturbed rfl⟩

def overlapping : List Label :=
  [.sweep 0, .check 1 Actions.hcmc.id, .probed 1 silent, .probed 0 silent]

def Lost (flush : Flush) : Prop :=
  ∃ final, Execution.run (stepped flush) (.start lone) overlapping = some final ∧
    (∀ id, final.tasks id = none) ∧ ¬Serial ⟨3⟩ lone final

-- Two failures leave a count of two in whatever order they come.
theorem lost_of_overlap (flush : Flush) : Lost flush := by
  cases flush <;> refine ⟨_, rfl, fun id => ?_, fun serial => ?_⟩
  case assigned.refine_1 | changed.refine_1 =>
    simp only [State.commit, State.set, State.start]
    split_ifs <;> rfl
  case assigned.refine_2 | changed.refine_2 =>
    obtain ⟨first, found, order, perm, same⟩ := serial _ (List.mem_singleton.2 rfl)
    obtain rfl := Option.some.inj found
    obtain rfl : order = List.replicate 2 HealthRollUp.blip := List.perm_replicate.1 perm
    exact absurd same (by decide)

theorem overlap_loses : Lost .assigned ∧ Lost .changed :=
  ⟨lost_of_overlap .assigned, lost_of_overlap .changed⟩

end Overlap

end Fleet.HealthTasks
