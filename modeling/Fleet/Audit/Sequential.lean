import Fleet.Audit.Log
import Fleet.Shared.Execution
import Fleet.Shared.Sha256

set_option autoImplicit false

namespace Fleet.AuditSequential

open AuditLog Execution

variable {Tables : Type}

-- What a session sees: the audit table and every other one.
structure Snapshot (Tables : Type) where
  audit : List AuditEntry
  tables : Tables

structure State (Tables : Type) where
  committed : Snapshot Tables
  current : Snapshot Tables

/-- What a request does in its session. One transaction ends, and the next begins, with `commit` or
`rollback`. -/
inductive Event (Tables : Type) where
  | append (seq : Nat) (ts : Datetime) (fields : Fields)
  | write (change : Tables → Tables)
  | commit
  | rollback

def fresh (tables : Tables) : State Tables where
  committed := ⟨[], tables⟩
  current := ⟨[], tables⟩

section Hashing

variable (sha256 : ByteArray → String)

def append (state : State Tables) (seq : Nat) (ts : Datetime) (fields : Fields) : State Tables :=
  let prev := headHash state.current.audit
  { state with current.audit := state.current.audit ++ [newEntry sha256 prev seq ts fields] }

-- The database numbers a row above all rows it still holds; nothing is asked of the numbers that a
-- rollback gave up.
def step (state : State Tables) : Event Tables → Option (State Tables)
  | .append seq ts fields =>
      if ∀ row ∈ state.current.audit, row.seq < seq then some (append sha256 state seq ts fields)
      else none
  | .write change => some { state with current.tables := change state.current.tables }
  | .commit => some { state with committed := state.current }
  | .rollback => some { state with current := state.committed }

structure Sound (state : State Tables) : Prop where
  within : state.committed.audit <+: state.current.audit
  chained : ∃ next, WellChained sha256 next state.current.audit

theorem sound_fresh (tables : Tables) : Sound sha256 (fresh tables) where
  within := List.prefix_refl []
  chained := ⟨0, wellChained_nil sha256 0⟩

variable {sha256}

theorem Sound.committed_chained {state : State Tables} (sound : Sound sha256 state) :
    ∃ next, WellChained sha256 next state.committed.audit := by
  obtain ⟨next, well⟩ := sound.chained
  exact ⟨next, well.of_prefix sound.within⟩

theorem step_append_inv {state next : State Tables} {seq : Nat} {ts : Datetime} {fields : Fields}
    (taken : step sha256 state (.append seq ts fields) = some next) :
    (∀ row ∈ state.current.audit, row.seq < seq) ∧ next = append sha256 state seq ts fields := by
  simp only [step] at taken
  split at taken
  next above => exact ⟨above, (Option.some.inj taken).symm⟩
  next => cases taken

theorem Sound.append {state : State Tables} (sound : Sound sha256 state) {seq : Nat}
    (above : ∀ row ∈ state.current.audit, row.seq < seq) (ts : Datetime) (fields : Fields) :
    Sound sha256 (AuditSequential.append sha256 state seq ts fields) where
  within := sound.within.trans (List.prefix_append _ _)
  chained := by
    obtain ⟨_, well⟩ := sound.chained
    have numbered : WellChained sha256 seq state.current.audit := { well with numbered := above }
    have appended := numbered.append ts fields
    rw [← numbered.headHash] at appended
    exact ⟨seq + 1, appended⟩

theorem step_sound (state : State Tables) (event : Event Tables) (next : State Tables)
    (sound : Sound sha256 state) (taken : step sha256 state event = some next) :
    Sound sha256 next := by
  cases event with
  | append seq ts fields =>
      obtain ⟨above, rfl⟩ := step_append_inv taken
      exact sound.append above ts fields
  | write change =>
      cases taken
      exact ⟨sound.within, sound.chained⟩
  | commit =>
      cases taken
      exact ⟨List.prefix_refl _, sound.chained⟩
  | rollback =>
      cases taken
      exact ⟨List.prefix_refl _, sound.committed_chained⟩

theorem step_committed_extends (state : State Tables) (event : Event Tables)
    (next : State Tables) (sound : Sound sha256 state)
    (taken : step sha256 state event = some next) :
    state.committed.audit <+: next.committed.audit := by
  cases event with
  | append seq ts fields =>
      obtain ⟨_, rfl⟩ := step_append_inv taken
      exact List.prefix_refl _
  | write change =>
      cases taken
      exact List.prefix_refl _
  | commit =>
      cases taken
      exact sound.within
  | rollback =>
      cases taken
      exact List.prefix_refl _

theorem run_sound {state final : State Tables} {events : List (Event Tables)}
    (sound : Sound sha256 state) (reached : run (step sha256) state events = some final) :
    Sound sha256 final :=
  run_preserves (Sound sha256) step_sound sound reached

theorem run_committed_extends {state final : State Tables} {events : List (Event Tables)}
    (sound : Sound sha256 state) (reached : run (step sha256) state events = some final) :
    state.committed.audit <+: final.committed.audit :=
  run_extends (Sound sha256) step_sound
    (fun state next => state.committed.audit <+: next.committed.audit)
    (fun _ => List.prefix_refl _) (fun _ _ _ => List.IsPrefix.trans) step_committed_extends
    sound reached

end Hashing

theorem verifyChain_sequential (sha256 : ByteArray → String) (tables : Tables)
    (earlier later : List (Event Tables)) (middle final : State Tables)
    (first : run (step sha256) (fresh tables) earlier = some middle)
    (second : run (step sha256) middle later = some final) :
    verifyChain sha256 middle.committed.audit =
        { ok := true, count := middle.committed.audit.length } ∧
      middle.committed.audit <+: final.committed.audit := by
  have sound := run_sound (sound_fresh sha256 tables) first
  obtain ⟨_, well⟩ := sound.committed_chained
  exact ⟨well.verifyChain_status, run_committed_extends sound second⟩

section Schedules

def noon : Datetime := ⟨2026, 9, 22, 12, 0, 0, 0, 0⟩

def bulkRow (result : String) (detail : Option String) : Fields :=
  { actor := "admin", action := "bulk_delete", result := result, nodeId := some "n1",
    nodeName := some "hcmc-1", targetType := some "user", targetId := some "usr-3",
    detail := detail }

-- The second request is rolled back; its numbers 2 and 3 are never seen again.
def oneRolledBack : List (Event Unit) := [
  .append 1 noon (bulkRow "success" none), .commit,
  .append 2 noon (bulkRow "failure" (some "user not found")),
  .append 3 noon (bulkRow "success" none), .rollback]

def thenTwoRows : List (Event Unit) := [
  .append 4 noon (bulkRow "success" none), .write id,
  .append 5 noon (bulkRow "failure" (some "user not found")), .commit]

set_option maxRecDepth 20000 in
theorem verifyChain_after_rollback :
    ∃ middle final,
      run (step Sha256.hexdigest) (fresh ()) oneRolledBack = some middle ∧
        run (step Sha256.hexdigest) middle thenTwoRows = some final ∧
        final.committed.audit.map AuditEntry.seq = [1, 4, 5] ∧
        verifyChain Sha256.hexdigest middle.committed.audit = { ok := true, count := 1 } ∧
        middle.committed.audit <+: final.committed.audit := by
  refine ⟨_, _, rfl, rfl, by decide +kernel, ?_⟩
  exact verifyChain_sequential Sha256.hexdigest () oneRolledBack thenTwoRows _ _ rfl rfl

end Schedules

end Fleet.AuditSequential
