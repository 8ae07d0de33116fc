import Mathlib.Logic.Function.Basic
import Fleet.Audit.Log
import Fleet.Shared.Execution
import Fleet.Shared.Sha256

set_option autoImplicit false

namespace Fleet.AuditConcurrency

open AuditLog Execution HashChain

structure Transaction where
  rows : List AuditEntry := []
  -- The hash an append has read and not yet used.
  head : Option String := none
  -- How many rows were committed when the first append of the transaction read its head.
  base : Option Nat := none
  finished : Bool := false

structure State where
  committed : List AuditEntry
  nextSeq : Nat
  transactions : Nat → Transaction

inductive Action where
  | readHead
  | insert (ts : Datetime) (fields : Fields)
  | commit
  | rollback

def initial : State :=
  { committed := [], nextSeq := 1, transactions := fun _ => {} }

def State.set (state : State) (t : Nat) (transaction : Transaction) : State :=
  { state with transactions := Function.update state.transactions t transaction }

-- READ COMMITTED: an append sees what is committed by now and its own flushed rows.
def State.readHead (state : State) (t : Nat) : State :=
  let own := state.transactions t
  state.set t
    { own with
      head := some (headHash (state.committed ++ own.rows))
      base := some (own.base.getD state.committed.length) }

def State.commit (state : State) (t : Nat) : State :=
  let own := state.transactions t
  { state.set t { own with rows := [], finished := true } with
    committed := state.committed ++ own.rows }

def State.rollback (state : State) (t : Nat) : State :=
  state.set t { state.transactions t with rows := [], head := none, finished := true }

section Steps

variable (sha256 : ByteArray → String)

def State.insert (state : State) (t : Nat) (prev : String) (ts : Datetime) (fields : Fields) :
    State :=
  let own := state.transactions t
  { state.set t
      { own with
        rows := own.rows ++ [newEntry sha256 prev state.nextSeq ts fields]
        head := none } with
    nextSeq := state.nextSeq + 1 }

def step (state : State) (label : Nat × Action) : Option State :=
  let own := state.transactions label.1
  if own.finished then none
  else
    match label.2, own.head with
    | .readHead, none => some (state.readHead label.1)
    | .insert ts fields, some prev => some (state.insert sha256 label.1 prev ts fields)
    | .commit, none => some (state.commit label.1)
    | .rollback, _ => some (state.rollback label.1)
    | _, _ => none

def AllFinished (state : State) : Prop :=
  ∀ t, (state.transactions t).finished = true ∨
    (state.transactions t).rows = [] ∧ (state.transactions t).head = none

def AppendsVerify : Prop :=
  ∀ labels final, run (step sha256) initial labels = some final → AllFinished final →
    (verifyChain sha256 final.committed).ok = true

/-- No other transaction committed audit rows since this one first read a head. -/
def Unraced (state : State) (label : Nat × Action) : Prop :=
  match label.2 with
  | .commit =>
      (state.transactions label.1).rows ≠ [] →
        (state.transactions label.1).base = some state.committed.length
  | _ => True

-- While nobody commits past it, what a transaction sees is the log it will leave behind.
structure Extends (state : State) (own : Transaction) : Prop where
  well : WellChained sha256 state.nextSeq (state.committed ++ own.rows)
  head : ∀ prev ∈ own.head,
    prev = tip AuditEntry.entryHash genesisHash (state.committed ++ own.rows)

structure Serial (state : State) : Prop where
  well : WellChained sha256 state.nextSeq state.committed
  fresh : ∀ t, (state.transactions t).base = none →
    (state.transactions t).rows = [] ∧ (state.transactions t).head = none
  bounded : ∀ t, ∀ base ∈ (state.transactions t).base, base ≤ state.committed.length
  pending : ∀ t, (state.transactions t).finished = false →
    (state.transactions t).base = some state.committed.length →
      Extends sha256 state (state.transactions t)

theorem initial_serial : Serial sha256 initial where
  well := wellChained_nil sha256 1
  fresh := by simp [initial]
  bounded := by simp [initial]
  pending := by simp [initial]

variable {sha256}

theorem step_cases {state next : State} {t : Nat} {action : Action}
    (taken : step sha256 state (t, action) = some next) :
    (state.transactions t).finished = false ∧
      ((action = .readHead ∧ (state.transactions t).head = none ∧ next = state.readHead t) ∨
        (∃ ts fields prev, action = .insert ts fields ∧
          (state.transactions t).head = some prev ∧ next = state.insert sha256 t prev ts fields) ∨
        (action = .commit ∧ (state.transactions t).head = none ∧ next = state.commit t) ∨
        (action = .rollback ∧ next = state.rollback t)) := by
  cases done : (state.transactions t).finished with
  | true => simp [step, done] at taken
  | false =>
      refine ⟨rfl, ?_⟩
      cases read : (state.transactions t).head <;> cases action <;>
        simp only [step, done, read, Bool.false_eq_true, if_false, Option.some.injEq,
          reduceCtorEq] at taken
      all_goals
        subst taken
        simp

-- A step touches one transaction and only ever adds committed rows.
theorem Serial.of_update {state next : State} (serial : Serial sha256 state) {t : Nat}
    {own : Transaction}
    (touched : next.transactions = Function.update state.transactions t own)
    (well : WellChained sha256 next.nextSeq next.committed)
    (grows : state.committed.length ≤ next.committed.length)
    (fresh : own.base = none → own.rows = [] ∧ own.head = none)
    (bounded : ∀ base ∈ own.base, base ≤ next.committed.length)
    (mine : own.finished = false → own.base = some next.committed.length → Extends sha256 next own)
    (others : ∀ u, (state.transactions u).finished = false →
      (state.transactions u).base = some next.committed.length →
        Extends sha256 next (state.transactions u)) : Serial sha256 next := by
  refine ⟨well, fun u => ?_, fun u => ?_, fun u => ?_⟩ <;> rw [touched] <;> by_cases same : u = t
  · subst u
    simpa using fresh
  · simpa [Function.update_of_ne same] using serial.fresh u
  · subst u
    simpa using bounded
  · intro base found
    rw [Function.update_of_ne same] at found
    exact (serial.bounded u base found).trans grows
  · subst u
    simpa using mine
  · simpa [Function.update_of_ne same] using others u

theorem Serial.readHead {state : State} (serial : Serial sha256 state) (t : Nat) :
    Serial sha256 (state.readHead t) := by
  refine serial.of_update rfl serial.well (Nat.le_refl _) nofun ?_ ?_ ?_
  · rintro base found
    obtain rfl := Option.some.inj found
    cases read : (state.transactions t).base with
    | none => exact Nat.le_refl _
    | some base => exact serial.bounded t base read
  · -- With nobody committed past it, the head read is the tip of the log the transaction extends.
    intro running current
    have well : WellChained sha256 state.nextSeq
        (state.committed ++ (state.transactions t).rows) := by
      cases found : (state.transactions t).base with
      | none => simpa [(serial.fresh t found).1] using serial.well
      | some base =>
          rw [found] at current
          exact (serial.pending t running (found.trans current)).well
    exact ⟨well, by simpa [State.readHead, State.set] using well.headHash⟩
  · intro u running current
    exact ⟨(serial.pending u running current).well, (serial.pending u running current).head⟩

theorem Serial.insert {state : State} (serial : Serial sha256 state) {t : Nat} {prev : String}
    (read : (state.transactions t).head = some prev) (ts : Datetime) (fields : Fields) :
    Serial sha256 (state.insert sha256 t prev ts fields) := by
  refine serial.of_update rfl (serial.well.later (Nat.le_succ _)) (Nat.le_refl _) ?_
    (serial.bounded t) ?_ ?_
  · intro unread
    simp [(serial.fresh t unread).2] at read
  · intro running current
    have extended := serial.pending t running current
    obtain rfl := extended.head prev (by simp [read])
    exact ⟨by simpa [State.insert, State.set] using extended.well.append ts fields, by simp⟩
  · intro u running current
    have extended := serial.pending u running current
    exact ⟨extended.well.later (Nat.le_succ _), extended.head⟩

theorem Serial.commit {state : State} (serial : Serial sha256 state) {t : Nat}
    (running : (state.transactions t).finished = false)
    (unraced : Unraced state (t, .commit)) : Serial sha256 (state.commit t) := by
  have grows : state.committed.length ≤
      (state.committed ++ (state.transactions t).rows).length := by simp
  have well : WellChained sha256 state.nextSeq
      (state.committed ++ (state.transactions t).rows) := by
    by_cases wrote : (state.transactions t).rows = []
    · simpa [wrote] using serial.well
    · exact (serial.pending t running (unraced wrote)).well
  refine serial.of_update rfl well grows (fun unread => ⟨rfl, (serial.fresh t unread).2⟩)
    (fun base found => (serial.bounded t base found).trans grows) nofun ?_
  intro u alive current
  by_cases wrote : (state.transactions t).rows = []
  · -- A transaction without rows leaves the log, and so everybody's view of it, as it was.
    simp only [State.commit, State.set, wrote, List.append_nil] at current ⊢
    have extended := serial.pending u alive current
    exact ⟨extended.well, extended.head⟩
  · -- Everybody else's base is now stale, so nothing is claimed of what they see.
    have bound := serial.bounded u _ current
    have rows := List.length_pos_of_ne_nil wrote
    simp only [State.commit, List.length_append] at bound
    omega

theorem Serial.rollback {state : State} (serial : Serial sha256 state) (t : Nat) :
    Serial sha256 (state.rollback t) := by
  refine serial.of_update rfl serial.well (Nat.le_refl _)
    (fun unread => ⟨rfl, rfl⟩) (serial.bounded t) nofun ?_
  intro u running current
  exact ⟨(serial.pending u running current).well, (serial.pending u running current).head⟩

theorem serial_step (state : State) (label : Nat × Action) (next : State)
    (serial : Serial sha256 state) (unraced : Unraced state label)
    (taken : step sha256 state label = some next) : Serial sha256 next := by
  obtain ⟨t, action⟩ := label
  obtain ⟨running, ⟨rfl, -, rfl⟩ | ⟨ts, fields, prev, rfl, read, rfl⟩ | ⟨rfl, -, rfl⟩ | ⟨rfl, rfl⟩⟩ :=
    step_cases taken
  · exact serial.readHead t
  · exact serial.insert read ts fields
  · exact serial.commit running unraced
  · exact serial.rollback t

theorem verifyChain_of_unraced (labels : List (Nat × Action)) (final : State)
    (unraced : Along Unraced (step sha256) initial labels)
    (reached : run (step sha256) initial labels = some final) :
    (verifyChain sha256 final.committed).ok = true :=
  (run_invariant (Serial sha256) serial_step (initial_serial sha256) unraced reached).well.verifyChain_eq

end Steps

section Schedules

def noon : Datetime := ⟨2026, 9, 22, 12, 0, 0, 0, 0⟩

def rowCreated (name userId : String) : Fields :=
  { actor := "admin", action := "create_user", result := "success", nodeId := some "n1",
    nodeName := some "hcmc-1", targetType := some "user", targetId := some userId,
    params := some [("org_id", .str "org-1"), ("name", .str name), ("bulk", .bool true)] }

def loginRefused : Fields :=
  { actor := "mallory", action := "login", result := "failure", targetType := some "principal",
    detail := some "invalid credentials" }

instance : (state : State) → (label : Nat × Action) → Decidable (Unraced state label)
  | state, (t, .commit) =>
      inferInstanceAs (Decidable ((state.transactions t).rows ≠ [] →
        (state.transactions t).base = some state.committed.length))
  | _, (_, .readHead) => .isTrue trivial
  | _, (_, .insert _ _) => .isTrue trivial
  | _, (_, .rollback) => .isTrue trivial

-- A bulk request is suspended between its two rows; a refused login is recorded meanwhile.
def bulkOverLogin : List (Nat × Action) := [
  (0, .readHead), (0, .insert noon (rowCreated "carol" "usr-3")),
  (1, .readHead), (1, .insert noon loginRefused), (1, .commit),
  (0, .readHead), (0, .insert noon (rowCreated "dave" "usr-4")), (0, .commit)]

set_option maxRecDepth 20000 in
theorem bulkOverLogin_status :
    (run (step Sha256.hexdigest) initial bulkOverLogin).map
        (fun final => verifyChain Sha256.hexdigest final.committed) =
      some { ok := false, count := 3, brokenAt := some 2, detail := some "prev_hash mismatch" } := by
  decide +kernel

theorem bulkOverLogin_breaks : ¬ AppendsVerify Sha256.hexdigest := by
  intro verify
  obtain ⟨final, reached, status⟩ := Option.map_eq_some_iff.1 bulkOverLogin_status
  have finished : AllFinished final := by
    have shape := Option.some.inj reached
    subst shape
    rintro (_ | _ | t)
    · exact .inl rfl
    · exact .inl rfl
    · exact .inr ⟨rfl, rfl⟩
  have ok := verify bulkOverLogin final reached finished
  rw [status] at ok
  cases ok

-- The same two requests, the refused login rolled back before the bulk request commits.
def bulkOverRollback : List (Nat × Action) := [
  (0, .readHead), (0, .insert noon (rowCreated "carol" "usr-3")),
  (1, .readHead), (1, .insert noon loginRefused),
  (0, .readHead), (0, .insert noon (rowCreated "dave" "usr-4")), (1, .rollback), (0, .commit)]

set_option maxRecDepth 20000 in
theorem bulkOverRollback_verifies :
    ∃ final, run (step Sha256.hexdigest) initial bulkOverRollback = some final ∧
      final.committed.length = 2 ∧ (verifyChain Sha256.hexdigest final.committed).ok = true := by
  refine ⟨_, rfl, by decide +kernel, ?_⟩
  exact verifyChain_of_unraced bulkOverRollback _ (by decide +kernel) rfl

end Schedules

end Fleet.AuditConcurrency
