import Mathlib.Data.List.Induction
import Fleet.Shared.Datetime
import Fleet.Shared.HashChain
import Fleet.Shared.Json

set_option autoImplicit false

namespace Fleet.AuditLog

open HashChain

def genesisHash : String := String.ofList (List.replicate 64 '0')

structure AuditEntry where
  seq : Nat
  ts : Datetime
  actor : String
  action : String
  nodeId : Option String
  nodeName : Option String
  targetType : Option String
  targetId : Option String
  result : String
  detail : Option String
  params : String
  prevHash : String
  entryHash : String
  requestId : Option String
  deriving DecidableEq

-- The keyword arguments of `append`.
structure Fields where
  actor : String
  action : String
  result : String
  nodeId : Option String := none
  nodeName : Option String := none
  targetType : Option String := none
  targetId : Option String := none
  detail : Option String := none
  params : Option (List (String × Json)) := none
  requestId : Option String := none

def canonical (entry : AuditEntry) : String :=
  Json.dumps .compact <| .obj [
    ("ts", .str entry.ts.isoformat),
    ("actor", .str entry.actor),
    ("action", .str entry.action),
    ("node_id", .ofOption entry.nodeId),
    ("node_name", .ofOption entry.nodeName),
    ("target_type", .ofOption entry.targetType),
    ("target_id", .ofOption entry.targetId),
    ("result", .str entry.result),
    ("detail", .ofOption entry.detail),
    ("params", .str entry.params),
    ("request_id", .ofOption entry.requestId)]

section Hashing

-- `hashlib.sha256(..).hexdigest()`; nothing below depends on which digest it is.
variable (sha256 : ByteArray → String)

def hash (prevHash : String) (entry : AuditEntry) : String :=
  sha256 (prevHash ++ canonical entry).toUTF8

def orderBySeq (rows : List AuditEntry) : List AuditEntry :=
  rows.insertionSort fun a b => a.seq ≤ b.seq

def orderBySeqDesc (rows : List AuditEntry) : List AuditEntry :=
  rows.insertionSort fun a b => b.seq ≤ a.seq

def headHash (visible : List AuditEntry) : String :=
  match (orderBySeqDesc visible).head? with
  | some last => last.entryHash
  | none => genesisHash

def newEntry (prev : String) (seq : Nat) (ts : Datetime) (fields : Fields) : AuditEntry :=
  let entry : AuditEntry :=
    { seq := seq
      ts := ts
      actor := fields.actor
      action := fields.action
      nodeId := fields.nodeId
      nodeName := fields.nodeName
      targetType := fields.targetType
      targetId := fields.targetId
      result := fields.result
      detail := fields.detail
      params := Json.dumps .compact (.obj (fields.params.getD []))
      prevHash := prev
      entryHash := ""
      requestId := fields.requestId }
  { entry with entryHash := hash sha256 prev entry }

structure ChainStatus where
  ok : Bool
  count : Nat
  brokenAt : Option Nat := none
  detail : Option String := none
  deriving DecidableEq

def verifyFrom (count : Nat) : String → List AuditEntry → ChainStatus
  | _, [] => { ok := true, count := count }
  | prev, entry :: rest =>
      if entry.prevHash ≠ prev then
        { ok := false, count := count, brokenAt := some entry.seq,
          detail := some "prev_hash mismatch" }
      else if hash sha256 prev entry ≠ entry.entryHash then
        { ok := false, count := count, brokenAt := some entry.seq,
          detail := some "entry_hash mismatch (row tampered)" }
      else verifyFrom count entry.entryHash rest

def verifyChain (table : List AuditEntry) : ChainStatus :=
  let entries := orderBySeq table
  verifyFrom sha256 entries.length genesisHash entries

def Intact (entry : AuditEntry) : Prop :=
  hash sha256 entry.prevHash entry = entry.entryHash

@[simp]
theorem newEntry_seq (prev : String) (seq : Nat) (ts : Datetime) (fields : Fields) :
    (newEntry sha256 prev seq ts fields).seq = seq := rfl

@[simp]
theorem newEntry_prevHash (prev : String) (seq : Nat) (ts : Datetime) (fields : Fields) :
    (newEntry sha256 prev seq ts fields).prevHash = prev := rfl

theorem newEntry_intact (prev : String) (seq : Nat) (ts : Datetime) (fields : Fields) :
    Intact sha256 (newEntry sha256 prev seq ts fields) := rfl

theorem verifyFrom_ok_iff (count : Nat) (prev : String) (rows : List AuditEntry) :
    (verifyFrom sha256 count prev rows).ok = true ↔
      Chained AuditEntry.prevHash AuditEntry.entryHash prev rows ∧
        ∀ entry ∈ rows, Intact sha256 entry := by
  induction rows generalizing prev with
  | nil => simp [verifyFrom, Chained]
  | cons entry rest ih =>
      by_cases linked : entry.prevHash = prev
      · by_cases whole : hash sha256 prev entry = entry.entryHash
        · simp [verifyFrom, Chained, Intact, linked, whole, ih]
        · simp [verifyFrom, Chained, Intact, linked, whole]
      · simp [verifyFrom, Chained, linked]

theorem verifyFrom_eq_of_ok (count : Nat) (prev : String) (rows : List AuditEntry)
    (ok : (verifyFrom sha256 count prev rows).ok = true) :
    verifyFrom sha256 count prev rows = { ok := true, count := count } := by
  induction rows generalizing prev with
  | nil => rfl
  | cons entry rest ih =>
      simp only [verifyFrom] at ok ⊢
      split at ok
      next => cases ok
      next linked =>
        split at ok
        next => cases ok
        next whole =>
          rw [if_neg linked, if_neg whole]
          exact ih entry.entryHash ok

def Increasing (rows : List AuditEntry) : Prop :=
  rows.Pairwise fun a b => a.seq < b.seq

theorem orderBySeq_of_increasing {rows : List AuditEntry} (increasing : Increasing rows) :
    orderBySeq rows = rows :=
  List.Pairwise.insertionSort_eq (increasing.imp fun less => Nat.le_of_lt less)

theorem headHash_of_increasing {rows : List AuditEntry} (increasing : Increasing rows) :
    headHash rows = tip AuditEntry.entryHash genesisHash rows := by
  induction rows using List.reverseRec with
  | nil => rfl
  | append_singleton init last _ =>
      have permuted : (orderBySeqDesc (init ++ [last])).Perm (init ++ [last]) :=
        List.perm_insertionSort _ _
      have sorted : (orderBySeqDesc (init ++ [last])).Pairwise fun a b => b.seq ≤ a.seq :=
        List.pairwise_insertionSort _ _
      rw [headHash, tip_concat]
      cases found : orderBySeqDesc (init ++ [last]) with
      | nil => simp [found] at permuted
      | cons first others =>
          rw [found] at permuted sorted
          have lastBounded : last.seq ≤ first.seq := by
            rcases List.mem_cons.1 (permuted.mem_iff.2 (by simp : last ∈ init ++ [last])) with
              same | later
            · rw [same]
            · exact List.rel_of_pairwise_cons sorted later
          have firstIn : first ∈ init ++ [last] := permuted.mem_iff.1 (by simp)
          rcases List.mem_append.1 firstIn with early | final
          · have less := (List.pairwise_append.1 increasing).2.2 first early last (by simp)
            omega
          · simp [List.mem_singleton.1 final]

/-- A log as a run of `append` alone leaves it: numbered upwards below `next`, linked, intact. -/
structure WellChained (next : Nat) (rows : List AuditEntry) : Prop where
  increasing : Increasing rows
  numbered : ∀ entry ∈ rows, entry.seq < next
  chained : Chained AuditEntry.prevHash AuditEntry.entryHash genesisHash rows
  intact : ∀ entry ∈ rows, Intact sha256 entry

theorem wellChained_nil (next : Nat) : WellChained sha256 next [] where
  increasing := List.Pairwise.nil
  numbered := by simp
  chained := trivial
  intact := by simp

variable {sha256}

theorem WellChained.headHash {next : Nat} {rows : List AuditEntry}
    (well : WellChained sha256 next rows) :
    headHash rows = tip AuditEntry.entryHash genesisHash rows :=
  headHash_of_increasing well.increasing

theorem WellChained.later {next future : Nat} {rows : List AuditEntry}
    (well : WellChained sha256 next rows) (bound : next ≤ future) :
    WellChained sha256 future rows :=
  { well with numbered := fun entry member => Nat.lt_of_lt_of_le (well.numbered entry member) bound }

theorem WellChained.append {next : Nat} {rows : List AuditEntry}
    (well : WellChained sha256 next rows) (ts : Datetime) (fields : Fields) :
    WellChained sha256 (next + 1)
      (rows ++ [newEntry sha256 (tip AuditEntry.entryHash genesisHash rows) next ts fields]) where
  increasing := by
    refine List.pairwise_append.2 ⟨well.increasing, by simp, ?_⟩
    intro entry member other last
    rw [List.mem_singleton.1 last]
    exact well.numbered entry member
  numbered := by
    intro entry member
    rcases List.mem_append.1 member with early | last
    · exact Nat.lt_succ_of_lt (well.numbered entry early)
    · simp [List.mem_singleton.1 last]
  chained := (chained_concat _ _ _ _ _).2 ⟨well.chained, rfl⟩
  intact := by
    intro entry member
    rcases List.mem_append.1 member with early | last
    · exact well.intact entry early
    · rw [List.mem_singleton.1 last]
      exact newEntry_intact sha256 _ _ _ _

theorem WellChained.verifyChain_eq {next : Nat} {rows : List AuditEntry}
    (well : WellChained sha256 next rows) :
    (verifyChain sha256 rows).ok = true := by
  rw [verifyChain, orderBySeq_of_increasing well.increasing, verifyFrom_ok_iff]
  exact ⟨well.chained, well.intact⟩

theorem WellChained.verifyChain_status {next : Nat} {rows : List AuditEntry}
    (well : WellChained sha256 next rows) :
    verifyChain sha256 rows = { ok := true, count := rows.length } := by
  have ok := well.verifyChain_eq
  rw [verifyChain] at ok ⊢
  rw [verifyFrom_eq_of_ok sha256 _ _ _ ok, orderBySeq_of_increasing well.increasing]

theorem WellChained.of_prefix {next : Nat} {rows early : List AuditEntry}
    (well : WellChained sha256 next rows) (part : early <+: rows) :
    WellChained sha256 next early := by
  obtain ⟨rest, rfl⟩ := part
  refine ⟨(List.pairwise_append.1 well.increasing).1, ?_, ?_, ?_⟩
  · exact fun entry member => well.numbered entry (List.mem_append_left _ member)
  · exact ((chained_append _ _ _ _ _).1 well.chained).1
  · exact fun entry member => well.intact entry (List.mem_append_left _ member)

-- The rows a sequence of appends leaves when nothing is rolled back in between.
def record (sha256 : ByteArray → String) (next : Nat) :
    List AuditEntry → List (Datetime × Fields) → List AuditEntry
  | rows, [] => rows
  | rows, (ts, fields) :: rest =>
      record sha256 (next + 1)
        (rows ++ [newEntry sha256 (AuditLog.headHash rows) next ts fields]) rest

theorem WellChained.record {next : Nat} {rows : List AuditEntry}
    (well : WellChained sha256 next rows) (appends : List (Datetime × Fields)) :
    WellChained sha256 (next + appends.length) (record sha256 next rows appends) := by
  induction appends generalizing next rows with
  | nil => exact well
  | cons head rest ih =>
      have appended := well.append head.1 head.2
      rw [← well.headHash] at appended
      have total : next + (head :: rest).length = next + 1 + rest.length := by
        simp only [List.length_cons]
        omega
      rw [total]
      exact ih appended

theorem verifyChain_record (appends : List (Datetime × Fields)) :
    (verifyChain sha256 (record sha256 1 [] appends)).ok = true :=
  (WellChained.record (wellChained_nil sha256 1) appends).verifyChain_eq

end Hashing

end Fleet.AuditLog
