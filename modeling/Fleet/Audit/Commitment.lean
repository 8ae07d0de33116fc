import Fleet.Audit.Log
import Fleet.Shared.Delimited
import Fleet.Shared.JsonStrings
import Fleet.Shared.Sha256

set_option autoImplicit false

namespace Fleet.AuditCommitment

open AuditLog HashChain Json

/-- The hashed fields of a row as `_canonical` reads them. -/
structure Payload where
  ts : String
  actor : String
  action : String
  nodeId : Option String
  nodeName : Option String
  targetType : Option String
  targetId : Option String
  result : String
  detail : Option String
  params : String
  requestId : Option String
  deriving DecidableEq

def payload (entry : AuditEntry) : Payload where
  ts := entry.ts.isoformat
  actor := entry.actor
  action := entry.action
  nodeId := entry.nodeId
  nodeName := entry.nodeName
  targetType := entry.targetType
  targetId := entry.targetId
  result := entry.result
  detail := entry.detail
  params := entry.params
  requestId := entry.requestId

-- Everything of a row but its place in the table.
structure Content where
  payload : Payload
  prevHash : String
  entryHash : String
  deriving DecidableEq

def content (entry : AuditEntry) : Content where
  payload := payload entry
  prevHash := entry.prevHash
  entryHash := entry.entryHash

def sortedKeys : List String :=
  ["action", "actor", "detail", "node_id", "node_name", "params", "request_id", "result",
    "target_id", "target_type", "ts"]

def Payload.sortedValues (payload : Payload) : List (Option String) :=
  [some payload.action, some payload.actor, payload.detail, payload.nodeId, payload.nodeName,
    some payload.params, payload.requestId, some payload.result, payload.targetId,
    payload.targetType, some payload.ts]

theorem canonical_eq (entry : AuditEntry) :
    (canonical entry).toList =
      Char.ofNat 123 :: Layout.compact.join (columns .compact sortedKeys (payload entry).sortedValues)
        ++ [Char.ofNat 125] := by
  simp [canonical, dumps, render, renderMembers, Layout.arrange, Layout.compact,
    List.insertionSort, List.orderedInsert, columns, sortedKeys, Payload.sortedValues, payload,
    ofOption]

theorem canonical_braced (entry : AuditEntry) :
    ∃ body, (canonical entry).toList = Char.ofNat 123 :: body :=
  ⟨_, canonical_eq entry⟩

theorem canonical_injective {first second : AuditEntry} (same : canonical first = canonical second) :
    payload first = payload second := by
  have texts := congrArg String.toList same
  rw [canonical_eq, canonical_eq] at texts
  obtain ⟨values, -⟩ := columns_split .compact sortedKeys _ _ _ _ rfl rfl (List.cons.inj texts).2
  simp only [Payload.sortedValues, List.cons.injEq, Option.some.injEq, and_true] at values
  obtain ⟨action, actor, detail, nodeId, nodeName, params, requestId, result, targetId, targetType,
    ts⟩ := values
  simp only [payload, Payload.mk.injEq] at *
  exact ⟨ts, actor, action, nodeId, nodeName, targetType, targetId, result, detail, params,
    requestId⟩

def hashedText (entry : AuditEntry) : String := entry.prevHash ++ canonical entry

-- The text opens the payload with a brace, which no hash contains.
theorem hashedText_split {first second : AuditEntry}
    (plain : Char.ofNat 123 ∉ first.prevHash.toList)
    (plain' : Char.ofNat 123 ∉ second.prevHash.toList)
    (same : hashedText first = hashedText second) :
    first.prevHash = second.prevHash ∧ payload first = payload second := by
  have texts := congrArg String.toList same
  simp only [hashedText, String.toList_append] at texts
  obtain ⟨body, braced⟩ := canonical_braced first
  obtain ⟨body', braced'⟩ := canonical_braced second
  have payloads : canonical first = canonical second := by
    rw [braced, braced'] at texts
    obtain ⟨-, tails⟩ := Delimited.split_of_absent texts plain plain'
    exact String.toList_injective (by rw [braced, braced', tails])
  rw [payloads] at texts
  exact ⟨String.toList_injective (List.append_cancel_right texts), canonical_injective payloads⟩

section Hashing

variable (sha256 : ByteArray → String)

/-- Among the rows a verification hashes, equal hashes come from equal texts. -/
def CollisionFree (rows : List AuditEntry) : Prop :=
  ∀ first ∈ rows, ∀ second ∈ rows,
    sha256 (hashedText first).toUTF8 = sha256 (hashedText second).toUTF8 →
      hashedText first = hashedText second

def NoneHashesToGenesis (rows : List AuditEntry) : Prop :=
  ∀ row ∈ rows, sha256 (hashedText row).toUTF8 ≠ genesisHash

-- The hash that the loop of `verify_chain` ends with.
def lastHash (table : List AuditEntry) : String :=
  tip AuditEntry.entryHash genesisHash (orderBySeq table)

def contents (table : List AuditEntry) : List Content := (orderBySeq table).map content

variable {sha256}

theorem CollisionFree.mono {rows fewer : List AuditEntry} (free : CollisionFree sha256 rows)
    (part : fewer ⊆ rows) : CollisionFree sha256 fewer :=
  fun first member second present => free first (part member) second (part present)

theorem entryHash_of_intact {entry : AuditEntry} (intact : Intact sha256 entry) :
    entry.entryHash = sha256 (hashedText entry).toUTF8 := intact.symm

theorem mem_orderBySeq {table : List AuditEntry} {row : AuditEntry} :
    row ∈ orderBySeq table ↔ row ∈ table :=
  (List.perm_insertionSort _ _).mem_iff

theorem genesisHash_plain : Char.ofNat 123 ∉ genesisHash.toList := by
  have digits : genesisHash.toList = List.replicate 64 '0' := String.toList_ofList
  rw [digits, List.mem_replicate]
  rintro ⟨-, zero⟩
  revert zero
  decide

theorem prevHash_plain (hex : ∀ bytes, ∀ c ∈ (sha256 bytes).toList, c ∈ Sha256.hexDigits)
    {rows : List AuditEntry}
    (chained : Chained AuditEntry.prevHash AuditEntry.entryHash genesisHash rows)
    (intact : ∀ entry ∈ rows, Intact sha256 entry) {row : AuditEntry} (member : row ∈ rows) :
    Char.ofNat 123 ∉ row.prevHash.toList := by
  rcases chained_prior chained member with first | ⟨earlier, present, linked⟩
  · rw [first]
    exact genesisHash_plain
  · intro brace
    rw [linked, entryHash_of_intact (intact earlier present)] at brace
    have digit := hex _ _ brace
    exact absurd digit (by decide)

theorem contents_of_lastHash (hex : ∀ bytes, ∀ c ∈ (sha256 bytes).toList, c ∈ Sha256.hexDigits)
    (first second : List AuditEntry) (free : CollisionFree sha256 (first ++ second))
    (apart : NoneHashesToGenesis sha256 (first ++ second))
    (ok : (verifyChain sha256 first).ok = true) (ok' : (verifyChain sha256 second).ok = true)
    (same : lastHash first = lastHash second) : contents first = contents second := by
  obtain ⟨chained, intact⟩ := (verifyFrom_ok_iff sha256 _ _ _).1 ok
  obtain ⟨chained', intact'⟩ := (verifyFrom_ok_iff sha256 _ _ _).1 ok'
  refine tip_commits content chained chained' ?_ ?_ ?_ same
  · intro row member row' member' hashes
    have texts : hashedText row = hashedText row' := by
      rw [entryHash_of_intact (intact row member), entryHash_of_intact (intact' row' member')] at hashes
      exact free row (List.mem_append_left _ (mem_orderBySeq.1 member)) row'
        (List.mem_append_right _ (mem_orderBySeq.1 member')) hashes
    obtain ⟨linked, payloads⟩ := hashedText_split (prevHash_plain hex chained intact member)
      (prevHash_plain hex chained' intact' member') texts
    exact ⟨linked, by rw [content, content, payloads, linked, hashes]⟩
  · intro row member
    rw [entryHash_of_intact (intact row member)]
    exact apart row (List.mem_append_left _ (mem_orderBySeq.1 member))
  · intro row member
    rw [entryHash_of_intact (intact' row member)]
    exact apart row (List.mem_append_right _ (mem_orderBySeq.1 member))

end Hashing

section Logs

def refused : Fields :=
  { actor := "ví dụ", action := "login", result := "failure", targetType := some "principal",
    detail := some "invalid \"credentials\"" }

def refusedAt (seq : Nat) : AuditEntry :=
  newEntry Sha256.hexdigest genesisHash seq ⟨2026, 9, 22, 12, 0, 0, 0, 0⟩ refused

theorem hashedText_refusedAt : ∀ row ∈ [refusedAt 1] ++ [refusedAt 7],
    hashedText row = hashedText (refusedAt 1) := by
  intro row member
  rcases List.mem_pair.1 member with rfl | rfl <;> rfl

set_option maxRecDepth 20000 in
theorem refusedAt_apart :
    Sha256.hexdigest (hashedText (refusedAt 1)).toUTF8 ≠ genesisHash := by
  decide +kernel

theorem verifyChain_refusedAt (seq : Nat) :
    (verifyChain Sha256.hexdigest [refusedAt seq]).ok = true := by
  refine (verifyFrom_ok_iff Sha256.hexdigest 1 genesisHash [refusedAt seq]).2 ⟨⟨rfl, trivial⟩, ?_⟩
  intro row member
  rw [List.mem_singleton.1 member]
  exact newEntry_intact _ _ _ _ _

end Logs

end Fleet.AuditCommitment
