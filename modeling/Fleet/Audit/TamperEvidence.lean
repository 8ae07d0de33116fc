import Fleet.Audit.Commitment
import Fleet.Audit.Sequential
import Fleet.Shared.Paired

set_option autoImplicit false

namespace Fleet.AuditTamperEvidence

open AuditLog AuditCommitment AuditSequential Execution HashChain

def SameHashes (row other : AuditEntry) : Prop :=
  row.prevHash = other.prevHash ∧ row.entryHash = other.entryHash

-- Rows are edited outside their hash columns, removed, and put in another order by new numbers, in
-- any combination; `seq` stays a primary key.
structure Altered (log altered : List AuditEntry) : Prop where
  kept : ∃ rows, List.Subperm rows log ∧ List.Forall₂ SameHashes rows (orderBySeq altered)
  numbered : (altered.map AuditEntry.seq).Nodup
  changed : contents altered ≠ contents log

-- The first row that departs from the log, with the row the log has in that place.
def departure : List AuditEntry → List AuditEntry → Option (Option AuditEntry × AuditEntry)
  | _, [] => none
  | [], row :: _ => some (none, row)
  | expected :: log, row :: rest =>
      if content expected = content row then departure log rest else some (some expected, row)

def departs (log altered : List AuditEntry) : Option (Option AuditEntry × AuditEntry) :=
  departure (orderBySeq log) (orderBySeq altered)

/-- Only rows at the end are missing. -/
def Cut (log altered : List AuditEntry) : Prop := contents altered <+: contents log

-- The departing row is a row of the log as it was, and the row it displaces had the same hash
-- before it.
def Spliced (log altered : List AuditEntry) : Prop :=
  ∃ expected row, departs log altered = some (some expected, row) ∧
    content row ∈ contents log ∧ row.prevHash = expected.prevHash

theorem departure_eq_none_iff (log rows : List AuditEntry) :
    departure log rows = none ↔ rows.map content <+: log.map content := by
  induction rows generalizing log with
  | nil => simp [departure]
  | cons row rest ih =>
      cases log with
      | nil => simp [departure]
      | cons expected log =>
          by_cases same : content expected = content row
          · simp [departure, same, ih]
          · simp [departure, same, Ne.symm same]

theorem cut_iff (log altered : List AuditEntry) : Cut log altered ↔ departs log altered = none :=
  (departure_eq_none_iff _ _).symm

section Hashing

variable (sha256 : ByteArray → String)

def Detected (log altered : List AuditEntry) : Prop :=
  (verifyChain sha256 altered).ok = false ∧
    ∃ expected row, departs log altered = some (expected, row) ∧
      (verifyChain sha256 altered).brokenAt = some row.seq

variable {sha256}

theorem canonical_of_payload {row other : AuditEntry} (same : payload row = payload other) :
    canonical row = canonical other :=
  String.toList_injective (by rw [canonical_eq, canonical_eq, same])

theorem content_inv {row other : AuditEntry} (same : content row = content other) :
    payload row = payload other ∧ row.prevHash = other.prevHash ∧
      row.entryHash = other.entryHash := by
  simpa only [content, Content.mk.injEq] using same

theorem hash_of_content {row other : AuditEntry} (same : content row = content other)
    (prev : String) : AuditLog.hash sha256 prev row = AuditLog.hash sha256 prev other := by
  rw [AuditLog.hash, AuditLog.hash, canonical_of_payload (content_inv same).1]

theorem verifyFrom_cons_whole {row : AuditEntry} {prev : String} (linked : row.prevHash = prev)
    (intact : Intact sha256 row) (count : Nat) (rest : List AuditEntry) :
    verifyFrom sha256 count prev (row :: rest) = verifyFrom sha256 count row.entryHash rest := by
  subst linked
  have whole : AuditLog.hash sha256 row.prevHash row = row.entryHash := intact
  simp [verifyFrom, whole]

theorem verifyFrom_cons_broken {row : AuditEntry} {prev : String}
    (broken : ¬ (row.prevHash = prev ∧ Intact sha256 row)) (count : Nat) (rest : List AuditEntry) :
    (verifyFrom sha256 count prev (row :: rest)).ok = false ∧
      (verifyFrom sha256 count prev (row :: rest)).brokenAt = some row.seq := by
  by_cases linked : row.prevHash = prev
  · have altered : AuditLog.hash sha256 prev row ≠ row.entryHash := fun intact =>
      broken ⟨linked, by rw [Intact, linked, intact]⟩
    simp [verifyFrom, linked, altered]
  · simp [verifyFrom, linked]

theorem verifyFrom_brokenAt {count : Nat} {prev : String} {rows : List AuditEntry} {seq : Nat}
    (broken : (verifyFrom sha256 count prev rows).brokenAt = some seq) :
    ∃ row ∈ rows, row.seq = seq := by
  induction rows generalizing prev with
  | nil => cases broken
  | cons row rest ih =>
      by_cases whole : row.prevHash = prev ∧ Intact sha256 row
      · rw [verifyFrom_cons_whole whole.1 whole.2] at broken
        obtain ⟨later, member, same⟩ := ih broken
        exact ⟨later, List.mem_cons_of_mem _ member, same⟩
      · rw [(verifyFrom_cons_broken whole count rest).2] at broken
        exact ⟨row, by simp, Option.some.inj broken⟩

theorem intact_of_content {row other : AuditEntry} (same : content row = content other)
    (intact : Intact sha256 row) : Intact sha256 other := by
  obtain ⟨-, prevs, hashes⟩ := content_inv same
  rw [Intact, ← prevs, ← hashes, ← hash_of_content same]
  exact intact

theorem verifyFrom_of_same {count : Nat} {prev : String} {log rows : List AuditEntry}
    (chained : Chained AuditEntry.prevHash AuditEntry.entryHash prev log)
    (intact : ∀ entry ∈ log, Intact sha256 entry) (same : departure log rows = none) :
    (verifyFrom sha256 count prev rows).ok = true := by
  induction rows generalizing prev log with
  | nil => rfl
  | cons row rest ih =>
      cases log with
      | nil => cases same
      | cons expected log =>
          simp only [departure] at same
          split at same
          next equal =>
            obtain ⟨-, prevs, hashes⟩ := content_inv equal
            rw [verifyFrom_cons_whole (prevs.symm.trans chained.1)
              (intact_of_content equal (intact expected (by simp)))]
            rw [← hashes]
            exact ih chained.2 (fun entry member => intact entry (by simp [member])) same
          next => cases same

-- Up to the departing row the verification sees the log's own hashes.
theorem verifyFrom_of_departure {prev : String} {log rows : List AuditEntry}
    {expected : Option AuditEntry} {row : AuditEntry}
    (chained : Chained AuditEntry.prevHash AuditEntry.entryHash prev log)
    (intact : ∀ entry ∈ log, Intact sha256 entry)
    (departs : departure log rows = some (expected, row)) :
    ∃ link before after, rows = before ++ row :: after ∧
      (∀ count, verifyFrom sha256 count prev rows = verifyFrom sha256 count link (row :: after)) ∧
      match expected with
      | some displaced => displaced ∈ log ∧ displaced.prevHash = link ∧
          content displaced ≠ content row
      | none => log.length < rows.length := by
  induction rows generalizing prev log with
  | nil => simp [departure] at departs
  | cons head rest ih =>
      cases log with
      | nil =>
          cases departs
          exact ⟨prev, [], rest, rfl, fun _ => rfl, by simp⟩
      | cons first log =>
          simp only [departure] at departs
          split at departs
          next equal =>
            obtain ⟨-, prevs, hashes⟩ := content_inv equal
            obtain ⟨link, before, after, shape, same, displaced⟩ :=
              ih chained.2 (fun entry member => intact entry (by simp [member])) departs
            refine ⟨link, head :: before, after, by rw [shape]; rfl, ?_, ?_⟩
            · intro count
              rw [verifyFrom_cons_whole (prevs.symm.trans chained.1)
                (intact_of_content equal (intact first (by simp))), ← hashes, same]
            · cases expected with
              | none => simpa using displaced
              | some other => exact ⟨List.mem_cons_of_mem _ displaced.1, displaced.2⟩
          next other =>
            cases departs
            exact ⟨prev, [], rest, rfl, fun _ => rfl, by simp, chained.1, other⟩

theorem Altered.source {log altered : List AuditEntry} (alteration : Altered log altered)
    {row : AuditEntry} (member : row ∈ orderBySeq altered) :
    ∃ source ∈ log, SameHashes source row := by
  obtain ⟨kept, part, pairs⟩ := alteration.kept
  obtain ⟨source, present, same⟩ := Paired.exists_left pairs member
  exact ⟨source, part.subset present, same⟩

theorem Altered.length_le {log altered : List AuditEntry} (alteration : Altered log altered) :
    (orderBySeq altered).length ≤ log.length := by
  obtain ⟨kept, part, pairs⟩ := alteration.kept
  rw [← pairs.length_eq]
  exact part.length_le

-- A row that still passes under its old hashes was not edited.
theorem content_of_intact {source row : AuditEntry}
    (free : sha256 (hashedText source).toUTF8 = sha256 (hashedText row).toUTF8 →
      hashedText source = hashedText row)
    (same : SameHashes source row) (intact : Intact sha256 source) (intact' : Intact sha256 row) :
    content row = content source := by
  have hashes : sha256 (hashedText source).toUTF8 = sha256 (hashedText row).toUTF8 := by
    rw [← entryHash_of_intact intact, ← entryHash_of_intact intact', same.2]
  have texts := free hashes
  rw [hashedText, hashedText, same.1] at texts
  have payloads := canonical_injective ((String.append_right_inj _).1 texts)
  rw [content, content, payloads, same.1, same.2]

theorem numbered_order {altered : List AuditEntry}
    (numbered : (altered.map AuditEntry.seq).Nodup) :
    ((orderBySeq altered).map AuditEntry.seq).Nodup :=
  (((List.perm_insertionSort _ altered).map AuditEntry.seq).nodup_iff).2 numbered

theorem not_spliced_of_detected {next : Nat} {log altered : List AuditEntry}
    (well : WellChained sha256 next log) (alteration : Altered log altered)
    (detected : Detected sha256 log altered) : ¬ Spliced log altered := by
  rintro ⟨displaced, row, found, kept, linked⟩
  obtain ⟨-, expected, row', found', broken⟩ := detected
  rw [found] at found'
  cases found'
  rw [departs, orderBySeq_of_increasing well.increasing] at found
  obtain ⟨link, before, after, shape, same, -, before_link, -⟩ :=
    verifyFrom_of_departure well.chained well.intact found
  obtain ⟨source, member, equal⟩ := List.mem_map.1 kept
  have intact := intact_of_content equal (well.intact source (mem_orderBySeq.1 member))
  rw [verifyChain, same, verifyFrom_cons_whole (linked.trans before_link) intact] at broken
  -- A later break would have to carry the same primary key.
  obtain ⟨later, present, twice⟩ := verifyFrom_brokenAt broken
  have distinct := numbered_order alteration.numbered
  rw [shape, List.map_append, List.map_cons] at distinct
  have fresh := (List.nodup_cons.1 (List.nodup_append.1 distinct).2.1).1
  exact fresh (twice ▸ List.mem_map_of_mem present)

theorem detected_of_departure {next : Nat} {log altered : List AuditEntry}
    (well : WellChained sha256 next log) (alteration : Altered log altered)
    (free : CollisionFree sha256 (log ++ altered)) (uncut : ¬ Cut log altered)
    (unspliced : ¬ Spliced log altered) : Detected sha256 log altered := by
  rw [cut_iff] at uncut
  obtain ⟨⟨expected, row⟩, found⟩ := Option.ne_none_iff_exists'.1 uncut
  have ordered := orderBySeq_of_increasing well.increasing
  have walked := found
  rw [departs, ordered] at walked
  obtain ⟨link, before, after, shape, same, displaced⟩ :=
    verifyFrom_of_departure well.chained well.intact walked
  have member : row ∈ orderBySeq altered := by simp [shape]
  have broken : ¬ (row.prevHash = link ∧ Intact sha256 row) := by
    rintro ⟨linked, intact⟩
    cases expected with
    | none => exact absurd alteration.length_le (Nat.not_le.2 displaced)
    | some other =>
        obtain ⟨source, present, hashes⟩ := alteration.source member
        have equal := content_of_intact
          (free source (List.mem_append_left _ present) row
            (List.mem_append_right _ (mem_orderBySeq.1 member)))
          hashes (well.intact source present) intact
        refine unspliced ⟨other, row, found, ?_, linked.trans displaced.2.1.symm⟩
        rw [contents, ordered, equal]
        exact List.mem_map_of_mem present
  have stopped := verifyFrom_cons_broken broken (orderBySeq altered).length after
  rw [← same] at stopped
  exact ⟨stopped.1, expected, row, found, stopped.2⟩

theorem not_cut_of_detected {log altered : List AuditEntry}
    (detected : Detected sha256 log altered) : ¬ Cut log altered := by
  obtain ⟨-, expected, row, found, -⟩ := detected
  rw [cut_iff, found]
  exact fun missing => by cases missing

/-- A cut log passes as it stands. -/
theorem verifyChain_of_cut {next : Nat} {log altered : List AuditEntry}
    (well : WellChained sha256 next log) (cut : Cut log altered) :
    (verifyChain sha256 altered).ok = true := by
  rw [cut_iff, departs, orderBySeq_of_increasing well.increasing] at cut
  exact verifyFrom_of_same well.chained well.intact cut

-- Two places of one log share the hash before them only if some row hashes to the start value.
theorem genesis_of_spliced (hex : ∀ bytes, ∀ c ∈ (sha256 bytes).toList, c ∈ Sha256.hexDigits)
    {next : Nat} {log altered : List AuditEntry} (well : WellChained sha256 next log)
    (free : CollisionFree sha256 log) (spliced : Spliced log altered) :
    ∃ row ∈ log, row.entryHash = genesisHash := by
  by_contra none
  have apart : ∀ row ∈ log, row.entryHash ≠ genesisHash := fun row member hash =>
    none ⟨row, member, hash⟩
  obtain ⟨displaced, row, found, kept, linked⟩ := spliced
  have ordered := orderBySeq_of_increasing well.increasing
  rw [departs, ordered] at found
  obtain ⟨link, before, after, -, -, present, before_link, other⟩ :=
    verifyFrom_of_departure well.chained well.intact found
  rw [contents, ordered] at kept
  obtain ⟨source, member, equal⟩ := List.mem_map.1 kept
  obtain ⟨early, late, split⟩ := List.append_of_mem present
  obtain ⟨early', late', split'⟩ := List.append_of_mem member
  have chained := well.chained
  rw [split, chained_append] at chained
  have chained' := well.chained
  rw [split', chained_append] at chained'
  have same : tip AuditEntry.entryHash genesisHash early =
      tip AuditEntry.entryHash genesisHash early' := by
    rw [← chained.2.1, ← chained'.2.1, (content_inv equal).2.1, linked]
  have inside : ∀ entry ∈ early, entry ∈ log := fun entry there => by simp [split, there]
  have inside' : ∀ entry ∈ early', entry ∈ log := fun entry there => by simp [split', there]
  have equalRows : early.map content = early'.map content := by
    refine tip_commits content chained.1 chained'.1 ?_ ?_ ?_ same
    · intro entry there entry' there' hashes
      have hashed := hashes
      rw [entryHash_of_intact (well.intact entry (inside entry there)),
        entryHash_of_intact (well.intact entry' (inside' entry' there'))] at hashed
      have texts := free entry (inside entry there) entry' (inside' entry' there') hashed
      obtain ⟨prevs, payloads⟩ := hashedText_split
        (prevHash_plain hex well.chained well.intact (inside entry there))
        (prevHash_plain hex well.chained well.intact (inside' entry' there')) texts
      exact ⟨prevs, by rw [content, content, payloads, prevs, hashes]⟩
    · exact fun entry there => apart entry (inside entry there)
    · exact fun entry there => apart entry (inside' entry there)
  have lengths := congrArg List.length equalRows
  rw [List.length_map, List.length_map] at lengths
  have tails := List.append_inj (split.symm.trans split') lengths
  exact other ((congrArg content (List.cons.inj tails.2).1).trans equal)

end Hashing

theorem tampering_detected_iff {Tables : Type} (sha256 : ByteArray → String) (tables : Tables)
    (events : List (Event Tables)) (state : State Tables)
    (reached : run (step sha256) (fresh tables) events = some state) (altered : List AuditEntry)
    (alteration : Altered state.committed.audit altered)
    (free : CollisionFree sha256 (state.committed.audit ++ altered)) :
    Detected sha256 state.committed.audit altered ↔
      ¬ Cut state.committed.audit altered ∧ ¬ Spliced state.committed.audit altered := by
  obtain ⟨next, well⟩ := (run_sound (sound_fresh sha256 tables) reached).committed_chained
  constructor
  · intro detected
    exact ⟨not_cut_of_detected detected, not_spliced_of_detected well alteration detected⟩
  · rintro ⟨uncut, unspliced⟩
    exact detected_of_departure well alteration free uncut unspliced

/-- Detection as the module promises it, of every alteration. -/
def TamperEvident (sha256 : ByteArray → String) : Prop :=
  ∀ (Tables : Type) (tables : Tables) (events : List (Event Tables)) (state : State Tables),
    run (step sha256) (fresh tables) events = some state →
      ∀ altered, Altered state.committed.audit altered →
        CollisionFree sha256 (state.committed.audit ++ altered) →
          Detected sha256 state.committed.audit altered

section Logs

def login (result : String) : Fields := { actor := "a", action := "login", result := result }

def firstRow : AuditEntry := newEntry Sha256.hexdigest genesisHash 1 noon (login "failure")

def secondRow : AuditEntry :=
  newEntry Sha256.hexdigest firstRow.entryHash 2 noon (login "success")

def twoLogins : List (Event Unit) :=
  [.append 1 noon (login "failure"), .commit, .append 2 noon (login "success"), .commit]

def recorded : State Unit := ⟨⟨[firstRow, secondRow], ()⟩, ⟨[firstRow, secondRow], ()⟩⟩

theorem run_twoLogins : run (step Sha256.hexdigest) (fresh ()) twoLogins = some recorded := rfl

set_option maxRecDepth 20000 in
theorem firstRow_hash : firstRow.entryHash ≠ secondRow.entryHash ∧ firstRow.entryHash ≠ genesisHash := by
  decide +kernel

theorem collisionFree_recorded {rows : List AuditEntry}
    (recorded : ∀ row ∈ rows, row = firstRow ∨ row = secondRow) :
    CollisionFree Sha256.hexdigest rows := by
  have first : Intact Sha256.hexdigest firstRow := newEntry_intact _ _ _ _ _
  have second : Intact Sha256.hexdigest secondRow := newEntry_intact _ _ _ _ _
  have apart := firstRow_hash.1
  rw [entryHash_of_intact first, entryHash_of_intact second] at apart
  intro row member row' member' hashes
  rcases recorded row member with rfl | rfl <;> rcases recorded row' member' with rfl | rfl
  · rfl
  · exact absurd hashes apart
  · exact absurd hashes.symm apart
  · rfl

theorem lastRow_deleted : ¬ TamperEvident Sha256.hexdigest := by
  intro evident
  have alteration : Altered recorded.committed.audit [firstRow] := by
    refine ⟨⟨[firstRow], ?_, .cons ⟨rfl, rfl⟩ .nil⟩, by simp, ?_⟩
    · exact (List.sublist_append_left [firstRow] [secondRow]).subperm
    · exact fun same => absurd (congrArg List.length same) (by decide)
  have detected := evident Unit () twoLogins recorded run_twoLogins [firstRow] alteration
    (collisionFree_recorded (by simp [recorded]))
  exact not_cut_of_detected detected ⟨[content secondRow], rfl⟩

theorem departs_secondRow :
    departs [firstRow, secondRow] [secondRow] = some (some firstRow, secondRow) := by
  have other : content firstRow ≠ content secondRow := fun same =>
    absurd (congrArg (fun row : Content => row.payload.result) same) (by decide)
  have unfolded : departs [firstRow, secondRow] [secondRow] =
      if content firstRow = content secondRow then departure [secondRow] []
      else some (some firstRow, secondRow) := rfl
  rw [unfolded, if_neg other]

theorem firstRow_deleted : Detected Sha256.hexdigest [firstRow, secondRow] [secondRow] := by
  have alteration : Altered recorded.committed.audit [secondRow] := by
    refine ⟨⟨[secondRow], ?_, .cons ⟨rfl, rfl⟩ .nil⟩, by simp, ?_⟩
    · exact (List.sublist_append_right [firstRow] [secondRow]).subperm
    · exact fun same => absurd (congrArg List.length same) (by decide)
  refine (tampering_detected_iff Sha256.hexdigest () twoLogins recorded run_twoLogins [secondRow]
    alteration (collisionFree_recorded (by simp [recorded]))).2 ⟨?_, ?_⟩
  · rw [cut_iff]
    exact fun none => by cases departs_secondRow.symm.trans none
  · rintro ⟨displaced, row, found, -, linked⟩
    cases departs_secondRow.symm.trans found
    exact firstRow_hash.2 linked

end Logs

end Fleet.AuditTamperEvidence
