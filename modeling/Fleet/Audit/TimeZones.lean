import Mathlib.Data.Set.List
import Fleet.Audit.Commitment
import Fleet.Audit.Sequential
import Fleet.Shared.Decimal

set_option autoImplicit false

namespace Fleet.TimeZones

open AuditLog AuditCommitment AuditSequential Datetime Decimal Execution

-- Microseconds since the first midnight of year 1 in UTC: what a `timestamptz` column keeps.
abbrev Instant := Nat

-- The `TimeZone` setting of a session: the seconds it is ahead of UTC at each instant.
abbrev TimeZone := Instant → Int

-- The proleptic Gregorian date so many days after the first of January of year 1. The years are
-- counted from March, in eras of 400.
def civil (days : Nat) : Nat × Nat × Nat :=
  let era := (days + 306) / 146097
  let dayOfEra := (days + 306) % 146097
  let yearOfEra := (dayOfEra - dayOfEra / 1460 + dayOfEra / 36524 - dayOfEra / 146096) / 365
  let dayOfYear := dayOfEra - (365 * yearOfEra + yearOfEra / 4 - yearOfEra / 100)
  let march := (5 * dayOfYear + 2) / 153
  let month := if march < 10 then march + 3 else march - 9
  (yearOfEra + era * 400 + (if month ≤ 2 then 1 else 0), month,
    dayOfYear - (153 * march + 2) / 5 + 1)

def atOffset (offset : Int) (instant : Instant) : Datetime :=
  let wall := (instant + offset * 1000000 : Int).toNat
  let seconds := wall / 1000000 % 86400
  let (year, month, day) := civil (wall / 86400000000)
  ⟨year, month, day, seconds / 3600, seconds / 60 % 60, seconds % 60, wall % 1000000, offset⟩

example : (atOffset 0 63925675200000000).isoformat = "2026-09-22T12:00:00+00:00" ∧
    (atOffset (-43201) 63925675200004100).isoformat =
      "2026-09-21T23:59:59.004100-12:00:01" := by decide

-- `datetime.now(UTC)`.
def utc (instant : Instant) : Datetime := atOffset 0 instant

/-- A row of the log with the instant that is stored in place of the datetime it was hashed with. -/
structure Stored where
  entry : AuditEntry
  instant : Instant
  written : entry.ts = utc instant

-- The row as the driver returns it to a session.
def Stored.read (zone : TimeZone) (stored : Stored) : AuditEntry :=
  { stored.entry with ts := atOffset (zone stored.instant) stored.instant }

def select (zone : TimeZone) (log : List Stored) : List AuditEntry := log.map (Stored.read zone)

def offsetClock (utcoffset : Int) : List Char :=
  padded 2 (utcoffset.natAbs / 3600) ++ ':' :: padded 2 (utcoffset.natAbs / 60 % 60) ++
    if utcoffset.natAbs % 60 = 0 then [] else ':' :: padded 2 (utcoffset.natAbs % 60)

theorem offsetText_eq (utcoffset : Int) :
    offsetText utcoffset = (if utcoffset < 0 then '-' else '+') :: offsetClock utcoffset := rfl

theorem offsetClock_unsigned (utcoffset : Int) :
    ∀ c ∈ offsetClock utcoffset, ¬ (c = '+' ∨ c = '-') := by
  have digits (value : Nat) (c : Char) (sign : c = '+' ∨ c = '-') : c ∉ padded 2 value := by
    apply notMem_padded
    rcases sign with rfl | rfl <;> decide
  intro c member sign
  have colon : c ≠ ':' := by
    rcases sign with rfl | rfl <;> decide
  simp only [offsetClock, List.mem_append, List.mem_cons, digits _ c sign, colon, false_or,
    or_self] at member
  split at member <;> simp [digits _ c sign, colon] at member

theorem offsetClock_natAbs {first second : Int} (same : offsetClock first = offsetClock second) :
    first.natAbs = second.natAbs := by
  have plain (value : Nat) : ':' ∉ padded 2 value := notMem_padded (by decide)
  simp only [offsetClock, List.append_assoc, List.cons_append] at same
  obtain ⟨hours, rest⟩ := Delimited.split_of_absent same (plain _) (plain _)
  rw [padded_inj] at hours
  by_cases whole : first.natAbs % 60 = 0 <;> by_cases whole' : second.natAbs % 60 = 0 <;>
    simp only [whole, whole', if_true, if_false, List.append_nil] at rest
  · rw [padded_inj] at rest
    omega
  · exact absurd (rest ▸ plain (first.natAbs / 60 % 60)) (by simp)
  · exact absurd (rest.symm ▸ plain (second.natAbs / 60 % 60)) (by simp)
  · obtain ⟨minutes, seconds⟩ := Delimited.split_of_absent rest (plain _) (plain _)
    rw [padded_inj] at minutes seconds
    omega

theorem utcoffset_of_isoformat {first second : Datetime}
    (same : first.isoformat = second.isoformat) : first.utcoffset = second.utcoffset := by
  have marked (utcoffset : Int) :
      (if utcoffset < 0 then '-' else '+') = '+' ∨ (if utcoffset < 0 then '-' else '+') = '-' := by
    split <;> simp
  have texts := String.ofList_injective same
  rw [offsetText_eq, offsetText_eq] at texts
  obtain ⟨-, sign, clock⟩ := Delimited.split_last_mark texts (marked _) (marked _)
    (offsetClock_unsigned _) (offsetClock_unsigned _)
  have magnitude := offsetClock_natAbs clock
  by_cases west : first.utcoffset < 0 <;> by_cases west' : second.utcoffset < 0 <;>
    simp only [west, west', if_true, if_false] at sign
  · omega
  · exact absurd sign (by decide)
  · exact absurd sign (by decide)
  · omega

theorem atOffset_utcoffset (offset : Int) (instant : Instant) :
    (atOffset offset instant).utcoffset = offset := rfl

theorem read_utcoffset (zone : TimeZone) (stored : Stored) :
    (stored.read zone).ts.utcoffset = zone stored.instant := rfl

theorem read_prevHash (zone : TimeZone) (stored : Stored) :
    (stored.read zone).prevHash = stored.entry.prevHash := rfl

theorem read_entryHash (zone : TimeZone) (stored : Stored) :
    (stored.read zone).entryHash = stored.entry.entryHash := rfl

theorem read_of_utc {zone : TimeZone} {stored : Stored} (same : zone stored.instant = 0) :
    stored.read zone = stored.entry := by
  have ts : atOffset (zone stored.instant) stored.instant = stored.entry.ts := by
    rw [same, stored.written, utc]
  rw [Stored.read, ts]

theorem select_of_utc {zone : TimeZone} {log : List Stored}
    (same : ∀ stored ∈ log, zone stored.instant = 0) :
    select zone log = log.map Stored.entry :=
  List.map_congr_left fun stored member => read_of_utc (same stored member)

section Hashing

variable (sha256 : ByteArray → String)

/-- The verdict of a session in the time zone on a log nobody has touched. -/
def Confirms (zone : TimeZone) (log : List Stored) : Prop :=
  verifyChain sha256 (select zone log) = { ok := true, count := log.length }

variable {sha256}

-- The row was hashed as UTC wrote it; it verifies as the session writes it only if both texts are
-- the same, offset included.
theorem utc_of_intact {zone : TimeZone} {stored : Stored} {rows : List AuditEntry}
    (free : CollisionFree sha256 rows) (own : stored.entry ∈ rows) (seen : stored.read zone ∈ rows)
    (whole : Intact sha256 stored.entry) (intact : Intact sha256 (stored.read zone)) :
    zone stored.instant = 0 := by
  have hashes : sha256 (hashedText (stored.read zone)).toUTF8 =
      sha256 (hashedText stored.entry).toUTF8 := by
    rw [← entryHash_of_intact intact, ← entryHash_of_intact whole, read_entryHash]
  have texts := free _ seen _ own hashes
  rw [hashedText, hashedText, read_prevHash, String.append_right_inj] at texts
  have payloads := canonical_injective texts
  rw [payload, payload, Payload.mk.injEq] at payloads
  have offsets := utcoffset_of_isoformat payloads.1
  rwa [stored.written, read_utcoffset, utc, atOffset_utcoffset] at offsets

theorem confirms_iff {zone : TimeZone} {log : List Stored} {next : Nat}
    (well : WellChained sha256 next (log.map Stored.entry))
    (free : CollisionFree sha256 (log.map Stored.entry ++ select zone log)) :
    Confirms sha256 zone log ↔ ∀ stored ∈ log, zone stored.instant = 0 := by
  constructor
  next =>
    intro confirms stored member
    have ok : (verifyChain sha256 (select zone log)).ok = true := by rw [confirms]
    have intact := ((verifyFrom_ok_iff sha256 _ _ _).1 ok).2
    have seen : stored.read zone ∈ select zone log := List.mem_map_of_mem member
    have own : stored.entry ∈ log.map Stored.entry := List.mem_map_of_mem member
    exact utc_of_intact free (List.mem_append_left _ own) (List.mem_append_right _ seen)
      (well.intact _ own) (intact _ (mem_orderBySeq.2 seen))
  next =>
    intro same
    rw [Confirms, select_of_utc same, well.verifyChain_status, List.length_map]

end Hashing

variable {Tables : Type}

/-- Every append of the run stamps its row with a reading of `utcnow`. -/
def Clocked (event : Event Tables) : Prop :=
  ∀ seq ts fields, event = .append seq ts fields → ∃ instant, ts = utc instant

def Stamped (rows : List AuditEntry) : Prop := ∀ row ∈ rows, ∃ instant, row.ts = utc instant

theorem step_stamped {sha256 : ByteArray → String} (state : State Tables) (event : Event Tables)
    (next : State Tables)
    (stamped : Stamped state.committed.audit ∧ Stamped state.current.audit)
    (clocked : Clocked event) (taken : step sha256 state event = some next) :
    Stamped next.committed.audit ∧ Stamped next.current.audit := by
  cases event with
  | append seq ts fields =>
      obtain ⟨-, rfl⟩ := step_append_inv taken
      refine ⟨stamped.1, fun row member => ?_⟩
      rcases List.mem_append.1 member with early | last
      · exact stamped.2 row early
      · rw [List.mem_singleton.1 last]
        exact clocked seq ts fields rfl
  | write change =>
      cases taken
      exact stamped
  | commit =>
      cases taken
      exact ⟨stamped.2, stamped.2⟩
  | rollback =>
      cases taken
      exact ⟨stamped.1, stamped.1⟩

-- Every log that sequential appends leave is stored as instants.
theorem exists_stored {sha256 : ByteArray → String} {tables : Tables} {events : List (Event Tables)}
    {final : State Tables} (clocked : ∀ event ∈ events, Clocked event)
    (reached : run (step sha256) (fresh tables) events = some final) :
    ∃ log : List Stored, log.map Stored.entry = final.committed.audit := by
  have along := along_of_forall (step sha256) (fresh tables) clocked
  have stamped := (run_invariant
    (fun state => Stamped state.committed.audit ∧ Stamped state.current.audit) step_stamped
    ⟨by simp [Stamped, fresh], by simp [Stamped, fresh]⟩ along reached).1
  have entries : final.committed.audit ∈ Set.range (List.map Stored.entry) := by
    rw [Set.range_list_map]
    intro row member
    obtain ⟨instant, ts⟩ := stamped row member
    exact ⟨⟨row, instant, ts⟩, rfl⟩
  exact entries

theorem confirms_both_iff (sha256 : ByteArray → String) (tables : Tables)
    (events : List (Event Tables)) (final : State Tables) (log : List Stored)
    (first second : TimeZone)
    (reached : run (step sha256) (fresh tables) events = some final)
    (kept : log.map Stored.entry = final.committed.audit)
    (free : CollisionFree sha256
      (log.map Stored.entry ++ (select first log ++ select second log))) :
    Confirms sha256 first log ∧ Confirms sha256 second log ↔
      ∀ stored ∈ log, first stored.instant = 0 ∧ second stored.instant = 0 := by
  obtain ⟨next, well⟩ := (run_sound (sound_fresh sha256 tables) reached).committed_chained
  rw [← kept] at well
  rw [confirms_iff well (free.mono (by simp)), confirms_iff well (free.mono (by simp))]
  constructor
  next => exact fun both stored member => ⟨both.1 stored member, both.2 stored member⟩
  next => exact fun both => ⟨fun stored member => (both stored member).1,
    fun stored member => (both stored member).2⟩

section Sessions

def inUtc : TimeZone := fun _ => 0

def inHoChiMinh : TimeZone := fun _ => 25200

-- One hour ahead from the last Sunday of March to the last Sunday of October 2026.
def inLondon : TimeZone := fun instant =>
  if 63910342800000000 ≤ instant ∧ instant < 63928486800000000 then 3600 else 0

def september : Instant := 63925675200000000

def december : Instant := 63933537600000000

def login (instant : Instant) : List (Event Unit) := [
  .append 1 (utc instant) { actor := "admin", action := "login", result := "success" }, .commit]

def loginRow (instant : Instant) : Stored where
  entry := newEntry Sha256.hexdigest genesisHash 1 (utc instant)
    { actor := "admin", action := "login", result := "success" }
  instant := instant
  written := rfl

theorem login_logged (instant : Instant) :
    ∃ final, run (step Sha256.hexdigest) (fresh ()) (login instant) = some final ∧
      [loginRow instant].map Stored.entry = final.committed.audit :=
  ⟨_, rfl, rfl⟩

set_option maxRecDepth 20000 in
theorem loginRow_shifted :
    (verifyChain Sha256.hexdigest (select inHoChiMinh [loginRow september])).ok = false := by
  decide +kernel

theorem shifted_session_disagrees :
    ¬ ∀ (events : List (Event Unit)) (final : State Unit) (log : List Stored)
      (first second : TimeZone), first ≠ second →
      run (step Sha256.hexdigest) (fresh ()) events = some final →
      log.map Stored.entry = final.committed.audit →
        Confirms Sha256.hexdigest first log ∧ Confirms Sha256.hexdigest second log := by
  intro independent
  obtain ⟨final, reached, kept⟩ := login_logged september
  have different : inUtc ≠ inHoChiMinh := fun same => absurd (congrFun same 0) (by decide)
  have confirms := (independent _ final _ inUtc inHoChiMinh different reached kept).2
  have shifted := loginRow_shifted
  rw [confirms] at shifted
  cases shifted

theorem winter_confirmed :
    Confirms Sha256.hexdigest inUtc [loginRow december] ∧
      Confirms Sha256.hexdigest inLondon [loginRow december] := by
  obtain ⟨final, reached, kept⟩ := login_logged december
  have winter : ∀ zone ∈ [inUtc, inLondon], ∀ stored ∈ [loginRow december],
      zone stored.instant = 0 := by decide
  refine (confirms_both_iff Sha256.hexdigest () _ final _ inUtc inLondon reached kept ?_).2
    fun stored member => ⟨winter inUtc (by simp) stored member, winter inLondon (by simp) stored member⟩
  rw [select_of_utc (winter inUtc (by simp)), select_of_utc (winter inLondon (by simp))]
  intro first member second present _
  have same : ∀ row ∈ [loginRow december].map Stored.entry ++
      ([loginRow december].map Stored.entry ++ [loginRow december].map Stored.entry),
      row = (loginRow december).entry := by simp
  rw [same first member, same second present]

end Sessions

end Fleet.TimeZones
