import Fleet.ControlPlane.Tracking

set_option autoImplicit false

namespace Fleet.Reconciliation

open Db NodeAdapter Sync Operations

-- `p.remote_user_id` as a condition: null counts as the empty string does.
def remoteId (placement : UserPlacement) : String := placement.remoteUserId.getD ""

section Loops

variable (nodeUserIds : List UserInfo) (now : Datetime)

-- What `sync_node` accumulates over the placements, and the rows as it leaves them.
structure Scan where
  present : Nat := 0
  missing : List DriftItem := []
  trackedRemoteIds : List String := []
  rows : List UserPlacement := []

def visit (scan : Scan) (p : UserPlacement) : Scan :=
  if remoteId p ≠ "" ∧ remoteId p ∈ nodeUserIds.map UserInfo.id then
    { scan with
      present := scan.present + 1
      trackedRemoteIds := scan.trackedRemoteIds.insert (remoteId p)
      rows := scan.rows ++
        [{ p with status := .active, lastError := none, lastSyncedAt := some now }] }
  else if remoteId p ≠ "" then
    { scan with
      missing := scan.missing ++ [{ kind := .missing, remoteUserId := p.remoteUserId }]
      rows := scan.rows ++ [{ p with status := .missing, lastSyncedAt := some now }] }
  else { scan with rows := scan.rows ++ [{ p with lastSyncedAt := some now }] }

def scan (placements : List UserPlacement) : Scan := placements.foldl (visit nodeUserIds now) {}

def unmatched (trackedRemoteIds : List String) (untracked : List DriftItem) (user : UserInfo) :
    List DriftItem :=
  if user.id ∈ trackedRemoteIds then untracked
  else untracked ++
    [{ kind := .untracked, remoteUserId := some user.id, username := some user.name }]

-- The body of `sync_node` between `list_users` and the commit.
def reconcile (users : List UserInfo) (node : Node) (placements : List UserPlacement) :
    NodeSyncReport × List UserPlacement :=
  let nodeUserIds := Sync.nodeUserIds users
  let scanned := scan nodeUserIds now placements
  ({ nodeId := node.id, nodeName := node.name, reachable := true, tracked := placements.length
     present := scanned.present, missing := scanned.missing
     untracked := nodeUserIds.foldl (unmatched scanned.trackedRemoteIds) [] },
   scanned.rows)

end Loops

section Dictionary

theorem nodeUserIds_concat (users : List UserInfo) (user : UserInfo) :
    nodeUserIds (users ++ [user]) = Keyed.upsert UserInfo.id user (nodeUserIds users) := by
  simp [nodeUserIds, List.foldl_append]

-- The dictionary has one entry for each id of the listing, however often the node repeats it.
theorem nodeUserIds_unique (users : List UserInfo) :
    Keyed.Unique UserInfo.id (nodeUserIds users) := by
  induction users using List.reverseRecOn with
  | nil => exact List.nodup_nil
  | append_singleton users user ih =>
      rw [nodeUserIds_concat]
      exact ih.upsert user

theorem mem_nodeUserIds_id (users : List UserInfo) (userId : String) :
    userId ∈ (nodeUserIds users).map UserInfo.id ↔ userId ∈ users.map UserInfo.id := by
  induction users using List.reverseRecOn with
  | nil => rfl
  | append_singleton users user ih =>
      rw [nodeUserIds_concat, ← Keyed.lookup_isSome, Keyed.lookup_upsert]
      by_cases same : user.id = userId
      · simp [same]
      · rw [if_neg same, Keyed.lookup_isSome, ih]
        simp [Ne.symm same]

theorem mem_of_mem_nodeUserIds {users : List UserInfo} {user : UserInfo}
    (member : user ∈ nodeUserIds users) : user ∈ users := by
  induction users using List.reverseRecOn with
  | nil => cases member
  | append_singleton users last ih =>
      rw [nodeUserIds_concat] at member
      rcases Keyed.mem_upsert member with rfl | ⟨earlier, -⟩
      · simp
      · simp [ih earlier]

end Dictionary

section Reports

variable (users : List UserInfo)

-- A placement with a remote id, on either side of what the node lists.
def found (placement : UserPlacement) : Bool :=
  remoteId placement ≠ "" && listed users (remoteId placement)

def lost (placement : UserPlacement) : Bool :=
  remoteId placement ≠ "" && !listed users (remoteId placement)

def missingItem (placement : UserPlacement) : DriftItem :=
  { kind := .missing, remoteUserId := some (remoteId placement) }

structure Scanned (now : Datetime) (placements : List UserPlacement) (scanned : Scan) :
    Prop where
  present : scanned.present = placements.countP (found users)
  missing : scanned.missing = (placements.filter (lost users)).map missingItem
  tracked : ∀ userId, userId ∈ scanned.trackedRemoteIds ↔
    userId ∈ (placements.filter (found users)).map remoteId
  rows : scanned.rows = placements.map (observe users now)

variable {users} {now : Datetime}

@[simp]
theorem listed_iff (userId : String) :
    listed users userId = true ↔ userId ∈ users.map UserInfo.id := by
  rw [listed, List.contains_iff_mem]

theorem tracked?_eq (placement : UserPlacement) :
    tracked? placement = if remoteId placement = "" then none else some (remoteId placement) := by
  unfold tracked? remoteId
  cases placement.remoteUserId with
  | none => rfl
  | some userId => by_cases blank : userId = "" <;> simp [blank]

theorem remoteUserId_of_ne {placement : UserPlacement} (named : remoteId placement ≠ "") :
    placement.remoteUserId = some (remoteId placement) := by
  unfold remoteId at named ⊢
  cases held : placement.remoteUserId with
  | none => simp [held] at named
  | some userId => rfl

theorem visit_scanned {placements : List UserPlacement} {scanned : Scan}
    (sofar : Scanned users now placements scanned) (placement : UserPlacement) :
    Scanned users now (placements ++ [placement])
      (visit (nodeUserIds users) now scanned placement) := by
  have dictionary := mem_nodeUserIds_id users (remoteId placement)
  by_cases blank : remoteId placement = ""
  · have notFound : found users placement = false := by simp [found, blank]
    have notLost : lost users placement = false := by simp [lost, blank]
    constructor
    · simp [visit, blank, sofar.present, List.countP_append, notFound]
    · simp [visit, blank, sofar.missing, notLost]
    · simp [visit, blank, sofar.tracked, notFound]
    · simp [visit, blank, sofar.rows, observe, tracked?_eq]
  · by_cases live : remoteId placement ∈ users.map UserInfo.id
    · have isFound : found users placement = true := by
        simp only [found, blank, listed_iff, live, Bool.and_eq_true, decide_eq_true_eq, ne_eq,
          not_false_eq_true, and_self]
      have notLost : lost users placement = false := by
        simp only [lost, (listed_iff _).2 live, Bool.not_true, Bool.and_false]
      have inDictionary := dictionary.2 live
      have visited : visit (nodeUserIds users) now scanned placement = _ :=
        if_pos ⟨blank, inDictionary⟩
      rw [visited]
      constructor
      · simp [sofar.present, List.countP_append, isFound]
      · simp [sofar.missing, notLost]
      · simp [sofar.tracked, isFound, or_comm]
      · simp [sofar.rows, observe, tracked?_eq, blank, (listed_iff _).2 live]
    · have notFound : found users placement = false := by
        have unlisted := mt (listed_iff _).1 live
        simp [found, unlisted]
      have isLost : lost users placement = true := by
        have unlisted := mt (listed_iff _).1 live
        simp [lost, unlisted, blank]
      have visited : visit (nodeUserIds users) now scanned placement = _ :=
        (if_neg fun both => live (dictionary.1 both.2)).trans (if_pos blank)
      rw [visited]
      constructor
      · simp [sofar.present, List.countP_append, notFound]
      · simp [sofar.missing, isLost, missingItem, remoteUserId_of_ne blank]
      · simp [sofar.tracked, notFound]
      · simp [sofar.rows, observe, tracked?_eq, blank, mt (listed_iff _).1 live]

theorem scan_scanned (users : List UserInfo) (now : Datetime) (placements : List UserPlacement) :
    Scanned users now placements (scan (nodeUserIds users) now placements) := by
  induction placements using List.reverseRecOn with
  | nil => exact ⟨rfl, rfl, by simp [scan], rfl⟩
  | append_singleton placements placement ih =>
      rw [scan, List.foldl_append]
      exact visit_scanned ih placement

theorem foldl_unmatched (trackedRemoteIds : List String) (entries : List UserInfo)
    (items : List DriftItem) :
    entries.foldl (unmatched trackedRemoteIds) items =
      items ++ (entries.filter fun user => !trackedRemoteIds.contains user.id).map fun user =>
        { kind := .untracked, remoteUserId := some user.id, username := some user.name } := by
  induction entries generalizing items with
  | nil => simp
  | cons user rest ih =>
      by_cases matched : user.id ∈ trackedRemoteIds <;> simp [ih, unmatched, matched]

theorem filterMap_tracked? (placements : List UserPlacement) :
    placements.filterMap tracked? =
      (placements.filter fun placement => remoteId placement ≠ "").map remoteId := by
  induction placements with
  | nil => rfl
  | cons placement rest ih =>
      rw [List.filterMap_cons, tracked?_eq]
      by_cases blank : remoteId placement = "" <;> simp [blank, ih]

theorem filterMap_found (placements : List UserPlacement) :
    (placements.filterMap tracked?).filter (listed users) =
      (placements.filter (found users)).map remoteId := by
  rw [filterMap_tracked?, List.filter_map, List.filter_filter]
  congr 1
  apply List.filter_congr
  intro placement _
  exact Bool.and_comm _ _

theorem filterMap_lost (placements : List UserPlacement) :
    (placements.filterMap tracked?).filter (fun userId => !listed users userId) =
      (placements.filter (lost users)).map remoteId := by
  rw [filterMap_tracked?, List.filter_map, List.filter_filter]
  congr 1
  apply List.filter_congr
  intro placement _
  exact Bool.and_comm _ _

-- The two loops compute the report, and leave the rows, that a sweep is modelled with.
theorem reconcile_eq (node : Node) (placements : List UserPlacement) :
    reconcile now users node placements =
      (reportOf users node placements, placements.map (observe users now)) := by
  have scanned := scan_scanned users now placements
  have matched : ∀ userId,
      (scan (nodeUserIds users) now placements).trackedRemoteIds.contains userId =
        ((placements.filter (found users)).map remoteId).contains userId := by
    intro userId
    rw [Bool.eq_iff_iff, List.contains_iff_mem, List.contains_iff_mem, scanned.tracked]
  unfold reconcile reportOf
  simp only [foldl_unmatched, List.nil_append, matched, scanned.present, scanned.missing,
    scanned.rows, filterMap_found, filterMap_lost, List.length_map, List.countP_eq_length_filter,
    List.map_map]
  rfl

/-- Every placement is counted once and every live id is accounted for. -/
structure Partition (users : List UserInfo) (placements : List UserPlacement)
    (report : NodeSyncReport) : Prop where
  reachable : report.reachable = true
  tracked : report.tracked = placements.length
  present : report.present = placements.countP fun placement =>
    remoteId placement ≠ "" ∧ remoteId placement ∈ users.map UserInfo.id
  missing : report.missing = (placements.filter fun placement =>
    remoteId placement ≠ "" ∧ remoteId placement ∉ users.map UserInfo.id).map missingItem
  once : (report.untracked.map DriftItem.remoteUserId).Nodup
  untracked : ∀ userId, some userId ∈ report.untracked.map DriftItem.remoteUserId ↔
    userId ∈ users.map UserInfo.id ∧
      ∀ placement ∈ placements, remoteId placement ≠ "" → remoteId placement ≠ userId
  known : ∀ item ∈ report.untracked, item.kind = .untracked ∧ ∃ user ∈ users,
    item.remoteUserId = some user.id ∧ item.username = some user.name
  counted : report.present + report.missing.length +
    (placements.countP fun placement => remoteId placement = "") = report.tracked
  inSync : report.inSync = true ↔
    ∀ userId, (userId ≠ "" ∧ userId ∈ placements.map remoteId) ↔ userId ∈ users.map UserInfo.id

theorem found_iff (placement : UserPlacement) :
    found users placement = true ↔
      remoteId placement ≠ "" ∧ remoteId placement ∈ users.map UserInfo.id := by
  simp [found]

theorem lost_iff (placement : UserPlacement) :
    lost users placement = true ↔
      remoteId placement ≠ "" ∧ remoteId placement ∉ users.map UserInfo.id := by
  rw [lost, Bool.and_eq_true, decide_eq_true_iff, Bool.not_eq_true', ← Bool.not_eq_true,
    listed_iff]

section Report

variable (users) (node : Node) (placements : List UserPlacement)

theorem reportOf_present : (reportOf users node placements).present =
    placements.countP fun placement =>
      remoteId placement ≠ "" ∧ remoteId placement ∈ users.map UserInfo.id := by
  simp only [reportOf, filterMap_found, List.length_map, ← List.countP_eq_length_filter]
  exact List.countP_congr fun placement _ => by rw [found_iff, decide_eq_true_iff]

theorem reportOf_missing : (reportOf users node placements).missing =
    (placements.filter fun placement =>
      remoteId placement ≠ "" ∧ remoteId placement ∉ users.map UserInfo.id).map missingItem := by
  simp only [reportOf, filterMap_lost, List.map_map]
  refine congrArg₂ List.map rfl (List.filter_congr fun placement _ => ?_)
  rw [Bool.eq_iff_iff, lost_iff, decide_eq_true_iff]

theorem reportOf_untracked : (reportOf users node placements).untracked.map
      DriftItem.remoteUserId =
    (((nodeUserIds users).filter fun user =>
      !((placements.filter (found users)).map remoteId).contains user.id).map UserInfo.id).map
        some := by
  simp [reportOf, filterMap_found]

theorem mem_untracked (userId : String) :
    some userId ∈ (reportOf users node placements).untracked.map DriftItem.remoteUserId ↔
      userId ∈ users.map UserInfo.id ∧
        ∀ placement ∈ placements, remoteId placement ≠ "" → remoteId placement ≠ userId := by
  rw [reportOf_untracked, ← mem_nodeUserIds_id]
  simp only [List.mem_map, List.mem_filter, Option.some.injEq, exists_eq_right,
    Bool.not_eq_true', ← Bool.not_eq_true, List.contains_iff_mem, found_iff]
  constructor
  · rintro ⟨user, ⟨member, unmatched⟩, rfl⟩
    refine ⟨⟨user, member, rfl⟩, fun placement placed named same => unmatched ?_⟩
    have live := (mem_nodeUserIds_id users user.id).1 (List.mem_map_of_mem member)
    exact ⟨placement, ⟨placed, named, by rwa [same, ← List.mem_map]⟩, same⟩
  · rintro ⟨⟨user, member, rfl⟩, unplaced⟩
    refine ⟨user, ⟨member, ?_⟩, rfl⟩
    rintro ⟨placement, ⟨placed, named, -⟩, same⟩
    exact unplaced placement placed named same

theorem untracked_nodup :
    ((reportOf users node placements).untracked.map DriftItem.remoteUserId).Nodup := by
  rw [reportOf_untracked]
  have unique := (nodeUserIds_unique users).sublist
    ((List.filter_sublist (p := fun user =>
      !((placements.filter (found users)).map remoteId).contains user.id)).map UserInfo.id)
  exact unique.map (Option.some_injective String)

theorem untracked_known : ∀ item ∈ (reportOf users node placements).untracked,
    item.kind = .untracked ∧ ∃ user ∈ users,
      item.remoteUserId = some user.id ∧ item.username = some user.name := by
  intro item member
  obtain ⟨user, listed, rfl⟩ := List.mem_map.1 member
  exact ⟨rfl, user, mem_of_mem_nodeUserIds (List.mem_filter.1 listed).1, rfl, rfl⟩

theorem counted (placements : List UserPlacement) :
    (placements.countP fun placement =>
        remoteId placement ≠ "" ∧ remoteId placement ∈ users.map UserInfo.id) +
      (placements.countP fun placement =>
        remoteId placement ≠ "" ∧ remoteId placement ∉ users.map UserInfo.id) +
      (placements.countP fun placement => remoteId placement = "") = placements.length := by
  induction placements with
  | nil => rfl
  | cons placement rest ih =>
      rw [List.length_cons, ← ih, List.countP_cons, List.countP_cons, List.countP_cons]
      by_cases blank : remoteId placement = ""
      · simp only [blank, ne_eq, not_true_eq_false, false_and, decide_false, decide_true,
          Bool.false_eq_true, if_false, if_true]
        omega
      · by_cases live : remoteId placement ∈ users.map UserInfo.id
        all_goals
          simp only [blank, live, ne_eq, not_false_eq_true, not_true_eq_false, and_true, and_false,
            decide_false, decide_true, Bool.false_eq_true, if_false, if_true]
          omega

theorem inSync_iff : (reportOf users node placements).inSync = true ↔
    ∀ userId, (userId ≠ "" ∧ userId ∈ placements.map remoteId) ↔
      userId ∈ users.map UserInfo.id := by
  have untracked := mem_untracked users node placements
  have empty : (reportOf users node placements).inSync = true ↔
      (reportOf users node placements).missing = [] ∧
        (reportOf users node placements).untracked = [] := by
    simp [NodeSyncReport.inSync, reportOf]
  rw [empty, reportOf_missing, List.map_eq_nil_iff, List.filter_eq_nil_iff]
  simp only [decide_eq_true_eq, not_and, not_not]
  constructor
  · rintro ⟨none, unlisted⟩ userId
    constructor
    · rintro ⟨named, placed⟩
      obtain ⟨placement, member, rfl⟩ := List.mem_map.1 placed
      exact none placement member named
    · intro live
      have tracked := mt (untracked userId).2 (by simp [unlisted])
      simp only [not_and, not_forall, not_not] at tracked
      obtain ⟨placement, member, named, rfl⟩ := tracked live
      exact ⟨named, List.mem_map_of_mem member⟩
  · intro same
    refine ⟨fun placement member named =>
      (same _).1 ⟨named, List.mem_map_of_mem member⟩, ?_⟩
    rw [List.eq_nil_iff_forall_not_mem]
    intro item listed
    obtain ⟨-, user, member, remote, -⟩ := untracked_known users node placements item listed
    obtain ⟨live, unplaced⟩ := (untracked user.id).1 (List.mem_map.2 ⟨item, listed, remote⟩)
    obtain ⟨named, placed⟩ := (same user.id).2 live
    obtain ⟨placement, present, remote⟩ := List.mem_map.1 placed
    exact unplaced placement present (by rwa [remote]) remote

theorem reportOf_partition : Partition users placements (reportOf users node placements) where
  reachable := rfl
  tracked := rfl
  present := reportOf_present users node placements
  missing := reportOf_missing users node placements
  once := untracked_nodup users node placements
  untracked := mem_untracked users node placements
  known := untracked_known users node placements
  counted := by
    rw [reportOf_present, reportOf_missing, List.length_map, ← List.countP_eq_length_filter]
    exact counted users placements
  inSync := inSync_iff users node placements

end Report

end Reports

section Sweeps

variable {users : List UserInfo}

def standing (placement : UserPlacement) : (String × String) × PlacementStatus × Option String :=
  (placement.key, placement.status, placement.lastError)

/-- What one sweep of a node reports and leaves for the next one. -/
structure Reconciled (database next : Database) (node : Node) (listing : Listing)
    (users : List UserInfo) (report : NodeSyncReport) : Prop where
  loops : reconcile listing.now users node (placementsOn database.tables node.id) =
    (report, placementsOn next.tables node.id)
  partition : Partition users (placementsOn database.tables node.id) report
  repeats : ∀ again : Listing, again.reply = listing.reply → ∃ calls final,
    syncNode next { node with lastSyncedAt := some listing.now } again =
        (calls, .ok (report, final)) ∧
      final.tables.placements.map standing = next.tables.placements.map standing

theorem tracked?_observe (users : List UserInfo) (now : Datetime) (placement : UserPlacement) :
    tracked? (observe users now placement) = tracked? placement := by
  rw [tracked?, tracked?, observe_remote]

theorem observe_listed {placement : UserPlacement} {userId : String} (now : Datetime)
    (named : tracked? placement = some userId) (live : listed users userId = true) :
    observe users now placement =
      { placement with status := .active, lastError := none, lastSyncedAt := some now } := by
  rw [observe, named]
  exact if_pos live

theorem observe_unlisted {placement : UserPlacement} {userId : String} (now : Datetime)
    (named : tracked? placement = some userId) (gone : ¬ listed users userId = true) :
    observe users now placement =
      { placement with status := .missing, lastSyncedAt := some now } := by
  rw [observe, named]
  exact if_neg gone

theorem observe_unnamed {placement : UserPlacement} (now : Datetime)
    (unnamed : tracked? placement = none) :
    observe users now placement = { placement with lastSyncedAt := some now } := by
  rw [observe, unnamed]

theorem observe_again (first again : Datetime) (placement : UserPlacement) :
    standing (observe users again (observe users first placement)) =
      standing (observe users first placement) := by
  cases named : tracked? placement with
  | none =>
      rw [observe_unnamed again ((tracked?_observe users first placement).trans named)]
      rfl
  | some userId =>
      have still := (tracked?_observe users first placement).trans named
      by_cases live : listed users userId = true
      · rw [observe_listed again still live, observe_listed first named live]
        rfl
      · rw [observe_unlisted again still live, observe_unlisted first named live]
        rfl

theorem placementsOn_observed (now : Datetime) (tables : Tables) (nodeId : String) :
    placementsOn (observed users now tables nodeId) nodeId =
      (placementsOn tables nodeId).map (observe users now) := by
  have site (placement : UserPlacement) :
      (observe users now placement).nodeId = placement.nodeId :=
    (Prod.mk.inj (observe_key placement)).2
  simp only [placementsOn, observed]
  induction tables.placements with
  | nil => rfl
  | cons placement rest ih =>
      by_cases here : placement.nodeId = nodeId <;> simp [here, site, ih]

theorem reportOf_observed (users : List UserInfo) (now : Datetime) (node other : Node)
    (sameId : other.id = node.id) (sameName : other.name = node.name) (tables : Tables) :
    reportOf users other (placementsOn (observed users now tables node.id) node.id) =
      reportOf users node (placementsOn tables node.id) := by
  have remote : ((placementsOn tables node.id).map (observe users now)).filterMap tracked? =
      (placementsOn tables node.id).filterMap tracked? := by
    rw [List.filterMap_map]
    exact List.filterMap_congr fun placement _ => tracked?_observe users now placement
  simp only [reportOf, placementsOn_observed, remote, List.length_map, sameId, sameName]

theorem syncNode_lists {node : Node} {listing : Listing} {users : List UserInfo}
    (lists : Lists node listing users) (database : Database) :
    ∃ calls next, syncNode database node listing =
        (calls, .ok (reportOf users node (placementsOn database.tables node.id), next)) ∧
      next.tables = observed users listing.now database.tables node.id := by
  rcases syncNode_cases database node listing with
    ⟨others, calls, ⟨-, answered⟩, taken⟩ | ⟨silent, -⟩
  · obtain rfl : others = users := Except.ok.inj (answered.symm.trans lists.2)
    exact ⟨calls, _, taken, rfl⟩
  · exact absurd ⟨users, lists⟩ silent

theorem standing_observed (first again : Datetime) (tables : Tables) (nodeId : String) :
    (observed users again (observed users first tables nodeId) nodeId).placements.map standing =
      (observed users first tables nodeId).placements.map standing := by
  simp only [observed, List.map_map]
  apply List.map_congr_left
  intro placement _
  by_cases here : placement.nodeId = nodeId
  · have site : (observe users first placement).nodeId = nodeId :=
      (Prod.mk.inj (observe_key placement)).2.trans here
    simp only [Function.comp_apply, here, site, if_true]
    exact observe_again first again placement
  · simp only [Function.comp_apply, here, if_false]

theorem syncNode_reconciles (database : Database) (node : Node) (listing : Listing) :
    (∀ users, Lists node listing users → ∃ calls report next,
        syncNode database node listing = (calls, .ok (report, next)) ∧
          Reconciled database next node listing users report) ∧
      ∀ text, node.Serves .listUsers → listing.reply = .error text → ∃ calls report,
        syncNode database node listing = (calls, .ok (report, database)) ∧
          report.reachable = false := by
  constructor
  · intro users lists
    obtain ⟨calls, next, taken, tables⟩ := syncNode_lists lists database
    refine ⟨calls, _, next, taken, ?_, reportOf_partition users node _, fun again same => ?_⟩
    · rw [reconcile_eq, tables, placementsOn_observed]
    have listsAgain : Lists { node with lastSyncedAt := some listing.now } again users :=
      ⟨lists.1, same.trans lists.2⟩
    obtain ⟨later, final, repeated, after⟩ := syncNode_lists listsAgain next
    have sameReport := reportOf_observed users listing.now node
      { node with lastSyncedAt := some listing.now } rfl rfl database.tables
    rw [← tables] at sameReport
    refine ⟨later, final, ?_, ?_⟩
    · rw [repeated, ← sameReport]
    · rw [after, tables]
      exact standing_observed listing.now again.now database.tables node.id
  · rintro text ⟨built, implemented⟩ refused
    refine ⟨[⟨node.id, .listUsers, .failed text⟩],
      unreachable node (placementsOn database.tables node.id).length text, ?_, rfl⟩
    simp [syncNode, buildAdapterForNode, built, implemented, refused]

end Sweeps

section EmptyIds

open Tracking

-- Carol's site gave her an empty id, and lists a user with that id.
def blankId : Database :=
  ⟨⟨[vpn "n1"], [carol],
    [{ logicalUserId := "lu-1", nodeId := "n1", orgId := "org-1", remoteUserId := some "",
       status := .active }], []⟩, by decide⟩

def blankListing : Listing := ⟨.ok [{ id := "", name := "carol" }], noon⟩

theorem blankId_untracked : ∃ calls report next,
    syncNode blankId (vpn "n1") blankListing = (calls, .ok (report, next)) ∧
      ¬ ∀ userId, some userId ∈ report.untracked.map DriftItem.remoteUserId ↔
        userId ∈ [""] ∧ ∀ placement ∈ placementsOn blankId.tables "n1",
          placement.remoteUserId ≠ some userId := by
  refine ⟨_, _, _, rfl, fun exactly => ?_⟩
  have listed := (exactly "").1 (by decide)
  exact absurd rfl (listed.2 _ List.mem_cons_self)

end EmptyIds

end Fleet.Reconciliation
