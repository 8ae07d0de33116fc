import Fleet.ControlPlane.Isolation
import Fleet.ControlPlane.Operations
import Fleet.Shared.Decimal
import Fleet.Shared.Delimited
import Fleet.Shared.StableSort

set_option autoImplicit false

namespace Fleet.Bundle

open Db NodeAdapter Provisioning Operations Decimal StableSort

-- A placement with its node, if it is one the bundle is about.
def pairOf (tables : Tables) (placement : UserPlacement) : Option (UserPlacement × Node) :=
  if placement.remoteUserId.getD "" = "" ∨ placement.status ≠ .active then none
  else (tables.node? placement.nodeId).map fun node => (placement, node)

def eligible (tables : Tables) (userId : String) : List (UserPlacement × Node) :=
  (tables.placementsOf userId).filterMap (pairOf tables)

/-- The reachable sites in placement order, then the degraded ones, and so on. -/
def healthOrdered (tables : Tables) (userId : String) : List (UserPlacement × Node) :=
  grouped (fun pair => pair.2.status) [.reachable, .degraded, .unknown, .down]
    (eligible tables userId)

section Members

variable (answers : String → Except String ByteArray)

def issues (node : Node) : Bool := (answers node.id).isOk

/-- An active placement with a remote id whose node exists and issues the profile. -/
def Deserves (tables : Tables) (placement : UserPlacement) : Prop :=
  placement.status = .active ∧ placement.remoteUserId.getD "" ≠ "" ∧
    ∃ node ∈ tables.node? placement.nodeId, issues answers node = true

instance (tables : Tables) : DecidablePred (Deserves answers tables) :=
  fun _ => inferInstanceAs (Decidable (_ ∧ _ ∧ _))

/-- What the promise of the bundle says of its profile members and the sites they are from. -/
structure Faithful (tables : Tables) (lu : LogicalUser) (issued : List (UserPlacement × Node))
    (profiles : List (String × ByteArray)) : Prop where
  members : (issued.map Prod.fst).Perm
    ((tables.placementsOf lu.id).filter fun placement => Deserves answers tables placement)
  nodes : ∀ pair ∈ issued, tables.node? pair.1.nodeId = some pair.2
  written : List.Forall₂ (fun pair profile => answers pair.2.id = .ok profile.2 ∧
    ∃ index, profile.1 = profileName lu index pair.2) issued profiles
  ranked : issued.Pairwise fun pair later =>
    healthRank pair.2.status ≤ healthRank later.2.status
  ties : ∀ rank, ((issued.filter fun pair => healthRank pair.2.status = rank).map
    Prod.fst).Sublist (tables.placementsOf lu.id)
  distinct : (profiles.map Prod.fst).Nodup
  sorted : (profiles.map Prod.fst).insertionSort (· ≤ ·) = profiles.map Prod.fst

/-- The sites whose node issues the profile, with their index. -/
def issuedSites (index : Nat) (pairs : List (UserPlacement × Node)) :
    List ((UserPlacement × Node) × Nat) :=
  (pairs.zipIdx index).filter fun site => issues answers site.1.2

/-- The numbers, from one, of these sites among the sites in health order. -/
def issuedNumbers (tables : Tables) (userId : String) : List Nat :=
  (issuedSites answers 0 (healthOrdered tables userId)).map fun site => site.2 + 1

def memberOf (lu : LogicalUser) (site : (UserPlacement × Node) × Nat) :
    Option (String × ByteArray) :=
  (answers site.1.2.id).toOption.map fun data => (profileName lu site.2 site.1.2, data)

end Members

variable {tables : Tables} {userId : String} {lu : LogicalUser}
  {answers : String → Except String ByteArray}

theorem pairOf_eq_some {placement : UserPlacement} {pair : UserPlacement × Node} :
    pairOf tables placement = some pair ↔
      placement.status = .active ∧ placement.remoteUserId.getD "" ≠ "" ∧ pair.1 = placement ∧
        tables.node? placement.nodeId = some pair.2 := by
  obtain ⟨first, node⟩ := pair
  unfold pairOf
  split
  next unwanted =>
    simp only [reduceCtorEq, false_iff]
    rintro ⟨active, remote, -⟩
    exact unwanted.elim remote fun inactive => inactive active
  next wanted =>
    rw [not_or, not_not] at wanted
    simp only [wanted, Option.map_eq_some_iff, Prod.mk.injEq, ne_eq, not_false_eq_true, true_and,
      eq_comm (a := first)]
    constructor
    next =>
      rintro ⟨node, found, same, rfl⟩
      exact ⟨same, found⟩
    next =>
      rintro ⟨same, found⟩
      exact ⟨node, found, same, rfl⟩

theorem map_filter_pairs (kept : UserPlacement × Node → Bool) (placements : List UserPlacement) :
    ((placements.filterMap (pairOf tables)).filter kept).map Prod.fst =
      placements.filter fun placement => (pairOf tables placement).any kept := by
  induction placements with
  | nil => rfl
  | cons placement rest ih =>
      cases paired : pairOf tables placement with
      | none => simp [paired, ih]
      | some pair =>
          obtain ⟨-, -, same, -⟩ := pairOf_eq_some.1 paired
          cases wanted : kept pair <;> simp [paired, wanted, ih, same]

theorem deserves_iff {placement : UserPlacement} :
    Deserves answers tables placement ↔
      ((pairOf tables placement).any fun pair => issues answers pair.2) = true := by
  rw [Option.any_eq_true]
  constructor
  next =>
    rintro ⟨active, remote, node, found, issued⟩
    exact ⟨(placement, node), pairOf_eq_some.2 ⟨active, remote, rfl, found⟩, issued⟩
  next =>
    rintro ⟨pair, paired, issued⟩
    obtain ⟨active, remote, -, found⟩ := pairOf_eq_some.1 paired
    exact ⟨active, remote, pair.2, found, issued⟩

theorem node?_of_mem_eligible {pair : UserPlacement × Node} (member : pair ∈ eligible tables userId) :
    tables.node? pair.1.nodeId = some pair.2 := by
  obtain ⟨placement, -, paired⟩ := List.mem_filterMap.1 member
  obtain ⟨-, -, same, found⟩ := pairOf_eq_some.1 paired
  rwa [same]

theorem bundlePairs_eq : bundlePairs tables userId = healthOrdered tables userId := by
  apply insertionSort_eq_grouped (fun pair : UserPlacement × Node => pair.2.status) healthRank
  · decide
  · intro pair _
    cases pair.2.status <;> decide

-- One turn of the loop: the member of the site, if it issues one, before those of the rest.
theorem bundleProfiles_cons (index : Nat) {pair : UserPlacement × Node}
    (rest : List (UserPlacement × Node)) (served : pair.2.Serves (issuing pair.1)) :
    (bundleProfiles lu answers index (pair :: rest)).2 =
      (bundleProfiles lu answers (index + 1) rest).2.map fun members =>
        (memberOf answers lu (pair, index)).toList ++ members := by
  obtain ⟨builds, implemented⟩ := served
  rw [issuing] at implemented
  cases reply : answers pair.2.id <;>
    cases later : (bundleProfiles lu answers (index + 1) rest).2 <;>
      simp [bundleProfiles, buildAdapterForNode, builds, implemented, reply, later, memberOf,
        Except.toOption, Except.map]

theorem bundleProfiles_unserved (index : Nat) {pair : UserPlacement × Node}
    (rest : List (UserPlacement × Node)) (unserved : ¬ pair.2.Serves (issuing pair.1)) :
    ∃ error, (bundleProfiles lu answers index (pair :: rest)).2 = .error error := by
  cases builds : rejects pair.2.adapterType pair.2.endpoint pair.2.credentials with
  | some text => exact ⟨.adapterError text, by simp [bundleProfiles, buildAdapterForNode, builds]⟩
  | none =>
      have missing : implements pair.2.adapterType (issuing pair.1) = false :=
        Bool.eq_false_iff.2 fun implemented => unserved ⟨builds, implemented⟩
      rw [issuing] at missing
      exact ⟨.notImplemented, by simp [bundleProfiles, buildAdapterForNode, builds, missing]⟩

theorem bundleProfiles_of_served (index : Nat) {pairs : List (UserPlacement × Node)}
    (served : ∀ pair ∈ pairs, pair.2.Serves (issuing pair.1)) :
    (bundleProfiles lu answers index pairs).2 =
      .ok ((pairs.zipIdx index).filterMap (memberOf answers lu)) := by
  induction pairs generalizing index with
  | nil => rfl
  | cons pair rest ih =>
      rw [List.forall_mem_cons] at served
      rw [bundleProfiles_cons index rest served.1, ih (index + 1) served.2, List.zipIdx_cons,
        Except.map]
      cases issued : memberOf answers lu (pair, index) <;> simp [issued]

theorem served_of_bundleProfiles {index : Nat} {pairs : List (UserPlacement × Node)}
    {members : List (String × ByteArray)}
    (built : (bundleProfiles lu answers index pairs).2 = .ok members) :
    ∀ pair ∈ pairs, pair.2.Serves (issuing pair.1) := by
  induction pairs generalizing index members with
  | nil => simp
  | cons pair rest ih =>
      by_cases served : pair.2.Serves (issuing pair.1)
      · rw [bundleProfiles_cons index rest served] at built
        cases later : (bundleProfiles lu answers (index + 1) rest).2 with
        | ok members => exact List.forall_mem_cons.2 ⟨served, ih later⟩
        | error error =>
            rw [later] at built
            cases built
      · obtain ⟨error, failed⟩ := bundleProfiles_unserved index rest served
        rw [failed] at built
        cases built

theorem buildIdentityBundle_eq {database : Database} {logicalUserId : String}
    (found : database.tables.user? logicalUserId = some lu) :
    (buildIdentityBundle database logicalUserId answers).2 =
      (bundleProfiles lu answers 0 (healthOrdered database.tables lu.id)).2.map fun profiles =>
        (lu.username ++ "-profiles.zip", ("README.txt", (bundleReadme lu).toUTF8) :: profiles) := by
  rw [buildIdentityBundle, found, ← bundlePairs_eq]

section Numbers

variable (pairs : List (UserPlacement × Node)) (index : Nat)

theorem issuedSites_increasing : (issuedSites answers index pairs).Pairwise (·.2 < ·.2) := by
  have numbers : ((pairs.zipIdx index).map Prod.snd).Pairwise (· < ·) := by
    rw [List.zipIdx_map_snd]
    exact List.pairwise_lt_range'
  exact (List.pairwise_map.1 numbers).sublist List.filter_sublist

theorem names_eq :
    ((pairs.zipIdx index).filterMap (memberOf answers lu)).map Prod.fst =
      (issuedSites answers index pairs).map fun site => profileName lu site.2 site.1.2 := by
  induction pairs generalizing index with
  | nil => rfl
  | cons pair rest ih =>
      cases reply : answers pair.2.id <;>
        simpa [issuedSites, memberOf, issues, reply, Except.toOption, Except.isOk, Except.toBool]
          using ih (index + 1)

theorem written :
    List.Forall₂ (fun (pair : UserPlacement × Node) profile => answers pair.2.id = .ok profile.2 ∧
        ∃ index, profile.1 = profileName lu index pair.2)
      (pairs.filter fun pair => issues answers pair.2)
      ((pairs.zipIdx index).filterMap (memberOf answers lu)) := by
  induction pairs generalizing index with
  | nil => exact .nil
  | cons pair rest ih =>
      have later := ih (index + 1)
      cases reply : answers pair.2.id with
      | error text =>
          simpa [memberOf, issues, reply, Except.toOption, Except.isOk, Except.toBool] using later
      | ok data =>
          have here : ∃ number, profileName lu index pair.2 = profileName lu number pair.2 :=
            ⟨index, rfl⟩
          simpa [memberOf, issues, reply, Except.toOption, Except.isOk, Except.toBool, here]
            using later

end Numbers

section Names

variable {first second : Nat} {node other : Node}

theorem profileName_toList (lu : LogicalUser) (index : Nat) (node : Node) :
    ∃ rest, (profileName lu index node).toList =
      Datetime.padded 2 (index + 1) ++ '-' :: rest := by
  simp [profileName]

theorem profileName_ne (less : first < second) :
    profileName lu first node ≠ profileName lu second other := by
  obtain ⟨rest, left⟩ := profileName_toList lu first node
  obtain ⟨rest', right⟩ := profileName_toList lu second other
  intro same
  rw [← String.toList_inj, left, right] at same
  obtain ⟨numbers, -⟩ := Delimited.split_of_absent same (notMem_padded rfl) (notMem_padded rfl)
  have equal := padded_inj.1 numbers
  omega

theorem profileName_lt_iff (less : first < second) :
    profileName lu first node < profileName lu second other ↔
      Precedes 2 (first + 1) (second + 1) := by
  obtain ⟨rest, left⟩ := profileName_toList lu first node
  obtain ⟨rest', right⟩ := profileName_toList lu second other
  rw [String.lt_iff, left, right]
  exact padded_lt_padded_iff (by decide) (Nat.succ_lt_succ less)

end Names

section Order

theorem sorted_iff (index : Nat) (pairs : List (UserPlacement × Node)) :
    let names := (issuedSites answers index pairs).map fun site => profileName lu site.2 site.1.2
    names.insertionSort (· ≤ ·) = names ↔
      ((issuedSites answers index pairs).map fun site => site.2 + 1).Pairwise (Precedes 2) := by
  intro names
  have increasing := @issuedSites_increasing answers pairs index
  constructor
  next =>
    intro sorted
    have ascending : names.Pairwise (· ≤ ·) := by
      rw [← sorted]
      exact List.pairwise_insertionSort _ _
    rw [List.pairwise_map] at ascending ⊢
    apply (increasing.and ascending).imp
    rintro site later ⟨less, le⟩
    rw [← profileName_lt_iff less]
    exact lt_of_le_of_ne le (profileName_ne less)
  next =>
    intro numbers
    apply List.Pairwise.insertionSort_eq
    rw [List.pairwise_map] at numbers ⊢
    apply (increasing.and numbers).imp
    rintro site later ⟨less, precedes⟩
    exact le_of_lt ((profileName_lt_iff less).2 precedes)

theorem distinct (index : Nat) (pairs : List (UserPlacement × Node)) :
    ((issuedSites answers index pairs).map fun site => profileName lu site.2 site.1.2).Nodup := by
  rw [List.Nodup, List.pairwise_map]
  exact (issuedSites_increasing pairs index).imp fun less => profileName_ne less

theorem ranked :
    (healthOrdered tables userId).Pairwise fun pair later =>
      healthRank pair.2.status ≤ healthRank later.2.status := by
  rw [← bundlePairs_eq]
  exact pairwise_insertionSort (fun pair : UserPlacement × Node => healthRank pair.2.status) _

theorem healthOrdered_perm : (healthOrdered tables userId).Perm (eligible tables userId) := by
  rw [← bundlePairs_eq]
  exact List.perm_insertionSort _ _

theorem ties (rank : Nat) :
    ((healthOrdered tables userId).filter fun pair => healthRank pair.2.status = rank) =
      (eligible tables userId).filter fun pair => healthRank pair.2.status = rank := by
  rw [← bundlePairs_eq]
  exact filter_insertionSort id (eligible tables userId) rank

theorem faithful_of_precedes (numbers : (issuedNumbers answers tables lu.id).Pairwise (Precedes 2)) :
    Faithful answers tables lu
      ((healthOrdered tables lu.id).filter fun pair => issues answers pair.2)
      (((healthOrdered tables lu.id).zipIdx 0).filterMap (memberOf answers lu)) where
  members := by
    apply ((healthOrdered_perm.filter _).map Prod.fst).trans
    rw [eligible, map_filter_pairs]
    apply List.Perm.of_eq
    apply List.filter_congr
    intro placement _
    rw [← Bool.coe_iff_coe, ← deserves_iff, decide_eq_true_iff]
  nodes pair member :=
    node?_of_mem_eligible (healthOrdered_perm.mem_iff.1 (List.mem_of_mem_filter member))
  written := written _ 0
  ranked := ranked.sublist List.filter_sublist
  ties rank := by
    rw [List.filter_comm, ties, List.filter_filter, eligible, map_filter_pairs]
    exact List.filter_sublist
  distinct := by
    rw [names_eq]
    exact distinct 0 _
  sorted := by
    rw [names_eq]
    exact (sorted_iff 0 _).2 numbers

end Order

section Archive

variable {database : Database} {logicalUserId : String}

theorem buildIdentityBundle_of_served
    (found : database.tables.user? logicalUserId = some lu)
    (served : ∀ pair ∈ eligible database.tables lu.id, pair.2.Serves (issuing pair.1)) :
    (buildIdentityBundle database logicalUserId answers).2 =
      .ok (lu.username ++ "-profiles.zip", ("README.txt", (bundleReadme lu).toUTF8) ::
        ((healthOrdered database.tables lu.id).zipIdx 0).filterMap (memberOf answers lu)) := by
  rw [buildIdentityBundle_eq found, bundleProfiles_of_served 0]
  · rfl
  · exact fun pair member => served pair (healthOrdered_perm.mem_iff.1 member)

theorem served_of_returned {archive : String × List (String × ByteArray)}
    (found : database.tables.user? logicalUserId = some lu)
    (returned : (buildIdentityBundle database logicalUserId answers).2 = .ok archive) :
    ∀ pair ∈ eligible database.tables lu.id, pair.2.Serves (issuing pair.1) := by
  rw [buildIdentityBundle_eq found] at returned
  cases built : (bundleProfiles lu answers 0 (healthOrdered database.tables lu.id)).2 with
  | error error => simp [built, Except.map] at returned
  | ok members =>
      intro pair member
      exact served_of_bundleProfiles built pair (healthOrdered_perm.mem_iff.2 member)

theorem precedes_of_faithful {issued : List (UserPlacement × Node)}
    (faithful : Faithful answers tables lu issued
      (((healthOrdered tables lu.id).zipIdx 0).filterMap (memberOf answers lu))) :
    (issuedNumbers answers tables lu.id).Pairwise (Precedes 2) := by
  have sorted := faithful.sorted
  rw [names_eq] at sorted
  exact (sorted_iff 0 _).1 sorted

-- The names are numbered with two digits at least, so they sort as the numbers do unless the
-- leading digits of a later one say a smaller number.
theorem bundle_faithful_iff (answers : String → Except String ByteArray)
    (found : database.tables.user? logicalUserId = some lu) :
    ((∃ archive, (buildIdentityBundle database logicalUserId answers).2 = .ok archive) ↔
        ∀ pair ∈ eligible database.tables lu.id, pair.2.Serves (issuing pair.1)) ∧
    ∀ zip readme profiles,
      (buildIdentityBundle database logicalUserId answers).2 = .ok (zip, readme :: profiles) →
        ((∃ issued, Faithful answers database.tables lu issued profiles) ↔
          (issuedNumbers answers database.tables lu.id).Pairwise (Precedes 2)) := by
  constructor
  next =>
    constructor
    next =>
      rintro ⟨archive, returned⟩
      exact served_of_returned found returned
    next => exact fun served => ⟨_, buildIdentityBundle_of_served found served⟩
  next =>
    intro zip readme profiles returned
    have known := @buildIdentityBundle_of_served lu answers database logicalUserId found
      (served_of_returned found returned)
    rw [returned] at known
    obtain ⟨-, files⟩ := Prod.mk.inj (Except.ok.inj known)
    obtain ⟨-, rfl⟩ := List.cons.inj files
    constructor
    next =>
      rintro ⟨issued, faithful⟩
      exact precedes_of_faithful faithful
    next => exact fun numbers => ⟨_, faithful_of_precedes numbers⟩

end Archive

-- Up to ninety-nine sites the numbers all have two digits.
theorem precede_of_few (few : (eligible tables userId).length ≤ 99) :
    (issuedNumbers answers tables userId).Pairwise (Precedes 2) := by
  have increasing := @issuedSites_increasing answers (healthOrdered tables userId) 0
  rw [issuedNumbers, List.pairwise_map]
  apply increasing.imp_of_mem
  intro site later member present less
  have two : ∀ other ∈ issuedSites answers 0 (healthOrdered tables userId),
      (Datetime.padded 2 (other.2 + 1)).length = 2 := by
    intro other listed
    have bound := List.snd_lt_of_mem_zipIdx (List.mem_of_mem_filter listed)
    rw [healthOrdered_perm.length_eq, Nat.add_zero] at bound
    have digits : (Nat.toDigits 10 (other.2 + 1)).length ≤ 2 := by
      rw [Nat.length_toDigits_le_iff (by decide) (by decide)]
      omega
    rw [length_padded]
    omega
  exact precedes_of_length (Nat.succ_lt_succ less) ((two _ member).trans (two _ present).symm)

section Carol

open Isolation (site shimCredentials)

def numbered (index : Nat) : String := String.ofList (Datetime.padded 2 index)

def placedAt (nodeId : String) : UserPlacement :=
  { logicalUserId := "u1", nodeId := nodeId, orgId := "org-1", remoteUserId := some "usr-1",
    status := .active }

theorem numbered_injective : Function.Injective numbered := by
  intro first second same
  exact padded_inj.1 (String.ofList_injective same)

-- One user on this many reachable nodes.
def fleet (count : Nat) : Database where
  tables := ⟨(List.range count).map fun index => site (numbered index) shimCredentials,
    [⟨"u1", "carol", none⟩], (List.range count).map fun index => placedAt (numbered index), []⟩
  valid := by
    have ids : ((List.range count).map numbered).Nodup := List.nodup_range.map numbered_injective
    refine ⟨?_, by simp [Keyed.Unique], by simp [Keyed.Unique], ?_, ?_, ?_⟩
    · simpa [Keyed.Unique, Function.comp_def, site] using ids
    · simpa [Keyed.Unique, Function.comp_def, placedAt, UserPlacement.key] using
        ids.map (fun _ _ => by simp)
    · simp [placedAt]
    · simpa [placedAt, site] using fun index present => ⟨index, present, rfl⟩

def carol : LogicalUser := ⟨"u1", "carol", none⟩

def sends (nodeId : String) : Except String ByteArray := .ok nodeId.toUTF8

theorem eligible_fleet (count : Nat) :
    eligible (fleet count).tables "u1" = (List.range count).map fun index =>
      (placedAt (numbered index), site (numbered index) shimCredentials) := by
  have mine : (fleet count).tables.placementsOf "u1" = (fleet count).tables.placements :=
    List.filter_eq_self.2 (by simp [fleet, placedAt])
  rw [eligible, mine, ← List.filterMap_eq_map, fleet, List.filterMap_map]
  apply List.filterMap_congr
  intro index listed
  have found := (fleet count).valid.nodes.lookup_of_mem (List.mem_map_of_mem listed)
  exact pairOf_eq_some.2 ⟨rfl, by simp [placedAt], rfl, found⟩

theorem fleet_served (count : Nat) :
    ∀ pair ∈ eligible (fleet count).tables "u1", pair.2.Serves (issuing pair.1) := by
  rw [eligible_fleet, List.forall_mem_map]
  exact fun _ _ => ⟨rfl, rfl⟩

theorem fleet_numbers : issuedNumbers sends (fleet 100).tables "u1" = List.range' 1 100 := by
  rw [issuedNumbers, healthOrdered, eligible_fleet]
  decide +kernel

example : profileName carol 99 (site "99" shimCredentials) <
    profileName carol 98 (site "98" shimCredentials) := by decide +kernel

-- The hundredth name starts with "100-" and sorts before the ninety-ninth.
theorem hundredth_out_of_order :
    ¬ ∀ (database : Database) (logicalUserId : String) (lu : LogicalUser)
      (answers : String → Except String ByteArray),
      database.tables.user? logicalUserId = some lu → ∀ zip readme profiles,
        (buildIdentityBundle database logicalUserId answers).2 = .ok (zip, readme :: profiles) →
          ∃ issued, Faithful answers database.tables lu issued profiles := by
  intro always
  obtain ⟨issued, faithful⟩ := always (fleet 100) "u1" carol sends rfl _ _ _
    (buildIdentityBundle_of_served rfl (fleet_served 100))
  have numbers := precedes_of_faithful faithful
  rw [carol, fleet_numbers] at numbers
  have last := numbers.sublist (by decide : [99, 100].Sublist (List.range' 1 100))
  have order := List.rel_of_pairwise_cons last List.mem_cons_self
  exact absurd order (by decide +kernel)

def mixed : Database where
  tables := ⟨[{ site "1" shimCredentials with status := .down }, site "2" shimCredentials,
    { site "3" shimCredentials with status := .degraded }], [carol],
    [placedAt "1", placedAt "2", placedAt "3"], []⟩
  valid := by decide

def degradedFails (nodeId : String) : Except String ByteArray :=
  if nodeId = "3" then .error "node shim 500" else sends nodeId

theorem mixed_in_order :
    ∃ zip readme profiles,
      (buildIdentityBundle mixed "u1" degradedFails).2 = .ok (zip, readme :: profiles) ∧
        profiles.map Prod.fst = ["01-SG-vpn-2-carol.tar", "03-SG-vpn-1-carol.tar"] ∧
          ∃ issued, Faithful degradedFails mixed.tables carol issued profiles := by
  have returned := @buildIdentityBundle_of_served carol degradedFails mixed "u1" rfl
    (by decide +kernel)
  have precede := @precede_of_few mixed.tables "u1" degradedFails (by decide +kernel)
  exact ⟨_, _, _, returned, by decide +kernel,
    ((bundle_faithful_iff degradedFails rfl).2 _ _ _ returned).2 precede⟩

end Carol

end Fleet.Bundle
