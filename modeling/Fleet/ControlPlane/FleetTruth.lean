import Fleet.ControlPlane.NodeContract
import Fleet.ControlPlane.Placements

set_option autoImplicit false

namespace Fleet.FleetTruth

open Db NodeAdapter Provisioning FanOut Sync Execution
open NodeContract (Account Draw Performed Site onAccount perform)
open ShimResponses (Returned Value)

/-- A node with every user id it has had; ids are drawn at random and not drawn twice. -/
structure Place where
  site : Site
  issued : List String
  held : ∀ account ∈ site.accounts, account.id ∈ issued

-- How one call of an adapter goes.
inductive Link where
  | unmade
  | lost (text : String)
  -- The node has done it, and the answer does not arrive.
  | unanswered (text : String) (draw : Draw)
  | answered (draw : Draw)

structure World where
  database : Database
  places : String → Place
  -- The nodes that may have lost a user since they were last listed.
  unsure : List String

def deletes : Operation → Bool
  | .deleteUser .. => true
  | _ => false

section Exchange

variable {Moment : Type} (nodeName : String) (fromisoformat : String → Option Moment)

def Place.fresh (place : Place) (draw : Draw) : Operation → Bool
  | .createUser .. => "usr-" ++ draw.drawn ∉ place.issued
  | _ => true

def Place.become (place : Place) (site : Site) : Place where
  site := site
  issued := place.issued ++ site.accounts.map Account.id
  held := fun _ member => List.mem_append_right _ (List.mem_map_of_mem member)

def Place.after (place : Place) (draw : Draw) (operation : Operation) : Option Place :=
  if place.fresh draw operation then
    some (place.become (perform nodeName fromisoformat place.site draw operation).2)
  else none

-- What a caller of the adapter sees of the answer.
def replied (operation : Operation) : Except String (Returned Moment) → Reply
  | .error text => .failed text
  | .ok (.user info) =>
      match operation, info.id with
      | .createUser .., .str id => .created id
      | _, _ => .done
  | .ok _ => .done

/-- The place after the call, if the call may have gone so. -/
def exchange (place : Place) (call : Call) : Link → Option Place
  | .unmade => if call.reply = .notImplemented then some place else none
  | .lost text => if call.reply = .failed text then some place else none
  | .unanswered text draw =>
      if call.reply = .failed text then place.after nodeName fromisoformat draw call.operation
      else none
  | .answered draw =>
      if call.reply = replied call.operation
          (perform nodeName fromisoformat place.site draw call.operation).1 then
        place.after nodeName fromisoformat draw call.operation
      else none

def deliver (places : String → Place) : List Call → List Link → Option (String → Place)
  | [], [] => some places
  | call :: calls, link :: links =>
      (exchange nodeName fromisoformat (places call.nodeId) call link).bind fun place =>
        deliver (Function.update places call.nodeId place) calls links
  | _, _ => none

end Exchange

section Step

variable {Moment : Type} (nodeName : String) (fromisoformat : String → Option Moment)

def usersOf (listing : Listing) : List UserInfo :=
  match listing.reply with
  | .ok users => users
  | .error _ => []

-- The users a sweep reads of a node.
def usersRead : Operations.Request → String → List UserInfo
  | .syncOne _ listing, _ => usersOf listing
  | .syncAll listings, nodeId => usersOf (listings nodeId)
  | _, _ => []

def heard (calls : List Call) : List String :=
  calls.filterMap fun call =>
    match call.operation, call.reply with
    | .listUsers, .done => some call.nodeId
    | _, _ => none

def text? : Value → Option String
  | .str text => some text
  | _ => none

/-- What the adapter returns of a node's users is what the sweep reads. -/
def Shows (site : Site) (users : List UserInfo) : Prop :=
  users.map (fun user => (some user.id, some user.name)) =
    site.state.users.map fun info => (text? info.id, text? info.name)

def Lists (places : String → Place) (request : Operations.Request) (calls : List Call) : Prop :=
  ∀ nodeId ∈ heard calls, Shows (places nodeId).site (usersRead request nodeId)

instance (places : String → Place) (request : Operations.Request) (calls : List Call) :
    Decidable (Lists places request calls) :=
  inferInstanceAs (Decidable (∀ _ ∈ _, _ = _))

def Link.doubtful : Link → Bool
  | .unanswered .. => true
  | _ => false

-- Where a user may be gone that the tables still count on.
def doubts (response : Operations.Response) (links : List Link) : List String :=
  if response.raised = none then
    (response.calls.zip links).filterMap fun (call, link) =>
      if deletes call.operation && link.doubtful then some call.nodeId else none
  else (response.calls.filter fun call => deletes call.operation).map Call.nodeId

inductive Label where
  | request (request : Operations.Request) (links : List Link)
  -- Anybody else who changes a node, the control plane's own action routes among them.
  | elsewhere (nodeId : String) (draw : Draw) (operation : Operation)

def step (world : World) : Label → Option World
  | .request request links =>
      let response := Operations.handle world.database request
      if Lists world.places request response.calls then
        (deliver nodeName fromisoformat world.places response.calls links).map fun places =>
          { database := response.database, places := places
            unsure := (world.unsure ++ doubts response links).filter
              (· ∉ heard response.calls) }
      else none
  | .elsewhere nodeId draw operation =>
      ((world.places nodeId).after nodeName fromisoformat draw operation).map fun place =>
        { world with
          places := Function.update world.places nodeId place
          unsure := if deletes operation then nodeId :: world.unsure else world.unsure }

end Step

section Moves

variable {Moment : Type} (nodeName : String) (fromisoformat : String → Option Moment)

/-- What becomes of the users of a place: one that stays keeps its name, one that is new has a new
id, and none goes but those named. -/
structure Moves (gone : String → Prop) (place next : Place) : Prop where
  issued : place.issued ⊆ next.issued
  kept : ∀ account ∈ next.site.accounts,
    (∃ old ∈ place.site.accounts, old.id = account.id ∧ old.name = account.name) ∨
      account.id ∉ place.issued
  stays : ∀ old ∈ place.site.accounts, ¬ gone old.id →
    ∃ account ∈ next.site.accounts, account.id = old.id

def removes (operation : Operation) (userId : String) : Prop :=
  ∃ orgId, operation = .deleteUser userId orgId

variable {place : Place}

theorem Moves.refl (gone : String → Prop) (place : Place) : Moves gone place place :=
  ⟨fun _ member => member, fun account member => .inl ⟨account, member, rfl, rfl⟩,
    fun old member _ => ⟨old, member, rfl⟩⟩

theorem become_moves {gone : String → Prop} {site : Site}
    (kept : ∀ account ∈ site.accounts,
      (∃ old ∈ place.site.accounts, old.id = account.id ∧ old.name = account.name) ∨
        account.id ∉ place.issued)
    (stays : ∀ old ∈ place.site.accounts, ¬ gone old.id →
      ∃ account ∈ site.accounts, account.id = old.id) : Moves gone place (place.become site) :=
  ⟨fun _ member => List.mem_append_left _ member, kept, stays⟩

theorem become_same (gone : String → Prop) : Moves gone place (place.become place.site) :=
  become_moves (fun account member => .inl ⟨account, member, rfl, rfl⟩)
    fun old member _ => ⟨old, member, rfl⟩

theorem alter_moves (gone : String → Prop) (userId : String) {change : Account → Account}
    (sameId : ∀ account, (change account).id = account.id)
    (sameName : ∀ account, (change account).name = account.name) :
    Moves gone place (place.become (place.site.alter userId change)) := by
  apply become_moves
  · intro account member
    obtain ⟨old, inside, rfl | rfl⟩ := Keyed.mem_alter member
    · exact .inl ⟨account, inside, rfl, rfl⟩
    · exact .inl ⟨old, inside, (sameId old).symm, (sameName old).symm⟩
  · intro old member _
    have present : old.id ∈ (place.site.alter userId change).accounts.map Account.id := by
      rw [Site.alter, Keyed.map_key_alter sameId]
      exact List.mem_map_of_mem member
    exact List.mem_map.1 present

theorem Moves.disconnect {gone : String → Prop} {site : Site}
    (moves : Moves gone place (place.become site)) (userId : String) :
    Moves gone place (place.become (site.disconnect userId)) :=
  ⟨moves.issued, moves.kept, moves.stays⟩

theorem remove_moves (userId : String) :
    Moves (· = userId) place (place.become (place.site.remove userId)) := by
  apply become_moves
  · intro account member
    exact .inl ⟨account, List.mem_of_mem_eraseP member, rfl, rfl⟩
  · intro old member other
    exact ⟨old, (List.mem_eraseP_of_neg (by simpa using other)).2 member, rfl⟩

theorem onAccount_moves {gone : String → Prop} {userId : String}
    {next : Account → Performed Moment}
    (moves : ∀ account, Moves gone place (place.become (next account).2)) :
    Moves gone place (place.become (onAccount place.site userId next).2) := by
  unfold onAccount
  split
  · exact become_same gone
  · exact moves _

theorem createUser_moves (gone : String → Prop) {draw : Draw} {orgId name : String}
    {email : Option String} (fresh : "usr-" ++ draw.drawn ∉ place.issued) :
    Moves gone place (place.become
      (NodeContract.createUser place.site draw.drawn orgId name email : Performed Moment).2) := by
  unfold NodeContract.createUser
  split
  · exact become_same gone
  · split
    · exact become_same gone
    · apply become_moves
      · intro account member
        rcases List.mem_append.1 member with old | new
        · exact .inl ⟨account, old, rfl, rfl⟩
        · obtain rfl := List.mem_singleton.1 new
          exact .inr fresh
      · exact fun old member _ => ⟨old, List.mem_append_left _ member, rfl⟩

theorem setServerState_accounts (site : Site) (serverId action : String) :
    (NodeContract.setServerState site serverId action : Performed Moment).2.accounts =
      site.accounts := by
  unfold NodeContract.setServerState
  split
  · rfl
  · split <;> rfl

theorem perform_moves {draw : Draw} {operation : Operation}
    (fresh : place.fresh draw operation = true) :
    Moves (removes operation) place
      (place.become (perform nodeName fromisoformat place.site draw operation).2) := by
  cases operation with
  | createUser orgId name email => exact createUser_moves _ (by simpa [Place.fresh] using fresh)
  | setUserDisabled userId orgId disabled =>
      exact onAccount_moves fun _ => alter_moves _ userId (fun _ => rfl) fun _ => rfl
  | deleteUser userId orgId =>
      refine onAccount_moves fun _ => Moves.disconnect ?_ userId
      have moves : Moves (· = userId) place _ := remove_moves userId
      refine ⟨moves.issued, moves.kept, fun old member other => ?_⟩
      exact moves.stays old member fun same => other ⟨orgId, by rw [same]⟩
  | issueProfile userId orgId fmt =>
      refine onAccount_moves fun account => ?_
      split <;> exact become_same _
  | revokeProfile userId orgId =>
      refine onAccount_moves fun _ => Moves.disconnect ?_ userId
      exact alter_moves _ userId (fun _ => rfl) fun _ => rfl
  | setServerState serverId action =>
      have same : (perform nodeName fromisoformat place.site draw
          (.setServerState serverId action)).2.accounts = place.site.accounts :=
        setServerState_accounts place.site serverId action
      apply become_moves <;> rw [same]
      · exact fun account member => .inl ⟨account, member, rfl, rfl⟩
      · exact fun old member _ => ⟨old, member, rfl⟩
  | _ => exact become_same _

theorem after_moves {next : Place} {draw : Draw} {operation : Operation}
    (reached : place.after nodeName fromisoformat draw operation = some next) :
    Moves (removes operation) place next := by
  unfold Place.after at reached
  split at reached
  next fresh =>
    obtain rfl := Option.some.inj reached
    exact perform_moves nodeName fromisoformat fresh
  · cases reached

/-- How a call went: the node was not reached, or it acted and its answer was lost or read. -/
inductive Went (place next : Place) (call : Call) : Link → Prop where
  | unmade (same : next = place) (reply : call.reply = .notImplemented) : Went place next call .unmade
  | lost {text : String} (same : next = place) (reply : call.reply = .failed text) :
      Went place next call (.lost text)
  | unanswered {text : String} {draw : Draw}
      (acted : place.after nodeName fromisoformat draw call.operation = some next)
      (reply : call.reply = .failed text) : Went place next call (.unanswered text draw)
  | answered {draw : Draw}
      (acted : place.after nodeName fromisoformat draw call.operation = some next)
      (reply : call.reply = replied call.operation
        (perform nodeName fromisoformat place.site draw call.operation).1) :
      Went place next call (.answered draw)

theorem exchange_went {next : Place} {call : Call} {link : Link}
    (reached : exchange nodeName fromisoformat place call link = some next) :
    Went nodeName fromisoformat place next call link := by
  unfold exchange at reached
  split at reached
  all_goals
    obtain ⟨reply, reached⟩ := Option.ite_none_right_eq_some.1 reached
  · exact .unmade (Option.some.inj reached).symm reply
  · exact .lost (Option.some.inj reached).symm reply
  · exact .unanswered reached reply
  · exact .answered reached reply

theorem exchange_moves {next : Place} {call : Call} {link : Link}
    (reached : exchange nodeName fromisoformat place call link = some next) :
    Moves (removes call.operation) place next := by
  cases exchange_went nodeName fromisoformat reached with
  | unmade same | lost same =>
      rw [same]
      exact .refl _ place
  | unanswered acted | answered acted => exact after_moves nodeName fromisoformat acted

end Moves

/-- What the tables say of a placement is so on its node; `sure` where no user may be lost. -/
structure Fits (tables : Tables) (place : Place) (sure : Prop) (placement : UserPlacement) :
    Prop where
  issued : ∀ userId, placement.remoteUserId = some userId → userId ≠ "" ∧ userId ∈ place.issued
  named : ∀ account ∈ place.site.accounts, placement.remoteUserId = some account.id →
    tables.Named placement.logicalUserId account.name
  active : placement.status = .active → placement.remoteUserId ≠ none
  present : placement.status = .active → sure → ∃ account ∈ place.site.accounts,
    placement.remoteUserId = some account.id
  missing : placement.status = .missing → ∀ account ∈ place.site.accounts,
    placement.remoteUserId ≠ some account.id

/-- No user is on two placements, and every placement fits its node. -/
structure Truthful (tables : Tables) (places : String → Place) (sure : String → Prop) : Prop where
  fits : ∀ placement ∈ tables.placements,
    Fits tables (places placement.nodeId) (sure placement.nodeId) placement
  apart : ∀ first ∈ tables.placements, ∀ second ∈ tables.placements,
    first.nodeId = second.nodeId → first.remoteUserId ≠ none →
      first.remoteUserId = second.remoteUserId → first.key = second.key

section Placements

variable {tables other : Tables} {place next : Place} {sure later : Prop}
  {placement : UserPlacement}

theorem Fits.moves (fits : Fits tables place sure placement) {gone : String → Prop}
    (moves : Moves gone place next) (weaker : later → sure)
    (keeps : later → ∀ userId, placement.remoteUserId = some userId → ¬ gone userId) :
    Fits tables next later placement where
  issued := fun userId held =>
    ⟨(fits.issued userId held).1, moves.issued (fits.issued userId held).2⟩
  named := by
    intro account member held
    rcases moves.kept account member with ⟨old, inside, sameId, sameName⟩ | new
    · rw [← sameName]
      exact fits.named old inside (by rw [held, sameId])
    · exact absurd (fits.issued account.id held).2 new
  active := fits.active
  present := by
    intro active certain
    obtain ⟨old, member, held⟩ := fits.present active (weaker certain)
    obtain ⟨account, inside, same⟩ := moves.stays old member (keeps certain old.id held)
    exact ⟨account, inside, by rw [held, same]⟩
  missing := by
    intro missing account member held
    rcases moves.kept account member with ⟨old, inside, same, -⟩ | new
    · exact fits.missing missing old inside (by rw [held, same])
    · exact new (fits.issued account.id held).2

theorem Fits.weaken (fits : Fits tables place sure placement) (weaker : later → sure) :
    Fits tables place later placement :=
  fits.moves (.refl (fun _ => False) place) weaker fun _ _ _ => id

theorem Fits.named_mono (fits : Fits tables place sure placement)
    (names : ∀ userId name, tables.Named userId name → other.Named userId name) :
    Fits other place sure placement :=
  { fits with named := fun account member held => names _ _ (fits.named account member held) }

-- A placement that only changes in what says nothing of the node.
theorem Fits.restate {restated : UserPlacement} (fits : Fits tables place sure placement)
    (owner : restated.logicalUserId = placement.logicalUserId)
    (remote : restated.remoteUserId = placement.remoteUserId)
    (active : restated.status = .active → placement.status = .active)
    (missing : restated.status = .missing → placement.status = .missing) :
    Fits tables place sure restated where
  issued := by
    rw [remote]
    exact fits.issued
  named := by
    rw [owner, remote]
    exact fits.named
  active := by
    rw [remote]
    exact fun now => fits.active (active now)
  present := by
    rw [remote]
    exact fun now => fits.present (active now)
  missing := by
    rw [remote]
    exact fun now => fits.missing (missing now)

end Placements

section Worlds

variable {Moment : Type} (nodeName : String) (fromisoformat : String → Option Moment)
  {tables : Tables} {places next : String → Place} {sure later : String → Prop}

theorem Truthful.weaken (truthful : Truthful tables places sure)
    (weaker : ∀ nodeId, later nodeId → sure nodeId) : Truthful tables places later :=
  ⟨fun placement member => (truthful.fits placement member).weaken (weaker _), truthful.apart⟩

theorem Truthful.named_mono {other : Tables} (truthful : Truthful tables places sure)
    (same : other.placements = tables.placements)
    (names : ∀ userId name, tables.Named userId name → other.Named userId name) :
    Truthful other places sure := by
  refine ⟨?_, ?_⟩ <;> rw [same]
  · exact fun placement member => (truthful.fits placement member).named_mono names
  · exact truthful.apart

-- The tables stand still while a node moves.
theorem Truthful.move (truthful : Truthful tables places sure) {nodeId : String} {place : Place}
    {gone : String → Prop} (moves : Moves gone (places nodeId) place)
    (weaker : ∀ nodeId, later nodeId → sure nodeId)
    (keeps : later nodeId → ∀ userId, ¬ gone userId) :
    Truthful tables (Function.update places nodeId place) later := by
  refine ⟨fun placement member => ?_, truthful.apart⟩
  have before := truthful.fits placement member
  by_cases here : placement.nodeId = nodeId
  · subst here
    rw [Function.update_self]
    exact before.moves moves (weaker _) fun certain userId _ => keeps certain userId
  · rw [Function.update_of_ne here]
    exact before.weaken (weaker _)

theorem deliver_truthful {calls : List Call} {links : List Link}
    (truthful : Truthful tables places sure)
    (keeps : ∀ call ∈ calls, sure call.nodeId → deletes call.operation = false)
    (reached : deliver nodeName fromisoformat places calls links = some next) :
    Truthful tables next sure := by
  induction calls generalizing places links with
  | nil =>
      cases links with
      | nil =>
          obtain rfl := Option.some.inj reached
          exact truthful
      | cons => cases reached
  | cons call rest ih =>
      cases links with
      | nil => cases reached
      | cons link links =>
          obtain ⟨place, made, delivered⟩ := Option.bind_eq_some_iff.1 reached
          have moved := truthful.move (exchange_moves nodeName fromisoformat made)
            (fun _ certain => certain) (by
              rintro certain userId ⟨orgId, deleting⟩
              have kept := keeps call List.mem_cons_self certain
              rw [deleting] at kept
              cases kept)
          exact ih moved (fun other member => keeps other (List.mem_cons_of_mem _ member)) delivered

-- One call and the placement that is written after it.
theorem Truthful.put (truthful : Truthful tables places sure) {placement : UserPlacement}
    {nodeId : String} (site : placement.nodeId = nodeId) {place : Place} {gone : String → Prop}
    (moves : Moves gone (places nodeId) place) (fits : Fits tables place (sure nodeId) placement)
    (alone : ∀ other ∈ tables.placements, other.nodeId = nodeId → other.key ≠ placement.key →
      ∀ userId, other.remoteUserId = some userId →
        placement.remoteUserId ≠ some userId ∧ ¬ gone userId)
    (entry : Datetime × AuditLog.Fields) :
    Truthful ((tables.put placement).log entry) (Function.update places nodeId place) sure := by
  have rows {row : UserPlacement} (member : row ∈ ((tables.put placement).log entry).placements) :
      row = placement ∨ (row ∈ tables.placements ∧ row.key ≠ placement.key) :=
    Keyed.mem_upsert member
  have separate {row : UserPlacement} (member : row ∈ tables.placements)
      (different : row.key ≠ placement.key) (here : row.nodeId = placement.nodeId)
      (held : row.remoteUserId ≠ none) : row.remoteUserId ≠ placement.remoteUserId := by
    obtain ⟨userId, found⟩ := Option.ne_none_iff_exists'.1 held
    rw [found]
    exact ((alone row member (here.trans site) different userId found).1 ·.symm)
  constructor
  · intro row member
    rcases rows member with rfl | ⟨old, different⟩
    · rw [site, Function.update_self]
      exact fits.named_mono fun _ _ named => named
    · have before : Fits ((tables.put placement).log entry) (places row.nodeId) (sure row.nodeId)
          row := (truthful.fits row old).named_mono fun _ _ named => named
      by_cases here : row.nodeId = nodeId
      · rw [here] at before ⊢
        rw [Function.update_self]
        exact before.moves moves id fun _ userId held => (alone row old here different userId held).2
      · rwa [Function.update_of_ne here]
  · intro first inFirst second inSecond here held same
    rcases rows inFirst with rfl | ⟨oldFirst, differentFirst⟩ <;>
      rcases rows inSecond with rfl | ⟨oldSecond, differentSecond⟩
    · rfl
    · exact absurd same.symm (separate oldSecond differentSecond here.symm (same ▸ held))
    · exact absurd same (separate oldFirst differentFirst here held)
    · exact truthful.apart first oldFirst second oldSecond here held same

/-- The place has the user that it says it made, and no other user of that id. -/
structure Made (place next : Place) (name userId : String) : Prop where
  nonempty : userId ≠ ""
  fresh : userId ∉ place.issued
  present : ∃ account ∈ next.site.accounts, account.id = userId
  only : ∀ account ∈ next.site.accounts, account.id = userId → account.name = name

theorem perform_made {place : Place} {draw : Draw} {orgId name userId : String}
    {email : Option String} (fresh : "usr-" ++ draw.drawn ∉ place.issued)
    (made : Reply.created userId = replied (.createUser orgId name email)
      (perform nodeName fromisoformat place.site draw (.createUser orgId name email)).1) :
    Made place (place.become
      (perform nodeName fromisoformat place.site draw (.createUser orgId name email)).2)
      name userId := by
  have created : perform nodeName fromisoformat place.site draw (.createUser orgId name email) =
      NodeContract.createUser place.site draw.drawn orgId name email := rfl
  rw [created] at made ⊢
  unfold NodeContract.createUser at made ⊢
  split at made
  · cases made
  next known =>
    rw [if_neg known]
    split at made
    · cases made
    next nonempty =>
      rw [if_neg nonempty]
      obtain rfl := Reply.created.inj made
      refine ⟨by simp [String.ext_iff], fresh, ?_, fun account member same => ?_⟩
      · exact ⟨_, List.mem_append_right _ (List.mem_singleton_self _), rfl⟩
      · rcases List.mem_append.1 member with old | new
        · have issued := place.held account old
          rw [same] at issued
          exact absurd issued fresh
        · obtain rfl := List.mem_singleton.1 new
          rfl

theorem exchange_made {place after : Place} {nodeId orgId name userId : String}
    {email : Option String} {link : Link}
    (reached : exchange nodeName fromisoformat place
      ⟨nodeId, .createUser orgId name email, .created userId⟩ link = some after) :
    Made place after name userId := by
  cases exchange_went nodeName fromisoformat reached with
  | unmade _ reply => cases reply
  | lost _ reply => cases reply
  | unanswered _ reply => cases reply
  | answered acted made =>
      obtain ⟨fresh, reached⟩ := Option.ite_none_right_eq_some.1 acted
      obtain rfl := Option.some.inj reached
      exact perform_made nodeName fromisoformat (by simpa [Place.fresh] using fresh) made

theorem placementFor_fits (truthful : Truthful tables places sure) (lu : LogicalUser)
    (target : Target) :
    Fits tables (places target.nodeId) (sure target.nodeId) (placementFor lu tables target) := by
  unfold placementFor
  cases found : tables.placement? lu.id target.nodeId with
  | some placement =>
      have site := (Prod.mk.inj (Tables.placement?_key found)).2
      have fits := truthful.fits placement (Keyed.mem_of_lookup found)
      rwa [site] at fits
  | none => exact ⟨by simp [fresh], by simp [fresh], by simp [fresh], by simp [fresh], by simp [fresh]⟩

theorem placementFor_alone (truthful : Truthful tables places sure) (lu : LogicalUser)
    (target : Target) {other : UserPlacement} (member : other ∈ tables.placements)
    (here : other.nodeId = target.nodeId)
    (different : other.key ≠ (placementFor lu tables target).key) {userId : String}
    (held : other.remoteUserId = some userId) :
    (placementFor lu tables target).remoteUserId ≠ some userId := by
  unfold placementFor at different ⊢
  cases found : tables.placement? lu.id target.nodeId with
  | some placement =>
      simp only [found, Option.getD_some] at different ⊢
      have site := (Prod.mk.inj (Tables.placement?_key found)).2
      intro same
      exact different (truthful.apart other member placement (Keyed.mem_of_lookup found)
        (here.trans site.symm) (by simp [held]) (held.trans same.symm))
  | none => simp [fresh]

theorem settled_fits {lu : LogicalUser} {username : String} {email : Option String}
    (named : tables.Named lu.id username) {attempt : Attempt} {place after : Place} {certain : Prop}
    {placement : UserPlacement} (owner : placement.logicalUserId = lu.id)
    (fits : Fits tables place certain placement) {link : Link}
    (reached : exchange nodeName fromisoformat place (creationCall username email attempt) link =
      some after) : Fits tables after certain (settle attempt placement) := by
  have moves := exchange_moves nodeName fromisoformat reached
  unfold creationCall Answer.outcome at reached
  unfold settle
  cases reply : attempt.answer.reply with
  | error text =>
      have moved := fits.moves moves id fun _ userId _ ⟨orgId, deleting⟩ => by cases deleting
      exact moved.restate rfl rfl (by simp) (by simp)
  | ok userId =>
      rw [reply] at reached
      have made := exchange_made nodeName fromisoformat reached
      obtain ⟨account, member, same⟩ := made.present
      refine ⟨fun other held => ?_, fun other inside held => ?_, by simp, fun _ _ => ?_, by simp⟩
      · obtain rfl := Option.some.inj held
        exact ⟨made.nonempty, same ▸ after.held account member⟩
      · rw [made.only other inside (Option.some.inj held).symm, owner]
        exact named
      · exact ⟨account, member, by rw [same]⟩

theorem settled_alone {lu : LogicalUser} {username : String} {email : Option String}
    (truthful : Truthful tables places sure) {attempt : Attempt} {after : Place} {link : Link}
    (reached : exchange nodeName fromisoformat (places attempt.target.nodeId)
      (creationCall username email attempt) link = some after)
    {other : UserPlacement} (member : other ∈ tables.placements)
    (here : other.nodeId = attempt.target.nodeId)
    (different : other.key ≠ (placementFor lu tables attempt.target).key) {userId : String}
    (held : other.remoteUserId = some userId) :
    (settle attempt (placementFor lu tables attempt.target)).remoteUserId ≠ some userId := by
  unfold creationCall Answer.outcome at reached
  unfold settle
  cases reply : attempt.answer.reply with
  | error text => exact placementFor_alone truthful lu attempt.target member here different held
  | ok created =>
      rw [reply] at reached
      have made := exchange_made nodeName fromisoformat reached
      have issued := ((truthful.fits other member).issued userId held).2
      rw [here] at issued
      rintro same
      obtain rfl := Option.some.inj same
      exact made.fresh issued

theorem advance_truthful (truthful : Truthful tables places sure) (actor : String)
    {username : String} {email : Option String} {lu : LogicalUser}
    (named : tables.Named lu.id username) {attempt : Attempt}
    (served : Served username email tables attempt) {place : Place} {link : Link}
    (reached : exchange nodeName fromisoformat (places attempt.target.nodeId)
      (creationCall username email attempt) link = some place) :
    Truthful (advance actor username lu tables attempt)
      (Function.update places attempt.target.nodeId place) sure := by
  obtain ⟨node, found, -⟩ := served
  have key : (placementFor lu tables attempt.target).key = (lu.id, attempt.target.nodeId) :=
    placementFor_key tables attempt.target
  have site : (settle attempt (placementFor lu tables attempt.target)).nodeId =
      attempt.target.nodeId := (Prod.mk.inj (settled_key lu tables attempt)).2
  have fits := settled_fits nodeName fromisoformat named (Prod.mk.inj key).1
    (placementFor_fits truthful lu attempt.target) reached
  have moves := exchange_moves nodeName fromisoformat reached
  unfold advance
  rw [found]
  refine truthful.put site moves fits ?_ _
  intro other member here different userId held
  rw [settle_key] at different
  refine ⟨settled_alone nodeName fromisoformat truthful reached member here different held, ?_⟩
  rintro ⟨orgId, deleting⟩
  cases deleting

theorem advanced_named {lu : LogicalUser} {actor username : String} {attempt : Attempt}
    {userId name : String} (named : tables.Named userId name) :
    (advance actor username lu tables attempt).Named userId name := by
  unfold advance
  split <;> exact named

theorem advanced_truthful (truthful : Truthful tables places sure) (actor : String)
    {username : String} {email : Option String} {lu : LogicalUser}
    (named : tables.Named lu.id username) {attempts : List Attempt} {links : List Link}
    (served : ∀ attempt ∈ attempts, Served username email tables attempt)
    (reached : deliver nodeName fromisoformat places
      (attempts.map (creationCall username email)) links = some next) :
    Truthful (attempts.foldl (advance actor username lu) tables) next sure := by
  induction attempts generalizing tables places links with
  | nil => exact deliver_truthful nodeName fromisoformat truthful (by simp) reached
  | cons attempt rest ih =>
      obtain ⟨here, later⟩ := List.forall_mem_cons.1 served
      cases links with
      | nil => cases reached
      | cons link links =>
          obtain ⟨place, made, delivered⟩ := Option.bind_eq_some_iff.1 reached
          have first := advance_truthful nodeName fromisoformat truthful actor named here made
          have sites : (advance actor username lu tables attempt).nodes = tables.nodes :=
            advance_nodes tables attempt
          exact ih first (advanced_named named)
            (fun other member => (later other member).congr sites) delivered

theorem perform_deleted {site : Site} {draw : Draw} {userId orgId : String}
    (there : ∃ account ∈ site.accounts, account.id = userId) :
    replied (.deleteUser userId orgId)
      (perform nodeName fromisoformat site draw (.deleteUser userId orgId)).1 = .done := by
  have found : (site.find userId).isSome := by
    obtain ⟨account, member, rfl⟩ := there
    exact Keyed.lookup_isSome.2 (List.mem_map_of_mem member)
  obtain ⟨account, found⟩ := Option.isSome_iff_exists.1 found
  have deleted : perform nodeName fromisoformat site draw (.deleteUser userId orgId) =
      onAccount site userId fun _ => (.ok .nothing, (site.remove userId).disconnect userId) := rfl
  simp [deleted, onAccount, found, replied]

-- A deletion that fails without a doubt was of nobody.
theorem went_undeleted {place after : Place} {call : Call} {link : Link} {userId orgId : String}
    (deleting : call.operation = .deleteUser userId orgId) {text : String}
    (failed : call.reply = .failed text)
    (there : ∃ account ∈ place.site.accounts, account.id = userId)
    (went : Went nodeName fromisoformat place after call link) (doubtless : link.doubtful = false) :
    after = place := by
  cases went with
  | unmade same | lost same => exact same
  | unanswered => cases doubtless
  | answered _ reply =>
      rw [deleting, perform_deleted nodeName fromisoformat there, failed] at reply
      cases reply

theorem released_fits {hard : Bool} {answer : Answer Unit} {place after : Place} {certain : Prop}
    {placement : UserPlacement} {userId nodeId : String}
    (held : placement.remoteUserId = some userId)
    (fits : Fits tables place certain placement) {link : Link}
    (reached : exchange nodeName fromisoformat place
      ⟨nodeId, removal hard placement userId, answer.outcome fun _ => .done⟩ link = some after)
    (doubtless : certain → deletes (removal hard placement userId) = true → link.doubtful = false) :
    Fits tables after certain (release answer placement) := by
  have moves := exchange_moves nodeName fromisoformat reached
  have went := exchange_went nodeName fromisoformat reached
  have moved : Fits tables after False placement := fits.moves moves False.elim False.elim
  unfold release
  cases reply : answer.reply with
  | ok taken =>
      have restated : Fits tables after False
          { placement with status := .revoked, lastError := none } :=
        moved.restate rfl rfl (by simp) (by simp)
      exact { restated with present := by simp }
  | error text =>
      have restated : Fits tables after False { placement with lastError := some text } :=
        moved.restate rfl rfl id id
      refine { restated with present := fun active sure => ?_ }
      obtain ⟨account, member, same⟩ := fits.present active sure
      obtain rfl := Option.some.inj (held.symm.trans same)
      cases hard with
      | true =>
          have failed : answer.outcome (fun _ => Reply.done) = .failed text := by
            simp [Answer.outcome, reply]
          have stood := went_undeleted nodeName fromisoformat rfl failed ⟨account, member, rfl⟩ went
            (doubtless sure rfl)
          rw [stood]
          exact ⟨account, member, same⟩
      | false =>
          have stayed : ¬ removes (removal false placement account.id) account.id := by
            rintro ⟨orgId, deleting⟩
            cases deleting
          obtain ⟨kept, inside, sameId⟩ := moves.stays account member stayed
          exact ⟨kept, inside, by rw [sameId]; exact same⟩

theorem removes_removal {hard : Bool} {placement : UserPlacement} {userId other : String}
    (removed : removes (removal hard placement userId) other) : other = userId := by
  obtain ⟨orgId, deleting⟩ := removed
  cases hard with
  | true => exact (Operation.deleteUser.inj deleting).1.symm
  | false => cases deleting

theorem retire_truthful (truthful : Truthful tables places sure) (actor : String) (lu : LogicalUser)
    {hard : Bool} {answers : String → Answer Unit} {placement : UserPlacement} {userId : String}
    (member : placement ∈ tables.placements) (held : placement.remoteUserId = some userId)
    (removable : Removable hard tables placement) {place : Place} {link : Link}
    (reached : exchange nodeName fromisoformat (places placement.nodeId)
      ⟨placement.nodeId, removal hard placement userId,
        (answers placement.nodeId).outcome fun _ => .done⟩ link = some place)
    (doubtless : sure placement.nodeId → deletes (removal hard placement userId) = true →
      link.doubtful = false) :
    Truthful (retire actor lu hard answers tables placement)
      (Function.update places placement.nodeId place) sure := by
  have moves := exchange_moves nodeName fromisoformat reached
  have fits := released_fits nodeName fromisoformat held (truthful.fits placement member) reached
    doubtless
  obtain ⟨node, found, -⟩ := removable userId held
  have key := release_key (answers placement.nodeId) placement
  have site : (release (answers placement.nodeId) placement).nodeId = placement.nodeId :=
    (Prod.mk.inj key).2
  unfold retire
  simp only [found, held]
  refine truthful.put site moves fits ?_ _
  intro other inside here different otherId otherHeld
  have alone : otherId ≠ userId := by
    rintro rfl
    rw [key] at different
    exact different (truthful.apart other inside placement member here (by simp [otherHeld])
      (otherHeld.trans held.symm))
  rw [Tracking.release_remote, held]
  exact ⟨fun same => alone (Option.some.inj same).symm, fun gone => alone (removes_removal gone)⟩

theorem retired_truthful (truthful : Truthful tables places sure) (actor : String)
    {lu : LogicalUser} {hard : Bool} {answers : String → Answer Unit}
    {placements : List UserPlacement} {links : List Link}
    (owned : ∀ placement ∈ placements, placement.logicalUserId = lu.id)
    (stored : ∀ placement ∈ placements,
      tables.placement? lu.id placement.nodeId = some placement)
    (distinct : placements.Pairwise fun first second => first.nodeId ≠ second.nodeId)
    (removable : ∀ placement ∈ placements, Removable hard tables placement)
    (reached : deliver nodeName fromisoformat places
      (placements.flatMap (removalCalls hard answers)) links = some next)
    (doubtless : ∀ pair ∈ (placements.flatMap (removalCalls hard answers)).zip links,
      sure pair.1.nodeId → deletes pair.1.operation = true → pair.2.doubtful = false) :
    Truthful (placements.foldl (retire actor lu hard answers) tables) next sure := by
  induction placements generalizing tables places links with
  | nil => exact deliver_truthful nodeName fromisoformat truthful (by simp) reached
  | cons head rest ih =>
      obtain ⟨apart, distinct⟩ := List.pairwise_cons.1 distinct
      obtain ⟨-, ownedRest⟩ := List.forall_mem_cons.1 owned
      obtain ⟨storedHead, storedRest⟩ := List.forall_mem_cons.1 stored
      obtain ⟨removableHead, removableRest⟩ := List.forall_mem_cons.1 removable
      have storedNext (placement : UserPlacement) (member : placement ∈ rest) :
          (retire actor lu hard answers tables head).placement? lu.id placement.nodeId =
            some placement := by
        rw [placement?_retire_frame tables fun here => apart placement member here.2]
        exact storedRest placement member
      have removableNext (placement : UserPlacement) (member : placement ∈ rest) :
          Removable hard (retire actor lu hard answers tables head) placement :=
        (removableRest placement member).congr (retire_nodes tables head)
      rw [List.flatMap_cons] at reached doubtless
      rw [List.foldl_cons]
      cases held : head.remoteUserId with
      | none =>
          have silent : removalCalls hard answers head = [] := by simp [removalCalls, held]
          have idle : retire actor lu hard answers tables head = tables := by
            unfold retire
            simp [held]
          rw [silent, List.nil_append] at reached doubtless
          rw [idle] at storedNext removableNext ⊢
          exact ih truthful ownedRest storedNext distinct removableNext reached doubtless
      | some userId =>
          have spoken : removalCalls hard answers head =
              [⟨head.nodeId, removal hard head userId,
                (answers head.nodeId).outcome fun _ => .done⟩] := by
            simp [removalCalls, held]
          rw [spoken, List.singleton_append] at reached doubtless
          cases links with
          | nil => cases reached
          | cons link links =>
              obtain ⟨place, made, delivered⟩ := Option.bind_eq_some_iff.1 reached
              rw [List.zip_cons_cons] at doubtless
              obtain ⟨doubtlessHead, doubtlessRest⟩ := List.forall_mem_cons.1 doubtless
              have first := retire_truthful nodeName fromisoformat truthful actor lu
                (Keyed.mem_of_lookup storedHead) held removableHead made doubtlessHead
              exact ih first ownedRest storedNext distinct removableNext delivered doubtlessRest

end Worlds

section Sweeps

variable {tables : Tables} {places : String → Place} {sure : String → Prop}

theorem listed_of_shows {site : Site} {users : List UserInfo} (shows : Shows site users)
    (userId : String) :
    listed users userId = true ↔ ∃ account ∈ site.accounts, account.id = userId := by
  have ids := congrArg (List.map Prod.fst) shows
  simp only [List.map_map, Function.comp_def, Site.state, text?, Site.userInfo] at ids
  have same : users.map UserInfo.id = site.accounts.map Account.id := by
    apply List.map_injective_iff.2 (Option.some_injective String)
    simpa [Function.comp_def] using ids
  simp [listed, same]

theorem observe_fits {place : Place} {certain : Prop} {placement : UserPlacement}
    {users : List UserInfo} (shows : Shows place.site users)
    (fits : Fits tables place certain placement) (now : Datetime) :
    Fits tables place True (observe users now placement) := by
  unfold observe
  cases tracked : tracked? placement with
  | none =>
      have blank (userId : String) : placement.remoteUserId ≠ some userId := by
        intro held
        have nonempty := (fits.issued userId held).1
        simp [tracked?, held, nonempty] at tracked
      have unnamed : placement.remoteUserId = none := Option.eq_none_iff_forall_ne_some.2 blank
      exact ⟨fits.issued, fits.named, fits.active,
        fun active _ => absurd unnamed (fits.active active), fits.missing⟩
  | some userId =>
      have held : placement.remoteUserId = some userId := (Option.filter_eq_some_iff.1 tracked).1
      dsimp only
      split
      next present =>
        obtain ⟨account, member, rfl⟩ := (listed_of_shows shows userId).1 present
        exact ⟨fits.issued, fits.named, by simp [held], fun _ _ => ⟨account, member, held⟩, by simp⟩
      next absent =>
        refine ⟨fits.issued, fits.named, by simp, by simp, fun _ account member same => ?_⟩
        obtain rfl := Option.some.inj (held.symm.trans same)
        exact absent ((listed_of_shows shows _).2 ⟨account, member, rfl⟩)

theorem observed_truthful (truthful : Truthful tables places sure) {nodeId : String}
    {users : List UserInfo} (shows : Shows (places nodeId).site users) (now : Datetime) :
    Truthful (observed users now tables nodeId) places fun other => sure other ∨ other = nodeId := by
  have rows {row : UserPlacement} (member : row ∈ (observed users now tables nodeId).placements) :
      ∃ old ∈ tables.placements, row = if old.nodeId = nodeId then observe users now old else old := by
    obtain ⟨old, inside, same⟩ := List.mem_map.1 member
    exact ⟨old, inside, same.symm⟩
  have kept (old : UserPlacement) :
      (if old.nodeId = nodeId then observe users now old else old).key = old.key ∧
        (if old.nodeId = nodeId then observe users now old else old).remoteUserId =
          old.remoteUserId := by
    split
    · exact ⟨observe_key old, observe_remote old⟩
    · exact ⟨rfl, rfl⟩
  constructor
  · intro row member
    obtain ⟨old, inside, rfl⟩ := rows member
    have before : Fits (observed users now tables nodeId) (places old.nodeId) (sure old.nodeId)
        old := (truthful.fits old inside).named_mono fun _ _ named => named
    by_cases here : old.nodeId = nodeId
    · have site : (observe users now old).nodeId = old.nodeId := (Prod.mk.inj (observe_key old)).2
      rw [if_pos here, site]
      rw [← here] at shows
      exact (observe_fits shows before now).weaken fun _ => trivial
    · rw [if_neg here]
      exact before.weaken fun certain => certain.resolve_right here
  · intro first inFirst second inSecond here held same
    obtain ⟨oldFirst, insideFirst, rfl⟩ := rows inFirst
    obtain ⟨oldSecond, insideSecond, rfl⟩ := rows inSecond
    rw [(kept oldFirst).1, (kept oldSecond).1]
    rw [(kept oldFirst).2] at held same
    rw [(kept oldSecond).2] at same
    apply truthful.apart oldFirst insideFirst oldSecond insideSecond _ held same
    exact (Prod.mk.inj (kept oldFirst).1).2.symm.trans (here.trans (Prod.mk.inj (kept oldSecond).1).2)

-- A node that is heard has its placements rewritten, and no other.
theorem syncNode_heard (database : Database) (node : Node) (listing : Listing) :
    (heard (syncNode database node listing).1 = [] ∧
        ∀ report next, (syncNode database node listing).2 = .ok (report, next) → next = database) ∨
      ∃ report next, heard (syncNode database node listing).1 = [node.id] ∧
        (syncNode database node listing).2 = .ok (report, next) ∧
          next.tables = observed (usersOf listing) listing.now database.tables node.id := by
  unfold syncNode
  dsimp only
  split
  · exact .inl ⟨rfl, by simp⟩
  · split
    · cases reply : listing.reply with
      | error text => exact .inl ⟨rfl, by simp⟩
      | ok users => exact .inr ⟨_, _, rfl, rfl, by simp [usersOf, reply]⟩
    · exact .inl ⟨rfl, by simp⟩

theorem heard_append (calls later : List Call) : heard (calls ++ later) = heard calls ++ heard later :=
  List.filterMap_append ..

theorem sweep_truthful {listings : String → Listing} {nodes : List Node} {database : Database}
    (truthful : Truthful database.tables places sure)
    (shown : ∀ nodeId ∈ heard (sweep listings database nodes).1,
      Shows (places nodeId).site (usersOf (listings nodeId))) :
    Truthful (sweep listings database nodes).2.2.tables places
      fun nodeId => sure nodeId ∨ nodeId ∈ heard (sweep listings database nodes).1 := by
  induction nodes generalizing database sure with
  | nil => exact truthful.weaken fun _ certain => certain.resolve_right (by simp [sweep, heard])
  | cons node rest ih =>
      have first := syncNode_heard database node (listings node.id)
      rw [sweep] at shown ⊢
      split at shown
      next calls report next swept =>
        rw [swept] at first
        simp only [heard_append, List.mem_append] at shown ⊢
        rcases first with ⟨quiet, same⟩ | ⟨_, _, spoke, same, tables⟩
        · obtain rfl := same _ _ rfl
          have later := ih truthful fun nodeId member => shown nodeId (.inr member)
          exact later.weaken fun nodeId certain => by simpa [quiet] using certain
        · obtain ⟨-, rfl⟩ := Prod.mk.inj (Except.ok.inj same)
          have shows := shown node.id (.inl (by rw [spoke]; exact List.mem_singleton_self _))
          have here := observed_truthful truthful shows (listings node.id).now
          rw [← tables] at here
          have later := ih here fun nodeId member => shown nodeId (.inr member)
          exact later.weaken fun nodeId certain => by simpa [spoke, or_assoc] using certain
      next calls error swept =>
        rw [swept] at first
        simp only [heard_append, List.mem_append] at shown ⊢
        rcases first with ⟨quiet, -⟩ | ⟨_, _, -, same, -⟩
        · have later := ih truthful fun nodeId member => shown nodeId (.inr member)
          exact later.weaken fun nodeId certain => by simpa [quiet] using certain
        · cases same

end Sweeps

section Requests

variable {Moment : Type} (nodeName : String) (fromisoformat : String → Option Moment)
  {database : Database} {places next : String → Place} {unsure : List String} {links : List Link}

-- What is sure after a request: a node just heard, or one that was sure and raises no doubt.
def certain (unsure : List String) (response : Operations.Response) (links : List Link)
    (nodeId : String) : Prop :=
  nodeId ∉ (unsure ++ doubts response links).filter (· ∉ heard response.calls)

theorem certain_iff {response : Operations.Response} {nodeId : String} :
    certain unsure response links nodeId ↔
      (nodeId ∉ unsure ∧ nodeId ∉ doubts response links) ∨ nodeId ∈ heard response.calls := by
  unfold certain
  rw [List.mem_filter, List.mem_append]
  by_cases spoken : nodeId ∈ heard response.calls <;> simp [spoken]

theorem certain_silent {response : Operations.Response}
    (silent : ∀ call ∈ response.calls, call.operation ≠ .listUsers) {nodeId : String}
    (known : certain unsure response links nodeId) :
    nodeId ∉ unsure ∧ nodeId ∉ doubts response links := by
  rcases certain_iff.1 known with sure | spoken
  · exact sure
  · obtain ⟨call, member, here⟩ := List.mem_filterMap.1 spoken
    split at here
    next listing _ => exact absurd listing (silent call member)
    · cases here

-- A request that is undone leaves its doubts on every node it asked to delete a user.
theorem undone_truthful {response : Operations.Response}
    (truthful : Truthful database.tables places (· ∉ unsure))
    (same : response.database = database) (raised : response.raised ≠ none)
    (silent : ∀ call ∈ response.calls, call.operation ≠ .listUsers)
    (delivered : deliver nodeName fromisoformat places response.calls links = some next) :
    Truthful response.database.tables next (certain unsure response links) := by
  rw [same]
  have before : Truthful database.tables places (certain unsure response links) :=
    truthful.weaken fun nodeId known => (certain_silent silent known).1
  refine deliver_truthful nodeName fromisoformat before (fun call member known => ?_) delivered
  by_contra deleting
  apply (certain_silent silent known).2
  rw [doubts, if_neg raised]
  exact List.mem_map_of_mem (List.mem_filter.2 ⟨member, by simpa using deleting⟩)

theorem provision_truthful (truthful : Truthful database.tables places (· ∉ unsure))
    {actor username : String} {email : Option String} {newId : String} {attempts : List Attempt}
    {response : Operations.Response}
    (handled : response = Operations.ofOutcome (provision database actor username email newId attempts))
    (delivered : deliver nodeName fromisoformat places response.calls links = some next) :
    Truthful response.database.tables next (certain unsure response links) := by
  subst handled
  have silent : ∀ call ∈ (provision database actor username email newId attempts).calls,
      call.operation ≠ .listUsers := by
    intro call member
    obtain ⟨attempt, -, creates⟩ := provision_calls database actor username email newId attempts
      call member
    rw [creates.operation]
    exact Operation.noConfusion
  rcases provision_cases database actor username email newId attempts with
    ⟨raised, same, -⟩ | ⟨lu, after, -, completed⟩
  · exact undone_truthful nodeName fromisoformat truthful same raised silent delivered
  · have named : after.Named lu.id username :=
      ⟨lu, completed.identified.member, rfl, completed.identified.username⟩
    have resolved : Truthful after places (· ∉ unsure) := by
      apply truthful.named_mono completed.identified.placements
      rintro userId name ⟨user, member, rfl, rfl⟩
      exact completed.identified.kept user member
    have served (attempt : Attempt) (member : attempt ∈ attempts) :
        Served username email after attempt :=
      (completed.served attempt member).congr completed.identified.nodes
    have reached : deliver nodeName fromisoformat places
        (attempts.map (creationCall username email)) links = some next := by
      rw [← completed.called]
      exact delivered
    have settled := advanced_truthful nodeName fromisoformat resolved actor named served reached
    rw [← completed.tables] at settled
    exact settled.weaken fun nodeId known => (certain_silent silent known).1

theorem deprovision_truthful (truthful : Truthful database.tables places (· ∉ unsure))
    {actor logicalUserId : String} {hard : Bool} {answers : String → Answer Unit}
    {response : Operations.Response}
    (handled : response = Operations.ofOutcome (deprovision database actor logicalUserId hard answers))
    (delivered : deliver nodeName fromisoformat places response.calls links = some next) :
    Truthful response.database.tables next (certain unsure response links) := by
  subst handled
  have silent : ∀ call ∈ (deprovision database actor logicalUserId hard answers).calls,
      call.operation ≠ .listUsers := by
    intro call member
    obtain ⟨placement, -, userId, -, -, operation⟩ :=
      deprovision_calls database actor logicalUserId hard answers call member
    rw [operation]
    cases hard <;> exact Operation.noConfusion
  rcases deprovision_cases database actor logicalUserId hard answers with
    ⟨raised, same, -⟩ | ⟨lu, retired⟩
  · exact undone_truthful nodeName fromisoformat truthful same raised silent delivered
  · let response := Operations.ofOutcome (deprovision database actor logicalUserId hard answers)
    have called : response.calls =
        (database.tables.placementsOf lu.id).flatMap (removalCalls hard answers) := retired.called
    have committed : response.raised = none := retired.committed
    have before : Truthful database.tables places (certain unsure response links) :=
      truthful.weaken fun nodeId known => (certain_silent silent known).1
    have doubtless (pair : Call × Link)
        (member : pair ∈ ((database.tables.placementsOf lu.id).flatMap
          (removalCalls hard answers)).zip links)
        (known : certain unsure response links pair.1.nodeId)
        (deleting : deletes pair.1.operation = true) : pair.2.doubtful = false := by
      by_contra doubtful
      apply (certain_silent silent known).2
      rw [doubts, if_pos committed, called]
      exact List.mem_filterMap.2 ⟨pair, member, by simp [deleting, doubtful]⟩
    have settled := retired_truthful nodeName fromisoformat before actor placementsOf_owned
      (fun placement member => placement?_of_mem database.valid member)
      (placementsOf_distinct database.valid lu.id) retired.removable
      (by rw [← called]; exact delivered) doubtless
    rw [← retired.tables] at settled
    exact settled

-- The calls of a sweep change no node.
theorem listing_truthful {response : Operations.Response}
    (listing : ∀ call ∈ response.calls, call.operation = .listUsers)
    (swept : Truthful response.database.tables places
      fun nodeId => nodeId ∉ unsure ∨ nodeId ∈ heard response.calls)
    (delivered : deliver nodeName fromisoformat places response.calls links = some next) :
    Truthful response.database.tables next (certain unsure response links) := by
  have known : Truthful response.database.tables places (certain unsure response links) := by
    refine swept.weaken fun nodeId known => ?_
    exact (certain_iff.1 known).imp_left And.left
  refine deliver_truthful nodeName fromisoformat known (fun call member _ => ?_) delivered
  rw [listing call member]
  rfl

theorem syncOne_sweep {nodeId : String} {node : Node} (listing : Listing)
    (found : database.tables.node? nodeId = some node) :
    (Operations.syncOne database nodeId listing).calls =
        (sweep (fun _ => listing) database [node]).1 ∧
      (Operations.syncOne database nodeId listing).database =
        (sweep (fun _ => listing) database [node]).2.2 := by
  simp only [Operations.syncOne, found, sweep]
  cases swept : syncNode database node listing with
  | mk calls outcome => cases outcome <;> simp

theorem syncOne_truthful (truthful : Truthful database.tables places (· ∉ unsure))
    {nodeId : String} {listing : Listing}
    (shown : ∀ other ∈ heard (Operations.syncOne database nodeId listing).calls,
      Shows (places other).site (usersOf listing)) :
    Truthful (Operations.syncOne database nodeId listing).database.tables places
      fun other => other ∉ unsure ∨
        other ∈ heard (Operations.syncOne database nodeId listing).calls := by
  cases found : database.tables.node? nodeId with
  | none =>
      simp only [Operations.syncOne, found]
      exact truthful.weaken fun _ certain => certain.resolve_right (by simp [heard])
  | some node =>
      obtain ⟨calls, same⟩ := syncOne_sweep listing found
      rw [calls] at shown ⊢
      rw [same]
      exact sweep_truthful truthful shown

theorem profiles_truthful (truthful : Truthful database.tables places (· ∉ unsure))
    {logicalUserId : String} {answers : String → Except String ByteArray}
    (delivered : deliver nodeName fromisoformat places
      (Operations.handle database (.identityProfiles logicalUserId answers)).calls links =
        some next) :
    Truthful (Operations.handle database (.identityProfiles logicalUserId answers)).database.tables
      next (certain unsure
        (Operations.handle database (.identityProfiles logicalUserId answers)) links) := by
  have called : (Operations.handle database (.identityProfiles logicalUserId answers)).calls =
      (buildIdentityBundle database logicalUserId answers).1 := by
    unfold Operations.handle
    dsimp only
    split <;> simp [*]
  have issuing (call : Call)
      (member : call ∈ (Operations.handle database (.identityProfiles logicalUserId answers)).calls) :
      ∃ userId orgId fmt, call.operation = .issueProfile userId orgId fmt := by
    rw [called] at member
    obtain ⟨_, _, -, -, -, operation⟩ :=
      Operations.buildIdentityBundle_calls database logicalUserId answers call member
    exact ⟨_, _, _, operation⟩
  have silent : ∀ call ∈
      (Operations.handle database (.identityProfiles logicalUserId answers)).calls,
        call.operation ≠ .listUsers := by
    intro call member
    obtain ⟨_, _, _, operation⟩ := issuing call member
    rw [operation]
    exact Operation.noConfusion
  rw [Placements.identityProfiles_unchanged]
  have before : Truthful database.tables places (certain unsure
      (Operations.handle database (.identityProfiles logicalUserId answers)) links) :=
    truthful.weaken fun nodeId known => (certain_silent silent known).1
  refine deliver_truthful nodeName fromisoformat before (fun call member _ => ?_) delivered
  obtain ⟨_, _, _, operation⟩ := issuing call member
  rw [operation]
  rfl

theorem handle_truthful (truthful : Truthful database.tables places (· ∉ unsure))
    (request : Operations.Request)
    (lists : Lists places request (Operations.handle database request).calls)
    (delivered : deliver nodeName fromisoformat places (Operations.handle database request).calls
      links = some next) :
    Truthful (Operations.handle database request).database.tables next
      (certain unsure (Operations.handle database request) links) := by
  cases request with
  | provision => exact provision_truthful nodeName fromisoformat truthful rfl delivered
  | deprovision => exact deprovision_truthful nodeName fromisoformat truthful rfl delivered
  | identityProfiles => exact profiles_truthful nodeName fromisoformat truthful delivered
  | syncOne nodeId listing =>
      exact listing_truthful nodeName fromisoformat (Operations.syncOne_calls database nodeId listing)
        (syncOne_truthful truthful lists) delivered
  | syncAll listings =>
      exact listing_truthful nodeName fromisoformat (sweep_calls listings _ database)
        (sweep_truthful truthful lists) delivered

end Requests

section Runs

variable {Moment : Type} (nodeName : String) (fromisoformat : String → Option Moment)

def World.Truthful (world : World) : Prop :=
  FleetTruth.Truthful world.database.tables world.places (· ∉ world.unsure)

theorem step_truthful (world : World) (label : Label) (next : World) (truthful : world.Truthful)
    (taken : step nodeName fromisoformat world label = some next) : next.Truthful := by
  cases label with
  | request request links =>
      unfold step at taken
      obtain ⟨lists, taken⟩ := Option.ite_none_right_eq_some.1 taken
      obtain ⟨places, delivered, rfl⟩ := Option.map_eq_some_iff.1 taken
      exact handle_truthful nodeName fromisoformat truthful request lists delivered
  | elsewhere nodeId draw operation =>
      obtain ⟨place, acted, rfl⟩ := Option.map_eq_some_iff.1 taken
      have moves := after_moves nodeName fromisoformat acted
      apply truthful.move moves
      · intro other known
        dsimp only at known
        split at known
        · exact fun member => known (List.mem_cons_of_mem _ member)
        · exact known
      · rintro known userId ⟨orgId, rfl⟩
        exact known List.mem_cons_self

/-- What an active placement and a missing one say of the node they are on. -/
structure Vouched (world : World) (placement : UserPlacement) : Prop where
  active : placement.status = .active → placement.nodeId ∉ world.unsure →
    ∃ account ∈ (world.places placement.nodeId).site.accounts,
      placement.remoteUserId = some account.id ∧
        world.database.tables.Named placement.logicalUserId account.name
  missing : placement.status = .missing →
    ∀ account ∈ (world.places placement.nodeId).site.accounts,
      placement.remoteUserId ≠ some account.id
  alone : ∀ other ∈ world.database.tables.placements, other.nodeId = placement.nodeId →
    other.remoteUserId ≠ none → other.remoteUserId = placement.remoteUserId → other = placement

theorem World.Truthful.vouched {world : World} (truthful : world.Truthful)
    {placement : UserPlacement} (member : placement ∈ world.database.tables.placements) :
    Vouched world placement where
  active := by
    intro active sure
    have fits := truthful.fits placement member
    obtain ⟨account, inside, held⟩ := fits.present active sure
    exact ⟨account, inside, held, fits.named account inside held⟩
  missing := (truthful.fits placement member).missing
  alone := fun other inside here held same => world.database.valid.placements.eq_of_key inside member
    (truthful.apart other inside placement member here held same)

def office : Place where
  site := ⟨[], [⟨"org-1", "staff"⟩], [], []⟩
  issued := []
  held := by simp

-- The second office makes carol and its answer is lost; the first one loses her to somebody else.
def mishaps : List Label :=
  [.request (Tracking.provisionCarol
      [Tracking.target "n1" (.ok "usr-a1"), Tracking.target "n2" (.error "timed out")])
    [.answered ⟨"a1", "k1", 3⟩, .unanswered "timed out" ⟨"b2", "k2", 3⟩],
   .elsewhere "n1" ⟨"a2", "k3", 3⟩ (.deleteUser "usr-a1" "org-1"),
   .request (.syncAll fun nodeId =>
      ⟨.ok (if nodeId = "n1" then [] else [{ id := "usr-b2", name := "carol" }]), Tracking.noon⟩)
    [.answered ⟨"a3", "k4", 3⟩, .answered ⟨"b3", "k5", 3⟩]]

end Runs

end Fleet.FleetTruth
