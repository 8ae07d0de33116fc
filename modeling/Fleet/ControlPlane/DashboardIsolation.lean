import Mathlib.Algebra.Ring.Nat
import Fleet.ControlPlane.Dashboard
import Fleet.ControlPlane.HealthSweep
import Fleet.Shared.Paired

set_option autoImplicit false

namespace Fleet.Dashboard

open Db NodeAdapter ShimResponses Health Paired

section Sites

variable {Moment : Type} (floats : Floats)

-- The live state the dashboard obtains of a node, if any.
def liveState (node : NodeRow) (visit : Visit Moment) : Option NodeState :=
  if node.enabled = false ∨ node.status = .down then none
  else
    match courseOf node visit with
    | .fetched state _ => some state
    | .raised _ => none

/-- What stands outside the `try` of a fetch lets it through. -/
def Reached (node : NodeRow) (visit : Visit Moment) : Prop :=
  visit.unsealing = none ∧
    rejects node.adapterType node.endpoint node.credentials = none ∧ closingOf node visit = none

def fetchedOf (node : NodeRow) (visit : Visit Moment) : Fetched Moment :=
  if node.enabled = false ∨ node.status = .down then
    (none, [], if node.enabled then none else some "node disabled")
  else
    match courseOf node visit with
    | .fetched state sessions => (some state, sessions, none)
    | .raised text => (none, [], some ("live fetch failed: " ++ text))

def siteOf (node : NodeRow) (visit : Visit Moment) : Except Raised SiteSummary :=
  summarize floats node (fetchedOf node visit)

def siteClients (node : NodeRow) (visit : Visit Moment) : Except Raised Value :=
  match liveState node visit with
  | none => .ok (.int 0)
  | some state => sum floats (state.servers.map ServerInfo.onlineClients)

/-- All live counts are zero. -/
structure SiteSummary.Dark (site : SiteSummary) : Prop where
  serversTotal : site.serversTotal = 0
  serversOnline : site.serversOnline = 0
  orgs : site.orgs = 0
  usersTotal : site.usersTotal = 0
  usersDisabled : site.usersDisabled = 0
  activeSessions : site.activeSessions = 0
  onlineClients : site.onlineClients = .int 0

variable {floats}

theorem buildAdapter_ok_iff (node : NodeRow) (visit : Visit Moment) :
    Returns (buildAdapter node visit) ↔
      visit.unsealing = none ∧
        rejects node.adapterType node.endpoint node.credentials = none := by
  unfold buildAdapter
  cases visit.unsealing with
  | some exception => exact iff_of_false (not_returns_error _) (by simp)
  | none =>
      cases built : rejects node.adapterType node.endpoint node.credentials with
      | none => simp [buildAdapterForNode, built, Except.mapError, returns_ok]
      | some text => simp [buildAdapterForNode, built, Except.mapError, not_returns_error]

theorem fetchNode_reached {node : NodeRow} {visit : Visit Moment}
    (reached : node.enabled = true → node.status ≠ .down → Reached node visit) :
    fetchNode node visit = .ok (fetchedOf node visit) := by
  unfold fetchNode fetchedOf
  by_cases skipped : node.enabled = false ∨ node.status = .down
  · rw [if_pos skipped, if_pos skipped]
  · rw [if_neg skipped, if_neg skipped]
    obtain ⟨enabled, up⟩ := not_or.1 skipped
    obtain ⟨unsealed, accepted, closed⟩ := reached (by simpa using enabled) up
    obtain ⟨adapterType, built⟩ := (buildAdapter_ok_iff node visit).2 ⟨unsealed, accepted⟩
    rw [built, closed]
    dsimp only
    cases courseOf node visit <;> rfl

theorem reached_of_fetchNode {node : NodeRow} {visit : Visit Moment}
    (returned : Returns (fetchNode node visit)) (enabled : node.enabled = true)
    (up : node.status ≠ .down) : Reached node visit := by
  have taken : ¬ (node.enabled = false ∨ node.status = .down) := by simp [enabled, up]
  unfold fetchNode at returned
  rw [if_neg taken] at returned
  cases built : buildAdapter node visit with
  | error raised => simp [built, not_returns_error] at returned
  | ok adapterType =>
      cases closing : closingOf node visit with
      | some exception => simp [built, closing, not_returns_error] at returned
      | none =>
          obtain ⟨unsealed, accepted⟩ := (buildAdapter_ok_iff node visit).1 ⟨_, built⟩
          exact ⟨unsealed, accepted, closing⟩

-- What a summary takes from its own node, and nothing else.
structure Own (floats : Floats) (node : NodeRow) (visit : Visit Moment) (site : SiteSummary) :
    Prop where
  nodeId : site.nodeId = node.id
  name : site.name = node.name
  region : site.region = node.region
  status : site.status = node.status
  error : site.error = (fetchedOf node visit).2.2
  clients : siteClients floats node visit = .ok site.onlineClients
  dark : liveState node visit = none → site.Dark

theorem fetchedOf_state (node : NodeRow) (visit : Visit Moment) :
    (fetchedOf node visit).1 = liveState node visit := by
  unfold fetchedOf liveState
  split
  · rfl
  · cases courseOf node visit <;> rfl

theorem siteOf_own {node : NodeRow} {visit : Visit Moment} {site : SiteSummary}
    (made : siteOf floats node visit = .ok site) : Own floats node visit site := by
  have state := fetchedOf_state node visit
  rw [siteOf] at made
  rcases fetched : fetchedOf node visit with ⟨live, sessions, error⟩
  rw [fetched] at state made
  unfold summarize at made
  dsimp only at made state
  cases live with
  | none =>
      cases made
      refine ⟨rfl, rfl, rfl, rfl, by rw [fetched], by rw [siteClients, ← state], fun _ => ?_⟩
      exact ⟨rfl, rfl, rfl, rfl, rfl, rfl, rfl⟩
  | some live =>
      cases summed : sum floats (live.servers.map ServerInfo.onlineClients) with
      | error raised => simp [summed, Except.map] at made
      | ok onlineClients =>
          dsimp only at made
          rw [summed] at made
          cases made
          refine ⟨rfl, rfl, rfl, rfl, by rw [fetched], ?_, fun dark => ?_⟩
          · rw [siteClients, ← state]
            exact summed
          · rw [dark] at state
            cases state

theorem siteOf_returns (node : NodeRow) (visit : Visit Moment) :
    Returns (siteOf floats node visit) ↔ Returns (siteClients floats node visit) := by
  rw [siteClients, ← fetchedOf_state, siteOf]
  rcases fetchedOf node visit with ⟨_ | live, sessions, error⟩
  · exact iff_of_true (returns_ok _) (returns_ok _)
  · exact returns_map _ _

end Sites

section Loop

variable {Moment : Type} {floats : Floats}

-- The output after the loop has been over these sites.
def extended (out : DashboardOut) (summaries : List SiteSummary) (onlineClients : Value) :
    DashboardOut :=
  { out with
    sites := out.sites ++ summaries
    totals := { out.totals with
      sitesReachable := out.totals.sitesReachable +
        summaries.countP fun site => site.status = .reachable
      serversTotal := out.totals.serversTotal + (summaries.map SiteSummary.serversTotal).sum
      serversOnline := out.totals.serversOnline + (summaries.map SiteSummary.serversOnline).sum
      usersTotal := out.totals.usersTotal + (summaries.map SiteSummary.usersTotal).sum
      activeSessions := out.totals.activeSessions + (summaries.map SiteSummary.activeSessions).sum
      onlineClients := onlineClients } }

theorem extended_cons (out : DashboardOut) (site : SiteSummary) (summaries : List SiteSummary)
    (clients total : Value) :
    extended (extended out [site] clients) summaries total =
      extended out (site :: summaries) total := by
  simp only [extended, List.append_assoc, List.singleton_append, List.map_cons, List.map_nil,
    List.sum_cons, List.sum_nil, List.countP_cons, List.countP_nil, Nat.add_zero, Nat.zero_add,
    Nat.add_assoc, Nat.add_comm (List.countP _ summaries)]

theorem tally_ok_iff (out final : DashboardOut) (node : NodeRow) (visit : Visit Moment) :
    tally floats out (node, fetchedOf node visit) = .ok final ↔
      ∃ site onlineClients, siteOf floats node visit = .ok site ∧
        plus floats out.totals.onlineClients site.onlineClients = .ok onlineClients ∧
          final = extended out [site] onlineClients := by
  unfold tally
  rw [← siteOf]
  cases made : siteOf floats node visit with
  | error raised => simp [bind, Except.bind]
  | ok site =>
      have status := (siteOf_own made).status
      cases added : plus floats out.totals.onlineClients site.onlineClients with
      | error raised =>
          simp only [bind, Except.bind, added, reduceCtorEq, false_iff]
          rintro ⟨_, _, ⟨⟩, clash, -⟩
          cases added.symm.trans clash
      | ok onlineClients =>
          simp only [bind, Except.bind, added, pure, Except.pure, Except.ok.injEq]
          constructor
          · rintro rfl
            refine ⟨site, onlineClients, rfl, added, ?_⟩
            by_cases reachable : node.status = .reachable <;> simp [extended, status, reachable]
          · rintro ⟨_, _, rfl, again, rfl⟩
            obtain rfl := Except.ok.inj (added.symm.trans again)
            by_cases reachable : node.status = .reachable <;> simp [extended, status, reachable]

theorem tallied_iff (visits : String → Visit Moment) (nodes : List NodeRow)
    (out final : DashboardOut) :
    (nodes.foldlM (fun out node => tally floats out (node, fetchedOf node (visits node.id))) out =
        .ok final) ↔
      ∃ summaries onlineClients,
        List.Forall₂ (fun node site => siteOf floats node (visits node.id) = .ok site) nodes
            summaries ∧
          (summaries.map SiteSummary.onlineClients).foldlM (plus floats)
              out.totals.onlineClients = .ok onlineClients ∧
            final = extended out summaries onlineClients := by
  induction nodes generalizing out with
  | nil =>
      simp only [List.foldlM_nil, List.forall₂_nil_left_iff]
      constructor
      · intro same
        exact ⟨[], out.totals.onlineClients, rfl, rfl, by
          rw [← Except.ok.inj same]
          simp [extended]⟩
      · rintro ⟨_, _, rfl, same, rfl⟩
        rw [← Except.ok.inj same]
        simp [extended, pure, Except.pure]
  | cons node rest ih =>
      rw [List.foldlM_cons, bind_eq_ok]
      simp only [ih, tally_ok_iff, List.forall₂_cons_left_iff]
      constructor
      · rintro ⟨_, ⟨site, clients, made, added, rfl⟩, summaries, total, paired, summed, rfl⟩
        refine ⟨site :: summaries, total, ⟨site, summaries, made, paired, rfl⟩, ?_, ?_⟩
        · rw [List.map_cons, List.foldlM_cons, bind_eq_ok]
          exact ⟨clients, added, summed⟩
        · exact extended_cons out site summaries clients total
      · rintro ⟨_, total, ⟨site, summaries, made, paired, rfl⟩, summed, rfl⟩
        rw [List.map_cons, List.foldlM_cons, bind_eq_ok] at summed
        obtain ⟨clients, added, summed⟩ := summed
        exact ⟨_, ⟨site, clients, made, added, rfl⟩, summaries, total, paired, summed,
          (extended_cons out site summaries clients total).symm⟩

end Loop

section Views

variable {Moment : Type} (floats : Floats) (collation : Collation)

def start (registry : Registry) (now : Datetime) : DashboardOut :=
  { generatedAt := now, totals := { sites := (ordered collation registry).length }, sites := [] }

/-- One summary a node in order, each of its own node alone, and totals that add them up. -/
structure Shows (registry : Registry) (visits : String → Visit Moment) (out : DashboardOut) :
    Prop where
  onePerNode : (out.sites.map SiteSummary.nodeId).Perm (registry.rows.map NodeRow.key)
  inOrder : out.sites.Pairwise fun a b =>
    collation.before (a.region, a.name) (b.region, b.name) = true
  described : ∀ node ∈ registry.rows, ∀ site ∈ out.sites, site.nodeId = node.id →
    site.name = node.name ∧ site.region = node.region ∧ site.status = node.status
  -- Of two fleets that share the node and what came of it, the rest shows in neither summary.
  alone : ∀ other (otherVisits : String → Visit Moment) now otherOut,
    buildDashboard floats collation other otherVisits now = .ok otherOut →
      ∀ node ∈ registry.rows, node ∈ other.rows → visits node.id = otherVisits node.id →
        ∀ site ∈ out.sites, ∀ otherSite ∈ otherOut.sites, site.nodeId = node.id →
          otherSite.nodeId = node.id → site = otherSite
  dark : ∀ node ∈ registry.rows, liveState node (visits node.id) = none →
    ∀ site ∈ out.sites, site.nodeId = node.id → site.Dark ∧ site.error ≠ none
  sites : out.totals.sites = out.sites.length
  sitesReachable : out.totals.sitesReachable =
    out.sites.countP fun site => site.status = .reachable
  serversTotal : out.totals.serversTotal = (out.sites.map SiteSummary.serversTotal).sum
  serversOnline : out.totals.serversOnline = (out.sites.map SiteSummary.serversOnline).sum
  usersTotal : out.totals.usersTotal = (out.sites.map SiteSummary.usersTotal).sum
  activeSessions : out.totals.activeSessions = (out.sites.map SiteSummary.activeSessions).sum
  onlineClients : sum floats (out.sites.map SiteSummary.onlineClients) =
    .ok out.totals.onlineClients

-- The client counts of the sites, and their sum, where Python can add them.
def clientTotal (registry : Registry) (visits : String → Visit Moment) : Except Raised Value := do
  let counts ← (ordered collation registry).mapM fun node =>
    siteClients floats node (visits node.id)
  sum floats counts

/-- Every enabled node is up as far as is stored, its fetch is stopped by nothing outside the
`try`, and the client counts of the servers are numbers that add up. -/
structure Sound (registry : Registry) (visits : String → Visit Moment) : Prop where
  up : ∀ node ∈ registry.rows, node.enabled = true → node.status ≠ .down
  reached : ∀ node ∈ registry.rows, node.enabled = true → Reached node (visits node.id)
  addable : Returns (clientTotal floats collation registry visits)

variable {floats collation} {registry : Registry} {visits : String → Visit Moment}

theorem mem_ordered {node : NodeRow} :
    node ∈ ordered collation registry ↔ node ∈ registry.rows :=
  List.mem_insertionSort _

theorem zip_fetched (nodes : List NodeRow) {results : List (Fetched Moment)}
    (fetched : List.Forall₂ (fun node result => fetchNode node (visits node.id) = .ok result)
      nodes results) :
    nodes.zip results = nodes.map fun node => (node, fetchedOf node (visits node.id)) := by
  induction fetched with
  | nil => rfl
  | cons here _ ih =>
      have reached := fetchNode_reached (reached_of_fetchNode ⟨_, here⟩)
      rw [List.zip_cons_cons, ih, List.map_cons, Except.ok.inj (here.symm.trans reached)]

theorem buildDashboard_ok_iff (now : Datetime) (out : DashboardOut) :
    buildDashboard floats collation registry visits now = .ok out ↔
      (∀ node ∈ registry.rows, node.enabled = true → node.status ≠ .down →
        Reached node (visits node.id)) ∧
      ∃ summaries onlineClients,
        List.Forall₂ (fun node site => siteOf floats node (visits node.id) = .ok site)
            (ordered collation registry) summaries ∧
          sum floats (summaries.map SiteSummary.onlineClients) = .ok onlineClients ∧
            out = extended (start collation registry now) summaries onlineClients := by
  unfold buildDashboard
  rw [bind_eq_ok]
  constructor
  · rintro ⟨results, fetched, looped⟩
    rw [mapM_eq_ok] at fetched
    rw [zip_fetched _ fetched, List.foldlM_map, tallied_iff] at looped
    refine ⟨fun node member => ?_, looped⟩
    obtain ⟨result, -, returned⟩ := exists_right fetched (mem_ordered.2 member)
    exact reached_of_fetchNode ⟨result, returned⟩
  · rintro ⟨reached, looped⟩
    have fetched : List.Forall₂
        (fun node result => fetchNode node (visits node.id) = .ok result)
        (ordered collation registry)
        ((ordered collation registry).map fun node => fetchedOf node (visits node.id)) := by
      rw [List.forall₂_map_right_iff, List.forall₂_same]
      exact fun node member => fetchNode_reached (reached node (mem_ordered.1 member))
    refine ⟨_, (mapM_eq_ok _ _ _).2 fetched, ?_⟩
    rw [zip_fetched _ fetched, List.foldlM_map, tallied_iff]
    exact looped

theorem Collation.before_total (collation : Collation) (a b : String × String) :
    collation.before a b = true ∨ collation.before b a = true := by
  unfold Collation.before
  by_cases same : a.1 = b.1
  · simpa [same] using collation.total a.2 b.2
  · simpa [same, Ne.symm same] using collation.total a.1 b.1

theorem Collation.before_trans (collation : Collation) (a b c : String × String)
    (first : collation.before a b = true) (second : collation.before b c = true) :
    collation.before a c = true := by
  unfold Collation.before at first second ⊢
  by_cases left : a.1 = b.1 <;> by_cases right : b.1 = c.1
  · simp only [left, right, if_true] at first second ⊢
    exact collation.trans _ _ _ first second
  · simp only [left, right, if_true, if_false] at first second ⊢
    exact second
  · rw [← right]
    simp only [left, if_false] at first ⊢
    exact first
  · simp only [left, right, if_false] at first second
    by_cases same : a.1 = c.1
    · rw [← same] at second
      exact absurd (collation.antisymm _ _ first second) left
    · rw [if_neg same]
      exact collation.trans _ _ _ first second

theorem ordered_pairwise : (ordered collation registry).Pairwise fun a b =>
    collation.before (place a) (place b) = true := by
  have total : Std.Total fun a b : NodeRow => collation.before (place a) (place b) = true :=
    ⟨fun a b => collation.before_total (place a) (place b)⟩
  have trans : IsTrans NodeRow fun a b => collation.before (place a) (place b) = true :=
    ⟨fun a b c => collation.before_trans (place a) (place b) (place c)⟩
  exact List.pairwise_insertionSort _ registry.rows

variable {summaries : List SiteSummary}
  (paired : List.Forall₂ (fun node site => siteOf floats node (visits node.id) = .ok site)
    (ordered collation registry) summaries)

include paired

theorem counted : ((ordered collation registry).mapM fun node =>
    siteClients floats node (visits node.id)) =
      .ok (summaries.map SiteSummary.onlineClients) := by
  rw [mapM_eq_ok, List.forall₂_map_right_iff]
  exact paired.imp fun _ _ made => (siteOf_own made).clients

-- The summary that names a node was made of it.
theorem siteOf_of_id {node : NodeRow} (member : node ∈ registry.rows) {site : SiteSummary}
    (shown : site ∈ summaries) (names : site.nodeId = node.id) :
    siteOf floats node (visits node.id) = .ok site := by
  obtain ⟨other, present, made⟩ := exists_left paired shown
  have same : other = node := registry.unique.eq_of_key (mem_ordered.1 present) member
    ((siteOf_own made).nodeId.symm.trans names)
  rwa [same] at made

omit paired

theorem error_of_dark {node : NodeRow} {visit : Visit Moment}
    (dark : liveState node visit = none) :
    (fetchedOf node visit).2.2 = none ↔ node.enabled = true ∧ node.status = .down := by
  unfold liveState at dark
  unfold fetchedOf
  by_cases skipped : node.enabled = false ∨ node.status = .down
  · rw [if_pos skipped]
    cases enabled : node.enabled with
    | false => simp
    | true => simpa [enabled] using skipped
  · rw [if_neg skipped] at dark ⊢
    obtain ⟨enabled, up⟩ := not_or.1 skipped
    cases course : courseOf node visit with
    | fetched state sessions => simp [course] at dark
    | raised text => simp [up]

include paired

theorem shows_of_paired (up : ∀ node ∈ registry.rows, node.enabled = true → node.status ≠ .down)
    {total : Value} (summed : sum floats (summaries.map SiteSummary.onlineClients) = .ok total)
    (now : Datetime) :
    Shows floats collation registry visits
      (extended (start collation registry now) summaries total) where
  onePerNode := by
    have ids : summaries.map SiteSummary.nodeId =
        (ordered collation registry).map NodeRow.key :=
      map_eq paired fun node site made => (siteOf_own made).nodeId
    simp only [extended, start, List.nil_append, ids]
    exact (List.perm_insertionSort _ registry.rows).map NodeRow.key
  inOrder := by
    have places : (summaries.map fun site => (site.region, site.name)) =
        (ordered collation registry).map place :=
      map_eq paired fun node site made => by
        rw [(siteOf_own made).region, (siteOf_own made).name, place]
    have sorted : ((ordered collation registry).map place).Pairwise fun a b =>
        collation.before a b = true := List.pairwise_map.2 ordered_pairwise
    rw [← places] at sorted
    simpa only [extended, start, List.nil_append] using List.pairwise_map.1 sorted
  described := by
    intro node member site shown names
    have own := siteOf_own (siteOf_of_id paired member (by simpa [extended, start] using shown) names)
    exact ⟨own.name, own.region, own.status⟩
  alone := by
    intro other otherVisits later otherOut built node member present same site shown otherSite
      otherShown names otherNames
    obtain ⟨-, others, _, otherPaired, -, rfl⟩ := (buildDashboard_ok_iff later otherOut).1 built
    have made := siteOf_of_id paired member (by simpa [extended, start] using shown) names
    have otherMade := siteOf_of_id otherPaired present (by simpa [extended, start] using otherShown)
      otherNames
    rw [same] at made
    exact Except.ok.inj (made.symm.trans otherMade)
  dark := by
    intro node member unreached site shown names
    have own := siteOf_own (siteOf_of_id paired member (by simpa [extended, start] using shown) names)
    refine ⟨own.dark unreached, fun silent => ?_⟩
    rw [own.error, error_of_dark unreached] at silent
    exact up node member silent.1 silent.2
  sites := by
    simp only [extended, start, List.nil_append]
    exact paired.length_eq
  sitesReachable := by simp [extended, start]
  serversTotal := by simp [extended, start]
  serversOnline := by simp [extended, start]
  usersTotal := by simp [extended, start]
  activeSessions := by simp [extended, start]
  onlineClients := by simpa [extended, start] using summed

omit paired

theorem shows_of_sound (sound : Sound floats collation registry visits) (now : Datetime) :
    ∃ out, buildDashboard floats collation registry visits now = .ok out ∧
      Shows floats collation registry visits out := by
  obtain ⟨total, added⟩ := sound.addable
  obtain ⟨counts, each, summed⟩ := (bind_eq_ok _ _ _).1 added
  have made : Returns ((ordered collation registry).mapM fun node =>
      siteOf floats node (visits node.id)) := by
    rw [returns_mapM]
    intro node member
    rw [siteOf_returns]
    exact (returns_mapM _ _).1 ⟨counts, each⟩ node member
  obtain ⟨summaries, made⟩ := made
  have paired := (mapM_eq_ok _ _ _).1 made
  rw [Except.ok.inj (each.symm.trans (counted paired))] at summed
  refine ⟨extended (start collation registry now) summaries total, ?_,
    shows_of_paired paired sound.up summed now⟩
  exact (buildDashboard_ok_iff now _).2
    ⟨fun node member enabled _ => sound.reached node member enabled,
      summaries, total, paired, summed, rfl⟩

theorem sound_of_shows {now : Datetime} {out : DashboardOut}
    (built : buildDashboard floats collation registry visits now = .ok out)
    (shows : Shows floats collation registry visits out) :
    Sound floats collation registry visits := by
  obtain ⟨reached, summaries, total, paired, summed, rfl⟩ := (buildDashboard_ok_iff now out).1 built
  have up : ∀ node ∈ registry.rows, node.enabled = true → node.status ≠ .down := by
    intro node member enabled down
    have dark : liveState node (visits node.id) = none := if_pos (.inr down)
    obtain ⟨site, shown, made⟩ := exists_right paired (mem_ordered.2 member)
    have own := siteOf_own made
    obtain ⟨-, told⟩ := shows.dark node member dark site (by simpa [extended, start] using shown)
      own.nodeId
    exact told (own.error.trans ((error_of_dark dark).2 ⟨enabled, down⟩))
  refine ⟨up, fun node member enabled => reached node member enabled (up node member enabled), ?_⟩
  exact ⟨total, (bind_eq_ok _ _ _).2 ⟨_, counted paired, summed⟩⟩

end Views

section Fleet

-- The counts the dataclass declares always add up.
theorem foldlM_plus_whole (floats : Floats) {values : List Value}
    (whole : ∀ value ∈ values, ∃ n, value = .int n) (from_ : Int) :
    ∃ total, values.foldlM (plus floats) (.int from_) = .ok (.int total) := by
  induction values generalizing from_ with
  | nil => exact ⟨from_, rfl⟩
  | cons value rest ih =>
      obtain ⟨⟨n, rfl⟩, later⟩ := List.forall_mem_cons.1 whole
      exact ih later (from_ + n)

theorem addable_of_whole {Moment : Type} {floats : Floats} {collation : Collation}
    {registry : Registry} {visits : String → Visit Moment}
    (whole : ∀ node ∈ registry.rows, ∀ state, liveState node (visits node.id) = some state →
      ∀ server ∈ state.servers, ∃ n, server.onlineClients = .int n) :
    Returns (clientTotal floats collation registry visits) := by
  have counted : ∀ node ∈ registry.rows, ∃ n,
      siteClients floats node (visits node.id) = .ok (.int n) := by
    intro node member
    unfold siteClients
    cases live : liveState node (visits node.id) with
    | none => exact ⟨0, rfl⟩
    | some state =>
        refine foldlM_plus_whole floats ?_ 0
        intro value listed
        obtain ⟨server, present, rfl⟩ := List.mem_map.1 listed
        exact whole node member state live server present
  obtain ⟨counts, each⟩ : Returns ((ordered collation registry).mapM fun node =>
      siteClients floats node (visits node.id)) := by
    rw [returns_mapM]
    intro node member
    obtain ⟨n, here⟩ := counted node (mem_ordered.1 member)
    exact ⟨_, here⟩
  have wholeCounts : ∀ value ∈ counts, ∃ n, value = Value.int n := by
    intro value listed
    obtain ⟨node, member, made⟩ := exists_left ((mapM_eq_ok _ _ _).1 each) listed
    obtain ⟨n, here⟩ := counted node (mem_ordered.1 member)
    exact ⟨n, Except.ok.inj (made.symm.trans here)⟩
  obtain ⟨total, added⟩ := foldlM_plus_whole floats wholeCounts 0
  exact ⟨_, (bind_eq_ok _ _ _).2 ⟨counts, each, added⟩⟩

-- One node that cannot be built, or closed, takes every site off the view.
theorem unreached_hides_all {Moment : Type} (floats : Floats) (collation : Collation)
    (registry : Registry) (visits : String → Visit Moment) (now : Datetime) (node : NodeRow)
    (member : node ∈ registry.rows) (enabled : node.enabled = true) (up : node.status ≠ .down)
    (unreached : ¬ Reached node (visits node.id)) :
    ¬ Returns (buildDashboard floats collation registry visits now) := by
  rintro ⟨out, built⟩
  exact unreached (((buildDashboard_ok_iff now out).1 built).1 node member enabled up)

theorem dashboard_shows_iff {Moment : Type} (floats : Floats) (collation : Collation)
    (registry : Registry) (visits : String → Visit Moment) (now : Datetime) :
    (∃ out, buildDashboard floats collation registry visits now = .ok out ∧
        Shows floats collation registry visits out) ↔
      Sound floats collation registry visits := by
  constructor
  · rintro ⟨out, built, shows⟩
    exact sound_of_shows built shows
  · exact fun sound => shows_of_sound sound now

end Fleet

section Unbuildable

def codePoints : Collation where
  le a b := decide (a ≤ b)
  total a b := by simpa using le_total a b
  trans a b c first second := by
    simp only [decide_eq_true_eq] at first second ⊢
    exact le_trans first second
  antisymm a b first second := by
    simp only [decide_eq_true_eq] at first second
    exact le_antisymm first second

-- No count of this fleet is a float.
def noFloats : Floats := ⟨fun x _ => x, fun _ => .error (.other "OverflowError")⟩

def idle : Visit Unit := ⟨none, .fetched ⟨[], [], []⟩ [], none⟩

theorem bare_hides_all : ¬ ∃ out,
    buildDashboard noFloats codePoints pair (fun _ => idle) silent.now = .ok out ∧
      Shows noFloats codePoints pair (fun _ => idle) out := by
  rintro ⟨out, built, -⟩
  refine unreached_hides_all noFloats codePoints pair (fun _ => idle) silent.now (unchecked bare)
    ?_ rfl ?_ ?_ ⟨out, built⟩
  · exact List.mem_cons_of_mem _ List.mem_cons_self
  · decide
  · intro reached
    cases reached.2.1

end Unbuildable

end Fleet.Dashboard
