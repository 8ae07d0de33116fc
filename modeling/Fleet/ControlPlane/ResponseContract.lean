import Fleet.ControlPlane.ShimResponses

set_option autoImplicit false

namespace Fleet.ShimResponses

open NodeAdapter ShimAdapter

def Contract {Result : Type} : Except Raised Result → Prop
  | .ok _ => True
  | .error (.adapterError _) => True
  | .error (.escaped _) => False

def Returns {Result : Type} (outcome : Except Raised Result) : Prop :=
  ∃ result, outcome = .ok result

section Values

def Value.Object : Value → Prop
  | .obj _ => True
  | _ => False

def Value.Iterable : Value → Prop
  | .arr _ | .str _ | .obj _ => True
  | _ => False

def Value.items : Value → List Value
  | .arr items => items
  | .str text => text.toList.map fun c => .str (String.singleton c)
  | .obj members => members.map fun member => .str member.1
  | _ => []

-- What the parsers can take: an object with an id, for a server also org ids that can be iterated,
-- and for a session a start that is text if it is given at all.
def Identified : Value → Prop
  | .obj fields => (Value.get? fields "id").isSome
  | _ => False

def ServerShaped : Value → Prop
  | .obj fields =>
      (Value.get? fields "id").isSome ∧ (Value.getD fields "org_ids" (.arr [])).Iterable
  | _ => False

def TextOrFalse : Value → Prop
  | .str _ => True
  | value => value.truthy = false

def SessionShaped : Value → Prop
  | .obj fields => TextOrFalse (Value.getD fields "connected_since" .null)
  | _ => False

def ListOf (shaped : Value → Prop) (fields : List (String × Value)) (key : String) : Prop :=
  (Value.getD fields key (.arr [])).Iterable ∧
    ∀ item ∈ (Value.getD fields key (.arr [])).items, shaped item

def Document (readable : List (String × Value) → Prop) : Value → Prop
  | .obj fields => readable fields
  | _ => False

-- What a method can make of a decoded 2xx body.
def Readable : Operation → Value → Prop
  | .health => Value.Object
  | .getState => Document fun fields =>
      ListOf ServerShaped fields "servers" ∧ ListOf Identified fields "orgs" ∧
        ListOf Identified fields "users"
  | .listServers => Document fun fields => ListOf ServerShaped fields "servers"
  | .listOrgs => Document fun fields => ListOf Identified fields "orgs"
  | .listUsers => Document fun fields => ListOf Identified fields "users"
  | .listSessions => Document fun fields => ListOf SessionShaped fields "sessions"
  | .createUser .. | .setUserDisabled .. | .setUserPolicy .. | .createOrg _ => Identified
  | .setServerState .. => ServerShaped
  | .deleteUser .. | .issueProfile .. | .revokeProfile .. | .deleteOrg _ => fun _ => True

end Values

-- The mutations whose answer is parsed.
def parses : Operation → Bool
  | .createUser .. | .setUserDisabled .. | .setUserPolicy .. | .createOrg _ | .setServerState .. =>
      true
  | _ => false

section Conditions

variable {Moment : Type} (runtime : Runtime Moment)

def Decodes (readable : Value → Prop) (content : ByteArray) : Prop :=
  match runtime.loads content with
  | .ok value => readable value
  | .error _ => False

-- A body that is no JSON is tolerated where ValueError is caught.
def Tolerated (readable : Value → Prop) (content : ByteArray) : Prop :=
  match runtime.loads content with
  | .ok value => readable value
  | .error exception => exception = .valueError

def AcceptableRead (operation : Operation) (resp : Response) : Prop :=
  resp.status = 200 → Tolerated runtime (Readable operation) resp.content

def AcceptableMutation (operation : Operation) (resp : Response) : Prop :=
  (400 ≤ resp.status → resp.status ≠ 401 → Tolerated runtime Value.Object resp.content) ∧
    (resp.status < 400 → parses operation = true → Decodes runtime (Readable operation) resp.content)

def Meets (accepted : Response → Prop) : Exchange → Prop
  | .httpError _ => True
  | .response resp => accepted resp

/-- The exchanges a method copes with. -/
def Acceptable (operation : Operation) : Exchange → Prop :=
  match operation.mutates with
  | true => Meets (AcceptableMutation runtime operation)
  | false => Meets (AcceptableRead runtime operation)

end Conditions

section Monad

variable {First Second : Type}

theorem returns_pure (value : First) : Returns (pure value : Except Raised First) := ⟨value, rfl⟩

theorem returns_ok (value : First) : Returns (.ok value : Except Raised First) := ⟨value, rfl⟩

theorem not_returns_error (raised : Raised) : ¬ Returns (.error raised : Except Raised First) := by
  rintro ⟨value, same⟩
  cases same

theorem returns_bind (first : Except Raised First) (second : First → Except Raised Second) :
    Returns (first >>= second) ↔ ∃ value, first = .ok value ∧ Returns (second value) := by
  cases first with
  | ok value => exact ⟨fun later => ⟨value, rfl, later⟩, by rintro ⟨_, ⟨⟩, later⟩; exact later⟩
  | error raised =>
      constructor
      · exact fun later => absurd later (not_returns_error raised)
      · rintro ⟨_, same, -⟩
        cases same

theorem returns_map (first : Except Raised First) (view : First → Second) :
    Returns (first.map view) ↔ Returns first := by
  cases first with
  | ok value => exact ⟨fun _ => returns_ok value, fun _ => returns_ok _⟩
  | error raised => exact ⟨fun later => absurd later (not_returns_error raised),
      fun later => absurd later (not_returns_error raised)⟩

theorem contract_map (first : Except Raised First) (view : First → Second) :
    Contract (first.map view) ↔ Contract first := by
  cases first with
  | ok value => exact Iff.rfl
  | error raised => cases raised <;> exact Iff.rfl

theorem contract_ok_bind (value : First) (second : First → Except Raised Second) :
    Contract ((Except.ok value : Except Raised First) >>= second) ↔ Contract (second value) :=
  Iff.rfl

-- Parsers never raise AdapterError themselves.
def Silent (outcome : Except Raised First) : Prop := ∀ text, outcome ≠ .error (.adapterError text)

theorem contract_of_silent {outcome : Except Raised First} (silent : Silent outcome) :
    Contract outcome ↔ Returns outcome := by
  cases outcome with
  | ok value => exact ⟨fun _ => returns_ok value, fun _ => trivial⟩
  | error raised =>
      cases raised with
      | adapterError text => exact absurd rfl (silent text)
      | escaped exception =>
          exact ⟨fun broken => broken.elim, fun later => absurd later (not_returns_error _)⟩

theorem Silent.bind {first : Except Raised First} {second : First → Except Raised Second}
    (silent : Silent first) (later : ∀ value, Silent (second value)) :
    Silent (first >>= second) := by
  intro text
  cases first with
  | ok value => exact later value text
  | error raised =>
      intro same
      exact silent text (by cases same; rfl)

theorem silent_ok (value : First) : Silent (.ok value : Except Raised First) := fun _ same => by
  cases same

theorem silent_mapM {parse : First → Except Raised Second} (silent : ∀ item, Silent (parse item))
    (items : List First) : Silent (items.mapM parse) := by
  induction items with
  | nil => exact silent_ok []
  | cons item rest ih =>
      rw [List.mapM_cons]
      exact (silent item).bind fun value => ih.bind fun values => silent_ok (value :: values)

theorem returns_mapM (parse : First → Except Raised Second) (items : List First) :
    Returns (items.mapM parse) ↔ ∀ item ∈ items, Returns (parse item) := by
  induction items with
  | nil => simp [returns_pure]
  | cons item rest ih =>
      rw [List.mapM_cons, returns_bind, List.forall_mem_cons, ← ih]
      constructor
      · rintro ⟨value, parsed, later⟩
        obtain ⟨values, others, -⟩ := (returns_bind _ _).1 later
        exact ⟨⟨value, parsed⟩, ⟨values, others⟩⟩
      · rintro ⟨⟨value, parsed⟩, ⟨values, others⟩⟩
        exact ⟨value, parsed, (returns_bind _ _).2 ⟨values, others, returns_pure _⟩⟩

end Monad

section Parsers

theorem silent_subscript (s : Value) (key : String) : Silent (subscript s key) := by
  intro text
  unfold subscript
  split
  · split <;> simp
  · simp

theorem silent_members (s : Value) : Silent (members s) := by
  intro text
  unfold members
  split <;> simp

theorem silent_iterate (s : Value) : Silent (iterate s) := by
  intro text
  unfold iterate
  split <;> simp

theorem iterate_eq_ok {s : Value} {items : List Value} :
    iterate s = .ok items ↔ s.Iterable ∧ s.items = items := by
  cases s <;> simp [iterate, Value.Iterable, Value.items]

theorem returns_members_bind {Info : Type} (s : Value)
    (next : List (String × Value) → Except Raised Info) :
    Returns (members s >>= next) ↔ ∃ fields, s = .obj fields ∧ Returns (next fields) := by
  rw [returns_bind]
  cases s <;> simp [members]

-- The parsers of a row start with its id and then read members that may be missing.
theorem returns_identified_bind {Info : Type} (s : Value)
    (next : Value → List (String × Value) → Except Raised Info) :
    Returns (do let id ← subscript s "id"; let fields ← members s; next id fields) ↔
      ∃ fields id, s = .obj fields ∧ Value.get? fields "id" = some id ∧
        Returns (next id fields) := by
  rw [returns_bind]
  cases s with
  | obj fields =>
      cases found : Value.get? fields "id" with
      | none => simp [subscript, found]
      | some id => simp [subscript, found, returns_members_bind]
  | _ => simp [subscript]

theorem returns_parseOrg (o : Value) : Returns (parseOrg o) ↔ Identified o := by
  rw [parseOrg, returns_identified_bind]
  cases o <;> simp [Identified, returns_pure, Option.isSome_iff_exists]

theorem returns_parseUser (u : Value) : Returns (parseUser u) ↔ Identified u := by
  rw [parseUser, returns_identified_bind]
  cases u <;> simp [Identified, returns_pure, Option.isSome_iff_exists]

theorem returns_parseServer (s : Value) : Returns (parseServer s) ↔ ServerShaped s := by
  rw [parseServer, returns_identified_bind]
  simp only [returns_bind, iterate_eq_ok, returns_pure, and_true]
  cases s <;> simp [ServerShaped, Option.isSome_iff_exists]

variable {Moment : Type} (runtime : Runtime Moment)

theorem silent_connectedSince (ts : Value) : Silent (connectedSince runtime ts) := by
  intro text
  unfold connectedSince
  split
  · split <;> simp
  · simp

theorem returns_connectedSince (ts : Value) :
    Returns (connectedSince runtime ts) ↔ TextOrFalse ts := by
  unfold connectedSince
  cases ts with
  | str text =>
      by_cases given : Value.truthy (.str text) = true <;> simp [given, TextOrFalse, returns_ok]
  | _ =>
      split
      next given => simp [TextOrFalse, given, not_returns_error]
      next absent => simpa [TextOrFalse, returns_ok] using absent

theorem returns_parseSession (s : Value) : Returns (parseSession runtime s) ↔ SessionShaped s := by
  rw [parseSession, returns_members_bind]
  simp only [returns_bind, returns_pure, and_true]
  cases s with
  | obj fields => simp [SessionShaped, ← returns_connectedSince runtime, Returns]
  | _ => simp [SessionShaped]

theorem returns_parseAll {Info : Type} {parse : Value → Except Raised Info}
    {shaped : Value → Prop} (parsed : ∀ item, Returns (parse item) ↔ shaped item) (data : Value)
    (key : String) :
    Returns (parseAll parse data key) ↔ Document (fun fields => ListOf shaped fields key) data := by
  rw [parseAll, returns_members_bind]
  cases data with
  | obj fields =>
      simp [returns_bind, iterate_eq_ok, returns_mapM, parsed, Document, ListOf]
  | _ => simp [Document]

theorem silent_parseOrg (o : Value) : Silent (parseOrg o) :=
  (silent_subscript o "id").bind fun _ => (silent_members o).bind fun _ => silent_ok _

theorem silent_parseUser (u : Value) : Silent (parseUser u) :=
  (silent_subscript u "id").bind fun _ => (silent_members u).bind fun _ => silent_ok _

theorem silent_parseServer (s : Value) : Silent (parseServer s) :=
  (silent_subscript s "id").bind fun _ => (silent_members s).bind fun _ =>
    (silent_iterate _).bind fun _ => silent_ok _

theorem silent_parseSession (s : Value) : Silent (parseSession runtime s) :=
  (silent_members s).bind fun _ => (silent_connectedSince runtime _).bind fun _ => silent_ok _

theorem silent_parseAll {Info : Type} {parse : Value → Except Raised Info}
    (silent : ∀ item, Silent (parse item)) (data : Value) (key : String) :
    Silent (parseAll parse data key) :=
  (silent_members data).bind fun _ => (silent_iterate _).bind fun items =>
    silent_mapM silent items

end Parsers

section Methods

variable {Moment : Type} (runtime : Runtime Moment) (base : String)

theorem getJson_loaded {resp : Response} {data : Value} (ok : resp.status = 200)
    (loaded : runtime.loads resp.content = .ok data) (sent : Request) :
    getJson runtime base sent (.response resp) = .ok data := by
  simp only [getJson, request, ok, loaded, bind, Except.bind]
  rfl

theorem getJson_invalid {resp : Response} {exception : PyException} (ok : resp.status = 200)
    (loaded : runtime.loads resp.content = .error exception) (sent : Request) :
    getJson runtime base sent (.response resp) = .error
      (if exception = .valueError then .adapterError ("invalid JSON from " ++ sent.path)
        else .escaped exception) := by
  simp only [getJson, request, ok, loaded, bind, Except.bind]
  cases exception <;> rfl

theorem getJson_failed {resp : Response} (failed : resp.status ≠ 200) (sent : Request) :
    ∃ text, getJson runtime base sent (.response resp) = .error (.adapterError text) := by
  unfold getJson request
  simp only [bind, Except.bind]
  by_cases refused : resp.status = 401
  · rw [if_pos refused]
    exact ⟨_, rfl⟩
  · rw [if_neg refused, if_pos failed]
    exact ⟨_, rfl⟩

theorem contract_getJson_bind {Result : Type} {next : Value → Except Raised Result}
    {readable : Value → Prop} (silent : ∀ data, Silent (next data))
    (returns : ∀ data, Returns (next data) ↔ readable data) (sent : Request) (exchange : Exchange) :
    Contract (getJson runtime base sent exchange >>= next) ↔
      Meets (fun resp => resp.status = 200 → Tolerated runtime readable resp.content) exchange := by
  cases exchange with
  | httpError text => exact Iff.rfl
  | response resp =>
      by_cases ok : resp.status = 200
      · simp only [Meets, ok, Tolerated, true_implies]
        cases loaded : runtime.loads resp.content with
        | ok data =>
            rw [getJson_loaded runtime base ok loaded]
            exact (contract_of_silent (silent data)).trans (returns data)
        | error exception =>
            rw [getJson_invalid runtime base ok loaded]
            cases exception <;> simp [Contract, bind, Except.bind]
      · obtain ⟨text, raised⟩ := getJson_failed runtime base ok sent
        simp [raised, Meets, ok, Contract, bind, Except.bind]

theorem returns_errorDetail (resp : Response) :
    Returns (errorDetail runtime resp) ↔ Tolerated runtime Value.Object resp.content := by
  unfold errorDetail Tolerated
  cases runtime.loads resp.content with
  | ok value => cases value <;> simp [Value.Object, returns_ok, not_returns_error]
  | error exception => cases exception <;> simp [returns_ok, not_returns_error]

theorem silent_errorDetail (resp : Response) : Silent (errorDetail runtime resp) := by
  intro text
  unfold errorDetail
  split <;> simp

theorem mutate_of_low {resp : Response} (low : resp.status < 400) (sent : Request) :
    mutate runtime base sent (.response resp) = .ok resp := by
  have other : resp.status ≠ 401 := by omega
  have small : ¬ 400 ≤ resp.status := by omega
  simp [mutate, request, other, small, bind, Except.bind]
  rfl

theorem mutate_refused {resp : Response} (refused : resp.status = 401) (sent : Request) :
    ∃ text, mutate runtime base sent (.response resp) = .error (.adapterError text) :=
  ⟨_, by simp [mutate, request, refused, bind, Except.bind]; rfl⟩

theorem mutate_of_high {resp : Response} (high : 400 ≤ resp.status) (other : resp.status ≠ 401)
    (sent : Request) :
    mutate runtime base sent (.response resp) = (do
      let detail ← errorDetail runtime resp
      throw (.adapterError ("node shim " ++ toString resp.status ++ ": " ++ detail))) := by
  simp [mutate, request, high, other, bind, Except.bind]

-- The status alone decides whether a mutation gets past `_mutate`.
theorem mutate_eq_ok {sent : Request} {exchange : Exchange} {resp : Response} :
    mutate runtime base sent exchange = .ok resp ↔ exchange = .response resp ∧ resp.status < 400 := by
  cases exchange with
  | httpError text => simp [mutate, request, bind, Except.bind]
  | response got =>
      rcases Nat.lt_or_ge got.status 400 with low | high
      · rw [mutate_of_low runtime base low]
        constructor
        · rintro ⟨⟩
          exact ⟨rfl, low⟩
        · rintro ⟨⟨⟩, -⟩
          rfl
      · constructor
        · intro passed
          by_cases refused : got.status = 401
          · obtain ⟨text, raised⟩ := mutate_refused runtime base refused sent
            cases raised.symm.trans passed
          · rw [mutate_of_high runtime base high refused] at passed
            cases detail : errorDetail runtime got with
            | ok text =>
                simp [detail, bind, Except.bind, throw, throwThe, MonadExceptOf.throw] at passed
            | error raised => simp [detail, bind, Except.bind] at passed
        · rintro ⟨⟨⟩, low⟩
          omega

theorem contract_mutate_bind {Result : Type} {next : Response → Except Raised Result}
    {accepted : Response → Prop} (silent : ∀ resp, Silent (next resp))
    (returns : ∀ resp, Returns (next resp) ↔ accepted resp) (sent : Request) (exchange : Exchange) :
    Contract (mutate runtime base sent exchange >>= next) ↔
      Meets (fun resp =>
        (400 ≤ resp.status → resp.status ≠ 401 → Tolerated runtime Value.Object resp.content) ∧
          (resp.status < 400 → accepted resp)) exchange := by
  cases exchange with
  | httpError text => exact ⟨fun _ => trivial, fun _ => trivial⟩
  | response resp =>
      rcases Nat.lt_or_ge resp.status 400 with low | high
      · rw [mutate_of_low runtime base low, contract_ok_bind, contract_of_silent (silent resp), returns]
        simp [Meets, low]
      · by_cases refused : resp.status = 401
        · obtain ⟨text, raised⟩ := mutate_refused runtime base refused sent
          simp [raised, Meets, refused, Contract, bind, Except.bind]
        · rw [mutate_of_high runtime base high refused]
          simp only [Meets, high, ← returns_errorDetail]
          cases detail : errorDetail runtime resp with
          | ok text =>
              simp [Contract, bind, Except.bind, returns_ok, throw, throwThe, MonadExceptOf.throw,
                Nat.not_lt.2 high]
          | error raised =>
              cases raised with
              | adapterError text => exact absurd detail (silent_errorDetail runtime resp text)
              | escaped exception => simp [Contract, bind, Except.bind, not_returns_error, refused]

theorem json_eq_ok {resp : Response} {data : Value} :
    json runtime resp = .ok data ↔ runtime.loads resp.content = .ok data := by
  cases loaded : runtime.loads resp.content <;> simp [json, loaded, Except.mapError]

theorem silent_json (resp : Response) : Silent (json runtime resp) := by
  intro text
  cases loaded : runtime.loads resp.content <;> simp [json, loaded, Except.mapError]

theorem returns_json_bind {Info : Type} {parse : Value → Except Raised Info}
    {shaped : Value → Prop} (parsed : ∀ value, Returns (parse value) ↔ shaped value)
    (resp : Response) :
    Returns (json runtime resp >>= parse) ↔ Decodes runtime shaped resp.content := by
  rw [returns_bind]
  simp only [json_eq_ok, parsed, Decodes]
  cases runtime.loads resp.content <;> simp

theorem contract_mutateThen {Info : Type} {parse : Value → Except Raised Info}
    {shaped : Value → Prop} (silent : ∀ value, Silent (parse value))
    (parsed : ∀ value, Returns (parse value) ↔ shaped value) (sent : Request)
    (exchange : Exchange) :
    Contract (mutateThen runtime base parse sent exchange) ↔
      Meets (fun resp =>
        (400 ≤ resp.status → resp.status ≠ 401 → Tolerated runtime Value.Object resp.content) ∧
          (resp.status < 400 → Decodes runtime shaped resp.content)) exchange :=
  contract_mutate_bind runtime base
    (fun resp => (silent_json runtime resp).bind fun value => silent value)
    (returns_json_bind runtime parsed) sent exchange

-- A mutation whose answer is not parsed.
theorem contract_mutate_only {Result : Type} (result : Response → Result) (sent : Request)
    (exchange : Exchange) :
    Contract (mutate runtime base sent exchange >>= fun resp => pure (result resp)) ↔
      Meets (fun resp =>
        (400 ≤ resp.status → resp.status ≠ 401 → Tolerated runtime Value.Object resp.content) ∧
          (resp.status < 400 → True)) exchange :=
  contract_mutate_bind runtime base (fun _ => silent_ok _) (fun _ => iff_true_intro (returns_pure _))
    sent exchange

theorem contract_health (exchange : Exchange) :
    Contract (health runtime base exchange) ↔
      Meets (fun resp => resp.status = 200 → Tolerated runtime Value.Object resp.content)
        exchange := by
  cases exchange with
  | httpError text => exact Iff.rfl
  | response resp =>
      simp only [health, request, Meets, Tolerated]
      split
      next refused => simp [Contract, refused]
      split
      next failed =>
        have other : resp.status ≠ 200 := by omega
        simp [Contract, other]
      split
      next other => simp [Contract, other]
      next ok =>
        have status : resp.status = 200 := not_not.1 ok
        cases runtime.loads resp.content with
        | ok data => cases data <;> simp [members, Except.map, Contract, Value.Object, status]
        | error exception => cases exception <;> simp [Contract, status]

end Methods

theorem returns_getState_rest (data : Value) :
    Returns (do
      let servers ← parseAll parseServer data "servers"
      let orgs ← parseAll parseOrg data "orgs"
      let users ← parseAll parseUser data "users"
      return NodeState.mk servers orgs users) ↔ Readable .getState data := by
  have split : Readable .getState data ↔
      Returns (parseAll parseServer data "servers") ∧ Returns (parseAll parseOrg data "orgs") ∧
        Returns (parseAll parseUser data "users") := by
    rw [returns_parseAll returns_parseServer, returns_parseAll returns_parseOrg,
      returns_parseAll returns_parseUser]
    cases data <;> simp [Readable, Document]
  rw [split]
  simp only [returns_bind, returns_pure, and_true]
  constructor
  · rintro ⟨servers, first, orgs, second, third⟩
    exact ⟨⟨servers, first⟩, ⟨orgs, second⟩, third⟩
  · rintro ⟨⟨servers, first⟩, ⟨orgs, second⟩, third⟩
    exact ⟨servers, first, orgs, second, third⟩

theorem silent_getState_rest (data : Value) :
    Silent (do
      let servers ← parseAll parseServer data "servers"
      let orgs ← parseAll parseOrg data "orgs"
      let users ← parseAll parseUser data "users"
      return NodeState.mk servers orgs users) :=
  (silent_parseAll silent_parseServer data _).bind fun _ =>
    (silent_parseAll silent_parseOrg data _).bind fun _ =>
      (silent_parseAll silent_parseUser data _).bind fun _ => silent_ok _

theorem meets_congr {accepted accepted' : Response → Prop}
    (same : ∀ resp, accepted resp ↔ accepted' resp) (exchange : Exchange) :
    Meets accepted exchange ↔ Meets accepted' exchange := by
  cases exchange with
  | httpError text => exact Iff.rfl
  | response resp => exact same resp

section Families

variable {Moment : Type} (runtime : Runtime Moment) (base : String) (operation : Operation)

theorem contract_read {Info Result : Type} (reads : operation.mutates = false)
    {next : Value → Except Raised Info} (silent : ∀ data, Silent (next data))
    (returns : ∀ data, Returns (next data) ↔ Readable operation data) (view : Info → Result)
    (sent : Request) (exchange : Exchange) :
    Contract ((getJson runtime base sent exchange >>= next).map view) ↔
      Acceptable runtime operation exchange := by
  rw [contract_map, contract_getJson_bind runtime base silent returns, Acceptable, reads]
  exact Iff.rfl

theorem contract_parsed {Info Result : Type} (mutates : operation.mutates = true)
    (parsed : parses operation = true) {parse : Value → Except Raised Info}
    (silent : ∀ value, Silent (parse value))
    (returns : ∀ value, Returns (parse value) ↔ Readable operation value) (view : Info → Result)
    (sent : Request) (exchange : Exchange) :
    Contract ((mutateThen runtime base parse sent exchange).map view) ↔
      Acceptable runtime operation exchange := by
  rw [contract_map, contract_mutateThen runtime base silent returns, Acceptable, mutates]
  exact meets_congr (fun resp => by simp [AcceptableMutation, parsed]) exchange

theorem contract_unparsed {Info Result : Type} (mutates : operation.mutates = true)
    (unparsed : parses operation = false) (result : Response → Info) (view : Info → Result)
    (sent : Request) (exchange : Exchange) :
    Contract ((mutate runtime base sent exchange >>= fun resp => pure (result resp)).map view) ↔
      Acceptable runtime operation exchange := by
  rw [contract_map, contract_mutate_only, Acceptable, mutates]
  exact meets_congr (fun resp => by simp [AcceptableMutation, unparsed]) exchange

end Families

/-- The contract as every caller relies on it, the liveness check apart. -/
def AdapterErrorContract {Moment : Type} (runtime : Runtime Moment) (base : String) : Prop :=
  ∀ operation, operation ≠ .health → ∀ exchange,
    Contract (perform runtime base operation exchange)

-- The decoder on the two bodies that matter here: none at all, and an empty array.
def bareRuntime : Runtime String where
  loads content := if content.size = 0 then .error .valueError else .ok (.arr [])
  text _ := ""
  format _ := ""
  fromisoformat text := some text

section Mutations

variable {Moment : Type} (runtime : Runtime Moment) (base : String)

theorem returns_mutate_bind {Result : Type} {next : Response → Except Raised Result}
    (sent : Request) (exchange : Exchange) :
    Returns (mutate runtime base sent exchange >>= next) ↔
      ∃ resp, exchange = .response resp ∧ resp.status < 400 ∧ Returns (next resp) := by
  rw [returns_bind]
  simp only [mutate_eq_ok, and_assoc]

theorem returns_parsed (operation : Operation) {Info Result : Type}
    (parsed : parses operation = true) {parse : Value → Except Raised Info}
    (returns : ∀ value, Returns (parse value) ↔ Readable operation value) (view : Info → Result)
    (sent : Request) (exchange : Exchange) :
    Returns ((mutateThen runtime base parse sent exchange).map view) ↔
      ∃ resp, exchange = .response resp ∧ resp.status < 400 ∧
        (parses operation = true → Decodes runtime (Readable operation) resp.content) := by
  rw [returns_map, mutateThen, returns_mutate_bind]
  simp only [returns_json_bind runtime returns, parsed, true_implies]

theorem returns_unparsed (operation : Operation) {Info Result : Type}
    (unparsed : parses operation = false) (result : Response → Info) (view : Info → Result)
    (sent : Request) (exchange : Exchange) :
    Returns ((mutate runtime base sent exchange >>= fun resp => pure (result resp)).map view) ↔
      ∃ resp, exchange = .response resp ∧ resp.status < 400 ∧
        (parses operation = true → Decodes runtime (Readable operation) resp.content) := by
  rw [returns_map, returns_mutate_bind]
  simp [returns_pure, unparsed]

theorem returns_mutation_iff {operation : Operation} (mutates : operation.mutates = true)
    (exchange : Exchange) :
    Returns (perform runtime base operation exchange) ↔
      ∃ resp, exchange = .response resp ∧ resp.status < 400 ∧
        (parses operation = true → Decodes runtime (Readable operation) resp.content) := by
  cases operation with
  | health | getState | listServers | listOrgs | listUsers | listSessions => cases mutates
  | createUser orgId name email =>
      exact returns_parsed runtime base (.createUser orgId name email) rfl returns_parseUser _ _ _
  | setUserDisabled userId orgId disabled =>
      exact returns_parsed runtime base (.setUserDisabled userId orgId disabled) rfl
        returns_parseUser _ _ _
  | deleteUser userId orgId => exact returns_unparsed runtime base _ rfl (fun _ => ()) _ _ _
  | issueProfile userId orgId fmt => exact returns_unparsed runtime base _ rfl Response.content _ _ _
  | revokeProfile userId orgId => exact returns_unparsed runtime base _ rfl (fun _ => ()) _ _ _
  | setServerState serverId action =>
      exact returns_parsed runtime base (.setServerState serverId action) rfl
        returns_parseServer _ _ _
  | createOrg name =>
      exact returns_parsed runtime base (.createOrg name) rfl returns_parseOrg _ _ _
  | deleteOrg orgId => exact returns_unparsed runtime base _ rfl (fun _ => ()) _ _ _
  | setUserPolicy userId orgId policy =>
      exact returns_parsed runtime base (.setUserPolicy userId orgId policy) rfl
        returns_parseUser _ _ _

def Successful : Exchange → Prop
  | .httpError _ => False
  | .response resp => 200 ≤ resp.status ∧ resp.status < 300

-- A redirect, or an informational status, with a body that the method can use.
def Mistakable (operation : Operation) : Exchange → Prop
  | .httpError _ => False
  | .response resp =>
      resp.status < 400 ∧ ¬ (200 ≤ resp.status ∧ resp.status < 300) ∧
        (parses operation = true → Decodes runtime (Readable operation) resp.content)

theorem successful_iff {operation : Operation} (mutates : operation.mutates = true)
    (exchange : Exchange) :
    (Returns (perform runtime base operation exchange) → Successful exchange) ↔
      ¬ Mistakable runtime operation exchange := by
  rw [returns_mutation_iff runtime base mutates]
  cases exchange with
  | httpError text => simp [Mistakable]
  | response resp =>
      constructor
      · rintro returned ⟨low, unsuccessful, decodes⟩
        exact unsuccessful (returned ⟨resp, rfl, low, decodes⟩)
      · rintro honest ⟨_, ⟨⟩, low, decodes⟩
        by_contra unsuccessful
        exact honest ⟨low, unsuccessful, decodes⟩

end Mutations

end Fleet.ShimResponses
