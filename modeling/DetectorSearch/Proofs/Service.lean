import DetectorSearch.Proofs.Enrichment.Timeline
import DetectorSearch.Proofs.Operation
import DetectorSearch.Service.CatalogSearch
import DetectorSearch.Service.StatusLookup

/-!
# What the services leave in a session

Searches and lookups do not mix: a search touches nothing that lookups show, and
an enrichment nothing that searches show. A search asks the catalog once, in
memory always, and a server unless it cannot be reached.

Results:
1. `search_keeps_lookups`, `enrich_keeps_searches`: the two kinds of traces.
2. `Asked.trans`: what several searches with one request ask together.
3. `search_asks_once`: one search asks once, and with its own request.
-/

namespace DetectorSearch

variable {σ : Type} {around : Surroundings σ} {session : Session σ}

namespace Session

/-- The requests that were posted. Only searches post. -/
def posts (session : Session σ) : List Http.Request :=
  session.sent.filter fun request => request.method = .post

/-- What a session shows of searches: who answers them, and what was posted. -/
def searches (session : Session σ) : SearchBackend × List Http.Request :=
  (session.search, session.posts)

/-- What a session shows of lookups: who answers them, which were made in memory, and what a server
was asked. -/
def lookups (session : Session σ) : StatusBackend × List String × List Http.Request :=
  (session.status, Event.calls session.events,
    session.sent.filter fun request => request.method = .get)

theorem lookups_of_logged (session : Session σ) (record : LogRecord) :
    lookups { session with events := session.events ++ [.logged record] } = session.lookups := by
  simp [lookups, Event.calls]

end Session

open Op

/-! ## 1. Two kinds of traces -/

namespace CatalogSearch

variable {connection : Connection} {request : SearchRequest} {address : Http.Address}

/-- What becomes of a request that can be sent. -/
def posted (around : Surroundings σ) (connection : Connection) (request : SearchRequest)
    (address : Http.Address) : Op σ Value := do
  let exchange ← Session.send around ⟨.post, address, connection.user, some request.body⟩
  exchange.wait.forM Session.sleep
  let reply ← Session.ofOutcome exchange.reply
  Session.ofOutcome (reply.payload address)

/-- A request that cannot be sent leaves nothing behind. -/
theorem payloadOf_cases (around : Surroundings σ) (connection : Connection)
    (request : SearchRequest) (session : Session σ) :
    (∃ failure, (payloadOf around connection request).outcome session =
      (.error failure, session)) ∨
    ∃ address, (payloadOf around connection request).outcome session =
      (posted around connection request address).outcome session := by
  simp only [payloadOf, outcome_bind, outcome_ofOutcome]
  cases connection.base.locate target with
  | error failure => exact .inl ⟨failure, rfl⟩
  | ok address =>
      cases Json.encode request.body with
      | error failure => exact .inl ⟨failure, rfl⟩
      | ok _ =>
          dsimp only
          cases address.check with
          | error failure => exact .inl ⟨failure, rfl⟩
          | ok _ =>
              refine .inr ⟨address, ?_⟩
              simp only [posted, outcome_bind, outcome_ofOutcome]

theorem payloadOf_keeps_lookups : Keeps Session.lookups (payloadOf around connection request) := by
  intro session
  rcases payloadOf_cases around connection request session with ⟨failure, h⟩ | ⟨address, h⟩
  · rw [h]
  · have hposted : Keeps Session.lookups (posted around connection request address) := by
      refine Keeps.bind (keeps_send fun session world => by simp [Session.lookups]) fun exchange => ?_
      refine Keeps.bind (keeps_forM_sleep _ fun _ _ => rfl) fun _ => ?_
      exact (keeps_ofOutcome _).bind fun reply => keeps_ofOutcome _
    rw [h]
    exact hposted session

theorem log_keeps_lookups (level : LogLevel) (source : LogSource) (message : String) :
    Keeps Session.lookups (Session.log (σ := σ) level source message) :=
  fun session => Session.lookups_of_logged session _

theorem byServer_keeps_lookups (link : Link) :
    Keeps Session.lookups (byServer around link request) := by
  unfold byServer
  refine Keeps.bind (keeps_connect link (fun _ _ => rfl) fun _ _ => rfl) fun connection => ?_
  refine (keeps_ofOutcome _).bind fun _ => ?_
  refine Keeps.bind ?_ fun payload => keeps_ofOutcome _
  refine payloadOf_keeps_lookups.tryCatch fun failure => ?_
  split
  · exact (log_keeps_lookups _ _ _).bind fun _ => keeps_throw _
  · exact keeps_throw failure

/-- A search touches nothing that lookups show. -/
theorem search_keeps_lookups (around : Surroundings σ) (request : SearchRequest) :
    Keeps Session.lookups (search around request) := by
  intro session
  rw [search, outcome_bind, outcome_get]
  cases hsearch : session.search with
  | memory catalog =>
      simp only [hsearch, outcome_bind, outcome_modify, outcome_ofOutcome]
      rfl
  | server link =>
      simp only [hsearch]
      exact byServer_keeps_lookups link session

end CatalogSearch

namespace StatusLookup

theorem askServer_keeps_searches (link : Link) (id : String) :
    Keeps Session.searches (askServer around link id) := by
  unfold askServer
  refine Keeps.bind (keeps_connect link (fun _ _ => rfl) fun _ _ => rfl) fun connection => ?_
  refine (keeps_ofOutcome _).bind fun address => (keeps_ofOutcome _).bind fun _ => ?_
  refine Keeps.bind (keeps_send fun session world => ?_) fun exchange => keeps_pure _
  simp [Session.searches, Session.posts]

theorem answer_keeps_searches (id : String) : Keeps Session.searches (answer around id) := by
  intro session
  rw [answer, outcome_bind, outcome_get]
  cases hstatus : session.status with
  | memory service => simp [hstatus]
  | server link =>
      simp only [hstatus]
      exact (askServer_keeps_searches link id).tryCatch (fun failure => keeps_pure _) session

theorem record_keeps_searches (events : List Event) :
    Keeps Session.searches (record (σ := σ) events) := by
  unfold record
  exact keeps_get.bind fun current session => rfl

/-- An enrichment touches nothing that searches show. -/
theorem enrich_keeps_searches (around : Surroundings σ) (request : EnrichRequest) :
    Keeps Session.searches (enrich around request) := by
  have hflown (schedule : Schedule) : Keeps Session.searches (do
      record schedule.events
      modify fun session : Session σ => { session with clock := schedule.clock }
      Session.ofOutcome (schedule.verdicts.headD (.ok request.page))) :=
    (record_keeps_searches _).bind fun _ =>
      Keeps.bind (fun session => rfl) fun _ => keeps_ofOutcome _
  have hrest (answers : List Answer) : Keeps Session.searches (do
      let current ← (get : Op σ (Session σ))
      let schedule := enrichAll current.clock none [(request, answers)]
      record schedule.events
      modify fun session : Session σ => { session with clock := schedule.clock }
      Session.ofOutcome (schedule.verdicts.headD (.ok request.page))) :=
    keeps_get.bind fun current => hflown (enrichAll current.clock none [(request, answers)])
  have hanswers : Keeps Session.searches
      (request.page.mapM fun detector => answer around detector.id) :=
    Keeps.mapM fun detector => answer_keeps_searches detector.id
  unfold enrich
  dsimp only
  split
  · exact hanswers.bind hrest
  · exact (keeps_pure []).bind hrest

end StatusLookup

/-! ## 2. What is asked -/

/-- Between two sessions the catalog was asked one request a number of times, and nothing else. A
server may have been out of reach some of the times. -/
inductive Asked (request : SearchRequest) (count : Nat) (before after : Session σ) : Prop where
  | memory {catalog : Catalog} (hbefore : before.search = .memory catalog)
      (hafter : after.searches = (.memory { catalog with
        requests := catalog.requests ++ List.replicate count request }, before.posts))
  | server {link link' : Link} (posts : List Http.Request) (hbefore : before.search = .server link)
      (hafter : after.searches = (.server link', before.posts ++ posts))
      (hcount : posts.length ≤ count) (hbody : ∀ post ∈ posts, post.body = some request.body)

namespace Asked

variable {request : SearchRequest} {count count' : Nat} {before middle after : Session σ}

theorem refl_server {link : Link} (h : before.search = .server link) :
    Asked request count before before := by
  have hnone : before.searches = (.server link, before.posts ++ []) := by
    simp [Session.searches, h]
  exact .server [] h hnone (Nat.zero_le count) (by simp)

theorem of_searches_eq (h : Asked request count before middle)
    (heq : after.searches = middle.searches) : Asked request count before after := by
  cases h with
  | memory hbefore hafter => exact .memory hbefore (heq.trans hafter)
  | server posts hbefore hafter hcount hbody =>
      exact .server posts hbefore (heq.trans hafter) hcount hbody

/-- What is asked one after another is asked together. -/
theorem trans (h : Asked request count before middle) (h' : Asked request count' middle after) :
    Asked request (count + count') before after := by
  cases h with
  | @memory catalog hbefore hafter =>
      obtain ⟨hsearch, hposts⟩ := Prod.mk.inj hafter
      cases h' with
      | memory hbefore' hafter' =>
          obtain rfl := SearchBackend.memory.inj (hsearch.symm.trans hbefore')
          rw [hposts, List.append_assoc, List.replicate_append_replicate] at hafter'
          exact .memory hbefore hafter'
      | server _ hbefore' => exact absurd (hsearch.symm.trans hbefore') nofun
  | server posts hbefore hafter hcount hbody =>
      obtain ⟨hsearch, hposts⟩ := Prod.mk.inj hafter
      cases h' with
      | memory hbefore' => exact absurd (hsearch.symm.trans hbefore') nofun
      | server posts' hbefore' hafter' hcount' hbody' =>
          rw [hposts, List.append_assoc] at hafter'
          refine .server (posts ++ posts') hbefore hafter' ?_ fun post hpost => ?_
          · rw [List.length_append]
            exact Nat.add_le_add hcount hcount'
          · exact (List.mem_append.1 hpost).elim (hbody post) (hbody' post)

end Asked

namespace CatalogSearch

variable {connection : Connection} {request : SearchRequest}

theorem payloadOf_asks_once {link : Link} (hserver : session.search = .server link) :
    Asked request 1 session ((payloadOf around connection request).outcome session).2 := by
  rcases payloadOf_cases around connection request session with ⟨failure, h⟩ | ⟨address, h⟩
  · rw [h]
    exact Asked.refl_server hserver
  · -- what comes after the request does not show
    have hview : Session.searches ((posted around connection request address).outcome session).2 =
        _ := view_bind _ fun exchange =>
          Keeps.bind (keeps_forM_sleep _ fun _ _ => rfl) fun _ =>
            (keeps_ofOutcome _).bind fun reply => keeps_ofOutcome _
    have hsent : Session.searches ((posted around connection request address).outcome session).2 =
        (.server link, session.posts ++
          [⟨.post, address, connection.user, some request.body⟩]) := by
      rw [hview]
      simp [Session.searches, Session.posts, hserver]
    rw [h]
    exact .server _ hserver hsent (Nat.le_refl 1) (by simp)

/-- A connection to a server asks nothing yet. -/
theorem connect_server {link link' : Link} (hserver : session.search = .server link') :
    ∃ last, Session.searches ((Session.connect link fun link session =>
      { session with search := .server link }).outcome session).2 =
        (.server last, session.posts) := by
  unfold Session.connect
  split
  · exact ⟨link', by simp [Session.searches, hserver]⟩
  · simp only [outcome_bind, outcome_modify, outcome_ofOutcome]
    cases link.dial with
    | error failure => exact ⟨link', by simp [Session.searches, Session.posts, hserver]⟩
    | ok connection => exact ⟨_, rfl⟩

theorem byServer_asks_once {link : Link} (hserver : session.search = .server link) :
    Asked request 1 session ((byServer around link request).outcome session).2 := by
  obtain ⟨last, hconnected⟩ := @connect_server σ session link link hserver
  rw [byServer, outcome_bind]
  cases hconnect : (Session.connect link fun link session =>
      { session with search := .server link }).outcome session with
  | mk result connected =>
      rw [hconnect] at hconnected
      obtain ⟨hsearch, hposts⟩ := Prod.mk.inj hconnected
      have hnothing : Asked request 0 session connected :=
        .server [] hserver (by rw [List.append_nil]; exact hconnected) (Nat.le_refl 0) (by simp)
      cases result with
      | error failure => exact hnothing.trans (@Asked.refl_server σ request 1 connected last hsearch)
      | ok connection =>
          dsimp only
          rw [outcome_bind, outcome_ofOutcome]
          cases quotable request.body with
          | error failure =>
              exact hnothing.trans (@Asked.refl_server σ request 1 connected last hsearch)
          | ok _ =>
              -- all that comes after the reply only reads it
              refine hnothing.trans ((@payloadOf_asks_once σ around connected connection request last
                hsearch).of_searches_eq ?_)
              refine (view_bind _ fun payload => keeps_ofOutcome _).trans
                (view_tryCatch _ fun failure => ?_)
              split
              · exact Keeps.bind (fun session => rfl) fun _ => keeps_throw _
              · exact keeps_throw failure

/-- A search asks the catalog once, with its own request. -/
theorem search_asks_once (around : Surroundings σ) (request : SearchRequest) (session : Session σ) :
    Asked request 1 session ((search around request).outcome session).2 := by
  rw [search, outcome_bind, outcome_get]
  cases hsearch : session.search with
  | memory catalog =>
      simp only [hsearch, outcome_bind, outcome_modify, outcome_ofOutcome]
      exact .memory hsearch rfl
  | server link =>
      simp only [hsearch]
      exact byServer_asks_once hsearch

end CatalogSearch

end DetectorSearch
