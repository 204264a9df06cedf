import DetectorSearch.Proofs.Json.Writable
import DetectorSearch.Proofs.Service.Replies
import DetectorSearch.Proofs.Tool.Memory

/-!
# Two catalogs that agree

A server that searches its documents as the catalog in memory does, by the body of
the request that it gets, is as good as a catalog in memory. The body keeps all of
the request, and the page that the server tells is read back as it is. Only a
request with an integer of more than 4300 digits is not sent to it.

Results:
1. `ofBody?_body`: a request is read back from its body.
2. `readPage_of_tells`: a page is read back from a payload that tells it.
3. `search_agrees`: a server and a catalog in memory give the same page.
4. `search_differs`: a request that is answered from memory, but not by a server.
-/

namespace DetectorSearch

/-! ## 1. Requests in bodies -/

namespace SearchRequest

/-- The field that a body sorts by, and the order. -/
def sortOf? : Value → Option (String × String)
  | .list [.object [(field, .object options)]] =>
      match Keyed.find? "order" options with
      | some (.text order) => some (field, order)
      | _ => none
  | _ => none

/-- The request that a body holds. -/
def ofBody? : Value → Option SearchRequest
  | .object fields =>
      match Keyed.find? "query" fields, Keyed.find? "size" fields, Keyed.find? "from" fields,
        (Keyed.find? "sort" fields).bind sortOf? with
      | some (.object query), some (.int size), some (.int start), some (field, order) =>
          some ⟨query, size, start, field, order⟩
      | _, _, _, _ => none
  | _ => none

/-- A body keeps all of its request. -/
theorem ofBody?_body (request : SearchRequest) : ofBody? request.body = some request :=
  rfl

end SearchRequest

namespace CatalogSearch

open Op

/-! ## 2. Pages in payloads -/

variable {payload hit : Value} {items : List Value} {detector : Detector}
  {detectors documents : List Detector} {page : Page}

/-- A hit that tells a detector. Its source may be null or left out if it is empty. -/
inductive TellsHit : Value → Detector → Prop where
  | full {parts source : Fields} {id : String}
      (hid : Keyed.find? "_id" parts = some (.text id))
      (hsource : Keyed.find? "_source" parts = some (.object source)) :
      TellsHit (.object parts) ⟨id, source⟩
  | empty {parts : Fields} {id : String}
      (hid : Keyed.find? "_id" parts = some (.text id))
      (hsource : Keyed.find? "_source" parts = some .null ∨ Keyed.find? "_source" parts = none) :
      TellsHit (.object parts) ⟨id, []⟩

/-- A payload that tells a page: a hit for each detector, in order, and the total as a value. -/
inductive Tells : Value → Page → Prop where
  | told {fields inner count : Fields} {items : List Value} {page : Page}
      (houter : Keyed.find? "hits" fields = some (.object inner))
      (hitems : Keyed.find? "hits" inner = some (.list items))
      (hhits : List.Forall₂ TellsHit items page.detectors)
      (hcount : Keyed.find? "total" inner = some (.object count))
      (htotal : Keyed.find? "value" count = some (.int page.total)) :
      Tells (.object fields) page

theorem getD_of_find? {key : String} {fields : Fields} {value default : Value}
    (h : Keyed.find? key fields = some value) : Fields.getD key fields default = value := by
  rw [Fields.getD, h, Option.getD_some]

theorem readHit_of_source {parts source : Fields} {id : String}
    (hid : Keyed.find? "_id" parts = some (.text id))
    (hsource : (Fields.getD "_source" parts .null).orElse (.object []) = .object source) :
    readHit (.object parts) = .ok ⟨id, source⟩ := by
  simp only [readHit, subscript, hid, ask, bind, Except.bind, hsource]
  rfl

theorem orElse_object (source : Fields) :
    (Value.object source).orElse (.object []) = .object source := by
  cases source <;> rfl

theorem readHit_of_tells (h : TellsHit hit detector) : readHit hit = .ok detector := by
  cases h with
  | full hid hsource =>
      exact readHit_of_source hid (by rw [getD_of_find? hsource, orElse_object])
  | empty hid hsource =>
      refine readHit_of_source hid ?_
      rcases hsource with hsource | hsource <;> rw [Fields.getD, hsource] <;> rfl

theorem readHits_of_tells (h : List.Forall₂ TellsHit items detectors) :
    readHits items = .ok detectors := by
  induction h with
  | nil => rfl
  | cons hhit _ ih =>
      rw [RepliesLemmas.readHits_cons, readHit_of_tells hhit, ih]
      rfl

/-- A page is read back from a payload that tells it. -/
theorem readPage_of_tells (h : Tells payload page) : readPage payload = .ok page := by
  cases h with
  | @told fields inner count items page houter hitems hhits hcount htotal =>
      have hopened : Opened (.object fields) inner items :=
        ⟨⟨fields, rfl, houter⟩, by rw [getD_of_find? hitems]; rfl⟩
      have htold (number : Nat) : toldTotal inner number = .int page.total := by
        rw [toldTotal, getD_of_find? hcount]
        exact getD_of_find? htotal
      rw [readPage, hopened.readParts, readHits_of_tells hhits]
      simp only [bind, Except.bind, htold]
      rfl

/-! ## 3. A server that searches as the catalog in memory does -/

variable {σ : Type} {around elsewhere : Surroundings σ} {session inMemory : Session σ}
  {request : SearchRequest} {catalog : Catalog} {link : Link} {connection : Connection}
  {address : Http.Address} {exchange : Http.Exchange}

/-- Whether an exchange ends in a reply of success with a payload that tells a page. -/
structure Delivers (exchange : Http.Exchange) (page : Page) : Prop where
  ends : ∀ clock, Ends clock exchange
  told : ∃ status payload, exchange.reply = .ok ⟨status, none, .json payload⟩ ∧
    200 ≤ status ∧ status ≤ 299 ∧ Tells payload page

/-- A server that evaluates the body of what is posted as the catalog in memory does, and delivers the
page that comes of it. -/
def Serves (around : Surroundings σ) (documents : List Detector) : Prop :=
  ∀ (sent : Http.Request) (body : Value) (request : SearchRequest) (page : Page) (world : σ),
    sent.method = .post → sent.body = some body → SearchRequest.ofBody? body = some request →
    request.page documents = .ok page → Delivers (around.exchange sent world).1 page

/-- Whether a session reaches a server: its link connects, and the connection leads to an address of a
host that can be talked to. -/
structure Reaches (session : Session σ) (link : Link) (connection : Connection)
    (address : Http.Address) : Prop where
  backend : session.search = .server link
  opened : ((Session.connect link fun link session =>
    { session with search := .server link }).outcome session).1 = .ok connection
  located : connection.base.locate target = .ok address
  named : address.check = .ok ()
  kind : address.tellsKind = true

theorem Delivers.arrives (h : Delivers exchange page) (hkind : address.tellsKind = true) :
    ∃ payload, (exchange.reply >>= fun reply => reply.payload address) = .ok payload ∧
      Tells payload page := by
  obtain ⟨status, payload, hreply, hlow, hhigh, htells⟩ := h.told
  refine ⟨payload, ?_, htells⟩
  have hsucceeded : Http.Reply.succeeded ⟨status, none, .json payload⟩ = true := by
    simp [Http.Reply.succeeded, hlow, hhigh]
  have htaken : Http.Reply.take address ⟨status, none, .json payload⟩ =
      .ok ⟨status, none, .json payload⟩ := by
    have hredirection : Http.Reply.redirection ⟨status, none, .json payload⟩ = none := by
      simp [Http.Reply.redirection]
    simp [Http.Reply.take, hkind, hredirection]
    rfl
  rw [hreply]
  show Http.Reply.payload address _ = _
  rw [Http.Reply.payload, htaken]
  simp only [bind, Except.bind, hsucceeded, if_true]
  rfl

/-- A server that is sent a request gives the page that it delivers. -/
theorem search_of_delivers (hreach : Reaches session link connection address)
    (hsent : Sent request address)
    (hdelivers : Delivers (around.exchange (carrier connection address request) session.world).1
      page) :
    ((search around request).outcome session).1 = .ok page := by
  obtain ⟨payload, hpayload, htells⟩ := hdelivers.arrives hreach.kind
  rw [search_concluded hreach.backend hreach.opened hreach.located rfl (hdelivers.ends _),
    received_of_sent hsent, hpayload]
  rcases quotable_cases request with ⟨-, hquotable⟩ | ⟨hnone, -⟩
  · rw [hquotable]
    exact readPage_of_tells htells
  · have hquoted := hsent.quoted
    rw [hnone] at hquoted
    cases hquoted

/-- A request that cannot be quoted is not sent. -/
theorem search_of_long (hreach : Reaches session link connection address)
    (hlong : Json.isShort request.body = false)
    (hdelivers : Delivers (around.exchange (carrier connection address request) session.world).1
      page) :
    ((search around request).outcome session).1 = .error .longInteger := by
  rw [search_concluded hreach.backend hreach.opened hreach.located rfl (hdelivers.ends _)]
  rcases quotable_cases request with ⟨hsome, -⟩ | ⟨-, hfault⟩
  · rw [Json.literal?_isSome, hlong] at hsome
    cases hsome
  · rw [hfault]
    rfl

/-- A server that searches its documents as the catalog in memory does gives the page that the
catalog gives, for every request that JSON can carry: its body keeps all of it. But if the request
holds an integer of more than 4300 digits, it is not sent, and the search ends in a failure. Texts are
those that are represented here: U+10D800 to U+10DFFF stand for halves of surrogate pairs, which JSON
cannot carry. -/
theorem search_agrees (hreach : Reaches session link connection address)
    (hmemory : inMemory.search = .memory catalog) (hserves : Serves around catalog.documents)
    (hportable : Json.isPortable request.body = true)
    (hpage : ((search elsewhere request).outcome inMemory).1 = .ok page) :
    SearchRequest.ofBody? request.body = some request ∧
    (Json.isShort request.body = true →
      ((search around request).outcome session).1 = .ok page) ∧
    (Json.isShort request.body = false →
      ((search around request).outcome session).1 = .error .longInteger) := by
  rw [search_memory hmemory] at hpage
  -- The server reads the request back from the body, so it delivers the page of this request.
  have hdelivers := hserves (carrier connection address request) request.body request page
    session.world rfl rfl request.ofBody?_body hpage
  refine ⟨request.ofBody?_body, fun hshort => ?_, fun hlong => ?_⟩
  · exact search_of_delivers hreach
      ⟨(Json.literal?_isSome _).trans hshort, Json.encode_portable hportable hshort, hreach.named⟩
      hdelivers
  · exact search_of_long hreach hlong hdelivers

/-- The payload that tells a page. -/
def payloadFor (page : Page) : Value :=
  .object [("hits", .object
    [("hits", .list (page.detectors.map fun detector =>
        .object [("_id", .text detector.id), ("_source", .object detector.source)])),
     ("total", .object [("value", .int page.total)])])]

/-- The reply of a server that searches some documents. -/
def replyTo (documents : List Detector) (sent : Http.Request) : Http.Reply :=
  match sent.body.bind SearchRequest.ofBody? with
  | none => ⟨400, none, .json .null⟩
  | some request =>
      match request.page documents with
      | .ok page => ⟨200, none, .json (payloadFor page)⟩
      | .error _ => ⟨400, none, .json .null⟩

/-- A server that searches some documents, and does not wait. -/
def serving (documents : List Detector) : Surroundings Unit :=
  ⟨fun sent world => (⟨none, .ok (replyTo documents sent)⟩, world), fun world => (0.0, world),
    fun _ _ => ""⟩

theorem tells_payloadFor (page : Page) : Tells (payloadFor page) page := by
  refine .told rfl rfl ?_ rfl rfl
  rw [List.forall₂_map_left_iff]
  exact List.forall₂_same.2 fun detector _ => .full rfl rfl

theorem serves_serving (documents : List Detector) : Serves (serving documents) documents := by
  intro sent body request page world _ hbody hrequest hpage
  have hreply : replyTo documents sent = ⟨200, none, .json (payloadFor page)⟩ := by
    rw [replyTo, hbody, Option.bind_some, hrequest]
    simp only [hpage]
  refine ⟨fun clock => ⟨nofun, nofun⟩,
    200, payloadFor page, ?_, by decide, by decide, tells_payloadFor page⟩
  show Except.ok (replyTo documents sent) = _
  rw [hreply]

theorem reaches_local : Reaches localSession
    ⟨"http://localhost:9200", none, none, true, none, some localConnection, false⟩ localConnection
    localAddress :=
  ⟨rfl, rfl, locate_local, rfl, rfl⟩

/-- Two detectors, one of them with an empty source. -/
def pairDocuments : List Detector :=
  [⟨"d1", [("name", .text "alpha")]⟩, ⟨"d2", []⟩]

/-- A session with some documents in memory. -/
def memorySession (documents : List Detector) : Session Unit :=
  Session.start (.memory (.ofDocuments documents)) (.memory ⟨[], []⟩) ()

theorem search_agrees_pair :
    ∃ page, ((search (serving []) wideRequest).outcome (memorySession pairDocuments)).1 = .ok page ∧
      page.detectors.map Detector.id = ["d1", "d2"] ∧
      ((search (serving pairDocuments) wideRequest).outcome localSession).1 = .ok page := by
  obtain ⟨page, hpage, hids⟩ : ∃ page, wideRequest.page pairDocuments = .ok page ∧
      page.detectors.map Detector.id = ["d1", "d2"] := by
    have htest : ((wideRequest.page pairDocuments).map fun page =>
        page.detectors.map Detector.id).toOption = some ["d1", "d2"] := by
      decide +kernel
    cases h : wideRequest.page pairDocuments with
    | error failure =>
        rw [h] at htest
        cases htest
    | ok page =>
        rw [h] at htest
        exact ⟨page, rfl, Option.some.inj htest⟩
  have hmemory : (memorySession pairDocuments).search = .memory (.ofDocuments pairDocuments) := rfl
  have hfound : ((search (serving []) wideRequest).outcome (memorySession pairDocuments)).1 =
      .ok page := by
    rw [search_memory hmemory]
    exact hpage
  have hportable : Json.isPortable wideRequest.body = true := by decide +kernel
  have hshort : Json.isShort wideRequest.body = true := by decide +kernel
  obtain ⟨-, hserver, -⟩ :=
    search_agrees reaches_local hmemory (serves_serving pairDocuments) hportable hfound
  exact ⟨page, hfound, hids, hserver hshort⟩

/-! ## 4. A request that is not sent -/

/-- A search for more detectors than can be written in 4300 digits. -/
def longRequest : SearchRequest :=
  { wideRequest with size := tenTo digitLimit }

theorem page_nil (request : SearchRequest) : request.page [] = .ok ⟨[], 0⟩ := by
  have hranked : request.rankedHits [] = .ok [] := rfl
  rw [SearchRequest.page, hranked]
  simp [slice]

/-- A search for very many detectors is answered from memory, but it is not sent to a server that
would answer it in the same way. -/
theorem search_differs :
    Json.isPortable longRequest.body = true ∧ Serves (serving []) [] ∧
    (∃ link, Reaches localSession link localConnection localAddress) ∧
    ((search (serving []) longRequest).outcome (memorySession [])).1 = .ok ⟨[], 0⟩ ∧
    ((search (serving []) longRequest).outcome localSession).1 = .error .longInteger := by
  have hpage : longRequest.page [] = .ok ⟨[], 0⟩ := page_nil longRequest
  refine ⟨by decide +kernel, serves_serving [], ⟨_, reaches_local⟩, ?_, ?_⟩
  · rw [search_memory rfl]
    exact hpage
  · exact search_of_long reaches_local (by decide +kernel)
      (serves_serving [] _ longRequest.body longRequest ⟨[], 0⟩ () rfl rfl rfl hpage)

end CatalogSearch

end DetectorSearch
