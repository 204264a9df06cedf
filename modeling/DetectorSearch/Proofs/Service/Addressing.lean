import DetectorSearch.Proofs.Http.Address
import DetectorSearch.Proofs.Service.Replies

/-!
# The addresses of profiles

The id of a detector is put into the path of its profile as it is written. An id in
which nothing has a meaning of its own there is named by the address: it is read
back from the path, so two of them never lead to one profile. An id with a mark of
a query or a fragment, with a coded byte or with a step is not named, and one with
a control character, half of a pair or too many characters is not asked for at all.

Results:
1. `Addressable`, `Names`: ids that can stand in a path, and addresses that name
   them.
2. `names_of_addressable`, `addressable_of_names`: the addresses of profiles.
3. `fetch_sends`: the requests of lookups.
4. `fetch_names`: the ids that lookups name.
5. `escapedId_misleads`: an id that leads to the profile of another one.
-/

namespace DetectorSearch.StatusLookup

open Http Address Text Op

variable {base address : Http.Address} {id other : String}

/-! ## 1. Ids in paths -/

/-- What stands behind the base, up to the id. -/
def headSegments : List Char := "_plugins/_anomaly_detection/detectors".toList

/-- What stands behind the id, behind a slash. -/
def tailSegments : List Char := "_profile/state".toList

/-- The path of a profile under a base address, with an id in it as it stands there. -/
def profilePath (base : Http.Address) (coded : List Char) : List Char :=
  base.target ++ (headSegments ++ '/' :: (coded ++ '/' :: tailSegments))

/-- Whether an address names a detector: its path is that of a profile, the id is read back from its
place, and there is nothing else. -/
structure Names (base address : Http.Address) (id : String) : Prop where
  path : ∃ coded, address.path = profilePath base coded ∧ percentDecode coded = id.toList
  query : address.query = none
  fragment : address.fragment = none

/-- Whether nothing in an id has a meaning of its own in a path, or cannot stand there. -/
structure Addressable (base : Http.Address) (id : String) : Prop where
  unmarked : '?' ∉ id.toList ∧ '#' ∉ id.toList
  unescaped : hasEscape id.toList = false
  settled : hasStep id.toList = false
  visible : ∀ c ∈ id.toList, 0x20 ≤ c.toNat ∧ c.toNat ≠ 0x7F
  whole : ∀ c ∈ id.toList, isHalf c = false
  short : (profilePath base (percentEncode isPathSafe id.toList)).length ≤ lengthLimit

/-- Whether a base address is that of a server: it is made of a text, has a scheme and nothing behind
its path, and some profile can be asked for under it. -/
structure Hosts (base : Http.Address) : Prop where
  made : ∃ s, ofBase s = .ok base
  scheme : base.scheme ≠ []
  query : base.query = none
  fragment : base.fragment = none
  asked : ∃ id address, base.locate (target id) = .ok address ∧ address.check = .ok ()

/-- The target of an id, behind its first two characters. -/
def targetRest (id : String) : List Char :=
  headSegments.drop 1 ++ '/' :: (id.toList ++ '/' :: tailSegments)

theorem target_eq_cons (id : String) : target id = '/' :: '_' :: targetRest id := by
  have hhead : targetHead = '/' :: '_' :: (headSegments.drop 1 ++ ['/']) := by decide
  have htail : targetTail = '/' :: tailSegments := by decide
  rw [target, hhead, htail, targetRest]
  simp

theorem cons_targetRest (id : String) :
    '_' :: targetRest id = headSegments ++ '/' :: (id.toList ++ '/' :: tailSegments) :=
  rfl

/-- What holds of all characters around an id holds of its target if it holds of the id. -/
theorem forall_mem_target {p : Char → Prop} [DecidablePred p]
    (h : (targetHead ++ targetTail).all (fun c => p c) = true) :
    (∀ c ∈ target id, p c) ↔ ∀ c ∈ id.toList, p c := by
  simp only [List.all_eq_true, decide_eq_true_eq, List.mem_append] at h
  unfold target
  simp only [List.mem_append]
  constructor
  · intro htarget c hc
    exact htarget c (.inl (.inr hc))
  · rintro hid c ((hc | hc) | hc)
    · exact h c (.inl hc)
    · exact hid c hc
    · exact h c (.inr hc)

/-- The path under a base that a relative path leads to, in percent coding. -/
def under (base : Http.Address) (u : List Char) : List Char :=
  base.target ++ '_' :: percentEncode isPathSafe u

theorem percentEncode_underscore (u : List Char) :
    '_' :: percentEncode isPathSafe u = percentEncode isPathSafe ('_' :: u) := by
  have hmark : isPathSafe '_' = true := by decide
  rw [percentEncode_cons, if_pos hmark, List.singleton_append]

/-- The coded target of an id leads to the path of its profile. -/
theorem under_targetRest (base : Http.Address) (id : String) :
    under base (targetRest id) = profilePath base (percentEncode isPathSafe id.toList) := by
  have hslash : isPathSafe '/' = true := by decide
  have hhead : ∀ c ∈ headSegments, isPathSafe c = true := List.all_eq_true.1 (by decide)
  have htail : ∀ c ∈ tailSegments, isPathSafe c = true := List.all_eq_true.1 (by decide)
  rw [under, percentEncode_underscore, cons_targetRest, percentEncode_append, percentEncode_cons,
    if_pos hslash, percentEncode_append, percentEncode_cons, if_pos hslash,
    percentEncode_of_safe hhead, percentEncode_of_safe htail]
  rfl

/-- The path of a profile, read back segment by segment. -/
theorem percentDecode_profilePath {front : List Char} (h : base.target = front ++ ['/'])
    (coded : List Char) : percentDecode (profilePath base coded) =
      percentDecode front ++ '/' :: (headSegments ++ '/' :: (percentDecode coded ++
        '/' :: tailSegments)) := by
  have hhead : percentDecode headSegments = headSegments :=
    percentDecode_of_unescaped (by decide)
  have htail : percentDecode tailSegments = tailSegments :=
    percentDecode_of_unescaped (by decide)
  rw [profilePath, h, List.append_assoc, List.singleton_append, percentDecode_slash,
    percentDecode_slash, percentDecode_slash, hhead, htail]

theorem percentDecode_under {front : List Char} (h : base.target = front ++ ['/'])
    (u : List Char) : percentDecode (under base u) =
      percentDecode front ++ '/' :: percentDecode ('_' :: u) := by
  rw [under, percentEncode_underscore, h, List.append_assoc, List.singleton_append,
    percentDecode_slash, leavesCodes_isPathSafe.percentDecode_percentEncode]

theorem isPathSafe_under (hbase : Rooted base) (u : List Char) :
    ∀ c ∈ under base u, isPathSafe c = true :=
  hbase.safe_append (by decide) u

/-- Behind a base the steps are those of what is put there. -/
theorem hasStep_under (hbase : Rooted base) (u : List Char) :
    hasStep (under base u) = hasStep ('_' :: u) := by
  obtain ⟨front, hfront⟩ := hbase.ends
  have hsettled := hbase.settled
  rw [hfront, hasStep_slash, Bool.or_eq_false_iff] at hsettled
  rw [under, percentEncode_underscore, hfront, List.append_assoc, List.singleton_append,
    hasStep_slash, hsettled.1, Bool.false_or, hasStep_percentEncode]

theorem hasStep_targetRest (id : String) : hasStep ('_' :: targetRest id) = hasStep id.toList := by
  have hhead : hasStep headSegments = false := by decide
  have htail : hasStep tailSegments = false := by decide
  rw [cons_targetRest, hasStep_slash, hasStep_slash, hhead, htail, Bool.false_or, Bool.or_false]

theorem head?_under (hbase : Rooted base) (u : List Char) :
    (under base u).head? = base.target.head? := by
  obtain ⟨front, hfront⟩ := hbase.ends
  rw [under, hfront, List.append_assoc, List.singleton_append]
  cases front <;> rfl

/-! ## 2. The addresses of profiles -/

theorem Hosts.rooted (h : Hosts base) : Rooted base := by
  obtain ⟨s, hs⟩ := h.made
  exact ofBase_rooted hs h.scheme h.query

/-- The address of a profile comes from the parts of its base, with a path that begins with the
target of the base. -/
theorem parts_of_locate (hbase : Rooted base) (h : base.locate (target id) = .ok address) :
    ∃ u query fragment coded,
      (targetRest id = u ++ marked '?' query ++ marked '#' fragment ∧ '?' ∉ u ∧ '#' ∉ u) ∧
      (∀ c ∈ target id, 0x20 ≤ c.toNat ∧ c.toNat ≠ 0x7F) ∧ (∀ c ∈ u, isHalf c = false) ∧
      Short (base.aimed (under base u) coded) ∧ MadeOf (base.aimed (under base u) coded) address := by
  have hslash : '_' ≠ '/' := by decide
  obtain ⟨u, query, fragment, hparts, hquestion, hnumber, hrest⟩ :=
    ofChars_relative hslash (by decide) (by decide) (targetRest id)
  rw [target_eq_cons, locate_relative hslash (by decide) hbase hparts] at h
  obtain ⟨-, hvisible, hwhole, coded, _, -, -, hshort, hmade⟩ := h
  rw [target_eq_cons]
  exact ⟨u, query, fragment, coded, ⟨hrest, hquestion, hnumber⟩, hvisible, hwhole, hshort, hmade⟩

theorem not_mem_targetRest {mark : Char} (hmark : mark ∉ id.toList)
    (haround : (targetHead ++ targetTail).all (fun c => c ≠ mark) = true) :
    mark ∉ targetRest id := by
  have hnone : ∀ c ∈ target id, c ≠ mark :=
    (forall_mem_target haround).2 fun c hc hsame => hmark (hsame ▸ hc)
  rw [target_eq_cons] at hnone
  exact fun hmem => hnone mark (List.mem_cons_of_mem _ (List.mem_cons_of_mem _ hmem)) rfl

theorem length_target_le (hbase : Rooted base) (id : String) :
    (target id).length ≤ (under base (targetRest id)).length := by
  obtain ⟨front, hfront⟩ := hbase.ends
  have hcoded := length_le_percentEncode isPathSafe (targetRest id)
  rw [target_eq_cons, under, hfront]
  simp only [List.length_append, List.length_cons, List.length_nil]
  omega

/-- A profile whose id has no marks of its own is located by its path alone. -/
theorem locate_addressable (hbase : Rooted base) (h : Addressable base id)
    (hshort : Short (base.aimed (under base (targetRest id)) none))
    (hmade : MadeOf (base.aimed (under base (targetRest id)) none) address) :
    base.locate (target id) = .ok address := by
  have hslash : '_' ≠ '/' := by decide
  have hsafe : isPathSafe '_' = true := by decide
  have hvisible : ∀ c ∈ target id, 0x20 ≤ c.toNat ∧ c.toNat ≠ 0x7F :=
    (forall_mem_target (by decide)).2 h.visible
  have hwhole : ∀ c ∈ target id, isHalf c = false := (forall_mem_target (by decide)).2 h.whole
  have hparts := ofChars_plain hslash hsafe (not_mem_targetRest h.unmarked.1 (by decide))
    (not_mem_targetRest h.unmarked.2 (by decide))
  have hlength := (length_target_le hbase id).trans hshort.path
  rw [target_eq_cons] at hvisible hwhole hlength ⊢
  refine (locate_relative hslash hsafe hbase hparts).2
    ⟨hlength, hvisible, fun c hc => ?_, none, none, rfl, rfl, hshort, hmade⟩
  exact hwhole c (List.mem_cons_of_mem _ (List.mem_cons_of_mem _ hc))

/-- An id in which nothing has a meaning of its own is named by the address of its profile. -/
theorem names_of_addressable (hbase : Hosts base) (h : Addressable base id) :
    ∃ address, base.locate (target id) = .ok address ∧ address.check = .ok () ∧
      Names base address id := by
  have hrooted := hbase.rooted
  obtain ⟨other, located, hother, hcheck⟩ := hbase.asked
  obtain ⟨u, query, fragment, coded, -, -, -, hshort, hmade⟩ := parts_of_locate hrooted hother
  have hsettled : hasStep (under base (targetRest id)) = false := by
    rw [hasStep_under hrooted, hasStep_targetRest, h.settled]
  have hnil (v : List Char) : under base v ≠ [] :=
    List.append_ne_nil_of_right_ne_nil _ (List.cons_ne_nil _ _)
  have hpath : Short (base.aimed (under base (targetRest id)) none) := by
    refine ⟨hshort.scheme, hshort.authority, ?_, Nat.zero_le _, hshort.fragment⟩
    show (under base (targetRest id)).length ≤ lengthLimit
    rw [under_targetRest]
    exact h.short
  -- the address of the other profile, with the path of this one
  have hfound := madeOf_of_path hbase.scheme hbase.fragment (hnil u) (hnil (targetRest id))
    ((head?_under hrooted _).trans (head?_under hrooted u).symm) (isPathSafe_under hrooted _)
    hsettled hmade
  refine ⟨_, locate_addressable hrooted h hpath hfound, hcheck, ⟨_, under_targetRest base id, ?_⟩,
    rfl, rfl⟩
  rw [leavesCodes_isPathSafe.percentDecode_percentEncode, percentDecode_of_unescaped h.unescaped]

/-- A path that is read back has fewer characters than the target when some of it has been cut off,
decoded or resolved. So one that has as many comes from the whole target, which stands for itself. -/
theorem whole_of_length {front u cut : List Char} (hrooted : Rooted base)
    (hfront : base.target = front ++ ['/']) (hcut : targetRest id = u ++ cut)
    (hpath : address.path = percentEncode isPathSafe (resolve (under base u)))
    (hlength : (percentDecode address.path).length =
      (percentDecode front).length + 1 + ('_' :: targetRest id).length) :
    u = targetRest id ∧ hasEscape ('_' :: targetRest id) = false ∧
      hasStep ('_' :: targetRest id) = false := by
  obtain ⟨hresolved, hstepped⟩ := length_resolve (under base u)
  obtain ⟨hdecoded, hescaped⟩ := length_percentDecode ('_' :: u)
  have hunder : (percentDecode (under base u)).length =
      (percentDecode front).length + 1 + (percentDecode ('_' :: u)).length := by
    rw [percentDecode_under hfront, List.length_append, List.length_cons]
    omega
  rw [hpath, leavesCodes_isPathSafe.percentDecode_percentEncode] at hlength
  have hparts : (targetRest id).length = u.length + cut.length := by
    rw [hcut, List.length_append]
  simp only [List.length_cons] at hlength hdecoded hescaped
  have hnothing : cut = [] := List.length_eq_zero_iff.1 (by omega)
  obtain rfl : targetRest id = u := by
    rw [hcut, hnothing, List.append_nil]
  refine ⟨rfl, Bool.eq_false_iff.2 fun hescape => ?_, Bool.eq_false_iff.2 fun hstep => ?_⟩
  · have hfewer := hescaped hescape
    omega
  · rw [← hasStep_under hrooted] at hstep
    have hfewer := hstepped hstep
    omega

/-- Only such an id is named by the address of its profile. -/
theorem addressable_of_names (hbase : Hosts base) (hlocate : base.locate (target id) = .ok address)
    (h : Names base address id) : Addressable base id := by
  have hrooted := hbase.rooted
  obtain ⟨front, hfront⟩ := hrooted.ends
  obtain ⟨u, query, fragment, codedQuery, ⟨hrest, hquestion, hnumber⟩, hvisible, hwhole, hshort,
    hmade⟩ := parts_of_locate hrooted hlocate
  obtain ⟨coded, hpath, hdecode⟩ := h.path
  have hencode := hmade.encode_resolve (mt hmade.scheme_eq_nil.1 hbase.scheme)
  have hlength : (percentDecode address.path).length =
      (percentDecode front).length + 1 + ('_' :: targetRest id).length := by
    rw [hpath, percentDecode_profilePath hfront, hdecode, cons_targetRest]
    simp only [List.length_append, List.length_cons]
    omega
  rw [List.append_assoc] at hrest
  obtain ⟨rfl, hunescaped, hsettled⟩ :=
    whole_of_length hrooted hfront hrest (encode_eq_ok.1 hencode).2 hlength
  have hpart (c : Char) (hc : c ∈ id.toList) : c ∈ targetRest id :=
    List.mem_append_right _ (List.mem_cons_of_mem _ (List.mem_append_left _ hc))
  refine ⟨⟨fun hmark => hquestion (hpart _ hmark), fun hmark => hnumber (hpart _ hmark)⟩,
    Bool.eq_false_iff.2 fun hescape => ?_, (hasStep_targetRest id).symm.trans hsettled,
    (forall_mem_target (by decide)).1 hvisible, fun c hc => hwhole c (hpart c hc), ?_⟩
  · have hescapes := hasEscape_part (headSegments ++ ['/']) ('/' :: tailSegments) hescape
    rw [List.append_assoc, List.singleton_append, ← cons_targetRest, hunescaped] at hescapes
    cases hescapes
  · rw [← under_targetRest]
    exact hshort.path

/-! ## 3. The requests of lookups -/

variable {σ : Type} {around : Surroundings σ} {session : Session σ} {link : Link}
  {connection : Connection}

/-- The connection that a link has, or opens. -/
def held (link : Link) : Outcome Connection :=
  match link.connection with
  | some connection => .ok connection
  | none => link.dial

/-- The request for the profile of a detector, if it can be sent. -/
def requestFor (connection : Connection) (id : String) : Outcome Http.Request := do
  let address ← connection.base.locate (target id)
  address.check
  return ⟨.get, address, connection.user, none⟩

theorem connect_held (link : Link) (keep : Link → Session σ → Session σ) (session : Session σ) :
    ((Session.connect link keep).outcome session).1 = held link := by
  unfold Session.connect held
  cases link.connection with
  | some connection => rfl
  | none =>
      simp only [outcome_bind, outcome_modify, outcome_ofOutcome]
      cases link.dial <;> rfl

theorem askServer_sends (hheld : held link = .ok connection) (id : String) :
    ((askServer around link id).outcome session).2.sent =
      session.sent ++ (requestFor connection id).toOption.toList := by
  rw [askServer, outcome_bind]
  cases hconnect : (Session.connect link fun link session =>
      { session with status := .server link }).outcome session with
  | mk result connected =>
      have hresult : result = .ok connection := by
        rw [← hheld, ← connect_held link (fun link session => { session with status := .server link })
          session, hconnect]
      have hsent : connected.sent = session.sent := by
        have hkept : Keeps Session.sent (Session.connect link fun link (session : Session σ) =>
            { session with status := .server link }) :=
          keeps_connect link (fun _ _ => rfl) fun _ _ => rfl
        have hsession := hkept session
        rwa [hconnect] at hsession
      subst hresult
      simp only [requestFor, outcome_bind, outcome_ofOutcome]
      cases hlocate : connection.base.locate (target id) with
      | error failure => exact hsent.trans (List.append_nil _).symm
      | ok address =>
          dsimp only [bind, Except.bind]
          cases address.check with
          | error failure => exact hsent.trans (List.append_nil _).symm
          | ok _ => exact congrArg (· ++ _) hsent

/-- A lookup of a server sends the request for the profile, if it can be sent, and nothing else. -/
theorem fetch_sends (hstatus : session.status = .server link) (hheld : held link = .ok connection)
    (id : String) : ((fetch around id).outcome session).2.sent =
      session.sent ++ (requestFor connection id).toOption.toList := by
  have hfetch : ((fetch around id).outcome session).2.sent =
      ((answer around id).outcome session).2.sent := by
    unfold fetch
    refine view_bind _ fun answer => keeps_get.bind fun current => ?_
    refine Keeps.bind (keeps_get.bind fun shown => fun _ => rfl) fun _ => ?_
    exact Keeps.bind (fun _ => rfl) fun _ => keeps_ofOutcome _
  have hanswer : ((answer around id).outcome session).2.sent =
      ((askServer around link id).outcome session).2.sent := by
    rw [answer, outcome_bind, outcome_get]
    simp only [hstatus]
    exact view_tryCatch _ fun failure => keeps_pure _
  rw [hfetch, hanswer, askServer_sends hheld]

theorem requestFor_eq_ok {request : Http.Request} : requestFor connection id = .ok request ↔
    connection.base.locate (target id) = .ok request.address ∧
      request.address.check = .ok () ∧ request = ⟨.get, request.address, connection.user, none⟩ := by
  simp only [requestFor, Outcome.bind_eq_ok]
  constructor
  · rintro ⟨address, hlocate, _, hcheck, hrequest⟩
    obtain rfl := Except.ok.inj hrequest
    exact ⟨hlocate, hcheck, rfl⟩
  · rintro ⟨hlocate, hcheck, hrequest⟩
    refine ⟨_, hlocate, (), hcheck, ?_⟩
    rw [← hrequest]
    rfl

/-! ## 4. The ids that lookups name -/

/-- Whether a lookup of an id sends a request, and no other one. -/
def Sends (around : Surroundings σ) (session : Session σ) (id : String) (request : Http.Request) :
    Prop :=
  ((fetch around id).outcome session).2.sent = session.sent ++ [request]

theorem sends_iff (hstatus : session.status = .server link) (hheld : held link = .ok connection)
    {request : Http.Request} :
    Sends around session id request ↔ requestFor connection id = .ok request := by
  rw [Sends, fetch_sends hstatus hheld, List.append_right_inj]
  cases requestFor connection id with
  | error failure => exact iff_of_false nofun nofun
  | ok other => simp [Except.toOption]

/-- An address that names an id is read back as a path around the id. -/
theorem Names.percentDecode_path (h : Names base address id) {front : List Char}
    (hfront : base.target = front ++ ['/']) : percentDecode address.path =
      percentDecode front ++ '/' :: (headSegments ++ '/' :: (id.toList ++ '/' :: tailSegments)) := by
  obtain ⟨coded, hpath, hdecode⟩ := h.path
  rw [hpath, percentDecode_profilePath hfront, hdecode]

/-- A server is asked for the profile of a detector by an address that names it if and only if
nothing in the id has a meaning of its own in a path. Two such ids lead to two profiles. Ids are texts
as they are represented here, in which U+10D800 to U+10DFFF stand for halves of surrogate pairs and not
for themselves. -/
theorem fetch_names (around : Surroundings σ) (hstatus : session.status = .server link)
    (hheld : held link = .ok connection) (hbase : Hosts connection.base) :
    (∀ id, Addressable connection.base id ↔
      ∃ request, Sends around session id request ∧ request.method = .get ∧
        Names connection.base request.address id) ∧
    ∀ id other request request', Addressable connection.base id →
      Addressable connection.base other →
      Sends around session id request → Sends around session other request' →
      percentDecode request.address.path = percentDecode request'.address.path → id = other := by
  have hnamed {id : String} {request : Http.Request} (h : Addressable connection.base id)
      (hsends : Sends around session id request) : Names connection.base request.address id := by
    obtain ⟨hlocate, -⟩ := requestFor_eq_ok.1 ((sends_iff hstatus hheld).1 hsends)
    obtain ⟨address, hfound, -, hnames⟩ := names_of_addressable hbase h
    obtain rfl := Except.ok.inj (hlocate.symm.trans hfound)
    exact hnames
  refine ⟨fun id => ⟨fun h => ?_, ?_⟩, ?_⟩
  · obtain ⟨address, hlocate, hcheck, hnames⟩ := names_of_addressable hbase h
    exact ⟨⟨.get, address, connection.user, none⟩,
      (sends_iff hstatus hheld).2 (requestFor_eq_ok.2 ⟨hlocate, hcheck, rfl⟩), rfl, hnames⟩
  · rintro ⟨request, hsends, -, hnames⟩
    obtain ⟨hlocate, -⟩ := requestFor_eq_ok.1 ((sends_iff hstatus hheld).1 hsends)
    exact addressable_of_names hbase hlocate hnames
  · intro id other request request' h hother hsends hsends' hsame
    obtain ⟨front, hfront⟩ := hbase.rooted.ends
    rw [(hnamed h hsends).percentDecode_path hfront,
      (hnamed hother hsends').percentDecode_path hfront] at hsame
    have hbehind := (List.cons.inj (List.append_cancel_left hsame)).2
    have hids := (List.cons.inj (List.append_cancel_left hbehind)).2
    exact String.toList_inj.1 (List.append_cancel_right hids)

/-- A session whose states are told by a server on the same host. -/
def profileSession : Session Unit :=
  Session.start (.memory (.ofDocuments [])) (.server ⟨"http://localhost:9200", none, none, true,
    none, some CatalogSearch.localConnection, false⟩) ()

/-- The address of a profile on that server, with an id in it as it stands there. -/
def localProfile (coded : List Char) : Http.Address :=
  { CatalogSearch.localConnection.base with
    path := profilePath CatalogSearch.localConnection.base coded }

theorem requestFor_local {coded : List Char}
    (h : (CatalogSearch.localConnection.base.locate (target id)).toOption =
      some (localProfile coded)) :
    requestFor CatalogSearch.localConnection id = .ok ⟨.get, localProfile coded, none, none⟩ := by
  have hcheck : (localProfile coded).check.toOption = some () := by
    show CatalogSearch.localConnection.base.check.toOption = some ()
    decide +kernel
  exact requestFor_eq_ok.2 ⟨Outcome.eq_ok_of_toOption h, Outcome.eq_ok_of_toOption hcheck, rfl⟩

theorem hosts_local : Hosts CatalogSearch.localConnection.base where
  made := ⟨"http://localhost:9200/".toList, Outcome.eq_ok_of_toOption (by decide +kernel)⟩
  scheme := by decide
  query := rfl
  fragment := rfl
  asked := by
    obtain ⟨hlocate, hcheck, -⟩ := requestFor_eq_ok.1
      (@requestFor_local "a" "a".toList (by decide +kernel))
    exact ⟨"a", _, hlocate, hcheck⟩

theorem fetch_names_spaced :
    ∃ request, Sends (CatalogSearch.replying .null) profileSession "a b" request ∧
      request.method = .get ∧
      Names CatalogSearch.localConnection.base request.address "a b" := by
  have hvisible : ∀ c ∈ ['a', ' ', 'b'], 0x20 ≤ c.toNat ∧ c.toNat ≠ 0x7F := by
    simp only [List.forall_mem_cons]
    exact ⟨by decide, by decide, by decide, nofun⟩
  have hwhole : ∀ c ∈ ['a', ' ', 'b'], isHalf c = false := by
    simp only [List.forall_mem_cons]
    exact ⟨by decide, by decide, by decide, nofun⟩
  have haddressable : Addressable CatalogSearch.localConnection.base "a b" :=
    ⟨by decide, by decide, by decide, hvisible, hwhole, by decide +kernel⟩
  exact ((fetch_names (CatalogSearch.replying .null) rfl rfl hosts_local).1 "a b").1 haddressable

/-! ## 5. A coded byte in an id -/

theorem profilePath_inj {coded coded' : List Char}
    (h : profilePath base coded = profilePath base coded') : coded = coded' := by
  have hbehind := List.append_cancel_left (List.append_cancel_left h)
  exact List.append_cancel_right (List.cons.inj hbehind).2

/-- An id that looks like a coded byte is not named: the request for its profile leads to the profile
of another id. -/
theorem escapedId_misleads :
    ∃ request request',
      Sends (CatalogSearch.replying .null) profileSession "%41" request ∧
      Sends (CatalogSearch.replying .null) profileSession "A" request' ∧
      percentDecode request.address.path = percentDecode request'.address.path ∧
      ¬ Names CatalogSearch.localConnection.base request.address "%41" := by
  have hescaped := @requestFor_local "%41" "%41".toList (by decide +kernel)
  have hplain := @requestFor_local "A" "A".toList (by decide +kernel)
  refine ⟨_, _, (sends_iff rfl rfl).2 hescaped, (sends_iff rfl rfl).2 hplain, by decide +kernel, ?_⟩
  rintro ⟨⟨coded, hpath, hdecode⟩, -, -⟩
  obtain rfl := profilePath_inj hpath
  exact absurd hdecode (by decide)

end DetectorSearch.StatusLookup
