import DetectorSearch.Proofs.Http.Path
import DetectorSearch.Proofs.Outcome
import Mathlib.Data.List.TakeWhile

/-!
# Addresses and their parts

An address is made of parts, each of them by itself, or it is refused. So what an
address is under a base address is told by its path alone: scheme, user, host and
port are those of the base. A base address made of a text ends with a slash, and
its path has no steps and only safe characters.

Results:
1. `splitAtFirst_marked`: a text and what stands behind a mark.
2. `MadeOf`, `ofParts_eq_ok`, `read_eq_ok`, `withTarget_eq_ok`: addresses told by
   their parts.
3. `Rooted`, `ofBase_rooted`: base addresses.
4. `ofChars_relative`, `locate_relative`: addresses under them; `madeOf_of_path`:
   another path there.
-/

namespace DetectorSearch.Http

open Outcome Text

/-! ## 1. Marks -/

variable {mark : Char} {s front behind : List Char}

theorem splitAtFirst_of_not_mem (h : mark ∉ s) : splitAtFirst mark s = (s, none) := by
  have hnone : s.dropWhile (· != mark) = [] := by
    rw [List.dropWhile_eq_nil_iff]
    exact fun c hc => bne_iff_ne.2 fun hmark => h (hmark ▸ hc)
  rw [splitAtFirst, hnone]

theorem splitAtFirst_of_mem (h : mark ∉ front) (behind : List Char) :
    splitAtFirst mark (front ++ mark :: behind) = (front, some behind) := by
  have hfront : ∀ c ∈ front, (c != mark) = true :=
    fun c hc => bne_iff_ne.2 fun hmark => h (hmark ▸ hc)
  rw [splitAtFirst, List.dropWhile_append_of_pos hfront, List.takeWhile_append_of_pos hfront,
    List.dropWhile_cons_of_neg (by simp), List.takeWhile_cons_of_neg (by simp), List.append_nil]

theorem splitAtFirst_marked (h : mark ∉ front) (part : Option (List Char)) :
    splitAtFirst mark (front ++ Address.marked mark part) = (front, part) := by
  cases part with
  | none => rw [Address.marked, List.append_nil, splitAtFirst_of_not_mem h]
  | some part => exact splitAtFirst_of_mem h part

/-- A text is what stands in front of the first of a mark, and what stands behind it. -/
theorem splitAtFirst_spec (mark : Char) (s : List Char) :
    ∃ front part, splitAtFirst mark s = (front, part) ∧ mark ∉ front ∧
      s = front ++ Address.marked mark part := by
  by_cases h : mark ∈ s
  · obtain ⟨front, behind, rfl, hfront⟩ := List.eq_append_cons_of_mem h
    exact ⟨front, some behind, splitAtFirst_of_mem hfront behind, hfront, rfl⟩
  · refine ⟨s, none, splitAtFirst_of_not_mem h, h, ?_⟩
    rw [Address.marked, List.append_nil]

theorem splitAtFirst_cons {c : Char} (h : c ≠ mark) (s : List Char) :
    splitAtFirst mark (c :: s) = (c :: (splitAtFirst mark s).1, (splitAtFirst mark s).2) := by
  obtain ⟨front, part, hsplit, hfront, hspec⟩ := splitAtFirst_spec mark s
  have hlonger : mark ∉ c :: front := by
    rw [List.mem_cons, not_or]
    exact ⟨h.symm, hfront⟩
  have hwhole := splitAtFirst_marked hlonger part
  rw [List.cons_append, ← hspec] at hwhole
  rw [hwhole, hsplit]

namespace Address

variable {parts : Parts} {address base : Address} {isSafe : Char → Bool}
  {part coded path query fragment : List Char}

/-! ## 2. Parts -/

theorem encodeFault?_eq_none {c : Char} : Text.encodeFault? [c] = none ↔ isHalf c = false := by
  unfold encodeFault? encodeFaultIn?
  cases hhalf : isHalf c with
  | true =>
      have hfront : [c].takeWhile (fun c => !isHalf c) = [] :=
        List.takeWhile_cons_of_neg (by simp [hhalf])
      have hrun : [c].takeWhile isHalf = [c] := List.takeWhile_cons_of_pos hhalf
      dsimp only
      rw [hfront, List.length_nil, List.drop_zero, hrun]
      exact iff_of_false nofun nofun
  | false =>
      have hfront : [c].takeWhile (fun c => !isHalf c) = [c] :=
        List.takeWhile_cons_of_pos (by simp [hhalf])
      dsimp only
      rw [hfront, List.drop_length]
      exact iff_of_true rfl rfl

theorem encode_eq_ok : encode isSafe part = .ok coded ↔
    (∀ c ∈ part, isHalf c = false) ∧ coded = percentEncode isSafe part := by
  unfold encode
  cases hfault : part.findSome? fun c => Text.encodeFault? [c] with
  | none =>
      have hwhole : ∀ c ∈ part, isHalf c = false := fun c hc =>
        encodeFault?_eq_none.1 (List.findSome?_eq_none_iff.1 hfault c hc)
      constructor
      · intro h
        exact ⟨hwhole, (Except.ok.inj h).symm⟩
      · rintro ⟨-, rfl⟩
        rfl
  | some message =>
      have hbroken : ¬ ∀ c ∈ part, isHalf c = false := fun hwhole => by
        have hnone := List.findSome?_eq_none_iff.2 fun c hc =>
          encodeFault?_eq_none.2 (hwhole c hc)
        cases hnone.symm.trans hfault
      exact iff_of_false nofun fun h => hbroken h.1

theorem encodeAny_eq_none {part : Option (List Char)} :
    encodeAny isSafe part = .ok none ↔ part = none := by
  cases part with
  | none => exact iff_of_true rfl rfl
  | some part =>
      refine iff_of_false (fun h => ?_) nofun
      obtain ⟨coded, -, hnone⟩ := map_eq_ok.1 h
      cases hnone

/-- Whether an address is what its parts make up, each of them by itself. -/
structure MadeOf (parts : Parts) (address : Address) : Prop where
  scheme : address.scheme = (parts.scheme.getD []).map Char.toLower
  user : encode isUserSafe (AuthorityParts.ofChars (parts.authority.getD [])).user =
    .ok address.user
  host : Host.encode (AuthorityParts.ofChars (parts.authority.getD [])).host = .ok address.host
  port : readPort (parts.scheme.getD []) (AuthorityParts.ofChars (parts.authority.getD [])).port =
    .ok address.port
  begins : checkPath (!address.scheme.isEmpty)
    (!address.user.isEmpty || !address.host.isEmpty || address.port.isSome) parts.path = .ok ()
  path : encode isPathSafe (if !address.scheme.isEmpty ||
      (!address.user.isEmpty || !address.host.isEmpty || address.port.isSome) then
    resolve parts.path else parts.path) = .ok address.path
  query : encodeAny isQuerySafe parts.query = .ok address.query
  fragment : encodeAny isFragmentSafe parts.fragment = .ok address.fragment

theorem ofParts_eq_ok : ofParts parts = .ok address ↔ MadeOf parts address := by
  simp only [ofParts, bind_eq_ok]
  constructor
  · rintro ⟨user, huser, host, hhost, port, hport, _, hbegins, path, hpath, query, hquery,
      fragment, hfragment, haddress⟩
    obtain rfl := Except.ok.inj haddress
    exact ⟨rfl, huser, hhost, hport, hbegins, hpath, hquery, hfragment⟩
  · rintro ⟨hscheme, huser, hhost, hport, hbegins, hpath, hquery, hfragment⟩
    rw [hscheme] at hbegins hpath
    refine ⟨_, huser, _, hhost, _, hport, _, hbegins, _, hpath, _, hquery, _, hfragment, ?_⟩
    rw [← hscheme]
    rfl

theorem control?_eq_none {position : Nat} :
    control? position s = none ↔ ∀ c ∈ s, 0x20 ≤ c.toNat ∧ c.toNat ≠ 0x7F := by
  induction s generalizing position with
  | nil => exact iff_of_true rfl nofun
  | cons c rest ih =>
      rw [control?, List.forall_mem_cons]
      split
      · rename_i hcontrol
        refine iff_of_false nofun fun h => ?_
        simp only [Bool.or_eq_true, decide_eq_true_eq, beq_iff_eq] at hcontrol
        omega
      · rename_i hcontrol
        simp only [Bool.or_eq_true, decide_eq_true_eq, beq_iff_eq] at hcontrol
        rw [ih]
        exact (and_iff_right (by omega)).symm

theorem read_eq_ok : read s = .ok address ↔
    s.length ≤ lengthLimit ∧ (∀ c ∈ s, 0x20 ≤ c.toNat ∧ c.toNat ≠ 0x7F) ∧
      MadeOf (Parts.ofChars s) address := by
  rw [← @control?_eq_none _ 0, ← ofParts_eq_ok]
  unfold read
  split
  · rename_i hlong
    exact iff_of_false nofun fun h => absurd h.1 (Nat.not_le.2 hlong)
  · rename_i hshort
    rw [and_iff_right (Nat.not_lt.1 hshort)]
    cases control? 0 s with
    | none => exact (and_iff_right rfl).symm
    | some found => exact iff_of_false nofun fun h => nomatch h.1

theorem checkLength_eq_ok {name : String} :
    checkLength name part = .ok () ↔ part.length ≤ lengthLimit := by
  unfold checkLength
  split
  · rename_i hlong
    exact iff_of_false nofun (Nat.not_le.2 hlong)
  · rename_i hshort
    exact iff_of_true rfl (Nat.not_lt.1 hshort)

/-- Whether no part is longer than it may be. -/
structure Short (parts : Parts) : Prop where
  scheme : (parts.scheme.getD []).length ≤ lengthLimit
  authority : (parts.authority.getD []).length ≤ lengthLimit
  path : parts.path.length ≤ lengthLimit
  query : (parts.query.getD []).length ≤ lengthLimit
  fragment : (parts.fragment.getD []).length ≤ lengthLimit

/-- The parts of an address with another path and query. -/
def aimed (address : Address) (path : List Char) (query : Option (List Char)) : Parts :=
  ⟨some address.scheme, some address.authority, path, query, address.fragment⟩

theorem withTarget_eq_ok {query : Option (List Char)} (h : '?' ∉ path) :
    base.withTarget (path ++ marked '?' query) = .ok address ↔
      Short (base.aimed path query) ∧ MadeOf (base.aimed path query) address := by
  unfold withTarget
  rw [splitAtFirst_marked h]
  show base.rebuild _ = .ok address ↔ _
  simp only [rebuild, bind_eq_ok, ofParts_eq_ok]
  constructor
  · rintro ⟨_, hscheme, _, hauthority, _, hpath, _, hquery, _, hfragment, hmade⟩
    exact ⟨⟨checkLength_eq_ok.1 hscheme, checkLength_eq_ok.1 hauthority,
      checkLength_eq_ok.1 hpath, checkLength_eq_ok.1 hquery, checkLength_eq_ok.1 hfragment⟩, hmade⟩
  · rintro ⟨⟨hscheme, hauthority, hpath, hquery, hfragment⟩, hmade⟩
    exact ⟨(), checkLength_eq_ok.2 hscheme, (), checkLength_eq_ok.2 hauthority, (),
      checkLength_eq_ok.2 hpath, (), checkLength_eq_ok.2 hquery, (),
      checkLength_eq_ok.2 hfragment, hmade⟩

/-- An address with another path has a scheme if and only if it had one before. -/
theorem MadeOf.scheme_eq_nil {query : Option (List Char)}
    (h : MadeOf (base.aimed path query) address) : address.scheme = [] ↔ base.scheme = [] := by
  rw [h.scheme, aimed, Option.getD_some, List.map_eq_nil_iff]

/-! ## 3. Base addresses -/

namespace MadeOf

variable (h : MadeOf parts address)
include h

theorem path_safe : ∀ c ∈ address.path, isPathSafe c = true := by
  rw [(encode_eq_ok.1 h.path).2]
  exact isPathSafe_percentEncode _

/-- Behind a scheme a path is resolved. -/
theorem encode_resolve (hscheme : address.scheme ≠ []) :
    encode isPathSafe (resolve parts.path) = .ok address.path := by
  have hpath := h.path
  rw [List.isEmpty_eq_false_iff.2 hscheme, Bool.not_false, Bool.true_or, if_pos rfl] at hpath
  exact hpath

theorem not_hasStep (hscheme : address.scheme ≠ []) : hasStep address.path = false := by
  rw [(encode_eq_ok.1 (h.encode_resolve hscheme)).2, hasStep_percentEncode, hasStep_resolve]

end MadeOf

theorem target_eq (h : address.query = none) :
    address.target = if address.path.isEmpty then ['/'] else address.path := by
  rw [target, h, marked, List.append_nil]

/-- Whether what stands under a base address begins anew: behind a slash, and behind a path without
steps and of safe characters. -/
structure Rooted (base : Address) : Prop where
  ends : ∃ front, base.target = front ++ ['/']
  safe : ∀ c ∈ base.target, isPathSafe c = true
  settled : hasStep base.target = false

/-- Behind a path without steps and of safe characters a slash changes nothing else. -/
theorem settled_slash (hsafe : ∀ c ∈ path, isPathSafe c = true) (hsettled : hasStep path = false) :
    (∀ c ∈ path ++ ['/'], isPathSafe c = true) ∧ hasStep (path ++ ['/']) = false := by
  constructor
  · intro c hc
    rcases List.mem_append.1 hc with hc | hc
    · exact hsafe c hc
    · rw [List.mem_singleton.1 hc]
      decide
  · rw [hasStep_slash, hsettled]
    rfl

theorem MadeOf.target_settled (h : MadeOf parts address) (hscheme : address.scheme ≠ [])
    (hquery : address.query = none) :
    (∀ c ∈ address.target, isPathSafe c = true) ∧ hasStep address.target = false := by
  rw [target_eq hquery]
  split
  · exact @settled_slash [] nofun (by decide)
  · exact ⟨h.path_safe, h.not_hasStep hscheme⟩

theorem rooted_of_path (hquery : base.query = none) (hends : ∃ front, base.path = front ++ ['/'])
    (hsafe : ∀ c ∈ base.path, isPathSafe c = true) (hsettled : hasStep base.path = false) :
    Rooted base := by
  obtain ⟨front, hfront⟩ := hends
  have htarget : base.target = base.path := by
    rw [target_eq hquery, hfront]
    simp
  rw [← htarget] at hfront hsafe hsettled
  exact ⟨⟨front, hfront⟩, hsafe, hsettled⟩

theorem query_eq_none_of_not_mem (h : '?' ∉ address.target) : address.query = none := by
  cases hquery : address.query with
  | none => rfl
  | some part =>
      rw [target, hquery, marked] at h
      exact absurd (List.mem_append_right _ List.mem_cons_self) h

/-- A base address made of a text is rooted, if it has a scheme and no query. -/
theorem ofBase_rooted (h : ofBase s = .ok base) (hscheme : base.scheme ≠ [])
    (hquery : base.query = none) : Rooted base := by
  obtain ⟨address, hread, hbase⟩ := bind_eq_ok.1 h
  obtain ⟨-, -, hmade⟩ := read_eq_ok.1 hread
  split at hbase
  · rename_i hslash
    obtain rfl := Except.ok.inj hbase
    obtain ⟨hsafe, hsettled⟩ := hmade.target_settled hscheme hquery
    exact ⟨List.getLast?_eq_some_iff.1 (beq_iff_eq.1 hslash), hsafe, hsettled⟩
  · -- a slash is put behind the path, which has no query behind it then
    obtain ⟨path, query, -, hpath, hspec⟩ := splitAtFirst_spec '?' (address.target ++ ['/'])
    rw [hspec, withTarget_eq_ok hpath] at hbase
    obtain ⟨-, hbase⟩ := hbase
    obtain rfl : query = none := by
      have hcoded := hbase.query
      rw [hquery] at hcoded
      exact encodeAny_eq_none.1 hcoded
    rw [marked, List.append_nil] at hspec
    subst hspec
    have hnoquery : address.query = none :=
      query_eq_none_of_not_mem fun hmark => hpath (List.mem_append_left _ hmark)
    obtain ⟨hsafe, hsettled⟩ :=
      hmade.target_settled (mt hbase.scheme_eq_nil.2 hscheme) hnoquery
    obtain ⟨hwhole, hnostep⟩ := settled_slash hsafe hsettled
    have hsame : base.path = address.target ++ ['/'] := by
      have hcoded := (encode_eq_ok.1 (hbase.encode_resolve hscheme)).2
      rwa [aimed, resolve_of_not_hasStep hnostep, percentEncode_of_safe hwhole] at hcoded
    exact rooted_of_path hquery ⟨_, hsame⟩ (hsame ▸ hwhole) (hsame ▸ hnostep)

/-! ## 4. Addresses under a base address -/

theorem splitScheme_slash (s : List Char) : Parts.splitScheme ('/' :: s) = (none, '/' :: s) := by
  have hnot (rest : List Char) : Parts.isScheme ('/' :: rest) = false := by
    have hletter : Char.isAlpha '/' = false := by decide
    rw [Parts.isScheme, hletter, Bool.false_and]
  unfold Parts.splitScheme
  rw [splitAtFirst_cons (by decide)]
  cases (splitAtFirst ':' s).2 with
  | none => rfl
  | some rest => simp only [hnot, Bool.false_eq_true, if_false]

variable {c : Char} {w : List Char}

theorem splitAuthority_slash (h : c ≠ '/') (w : List Char) :
    Parts.splitAuthority ('/' :: c :: w) = (none, '/' :: c :: w) := by
  unfold Parts.splitAuthority
  split
  · rename_i rest hrest
    exact absurd (List.cons.inj (List.cons.inj hrest).2).1 h
  · rfl

/-- A text that begins with one slash has a path, and a query and a fragment where their marks are. -/
theorem ofChars_relative (hslash : c ≠ '/') (hquery : c ≠ '?') (hfragment : c ≠ '#')
    (w : List Char) : ∃ u query fragment,
      Parts.ofChars ('/' :: c :: w) = ⟨none, none, '/' :: c :: u, query, fragment⟩ ∧
      '?' ∉ u ∧ '#' ∉ u ∧ w = u ++ marked '?' query ++ marked '#' fragment := by
  obtain ⟨front, fragment, hfront, hnumber, rfl⟩ := splitAtFirst_spec '#' w
  obtain ⟨u, query, hu, hquestion, rfl⟩ := splitAtFirst_spec '?' front
  refine ⟨u, query, fragment, ?_, hquestion, fun hmem => hnumber (List.mem_append_left _ hmem), rfl⟩
  unfold Parts.ofChars
  simp only [splitScheme_slash, splitAuthority_slash hslash, splitAtFirst_cons hfragment,
    splitAtFirst_cons hquery, splitAtFirst_cons (show '/' ≠ '#' by decide),
    splitAtFirst_cons (show '/' ≠ '?' by decide), hfront, hu]

theorem madeOf_relative (hslash : c ≠ '/') {u : List Char} {query fragment : Option (List Char)} :
    MadeOf ⟨none, none, '/' :: c :: u, query, fragment⟩ address ↔
      (address.scheme = [] ∧ address.user = [] ∧ address.host = [] ∧ address.port = none) ∧
      encode isPathSafe ('/' :: c :: u) = .ok address.path ∧
      encodeAny isQuerySafe query = .ok address.query ∧
      encodeAny isFragmentSafe fragment = .ok address.fragment := by
  have huser : encode isUserSafe (AuthorityParts.ofChars []).user = .ok [] := rfl
  have hhost : Host.encode (AuthorityParts.ofChars []).host = .ok [] := rfl
  have hport : readPort [] (AuthorityParts.ofChars []).port = .ok none := rfl
  have hbegins : checkPath false false ('/' :: c :: u) = .ok () := by
    unfold checkPath
    have htwo : (('/' :: c :: u).take 2 == ['/', '/']) = false := by
      rw [List.take_succ_cons, List.take_succ_cons, List.take_zero]
      exact beq_false_of_ne fun h => hslash (List.cons.inj (List.cons.inj h).2).1
    rw [htwo]
    rfl
  constructor
  · rintro ⟨hscheme, huser', hhost', hport', -, hpath, hquery, hfragment⟩
    have hnouser : address.user = [] := (Except.ok.inj (huser.symm.trans huser')).symm
    have hnohost : address.host = [] := (Except.ok.inj (hhost.symm.trans hhost')).symm
    have hnoport : address.port = none := (Except.ok.inj (hport.symm.trans hport')).symm
    have hnoscheme : address.scheme = [] := hscheme
    rw [hnoscheme, hnouser, hnohost, hnoport] at hpath
    exact ⟨⟨hscheme, hnouser, hnohost, hnoport⟩, hpath, hquery, hfragment⟩
  · obtain ⟨scheme, user, host, port, path, query', fragment'⟩ := address
    rintro ⟨⟨rfl, rfl, rfl, rfl⟩, hpath, hquery, hfragment⟩
    exact ⟨rfl, huser, hhost, hport, hbegins, hpath, hquery, hfragment⟩

theorem mark_not_mem (h : ∀ d ∈ path, isPathSafe d = true) : '?' ∉ path := fun hmark =>
  absurd (h '?' hmark) (by decide)

/-- The path and the query of a relative address, behind its slash. -/
theorem dropWhile_target {u : List Char} (hslash : c ≠ '/') (hsafe : isPathSafe c = true)
    (h : encode isPathSafe ('/' :: c :: u) = .ok address.path) :
    address.target.dropWhile (· == '/') =
      c :: percentEncode isPathSafe u ++ marked '?' address.query := by
  have hpath : address.path = '/' :: c :: percentEncode isPathSafe u := by
    rw [(encode_eq_ok.1 h).2, percentEncode_cons, percentEncode_cons, if_pos (by decide),
      if_pos hsafe]
    rfl
  rw [target, hpath, List.isEmpty_cons, if_neg Bool.false_ne_true, List.cons_append,
    List.dropWhile_cons_of_pos (by decide), List.cons_append,
    List.dropWhile_cons_of_neg (by simpa using hslash)]

theorem Rooted.safe_append (h : Rooted base) (hsafe : isPathSafe c = true) (u : List Char) :
    ∀ d ∈ base.target ++ c :: percentEncode isPathSafe u, isPathSafe d = true := by
  intro d hd
  rcases List.mem_append.1 hd with hd | hd
  · exact h.safe d hd
  · rcases List.mem_cons.1 hd with rfl | hd
    · exact hsafe
    · exact isPathSafe_percentEncode u d hd

/-- A relative address is put behind the base, without its fragment. -/
theorem withTarget_relative (hslash : c ≠ '/') (hsafe : isPathSafe c = true) (hbase : Rooted base)
    {u : List Char} {query fragment : Option (List Char)} {relative : Address}
    (hmade : MadeOf ⟨none, none, '/' :: c :: u, query, fragment⟩ relative) :
    (if !relative.scheme.isEmpty && !relative.host.isEmpty then pure relative
      else base.withTarget (base.target ++ relative.target.dropWhile (· == '/'))) =
        .ok address ↔
      Short (base.aimed (base.target ++ c :: percentEncode isPathSafe u) relative.query) ∧
      MadeOf (base.aimed (base.target ++ c :: percentEncode isPathSafe u) relative.query)
        address := by
  obtain ⟨⟨hscheme, -⟩, hpath, -⟩ := (madeOf_relative hslash).1 hmade
  rw [hscheme, dropWhile_target hslash hsafe hpath, ← List.append_assoc]
  exact withTarget_eq_ok (mark_not_mem (hbase.safe_append hsafe u))

/-- A text that begins with one slash is put behind the base, in percent coding and without its
fragment. -/
theorem locate_relative (hslash : c ≠ '/') (hsafe : isPathSafe c = true) (hbase : Rooted base)
    {w u : List Char} {query fragment : Option (List Char)}
    (hparts : Parts.ofChars ('/' :: c :: w) = ⟨none, none, '/' :: c :: u, query, fragment⟩) :
    base.locate ('/' :: c :: w) = .ok address ↔
      ('/' :: c :: w).length ≤ lengthLimit ∧
      (∀ d ∈ '/' :: c :: w, 0x20 ≤ d.toNat ∧ d.toNat ≠ 0x7F) ∧
      (∀ d ∈ u, isHalf d = false) ∧
      ∃ coded codedFragment, encodeAny isQuerySafe query = .ok coded ∧
        encodeAny isFragmentSafe fragment = .ok codedFragment ∧
        Short (base.aimed (base.target ++ c :: percentEncode isPathSafe u) coded) ∧
        MadeOf (base.aimed (base.target ++ c :: percentEncode isPathSafe u) coded) address := by
  have hwhole : (∀ d ∈ '/' :: c :: u, isHalf d = false) ↔ ∀ d ∈ u, isHalf d = false := by
    rw [List.forall_mem_cons, List.forall_mem_cons, and_iff_right (by decide),
      and_iff_right (isHalf_of_isPathSafe hsafe)]
  unfold locate
  rw [bind_eq_ok]
  constructor
  · rintro ⟨relative, hread, hrest⟩
    obtain ⟨hlength, hcontrol, hmade⟩ := read_eq_ok.1 hread
    rw [hparts] at hmade
    obtain ⟨-, hpath, hquery, hfragment⟩ := (madeOf_relative hslash).1 hmade
    exact ⟨hlength, hcontrol, hwhole.1 (encode_eq_ok.1 hpath).1, _, _, hquery, hfragment,
      (withTarget_relative hslash hsafe hbase hmade).1 hrest⟩
  · rintro ⟨hlength, hcontrol, hhalves, coded, codedFragment, hquery, hfragment, hfound⟩
    have hmade : MadeOf ⟨none, none, '/' :: c :: u, query, fragment⟩
        ⟨[], [], [], none, percentEncode isPathSafe ('/' :: c :: u), coded, codedFragment⟩ :=
      (madeOf_relative hslash).2 ⟨⟨rfl, rfl, rfl, rfl⟩,
        encode_eq_ok.2 ⟨hwhole.2 hhalves, rfl⟩, hquery, hfragment⟩
    refine ⟨_, read_eq_ok.2 ⟨hlength, hcontrol, ?_⟩,
      (withTarget_relative hslash hsafe hbase hmade).2 hfound⟩
    rw [hparts]
    exact hmade

theorem ofChars_plain (hslash : c ≠ '/') (hc : isPathSafe c = true) {w : List Char}
    (hquery : '?' ∉ w) (hfragment : '#' ∉ w) :
    Parts.ofChars ('/' :: c :: w) = ⟨none, none, '/' :: c :: w, none, none⟩ := by
  have hne (mark : Char) (hmark : isPathSafe mark = false) : c ≠ mark := by
    rintro rfl
    rw [hc] at hmark
    cases hmark
  obtain ⟨u, query, fragment, hparts, -, -, rfl⟩ :=
    ofChars_relative hslash (hne '?' (by decide)) (hne '#' (by decide)) w
  have hnone {mark : Char} {part : Option (List Char)} {front behind : List Char}
      (h : mark ∉ front ++ marked mark part ++ behind) : part = none := by
    cases part with
    | none => rfl
    | some part => exact absurd (by simp [marked]) h
  obtain rfl := hnone hquery
  obtain rfl := @hnone '#' fragment (u ++ marked '?' none) [] (by rwa [List.append_nil])
  rw [hparts]
  simp [marked]

/-- Behind a scheme a path can stand if another one can that begins as it does. -/
theorem checkPath_of_head {hasAuthority : Bool} {path' : List Char} (hpath : path ≠ [])
    (hpath' : path' ≠ []) (hhead : path'.head? = path.head?)
    (h : checkPath true hasAuthority path = .ok ()) : checkPath true hasAuthority path' = .ok () := by
  have hnonempty : path.isEmpty = path'.isEmpty := by
    rw [List.isEmpty_eq_false_iff.2 hpath, List.isEmpty_eq_false_iff.2 hpath']
  unfold checkPath at h ⊢
  rw [hhead, ← hnonempty]
  split
  · rename_i hrefused
    rw [if_pos hrefused] at h
    cases h
  · rfl

/-- An address under a base with another path, when it is a path that can stand there as it is. -/
theorem madeOf_of_path {path' : List Char} {query : Option (List Char)}
    (hscheme : base.scheme ≠ []) (hfragment : base.fragment = none) (hpath : path ≠ [])
    (hpath' : path' ≠ []) (hhead : path'.head? = path.head?)
    (hsafe : ∀ c ∈ path', isPathSafe c = true) (hsettled : hasStep path' = false)
    (hmade : MadeOf (base.aimed path query) address) :
    MadeOf (base.aimed path' none)
      { address with path := path', query := none, fragment := none } := by
  have hbehind : (!address.scheme.isEmpty) = true := by
    rw [List.isEmpty_eq_false_iff.2 (mt hmade.scheme_eq_nil.1 hscheme), Bool.not_false]
  have hencode : encode isPathSafe (resolve path') = .ok path' := by
    rw [resolve_of_not_hasStep hsettled]
    exact encode_eq_ok.2
      ⟨fun c hc => isHalf_of_isPathSafe (hsafe c hc), (percentEncode_of_safe hsafe).symm⟩
  have hbegins := hmade.begins
  rw [hbehind] at hbegins
  refine ⟨hmade.scheme, hmade.user, hmade.host, hmade.port, ?_, ?_, rfl, ?_⟩
  · show checkPath (!address.scheme.isEmpty) _ path' = .ok ()
    rw [hbehind]
    exact checkPath_of_head hpath hpath' hhead hbegins
  · show encode isPathSafe (if !address.scheme.isEmpty || _ then resolve path' else path') = _
    rw [hbehind, Bool.true_or, if_pos rfl]
    exact hencode
  · show encodeAny isFragmentSafe base.fragment = .ok none
    rw [hfragment]
    rfl

end Address

end DetectorSearch.Http
