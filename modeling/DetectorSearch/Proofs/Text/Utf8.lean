import DetectorSearch.Text.Encoding

/-!
# Bytes read as a text

Bytes that may be broken are read one character after another: a character that is
complete stands for itself, and a part that is broken for a replacement. Whatever
is read, the bytes behind the first one of it are following bytes. So a byte of
ASCII always begins anew, and a byte in front adds one character at most.

Results:
1. `loose_cons`: the first character and the bytes that it takes.
2. `loose_append`: bytes that begin anew; `length_loose_cons`: one byte more.
3. `loose_utf8Bytes`: a character is read back from its bytes.
-/

namespace DetectorSearch.Text

namespace Utf8

variable {byte : Nat} {bytes rest after : List Nat}

/-! ## 1. The first character -/

/-- The text that bytes stand for; bytes that are no UTF-8 are replaced. -/
def loose (bytes : List Nat) : List Char :=
  decodeLoosely bytes.length bytes

/-- The character that a start stands for, and the bytes behind it. -/
def Start.taken (bytes : List Nat) : Start → Char × List Nat
  | .character code size => (charOfCode code, bytes.drop size)
  | .badStart => ('\uFFFD', bytes.drop 1)
  | .broken size => ('\uFFFD', bytes.drop size)
  | .unfinished => ('\uFFFD', [])

/-- Whether what follows begins anew: it is nothing, or begins with a byte of ASCII. -/
def BeginsAnew (after : List Nat) : Prop :=
  ∀ byte ∈ after.head?, byte < 0x80

theorem isTail_of_lt (h : byte < 0x80) : isTail byte = false := by
  simp only [isTail, Bool.and_eq_false_iff, decide_eq_false_iff_not]
  omega

/-- The remaining bytes of a character, when some of it are taken already: those that are taken
further are following bytes, and what begins anew behind the rest changes nothing. -/
theorem taken_tails (count code : Nat) (earlier rest : List Nat) :
    ∃ c front back, rest = front ++ back ∧ (∀ tail ∈ front, isTail tail = true) ∧
      ∀ after, BeginsAnew after →
        (tails count code earlier.length (rest ++ after)).taken (earlier ++ (rest ++ after)) =
          (c, back ++ after) := by
  induction count generalizing code earlier rest with
  | zero =>
      refine ⟨charOfCode code, [], rest, rfl, nofun, fun after _ => ?_⟩
      rw [tails, Start.taken, List.drop_left]
  | succ count ih =>
      cases rest with
      | nil =>
          refine ⟨'\uFFFD', [], [], rfl, nofun, fun after hafter => ?_⟩
          cases after with
          | nil => rfl
          | cons byte after =>
              have hnot : isTail byte = false := isTail_of_lt (hafter byte rfl)
              rw [List.nil_append, tails, hnot, if_neg Bool.false_ne_true, Start.taken,
                List.drop_left]
      | cons byte rest =>
          cases htail : isTail byte with
          | true =>
              obtain ⟨c, front, back, rfl, hfront, htaken⟩ :=
                ih (code * 64 + byte % 64) (earlier ++ [byte]) rest
              refine ⟨c, byte :: front, back, rfl, List.forall_mem_cons.2 ⟨htail, hfront⟩,
                fun after hafter => ?_⟩
              have hrest := htaken after hafter
              rw [List.length_append, List.append_assoc earlier] at hrest
              rw [List.cons_append, tails, htail, if_pos rfl]
              exact hrest
          | false =>
              refine ⟨'\uFFFD', [], byte :: rest, rfl, nofun, fun after _ => ?_⟩
              rw [List.cons_append, tails, htail, if_neg Bool.false_ne_true, Start.taken,
                List.drop_left]

theorem taken_start (byte : Nat) (rest : List Nat) :
    ∃ c front back, rest = front ++ back ∧ (∀ tail ∈ front, isTail tail = true) ∧
      ∀ after, BeginsAnew after →
        (start (byte :: (rest ++ after))).taken (byte :: (rest ++ after)) = (c, back ++ after) := by
  cases hcount : tailCount? byte with
  | none =>
      refine ⟨'\uFFFD', [], rest, rfl, nofun, fun after _ => ?_⟩
      simp only [start, hcount]
      rfl
  | some count =>
      cases count with
      | zero =>
          refine ⟨charOfCode byte, [], rest, rfl, nofun, fun after _ => ?_⟩
          simp only [start, hcount]
          rfl
      | succ count =>
          cases rest with
          | nil =>
              refine ⟨'\uFFFD', [], [], rfl, nofun, fun after hafter => ?_⟩
              cases after with
              | nil => simp only [start, hcount, List.nil_append, Start.taken]
              | cons second after =>
                  have hnot : secondFits byte second = false := by
                    rw [secondFits, isTail_of_lt (hafter second rfl), Bool.false_and]
                  simp only [start, hcount, List.nil_append, hnot, Bool.false_eq_true, if_false]
                  rfl
          | cons second rest =>
              cases hfits : secondFits byte second with
              | true =>
                  have htail : isTail second = true := (Bool.and_eq_true_iff.1 hfits).1
                  obtain ⟨c, front, back, rfl, hfront, htaken⟩ := taken_tails count
                    (headBits byte (count + 1) * 64 + second % 64) [byte, second] rest
                  refine ⟨c, second :: front, back, rfl, List.forall_mem_cons.2 ⟨htail, hfront⟩,
                    fun after hafter => ?_⟩
                  simp only [start, hcount, List.cons_append, hfits, if_true]
                  exact htaken after hafter
              | false =>
                  refine ⟨'\uFFFD', [], second :: rest, rfl, nofun, fun after _ => ?_⟩
                  simp only [start, hcount, List.cons_append, hfits, Bool.false_eq_true, if_false]
                  rfl

theorem decodeLoosely_cons (fuel byte : Nat) (rest : List Nat) :
    decodeLoosely (fuel + 1) (byte :: rest) =
      ((start (byte :: rest)).taken (byte :: rest)).1 ::
        decodeLoosely fuel ((start (byte :: rest)).taken (byte :: rest)).2 := by
  rw [decodeLoosely]
  · cases start (byte :: rest) with
    | character code size => rfl
    | badStart => rfl
    | broken size => rfl
    | unfinished => cases fuel <;> rfl
  · exact nofun

/-- Steps that are left over change nothing. -/
theorem decodeLoosely_of_length_le {fuel : Nat} (h : bytes.length ≤ fuel) :
    decodeLoosely fuel bytes = loose bytes := by
  have hsame (fuel fuel' : Nat) (bytes : List Nat) (h : bytes.length ≤ fuel)
      (h' : bytes.length ≤ fuel') : decodeLoosely fuel bytes = decodeLoosely fuel' bytes := by
    induction fuel generalizing fuel' bytes with
    | zero =>
        obtain rfl := List.length_eq_zero_iff.1 (Nat.le_zero.1 h)
        cases fuel' <;> rfl
    | succ fuel ih =>
        cases bytes with
        | nil => cases fuel' <;> rfl
        | cons byte rest =>
            obtain ⟨fuel', rfl⟩ := Nat.exists_eq_add_of_le' (Nat.le_trans (Nat.le_add_left 1 _) h')
            obtain ⟨c, front, back, hrest, -, htaken⟩ := taken_start byte rest
            have hstart := htaken [] nofun
            have hback : back.length ≤ rest.length := by
              rw [hrest, List.length_append]
              exact Nat.le_add_left _ _
            rw [List.append_nil, List.append_nil] at hstart
            rw [decodeLoosely_cons, decodeLoosely_cons, hstart]
            exact congrArg (c :: ·) (ih fuel' back
              (Nat.le_trans hback (Nat.le_of_succ_le_succ h))
              (Nat.le_trans hback (Nat.le_of_succ_le_succ h')))
  exact hsame fuel bytes.length bytes h (Nat.le_refl _)

theorem loose_of_taken {c : Char} {left : List Nat} (hleft : left.length ≤ rest.length)
    (h : (start (byte :: rest)).taken (byte :: rest) = (c, left)) :
    loose (byte :: rest) = c :: loose left := by
  rw [loose, List.length_cons, decodeLoosely_cons, h, decodeLoosely_of_length_le hleft]

/-- The first character takes a byte and following bytes behind it, whatever begins anew behind the
rest. -/
theorem loose_cons (byte : Nat) (rest : List Nat) :
    ∃ c front back, rest = front ++ back ∧ (∀ tail ∈ front, isTail tail = true) ∧
      ∀ after, BeginsAnew after → loose (byte :: (rest ++ after)) = c :: loose (back ++ after) := by
  obtain ⟨c, front, back, rfl, hfront, htaken⟩ := taken_start byte rest
  refine ⟨c, front, back, rfl, hfront, fun after hafter => ?_⟩
  refine loose_of_taken ?_ (htaken after hafter)
  simp only [List.length_append]
  omega

/-! ## 2. Bytes in front of others -/

/-- Bytes that begin anew are read by themselves. -/
theorem loose_append (bytes : List Nat) (hafter : BeginsAnew after) :
    loose (bytes ++ after) = loose bytes ++ loose after := by
  -- by induction on the count of bytes: the first character takes some of them
  generalize hcount : bytes.length = count
  induction count using Nat.strongRecOn generalizing bytes with
  | ind count ih =>
      cases bytes with
      | nil => rfl
      | cons byte rest =>
          obtain ⟨c, front, back, hrest, -, hloose⟩ := loose_cons byte rest
          have hback : back.length < count := by
            rw [← hcount, hrest, List.length_cons, List.length_append]
            omega
          have hwhole := hloose [] nofun
          rw [List.append_nil, List.append_nil] at hwhole
          rw [List.cons_append, hloose after hafter, hwhole, ih back.length hback back rfl,
            List.cons_append]

/-- A following byte that follows nothing is replaced. -/
theorem loose_tail (h : isTail byte = true) (rest : List Nat) :
    loose (byte :: rest) = '\uFFFD' :: loose rest := by
  have hnone : tailCount? byte = none := by
    simp only [isTail, Bool.and_eq_true, decide_eq_true_eq] at h
    unfold tailCount?
    rw [if_neg, if_neg, if_neg, if_neg] <;> omega
  refine loose_of_taken (Nat.le_refl _) ?_
  simp only [start, hnone]
  rfl

theorem length_loose_tails {front : List Nat} (h : ∀ tail ∈ front, isTail tail = true)
    (back : List Nat) : (loose (front ++ back)).length = front.length + (loose back).length := by
  induction front with
  | nil => rw [List.nil_append, List.length_nil, Nat.zero_add]
  | cons tail front ih =>
      obtain ⟨htail, hfront⟩ := List.forall_mem_cons.1 h
      rw [List.cons_append, loose_tail htail, List.length_cons, List.length_cons, ih hfront]
      omega

/-- A byte in front adds one character at most. -/
theorem length_loose_cons (byte : Nat) (rest : List Nat) :
    (loose (byte :: rest)).length ≤ (loose rest).length + 1 := by
  obtain ⟨c, front, back, rfl, hfront, hloose⟩ := loose_cons byte rest
  have hwhole := hloose [] nofun
  rw [List.append_nil, List.append_nil] at hwhole
  rw [hwhole, List.length_cons, length_loose_tails hfront]
  exact Nat.succ_le_succ (Nat.le_add_left _ _)

/-! ## 3. Characters and their bytes -/

theorem charOfCode_toNat (c : Char) : charOfCode c.toNat = c := by
  have hvalid : c.toNat < 0xD800 ∨ 0xDFFF < c.toNat ∧ c.toNat < 0x110000 := c.valid
  have hwhole : isHalfCode c.toNat = false := by
    simp only [isHalfCode, Bool.and_eq_false_iff, decide_eq_false_iff_not]
    omega
  rw [charOfCode, hwhole, if_neg Bool.false_ne_true, Char.ofNat_toNat]

theorem start_one {code : Nat} (h : code ≤ 0x7F) (rest : List Nat) :
    start (code :: rest) = .character code 1 := by
  have hcount : tailCount? code = some 0 := if_pos (Nat.lt_succ_of_le h)
  simp only [start, hcount]

/-- The first byte and the second one tell what follows. -/
theorem start_more {byte second count : Nat} (hcount : tailCount? byte = some (count + 1))
    (hfits : secondFits byte second = true) (rest : List Nat) :
    start (byte :: second :: rest) =
      tails count (headBits byte (count + 1) * 64 + second % 64) 2 rest := by
  simp only [start, hcount, hfits, if_true]

theorem tails_of_isTail {tail : Nat} (h : isTail tail = true) (count code size : Nat)
    (rest : List Nat) :
    tails (count + 1) code size (tail :: rest) =
      tails count (code * 64 + tail % 64) (size + 1) rest := by
  rw [tails, h, if_pos rfl]

theorem isTail_last (code : Nat) : isTail (code % 64 + 128) = true := by
  simp only [isTail, Bool.and_eq_true, decide_eq_true_eq]
  omega

theorem start_two {code : Nat} (h : 0x7F < code) (h' : code ≤ 0x7FF) (rest : List Nat) :
    start ((code / 64 % 32 + 192) :: (code % 64 + 128) :: rest) = .character code 2 := by
  have hcount : tailCount? (code / 64 % 32 + 192) = some 1 := by
    unfold tailCount?
    rw [if_neg (by omega), if_pos (by omega)]
  have hfits : secondFits (code / 64 % 32 + 192) (code % 64 + 128) = true := by
    unfold secondFits
    rw [isTail_last, if_neg (by omega), if_neg (by omega), if_neg (by omega), if_neg (by omega)]
    rfl
  have hcode : headBits (code / 64 % 32 + 192) 1 * 64 + (code % 64 + 128) % 64 = code := by
    show (code / 64 % 32 + 192) % 0x20 * 64 + (code % 64 + 128) % 64 = code
    omega
  rw [start_more hcount hfits, hcode, tails]

theorem start_three {code : Nat} (h : 0x7FF < code) (h' : code ≤ 0xFFFF)
    (hwhole : code < 0xD800 ∨ 0xDFFF < code) (rest : List Nat) :
    start ((code / 4096 % 16 + 224) :: (code / 64 % 64 + 128) :: (code % 64 + 128) :: rest) =
      .character code 3 := by
  have hcount : tailCount? (code / 4096 % 16 + 224) = some 2 := by
    unfold tailCount?
    rw [if_neg (by omega), if_neg (by omega), if_pos (by omega)]
  have hfits : secondFits (code / 4096 % 16 + 224) (code / 64 % 64 + 128) = true := by
    unfold secondFits
    rw [isTail_last, Bool.true_and]
    -- the shortest form is used, and no half of a pair has one
    split
    · exact decide_eq_true (by omega)
    · split
      · exact decide_eq_true (by omega)
      · rw [if_neg (by omega), if_neg (by omega)]
  have hcode : (headBits (code / 4096 % 16 + 224) 2 * 64 + (code / 64 % 64 + 128) % 64) * 64 +
      (code % 64 + 128) % 64 = code := by
    show ((code / 4096 % 16 + 224) % 0x10 * 64 + (code / 64 % 64 + 128) % 64) * 64 +
      (code % 64 + 128) % 64 = code
    omega
  rw [start_more hcount hfits, tails_of_isTail (isTail_last code), hcode, tails]

theorem start_four {code : Nat} (h : 0xFFFF < code) (h' : code < 0x110000) (rest : List Nat) :
    start ((code / 262144 % 8 + 240) :: (code / 4096 % 64 + 128) :: (code / 64 % 64 + 128) ::
      (code % 64 + 128) :: rest) = .character code 4 := by
  have hcount : tailCount? (code / 262144 % 8 + 240) = some 3 := by
    unfold tailCount?
    rw [if_neg (by omega), if_neg (by omega), if_neg (by omega), if_pos (by omega)]
  have hfits : secondFits (code / 262144 % 8 + 240) (code / 4096 % 64 + 128) = true := by
    unfold secondFits
    rw [isTail_last, Bool.true_and, if_neg (by omega), if_neg (by omega)]
    split
    · exact decide_eq_true (by omega)
    · split
      · exact decide_eq_true (by omega)
      · rfl
  have hcode : ((headBits (code / 262144 % 8 + 240) 3 * 64 + (code / 4096 % 64 + 128) % 64) * 64 +
      (code / 64 % 64 + 128) % 64) * 64 + (code % 64 + 128) % 64 = code := by
    show (((code / 262144 % 8 + 240) % 0x08 * 64 + (code / 4096 % 64 + 128) % 64) * 64 +
      (code / 64 % 64 + 128) % 64) * 64 + (code % 64 + 128) % 64 = code
    omega
  rw [start_more hcount hfits, tails_of_isTail (isTail_last _), tails_of_isTail (isTail_last _),
    hcode, tails]

/-- The bytes of a character begin with it and are used up by it. -/
theorem start_utf8Bytes (c : Char) (rest : List Nat) :
    start (utf8Bytes c ++ rest) = .character c.toNat (utf8Bytes c).length := by
  have hvalid : c.toNat < 0xD800 ∨ 0xDFFF < c.toNat ∧ c.toNat < 0x110000 := c.valid
  have hbyte (n : Nat) (h : n < 256) : (UInt8.ofNat n).toNat = n := by
    rw [UInt8.toNat_ofNat']
    exact Nat.mod_eq_of_lt h
  unfold utf8Bytes String.utf8EncodeChar
  have hval : c.val.toNat = c.toNat := rfl
  simp only [hval]
  -- one case for each count of bytes
  split
  · simp only [List.map_cons, List.map_nil, List.cons_append, List.nil_append, List.length_cons,
      List.length_nil]
    rw [hbyte _ (by omega)]
    exact start_one (by assumption) rest
  · split
    · simp only [List.map_cons, List.map_nil, List.cons_append, List.nil_append, List.length_cons,
        List.length_nil]
      rw [hbyte _ (by omega), hbyte _ (by omega)]
      exact start_two (by omega) (by assumption) rest
    · split
      · simp only [List.map_cons, List.map_nil, List.cons_append, List.nil_append,
          List.length_cons, List.length_nil]
        rw [hbyte _ (by omega), hbyte _ (by omega), hbyte _ (by omega)]
        exact start_three (by omega) (by assumption) (by omega) rest
      · simp only [List.map_cons, List.map_nil, List.cons_append, List.nil_append,
          List.length_cons, List.length_nil]
        rw [hbyte _ (by omega), hbyte _ (by omega), hbyte _ (by omega), hbyte _ (by omega)]
        exact start_four (by omega) (by omega) rest

theorem utf8Bytes_ne_nil (c : Char) : utf8Bytes c ≠ [] := by
  intro hnil
  have hstart := start_utf8Bytes c []
  rw [hnil] at hstart
  cases hstart

/-- A character is read back from its bytes. -/
theorem loose_utf8Bytes (c : Char) (rest : List Nat) :
    loose (utf8Bytes c ++ rest) = c :: loose rest := by
  have hstart := start_utf8Bytes c rest
  obtain ⟨byte, more, hbytes⟩ := List.exists_cons_of_ne_nil (utf8Bytes_ne_nil c)
  rw [hbytes] at hstart
  have htaken : (start (byte :: (more ++ rest))).taken (byte :: (more ++ rest)) = (c, rest) := by
    rw [← List.cons_append, hstart, Start.taken, charOfCode_toNat, List.drop_left]
  rw [hbytes, List.cons_append]
  refine loose_of_taken ?_ htaken
  rw [List.length_append]
  exact Nat.le_add_left _ _

end Utf8

end DetectorSearch.Text
