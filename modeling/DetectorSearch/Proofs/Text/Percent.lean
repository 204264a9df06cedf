import DetectorSearch.Proofs.Text.Utf8

/-!
# Texts in percent coding

Coding leaves the percent sign as it is, so a coded text stands for what the text
itself would stand for. That is the text, unless it looks like a coded byte
somewhere: then it stands for fewer characters.

Results:
1. `coded_induction`: a text as coded bytes and single characters.
2. `percentBytes_percentEncode`: coding does not change what a text stands for.
3. `percentDecode_of_unescaped`, `length_percentDecode`: texts that stand for
   themselves, and those that do not; `hasEscape_part`: a part of a text.
4. `percentDecode_slash`: what stands in front of a slash and behind it.
-/

namespace DetectorSearch.Text

variable {a b c : Char} {high low : Nat} {rest s : List Char} {isSafe : Char → Bool}

/-! ## 1. Coded bytes -/

/-- Whether a character is a hexadecimal digit. -/
def isHexDigit (c : Char) : Bool :=
  (hexDigit? c).isSome

/-- Whether a text begins with two hexadecimal digits. -/
def beginsWithByte : List Char → Bool
  | a :: b :: _ => isHexDigit a && isHexDigit b
  | _ => false

/-- Whether a text looks like a coded byte somewhere: two hexadecimal digits stand behind a percent
sign. -/
def hasEscape : List Char → Bool
  | [] => false
  | c :: rest => c == '%' && beginsWithByte rest || hasEscape rest

theorem beginsWithByte_cons (c : Char) (rest : List Char) :
    beginsWithByte (c :: rest) = (isHexDigit c && rest.head?.any isHexDigit) := by
  cases rest with
  | nil =>
      rw [List.head?_nil, Option.any_none, Bool.and_false, beginsWithByte]
      exact nofun
  | cons d rest => rfl

/-- A text is empty, begins with a coded byte, or with a character that begins none. -/
@[elab_as_elim]
theorem coded_induction {motive : List Char → Prop} (s : List Char) (nil : motive [])
    (byte : ∀ a b high low rest, hexDigit? a = some high → hexDigit? b = some low → motive rest →
      motive ('%' :: a :: b :: rest))
    (char : ∀ c rest, (c = '%' → beginsWithByte rest = false) → motive rest → motive (c :: rest)) :
    motive s := by
  generalize hcount : s.length = count
  induction count using Nat.strongRecOn generalizing s with
  | ind count ih =>
      cases s with
      | nil => exact nil
      | cons c rest =>
          have hfewer : rest.length < count := by
            rw [← hcount]
            exact Nat.lt_succ_self rest.length
          have hrest : motive rest := ih rest.length hfewer rest rfl
          by_cases hescape : c = '%' ∧ beginsWithByte rest = true
          · obtain ⟨rfl, hbyte⟩ := hescape
            unfold beginsWithByte at hbyte
            split at hbyte
            · rename_i a b rest
              obtain ⟨ha, hb⟩ := Bool.and_eq_true_iff.1 hbyte
              obtain ⟨high, hhigh⟩ := Option.isSome_iff_exists.1 ha
              obtain ⟨low, hlow⟩ := Option.isSome_iff_exists.1 hb
              refine byte a b high low rest hhigh hlow (ih rest.length ?_ rest rfl)
              rw [← hcount]
              simp only [List.length_cons]
              omega
            · exact absurd hbyte Bool.false_ne_true
          · refine char c rest (fun hmark => ?_) hrest
            exact Bool.eq_false_iff.2 fun hbyte => hescape ⟨hmark, hbyte⟩

/-- A coded byte stands for the byte. -/
theorem percentBytes_byte (ha : hexDigit? a = some high) (hb : hexDigit? b = some low)
    (rest : List Char) :
    percentBytes ('%' :: a :: b :: rest) = (high * 16 + low) :: percentBytes rest := by
  rw [percentBytes, ha, hb]

/-- A character that begins no coded byte stands for its own bytes. -/
theorem percentBytes_char (h : c = '%' → beginsWithByte rest = false) :
    percentBytes (c :: rest) = utf8Bytes c ++ percentBytes rest := by
  by_cases hmark : c = '%'
  · subst hmark
    have hbyte := h rfl
    match rest with
    | [] => rfl
    | [a] => rfl
    | a :: b :: rest =>
        rw [percentBytes]
        split
        · rename_i hhigh hlow
          rw [beginsWithByte, isHexDigit, isHexDigit, hhigh, hlow] at hbyte
          cases hbyte
        · rfl
  · rw [percentBytes]
    rintro a b rest rfl
    exact absurd rfl hmark

/-! ## 2. Coding -/

theorem percentEncode_cons (isSafe : Char → Bool) (c : Char) (rest : List Char) :
    percentEncode isSafe (c :: rest) =
      (if isSafe c then [c] else (utf8Bytes c).flatMap percentByte) ++ percentEncode isSafe rest :=
  List.flatMap_cons

theorem percentEncode_append (isSafe : Char → Bool) (s rest : List Char) :
    percentEncode isSafe (s ++ rest) = percentEncode isSafe s ++ percentEncode isSafe rest :=
  List.flatMap_append

theorem percentEncode_of_safe (h : ∀ c ∈ s, isSafe c = true) : percentEncode isSafe s = s := by
  induction s with
  | nil => rfl
  | cons c rest ih =>
      obtain ⟨hc, hrest⟩ := List.forall_mem_cons.1 h
      rw [percentEncode_cons, if_pos hc, ih hrest, List.singleton_append]

theorem length_le_percentEncode (isSafe : Char → Bool) (s : List Char) :
    s.length ≤ (percentEncode isSafe s).length := by
  induction s with
  | nil => exact Nat.le_refl 0
  | cons c rest ih =>
      rw [percentEncode_cons, List.length_append, List.length_cons]
      have hone : 1 ≤ (if isSafe c then [c] else (utf8Bytes c).flatMap percentByte).length := by
        split
        · exact Nat.le_refl 1
        · obtain ⟨byte, bytes, hbytes⟩ := List.exists_cons_of_ne_nil (Utf8.utf8Bytes_ne_nil c)
          rw [hbytes, List.flatMap_cons, List.length_append]
          exact Nat.le_add_right_of_le (Nat.le_add_left 1 2)
      omega

theorem hexDigit?_hexCapital : ∀ digit < 16, hexDigit? (hexCapital digit) = some digit := by
  decide

theorem percentBytes_percentByte {byte : Nat} (h : byte < 256) (rest : List Char) :
    percentBytes (percentByte byte ++ rest) = byte :: percentBytes rest := by
  have hbyte : byte / 16 * 16 + byte % 16 = byte := Nat.div_add_mod' byte 16
  unfold percentByte
  rw [List.cons_append, List.cons_append, List.cons_append, List.nil_append,
    percentBytes_byte (hexDigit?_hexCapital _ (by omega)) (hexDigit?_hexCapital _ (by omega)), hbyte]

theorem utf8Bytes_lt (c : Char) : ∀ byte ∈ utf8Bytes c, byte < 256 := by
  intro byte hbyte
  obtain ⟨octet, -, rfl⟩ := List.mem_map.1 hbyte
  exact octet.toNat_lt

theorem percentBytes_flatMap {bytes : List Nat} (h : ∀ byte ∈ bytes, byte < 256)
    (rest : List Char) :
    percentBytes (bytes.flatMap percentByte ++ rest) = bytes ++ percentBytes rest := by
  induction bytes with
  | nil => rfl
  | cons byte bytes ih =>
      obtain ⟨hbyte, hbytes⟩ := List.forall_mem_cons.1 h
      rw [List.flatMap_cons, List.append_assoc, percentBytes_percentByte hbyte, ih hbytes,
        List.cons_append]

/-- Whether coding leaves coded bytes as they are. -/
structure LeavesCodes (isSafe : Char → Bool) : Prop where
  mark : isSafe '%' = true
  digits : ∀ c, isHexDigit c = true → isSafe c = true

namespace LeavesCodes

variable (h : LeavesCodes isSafe)
include h

/-- A coded text begins with a digit where the text does. -/
theorem head?_percentEncode (s : List Char) :
    (percentEncode isSafe s).head?.any isHexDigit = s.head?.any isHexDigit := by
  cases s with
  | nil => rfl
  | cons c rest =>
      rw [percentEncode_cons]
      cases hsafe : isSafe c with
      | true => rfl
      | false =>
          obtain ⟨byte, bytes, hbytes⟩ := List.exists_cons_of_ne_nil (Utf8.utf8Bytes_ne_nil c)
          have hdigit : isHexDigit c = false :=
            Bool.eq_false_iff.2 fun hdigit => by rw [h.digits c hdigit] at hsafe; cases hsafe
          have hmark : isHexDigit '%' = false := by decide
          rw [if_neg Bool.false_ne_true, hbytes]
          show Option.any isHexDigit (some '%') = Option.any isHexDigit (some c)
          rw [Option.any_some, Option.any_some, hdigit, hmark]

theorem beginsWithByte_percentEncode (s : List Char) :
    beginsWithByte (percentEncode isSafe s) = beginsWithByte s := by
  cases s with
  | nil => rfl
  | cons c rest =>
      have hhead := h.head?_percentEncode (c :: rest)
      cases hdigit : isHexDigit c with
      | true =>
          rw [percentEncode_cons, if_pos (h.digits c hdigit), List.singleton_append,
            beginsWithByte_cons, beginsWithByte_cons, h.head?_percentEncode]
      | false =>
          rw [List.head?_cons, Option.any_some, hdigit] at hhead
          rw [beginsWithByte_cons, hdigit, Bool.false_and]
          cases hcoded : percentEncode isSafe (c :: rest) with
          | nil => rfl
          | cons d coded =>
              rw [hcoded, List.head?_cons, Option.any_some] at hhead
              rw [beginsWithByte_cons, hhead, Bool.false_and]

/-- A coded text stands for the same bytes as the text itself. -/
theorem percentBytes_percentEncode (s : List Char) :
    percentBytes (percentEncode isSafe s) = percentBytes s := by
  induction s using coded_induction with
  | nil => rfl
  | byte a b high low rest ha hb ih =>
      have hdigit (c : Char) (digit : Nat) (hc : hexDigit? c = some digit) : isSafe c = true :=
        h.digits c (by rw [isHexDigit, hc]; rfl)
      rw [percentEncode_cons, percentEncode_cons, percentEncode_cons, if_pos h.mark,
        if_pos (hdigit a high ha), if_pos (hdigit b low hb)]
      simp only [List.singleton_append]
      rw [percentBytes_byte ha hb, percentBytes_byte ha hb, ih]
  | char c rest hc ih =>
      rw [percentEncode_cons, percentBytes_char hc]
      cases hsafe : isSafe c with
      | true =>
          have hcoded : c = '%' → beginsWithByte (percentEncode isSafe rest) = false := by
            rw [h.beginsWithByte_percentEncode]
            exact hc
          rw [if_pos rfl, List.singleton_append, percentBytes_char hcoded, ih]
      | false =>
          rw [if_neg Bool.false_ne_true, percentBytes_flatMap (utf8Bytes_lt c), ih]

theorem percentDecode_percentEncode (s : List Char) :
    percentDecode (percentEncode isSafe s) = percentDecode s := by
  unfold percentDecode
  rw [h.percentBytes_percentEncode]

end LeavesCodes

/-! ## 3. Texts that stand for themselves -/

theorem percentDecode_char (h : c = '%' → beginsWithByte rest = false) :
    percentDecode (c :: rest) = c :: percentDecode rest := by
  show Utf8.loose (percentBytes (c :: rest)) = _
  rw [percentBytes_char h, Utf8.loose_utf8Bytes]
  rfl

theorem length_percentDecode_byte (ha : hexDigit? a = some high) (hb : hexDigit? b = some low)
    (rest : List Char) :
    (percentDecode ('%' :: a :: b :: rest)).length ≤ (percentDecode rest).length + 1 := by
  show (Utf8.loose (percentBytes ('%' :: a :: b :: rest))).length ≤ _
  rw [percentBytes_byte ha hb]
  exact Utf8.length_loose_cons _ _

theorem hasEscape_byte (ha : hexDigit? a = some high) (hb : hexDigit? b = some low)
    (rest : List Char) : hasEscape ('%' :: a :: b :: rest) = true := by
  rw [hasEscape, beginsWithByte, isHexDigit, isHexDigit, ha, hb]
  rfl

theorem hasEscape_char (h : c = '%' → beginsWithByte rest = false) :
    hasEscape (c :: rest) = hasEscape rest := by
  have hnone : (c == '%' && beginsWithByte rest) = false := by
    by_cases hmark : c = '%'
    · rw [h hmark, Bool.and_false]
    · rw [beq_false_of_ne hmark, Bool.false_and]
  rw [hasEscape, hnone, Bool.false_or]

theorem beginsWithByte_append (h : beginsWithByte s = true) (behind : List Char) :
    beginsWithByte (s ++ behind) = true := by
  unfold beginsWithByte at h
  split at h
  · exact h
  · cases h

/-- A text looks like a coded byte somewhere if a part of it does. -/
theorem hasEscape_part (front behind : List Char) (h : hasEscape s = true) :
    hasEscape (front ++ (s ++ behind)) = true := by
  induction front with
  | nil =>
      rw [List.nil_append]
      induction s with
      | nil => cases h
      | cons c rest ih =>
          rw [hasEscape, Bool.or_eq_true, Bool.and_eq_true] at h
          rw [List.cons_append, hasEscape, Bool.or_eq_true, Bool.and_eq_true]
          rcases h with ⟨hmark, hbyte⟩ | hrest
          · exact .inl ⟨hmark, beginsWithByte_append hbyte behind⟩
          · exact .inr (ih hrest)
  | cons c front ih => rw [List.cons_append, hasEscape, ih, Bool.or_true]

/-- A text that does not look like a coded byte anywhere stands for itself. -/
theorem percentDecode_of_unescaped (h : hasEscape s = false) : percentDecode s = s := by
  induction s using coded_induction with
  | nil => rfl
  | byte a b high low rest ha hb =>
      rw [hasEscape_byte ha hb] at h
      cases h
  | char c rest hc ih =>
      rw [hasEscape_char hc] at h
      rw [percentDecode_char hc, ih h]

/-- A text stands for no more characters than it has, and for fewer if it looks like a coded byte. -/
theorem length_percentDecode (s : List Char) :
    (percentDecode s).length ≤ s.length ∧
      (hasEscape s = true → (percentDecode s).length < s.length) := by
  induction s using coded_induction with
  | nil => exact ⟨Nat.le_refl 0, nofun⟩
  | byte a b high low rest ha hb ih =>
      have hbyte := length_percentDecode_byte ha hb rest
      have hfewer : (percentDecode ('%' :: a :: b :: rest)).length <
          ('%' :: a :: b :: rest).length := by
        simp only [List.length_cons]
        omega
      exact ⟨Nat.le_of_lt hfewer, fun _ => hfewer⟩
  | char c rest hc ih =>
      rw [percentDecode_char hc, hasEscape_char hc, List.length_cons, List.length_cons]
      exact ⟨Nat.succ_le_succ ih.1, fun h => Nat.succ_lt_succ (ih.2 h)⟩

/-! ## 4. Slashes -/

theorem beginsWithByte_slash (h : beginsWithByte rest = false) (s : List Char) :
    beginsWithByte (rest ++ '/' :: s) = false := by
  have hslash : isHexDigit '/' = false := by decide
  match rest with
  | [] => rw [List.nil_append, beginsWithByte_cons, hslash, Bool.false_and]
  | [a] => rw [List.singleton_append, beginsWithByte_cons, List.head?_cons, Option.any_some, hslash,
      Bool.and_false]
  | a :: b :: rest => exact h

theorem percentBytes_slash (front s : List Char) :
    percentBytes (front ++ '/' :: s) = percentBytes front ++ '/'.toNat :: percentBytes s := by
  induction front using coded_induction with
  | nil =>
      rw [List.nil_append, percentBytes_char fun hmark => absurd hmark (by decide)]
      rfl
  | byte a b high low rest ha hb ih =>
      simp only [List.cons_append]
      rw [percentBytes_byte ha hb, percentBytes_byte ha hb, ih, List.cons_append]
  | char c rest hc ih =>
      rw [List.cons_append, percentBytes_char fun hmark => beginsWithByte_slash (hc hmark) s,
        percentBytes_char hc, ih, List.append_assoc]

/-- What stands in front of a slash is read by itself, and so is what stands behind it. -/
theorem percentDecode_slash (front s : List Char) :
    percentDecode (front ++ '/' :: s) = percentDecode front ++ '/' :: percentDecode s := by
  have hanew : Utf8.BeginsAnew ('/'.toNat :: percentBytes s) := by
    rintro byte ⟨⟩
    decide
  have hslash : Utf8.loose ('/'.toNat :: percentBytes s) = '/' :: Utf8.loose (percentBytes s) :=
    Utf8.loose_utf8Bytes '/' (percentBytes s)
  show Utf8.loose (percentBytes (front ++ '/' :: s)) = _
  rw [percentBytes_slash, Utf8.loose_append _ hanew, hslash]
  rfl

end DetectorSearch.Text
