import DiskBridge.Text.Utf8

/-!
# Text survives UTF-8

The pieces of encoded text are its characters (`scan_encodeChars`), so reading it back, strictly or
with replacements, gives the text (`decode_encode`, `decodeLossyChars_encodeChars`). A byte below
`80` in encoded text is the character of that code point (`mem_utf8EncodeChar`), so text without a
separator or a NUL has bytes without them. Conversely, bytes that are read strictly are the bytes of
the text they are read as (`encode_of_decode`): text has no other form.
-/

namespace DiskBridge.Utf8

/-! ## Single characters -/

theorem isTail_of_bounds (byte : UInt8) (hl : 0x80 ≤ byte.toNat) (hu : byte.toNat ≤ 0xbf) :
    isTail byte = true := by
  unfold isTail
  rw [Bool.and_eq_true, decide_eq_true_iff, decide_eq_true_iff, UInt8.le_iff_toNat_le,
    UInt8.le_iff_toNat_le]
  exact ⟨hl, hu⟩

theorem isSecond_of_bounds (lead byte : UInt8) (hl : 0x80 ≤ byte.toNat) (hu : byte.toNat ≤ 0xbf)
    (he0 : lead.toNat = 0xe0 → 0xa0 ≤ byte.toNat) (hed : lead.toNat = 0xed → byte.toNat ≤ 0x9f)
    (hf0 : lead.toNat = 0xf0 → 0x90 ≤ byte.toNat) (hf4 : lead.toNat = 0xf4 → byte.toNat ≤ 0x8f) :
    isSecond lead byte = true := by
  have bounds (low high : UInt8) (hl : low.toNat ≤ byte.toNat) (hu : byte.toNat ≤ high.toNat) :
      (decide (low ≤ byte) && decide (byte ≤ high)) = true := by
    rw [Bool.and_eq_true, decide_eq_true_iff, decide_eq_true_iff, UInt8.le_iff_toNat_le,
      UInt8.le_iff_toNat_le]
    exact ⟨hl, hu⟩
  unfold isSecond
  split
  · next h => exact bounds _ _ (he0 (h ▸ rfl)) hu
  split
  · next h => exact bounds _ _ hl (hed (h ▸ rfl))
  split
  · next h => exact bounds _ _ (hf0 (h ▸ rfl)) hu
  split
  · next h => exact bounds _ _ hl (hf4 (h ▸ rfl))
  · exact isTail_of_bounds byte hl hu

theorem scan_one {a : UInt8} {rest : List UInt8} (ha : a.toNat < 0x80) :
    scan (a :: rest) = .char (Char.ofNat a.toNat) :: scan rest := by
  have h : a < 0x80 := UInt8.lt_iff_toNat_lt.2 ha
  rw [scan.eq_def]
  simp only [if_pos h]

/-- A lead byte of a longer form is past the first two tests of `scan`. -/
theorem lead_tests {a : UInt8} (hl : 0xc2 ≤ a.toNat) (hu : a.toNat ≤ 0xf4) :
    ¬ a < 0x80 ∧ (decide (a < 0xc2) || decide (0xf4 < a)) = false := by
  have h1 : ¬ a < 0x80 := fun h => by
    have : a.toNat < 0x80 := UInt8.lt_iff_toNat_lt.1 h
    omega
  have h2 : ¬ a < 0xc2 := fun h => by
    have : a.toNat < 0xc2 := UInt8.lt_iff_toNat_lt.1 h
    omega
  have h3 : ¬ 0xf4 < a := fun h => by
    have : 0xf4 < a.toNat := UInt8.lt_iff_toNat_lt.1 h
    omega
  refine ⟨h1, ?_⟩
  rw [decide_eq_false h2, decide_eq_false h3, Bool.or_false]

theorem scan_two {a b : UInt8} {rest : List UInt8} (hl : 0xc2 ≤ a.toNat) (hu : a.toNat < 0xe0)
    (hb : isSecond a b = true) :
    scan (a :: b :: rest) = .char (assemble 0xc0 a [b]) :: scan rest := by
  obtain ⟨h1, h2⟩ := lead_tests hl (by omega)
  have h3 : a < 0xe0 := UInt8.lt_iff_toNat_lt.2 hu
  rw [scan.eq_def]
  simp only [if_neg h1, h2, hb, if_pos h3, Bool.not_true, Bool.false_eq_true, if_false]

theorem scan_three {a b c : UInt8} {rest : List UInt8} (hl : 0xe0 ≤ a.toNat) (hu : a.toNat < 0xf0)
    (hb : isSecond a b = true) (hc : isTail c = true) :
    scan (a :: b :: c :: rest) = .char (assemble 0xe0 a [b, c]) :: scan rest := by
  obtain ⟨h1, h2⟩ := lead_tests (a := a) (by omega) (by omega)
  have h3 : ¬ a < 0xe0 := fun h => by
    have : a.toNat < 0xe0 := UInt8.lt_iff_toNat_lt.1 h
    omega
  have h4 : a < 0xf0 := UInt8.lt_iff_toNat_lt.2 hu
  rw [scan.eq_def]
  simp only [if_neg h1, h2, hb, hc, if_neg h3, if_pos h4, Bool.not_true, Bool.false_eq_true,
    if_false]

theorem scan_four {a b c d : UInt8} {rest : List UInt8} (hl : 0xf0 ≤ a.toNat)
    (hu : a.toNat ≤ 0xf4) (hb : isSecond a b = true) (hc : isTail c = true)
    (hd : isTail d = true) :
    scan (a :: b :: c :: d :: rest) = .char (assemble 0xf0 a [b, c, d]) :: scan rest := by
  obtain ⟨h1, h2⟩ := lead_tests (a := a) (by omega) hu
  have h3 : ¬ a < 0xe0 := fun h => by
    have : a.toNat < 0xe0 := UInt8.lt_iff_toNat_lt.1 h
    omega
  have h4 : ¬ a < 0xf0 := fun h => by
    have : a.toNat < 0xf0 := UInt8.lt_iff_toNat_lt.1 h
    omega
  rw [scan.eq_def]
  simp only [if_neg h1, h2, hb, hc, hd, if_neg h3, if_neg h4, Bool.not_true, Bool.false_eq_true,
    if_false]

theorem toNat_byte {n : Nat} (h : n < 256) : (UInt8.ofNat n).toNat = n :=
  UInt8.toNat_ofNat_of_lt' h

/-- Code points lie below the surrogates or above them, up to the last one. -/
theorem code_point_cases (c : Char) :
    c.toNat < 0xd800 ∨ 0xdfff < c.toNat ∧ c.toNat < 0x110000 := by
  have := c.valid
  rcases this with h | ⟨hl, hu⟩
  · exact .inl h
  · exact .inr ⟨hl, hu⟩

/-- A character at the front of some bytes is read back, whatever follows it. -/
theorem scan_utf8EncodeChar (c : Char) (rest : List UInt8) :
    scan (String.utf8EncodeChar c ++ rest) = .char c :: scan rest := by
  have hv := code_point_cases c
  have hc : Char.ofNat c.toNat = c := Char.ofNat_toNat c
  have hn : c.val.toNat = c.toNat := rfl
  unfold String.utf8EncodeChar
  dsimp only
  rw [hn]
  generalize c.toNat = v at hv hc
  split
  · next h1 =>
    have ha := toNat_byte (n := v) (by omega)
    rw [List.singleton_append, scan_one (by omega), ha, hc]
  split
  · next h1 h2 =>
    have ha := toNat_byte (n := v / 64 % 32 + 0xc0) (by omega)
    have hb := toNat_byte (n := v % 64 + 0x80) (by omega)
    have hs := isSecond_of_bounds (UInt8.ofNat (v / 64 % 32 + 0xc0))
      (UInt8.ofNat (v % 64 + 0x80)) (by omega) (by omega) (by omega) (by omega)
      (by omega) (by omega)
    rw [List.cons_append, List.singleton_append, scan_two (by omega) (by omega) hs, assemble]
    simp only [List.foldl_cons, List.foldl_nil, ha, hb]
    rw [show (v / 64 % 32 + 0xc0 - 0xc0) * 64 + (v % 64 + 0x80 - 0x80) = v by omega, hc]
  split
  · next h1 h2 h3 =>
    have ha := toNat_byte (n := v / 4096 % 16 + 0xe0) (by omega)
    have hb := toNat_byte (n := v / 64 % 64 + 0x80) (by omega)
    have ht := toNat_byte (n := v % 64 + 0x80) (by omega)
    have hs := isSecond_of_bounds (UInt8.ofNat (v / 4096 % 16 + 0xe0))
      (UInt8.ofNat (v / 64 % 64 + 0x80)) (by omega) (by omega) (by omega) (by omega)
      (by omega) (by omega)
    have hl := isTail_of_bounds (UInt8.ofNat (v % 64 + 0x80)) (by omega) (by omega)
    rw [List.cons_append, List.cons_append, List.singleton_append,
      scan_three (by omega) (by omega) hs hl, assemble]
    simp only [List.foldl_cons, List.foldl_nil, ha, hb, ht]
    rw [show ((v / 4096 % 16 + 0xe0 - 0xe0) * 64 + (v / 64 % 64 + 0x80 - 0x80)) * 64 +
      (v % 64 + 0x80 - 0x80) = v by omega, hc]
  · next h1 h2 h3 =>
    have ha := toNat_byte (n := v / 262144 % 8 + 0xf0) (by omega)
    have hb := toNat_byte (n := v / 4096 % 64 + 0x80) (by omega)
    have ht := toNat_byte (n := v / 64 % 64 + 0x80) (by omega)
    have hd := toNat_byte (n := v % 64 + 0x80) (by omega)
    have hs := isSecond_of_bounds (UInt8.ofNat (v / 262144 % 8 + 0xf0))
      (UInt8.ofNat (v / 4096 % 64 + 0x80)) (by omega) (by omega) (by omega) (by omega)
      (by omega) (by omega)
    have hl := isTail_of_bounds (UInt8.ofNat (v / 64 % 64 + 0x80)) (by omega) (by omega)
    have hm := isTail_of_bounds (UInt8.ofNat (v % 64 + 0x80)) (by omega) (by omega)
    rw [List.cons_append, List.cons_append, List.cons_append, List.singleton_append,
      scan_four (by omega) (by omega) hs hl hm, assemble]
    simp only [List.foldl_cons, List.foldl_nil, ha, hb, ht, hd]
    rw [show (((v / 262144 % 8 + 0xf0 - 0xf0) * 64 + (v / 4096 % 64 + 0x80 - 0x80)) * 64 +
      (v / 64 % 64 + 0x80 - 0x80)) * 64 + (v % 64 + 0x80 - 0x80) = v by omega, hc]

/-- A byte below `80` stands for itself. -/
theorem mem_utf8EncodeChar {c : Char} {byte : UInt8} (h : byte ∈ String.utf8EncodeChar c)
    (hb : byte.toNat < 0x80) : c.toNat = byte.toNat := by
  have hn : c.val.toNat = c.toNat := rfl
  unfold String.utf8EncodeChar at h
  dsimp only at h
  rw [hn] at h
  generalize c.toNat = v at h
  have high {n : Nat} (hn : byte = UInt8.ofNat (n + 0x80)) (hl : n + 0x80 < 256) : False := by
    rw [hn, toNat_byte hl] at hb
    omega
  split at h
  · rw [List.mem_singleton.1 h, toNat_byte (by omega)]
  split at h
  · rcases List.mem_cons.1 h with h | h
    · exact (high (n := v / 64 % 32 + 0x40) h (by omega)).elim
    · exact (high (List.mem_singleton.1 h) (by omega)).elim
  split at h
  · simp only [List.mem_cons, List.not_mem_nil, or_false] at h
    rcases h with h | h | h
    · exact (high (n := v / 4096 % 16 + 0x60) h (by omega)).elim
    · exact (high h (by omega)).elim
    · exact (high h (by omega)).elim
  · simp only [List.mem_cons, List.not_mem_nil, or_false] at h
    rcases h with h | h | h | h
    · exact (high (n := v / 262144 % 8 + 0x70) h (by omega)).elim
    · exact (high h (by omega)).elim
    · exact (high h (by omega)).elim
    · exact (high h (by omega)).elim

/-! ## Texts -/

@[simp] theorem encodeChars_nil : encodeChars [] = [] := rfl

@[simp] theorem encodeChars_cons (c : Char) (rest : List Char) :
    encodeChars (c :: rest) = String.utf8EncodeChar c ++ encodeChars rest := rfl

theorem encodeChars_append (before after : List Char) :
    encodeChars (before ++ after) = encodeChars before ++ encodeChars after :=
  List.flatMap_append

/-- The pieces of encoded text are its characters. -/
theorem scan_encodeChars (chars : List Char) : scan (encodeChars chars) = chars.map .char := by
  induction chars with
  | nil => rw [encodeChars_nil, scan.eq_def, List.map_nil]
  | cons c rest ih => rw [encodeChars_cons, scan_utf8EncodeChar, ih, List.map_cons]

theorem charsOf_map_char (offset : Nat) (chars : List Char) :
    charsOf offset (chars.map .char) = .ok chars := by
  induction chars generalizing offset with
  | nil => rfl
  | cons c rest ih =>
    rw [List.map_cons, charsOf, ih]
    rfl

theorem decode_encode (text : String) : decode (encode text) = .ok text := by
  rw [decode, encode, scan_encodeChars, charsOf_map_char]
  exact congrArg _ (String.ofList_toList)

theorem decodeLossyChars_encodeChars (chars : List Char) :
    decodeLossyChars (encodeChars chars) = chars := by
  rw [decodeLossyChars, scan_encodeChars, List.map_map]
  exact List.map_id chars

/-- Text without a character below `80` has no byte of that code point. -/
theorem not_mem_encodeChars {c : Char} {byte : UInt8} {chars : List Char}
    (hc : c.toNat = byte.toNat) (hb : byte.toNat < 0x80) (h : c ∉ chars) :
    byte ∉ encodeChars chars := by
  intro hm
  obtain ⟨d, hd, hm⟩ := List.mem_flatMap.1 hm
  have he : d = c := Char.ext (UInt32.toNat_inj.1 ((mem_utf8EncodeChar hm hb).trans hc.symm))
  exact h (he ▸ hd)

/-! ## Bytes that are text -/

theorem bounds_of_isTail {byte : UInt8} (h : isTail byte = true) :
    0x80 ≤ byte.toNat ∧ byte.toNat ≤ 0xbf := by
  unfold isTail at h
  rw [Bool.and_eq_true, decide_eq_true_iff, decide_eq_true_iff, UInt8.le_iff_toNat_le,
    UInt8.le_iff_toNat_le] at h
  exact h

theorem bounds_of_isSecond {lead byte : UInt8} (h : isSecond lead byte = true) :
    (0x80 ≤ byte.toNat ∧ byte.toNat ≤ 0xbf) ∧ (lead.toNat = 0xe0 → 0xa0 ≤ byte.toNat) ∧
      (lead.toNat = 0xed → byte.toNat ≤ 0x9f) ∧ (lead.toNat = 0xf0 → 0x90 ≤ byte.toNat) ∧
      (lead.toNat = 0xf4 → byte.toNat ≤ 0x8f) := by
  have hn (limit : UInt8) : lead = limit ↔ lead.toNat = limit.toNat := UInt8.toNat_inj.symm
  unfold isSecond isTail at h
  simp only [hn, UInt8.le_iff_toNat_le, UInt8.reduceToNat] at h
  repeat' split at h
  all_goals
    simp only [Bool.and_eq_true, decide_eq_true_iff] at h
    omega

theorem utf8EncodeChar_ofNat {n : Nat} (h : n.isValidChar) :
    String.utf8EncodeChar (Char.ofNat n) =
      if n ≤ 0x7f then [UInt8.ofNat n]
      else if n ≤ 0x7ff then [UInt8.ofNat (n / 64 % 32 + 0xc0), UInt8.ofNat (n % 64 + 0x80)]
      else if n ≤ 0xffff then
        [UInt8.ofNat (n / 4096 % 16 + 0xe0), UInt8.ofNat (n / 64 % 64 + 0x80),
          UInt8.ofNat (n % 64 + 0x80)]
      else
        [UInt8.ofNat (n / 262144 % 8 + 0xf0), UInt8.ofNat (n / 4096 % 64 + 0x80),
          UInt8.ofNat (n / 64 % 64 + 0x80), UInt8.ofNat (n % 64 + 0x80)] := by
  have hn : (Char.ofNat n).val.toNat = n := by
    rw [Char.ofNat, dif_pos h]
    rfl
  unfold String.utf8EncodeChar
  dsimp only
  rw [hn]

theorem ofNat_eq (byte : UInt8) {n : Nat} (h : n = byte.toNat) : UInt8.ofNat n = byte := by
  rw [h, UInt8.ofNat_toNat]

theorem encode_one {a : UInt8} (ha : a.toNat < 0x80) :
    String.utf8EncodeChar (Char.ofNat a.toNat) = [a] := by
  rw [utf8EncodeChar_ofNat (.inl (by omega)), if_pos (by omega), UInt8.ofNat_toNat]

theorem encode_two {a b : UInt8} (hl : 0xc2 ≤ a.toNat) (hu : a.toNat < 0xe0)
    (hb : isSecond a b = true) : String.utf8EncodeChar (assemble 0xc0 a [b]) = [a, b] := by
  obtain ⟨hb, -⟩ := bounds_of_isSecond hb
  have hv : ((a.toNat - 0xc0) * 64 + (b.toNat - 0x80)).isValidChar := .inl (by omega)
  refine (utf8EncodeChar_ofNat hv).trans ?_
  rw [if_neg (by omega), if_pos (by omega), ofNat_eq a (by omega), ofNat_eq b (by omega)]

theorem encode_three {a b c : UInt8} (hl : 0xe0 ≤ a.toNat) (hu : a.toNat < 0xf0)
    (hb : isSecond a b = true) (hc : isTail c = true) :
    String.utf8EncodeChar (assemble 0xe0 a [b, c]) = [a, b, c] := by
  obtain ⟨hb, he0, hed, -⟩ := bounds_of_isSecond hb
  have hc := bounds_of_isTail hc
  have hv : (((a.toNat - 0xe0) * 64 + (b.toNat - 0x80)) * 64 + (c.toNat - 0x80)).isValidChar := by
    unfold Nat.isValidChar
    omega
  refine (utf8EncodeChar_ofNat hv).trans ?_
  rw [if_neg (by omega), if_neg (by omega), if_pos (by omega), ofNat_eq a (by omega),
    ofNat_eq b (by omega), ofNat_eq c (by omega)]

theorem encode_four {a b c d : UInt8} (hl : 0xf0 ≤ a.toNat) (hu : a.toNat ≤ 0xf4)
    (hb : isSecond a b = true) (hc : isTail c = true) (hd : isTail d = true) :
    String.utf8EncodeChar (assemble 0xf0 a [b, c, d]) = [a, b, c, d] := by
  obtain ⟨hb, -, -, hf0, hf4⟩ := bounds_of_isSecond hb
  have hc := bounds_of_isTail hc
  have hd := bounds_of_isTail hd
  have hv : ((((a.toNat - 0xf0) * 64 + (b.toNat - 0x80)) * 64 + (c.toNat - 0x80)) * 64 +
      (d.toNat - 0x80)).isValidChar := by
    unfold Nat.isValidChar
    omega
  refine (utf8EncodeChar_ofNat hv).trans ?_
  rw [if_neg (by omega), if_neg (by omega), if_neg (by omega), ofNat_eq a (by omega),
    ofNat_eq b (by omega), ofNat_eq c (by omega), ofNat_eq d (by omega)]

/-- A character among the pieces stands for its own bytes. -/
theorem charsOf_char {offset : Nat} {c : Char} {pieces : List Piece} {chars : List Char}
    (h : charsOf offset (.char c :: pieces) = .ok chars) :
    ∃ rest, chars = c :: rest ∧ charsOf (offset + c.utf8Size) pieces = .ok rest := by
  rw [charsOf] at h
  cases hr : charsOf (offset + c.utf8Size) pieces with
  | error fault =>
    rw [hr] at h
    cases h
  | ok rest =>
    rw [hr] at h
    cases h
    exact ⟨rest, rfl, rfl⟩

theorem lead_bounds {a : UInt8} (h : ¬ (decide (a < 0xc2) || decide (0xf4 < a)) = true) :
    0xc2 ≤ a.toNat ∧ a.toNat ≤ 0xf4 := by
  simp only [Bool.or_eq_true, decide_eq_true_iff, not_or, UInt8.not_lt] at h
  exact ⟨UInt8.le_iff_toNat_le.1 h.1, UInt8.le_iff_toNat_le.1 h.2⟩

/-- Bytes all of whose pieces are characters are the bytes of those. -/
theorem encodeChars_of_charsOf {bytes : List UInt8} {offset : Nat} {chars : List Char}
    (h : charsOf offset (scan bytes) = .ok chars) : encodeChars chars = bytes := by
  fun_induction scan bytes generalizing offset chars with
  | case1 =>
    cases h
    rfl
  | case2 a rest ha ih =>
    obtain ⟨chars, rfl, hc⟩ := charsOf_char h
    rw [encodeChars_cons, ih hc, encode_one (UInt8.lt_iff_toNat_lt.1 ha), List.singleton_append]
  | case6 a _ ha b rest hb hu ih =>
    obtain ⟨hl, -⟩ := lead_bounds ha
    obtain ⟨chars, rfl, hc⟩ := charsOf_char h
    rw [encodeChars_cons, ih hc, encode_two hl (UInt8.lt_iff_toNat_lt.1 hu) (by simpa using hb)]
    rfl
  | case9 a _ ha b hb hl c rest hc hu ih =>
    have hl := UInt8.le_iff_toNat_le.1 (UInt8.not_lt.1 hl)
    obtain ⟨chars, rfl, hr⟩ := charsOf_char h
    rw [encodeChars_cons, ih hr, encode_three hl (UInt8.lt_iff_toNat_lt.1 hu) (by simpa using hb)
      (by simpa using hc)]
    rfl
  | case12 a _ ha b hb _ c hc hl d rest hd ih =>
    have hl := UInt8.le_iff_toNat_le.1 (UInt8.not_lt.1 hl)
    obtain ⟨-, hu⟩ := lead_bounds ha
    obtain ⟨chars, rfl, hr⟩ := charsOf_char h
    rw [encodeChars_cons, ih hr, encode_four hl hu (by simpa using hb) (by simpa using hc)
      (by simpa using hd)]
    rfl
  -- A broken sequence or one that is cut off is no character.
  | _ => cases h

/-- Text is read from its own bytes only. -/
theorem encode_of_decode {bytes : List UInt8} {text : String} (h : decode bytes = .ok text) :
    encode text = bytes := by
  unfold decode at h
  cases hc : charsOf 0 (scan bytes) with
  | error fault =>
    rw [hc] at h
    cases h
  | ok chars =>
    rw [hc] at h
    cases h
    rw [encode, String.toList_ofList, encodeChars_of_charsOf hc]

end DiskBridge.Utf8
