import Groundwork.Text.Utf8

/-!
# Reading what was written in UTF-8

`decode?_eq_some_iff`: bytes are read as a text if, and only if, they are the bytes of that text.
The proof goes character by character, by a case for each of the four lengths: the bytes of one
character are read as it, whatever comes after them (`decodeFirst_encode`), and bytes that are read
as a character are the ones that it is written with (`encode_of_decodeFirst`).  Only a newline has
the byte of a newline (`eq_newline_of_mem_encode`), so lines may be cut before they are read.
-/

namespace Groundwork.Text

/-! ### The bytes of a text -/

theorem toList_loop_eq (bytes : ByteArray) (i : Nat) (acc : List UInt8) :
    ByteArray.toList.loop bytes i acc = acc.reverse ++ bytes.data.toList.drop i := by
  fun_induction ByteArray.toList.loop bytes i acc with
  | case1 i acc hlt ih =>
    have hi : i < bytes.data.toList.length := by simpa using hlt
    rw [ih, List.drop_eq_getElem_cons hi]
    simp [ByteArray.get!, hlt]
  | case2 i acc hge =>
    rw [List.drop_eq_nil_of_le (by simpa using Nat.le_of_not_lt hge), List.append_nil]

/-- A text is written character by character. -/
theorem utf8Bytes_eq (s : String) : utf8Bytes s = s.toList.flatMap String.utf8EncodeChar := by
  have htext : s.toByteArray = (s.toList.flatMap String.utf8EncodeChar).toByteArray := by
    conv => lhs; rw [← String.ofList_toList (s := s)]
    rfl
  rw [utf8Bytes, String.toUTF8_eq_toByteArray, htext, ByteArray.toList, toList_loop_eq,
    List.toList_data_toByteArray]
  rfl

theorem utf8Bytes_append (s t : String) : utf8Bytes (s ++ t) = utf8Bytes s ++ utf8Bytes t := by
  rw [utf8Bytes_eq, utf8Bytes_eq, utf8Bytes_eq, String.toList_append, List.flatMap_append]

/-! ### Single bytes -/

section Bytes

variable {n m : Nat}

theorem toNat_ofNat_of_lt (h : n < 256) : (UInt8.ofNat n).toNat = n := by
  rw [UInt8.toNat_ofNat', Nat.mod_eq_of_lt h]

theorem le_ofNat_iff (b : UInt8) (h : n < 256) : b ≤ UInt8.ofNat n ↔ b.toNat ≤ n := by
  rw [UInt8.le_iff_toNat_le, toNat_ofNat_of_lt h]

theorem ofNat_le_iff (b : UInt8) (h : n < 256) : UInt8.ofNat n ≤ b ↔ n ≤ b.toNat := by
  rw [UInt8.le_iff_toNat_le, toNat_ofNat_of_lt h]

theorem ofNat_beq (b : UInt8) (h : n < 256) : (UInt8.ofNat n == b) = decide (n = b.toNat) := by
  rw [Bool.eq_iff_iff, beq_iff_eq, decide_eq_true_eq, ← UInt8.toNat_inj, toNat_ofNat_of_lt h]

theorem isContinuation_ofNat (h : n < 64) : isContinuation (UInt8.ofNat (n + 128)) = true := by
  rw [isContinuation, Bool.and_eq_true, decide_eq_true_eq, decide_eq_true_eq,
    le_ofNat_iff _ (by omega), ofNat_le_iff _ (by omega)]
  show 128 ≤ n + 128 ∧ n + 128 ≤ 191
  omega

theorem payload_ofNat (h : n < 64) : payload (UInt8.ofNat (n + 128)) = n := by
  rw [payload, toNat_ofNat_of_lt (by omega)]
  omega

/-- How long a character is can be seen from its first byte. -/
theorem sequenceLength_ofNat (h : n < 245) :
    sequenceLength (UInt8.ofNat n) =
      if n < 128 then some 1
      else if 194 ≤ n ∧ n ≤ 223 then some 2
      else if 224 ≤ n ∧ n ≤ 239 then some 3
      else if 240 ≤ n then some 4
      else none := by
  have hbyte : n < 256 := by omega
  have hlast : n ≤ 244 := by omega
  simp only [sequenceLength, UInt8.lt_iff_toNat_lt, le_ofNat_iff _ hbyte, ofNat_le_iff _ hbyte,
    toNat_ofNat_of_lt hbyte, UInt8.reduceToNat, Bool.and_eq_true, decide_eq_true_eq, hlast,
    and_true]

/-- A second byte fits if the character is not written too long, is no surrogate and is not past
the last code point. -/
theorem secondFits_ofNat (hn : n < 256) (hm : m < 64) (hlong : n = 224 → 32 ≤ m)
    (hsurrogate : n = 237 → m < 32) (hlong' : n = 240 → 16 ≤ m) (hlast : n = 244 → m < 16) :
    secondFits (UInt8.ofNat n) (UInt8.ofNat (m + 128)) = true := by
  have hsecond : m + 128 < 256 := by omega
  simp only [secondFits, ofNat_beq _ hn, le_ofNat_iff _ hsecond, ofNat_le_iff _ hsecond,
    UInt8.reduceToNat, decide_eq_true_eq]
  split
  · rw [Bool.and_eq_true, decide_eq_true_eq, decide_eq_true_eq]
    omega
  split
  · rw [Bool.and_eq_true, decide_eq_true_eq, decide_eq_true_eq]
    omega
  split
  · rw [Bool.and_eq_true, decide_eq_true_eq, decide_eq_true_eq]
    omega
  split
  · rw [Bool.and_eq_true, decide_eq_true_eq, decide_eq_true_eq]
    omega
  · exact isContinuation_ofNat hm

end Bytes

/-! ### Single characters -/

section Characters

variable {a b c d : Nat} (rest : List UInt8)

theorem decodeFirst_one (h : a ≤ 127) :
    decodeFirst (UInt8.ofNat a) rest = (some (Char.ofNat a), 1) := by
  have hlength : sequenceLength (UInt8.ofNat a) = some 1 := by
    rw [sequenceLength_ofNat (by omega), if_pos (by omega)]
  simp only [decodeFirst, hlength, toNat_ofNat_of_lt (show a < 256 by omega)]

theorem decodeFirst_two (ha : a < 32) (hlong : 2 ≤ a) (hb : b < 64) :
    decodeFirst (UInt8.ofNat (a + 192)) (UInt8.ofNat (b + 128) :: rest) =
      (some (Char.ofNat (a * 64 + b)), 2) := by
  have hlength : sequenceLength (UInt8.ofNat (a + 192)) = some 2 := by
    rw [sequenceLength_ofNat (by omega), if_neg (by omega), if_pos (by omega)]
  have hlead : (a + 192) % 32 = a := by omega
  simp only [decodeFirst, hlength, isContinuation_ofNat hb, payload_ofNat hb,
    toNat_ofNat_of_lt (show a + 192 < 256 by omega), hlead, ↓reduceIte]

theorem decodeFirst_three (ha : a < 16) (hlong : a = 0 → 32 ≤ b) (hsurrogate : a = 13 → b < 32)
    (hb : b < 64) (hc : c < 64) :
    decodeFirst (UInt8.ofNat (a + 224)) (UInt8.ofNat (b + 128) :: UInt8.ofNat (c + 128) :: rest) =
      (some (Char.ofNat ((a * 64 + b) * 64 + c)), 3) := by
  have hlength : sequenceLength (UInt8.ofNat (a + 224)) = some 3 := by
    rw [sequenceLength_ofNat (by omega), if_neg (by omega), if_neg (by omega), if_pos (by omega)]
  have hfits : secondFits (UInt8.ofNat (a + 224)) (UInt8.ofNat (b + 128)) = true := by
    apply secondFits_ofNat (by omega) hb <;> omega
  have hlead : (a + 224) % 16 = a := by omega
  simp only [decodeFirst, hlength, hfits, isContinuation_ofNat hc, payload_ofNat hb,
    payload_ofNat hc, toNat_ofNat_of_lt (show a + 224 < 256 by omega), hlead, ↓reduceIte]

theorem decodeFirst_four (ha : a < 5) (hlong : a = 0 → 16 ≤ b) (hlast : a = 4 → b < 16)
    (hb : b < 64) (hc : c < 64) (hd : d < 64) :
    decodeFirst (UInt8.ofNat (a + 240))
        (UInt8.ofNat (b + 128) :: UInt8.ofNat (c + 128) :: UInt8.ofNat (d + 128) :: rest) =
      (some (Char.ofNat (((a * 64 + b) * 64 + c) * 64 + d)), 4) := by
  have hlength : sequenceLength (UInt8.ofNat (a + 240)) = some 4 := by
    rw [sequenceLength_ofNat (by omega), if_neg (by omega), if_neg (by omega), if_neg (by omega),
      if_pos (by omega)]
  have hfits : secondFits (UInt8.ofNat (a + 240)) (UInt8.ofNat (b + 128)) = true := by
    apply secondFits_ofNat (by omega) hb <;> omega
  have hlead : (a + 240) % 8 = a := by omega
  simp only [decodeFirst, hlength, hfits, isContinuation_ofNat hc, isContinuation_ofNat hd,
    payload_ofNat hb, payload_ofNat hc, payload_ofNat hd,
    toNat_ofNat_of_lt (show a + 240 < 256 by omega), hlead, ↓reduceIte]

/-- The bytes of a character are read as that character, whatever comes after them. -/
theorem decodeFirst_encode (x : Char) :
    ∃ lead tail, String.utf8EncodeChar x = lead :: tail ∧
      decodeFirst lead (tail ++ rest) = (some x, tail.length + 1) := by
  have hvalid : x.val.toNat < 55296 ∨ 57343 < x.val.toNat ∧ x.val.toNat < 1114112 := x.valid
  have hchar : Char.ofNat x.val.toNat = x := Char.ofNat_toNat x
  generalize hv : x.val.toNat = v at hvalid hchar
  -- the parts of the code point that the bytes carry make it up again
  have htwo : v ≤ 2047 → v / 64 % 32 * 64 + v % 64 = v := by omega
  have hthree : v ≤ 65535 → (v / 4096 % 16 * 64 + v / 64 % 64) * 64 + v % 64 = v := by omega
  have hfour : ((v / 262144 % 8 * 64 + v / 4096 % 64) * 64 + v / 64 % 64) * 64 + v % 64 = v := by
    omega
  by_cases h₁ : v ≤ 127
  · refine ⟨UInt8.ofNat v, [], ?_, ?_⟩
    · simp only [String.utf8EncodeChar, hv, h₁, ↓reduceIte]
    · rw [decodeFirst_one _ h₁, hchar]
      rfl
  by_cases h₂ : v ≤ 2047
  · refine ⟨UInt8.ofNat (v / 64 % 32 + 192), [UInt8.ofNat (v % 64 + 128)], ?_, ?_⟩
    · simp only [String.utf8EncodeChar, hv, h₁, h₂, ↓reduceIte]
    · show decodeFirst _ (_ :: rest) = _
      rw [decodeFirst_two _ (by omega) (by omega) (by omega), htwo h₂, hchar]
      rfl
  by_cases h₃ : v ≤ 65535
  · refine ⟨UInt8.ofNat (v / 4096 % 16 + 224),
      [UInt8.ofNat (v / 64 % 64 + 128), UInt8.ofNat (v % 64 + 128)], ?_, ?_⟩
    · simp only [String.utf8EncodeChar, hv, h₁, h₂, h₃, ↓reduceIte]
    · show decodeFirst _ (_ :: _ :: rest) = _
      rw [decodeFirst_three _ (by omega) (by omega) (by omega) (by omega) (by omega), hthree h₃,
        hchar]
      rfl
  · refine ⟨UInt8.ofNat (v / 262144 % 8 + 240),
      [UInt8.ofNat (v / 4096 % 64 + 128), UInt8.ofNat (v / 64 % 64 + 128),
        UInt8.ofNat (v % 64 + 128)], ?_, ?_⟩
    · simp only [String.utf8EncodeChar, hv, h₁, h₂, h₃, ↓reduceIte]
    · show decodeFirst _ (_ :: _ :: _ :: rest) = _
      rw [decodeFirst_four _ (by omega) (by omega) (by omega) (by omega) (by omega) (by omega),
        hfour, hchar]
      rfl

theorem decodeRuns_encode_append (x : Char) :
    decodeRuns (String.utf8EncodeChar x ++ rest) = some x :: decodeRuns rest := by
  obtain ⟨lead, tail, hencode, hfirst⟩ := decodeFirst_encode rest x
  rw [hencode, List.cons_append, decodeRuns, hfirst]
  simp only [Nat.add_sub_cancel, List.drop_left]

/-- Every byte of a character that is not ASCII has its high bit set. -/
theorem le_of_mem_encode {x : Char} {b : UInt8} (hx : ¬x.val.toNat ≤ 127)
    (h : b ∈ String.utf8EncodeChar x) : 128 ≤ b.toNat := by
  have hhigh (n : Nat) (hn : 128 ≤ n) (hn' : n < 256) : 128 ≤ (UInt8.ofNat n).toNat := by
    rw [toNat_ofNat_of_lt hn']
    exact hn
  rw [String.utf8EncodeChar, if_neg hx] at h
  split at h
  · simp only [List.mem_cons, List.not_mem_nil, or_false] at h
    rcases h with rfl | rfl <;> exact hhigh _ (by omega) (by omega)
  split at h
  · simp only [List.mem_cons, List.not_mem_nil, or_false] at h
    rcases h with rfl | rfl | rfl <;> exact hhigh _ (by omega) (by omega)
  · simp only [List.mem_cons, List.not_mem_nil, or_false] at h
    rcases h with rfl | rfl | rfl | rfl <;> exact hhigh _ (by omega) (by omega)

/-- Only a newline has the byte of a newline among its bytes. -/
theorem eq_newline_of_mem_encode {x : Char} (h : 10 ∈ String.utf8EncodeChar x) : x = '\n' := by
  by_cases hx : x.val.toNat ≤ 127
  · rw [String.utf8EncodeChar, if_pos hx, List.mem_singleton] at h
    have hcode : 10 = x.val.toNat := by
      rw [← toNat_ofNat_of_lt (show x.val.toNat < 256 by omega), ← h]
      rfl
    have hchar : Char.ofNat x.val.toNat = x := Char.ofNat_toNat x
    rw [← hchar, ← hcode]
  · exact absurd (le_of_mem_encode hx h) (by decide)

end Characters

/-! ### Characters that are read -/

section Read

variable {lead b : UInt8} {n : Nat}

theorem isContinuation_iff : isContinuation b = true ↔ 128 ≤ b.toNat ∧ b.toNat ≤ 191 := by
  rw [isContinuation, Bool.and_eq_true, decide_eq_true_eq, decide_eq_true_eq,
    UInt8.le_iff_toNat_le, UInt8.le_iff_toNat_le]
  rfl

/-- The range of the first bytes of characters of some length. -/
theorem sequenceLength_eq_some (h : sequenceLength lead = some n) :
    (n = 1 ∧ lead.toNat ≤ 127) ∨ (n = 2 ∧ 194 ≤ lead.toNat ∧ lead.toNat ≤ 223) ∨
      (n = 3 ∧ 224 ≤ lead.toNat ∧ lead.toNat ≤ 239) ∨
      (n = 4 ∧ 240 ≤ lead.toNat ∧ lead.toNat ≤ 244) := by
  simp only [sequenceLength, UInt8.lt_iff_toNat_lt, UInt8.le_iff_toNat_le, UInt8.reduceToNat,
    Bool.and_eq_true, decide_eq_true_eq] at h
  split at h
  · cases h
    omega
  split at h
  · cases h
    omega
  split at h
  · cases h
    omega
  split at h
  · cases h
    omega
  · cases h

/-- The range of the bytes that fit behind a first byte. -/
theorem range_of_secondFits (h : secondFits lead b = true) :
    128 ≤ b.toNat ∧ b.toNat ≤ 191 ∧ (lead.toNat = 224 → 160 ≤ b.toNat) ∧
      (lead.toNat = 237 → b.toNat ≤ 159) ∧ (lead.toNat = 240 → 144 ≤ b.toNat) ∧
      (lead.toNat = 244 → b.toNat ≤ 143) := by
  have hlead (k : UInt8) : (lead == k) = decide (lead.toNat = k.toNat) := by
    rw [Bool.eq_iff_iff, beq_iff_eq, decide_eq_true_eq, UInt8.toNat_inj]
  simp only [secondFits, hlead, UInt8.le_iff_toNat_le, UInt8.reduceToNat, decide_eq_true_eq,
    Bool.and_eq_true, isContinuation_iff, Bool.ite_eq_true_distrib] at h
  grind

theorem toNat_val_ofNat (h : n < 55296 ∨ 57343 < n ∧ n < 1114112) :
    (Char.ofNat n).val.toNat = n := by
  have hvalid : n.isValidChar := h
  rw [Char.ofNat, dif_pos hvalid]
  rfl

theorem ofNat_eq (h : n = b.toNat) : UInt8.ofNat n = b := by
  rw [h, UInt8.ofNat_toNat]

end Read

section Write

variable {lead b c d : UInt8}

theorem encode_one (h : lead.toNat ≤ 127) :
    String.utf8EncodeChar (Char.ofNat lead.toNat) = [lead] := by
  have hval : (Char.ofNat lead.toNat).val.toNat = lead.toNat := toNat_val_ofNat (by omega)
  rw [String.utf8EncodeChar, hval, if_pos h, UInt8.ofNat_toNat]

theorem encode_two (hfirst : 194 ≤ lead.toNat) (hlast : lead.toNat ≤ 223)
    (hb : isContinuation b = true) :
    String.utf8EncodeChar (Char.ofNat (lead.toNat % 32 * 64 + payload b)) = [lead, b] := by
  have hb := isContinuation_iff.mp hb
  rw [payload]
  have hval := toNat_val_ofNat (n := lead.toNat % 32 * 64 + b.toNat % 64) (by omega)
  generalize hv : lead.toNat % 32 * 64 + b.toNat % 64 = v at hval
  have h₁ : ¬v ≤ 127 := by omega
  have h₂ : v ≤ 2047 := by omega
  rw [String.utf8EncodeChar, hval, if_neg h₁, if_pos h₂,
    ofNat_eq (b := lead) (by omega), ofNat_eq (b := b) (by omega)]

theorem encode_three (hfirst : 224 ≤ lead.toNat) (hlast : lead.toNat ≤ 239)
    (hb : secondFits lead b = true) (hc : isContinuation c = true) :
    String.utf8EncodeChar
        (Char.ofNat ((lead.toNat % 16 * 64 + payload b) * 64 + payload c)) = [lead, b, c] := by
  obtain ⟨hb, hb', hlong, hsurrogate, -, -⟩ := range_of_secondFits hb
  have hc := isContinuation_iff.mp hc
  rw [payload, payload]
  have hval := toNat_val_ofNat
    (n := (lead.toNat % 16 * 64 + b.toNat % 64) * 64 + c.toNat % 64) (by omega)
  generalize hv : (lead.toNat % 16 * 64 + b.toNat % 64) * 64 + c.toNat % 64 = v at hval
  have h₁ : ¬v ≤ 127 := by omega
  have h₂ : ¬v ≤ 2047 := by omega
  have h₃ : v ≤ 65535 := by omega
  rw [String.utf8EncodeChar, hval, if_neg h₁, if_neg h₂, if_pos h₃,
    ofNat_eq (b := lead) (by omega), ofNat_eq (b := b) (by omega), ofNat_eq (b := c) (by omega)]

theorem encode_four (hfirst : 240 ≤ lead.toNat) (hlast : lead.toNat ≤ 244)
    (hb : secondFits lead b = true) (hc : isContinuation c = true) (hd : isContinuation d = true) :
    String.utf8EncodeChar
        (Char.ofNat (((lead.toNat % 8 * 64 + payload b) * 64 + payload c) * 64 + payload d)) =
      [lead, b, c, d] := by
  obtain ⟨hb, hb', -, -, hlong, hpast⟩ := range_of_secondFits hb
  have hc := isContinuation_iff.mp hc
  have hd := isContinuation_iff.mp hd
  rw [payload, payload, payload]
  have hval := toNat_val_ofNat
    (n := ((lead.toNat % 8 * 64 + b.toNat % 64) * 64 + c.toNat % 64) * 64 + d.toNat % 64)
    (by omega)
  generalize hv :
    ((lead.toNat % 8 * 64 + b.toNat % 64) * 64 + c.toNat % 64) * 64 + d.toNat % 64 = v at hval
  have h₁ : ¬v ≤ 127 := by omega
  have h₂ : ¬v ≤ 2047 := by omega
  have h₃ : ¬v ≤ 65535 := by omega
  rw [String.utf8EncodeChar, hval, if_neg h₁, if_neg h₂, if_neg h₃,
    ofNat_eq (b := lead) (by omega), ofNat_eq (b := b) (by omega), ofNat_eq (b := c) (by omega),
    ofNat_eq (b := d) (by omega)]

end Write

/-- What is read as a character is that character, written in UTF-8. -/
theorem encode_of_decodeFirst {lead : UInt8} {rest : List UInt8} {x : Char} {used : Nat}
    (h : decodeFirst lead rest = (some x, used)) :
    lead :: rest = String.utf8EncodeChar x ++ rest.drop (used - 1) := by
  unfold decodeFirst at h
  split at h
  · rename_i hlength
    cases h
    have hlead := sequenceLength_eq_some hlength
    rw [encode_one (by omega)]
    rfl
  · rename_i hlength
    have hlead := sequenceLength_eq_some hlength
    split at h
    · rename_i hb
      cases h
      rw [encode_two (by omega) (by omega) hb]
      rfl
    · cases h
  · rename_i hlength
    have hlead := sequenceLength_eq_some hlength
    split at h
    · rename_i hb
      split at h
      · split at h
        · rename_i hc
          cases h
          rw [encode_three (by omega) (by omega) hb hc]
          rfl
        · cases h
      · cases h
    · cases h
  · rename_i hlength
    have hlead := sequenceLength_eq_some hlength
    split at h
    · rename_i hb
      split at h
      · split at h
        · rename_i hc
          split at h
          · rename_i hd
            cases h
            rw [encode_four (by omega) (by omega) hb hc hd]
            rfl
          · cases h
        · cases h
      · split at h <;> cases h
      · cases h
    · cases h
  · cases h

/-! ### Whole texts -/

theorem decodeRuns_flatMap (chars : List Char) :
    decodeRuns (chars.flatMap String.utf8EncodeChar) = chars.map some := by
  induction chars with
  | nil => rw [List.flatMap_nil, decodeRuns, List.map_nil]
  | cons x rest ih => rw [List.flatMap_cons, decodeRuns_encode_append, ih, List.map_cons]

theorem eq_flatMap_of_decodeRuns {bytes : List UInt8} {chars : List Char}
    (h : decodeRuns bytes = chars.map some) : bytes = chars.flatMap String.utf8EncodeChar := by
  induction chars generalizing bytes with
  | nil =>
    cases bytes with
    | nil => rfl
    | cons lead rest => simp [decodeRuns] at h
  | cons x chars ih =>
    cases bytes with
    | nil => simp [decodeRuns] at h
    | cons lead rest =>
      rw [decodeRuns] at h
      obtain ⟨hfirst, hrest⟩ := List.cons.inj h
      have hread : decodeFirst lead rest = (some x, (decodeFirst lead rest).2) :=
        Prod.ext hfirst rfl
      rw [List.flatMap_cons, ← ih hrest]
      exact encode_of_decodeFirst hread

/-- Runs of bytes that are all characters. -/
theorem mapM_id_eq_some_iff {runs : List (Option Char)} {chars : List Char} :
    runs.mapM id = some chars ↔ runs = chars.map some := by
  induction runs generalizing chars with
  | nil =>
    rw [List.mapM_nil, eq_comm (a := []), List.map_eq_nil_iff]
    exact ⟨fun h => (Option.some.inj h).symm, fun h => congrArg some h.symm⟩
  | cons run rest ih =>
    rw [List.mapM_cons]
    constructor
    · intro h
      obtain ⟨x, hrun, h⟩ := Option.bind_eq_some_iff.mp h
      obtain ⟨others, hothers, h⟩ := Option.bind_eq_some_iff.mp h
      cases h
      rw [List.map_cons, ← ih.mp hothers, ← hrun]
      rfl
    · intro h
      cases chars with
      | nil => cases h
      | cons x others =>
        obtain ⟨rfl, hrest⟩ := List.cons.inj h
        rw [ih.mpr hrest]
        rfl

/-- What was written in UTF-8 is read again. -/
theorem decode?_utf8Bytes (s : String) : decode? (utf8Bytes s) = some s := by
  rw [decode?, utf8Bytes_eq, mapM_id_eq_some_iff.mpr (decodeRuns_flatMap _), Option.map_some,
    String.ofList_toList]

/-- What is read in UTF-8 was written in it. -/
theorem decode?_eq_some_iff {bytes : List UInt8} {s : String} :
    decode? bytes = some s ↔ bytes = utf8Bytes s := by
  constructor
  · intro h
    obtain ⟨chars, hchars, rfl⟩ := Option.map_eq_some_iff.mp h
    rw [utf8Bytes_eq, String.toList_ofList]
    exact eq_flatMap_of_decodeRuns (mapM_id_eq_some_iff.mp hchars)
  · rintro rfl
    exact decode?_utf8Bytes s

/-- The bytes of a text without a newline are none of them a newline. -/
theorem newline_not_mem_utf8Bytes {s : String} (h : '\n' ∉ s.toList) : 10 ∉ utf8Bytes s := by
  intro hmem
  rw [utf8Bytes_eq, List.mem_flatMap] at hmem
  obtain ⟨x, hx, hbyte⟩ := hmem
  rw [eq_newline_of_mem_encode hbyte] at hx
  exact h hx

end Groundwork.Text
