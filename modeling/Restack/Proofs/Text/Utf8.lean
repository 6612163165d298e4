import Restack.Text.Utf8

/-!
# Texts and their octets

A text that is written as octets is read back as it was, and nothing of it is replaced. Each
character has its own octets back, whatever follows them, so that a text is read character by
character.
-/

namespace Restack.Text

/-- An octet in the expected range is the last one of its character. -/
theorem decodeUtf8From_within_last {low high number b : Nat} (hlow : low ≤ b) (hhigh : b ≤ high)
    (rest : List Nat) :
    decodeUtf8From (.within 1 low high number) (b :: rest) =
      Char.ofNat (number * 64 + b % 64) :: decodeUtf8From .between rest := by
  simp [decodeUtf8From, utf8Step, hlow, hhigh]

/-- An octet in the expected range brings six more bits of its character. -/
theorem decodeUtf8From_within_more {missing low high number b : Nat} (hlow : low ≤ b)
    (hhigh : b ≤ high) (rest : List Nat) :
    decodeUtf8From (.within (missing + 2) low high number) (b :: rest) =
      decodeUtf8From (.within (missing + 1) 0x80 0xBF (number * 64 + b % 64)) rest := by
  simp [decodeUtf8From, utf8Step, hlow, hhigh]

/-- An octet that announces others begins a character. -/
theorem decodeUtf8From_lead {b count low high : Nat} (hb : 0x80 ≤ b)
    (hshape : leadShape? b = some (count, low, high)) (rest : List Nat) :
    decodeUtf8From .between (b :: rest) =
      decodeUtf8From (.within count low high (leadBits b count)) rest := by
  have hlarge : ¬b < 0x80 := by omega
  simp [decodeUtf8From, utf8Step, utf8Lead, hlarge, hshape]

/-- The first octet of two announces one more, in its range. -/
theorem leadShape?_two {n : Nat} (hlow : 0x80 ≤ n) (hhigh : n < 0x800) :
    leadShape? (0xC0 + n / 64) = some (1, 0x80, 0xBF) := by
  have hrange : 0xC2 ≤ 0xC0 + n / 64 ∧ 0xC0 + n / 64 ≤ 0xDF := by omega
  simp [leadShape?, hrange]

/-- The first octet of three announces two more. The range of the next one holds what a number has
there that is neither written too long nor a surrogate. -/
theorem leadShape?_three {n : Nat} (hlow : 0x800 ≤ n) (hhigh : n < 0x10000)
    (hvalid : n < 0xD800 ∨ 0xDFFF < n) :
    ∃ low high, leadShape? (0xE0 + n / 4096) = some (2, low, high) ∧
      low ≤ 0x80 + n / 64 % 64 ∧ 0x80 + n / 64 % 64 ≤ high := by
  have hnot : ¬(0xC2 ≤ 0xE0 + n / 4096 ∧ 0xE0 + n / 4096 ≤ 0xDF) := by omega
  by_cases hlong : n / 4096 = 0
  · exact ⟨0xA0, 0xBF, by simp [leadShape?, hlong], by omega, by omega⟩
  by_cases hsurrogate : n / 4096 = 13
  · exact ⟨0x80, 0x9F, by simp [leadShape?, hsurrogate], by omega, by omega⟩
  have hne : 0xE0 + n / 4096 ≠ 0xED := by omega
  have hrange : 0xE1 ≤ 0xE0 + n / 4096 ∧ 0xE0 + n / 4096 ≤ 0xEF := by omega
  refine ⟨0x80, 0xBF, ?_, by omega, by omega⟩
  simp [leadShape?, hnot, hlong, hne, hrange]

/-- The first octet of four announces three more. The range of the next one holds what a number has
there that is neither written too long nor too large. -/
theorem leadShape?_four {n : Nat} (hlow : 0x10000 ≤ n) (hhigh : n < 0x110000) :
    ∃ low high, leadShape? (0xF0 + n / 262144) = some (3, low, high) ∧
      low ≤ 0x80 + n / 4096 % 64 ∧ 0x80 + n / 4096 % 64 ≤ high := by
  by_cases hlong : n / 262144 = 0
  · exact ⟨0x90, 0xBF, by simp [leadShape?, hlong], by omega, by omega⟩
  by_cases hlarge : n / 262144 = 4
  · exact ⟨0x80, 0x8F, by simp [leadShape?, hlarge], by omega, by omega⟩
  have hcases : n / 262144 = 1 ∨ n / 262144 = 2 ∨ n / 262144 = 3 := by omega
  refine ⟨0x80, 0xBF, ?_, by omega, by omega⟩
  rcases hcases with h | h | h <;> simp [leadShape?, h]

/-- A character is read back from its octets, and what follows them is read on its own. -/
theorem decodeUtf8From_encodeChar (c : Char) (rest : List Nat) :
    decodeUtf8From .between (encodeChar c ++ rest) = c :: decodeUtf8From .between rest := by
  have hvalid : c.toNat < 0xD800 ∨ 0xDFFF < c.toNat ∧ c.toNat < 0x110000 := c.valid
  -- It is enough that the number of the character is put together again.
  obtain ⟨n, hn⟩ : ∃ n, c.toNat = n := ⟨_, rfl⟩
  have hback : Char.ofNat n = c := hn ▸ Char.ofNat_toNat c
  rw [hn] at hvalid
  rw [encodeChar, hn, ← hback]
  by_cases hone : n < 0x80
  · simp [hone, decodeUtf8From, utf8Step, utf8Lead]
  by_cases htwo : n < 0x800
  · have hnumber : leadBits (0xC0 + n / 64) 1 * 64 + (0x80 + n % 64) % 64 = n := by
      simp only [leadBits]
      omega
    simp only [hone, htwo, if_false, if_true, List.cons_append, List.nil_append]
    rw [decodeUtf8From_lead (by omega) (leadShape?_two (by omega) htwo),
      decodeUtf8From_within_last (by omega) (by omega), hnumber]
  by_cases hthree : n < 0x10000
  · obtain ⟨low, high, hshape, hlow, hhigh⟩ :=
      leadShape?_three (by omega) hthree (hvalid.imp_right And.left)
    have hnumber : (leadBits (0xE0 + n / 4096) 2 * 64 + (0x80 + n / 64 % 64) % 64) * 64 +
        (0x80 + n % 64) % 64 = n := by
      simp only [leadBits]
      omega
    simp only [hone, htwo, hthree, if_false, if_true, List.cons_append, List.nil_append]
    rw [decodeUtf8From_lead (by omega) hshape, decodeUtf8From_within_more hlow hhigh,
      decodeUtf8From_within_last (by omega) (by omega), hnumber]
  · obtain ⟨low, high, hshape, hlow, hhigh⟩ := leadShape?_four (n := n) (by omega) (by omega)
    have hnumber : ((leadBits (0xF0 + n / 262144) 3 * 64 + (0x80 + n / 4096 % 64) % 64) * 64 +
        (0x80 + n / 64 % 64) % 64) * 64 + (0x80 + n % 64) % 64 = n := by
      simp only [leadBits]
      omega
    simp only [hone, htwo, hthree, if_false, List.cons_append, List.nil_append]
    rw [decodeUtf8From_lead (by omega) hshape, decodeUtf8From_within_more hlow hhigh,
      decodeUtf8From_within_more (by omega) (by omega),
      decodeUtf8From_within_last (by omega) (by omega), hnumber]

/-- A text is read back from its octets. -/
theorem decodeUtf8_encodeUtf8 (s : List Char) : decodeUtf8 (encodeUtf8 s) = s := by
  unfold decodeUtf8
  induction s with
  | nil => rfl
  | cons c rest ih =>
    rw [encodeUtf8, List.flatMap_cons, decodeUtf8From_encodeChar]
    exact congrArg (c :: ·) ih

/-- The octets of a character are octets. -/
theorem lt_of_mem_encodeChar {c : Char} {b : Nat} (hb : b ∈ encodeChar c) : b < 256 := by
  have hvalid : c.toNat < 0xD800 ∨ 0xDFFF < c.toNat ∧ c.toNat < 0x110000 := c.valid
  simp only [encodeChar] at hb
  repeat' split at hb
  all_goals
    simp only [List.mem_cons, List.not_mem_nil, or_false] at hb
    omega

/-- The octets of a character are those that strings are kept in. -/
theorem map_encodeChar (c : Char) : (encodeChar c).map UInt8.ofNat = String.utf8EncodeChar c := by
  have hvalid : c.toNat < 0xD800 ∨ 0xDFFF < c.toNat ∧ c.toNat < 0x110000 := c.valid
  obtain ⟨n, hn⟩ : ∃ n, c.toNat = n := ⟨_, rfl⟩
  have hval : c.val.toNat = n := hn
  rw [hn] at hvalid
  simp only [encodeChar, String.utf8EncodeChar, hn, hval]
  by_cases hone : n < 0x80
  · have hone' : n ≤ 0x7F := by omega
    simp [hone, hone']
  by_cases htwo : n < 0x800
  · have hlead : n / 64 % 0x20 + 0xC0 = 0xC0 + n / 64 := by omega
    have hbounds : ¬n ≤ 0x7F ∧ n ≤ 0x7FF := by omega
    simp only [hone, htwo, hbounds, hlead, if_false, if_true, List.map_cons, List.map_nil,
      Nat.add_comm]
  by_cases hthree : n < 0x10000
  · have hlead : n / 4096 % 0x10 + 0xE0 = 0xE0 + n / 4096 := by omega
    have hbounds : ¬n ≤ 0x7F ∧ ¬n ≤ 0x7FF ∧ n ≤ 0xFFFF := by omega
    simp only [hone, htwo, hthree, hbounds, hlead, if_false, if_true, List.map_cons, List.map_nil,
      Nat.add_comm]
  · have hlead : n / 262144 % 0x08 + 0xF0 = 0xF0 + n / 262144 := by omega
    have hbounds : ¬n ≤ 0x7F ∧ ¬n ≤ 0x7FF ∧ ¬n ≤ 0xFFFF := by omega
    simp only [hone, htwo, hthree, hbounds, hlead, if_false, List.map_cons, List.map_nil,
      Nat.add_comm]

/-- The octets of a text are those that strings are kept in. -/
theorem octetsOfText_eq_toByteArray (s : String) : octetsOfText s = s.toByteArray := by
  rw [← String.utf8Encode_toList, List.utf8Encode, octetsOfText, encodeUtf8, List.map_flatMap]
  simp only [map_encodeChar]
  exact ByteArray.ext List.data_toByteArray.symm

/-- The text of a file is the text that the file was written with. -/
theorem textOfOctets_octetsOfText (s : String) : textOfOctets (octetsOfText s) = s := by
  have hoctets : ((encodeUtf8 s.toList).map UInt8.ofNat).map UInt8.toNat = encodeUtf8 s.toList := by
    rw [List.map_map]
    refine (List.map_congr_left fun b hb => ?_).trans (List.map_id _)
    obtain ⟨c, -, hb⟩ := List.mem_flatMap.mp hb
    exact UInt8.toNat_ofNat_of_lt' (lt_of_mem_encodeChar hb)
  unfold textOfOctets octetsOfText
  rw [List.toList_toArray, hoctets, decodeUtf8_encodeUtf8, String.ofList_toList]

end Restack.Text
