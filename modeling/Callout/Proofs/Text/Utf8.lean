import Callout.Text.Utf8
import Mathlib.Tactic.SplitIfs

namespace Callout.Text

theorem toList_byteArray (bytes : ByteArray) : bytes.toList = bytes.data.toList := by
  suffices general : ∀ i seen, ByteArray.toList.loop bytes i seen =
      seen.reverse ++ bytes.data.toList.drop i by
    have all := general 0 []
    rwa [List.reverse_nil, List.nil_append, List.drop_zero] at all
  intro i seen
  induction i, seen using ByteArray.toList.loop.induct bytes with
  | case1 i seen more ih =>
    have here : i < bytes.data.size := more
    have byte : bytes.get! i = bytes.data.toList[i] := by
      show bytes.data[i]! = _
      rw [getElem!_pos bytes.data i here, Array.getElem_toList]
    have tail : bytes.data.toList.drop i = bytes.data.toList[i] :: bytes.data.toList.drop (i + 1) :=
      List.drop_eq_getElem_cons here
    rw [ByteArray.toList.loop, if_pos more, ih, byte, List.reverse_cons, List.append_assoc, tail,
      List.singleton_append]
  | case2 i seen done =>
    have ended : bytes.data.toList.length ≤ i := Nat.le_of_not_lt done
    rw [ByteArray.toList.loop, if_neg done, List.drop_eq_nil_of_le ended, List.append_nil]

theorem toList_toUTF8 (s : String) : s.toUTF8.toList = s.toList.flatMap String.utf8EncodeChar := by
  have bytes : s.toByteArray = s.toList.utf8Encode := by
    rw [← String.toByteArray_ofList, String.ofList_toList]
  rw [toList_byteArray, String.toUTF8_eq_toByteArray, bytes]
  exact List.toList_data_toByteArray

theorem toNat_byte {n : Nat} (small : n < 256) : (UInt8.ofNat n).toNat = n :=
  UInt8.toNat_ofNat_of_lt small

variable {p : PartialChar} {n k : Nat}

theorem piecesFrom_lead (large : 0x80 ≤ n) (small : n < 256)
    (lead : PartialChar.ofLead? n = some p) (bytes : List UInt8) :
    utf8PiecesFrom none (UInt8.ofNat n :: bytes) = utf8PiecesFrom (some p) bytes := by
  simp only [utf8PiecesFrom, firstByte, toNat_byte small, if_neg (Nat.not_lt.mpr large), lead,
    List.nil_append]

theorem piecesFrom_more (k : Nat) (range : p.lo ≤ k % 64 + 128 ∧ k % 64 + 128 ≤ p.hi)
    (more : p.missing ≠ 1) (bytes : List UInt8) :
    utf8PiecesFrom (some p) (UInt8.ofNat (k % 64 + 128) :: bytes) =
      utf8PiecesFrom (some ⟨p.code * 64 + k % 64, p.length + 1, p.missing - 1, 0x80, 0xBF⟩)
        bytes := by
  have byte := toNat_byte (show k % 64 + 128 < 256 by omega)
  simp only [utf8PiecesFrom, PartialChar.next, byte, if_pos range, if_neg more, List.nil_append,
    Nat.add_sub_cancel]

theorem piecesFrom_last (k : Nat) (range : p.lo ≤ k % 64 + 128 ∧ k % 64 + 128 ≤ p.hi)
    (last : p.missing = 1) (bytes : List UInt8) :
    utf8PiecesFrom (some p) (UInt8.ofNat (k % 64 + 128) :: bytes) =
      .char (Char.ofNat (p.code * 64 + k % 64)) :: utf8PiecesFrom none bytes := by
  have byte := toNat_byte (show k % 64 + 128 < 256 by omega)
  simp only [utf8PiecesFrom, PartialChar.next, byte, if_pos range, if_pos last,
    List.singleton_append, Nat.add_sub_cancel]

theorem ofLead?_two (least : 0x80 ≤ n) (most : n ≤ 0x7FF) :
    PartialChar.ofLead? (n / 64 % 32 + 192) = some ⟨n / 64, 1, 1, 0x80, 0xBF⟩ := by
  unfold PartialChar.ofLead?
  rw [if_pos (by omega), show n / 64 % 32 + 192 - 0xC0 = n / 64 by omega]

theorem ofLead?_three (least : 0x800 ≤ n) (most : n ≤ 0xFFFF) (valid : n < 0xD800 ∨ 0xDFFF < n) :
    ∃ lo hi, PartialChar.ofLead? (n / 4096 % 16 + 224) = some ⟨n / 4096, 1, 2, lo, hi⟩ ∧
      lo ≤ n / 64 % 64 + 128 ∧ n / 64 % 64 + 128 ≤ hi := by
  unfold PartialChar.ofLead?
  split_ifs
  all_goals try omega
  · exact ⟨0xA0, 0xBF, by rw [show n / 4096 = 0 by omega], by omega⟩
  · exact ⟨0x80, 0x9F, by rw [show n / 4096 = 0xD by omega], by omega⟩
  · exact ⟨0x80, 0xBF, by rw [show n / 4096 % 16 + 224 - 0xE0 = n / 4096 by omega], by omega⟩

theorem ofLead?_four (least : 0x10000 ≤ n) (most : n ≤ 0x10FFFF) :
    ∃ lo hi, PartialChar.ofLead? (n / 262144 % 8 + 240) = some ⟨n / 262144, 1, 3, lo, hi⟩ ∧
      lo ≤ n / 4096 % 64 + 128 ∧ n / 4096 % 64 + 128 ≤ hi := by
  unfold PartialChar.ofLead?
  split_ifs
  all_goals try omega
  · exact ⟨0x90, 0xBF, by rw [show n / 262144 = 0 by omega], by omega⟩
  · exact ⟨0x80, 0xBF, by rw [show n / 262144 % 8 + 240 - 0xF0 = n / 262144 by omega], by omega⟩
  · exact ⟨0x80, 0x8F, by rw [show n / 262144 = 4 by omega], by omega⟩

theorem piecesFrom_encodeChar (c : Char) (bytes : List UInt8) :
    utf8PiecesFrom none (String.utf8EncodeChar c ++ bytes) =
      .char c :: utf8PiecesFrom none bytes := by
  have valid : c.toNat < 0xD800 ∨ 0xDFFF < c.toNat ∧ c.toNat < 0x110000 := c.valid
  have whole : Char.ofNat c.toNat = c := Char.ofNat_toNat c
  unfold String.utf8EncodeChar
  rw [show c.val.toNat = c.toNat from rfl]
  generalize c.toNat = n at valid whole
  have range (k : Nat) : 0x80 ≤ k % 64 + 128 ∧ k % 64 + 128 ≤ 0xBF := by omega
  -- The cases are the numbers of bytes, one to four.
  simp only
  split_ifs with one two three
  · have byte := toNat_byte (show n < 256 by omega)
    simp only [List.singleton_append, utf8PiecesFrom, firstByte, byte,
      if_pos (Nat.lt_succ_of_le one), whole]
  · have lead := ofLead?_two (show 0x80 ≤ n by omega) two
    have code : n / 64 * 64 + n % 64 = n := by omega
    calc utf8PiecesFrom none _
      _ = utf8PiecesFrom (some ⟨n / 64, 1, 1, 0x80, 0xBF⟩) _ :=
        piecesFrom_lead (by omega) (by omega) lead _
      _ = .char (Char.ofNat (n / 64 * 64 + n % 64)) :: _ := piecesFrom_last n (range n) rfl _
      _ = .char c :: utf8PiecesFrom none bytes := by
        rw [code, whole]
        rfl
  · obtain ⟨lo, hi, lead, second⟩ := ofLead?_three (n := n) (by omega) three (by omega)
    have code : (n / 4096 * 64 + n / 64 % 64) * 64 + n % 64 = n := by omega
    calc utf8PiecesFrom none _
      _ = utf8PiecesFrom (some ⟨n / 4096, 1, 2, lo, hi⟩) _ :=
        piecesFrom_lead (by omega) (by omega) lead _
      _ = utf8PiecesFrom (some ⟨n / 4096 * 64 + n / 64 % 64, 2, 1, 0x80, 0xBF⟩) _ :=
        piecesFrom_more (n / 64) second (by simp) _
      _ = .char (Char.ofNat ((n / 4096 * 64 + n / 64 % 64) * 64 + n % 64)) :: _ :=
        piecesFrom_last n (range n) rfl _
      _ = .char c :: utf8PiecesFrom none bytes := by
        rw [code, whole]
        rfl
  · obtain ⟨lo, hi, lead, second⟩ := ofLead?_four (n := n) (by omega) (by omega)
    have code : ((n / 262144 * 64 + n / 4096 % 64) * 64 + n / 64 % 64) * 64 + n % 64 = n := by
      omega
    calc utf8PiecesFrom none _
      _ = utf8PiecesFrom (some ⟨n / 262144, 1, 3, lo, hi⟩) _ :=
        piecesFrom_lead (by omega) (by omega) lead _
      _ = utf8PiecesFrom (some ⟨n / 262144 * 64 + n / 4096 % 64, 2, 2, 0x80, 0xBF⟩) _ :=
        piecesFrom_more (n / 4096) second (by simp) _
      _ = utf8PiecesFrom (some ⟨(n / 262144 * 64 + n / 4096 % 64) * 64 + n / 64 % 64, 3, 1, 0x80,
          0xBF⟩) _ := piecesFrom_more (n / 64) (range _) (by simp) _
      _ = .char (Char.ofNat (((n / 262144 * 64 + n / 4096 % 64) * 64 + n / 64 % 64) * 64
          + n % 64)) :: _ := piecesFrom_last n (range n) rfl _
      _ = .char c :: utf8PiecesFrom none bytes := by
        rw [code, whole]
        rfl

theorem utf8Pieces_encode (cs : List Char) :
    utf8Pieces (cs.flatMap String.utf8EncodeChar) = cs.map .char := by
  unfold utf8Pieces
  induction cs with
  | nil => rfl
  | cons c cs ih => rw [List.flatMap_cons, piecesFrom_encodeChar, ih, List.map_cons]

theorem charsOfPieces_chars (offset : Nat) (cs : List Char) :
    charsOfPieces offset (cs.map .char) = .ok cs := by
  induction cs generalizing offset with
  | nil => rfl
  | cons c cs ih =>
    rw [List.map_cons, charsOfPieces, ih]
    rfl

theorem decode_toUTF8 (s : String) : decode s.toUTF8.toList = .ok s := by
  rw [decode, toList_toUTF8, utf8Pieces_encode, charsOfPieces_chars]
  exact congrArg Except.ok String.ofList_toList

end Callout.Text
