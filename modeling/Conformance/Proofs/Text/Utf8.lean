import Conformance.Text.Utf8

/-!
# Encoded text is decoded again

A character is encoded by one to four bytes: the bits of its number in groups of six, behind a first
byte that tells how many there are. The bytes of a character are read as this character
(`foldl_encoded`), so bytes that encode a text are decoded to it, with nothing replaced
(`decodeLossyChars_encode`).
-/
namespace Conformance.Text

/-! ## The bytes of a text -/

theorem toList_loop (bytes : ByteArray) (i : Nat) (read : List UInt8) :
    ByteArray.toList.loop bytes i read = read.reverse ++ bytes.data.toList.drop i := by
  induction i, read using ByteArray.toList.loop.induct bytes with
  | case1 i read hi ih =>
    have hi' : i < bytes.data.toList.length := hi
    have hget : bytes.get! i = bytes.data.toList[i] := by
      simp [ByteArray.get!, hi]
    rw [ByteArray.toList.loop, if_pos hi, ih, List.drop_eq_getElem_cons hi', hget]
    simp
  | case2 i read hi =>
    have hi' : bytes.data.toList.length ≤ i := Nat.le_of_not_lt hi
    rw [ByteArray.toList.loop, if_neg hi, List.drop_of_length_le hi', List.append_nil]

theorem encode_eq (s : String) : encode s = s.toList.flatMap String.utf8EncodeChar := by
  have hbytes : s.toByteArray = s.toList.utf8Encode := by
    rw [← String.toByteArray_ofList, String.ofList_toList]
  rw [encode, String.toUTF8_eq_toByteArray, hbytes, ByteArray.toList, toList_loop, List.utf8Encode,
    List.toList_data_toByteArray]
  rfl

/-! ## Reading the bytes of a character -/

theorem toNat_ofNat {n : Nat} (h : n < 256) : (UInt8.ofNat n).toNat = n := by
  rw [UInt8.toNat_ofNat']
  exact Nat.mod_eq_of_lt h

section

variable {pieces : List (Option Char)} {n : Nat}

/-- A byte that is a character of its own. -/
theorem step_one (hn : n < 0x80) :
    Decoding.step { pieces } (UInt8.ofNat n) = { pieces := some (Char.ofNat n) :: pieces } := by
  rw [Decoding.step, Decoding.start, toNat_ofNat (by omega), begin?, if_pos hn]

/-- A byte that begins a longer sequence. -/
theorem step_begin {p : Pending} (hn : n < 256) (h : begin? n = some (.inr p)) :
    Decoding.step { pieces } (UInt8.ofNat n) = { pieces, pending := some p } := by
  rw [Decoding.step, Decoding.start, toNat_ofNat hn, h]

/-- A byte that goes on with a sequence. -/
theorem step_further {p : Pending} (hn : n < 64) (hlow : p.low ≤ n + 0x80)
    (hhigh : n + 0x80 ≤ p.high) (howed : p.owed ≠ 1) :
    Decoding.step { pieces, pending := some p } (UInt8.ofNat (n + 0x80)) =
      { pieces, pending := some { bits := p.bits * 64 + n, owed := p.owed - 1 } } := by
  rw [Decoding.step]
  simp only [toNat_ofNat (show n + 0x80 < 256 by omega), if_pos (And.intro hlow hhigh),
    if_neg howed, Nat.add_sub_cancel]

/-- The byte that ends a sequence. -/
theorem step_last {p : Pending} (hn : n < 64) (hlow : p.low ≤ n + 0x80)
    (hhigh : n + 0x80 ≤ p.high) (howed : p.owed = 1) :
    Decoding.step { pieces, pending := some p } (UInt8.ofNat (n + 0x80)) =
      { pieces := some (Char.ofNat (p.bits * 64 + n)) :: pieces } := by
  rw [Decoding.step]
  simp only [toNat_ofNat (show n + 0x80 < 256 by omega), if_pos (And.intro hlow hhigh),
    if_pos howed, Nat.add_sub_cancel]

end

theorem begin?_two {n : Nat} (h : n < 32) (hlow : 2 ≤ n) :
    begin? (n + 0xC0) = some (.inr { bits := n, owed := 1 }) := by
  rw [begin?, if_neg (by omega), if_neg (by omega), if_pos (by omega), Nat.add_sub_cancel]

theorem begin?_three {n : Nat} (h : n < 16) :
    begin? (n + 0xE0) =
      some (.inr { bits := n, owed := 2, low := if n = 0 then 0xA0 else 0x80
                   high := if n = 13 then 0x9F else 0xBF }) := by
  rw [begin?, if_neg (by omega), if_neg (by omega), if_neg (by omega), if_pos (by omega),
    Nat.add_sub_cancel]
  simp

theorem begin?_four {n : Nat} (h : n < 5) :
    begin? (n + 0xF0) =
      some (.inr { bits := n, owed := 3, low := if n = 0 then 0x90 else 0x80
                   high := if n = 4 then 0x8F else 0xBF }) := by
  rw [begin?, if_neg (by omega), if_neg (by omega), if_neg (by omega), if_neg (by omega),
    if_pos (by omega), Nat.add_sub_cancel]
  simp

/-- The bytes of a character are read as this character. -/
theorem foldl_encoded (pieces : List (Option Char)) (c : Char) :
    (String.utf8EncodeChar c).foldl Decoding.step { pieces } = { pieces := some c :: pieces } := by
  have hc : Char.ofNat c.val.toNat = c := Char.ofNat_toNat c
  have hvalid : c.val.toNat < 0xD800 ∨ 0xDFFF < c.val.toNat ∧ c.val.toNat < 0x110000 := c.valid
  unfold String.utf8EncodeChar
  generalize c.val.toNat = v at hc hvalid
  dsimp only
  split
  · rw [List.foldl_cons, List.foldl_nil, step_one (by omega), hc]
  split
  · have hv : v / 64 % 32 * 64 + v % 64 = v := by omega
    rw [List.foldl_cons, List.foldl_cons, List.foldl_nil,
      step_begin (by omega) (begin?_two (by omega) (by omega)),
      step_last (by omega) (by simp) (by simp; omega) rfl, hv, hc]
  split
  · have hv : (v / 4096 % 16 * 64 + v / 64 % 64) * 64 + v % 64 = v := by omega
    rw [List.foldl_cons, List.foldl_cons, List.foldl_cons, List.foldl_nil,
      step_begin (by omega) (begin?_three (by omega)),
      step_further (by omega) (by dsimp only; split <;> omega)
        (by dsimp only; split <;> omega) (by simp),
      step_last (by omega) (by simp) (by simp; omega) rfl, hv, hc]
  · have hv : ((v / 262144 % 8 * 64 + v / 4096 % 64) * 64 + v / 64 % 64) * 64 + v % 64 = v := by
      omega
    rw [List.foldl_cons, List.foldl_cons, List.foldl_cons, List.foldl_cons, List.foldl_nil,
      step_begin (by omega) (begin?_four (by omega)),
      step_further (by omega) (by dsimp only; split <;> omega)
        (by dsimp only; split <;> omega) (by simp),
      step_further (by omega) (by simp) (by simp; omega) (by simp),
      step_last (by omega) (by simp) (by simp; omega) rfl, hv, hc]

theorem decodePieces_encode (s : String) : decodePieces (encode s) = s.toList.map some := by
  have hfold (pieces : List (Option Char)) (cs : List Char) :
      (cs.flatMap String.utf8EncodeChar).foldl Decoding.step { pieces } =
        { pieces := (cs.map some).reverse ++ pieces } := by
    induction cs generalizing pieces with
    | nil => rfl
    | cons c cs ih =>
      rw [List.flatMap_cons, List.foldl_append, foldl_encoded, ih]
      simp
  rw [decodePieces, encode_eq, hfold]
  simp [Decoding.finish]

/-- Encoded text is read without a replacement. -/
theorem decodeLossyChars_encode (s : String) : decodeLossyChars (encode s) = s.toList := by
  rw [decodeLossyChars, decodePieces_encode, List.map_map]
  exact List.map_id _

theorem decodeLossy_encode (s : String) : decodeLossy (encode s) = s := by
  rw [decodeLossy, decodeLossyChars_encode, String.ofList_toList]

end Conformance.Text
