import ParserHost.Text.Utf8

/-!
# Bytes of a text

A text comes back from its bytes, whatever it holds, by each of the decoders (`decode_encode`,
`decodeReplacing_encode`): the bytes of a character are read as that character, and nothing of what
follows them (`piece_encodeChar`).
-/

namespace ParserHost.Text.Utf8

variable {c : Char} {n : Nat}

theorem toNat_byte (small : n < 256) : (UInt8.ofNat n).toNat = n := by
  rw [UInt8.toNat_ofNat']
  omega

theorem isTail_byte (low : 0x80 ≤ n) (high : n < 0xc0) : isTail (UInt8.ofNat n) = true := by
  rw [isTail, toNat_byte (by omega), Bool.and_eq_true, decide_eq_true_eq, decide_eq_true_eq]
  exact ⟨low, high⟩

/-- A second byte is a tail, and after four of the first bytes not any. -/
theorem isSecond_byte {first : Nat} (small : first < 256) (low : 0x80 ≤ n) (high : n < 0xc0)
    (overlong : first = 0xe0 → 0xa0 ≤ n) (surrogate : first = 0xed → n < 0xa0)
    (overlong' : first = 0xf0 → 0x90 ≤ n) (beyond : first = 0xf4 → n < 0x90) :
    isSecond (UInt8.ofNat first) (UInt8.ofNat n) = true := by
  have tail := isTail_byte low high
  unfold isSecond
  rw [toNat_byte small, toNat_byte (by omega)]
  dsimp only
  split
  case h_5 => exact tail
  all_goals
    rw [Bool.and_eq_true, decide_eq_true_eq, decide_eq_true_eq]
    omega

theorem piece_two {first b : UInt8} (two : width first = 2) (tail : isTail b = true) (rest : Bytes) :
    piece first (b :: rest) = .char (bits first 32 [b]) := by
  unfold piece
  rw [two]
  exact if_pos tail

theorem piece_three {first b b' : UInt8} (three : width first = 3) (second : isSecond first b = true)
    (tail : isTail b' = true) (rest : Bytes) :
    piece first (b :: b' :: rest) = .char (bits first 16 [b, b']) := by
  unfold piece
  rw [three]
  exact (if_neg (by simp [second])).trans (if_pos tail)

theorem piece_four {first b b' b'' : UInt8} (four : width first = 4)
    (second : isSecond first b = true) (tail : isTail b' = true) (tail' : isTail b'' = true)
    (rest : Bytes) : piece first (b :: b' :: b'' :: rest) = .char (bits first 8 [b, b', b'']) := by
  unfold piece
  rw [four]
  exact (if_neg (by simp [second])).trans ((if_neg (by simp [tail])).trans (if_pos tail'))

structure Encodes (bytes : Bytes) (c : Char) : Prop where
  read : ∃ first tail, bytes = first :: tail ∧ width first = tail.length + 1 ∧
    ∀ rest, piece first (tail ++ rest) = .char c

theorem encodes_one (small : c.toNat < 0x80) : Encodes (encodeChar c) c := by
  have one : width (UInt8.ofNat c.toNat) = 1 := by
    rw [width, toNat_byte (by omega), if_pos small]
  refine ⟨_, _, by rw [encodeChar, if_pos small], one, fun rest => ?_⟩
  unfold piece
  rw [one, toNat_byte (by omega), Char.ofNat_toNat]
  rfl

theorem encodes_two (low : 0x80 ≤ c.toNat) (high : c.toNat < 0x800) : Encodes (encodeChar c) c := by
  have written : encodeChar c =
      [UInt8.ofNat (0xc0 + c.toNat / 64), UInt8.ofNat (0x80 + c.toNat % 64)] := by
    rw [encodeChar, if_neg (by omega), if_pos high]
    simp only [Nat.pow_eq, Nat.pow_zero, Nat.div_one]
  have two : width (UInt8.ofNat (0xc0 + c.toNat / 64)) = 2 := by
    rw [width, toNat_byte (by omega), if_neg (by omega), if_neg (by omega), if_pos (by omega)]
  have number : (0xc0 + c.toNat / 64) % 32 * 64 + (0x80 + c.toNat % 64) % 64 = c.toNat := by omega
  refine ⟨_, _, written, two, fun rest => ?_⟩
  rw [List.cons_append, piece_two two (isTail_byte (by omega) (by omega)), bits, List.foldl_cons, List.foldl_nil,
    toNat_byte (by omega), toNat_byte (by omega), number, Char.ofNat_toNat]

theorem encodes_three (low : 0x800 ≤ c.toNat) (high : c.toNat < 0x10000) :
    Encodes (encodeChar c) c := by
  have written : encodeChar c = [UInt8.ofNat (0xe0 + c.toNat / 4096),
      UInt8.ofNat (0x80 + c.toNat / 64 % 64), UInt8.ofNat (0x80 + c.toNat % 64)] := by
    rw [encodeChar, if_neg (by omega), if_neg (by omega), if_pos high]
    simp only [Nat.pow_eq, Nat.pow_zero, Nat.pow_one, Nat.div_one]
  have three : width (UInt8.ofNat (0xe0 + c.toNat / 4096)) = 3 := by
    rw [width, toNat_byte (by omega), if_neg (by omega), if_neg (by omega), if_neg (by omega),
      if_pos (by omega)]
  have whole : c.toNat < 0xd800 ∨ 0xdfff < c.toNat := c.valid.imp_right And.left
  have number : ((0xe0 + c.toNat / 4096) % 16 * 64 + (0x80 + c.toNat / 64 % 64) % 64) * 64 +
      (0x80 + c.toNat % 64) % 64 = c.toNat := by omega
  have second : isSecond (UInt8.ofNat (0xe0 + c.toNat / 4096))
      (UInt8.ofNat (0x80 + c.toNat / 64 % 64)) = true :=
    isSecond_byte (by omega) (by omega) (by omega) (by omega) (by omega) (by omega) (by omega)
  refine ⟨_, _, written, three, fun rest => ?_⟩
  have tail := isTail_byte (n := 0x80 + c.toNat % 64) (by omega) (by omega)
  rw [List.cons_append, List.cons_append, piece_three three second tail, bits, List.foldl_cons, List.foldl_cons,
    List.foldl_nil, toNat_byte (by omega), toNat_byte (by omega), toNat_byte (by omega), number,
    Char.ofNat_toNat]

theorem encodes_four (low : 0x10000 ≤ c.toNat) : Encodes (encodeChar c) c := by
  have written : encodeChar c = [UInt8.ofNat (0xf0 + c.toNat / 262144),
      UInt8.ofNat (0x80 + c.toNat / 4096 % 64), UInt8.ofNat (0x80 + c.toNat / 64 % 64),
      UInt8.ofNat (0x80 + c.toNat % 64)] := by
    rw [encodeChar, if_neg (by omega), if_neg (by omega), if_neg (by omega)]
    simp only [Nat.pow_eq, Nat.pow_zero, Nat.pow_one, Nat.div_one, Nat.reducePow]
  have whole : c.toNat < 0x110000 := by
    rcases c.valid with below | between
    · exact Nat.lt_trans below (by decide)
    · exact between.2
  have four : width (UInt8.ofNat (0xf0 + c.toNat / 262144)) = 4 := by
    rw [width, toNat_byte (by omega), if_neg (by omega), if_neg (by omega), if_neg (by omega),
      if_neg (by omega), if_pos (by omega)]
  have number : (((0xf0 + c.toNat / 262144) % 8 * 64 + (0x80 + c.toNat / 4096 % 64) % 64) * 64 +
      (0x80 + c.toNat / 64 % 64) % 64) * 64 + (0x80 + c.toNat % 64) % 64 = c.toNat := by omega
  have second : isSecond (UInt8.ofNat (0xf0 + c.toNat / 262144))
      (UInt8.ofNat (0x80 + c.toNat / 4096 % 64)) = true :=
    isSecond_byte (by omega) (by omega) (by omega) (by omega) (by omega) (by omega) (by omega)
  refine ⟨_, _, written, four, fun rest => ?_⟩
  have tail := isTail_byte (n := 0x80 + c.toNat / 64 % 64) (by omega) (by omega)
  have tail' := isTail_byte (n := 0x80 + c.toNat % 64) (by omega) (by omega)
  rw [List.cons_append, List.cons_append, List.cons_append, piece_four four second tail tail', bits,
    List.foldl_cons, List.foldl_cons, List.foldl_cons, List.foldl_nil, toNat_byte (by omega),
    toNat_byte (by omega), toNat_byte (by omega), toNat_byte (by omega), number, Char.ofNat_toNat]

theorem encodes (c : Char) : Encodes (encodeChar c) c := by
  by_cases one : c.toNat < 0x80
  · exact encodes_one one
  by_cases two : c.toNat < 0x800
  · exact encodes_two (by omega) two
  by_cases three : c.toNat < 0x10000
  · exact encodes_three (by omega) three
  · exact encodes_four (by omega)

theorem scan_encodeChar (c : Char) (rest : Bytes) :
    scan (encodeChar c ++ rest) = .char c :: scan rest := by
  obtain ⟨first, tail, bytes, size, read⟩ := (encodes c).read
  rw [bytes, List.cons_append, scan, read]
  dsimp only [Piece.size]
  rw [size, Nat.add_sub_cancel, List.drop_left]

theorem scan_encode (s : String) : scan (encode s) = s.toList.map .char := by
  rw [encode]
  induction s.toList with
  | nil => rw [List.flatMap_nil, scan, List.map_nil]
  | cons c rest ih => rw [List.flatMap_cons, scan_encodeChar, ih, List.map_cons]

theorem decodeFrom_map_char (at' : Nat) (cs acc : List Char) :
    decodeFrom at' (cs.map .char) acc = .ok (String.ofList (acc.reverse ++ cs)) := by
  induction cs generalizing at' acc with
  | nil => rw [List.map_nil, decodeFrom, List.append_nil]
  | cons c rest ih =>
    rw [List.map_cons, decodeFrom, ih, List.reverse_cons, List.append_assoc, List.singleton_append]

theorem decode_encode (s : String) : decode (encode s) = .ok s := by
  rw [decode, scan_encode, decodeFrom_map_char, List.reverse_nil, List.nil_append, String.ofList_toList]

theorem decodeReplacing_encode (s : String) : decodeReplacing (encode s) = s := by
  rw [decodeReplacing, scan_encode, List.map_map]
  exact (congrArg String.ofList (List.map_id s.toList)).trans String.ofList_toList

/-- A text has no unpaired surrogates, so all of its code points have bytes. -/
theorem encodeCodes_toNat (s : String) : encodeCodes (s.toList.map Char.toNat) = .ok (encode s) := by
  have valid : (s.toList.map Char.toNat).findIdx? (fun n => !decide n.isValidChar) = none := by
    simp only [List.findIdx?_eq_none_iff, List.forall_mem_map, Bool.not_eq_false', decide_eq_true_eq]
    exact fun c _ => c.valid
  rw [encodeCodes, valid]
  dsimp only
  rw [List.flatMap_map, encode]
  simp only [Char.ofNat_toNat]

end ParserHost.Text.Utf8
