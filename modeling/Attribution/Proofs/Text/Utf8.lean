import Attribution.Text.Utf8

/-!
The bytes of a text are read back as the text: every character is read from its own bytes, whatever
follows them.
-/

namespace Attribution.Text.Utf8

variable {b : UInt8} {rest : List UInt8}

theorem piecesFrom_char {c : Char} (h : start b = .char c) :
    piecesFrom none (b :: rest) = .char c :: piecesFrom none rest := by
  rw [piecesFrom, h]

theorem piecesFrom_pending {p : Pending} (h : start b = .pending p) :
    piecesFrom none (b :: rest) = piecesFrom (some p) rest := by
  rw [piecesFrom, h]

/-- A byte that goes on with a sequence of which more than one byte is owed. -/
theorem piecesFrom_more {p : Pending} (fits : p.accepts b) (more : 1 < p.owed) :
    piecesFrom (some p) (b :: rest) = piecesFrom (some (p.extend b)) rest := by
  rw [piecesFrom, if_pos fits, if_neg (by omega)]

/-- The last byte of a sequence. -/
theorem piecesFrom_last {p : Pending} (fits : p.accepts b) (last : p.owed ≤ 1) :
    piecesFrom (some p) (b :: rest) =
      .char (Char.ofNat (p.extend b).code) :: piecesFrom none rest := by
  rw [piecesFrom, if_pos fits, if_pos last]

theorem toNat_ofNat_of_lt {n : Nat} (h : n < 256) : (UInt8.ofNat n).toNat = n := by
  rw [UInt8.toNat_ofNat', Nat.mod_eq_of_lt h]

theorem toNat_tailByte (n : Nat) : (tailByte n).toNat = 0x80 + n % 64 :=
  toNat_ofNat_of_lt (by omega)

theorem accepts_tailByte {p : Pending} {n : Nat} (low : p.low ≤ 0x80 + n % 64)
    (high : 0x80 + n % 64 ≤ p.high) : p.accepts (tailByte n) := by
  simp only [Pending.accepts, toNat_tailByte, Bool.and_eq_true, decide_eq_true_eq]
  exact ⟨low, high⟩

theorem extend_tailByte (p : Pending) (n : Nat) :
    p.extend (tailByte n) =
      ⟨p.code * 64 + n % 64, p.lead, p.seen + 1, p.owed - 1, 0x80, 0xbf⟩ := by
  have bits : (tailByte n).toNat - 0x80 = n % 64 := by
    have whole := toNat_tailByte n
    omega
  unfold Pending.extend
  rw [bits]

/-- The last byte of a sequence whose bits are those of a character. -/
theorem piecesFrom_tailByte {p : Pending} {c : Char} (low : p.low ≤ 0x80 + c.toNat % 64)
    (high : 0x80 + c.toNat % 64 ≤ p.high) (owed : p.owed = 1) (code : p.code = c.toNat / 64) :
    piecesFrom (some p) (tailByte c.toNat :: rest) = .char c :: piecesFrom none rest := by
  have whole : (p.extend (tailByte c.toNat)).code = c.toNat := by
    rw [extend_tailByte]
    dsimp only
    omega
  rw [piecesFrom_last (accepts_tailByte low high) (by omega), whole, Char.ofNat_toNat]

/-- No character is half of a pair of surrogates, and none is past the last plane. -/
theorem toNat_range (c : Char) : c.toNat < 0xd800 ∨ (0xdfff < c.toNat ∧ c.toNat < 0x110000) :=
  c.valid

section Lead

variable {n : Nat}

theorem start_one (fits : n < 0x80) : start (UInt8.ofNat n) = .char (Char.ofNat n) := by
  simp only [start, toNat_ofNat_of_lt (show n < 256 by omega), if_pos fits]

theorem start_two (low : 0x80 ≤ n) (high : n < 0x800) :
    start (UInt8.ofNat (0xc0 + n / 64)) =
      .pending ⟨n / 64, UInt8.ofNat (0xc0 + n / 64), 1, 1, 0x80, 0xbf⟩ := by
  simp only [start, toNat_ofNat_of_lt (show 0xc0 + n / 64 < 256 by omega)]
  rw [if_neg (by omega), if_neg (by omega), if_pos (by omega), Nat.add_sub_cancel_left]

theorem start_three (high : n < 0x10000) :
    start (UInt8.ofNat (0xe0 + n / 4096)) =
      .pending ⟨n / 4096, UInt8.ofNat (0xe0 + n / 4096), 1, 2,
        if 0xe0 + n / 4096 = 0xe0 then 0xa0 else 0x80,
        if 0xe0 + n / 4096 = 0xed then 0x9f else 0xbf⟩ := by
  simp only [start, toNat_ofNat_of_lt (show 0xe0 + n / 4096 < 256 by omega)]
  rw [if_neg (by omega), if_neg (by omega), if_neg (by omega), if_pos (by omega),
    Nat.add_sub_cancel_left]

theorem start_four (high : n < 0x110000) :
    start (UInt8.ofNat (0xf0 + n / 262144)) =
      .pending ⟨n / 262144, UInt8.ofNat (0xf0 + n / 262144), 1, 3,
        if 0xf0 + n / 262144 = 0xf0 then 0x90 else 0x80,
        if 0xf0 + n / 262144 = 0xf4 then 0x8f else 0xbf⟩ := by
  simp only [start, toNat_ofNat_of_lt (show 0xf0 + n / 262144 < 256 by omega)]
  rw [if_neg (by omega), if_neg (by omega), if_neg (by omega), if_neg (by omega),
    if_pos (by omega), Nat.add_sub_cancel_left]

end Lead

theorem pieces_encodeChar (c : Char) (rest : List UInt8) :
    piecesFrom none (encodeChar c ++ rest) = .char c :: piecesFrom none rest := by
  have range := toNat_range c
  unfold encodeChar
  dsimp only
  by_cases one : c.toNat < 0x80
  · rw [if_pos one]
    exact piecesFrom_char ((start_one one).trans (by rw [Char.ofNat_toNat]))
  rw [if_neg one]
  by_cases two : c.toNat < 0x800
  · rw [if_pos two]
    refine (piecesFrom_pending (start_two (by omega) two)).trans ?_
    exact piecesFrom_tailByte (by dsimp only; omega) (by dsimp only; omega) rfl rfl
  rw [if_neg two]
  by_cases three : c.toNat < 0x10000
  · rw [if_pos three]
    refine (piecesFrom_pending (start_three three)).trans ?_
    -- The second byte is bounded where the first one allows too short a sequence or a surrogate.
    refine (piecesFrom_more (accepts_tailByte ?_ ?_) Nat.one_lt_two).trans ?_
    · dsimp only; split <;> omega
    · dsimp only; split <;> omega
    rw [extend_tailByte]
    exact piecesFrom_tailByte (by dsimp only; omega) (by dsimp only; omega) rfl
      (by dsimp only; omega)
  rw [if_neg three]
  refine (piecesFrom_pending (start_four (by omega))).trans ?_
  refine (piecesFrom_more (accepts_tailByte ?_ ?_) (Nat.lt_add_of_pos_right Nat.two_pos)).trans ?_
  · dsimp only; split <;> omega
  · dsimp only; split <;> omega
  rw [extend_tailByte]
  refine (piecesFrom_more (accepts_tailByte ?_ ?_) Nat.one_lt_two).trans ?_
  · dsimp only; omega
  · dsimp only; omega
  rw [extend_tailByte]
  exact piecesFrom_tailByte (by dsimp only; omega) (by dsimp only; omega) rfl
    (by dsimp only; omega)

theorem pieces_encode (s : List Char) : pieces (encode s) = s.map .char := by
  induction s with
  | nil => rfl
  | cons c s ih =>
      rw [pieces, encode, List.flatMap_cons, pieces_encodeChar, List.map_cons]
      exact congrArg _ ih

theorem decodeLossy_encode (s : List Char) : decodeLossy (encode s) = s := by
  rw [decodeLossy, pieces_encode, List.map_map]
  exact List.map_id s

theorem strictFrom_chars (position : Nat) (s : List Char) :
    strictFrom position (s.map .char) = .ok s := by
  induction s generalizing position with
  | nil => rfl
  | cons c s ih => rw [List.map_cons, strictFrom, ih]; rfl

theorem decode_encode (s : List Char) : decode (encode s) = .ok s := by
  rw [decode, pieces_encode, strictFrom_chars]

end Attribution.Text.Utf8
