import Reckoner.Text.Utf8

namespace Reckoner.Text.Utf8

variable {code more low high good position result n : Nat}
  {bytes rest : List UInt8} {byte : UInt8} {start : Lead} {c : Char} {text : List Char}

-- A start byte whose continuation bytes are there stands for one character.
theorem decodeFrom_cons (hlead : lead? byte.toNat = some start)
    (hmore : continuations start.payload start.more start.low start.high 0 rest = .ok code) :
    decodeFrom position (byte :: rest) =
      (decodeFrom (position + start.more + 1) (rest.drop start.more)).map (Char.ofNat code :: ·) := by
  rw [decodeFrom]
  simp only [hlead, hmore]

theorem continuations_succ_iff :
    continuations code (more + 1) low high good bytes = .ok result ↔
      ∃ byte rest, bytes = byte :: rest ∧ (low ≤ byte.toNat ∧ byte.toNat ≤ high) ∧
        continuations (code * 64 + (byte.toNat - 0x80)) more 0x80 0xBF (good + 1) rest =
          .ok result := by
  cases bytes with
  | nil => simp [continuations]
  | cons byte rest =>
      rw [continuations]
      by_cases hbyte : low ≤ byte.toNat ∧ byte.toNat ≤ high
      · rw [if_pos (by simpa using hbyte)]
        constructor
        · exact fun h => ⟨byte, rest, rfl, hbyte, h⟩
        · rintro ⟨_, _, heq, -, h⟩
          cases heq
          exact h
      · rw [if_neg (by simpa using hbyte)]
        constructor
        · intro h
          cases h
        · rintro ⟨_, _, heq, hother, -⟩
          cases heq
          exact absurd hother hbyte

-- The start bytes by the number of continuation bytes that follow them.
inductive Opens (n : Nat) : Lead → Prop
  | one : n < 0x80 → Opens n ⟨n, 0, 0, 0⟩
  | two : 0xC2 ≤ n → n < 0xE0 → Opens n ⟨n - 0xC0, 1, 0x80, 0xBF⟩
  | three : 0xE0 ≤ n → n < 0xF0 → Opens n
      ⟨n - 0xE0, 2, if n = 0xE0 then 0xA0 else 0x80, if n = 0xED then 0x9F else 0xBF⟩
  | four : 0xF0 ≤ n → n < 0xF5 → Opens n
      ⟨n - 0xF0, 3, if n = 0xF0 then 0x90 else 0x80, if n = 0xF4 then 0x8F else 0xBF⟩

theorem lead?_eq_some_iff : lead? n = some start ↔ Opens n start := by
  unfold lead?
  constructor
  · intro h
    split at h
    · rename_i hone
      cases h
      exact .one hone
    split at h
    · cases h
    split at h
    · rw [← Option.some.inj h]
      exact .two (by omega) (by omega)
    split at h
    · rw [← Option.some.inj h]
      exact .three (by omega) (by omega)
    split at h
    · rw [← Option.some.inj h]
      exact .four (by omega) (by omega)
    · cases h
  · intro h
    cases h with
    | one hlt => rw [if_pos hlt]
    | two hle hlt => rw [if_neg (by omega), if_neg (by omega), if_pos hlt]
    | three hle hlt =>
        rw [if_neg (by omega), if_neg (by omega), if_neg (by omega), if_pos hlt]
    | four hle hlt =>
        rw [if_neg (by omega), if_neg (by omega), if_neg (by omega), if_neg (by omega), if_pos hlt]

theorem ofNat_eq (byte : UInt8) (h : n = byte.toNat) : UInt8.ofNat n = byte := by
  rw [h, UInt8.ofNat_toNat]

theorem exists_char (n : Nat) (hn : n < 0xD800 ∨ 0xDFFF < n ∧ n < 0x110000) :
    ∃ c : Char, Char.ofNat n = c ∧ c.toNat = n := by
  refine ⟨_, rfl, ?_⟩
  rw [Char.ofNat, dif_pos hn]
  rfl

-- What a start byte and the continuation bytes behind it stand for is the character
-- that these bytes spell.
theorem exists_encode_of_continuations (hstart : Opens byte.toNat start)
    (hmore : continuations start.payload start.more start.low start.high 0 rest = .ok code) :
    ∃ c more later, Char.ofNat code = c ∧ String.utf8EncodeChar c = byte :: more ∧
      rest = more ++ later ∧ more.length = start.more := by
  cases hstart with
  | one hlt =>
      obtain rfl : byte.toNat = code := Except.ok.inj hmore
      obtain ⟨c, hc, hcode⟩ := exists_char byte.toNat (by omega)
      have hval : c.val.toNat = byte.toNat := hcode
      refine ⟨c, [], rest, hc, ?_, rfl, rfl⟩
      simp only [String.utf8EncodeChar, hval]
      rw [if_pos (by omega), UInt8.ofNat_toNat]
  | two hle hlt =>
      obtain ⟨second, later, rfl, hsecond, hend⟩ := continuations_succ_iff.mp hmore
      obtain rfl := Except.ok.inj hend
      dsimp only at hsecond
      obtain ⟨c, hc, hcode⟩ := exists_char
        ((byte.toNat - 0xC0) * 64 + (second.toNat - 0x80)) (by omega)
      have hval : c.val.toNat = (byte.toNat - 0xC0) * 64 + (second.toNat - 0x80) := hcode
      refine ⟨c, [second], later, hc, ?_, rfl, rfl⟩
      simp only [String.utf8EncodeChar]
      rw [if_neg (by omega), if_pos (by omega), ofNat_eq byte (by omega), ofNat_eq second (by omega)]
  | three hle hlt =>
      obtain ⟨second, rest, rfl, hsecond, hmore⟩ := continuations_succ_iff.mp hmore
      obtain ⟨third, later, rfl, hthird, hend⟩ := continuations_succ_iff.mp hmore
      obtain rfl := Except.ok.inj hend
      dsimp only at hsecond
      have hrange : 0x80 ≤ second.toNat ∧ second.toNat ≤ 0xBF ∧
          (byte.toNat = 0xE0 → 0xA0 ≤ second.toNat) ∧ (byte.toNat = 0xED → second.toNat ≤ 0x9F) := by
        split at hsecond <;> split at hsecond <;> omega
      obtain ⟨c, hc, hcode⟩ := exists_char
        (((byte.toNat - 0xE0) * 64 + (second.toNat - 0x80)) * 64 + (third.toNat - 0x80))
        (by omega)
      have hval : c.val.toNat = ((byte.toNat - 0xE0) * 64 + (second.toNat - 0x80)) * 64 +
        (third.toNat - 0x80) := hcode
      refine ⟨c, [second, third], later, hc, ?_, rfl, rfl⟩
      simp only [String.utf8EncodeChar]
      rw [if_neg (by omega), if_neg (by omega), if_pos (by omega), ofNat_eq byte (by omega),
        ofNat_eq second (by omega), ofNat_eq third (by omega)]
  | four hle hlt =>
      obtain ⟨second, rest, rfl, hsecond, hmore⟩ := continuations_succ_iff.mp hmore
      obtain ⟨third, rest, rfl, hthird, hmore⟩ := continuations_succ_iff.mp hmore
      obtain ⟨fourth, later, rfl, hfourth, hend⟩ := continuations_succ_iff.mp hmore
      obtain rfl := Except.ok.inj hend
      dsimp only at hsecond
      have hrange : 0x80 ≤ second.toNat ∧ second.toNat ≤ 0xBF ∧
          (byte.toNat = 0xF0 → 0x90 ≤ second.toNat) ∧ (byte.toNat = 0xF4 → second.toNat ≤ 0x8F) := by
        split at hsecond <;> split at hsecond <;> omega
      obtain ⟨c, hc, hcode⟩ := exists_char
        ((((byte.toNat - 0xF0) * 64 + (second.toNat - 0x80)) * 64 +
          (third.toNat - 0x80)) * 64 + (fourth.toNat - 0x80)) (by omega)
      have hval : c.val.toNat = (((byte.toNat - 0xF0) * 64 + (second.toNat - 0x80)) * 64 +
        (third.toNat - 0x80)) * 64 + (fourth.toNat - 0x80) := hcode
      refine ⟨c, [second, third, fourth], later, hc, ?_, rfl, rfl⟩
      simp only [String.utf8EncodeChar]
      rw [if_neg (by omega), if_neg (by omega), if_neg (by omega), ofNat_eq byte (by omega),
        ofNat_eq second (by omega), ofNat_eq third (by omega), ofNat_eq fourth (by omega)]

theorem decodeFrom_spelled {more : List UInt8} (hstart : Opens byte.toNat start)
    (hlength : more.length = start.more)
    (hmore : continuations start.payload start.more start.low start.high 0 (more ++ rest) =
      .ok c.toNat) (position : Nat) :
    decodeFrom position (byte :: more ++ rest) =
      (decodeFrom (position + start.more + 1) rest).map (c :: ·) := by
  rw [List.cons_append, decodeFrom_cons (lead?_eq_some_iff.mpr hstart) hmore, ← hlength,
    List.drop_left, Char.ofNat_toNat]

theorem toNat_ofNat_of_lt (h : n < 256) : (UInt8.ofNat n).toNat = n := by
  rw [UInt8.toNat_ofNat']
  exact Nat.mod_eq_of_lt h

-- The bytes that spell a character are read as this character.
theorem decodeFrom_encode_cons (c : Char) (rest : List UInt8) (position : Nat) :
    ∃ place, decodeFrom position (String.utf8EncodeChar c ++ rest) =
      (decodeFrom place rest).map (c :: ·) := by
  have hvalid : c.val.toNat < 0xD800 ∨ 0xDFFF < c.val.toNat ∧ c.val.toNat < 0x110000 := c.valid
  have hcode : c.toNat = c.val.toNat := rfl
  simp only [String.utf8EncodeChar]
  generalize c.val.toNat = n at hvalid hcode ⊢
  split
  · have hbyte := toNat_ofNat_of_lt (n := n) (by omega)
    refine ⟨_, decodeFrom_spelled (.one (by omega)) rfl ?_ position⟩
    rw [continuations, hbyte, hcode]
  split
  · have hbyte := toNat_ofNat_of_lt (n := n / 64 % 32 + 192) (by omega)
    have hlast := toNat_ofNat_of_lt (n := n % 64 + 128) (by omega)
    refine ⟨_, decodeFrom_spelled (.two (by omega) (by omega)) rfl ?_ position⟩
    refine continuations_succ_iff.mpr ⟨_, rest, rfl, by dsimp only; omega, ?_⟩
    rw [continuations, hbyte, hlast, hcode]
    dsimp only
    exact congrArg Except.ok (by omega)
  split
  · have hbyte := toNat_ofNat_of_lt (n := n / 4096 % 16 + 224) (by omega)
    have hsecond := toNat_ofNat_of_lt (n := n / 64 % 64 + 128) (by omega)
    have hlast := toNat_ofNat_of_lt (n := n % 64 + 128) (by omega)
    refine ⟨_, decodeFrom_spelled (.three (by omega) (by omega)) rfl ?_ position⟩
    refine continuations_succ_iff.mpr ⟨_, _, rfl, ?_, ?_⟩
    · dsimp only
      split <;> split <;> omega
    refine continuations_succ_iff.mpr ⟨_, rest, rfl, by omega, ?_⟩
    rw [continuations, hbyte, hsecond, hlast, hcode]
    dsimp only
    exact congrArg Except.ok (by omega)
  · have hbyte := toNat_ofNat_of_lt (n := n / 262144 % 8 + 240) (by omega)
    have hsecond := toNat_ofNat_of_lt (n := n / 4096 % 64 + 128) (by omega)
    have hthird := toNat_ofNat_of_lt (n := n / 64 % 64 + 128) (by omega)
    have hlast := toNat_ofNat_of_lt (n := n % 64 + 128) (by omega)
    refine ⟨_, decodeFrom_spelled (.four (by omega) (by omega)) rfl ?_ position⟩
    refine continuations_succ_iff.mpr ⟨_, _, rfl, ?_, ?_⟩
    · dsimp only
      split <;> split <;> omega
    refine continuations_succ_iff.mpr ⟨_, _, rfl, by omega, ?_⟩
    refine continuations_succ_iff.mpr ⟨_, rest, rfl, by omega, ?_⟩
    rw [continuations, hbyte, hsecond, hthird, hlast, hcode]
    dsimp only
    exact congrArg Except.ok (by omega)

theorem decodeFrom_encode (text : List Char) (position : Nat) :
    decodeFrom position (encode text) = .ok text := by
  induction text generalizing position with
  | nil => rw [encode, List.flatMap_nil, decodeFrom]
  | cons c rest ih =>
      obtain ⟨place, hcons⟩ := decodeFrom_encode_cons c (encode rest) position
      rw [encode, List.flatMap_cons, ← encode, hcons, ih]
      rfl

theorem encode_of_decodeFrom (h : decodeFrom position bytes = .ok text) : bytes = encode text := by
  fun_induction decodeFrom position bytes generalizing text with
  | case1 =>
      cases h
      rfl
  | case2 => cases h
  | case3 => cases h
  | case4 position byte rest start hlead code hmore ih =>
      obtain ⟨c, more, later, hc, hencode, rfl, hlength⟩ :=
        exists_encode_of_continuations (lead?_eq_some_iff.mp hlead) hmore
      rw [← hlength, List.drop_left] at h ih
      cases hlater : decodeFrom (position + more.length + 1) later with
      | error fault => simp [hlater, Except.map] at h
      | ok others =>
          rw [hlater] at h
          obtain rfl := Except.ok.inj h
          rw [encode, List.flatMap_cons, hc, hencode, ← encode, ← ih hlater]
          rfl

-- A text is read from the bytes that spell it, and from no others.
theorem decode_eq_ok_iff : decode bytes = .ok text ↔ bytes = encode text := by
  constructor
  · exact encode_of_decodeFrom
  · rintro rfl
    exact decodeFrom_encode text 0

end Reckoner.Text.Utf8
