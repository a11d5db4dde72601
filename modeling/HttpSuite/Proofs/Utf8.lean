import HttpSuite.Proofs.Parsing
import HttpSuite.Text.Utf8

/-!
# UTF-8

Bytes are decoded as a text exactly if they are the encoding of the text (`decodeUtf8_eq_ok_iff`), so
decoding fails exactly for bytes that encode no text.

* **sequences** — `Sequence` lists the byte sequences that stand for one character. The ranges of the
  byte behind a start byte leave out overlong forms, surrogates and what is above U+10FFFF;
* **decoder** — it reads exactly these sequences (`sequence_of_read`, `read_of_sequence`);
* **encoder** — they are exactly the encodings of characters (`encode_of_sequence`,
  `sequence_encode`).

Along a list of bytes this makes decoding and encoding inverse (`encode_of_decodeFrom`,
`decodeFrom_encode`).
-/

namespace HttpSuite.Text

open Grammar

/-! ## Bytes of a text -/

/-- The bytes of an array from a place on, behind those collected in front of it. -/
theorem byteArray_loop_eq (bytes : ByteArray) {left i : Nat} (size : bytes.size = i + left)
    (front : List UInt8) :
    ByteArray.toList.loop bytes i front = front.reverse ++ bytes.data.toList.drop i := by
  have length : bytes.data.toList.length = bytes.size := rfl
  induction left generalizing i front with
  | zero =>
    rw [ByteArray.toList.loop, if_neg (by omega), List.drop_eq_nil_of_le (by omega), List.append_nil]
  | succ left ih =>
    have inside : i < bytes.data.toList.length := by omega
    have byte : bytes.get! i = bytes.data.toList[i] := getElem!_pos bytes.data i inside
    rw [ByteArray.toList.loop, if_pos (by omega), ih (by omega), List.drop_eq_getElem_cons inside,
      byte, List.reverse_cons, List.append_assoc, List.singleton_append]

theorem encodeUtf8_eq (text : String) :
    encodeUtf8 text = text.toList.flatMap String.utf8EncodeChar := by
  have bytes : text.toByteArray = text.toList.utf8Encode := by
    rw [← String.toByteArray_ofList, String.ofList_toList]
  rw [encodeUtf8, String.toUTF8, bytes, ByteArray.toList,
    byteArray_loop_eq _ (Nat.zero_add _).symm, List.reverse_nil, List.nil_append, List.drop_zero,
    List.utf8Encode, List.toList_data_toByteArray]

/-! ## Start bytes and continuation bytes -/

theorem startByte?_eq (b : UInt8) :
    startByte? b =
      if b.toNat < 0x80 then some (0, b.toNat, 0x80, 0xbf)
      else if b.toNat < 0xc2 then none
      else if b.toNat < 0xe0 then some (1, b.toNat % 0x20, 0x80, 0xbf)
      else if b.toNat < 0xf0 then
        some (2, b.toNat % 0x10, if b.toNat = 0xe0 then 0xa0 else 0x80,
          if b.toNat = 0xed then 0x9f else 0xbf)
      else if b.toNat < 0xf5 then
        some (3, b.toNat % 0x08, if b.toNat = 0xf0 then 0x90 else 0x80,
          if b.toNat = 0xf4 then 0x8f else 0xbf)
      else none := by
  simp [startByte?, UInt8.lt_iff_toNat_lt, ← UInt8.toNat_inj]

theorem continuation_cons_iff {value count result : Nat} {low high b : UInt8} {rest : List UInt8} :
    continuation value low high (count + 1) (b :: rest) = .ok result ↔
      (low.toNat ≤ b.toNat ∧ b.toNat ≤ high.toNat) ∧
        continuation (value * 0x40 + b.toNat % 0x40) 0x80 0xbf count rest = .ok result := by
  have range : (low ≤ b && b ≤ high) = true ↔ low.toNat ≤ b.toNat ∧ b.toNat ≤ high.toNat := by
    simp [UInt8.le_iff_toNat_le]
  rw [continuation]
  by_cases within : low.toNat ≤ b.toNat ∧ b.toNat ≤ high.toNat
  · rw [if_pos (range.2 within)]
    cases continuation (value * 0x40 + b.toNat % 0x40) 0x80 0xbf count rest <;>
      simp [Except.mapError, within]
  · rw [if_neg (range.not.2 within)]
    simp [within]

theorem exists_cons_of_continuation {value count result : Nat} {low high : UInt8}
    {bytes : List UInt8} (h : continuation value low high (count + 1) bytes = .ok result) :
    ∃ b rest, bytes = b :: rest ∧ (low.toNat ≤ b.toNat ∧ b.toNat ≤ high.toNat) ∧
      continuation (value * 0x40 + b.toNat % 0x40) 0x80 0xbf count rest = .ok result := by
  cases bytes with
  | nil => cases h
  | cons b rest => exact ⟨b, rest, rfl, continuation_cons_iff.1 h⟩

/-! ## Sequences -/

/-- A byte that can go on with a sequence. -/
def Tail (b : UInt8) : Prop :=
  0x80 ≤ b.toNat ∧ b.toNat ≤ 0xbf

/-- The sequences of bytes for one character, with its value. -/
inductive Sequence : List UInt8 → Nat → Prop
  | one {a : UInt8} : a.toNat < 0x80 → Sequence [a] a.toNat
  | two {a b : UInt8} : 0xc2 ≤ a.toNat → a.toNat < 0xe0 → Tail b →
      Sequence [a, b] (a.toNat % 0x20 * 0x40 + b.toNat % 0x40)
  | three {a b c : UInt8} : 0xe0 ≤ a.toNat → a.toNat < 0xf0 → Tail b →
      (a.toNat = 0xe0 → 0xa0 ≤ b.toNat) → (a.toNat = 0xed → b.toNat ≤ 0x9f) → Tail c →
      Sequence [a, b, c] ((a.toNat % 0x10 * 0x40 + b.toNat % 0x40) * 0x40 + c.toNat % 0x40)
  | four {a b c d : UInt8} : 0xf0 ≤ a.toNat → a.toNat < 0xf5 → Tail b →
      (a.toNat = 0xf0 → 0x90 ≤ b.toNat) → (a.toNat = 0xf4 → b.toNat ≤ 0x8f) → Tail c → Tail d →
      Sequence [a, b, c, d]
        (((a.toNat % 0x08 * 0x40 + b.toNat % 0x40) * 0x40 + c.toNat % 0x40) * 0x40 + d.toNat % 0x40)

/-! ## The decoder -/

/-- What is read as a character is a sequence for it. -/
theorem sequence_of_read {a : UInt8} {rest : List UInt8} {count payload value : Nat}
    {low high : UInt8} (start : startByte? a = some (count, payload, low, high))
    (read : continuation payload low high count rest = .ok value) :
    Sequence (a :: rest.take count) value := by
  rw [startByte?_eq] at start
  by_cases one : a.toNat < 0x80
  · rw [if_pos one] at start
    simp only [Option.some.injEq, Prod.mk.injEq] at start
    obtain ⟨rfl, rfl, -, -⟩ := start
    obtain rfl := Except.ok.inj read
    exact .one one
  rw [if_neg one] at start
  by_cases bad : a.toNat < 0xc2
  · rw [if_pos bad] at start
    cases start
  rw [if_neg bad] at start
  by_cases two : a.toNat < 0xe0
  · rw [if_pos two] at start
    simp only [Option.some.injEq, Prod.mk.injEq] at start
    obtain ⟨rfl, rfl, rfl, rfl⟩ := start
    obtain ⟨b, rest, rfl, tail, read⟩ := exists_cons_of_continuation read
    obtain rfl := Except.ok.inj read
    exact .two (by omega) two tail
  rw [if_neg two] at start
  by_cases three : a.toNat < 0xf0
  · rw [if_pos three] at start
    simp only [Option.some.injEq, Prod.mk.injEq] at start
    obtain ⟨rfl, rfl, rfl, rfl⟩ := start
    obtain ⟨b, rest, rfl, ⟨least, most⟩, read⟩ := exists_cons_of_continuation read
    obtain ⟨c, rest, rfl, tail, read⟩ := exists_cons_of_continuation read
    obtain rfl := Except.ok.inj read
    rw [apply_ite UInt8.toNat] at least most
    simp only [UInt8.reduceToNat] at least most
    have overlong : 0x80 ≤ b.toNat ∧ (a.toNat = 0xe0 → 0xa0 ≤ b.toNat) := by
      split at least <;> omega
    have surrogate : b.toNat ≤ 0xbf ∧ (a.toNat = 0xed → b.toNat ≤ 0x9f) := by
      split at most <;> omega
    exact .three (by omega) three ⟨overlong.1, surrogate.1⟩ overlong.2 surrogate.2 tail
  rw [if_neg three] at start
  by_cases four : a.toNat < 0xf5
  · rw [if_pos four] at start
    simp only [Option.some.injEq, Prod.mk.injEq] at start
    obtain ⟨rfl, rfl, rfl, rfl⟩ := start
    obtain ⟨b, rest, rfl, ⟨least, most⟩, read⟩ := exists_cons_of_continuation read
    obtain ⟨c, rest, rfl, tail, read⟩ := exists_cons_of_continuation read
    obtain ⟨d, rest, rfl, tail', read⟩ := exists_cons_of_continuation read
    obtain rfl := Except.ok.inj read
    rw [apply_ite UInt8.toNat] at least most
    simp only [UInt8.reduceToNat] at least most
    have overlong : 0x80 ≤ b.toNat ∧ (a.toNat = 0xf0 → 0x90 ≤ b.toNat) := by
      split at least <;> omega
    have beyond : b.toNat ≤ 0xbf ∧ (a.toNat = 0xf4 → b.toNat ≤ 0x8f) := by
      split at most <;> omega
    exact .four (by omega) four ⟨overlong.1, beyond.1⟩ overlong.2 beyond.2 tail tail'
  · rw [if_neg four] at start
    cases start

/-- A sequence is read as its character, whatever follows. -/
theorem read_of_sequence {a : UInt8} {tail : List UInt8} {value : Nat}
    (h : Sequence (a :: tail) value) (rest : List UInt8) :
    ∃ payload low high, startByte? a = some (tail.length, payload, low, high) ∧
      continuation payload low high tail.length (tail ++ rest) = .ok value := by
  rw [startByte?_eq]
  cases h with
  | one small =>
    rw [if_pos small]
    exact ⟨_, _, _, rfl, rfl⟩
  | @two _ b least most tail =>
    rw [if_neg (by omega), if_neg (by omega), if_pos most]
    exact ⟨_, _, _, rfl, continuation_cons_iff.2 ⟨tail, rfl⟩⟩
  | @three _ b c least most tail overlong surrogate tail' =>
    rw [if_neg (by omega), if_neg (by omega), if_neg (by omega), if_pos most]
    refine ⟨_, _, _, rfl, continuation_cons_iff.2 ⟨?_, continuation_cons_iff.2 ⟨tail', rfl⟩⟩⟩
    obtain ⟨least', most'⟩ := tail
    constructor
    · split <;> simp only [UInt8.reduceToNat] <;> omega
    · split <;> simp only [UInt8.reduceToNat] <;> omega
  | @four _ b c d least most tail overlong beyond tail' tail'' =>
    rw [if_neg (by omega), if_neg (by omega), if_neg (by omega), if_neg (by omega), if_pos most]
    refine ⟨_, _, _, rfl, continuation_cons_iff.2 ⟨?_, continuation_cons_iff.2
      ⟨tail', continuation_cons_iff.2 ⟨tail'', rfl⟩⟩⟩⟩
    obtain ⟨least', most'⟩ := tail
    constructor
    · split <;> simp only [UInt8.reduceToNat] <;> omega
    · split <;> simp only [UInt8.reduceToNat] <;> omega

/-! ## The encoder -/

/-- The bytes of a character, by their number. -/
theorem utf8EncodeChar_eq (c : Char) :
    String.utf8EncodeChar c =
      if c.toNat ≤ 0x7f then [.ofNat c.toNat]
      else if c.toNat ≤ 0x7ff then [.ofNat (c.toNat / 64 % 32 + 192), .ofNat (c.toNat % 64 + 128)]
      else if c.toNat ≤ 0xffff then
        [.ofNat (c.toNat / 4096 % 16 + 224), .ofNat (c.toNat / 64 % 64 + 128),
          .ofNat (c.toNat % 64 + 128)]
      else
        [.ofNat (c.toNat / 262144 % 8 + 240), .ofNat (c.toNat / 4096 % 64 + 128),
          .ofNat (c.toNat / 64 % 64 + 128), .ofNat (c.toNat % 64 + 128)] := rfl

theorem ofNat_eq_of_toNat {n : Nat} {b : UInt8} (h : n = b.toNat) : UInt8.ofNat n = b := by
  rw [h, UInt8.ofNat_toNat]

/-- A sequence stands for a value that is the value of a character. -/
theorem Sequence.toNat_ofNat {bytes : List UInt8} {value : Nat} (h : Sequence bytes value) :
    (Char.ofNat value).toNat = value := by
  have valid : value < 0xd800 ∨ 0xdfff < value ∧ value < 0x110000 := by
    cases h with
    | one => omega
    | two _ _ tail => unfold Tail at tail; omega
    | three _ _ tail _ _ tail' => unfold Tail at tail tail'; omega
    | four _ _ tail _ _ tail' tail'' => unfold Tail at tail tail' tail''; omega
  have isValid : value.isValidChar := valid
  rw [Char.ofNat, dif_pos isValid]
  rfl

/-- A sequence is the encoding of its character. -/
theorem encode_of_sequence {bytes : List UInt8} {value : Nat} (h : Sequence bytes value) :
    String.utf8EncodeChar (Char.ofNat value) = bytes := by
  rw [utf8EncodeChar_eq, h.toNat_ofNat]
  cases h with
  | one small => rw [if_pos (by omega), UInt8.ofNat_toNat]
  | @two a b least most tail =>
    unfold Tail at tail
    rw [if_neg (by omega), if_pos (by omega), @ofNat_eq_of_toNat _ a (by omega),
      @ofNat_eq_of_toNat _ b (by omega)]
  | @three a b c least most tail overlong surrogate tail' =>
    unfold Tail at tail tail'
    rw [if_neg (by omega), if_neg (by omega), if_pos (by omega), @ofNat_eq_of_toNat _ a (by omega),
      @ofNat_eq_of_toNat _ b (by omega), @ofNat_eq_of_toNat _ c (by omega)]
  | @four a b c d least most tail overlong beyond tail' tail'' =>
    unfold Tail at tail tail' tail''
    rw [if_neg (by omega), if_neg (by omega), if_neg (by omega), @ofNat_eq_of_toNat _ a (by omega),
      @ofNat_eq_of_toNat _ b (by omega), @ofNat_eq_of_toNat _ c (by omega),
      @ofNat_eq_of_toNat _ d (by omega)]

theorem toNat_ofNat_of_lt {n : Nat} (h : n < 256) : (UInt8.ofNat n).toNat = n := by
  rw [UInt8.toNat_ofNat']
  exact Nat.mod_eq_of_lt h

/-- The encoding of a character is a sequence for it. -/
theorem sequence_encode (c : Char) : Sequence (String.utf8EncodeChar c) c.toNat := by
  have valid : c.toNat < 0xd800 ∨ 0xdfff < c.toNat ∧ c.toNat < 0x110000 := c.valid
  have last : (UInt8.ofNat (c.toNat % 64 + 128)).toNat = c.toNat % 64 + 128 :=
    toNat_ofNat_of_lt (by omega)
  have second : (UInt8.ofNat (c.toNat / 64 % 64 + 128)).toNat = c.toNat / 64 % 64 + 128 :=
    toNat_ofNat_of_lt (by omega)
  rw [utf8EncodeChar_eq]
  split
  · have only : (UInt8.ofNat c.toNat).toNat = c.toNat := toNat_ofNat_of_lt (by omega)
    have sequence := @Sequence.one (.ofNat c.toNat) (by omega)
    rwa [only] at sequence
  split
  · have start : (UInt8.ofNat (c.toNat / 64 % 32 + 192)).toNat = c.toNat / 64 % 32 + 192 :=
      toNat_ofNat_of_lt (by omega)
    have sequence := @Sequence.two (.ofNat (c.toNat / 64 % 32 + 192)) (.ofNat (c.toNat % 64 + 128))
      (by omega) (by omega) (by unfold Tail; omega)
    have value : (c.toNat / 64 % 32 + 192) % 0x20 * 0x40 + (c.toNat % 64 + 128) % 0x40 = c.toNat := by
      omega
    rwa [start, last, value] at sequence
  split
  · have start : (UInt8.ofNat (c.toNat / 4096 % 16 + 224)).toNat = c.toNat / 4096 % 16 + 224 :=
      toNat_ofNat_of_lt (by omega)
    have sequence := @Sequence.three (.ofNat (c.toNat / 4096 % 16 + 224))
      (.ofNat (c.toNat / 64 % 64 + 128)) (.ofNat (c.toNat % 64 + 128)) (by omega) (by omega)
      (by unfold Tail; omega) (by omega) (by omega) (by unfold Tail; omega)
    have value : ((c.toNat / 4096 % 16 + 224) % 0x10 * 0x40 + (c.toNat / 64 % 64 + 128) % 0x40) * 0x40 +
        (c.toNat % 64 + 128) % 0x40 = c.toNat := by
      omega
    rwa [start, second, last, value] at sequence
  · have start : (UInt8.ofNat (c.toNat / 262144 % 8 + 240)).toNat = c.toNat / 262144 % 8 + 240 :=
      toNat_ofNat_of_lt (by omega)
    have third : (UInt8.ofNat (c.toNat / 4096 % 64 + 128)).toNat = c.toNat / 4096 % 64 + 128 :=
      toNat_ofNat_of_lt (by omega)
    have sequence := @Sequence.four (.ofNat (c.toNat / 262144 % 8 + 240))
      (.ofNat (c.toNat / 4096 % 64 + 128)) (.ofNat (c.toNat / 64 % 64 + 128))
      (.ofNat (c.toNat % 64 + 128)) (by omega) (by omega) (by unfold Tail; omega) (by omega)
      (by omega) (by unfold Tail; omega) (by unfold Tail; omega)
    have value : (((c.toNat / 262144 % 8 + 240) % 0x08 * 0x40 + (c.toNat / 4096 % 64 + 128) % 0x40) *
        0x40 + (c.toNat / 64 % 64 + 128) % 0x40) * 0x40 + (c.toNat % 64 + 128) % 0x40 = c.toNat := by
      omega
    rwa [start, third, second, last, value] at sequence

/-! ## Texts -/

/-- Decoding goes on behind a sequence. -/
theorem decodeFrom_append {bytes : List UInt8} {value : Nat} (h : Sequence bytes value)
    (offset : Nat) (rest : List UInt8) :
    decodeFrom offset (bytes ++ rest) =
      (decodeFrom (offset + bytes.length) rest).map (Char.ofNat value :: ·) := by
  obtain ⟨a, tail, rfl⟩ : ∃ a tail, bytes = a :: tail := by
    cases h <;> exact ⟨_, _, rfl⟩
  obtain ⟨payload, low, high, start, read⟩ := read_of_sequence h rest
  rw [List.cons_append, decodeFrom, start]
  dsimp only
  rw [read, List.drop_left, List.length_cons, ← Nat.add_assoc]
  cases decodeFrom (offset + tail.length + 1) rest <;> rfl

/-- The encoding of characters is decoded as these characters. -/
theorem decodeFrom_encode (cs : List Char) (offset : Nat) :
    decodeFrom offset (cs.flatMap String.utf8EncodeChar) = .ok cs := by
  induction cs generalizing offset with
  | nil =>
    rw [List.flatMap_nil, decodeFrom]
  | cons c cs ih =>
    rw [List.flatMap_cons, decodeFrom_append (sequence_encode c), ih]
    show Except.ok (Char.ofNat c.toNat :: cs) = _
    rw [Char.ofNat_toNat]

/-- Bytes that are decoded are the encoding of the characters. -/
theorem encode_of_decodeFrom {offset : Nat} {bytes : List UInt8} {cs : List Char}
    (h : decodeFrom offset bytes = .ok cs) : cs.flatMap String.utf8EncodeChar = bytes := by
  fun_induction decodeFrom offset bytes generalizing cs with
  | case1 =>
    obtain rfl := Except.ok.inj h
    rfl
  | case2 => cases h
  | case3 => cases h
  | case4 offset a rest count payload low high start value read ih =>
    obtain ⟨tail, decoded, made⟩ := exists_of_bind_ok h
    obtain rfl := Except.ok.inj made
    rw [List.flatMap_cons, ih decoded, encode_of_sequence (sequence_of_read start read),
      List.cons_append, List.take_append_drop]

/-- Bytes are decoded as a text exactly if they encode it. -/
theorem decodeUtf8_eq_ok_iff {bytes : List UInt8} {text : String} :
    decodeUtf8 bytes = .ok text ↔ encodeUtf8 text = bytes := by
  rw [encodeUtf8_eq, decodeUtf8]
  constructor
  · intro h
    cases decoded : decodeFrom 0 bytes with
    | error fault =>
      rw [decoded] at h
      cases h
    | ok cs =>
      rw [decoded] at h
      obtain rfl := Except.ok.inj h
      rw [String.toList_ofList]
      exact encode_of_decodeFrom decoded
  · rintro rfl
    rw [decodeFrom_encode]
    show Except.ok (String.ofList text.toList) = _
    rw [String.ofList_toList]

theorem encodeUtf8_injective {first second : String} (h : encodeUtf8 first = encodeUtf8 second) :
    first = second :=
  Except.ok.inj ((decodeUtf8_eq_ok_iff.2 rfl).symm.trans (decodeUtf8_eq_ok_iff.2 h.symm))

/-- Decoding fails exactly for bytes that encode no text. -/
theorem exists_decode_error_iff {bytes : List UInt8} :
    (∃ fault, decodeUtf8 bytes = .error fault) ↔ ∀ text, encodeUtf8 text ≠ bytes := by
  cases decoded : decodeUtf8 bytes with
  | error fault =>
    refine iff_of_true ⟨fault, rfl⟩ fun text encoded => ?_
    rw [decodeUtf8_eq_ok_iff.2 encoded] at decoded
    cases decoded
  | ok text =>
    refine iff_of_false ?_ fun none => none text (decodeUtf8_eq_ok_iff.1 decoded)
    rintro ⟨fault, ⟨⟩⟩

end HttpSuite.Text
