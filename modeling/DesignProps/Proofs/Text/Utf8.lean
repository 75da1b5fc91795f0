import DesignProps.Text.Utf8
import Mathlib.Data.List.Basic

/-!
# Decoding is the inverse of encoding

`String.utf8EncodeChar` gives the bytes of a character, one to four of them.  The decoder takes the bytes of a character
for this character, and any bytes that it takes for a character are the bytes of this character: it accepts no longer
form, no surrogate and nothing above the last character.

Main statements: `Utf8.next_eq_ok_iff_encode` (one character), `Utf8.decode_eq_ok_iff` (bytes are decoded exactly if
they are the bytes of a text, and then to this text).
-/

set_option autoImplicit false

namespace DesignProps.Text.Utf8

/-- The bytes of a text. -/
def encode (text : List Char) : List UInt8 := text.flatMap String.utf8EncodeChar

/-! ## Bytes and codes -/

theorem toNat_byte {n : Nat} (small : n < 256) : (UInt8.ofNat n).toNat = n := by
  rw [UInt8.toNat_ofNat', Nat.mod_eq_of_lt small]

theorem eq_byte {n : Nat} {b : UInt8} (same : n = b.toNat) : b = UInt8.ofNat n := by
  rw [same, UInt8.ofNat_toNat]

theorem toNat_ofNat {code : Nat} (valid : code.isValidChar) : (Char.ofNat code).val.toNat = code := by
  rw [Char.ofNat, dif_pos valid]
  rfl

/-- The bytes of a character, by its code. -/
theorem utf8EncodeChar_ofNat {code : Nat} (valid : code.isValidChar) :
    String.utf8EncodeChar (Char.ofNat code) =
      if code ≤ 0x7F then [UInt8.ofNat code]
      else if code ≤ 0x7FF then [UInt8.ofNat (code / 64 % 32 + 0xC0), UInt8.ofNat (code % 64 + 0x80)]
      else if code ≤ 0xFFFF then
        [UInt8.ofNat (code / 4096 % 16 + 0xE0), UInt8.ofNat (code / 64 % 64 + 0x80), UInt8.ofNat (code % 64 + 0x80)]
      else
        [UInt8.ofNat (code / 262144 % 8 + 0xF0), UInt8.ofNat (code / 4096 % 64 + 0x80),
          UInt8.ofNat (code / 64 % 64 + 0x80), UInt8.ofNat (code % 64 + 0x80)] := by
  simp only [String.utf8EncodeChar, toNat_ofNat valid]

/-! ## What is taken -/

/-- Which second byte may follow a first one, and how many more bytes follow. -/
def Calls (more first second : Nat) : Prop :=
  (0x80 ≤ second ∧ second ≤ 0xBF) ∧
    ((more = 0 ∧ 0xC2 ≤ first ∧ first ≤ 0xDF) ∨
      (more = 1 ∧ 0xE0 ≤ first ∧ first ≤ 0xEF ∧ (first = 0xE0 → 0xA0 ≤ second) ∧ (first = 0xED → second ≤ 0x9F)) ∨
      (more = 2 ∧ 0xF0 ≤ first ∧ first ≤ 0xF4 ∧ (first = 0xF0 → 0x90 ≤ second) ∧ (first = 0xF4 → second ≤ 0x8F)))

theorem calls_iff {more first second : Nat} : Calls more first second ↔
    ∃ low high, shape first = some (more + 1, low, high) ∧ low ≤ second ∧ second ≤ high := by
  unfold Calls shape
  split_ifs <;> simp <;> omega

theorem tail_zero_eq_ok_iff {low high good code : Nat} {bytes : List UInt8} {found : Nat × List UInt8} :
    tail 0 low high good code bytes = .ok found ↔ (code, bytes) = found := by
  simp [tail]

theorem tail_succ_eq_ok_iff {count low high good code : Nat} {bytes : List UInt8} {found : Nat × List UInt8} :
    tail (count + 1) low high good code bytes = .ok found ↔ ∃ b rest, bytes = b :: rest ∧
      (low ≤ b.toNat ∧ b.toNat ≤ high) ∧ tail count 0x80 0xBF (good + 1) (code * 64 + b.toNat % 64) rest = .ok found := by
  cases bytes with
  | nil => simp [tail]
  | cons b rest =>
      simp only [tail]
      split
      · next inside => simp [inside]
      · next outside => simp [outside]

theorem shape_count_pos {first count low high : Nat} (called : shape first = some (count, low, high)) :
    ∃ more, count = more + 1 := by
  unfold shape at called
  split_ifs at called <;> cases called <;> exact ⟨_, rfl⟩

variable {start : Nat} {first : UInt8} {rest after : List UInt8} {c : Char}

/-- One character is one byte below 128, or a first byte and the bytes that it calls for. -/
theorem next_eq_ok_iff : next start first rest = .ok (c, after) ↔
    (first.toNat < 0x80 ∧ c = Char.ofNat first.toNat ∧ after = rest) ∨
    ∃ more second others code, rest = second :: others ∧ Calls more first.toNat second.toNat ∧
      tail more 0x80 0xBF 2 (first.toNat % Nat.pow 2 (5 - more) * 64 + second.toNat % 64) others = .ok (code, after) ∧
      c = Char.ofNat code := by
  by_cases ascii : first.toNat < 0x80
  · have uncalled : ∀ more second, ¬ Calls more first.toNat second := by
      unfold Calls
      omega
    simp [next, ascii, uncalled, eq_comm]
  · simp only [next, ascii, if_false, false_and, false_or, calls_iff]
    cases called : shape first.toNat with
    | none => simp
    | some bounds =>
        obtain ⟨count, low, high⟩ := bounds
        obtain ⟨more, rfl⟩ := shape_count_pos called
        have fewer : 6 - (more + 1) = 5 - more := by omega
        dsimp only
        constructor
        · intro found
          split at found
          · next code left took =>
              obtain ⟨rfl, rfl⟩ := Prod.mk.inj (Except.ok.inj found)
              obtain ⟨second, others, rfl, bounds, took⟩ := tail_succ_eq_ok_iff.1 took
              exact ⟨more, second, others, code, rfl, ⟨low, high, rfl, bounds⟩, fewer ▸ took, rfl⟩
          · cases found
        · rintro ⟨_, second, others, code, rfl, ⟨_, _, same, bounds⟩, took, rfl⟩
          cases same
          rw [fewer, tail_succ_eq_ok_iff.2 ⟨second, others, rfl, bounds, took⟩]

/-! ## Characters -/

theorem eq_encode_of_next (found : next start first rest = .ok (c, after)) :
    first :: rest = String.utf8EncodeChar c ++ after := by
  rcases next_eq_ok_iff.1 found with ⟨ascii, rfl, rfl⟩ | ⟨more, b, others, code, rfl, called, took, rfl⟩
  · rw [utf8EncodeChar_ofNat (Or.inl (by omega)), if_pos (by omega)]
    simp
  · unfold Calls at called
    obtain ⟨second, ⟨rfl, lead⟩ | ⟨rfl, lead⟩ | ⟨rfl, lead⟩⟩ := called
    · cases tail_zero_eq_ok_iff.1 took
      simp only [Nat.reduceSub, Nat.pow_eq, Nat.reducePow]
      rw [utf8EncodeChar_ofNat (Or.inl (by omega)), if_neg (by omega), if_pos (by omega),
        ← eq_byte (b := first) (by omega), ← eq_byte (b := b) (by omega)]
      rfl
    · obtain ⟨d, _, rfl, third, took⟩ := tail_succ_eq_ok_iff.1 took
      cases tail_zero_eq_ok_iff.1 took
      simp only [Nat.reduceSub, Nat.pow_eq, Nat.reducePow]
      have valid : ((first.toNat % 16 * 64 + b.toNat % 64) * 64 + d.toNat % 64).isValidChar := by
        unfold Nat.isValidChar
        omega
      rw [utf8EncodeChar_ofNat valid, if_neg (by omega), if_neg (by omega), if_pos (by omega),
        ← eq_byte (b := first) (by omega), ← eq_byte (b := b) (by omega), ← eq_byte (b := d) (by omega)]
      rfl
    · obtain ⟨d, _, rfl, third, took⟩ := tail_succ_eq_ok_iff.1 took
      obtain ⟨e, _, rfl, fourth, took⟩ := tail_succ_eq_ok_iff.1 took
      cases tail_zero_eq_ok_iff.1 took
      simp only [Nat.reduceSub, Nat.pow_eq, Nat.reducePow]
      have valid : (((first.toNat % 8 * 64 + b.toNat % 64) * 64 + d.toNat % 64) * 64 + e.toNat % 64).isValidChar := by
        unfold Nat.isValidChar
        omega
      rw [utf8EncodeChar_ofNat valid, if_neg (by omega), if_neg (by omega), if_neg (by omega),
        ← eq_byte (b := first) (by omega), ← eq_byte (b := b) (by omega), ← eq_byte (b := d) (by omega),
        ← eq_byte (b := e) (by omega)]
      rfl

theorem next_of_eq_encode (bytes : first :: rest = String.utf8EncodeChar c ++ after) :
    next start first rest = .ok (c, after) := by
  obtain ⟨code, valid, rfl⟩ : ∃ code : Nat, code.isValidChar ∧ c = Char.ofNat code :=
    ⟨c.toNat, c.valid, (Char.ofNat_toNat c).symm⟩
  rw [utf8EncodeChar_ofNat valid] at bytes
  unfold Nat.isValidChar at valid
  refine next_eq_ok_iff.2 ?_
  split_ifs at bytes with one two three
  · obtain ⟨rfl, rfl⟩ := List.cons.inj bytes
    have lead := toNat_byte (show code < 256 by omega)
    exact Or.inl ⟨by omega, by rw [lead], rfl⟩
  · obtain ⟨rfl, rfl⟩ := List.cons.inj bytes
    have lead := toNat_byte (show code / 64 % 32 + 0xC0 < 256 by omega)
    have second := toNat_byte (show code % 64 + 0x80 < 256 by omega)
    have called : Calls 0 (code / 64 % 32 + 0xC0) (code % 64 + 0x80) := by
      unfold Calls
      omega
    rw [← lead, ← second] at called
    refine Or.inr ⟨0, _, _, code, rfl, called, tail_zero_eq_ok_iff.2 (Prod.ext ?_ rfl), rfl⟩
    simp only [lead, second, Nat.reduceSub, Nat.pow_eq, Nat.reducePow]
    omega
  · obtain ⟨rfl, rfl⟩ := List.cons.inj bytes
    have lead := toNat_byte (show code / 4096 % 16 + 0xE0 < 256 by omega)
    have second := toNat_byte (show code / 64 % 64 + 0x80 < 256 by omega)
    have third := toNat_byte (show code % 64 + 0x80 < 256 by omega)
    have called : Calls 1 (code / 4096 % 16 + 0xE0) (code / 64 % 64 + 0x80) := by
      unfold Calls
      omega
    rw [← lead, ← second] at called
    refine Or.inr ⟨1, _, _, code, rfl, called, ?_, rfl⟩
    refine tail_succ_eq_ok_iff.2 ⟨_, _, rfl, by omega, tail_zero_eq_ok_iff.2 (Prod.ext ?_ rfl)⟩
    simp only [lead, second, third, Nat.reduceSub, Nat.pow_eq, Nat.reducePow]
    omega
  · obtain ⟨rfl, rfl⟩ := List.cons.inj bytes
    have lead := toNat_byte (show code / 262144 % 8 + 0xF0 < 256 by omega)
    have second := toNat_byte (show code / 4096 % 64 + 0x80 < 256 by omega)
    have third := toNat_byte (show code / 64 % 64 + 0x80 < 256 by omega)
    have fourth := toNat_byte (show code % 64 + 0x80 < 256 by omega)
    have called : Calls 2 (code / 262144 % 8 + 0xF0) (code / 4096 % 64 + 0x80) := by
      unfold Calls
      omega
    rw [← lead, ← second] at called
    refine Or.inr ⟨2, _, _, code, rfl, called, ?_, rfl⟩
    refine tail_succ_eq_ok_iff.2 ⟨_, _, rfl, by omega, ?_⟩
    refine tail_succ_eq_ok_iff.2 ⟨_, _, rfl, by omega, tail_zero_eq_ok_iff.2 (Prod.ext ?_ rfl)⟩
    simp only [lead, second, third, fourth, Nat.reduceSub, Nat.pow_eq, Nat.reducePow]
    omega

theorem next_eq_ok_iff_encode :
    next start first rest = .ok (c, after) ↔ first :: rest = String.utf8EncodeChar c ++ after :=
  ⟨eq_encode_of_next, next_of_eq_encode⟩

/-! ## Texts -/

theorem encode_nil : encode [] = [] := rfl

theorem encode_cons (c : Char) (text : List Char) : encode (c :: text) = String.utf8EncodeChar c ++ encode text := rfl

theorem length_utf8EncodeChar_pos (c : Char) : 0 < (String.utf8EncodeChar c).length := by
  rw [String.length_utf8EncodeChar]
  exact c.utf8Size_pos

/-- Only the empty text has no bytes. -/
theorem encode_eq_nil_iff {text : List Char} : [] = encode text ↔ text = [] := by
  cases text with
  | nil => simp [encode_nil]
  | cons c text =>
      have some := List.length_pos_iff.1 (length_utf8EncodeChar_pos c)
      simp [encode_cons, some]

/-- The bytes of a text begin with the bytes of its first character. -/
theorem cons_eq_encode_iff (start : Nat) {text : List Char} : first :: rest = encode text ↔
    ∃ c after, next start first rest = .ok (c, after) ∧ ∃ more, text = c :: more ∧ after = encode more := by
  simp only [next_eq_ok_iff_encode]
  constructor
  · intro bytes
    cases text with
    | nil => simp [encode_nil] at bytes
    | cons c more => exact ⟨c, encode more, bytes, more, rfl, rfl⟩
  · rintro ⟨c, after, bytes, more, rfl, rfl⟩
    exact bytes

theorem decodeFrom_nil (fuel : Nat) : decodeFrom fuel start [] = .ok [] := by
  cases fuel <;> rfl

/-- Bytes are decoded as their first character and what the bytes after it are decoded as. -/
theorem decodeFrom_cons_eq_ok_iff {fuel : Nat} {text : List Char} : decodeFrom (fuel + 1) start (first :: rest) = .ok text ↔
    ∃ c after, next start first rest = .ok (c, after) ∧
      ∃ more, text = c :: more ∧ decodeFrom fuel (start + (rest.length + 1 - after.length)) after = .ok more := by
  simp only [decodeFrom]
  constructor
  · intro decoded
    split at decoded
    · cases decoded
    · next c after taken =>
        split at decoded
        · cases decoded
        · next more later => exact ⟨c, after, taken, more, (Except.ok.inj decoded).symm, later⟩
  · rintro ⟨c, after, taken, more, rfl, later⟩
    simp only [taken, later]

theorem decodeFrom_eq_ok_iff : ∀ (fuel start : Nat) (bytes : List UInt8), bytes.length ≤ fuel → ∀ text : List Char,
    decodeFrom fuel start bytes = .ok text ↔ bytes = encode text := by
  intro fuel
  induction fuel with
  | zero =>
      intro start bytes none text
      obtain rfl := List.length_eq_zero_iff.1 (Nat.le_zero.1 none)
      rw [decodeFrom_nil, Except.ok.injEq, encode_eq_nil_iff]
      exact eq_comm
  | succ fuel ih =>
      intro start bytes enough text
      cases bytes with
      | nil =>
          rw [decodeFrom_nil, Except.ok.injEq, encode_eq_nil_iff]
          exact eq_comm
      | cons first rest =>
          rw [cons_eq_encode_iff start, decodeFrom_cons_eq_ok_iff]
          refine exists_congr fun c => exists_congr fun after => and_congr_right fun taken => ?_
          -- a character takes at least one byte, so the fuel is enough for the others
          have shorter : after.length ≤ fuel := by
            have bytes := congrArg List.length (eq_encode_of_next taken)
            have some := length_utf8EncodeChar_pos c
            simp only [List.length_cons, List.length_append] at bytes enough
            omega
          exact exists_congr fun more => and_congr_right fun _ => ih _ after shorter more

theorem decode_eq_ok_iff {bytes : List UInt8} {text : List Char} : decode bytes = .ok text ↔ bytes = encode text :=
  decodeFrom_eq_ok_iff _ 0 bytes (Nat.le_refl _) text

end DesignProps.Text.Utf8
