/-!
# Decoding UTF-8

`decode` reads bytes as UTF-8 text, or says which bytes are wrong and why: the first byte of no character, a byte
that does not go on with the character begun, or an end in the middle of a character.

Main statement: `decode_ascii` (bytes below 128 stand for themselves).
-/

set_option autoImplicit false

namespace DesignProps.Text

namespace Utf8

inductive Reason
  | startByte
  | continuationByte
  | endOfData
  deriving DecidableEq, Repr

/-- The bytes `first`, … that do not form a character. -/
structure Malformed where
  first : UInt8
  start : Nat
  length : Nat
  reason : Reason
  deriving DecidableEq, Repr

def Reason.text : Reason → String
  | .startByte => "invalid start byte"
  | .continuationByte => "invalid continuation byte"
  | .endOfData => "unexpected end of data"

def hexByte (b : UInt8) : String :=
  let digits := Nat.toDigits 16 b.toNat
  String.ofList (List.replicate (2 - digits.length) '0' ++ digits)

def Malformed.message (m : Malformed) : String :=
  "'utf-8' codec can't decode " ++
    (if m.length = 1 then "byte 0x" ++ hexByte m.first ++ " in position " ++ Nat.repr m.start
     else "bytes in position " ++ Nat.repr m.start ++ "-" ++ Nat.repr (m.start + m.length - 1))
    ++ ": " ++ m.reason.text

/-- Lowest and highest second byte after a first byte, and how many bytes follow the first. -/
def shape (first : Nat) : Option (Nat × Nat × Nat) :=
  if 0xC2 ≤ first ∧ first ≤ 0xDF then some (1, 0x80, 0xBF)
  else if first = 0xE0 then some (2, 0xA0, 0xBF)
  else if first = 0xED then some (2, 0x80, 0x9F)
  else if 0xE1 ≤ first ∧ first ≤ 0xEF then some (2, 0x80, 0xBF)
  else if first = 0xF0 then some (3, 0x90, 0xBF)
  else if 0xF1 ≤ first ∧ first ≤ 0xF3 then some (3, 0x80, 0xBF)
  else if first = 0xF4 then some (3, 0x80, 0x8F)
  else none

/-- Takes the following bytes of one character: `count` of them, the first between `low` and `high`.  A fault is
given with the number of bytes that went well. -/
def tail : Nat → Nat → Nat → Nat → Nat → List UInt8 → Except (Nat × Reason) (Nat × List UInt8)
  | 0, _, _, _, code, bytes => .ok (code, bytes)
  | count + 1, low, high, good, code, bytes =>
      match bytes with
      | [] => .error (good, .endOfData)
      | b :: rest =>
          if low ≤ b.toNat ∧ b.toNat ≤ high then
            tail count 0x80 0xBF (good + 1) (code * 64 + b.toNat % 64) rest
          else .error (good, .continuationByte)

/-- The first character, and the bytes after it. -/
def next (start : Nat) (first : UInt8) (rest : List UInt8) : Except Malformed (Char × List UInt8) :=
  if first.toNat < 0x80 then .ok (Char.ofNat first.toNat, rest)
  else
    match shape first.toNat with
    | none => .error ⟨first, start, 1, .startByte⟩
    | some (count, low, high) =>
        match tail count low high 1 (first.toNat % Nat.pow 2 (6 - count)) rest with
        | .ok (code, rest) => .ok (Char.ofNat code, rest)
        | .error (good, reason) => .error ⟨first, start, good, reason⟩

/-- Reads at most `fuel` characters; each takes a byte, so the number of bytes is enough. -/
def decodeFrom : Nat → Nat → List UInt8 → Except Malformed (List Char)
  | _, _, [] => .ok []
  | 0, _, _ => .ok []
  | fuel + 1, start, first :: rest =>
      match next start first rest with
      | .error m => .error m
      | .ok (c, after) =>
          match decodeFrom fuel (start + (rest.length + 1 - after.length)) after with
          | .error m => .error m
          | .ok cs => .ok (c :: cs)

def decode (bytes : List UInt8) : Except Malformed (List Char) := decodeFrom bytes.length 0 bytes

theorem decodeFrom_ascii {cs : List Char} (ascii : ∀ c ∈ cs, c.toNat < 0x80) (fuel start : Nat)
    (enough : cs.length ≤ fuel) : decodeFrom fuel start (cs.map fun c => UInt8.ofNat c.toNat) = .ok cs := by
  induction cs generalizing fuel start with
  | nil => simp [decodeFrom]
  | cons c rest ih =>
      cases fuel with
      | zero => simp at enough
      | succ fuel =>
          have low := ascii c List.mem_cons_self
          have byte : (UInt8.ofNat c.toNat).toNat = c.toNat := by rw [UInt8.toNat_ofNat']; omega
          simp only [List.map_cons, decodeFrom, next, byte, low, if_true, Char.ofNat_toNat,
            ih (fun d h => ascii d (List.mem_cons_of_mem _ h)) fuel _ (Nat.le_of_succ_le_succ enough)]

theorem decode_ascii {cs : List Char} (ascii : ∀ c ∈ cs, c.toNat < 0x80) :
    decode (cs.map fun c => UInt8.ofNat c.toNat) = .ok cs :=
  decodeFrom_ascii ascii _ 0 (by simp)

end Utf8

end DesignProps.Text
