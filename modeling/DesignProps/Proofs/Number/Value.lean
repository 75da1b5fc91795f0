import DesignProps.Proofs.Primitive.Bounded
import DesignProps.Proofs.Traversal

/-!
# The numbers that texts are read as

A literal written with digits alone is read as that integer, any other one as the double nearest to it, and none is
read as `nan`.  Two texts are therefore read as equal numbers exactly if the numbers of their literals stand at the
same place, however they are written.

Main statements: `Coercion.asNumber_eq_ok_iff`, `Coercion.asNumber_eqv_iff`.
-/

set_option autoImplicit false

namespace DesignProps

namespace Binary64

theorem nearest_ne_nan (negative : Bool) (num den : Nat) : nearest negative num den ≠ .nan := by
  unfold nearest
  split
  · simp [zero]
  · dsimp only
    split
    · split <;> simp
    · split <;> simp

theorem ofDecimal_ne_nan (negative : Bool) (digits : Nat) (exponent : Int) : ofDecimal negative digits exponent ≠ .nan := by
  unfold ofDecimal
  split
  · simp [zero]
  · dsimp only
    split
    · simp
    · split
      · simp [zero]
      · exact nearest_ne_nan negative _ _

end Binary64

namespace NumberLiteral

/-- The number of a literal, however many digits it has. -/
def value (l : NumberLiteral) : Number :=
  if l.isInteger then .int (Binary64.signed l.negative (digitsValue l.whole)) else .float l.toDouble

theorem value_ne_nan (l : NumberLiteral) : l.value ≠ .float .nan := by
  unfold value
  split
  · simp
  · intro same
    exact Binary64.ofDecimal_ne_nan _ _ _ (Number.float.inj same)

theorem toNumber_eq_ok_iff (l : NumberLiteral) (n : Number) :
    l.toNumber = .ok n ↔ (l.isInteger = true → l.whole.length ≤ digitLimit) ∧ n = l.value := by
  unfold toNumber value
  cases integer : l.isInteger with
  | false => simp [eq_comm]
  | true =>
      by_cases long : digitLimit < l.whole.length
      · simp [long]
      · simp [long, Nat.not_lt.1 long, eq_comm]

/-- Two texts are literals of one number: both of one integer, or of values that are equal once what is no integer is
rounded to a double. -/
def SameNumber (a b : String) : Prop :=
  ∃ l k, ofText? a = some l ∧ ofText? b = some k ∧ l.value.standing = k.value.standing

theorem sameNumber_self {s : String} (number : Coercion.isNumber s = true) : SameNumber s s := by
  obtain ⟨l, read⟩ := Option.isSome_iff_exists.1 number
  exact ⟨l, l, read, read, rfl⟩

end NumberLiteral

namespace Coercion

open NumberLiteral

theorem asNumber_eq_ok_iff {s : String} {l : NumberLiteral} (read : ofText? s = some l) (n : Number) :
    asNumber s = .ok n ↔ isShort s = true ∧ n = l.value := by
  rw [asNumber, read, isShort_iff]
  dsimp only
  rw [toNumber_eq_ok_iff]
  simp [read]

theorem asNumber_eqv_iff {a b : String} {n m : Number} (first : isNumber a = true) (second : isNumber b = true)
    (readFirst : asNumber a = .ok n) (readSecond : asNumber b = .ok m) : n.eqv m = true ↔ SameNumber a b := by
  obtain ⟨l, literal⟩ := Option.isSome_iff_exists.1 first
  obtain ⟨k, other⟩ := Option.isSome_iff_exists.1 second
  obtain ⟨-, rfl⟩ := (asNumber_eq_ok_iff literal n).1 readFirst
  obtain ⟨-, rfl⟩ := (asNumber_eq_ok_iff other m).1 readSecond
  rw [Number.eqv_iff, and_iff_left l.value_ne_nan]
  constructor
  · intro same
    exact ⟨l, k, literal, other, same⟩
  · rintro ⟨l', k', literal', other', same⟩
    rw [literal] at literal'
    rw [other] at other'
    rwa [Option.some.inj literal', Option.some.inj other']

theorem isBoolean_iff (s : String) : isBoolean s = true ↔ s = "true" ∨ s = "false" := by
  simp only [isBoolean, Bool.or_eq_true, beq_iff_eq]

/-- No text is both a boolean and a number. -/
theorem isNumber_of_isBoolean {s : String} (boolean : isBoolean s = true) : isNumber s = false := by
  rcases (isBoolean_iff s).1 boolean with rfl | rfl <;> decide

theorem asBoolean_inj {a b : String} (first : isBoolean a = true) (second : isBoolean b = true) :
    asBoolean a = asBoolean b ↔ a = b := by
  rcases (isBoolean_iff a).1 first with rfl | rfl <;> rcases (isBoolean_iff b).1 second with rfl | rfl <;> decide

theorem explicit_isOk_iff (s : String) : (∃ v, explicit s = .ok v) ↔ (isNumber s = true → isShort s = true) := by
  unfold explicit
  by_cases boolean : isBoolean s = true
  · simp [boolean, isNumber_of_isBoolean boolean]
  · by_cases number : isNumber s = true
    · rw [if_neg boolean, if_pos number, exists_map_eq_ok_iff, asNumber_isOk_iff]
      simp [number]
    · simp [boolean, number]

/-- A number that a text is read as equals itself: a text that is no number is read as zero. -/
theorem asNumber_eqv_self {s : String} {n : Number} (read : asNumber s = .ok n) : n.eqv n = true := by
  by_cases number : isNumber s = true
  · exact (asNumber_eqv_iff number number read read).2 (sameNumber_self number)
  · simp only [isNumber, Option.not_isSome_iff_eq_none] at number
    simp only [asNumber, number, Except.ok.injEq] at read
    subst read
    rfl

/-- A value that a text is read as equals itself. -/
theorem explicit_eqv_self {s : String} {v : Primitive} (read : explicit s = .ok v) : v.eqv v = true := by
  unfold explicit at read
  split at read
  · obtain rfl := Except.ok.inj read
    simp [Primitive.eqv]
  · split at read
    · obtain ⟨n, counted, rfl⟩ := map_eq_ok_iff.1 read
      exact asNumber_eqv_self counted
    · obtain rfl := Except.ok.inj read
      simp [Primitive.eqv]

end Coercion

end DesignProps
