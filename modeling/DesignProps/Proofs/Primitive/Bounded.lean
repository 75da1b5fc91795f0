import DesignProps.Primitive.Coercion
import DesignProps.Proofs.Number.Literal

/-!
# Values whose integers can be read

A value is bounded if no integer in it, and no text in it that is an integer, has more digits than can be turned into a
number.  The text form of a bounded value can always be coerced: that of a list, an object or a broken double is no
integer, and a whole double is short.

Main statements: `Coercion.asNumber_isOk_iff`, `Coercion.asNumber_of_bounded`, `Coercion.explicit_of_bounded`.
-/

set_option autoImplicit false

namespace DesignProps

/-- No integer of more digits than can be turned into a number. -/
def NumberLiteral.isShort (s : String) : Bool :=
  match ofText? s with
  | some l => !l.isInteger || l.whole.length ≤ digitLimit
  | none => true

namespace Json

mutual

/-- Integers and texts that are integers have no more digits than can be read, and doubles are of the only written
form. -/
def isBounded : Json → Bool
  | .int n => (Nat.toDigits 10 n.natAbs).length ≤ digitLimit
  | .float x => decide x.Canonical
  | .str s => NumberLiteral.isShort s
  | .arr items => areItemsBounded items
  | .obj members => areMembersBounded members
  | _ => true

def areItemsBounded : List Json → Bool
  | [] => true
  | v :: rest => isBounded v && areItemsBounded rest

def areMembersBounded : List (String × Json) → Bool
  | [] => true
  | (_, v) :: rest => isBounded v && areMembersBounded rest

end

/-! ## Parts of bounded values -/

theorem bounded_of_mem_items {v : Json} : ∀ {items : List Json}, areItemsBounded items = true → v ∈ items →
    v.isBounded = true := by
  intro items
  induction items with
  | nil => simp
  | cons w rest ih =>
      intro bounded inside
      simp only [areItemsBounded, Bool.and_eq_true] at bounded
      rcases List.mem_cons.1 inside with rfl | inside
      · exact bounded.1
      · exact ih bounded.2 inside

theorem bounded_of_mem_members {key : String} {v : Json} : ∀ {members : List (String × Json)},
    areMembersBounded members = true → (key, v) ∈ members → v.isBounded = true := by
  intro members
  induction members with
  | nil => simp
  | cons m rest ih =>
      intro bounded inside
      obtain ⟨k, w⟩ := m
      simp only [areMembersBounded, Bool.and_eq_true] at bounded
      rcases List.mem_cons.1 inside with same | inside
      · obtain ⟨rfl, rfl⟩ := Prod.mk.inj same
        exact bounded.1
      · exact ih bounded.2 inside

theorem bounded_member {v : Json} (bounded : v.isBounded = true) (key : String) : (v.member key).isBounded = true := by
  cases v with
  | obj members =>
      simp only [isBounded] at bounded
      simp only [member]
      cases found : Assoc.get? key members with
      | none => rfl
      | some w =>
          obtain ⟨k, -, inside⟩ := Assoc.exists_mem_of_get? key w members found
          exact bounded_of_mem_members bounded inside
  | _ => rfl

end Json

/-! ## Short texts -/

namespace NumberLiteral

theorem isShort_iff (s : String) :
    isShort s = true ↔ ∀ l, ofText? s = some l → l.isInteger = true → l.whole.length ≤ digitLimit := by
  unfold isShort
  cases ofText? s with
  | none => simp
  | some l => cases integer : l.isInteger <;> simp [integer]

theorem isShort_of_mem {s : String} {c : Char} (inside : c ∈ s.toList) (strange : isIntegral c = false) :
    isShort s = true := by
  refine (isShort_iff s).2 fun l read integer => ?_
  simp [isInteger_eq_false_of_mem read inside strange] at integer

theorem isShort_intText {n : Int} (few : (Nat.toDigits 10 n.natAbs).length ≤ digitLimit) :
    isShort (intText n) = true := by
  refine (isShort_iff _).2 fun l read integer => ?_
  rw [ofText?, intText, String.toList_ofList] at read
  exact Nat.le_trans (whole_length_le_of_intChars read integer) few

theorem isShort_text {x : Binary64} (canonical : x.Canonical) : isShort (Number.float x).text = true := by
  simp only [Number.text]
  cases whole : x.toInt? with
  | some n => exact isShort_intText (Binary64.digits_of_toInt? canonical whole)
  | none =>
      refine (isShort_iff _).2 fun l read integer => ?_
      simp [Binary64.text_not_integer whole read] at integer

/-- The text form of a bounded value is no integer of too many digits. -/
theorem isShort_canonicalText {v : Json} (bounded : v.isBounded = true) : isShort v.canonicalText = true := by
  cases v with
  | null => decide
  | bool b => cases b <;> decide
  | int n => exact isShort_intText (of_decide_eq_true bounded)
  | float x => exact isShort_text (of_decide_eq_true bounded)
  | str s => exact bounded
  | arr items =>
      have bracket : '[' ∈ (Json.arr items).canonicalText.toList := by
        simp [Json.canonicalText, Json.asText, Json.shown]
      exact isShort_of_mem bracket (by decide)
  | obj members =>
      have brace : '\x7b' ∈ (Json.obj members).canonicalText.toList := by
        simp [Json.canonicalText, Json.asText, Json.shown]
      exact isShort_of_mem brace (by decide)

end NumberLiteral

namespace Coercion

/-! ## Coercions that succeed -/

theorem asNumber_isOk_iff (s : String) : (∃ n, asNumber s = .ok n) ↔ NumberLiteral.isShort s = true := by
  rw [NumberLiteral.isShort_iff, asNumber]
  cases NumberLiteral.ofText? s with
  | none => simp
  | some l =>
      dsimp only [NumberLiteral.toNumber]
      cases integer : l.isInteger with
      | false => simp [integer]
      | true =>
          by_cases long : digitLimit < l.whole.length
          · simp [integer, long]
          · simpa [integer, long] using Nat.not_lt.1 long

theorem asNumber_of_bounded {v : Json} (bounded : v.isBounded = true) : ∃ n, asNumber v.canonicalText = .ok n :=
  (asNumber_isOk_iff _).2 (NumberLiteral.isShort_canonicalText bounded)

theorem explicit_of_bounded {v : Json} (bounded : v.isBounded = true) : ∃ p, explicit v.canonicalText = .ok p := by
  unfold explicit
  split
  · exact ⟨_, rfl⟩
  · split
    · obtain ⟨n, read⟩ := asNumber_of_bounded bounded
      exact ⟨.number n, by rw [read]; rfl⟩
    · exact ⟨_, rfl⟩

end Coercion

end DesignProps
