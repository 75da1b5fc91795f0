import DesignProps.Proofs.Script.StringLiteral
import DesignProps.Target.Declaration

/-!
# What a union type denotes

A union type lists its options as string literals.  Only the quote that ends a literal is escaped, so a literal denotes
its option exactly if the option holds no backslash and no line end.  With either of them the literals of a union have
less room than its options need, and whatever is read from it, some option is lost.

Main statements: `Generator.union?_unionType`, `Generator.unionType_inj` (such unions keep their options apart),
`Generator.unionType_denotes_iff`.
-/

set_option autoImplicit false

namespace DesignProps.Generator

open StringLiteral

/-- A character that is not itself in a literal: a backslash or a line end. -/
def isLost (c : Char) : Bool := c == '\\' || isLineEnd c

/-- An option between the quotes of its literal. -/
def optionBody (option : List Char) : List Char := option.flatMap fun c => if c = '\'' then ['\\', '\''] else [c]

theorem optionBody_cons (c : Char) (option : List Char) :
    optionBody (c :: option) = (if c = '\'' then ['\\', '\''] else [c]) ++ optionBody option := rfl

theorem toList_optionLiteral (option : String) :
    (optionLiteral option).toList = '\'' :: (optionBody option.toList ++ ['\'']) := by
  simp [optionLiteral, Attribute.replaceChar, optionBody]

theorem toList_unionType_singleton (option : String) :
    (unionType [option]).toList = (optionLiteral option).toList := by
  simp [unionType]

theorem unionType_ne_nil (option : String) (rest : List String) : (unionType (option :: rest)).toList ≠ [] := by
  cases rest with
  | nil =>
      rw [toList_unionType_singleton, toList_optionLiteral]
      exact List.cons_ne_nil _ _
  | cons next rest =>
      simp [unionType, String.toList_intercalate, toList_optionLiteral]

theorem toList_unionType_cons_cons (option next : String) (rest : List String) :
    (unionType (option :: next :: rest)).toList =
      (optionLiteral option).toList ++ ' ' :: '|' :: ' ' :: (unionType (next :: rest)).toList := by
  simp [unionType, String.toList_intercalate]

/-! ## Options that are read back -/

theorem body_optionBody (rest : List Char) : ∀ {option : List Char}, (∀ c ∈ option, isLost c = false) →
    body (optionBody option ++ '\'' :: rest) = some (unitsOf option, rest) := by
  intro option
  induction option with
  | nil =>
      intro _
      exact body_quote rest
  | cons c option ih =>
      intro plain
      obtain ⟨first, others⟩ := List.forall_mem_cons.1 plain
      have later := ih others
      rw [optionBody_cons, List.append_assoc, unitsOf_cons]
      by_cases quote : c = '\''
      · subst quote
        have escaped : escape? ('\'' :: (optionBody option ++ '\'' :: rest)) =
            some (units '\''.toNat, optionBody option ++ '\'' :: rest) := rfl
        rw [if_pos rfl]
        simp only [List.cons_append, List.nil_append]
        rw [body_escape, escaped, Option.bind_some]
        dsimp only
        rw [later]
        rfl
      · have unmarked : isMark c = false := by
          simp only [isLost, Bool.or_eq_false_iff] at first
          simp [isMark, quote, first]
        rw [if_neg quote, List.singleton_append, body_plain unmarked, later]
        rfl

theorem literal?_optionLiteral {option : String} (plain : ∀ c ∈ option.toList, isLost c = false) (rest : List Char) :
    literal? ((optionLiteral option).toList ++ rest) = some (unitsOf option.toList, rest) := by
  rw [toList_optionLiteral]
  simpa [literal?] using body_optionBody rest plain

theorem union?_unionType {options : List String} (plain : ∀ o ∈ options, ∀ c ∈ o.toList, isLost c = false) :
    union? (unionType options).toList = some (options.map fun o => unitsOf o.toList) := by
  cases options with
  | nil => rfl
  | cons option rest =>
      rw [union?, if_neg (unionType_ne_nil option rest)]
      induction rest generalizing option with
      | nil =>
          have own := literal?_optionLiteral (plain option List.mem_cons_self) []
          rw [List.append_nil] at own
          rw [toList_unionType_singleton, members?_last own]
          rfl
      | cons next rest ih =>
          obtain ⟨first, others⟩ := List.forall_mem_cons.1 plain
          have own := literal?_optionLiteral first (' ' :: '|' :: ' ' :: (unionType (next :: rest)).toList)
          rw [toList_unionType_cons_cons, members?_more own, ih next others]
          rfl

/-- No two lists of such options have one union. -/
theorem unionType_inj {options others : List String} (plain : ∀ o ∈ options, ∀ c ∈ o.toList, isLost c = false)
    (plain' : ∀ o ∈ others, ∀ c ∈ o.toList, isLost c = false) (same : unionType options = unionType others) :
    options = others := by
  have read := union?_unionType plain
  rw [same, union?_unionType plain'] at read
  have units : (others.map fun o => unitsOf o.toList) = options.map fun o => unitsOf o.toList := Option.some.inj read
  have texts : ∀ o o' : String, unitsOf o.toList = unitsOf o'.toList → o = o' := by
    intro o o' equal
    exact String.toList_inj.1 (unitsOf_inj equal)
  exact ((List.map_inj_right texts).1 units).symm

/-! ## Options that are lost -/

theorem room_optionBody_char (c : Char) :
    room (if c = '\'' then ['\\', '\''] else [c]) + (if isLost c then 1 else 0) = 2 * (units c.toNat).length := by
  by_cases quote : c = '\''
  · subst quote
    decide
  · rw [if_neg quote, room_cons]
    by_cases lost : isLost c = true
    · have marked : isMark c = true := by
        simpa [isMark, quote, isLost] using lost
      have single : (units c.toNat).length = 1 := by
        simp only [isLost, isLineEnd, Bool.or_eq_true, beq_iff_eq] at lost
        obtain rfl | rfl | rfl := lost <;> decide
      rw [if_pos marked, if_pos lost, single]
      rfl
    · have unmarked : isMark c ≠ true := by
        simpa [isMark, quote, isLost] using lost
      rw [if_neg unmarked, if_neg lost]
      rfl

/-- An option needs more room than its literal has, by the number of characters that are lost. -/
theorem room_optionBody (option : List Char) :
    room (optionBody option) + option.countP isLost = 2 * (unitsOf option).length := by
  induction option with
  | nil => rfl
  | cons c option ih =>
      have own : room (if c = '\'' then ['\\', '\''] else [c]) + (if isLost c then 1 else 0) =
          2 * (units c.toNat).length := room_optionBody_char c
      rw [optionBody_cons, room_append, List.countP_cons, unitsOf_cons, List.length_append]
      omega

theorem room_optionLiteral (option : String) :
    room (optionLiteral option).toList + option.toList.countP isLost = 2 * (unitsOf option.toList).length + 2 := by
  have inner := room_optionBody option.toList
  have quote : room ['\''] = 1 := by decide
  rw [toList_optionLiteral, room_cons, if_pos (by decide), room_append, quote]
  omega

/-- The characters of options that are lost. -/
def lostIn : List String → Nat
  | [] => 0
  | option :: rest => option.toList.countP isLost + lostIn rest

/-- The options of a union need more room than their literals have, by the number of characters that are lost. -/
theorem room_unionType (option : String) (rest : List String) :
    room (unionType (option :: rest)).toList + 6 + lostIn (option :: rest) =
      needed ((option :: rest).map fun o => unitsOf o.toList) := by
  induction rest generalizing option with
  | nil =>
      have own := room_optionLiteral option
      rw [toList_unionType_singleton, lostIn, lostIn, List.map_cons, List.map_nil, needed, needed]
      omega
  | cons next rest ih =>
      have own := room_optionLiteral option
      have others := ih next
      have bar : room (' ' :: '|' :: ' ' :: (unionType (next :: rest)).toList) =
          6 + room (unionType (next :: rest)).toList := room_append [' ', '|', ' '] _
      rw [toList_unionType_cons_cons, room_append, bar, lostIn, List.map_cons, needed]
      omega

theorem forall_of_lostIn {options : List String} (none : lostIn options = 0) :
    ∀ o ∈ options, ∀ c ∈ o.toList, isLost c = false := by
  induction options with
  | nil => simp
  | cons option rest ih =>
      rw [lostIn] at none
      refine List.forall_mem_cons.2 ⟨?_, ih (by omega)⟩
      have own : option.toList.countP isLost = 0 := by omega
      intro c inside
      exact Bool.eq_false_iff.2 (List.countP_eq_zero.1 own c inside)

theorem plain_of_union? {options : List String}
    (read : union? (unionType options).toList = some (options.map fun o => unitsOf o.toList)) :
    ∀ o ∈ options, ∀ c ∈ o.toList, isLost c = false := by
  cases options with
  | nil => simp
  | cons option rest =>
      rw [union?, if_neg (unionType_ne_nil option rest)] at read
      have enough := members?_room read
      have needs := room_unionType option rest
      apply forall_of_lostIn
      omega

theorem isLost_eq_false_iff (c : Char) : isLost c = false ↔ c ≠ '\\' ∧ c ≠ '\n' ∧ c ≠ '\r' := by
  simp [isLost, isLineEnd]

/-- Read as a script reads it, a union type gives its options, one literal for each of them and in their order, exactly
if no option holds a backslash or a line end. -/
theorem unionType_denotes_iff (options : List String) :
    union? (unionType options).toList = some (options.map fun o => unitsOf o.toList) ↔
      ∀ o ∈ options, ∀ c ∈ o.toList, c ≠ '\\' ∧ c ≠ '\n' ∧ c ≠ '\r' := by
  simp only [← isLost_eq_false_iff]
  exact ⟨plain_of_union?, union?_unionType⟩

/-- The backslash of this option begins an escape. -/
theorem backslash_unread : ¬ ∀ options : List String,
    union? (unionType options).toList = some (options.map fun o => unitsOf o.toList) := by
  intro all
  have plain := plain_of_union? (all ["a\\", "b"])
  have kept := plain "a\\" List.mem_cons_self '\\' (by decide)
  exact absurd kept (by decide)

end DesignProps.Generator
