import DesignProps.Console.Emoji.Names
import DesignProps.Text.Blank
import DesignProps.Text.Case

/-!
# Emoji

A name between two colons stands for an emoji.  It may end in a variant, which says whether the emoji is drawn as a
picture or as a letter.  Names are compared in lower case, and one that is not known is left as it is.

Main statement: `replace_of_no_colon` (without colons there is nothing to replace).
-/

set_option autoImplicit false

namespace DesignProps.Console.Emoji

/-- Names and emoji in turn, as pairs. -/
def paired : List (List Char) → List (List Char × List Char)
  | name :: emoji :: rest => (name, emoji) :: paired rest
  | _ => []

def table : List (List Char × List Char) := paired (listed.flatMap fun line => Text.words line.toList)

def find? (name : List Char) : Option (List Char) :=
  let name := Text.lowerAfter [] name
  (table.find? fun e => e.1 == name).map Prod.snd

/-- What a name may end in, and the selector that is put behind the emoji for it. -/
def variants : List (List Char × Char) := [("-emoji".toList, '\uFE0F'), ("-text".toList, '\uFE0E')]

/-- The emoji of what stands between two colons. -/
def named? (code : List Char) : Option (List Char) :=
  match variants.find? fun v => v.1.isSuffixOf code with
  | some (variant, selector) => (find? (code.take (code.length - variant.length))).map (· ++ [selector])
  | none => find? code

/-- What stands before the next colon, without blanks, and what follows the colon. -/
def code? : List Char → Option (List Char × List Char)
  | [] => none
  | c :: rest =>
      if c = ':' then some ([], rest)
      else if Text.isBlank c then none
      else (code? rest).map fun (code, after) => (c :: code, after)

theorem length_of_code? {cs code after : List Char} (h : code? cs = some (code, after)) :
    after.length < cs.length := by
  induction cs generalizing code with
  | nil => simp [code?] at h
  | cons c rest ih =>
      simp only [code?] at h
      split at h
      · simp only [Option.some.injEq, Prod.mk.injEq] at h
        simp [h.2]
      · split at h
        · simp at h
        · obtain ⟨⟨inner, left⟩, found, eq⟩ := Option.map_eq_some_iff.1 h
          simp only [Prod.mk.injEq] at eq
          have := ih (eq.2 ▸ found)
          simp only [List.length_cons]
          omega

/-- A text with its emoji. -/
def replace : List Char → List Char
  | [] => []
  | c :: rest =>
      if c = ':' then
        match h : code? rest with
        | some (code, after) =>
            have : after.length < rest.length + 1 := Nat.lt_succ_of_lt (length_of_code? h)
            (named? code).getD (':' :: code ++ [':']) ++ replace after
        | none => c :: replace rest
      else c :: replace rest
termination_by cs => cs.length

theorem replace_of_no_colon (cs : List Char) (h : ':' ∉ cs) : replace cs = cs := by
  induction cs with
  | nil => rw [replace]
  | cons c rest ih =>
      obtain ⟨ne, free⟩ := not_or.1 fun e => h (List.mem_cons.2 e)
      rw [replace, if_neg (Ne.symm ne), ih free]

end DesignProps.Console.Emoji
