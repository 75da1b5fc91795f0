import DesignProps.Text.Pattern
import DesignProps.Text.Split

/-!
# Lexers

A lexer cuts a text into pieces by rules.  In each of its states the first rule counts whose pattern matches; the
groups of the pattern are pieces of their own, and the rule may lead to another state or back.  Where no rule matches, a
single character is a piece, and a line end leads back to where the lexer began.

Main statements: `flatten_pieces` (the pieces are the text), `ne_nil_of_mem_pieces` (and none of them is empty).
-/

set_option autoImplicit false

namespace DesignProps.Highlight

open Text (Pattern Reading)

inductive Move (σ : Type)
  | enter (state : σ)
  | again
  | leave
  deriving DecidableEq, Repr

/-- What follows a match, and how another lexer cuts it, if one does. -/
structure Rule (σ : Type) where
  pattern : Pattern
  moves : List (Move σ)
  within : Option (List Char → List (List Char))

namespace Rule

variable {σ : Type}

/-- A rule that stays in its state. -/
def stay (p : Pattern) : Rule σ := ⟨p, [], none⟩

def enter (p : Pattern) (state : σ) : Rule σ := ⟨p, [.enter state], none⟩

def leave (p : Pattern) : Rule σ := ⟨p, [.leave], none⟩

end Rule

structure Lexer (σ : Type) where
  first : σ
  rules : σ → List (Rule σ)

/-- A state, and the states to which it leads back. -/
structure States (σ : Type) where
  current : σ
  below : List σ

namespace States

variable {σ : Type}

def move (s : States σ) : Move σ → States σ
  | .enter state => ⟨state, s.current :: s.below⟩
  | .again => ⟨s.current, s.current :: s.below⟩
  | .leave =>
      match s.below with
      | [] => s
      | state :: below => ⟨state, below⟩

def moves (s : States σ) (ms : List (Move σ)) : States σ := ms.foldl move s

end States

namespace Rule

variable {σ : Type}

/-- The pieces of a text that lies between two readings. -/
def cut (r : Rule σ) (s after : Reading) (matched : List Char) : List (List Char) :=
  match r.within with
  | some pieces => pieces matched
  | none => Text.cutFrom s.place (after.groups.reverse.flatMap fun (start, stop) => [start, stop]) matched

end Rule

namespace Lexer

variable {σ : Type}

/-- The first rule that matches, and where its match ends. -/
def rule? (l : Lexer σ) (state : σ) (s : Reading) : Option (Rule σ × Reading) :=
  (l.rules state).findSome? fun r => (r.pattern.match? s).map fun after => (r, after)

/-- The pieces of what is left of a text; some of them may be empty.  The fuel is the number of matches. -/
def piecesFrom (l : Lexer σ) : Nat → States σ → Reading → List (List Char)
  | 0, _, s => [s.rest]
  | fuel + 1, states, s =>
      match l.rule? states.current s with
      | some (r, after) =>
          let length := after.place - s.place
          r.cut s after (s.rest.take length)
            ++ l.piecesFrom fuel (states.moves r.moves) (Reading.advance length s)
      | none =>
          match s.rest with
          | [] => []
          | c :: _ => [c] :: l.piecesFrom fuel (if c = '\n' then ⟨l.first, []⟩ else states) s.next

/-- A lexer steps forward at least once in five matches. -/
def pieces (l : Lexer σ) (cs : List Char) : List (List Char) :=
  Text.filled (l.piecesFrom (5 * cs.length + 5) ⟨l.first, []⟩ (Reading.start cs))

end Lexer

/-! ## Laws -/

namespace Lexer

variable {σ : Type}

/-- The rules of a lexer cut texts up without loss. -/
def Keeps (l : Lexer σ) : Prop :=
  ∀ state, ∀ r ∈ l.rules state, ∀ pieces, r.within = some pieces → ∀ cs, (pieces cs).flatten = cs

theorem mem_of_rule? {l : Lexer σ} {state : σ} {s after : Reading} {r : Rule σ}
    (h : l.rule? state s = some (r, after)) : r ∈ l.rules state := by
  obtain ⟨r', mem, found⟩ := List.exists_of_findSome?_eq_some h
  obtain ⟨_, _, eq⟩ := Option.map_eq_some_iff.1 found
  rwa [← (Prod.mk.inj eq).1]

theorem flatten_piecesFrom (l : Lexer σ) (keeps : l.Keeps) (fuel : Nat) (states : States σ) (s : Reading) :
    (l.piecesFrom fuel states s).flatten = s.rest := by
  induction fuel generalizing states s with
  | zero => simp [piecesFrom]
  | succ fuel ih =>
      rw [piecesFrom]
      split
      · next r after found =>
          have whole : (r.cut s after (s.rest.take (after.place - s.place))).flatten
              = s.rest.take (after.place - s.place) := by
            unfold Rule.cut
            split
            · next pieces inner => exact keeps _ r (mem_of_rule? found) pieces inner _
            · exact Text.flatten_cutFrom _ _ _
          rw [List.flatten_append, whole, ih, Reading.rest_advance, List.take_append_drop]
      · split
        · next empty => rw [empty]; rfl
        · next c rest filled => rw [List.flatten_cons, ih, Reading.rest_next, filled]; rfl

theorem flatten_pieces (l : Lexer σ) (keeps : l.Keeps) (cs : List Char) : (l.pieces cs).flatten = cs := by
  rw [pieces, Text.flatten_filled, flatten_piecesFrom l keeps]
  rfl

theorem ne_nil_of_mem_pieces {l : Lexer σ} {cs piece : List Char} (h : piece ∈ l.pieces cs) : piece ≠ [] :=
  Text.ne_nil_of_mem_filled h

end Lexer

end DesignProps.Highlight
