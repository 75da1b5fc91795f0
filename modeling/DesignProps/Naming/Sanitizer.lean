import DesignProps.Naming.Words
import DesignProps.OrderedMap

/-!
# Sanitizers

A sanitizer writes labels as names, with a fallback for labels without a letter and a suffix for reserved words.
`Memo` is a sanitizer that remembers what it answered; its answers are filed under one text made of label, case and
suffix.

Main statement: `Memo.name_new` (the first answer is the sanitizer's own).
-/

set_option autoImplicit false

namespace DesignProps

structure Sanitizer where
  reserved : List String
  fallback : String
  deriving Repr

namespace Sanitizer

def protect (s : Sanitizer) (suffix name : String) : String :=
  if s.reserved.contains name then name ++ suffix else name

def name (s : Sanitizer) (target : NameCase) (suffix label : String) : String :=
  let written := Naming.write target (Naming.words label.toList)
  s.protect suffix (if written.isEmpty then s.fallback else String.ofList written)

end Sanitizer

def NameCase.tag : NameCase → String
  | .snake => "snake"
  | .camel => "camel"
  | .pascal => "pascal"
  | .kebab => "kebab"

def NameCase.ofTag? (s : String) : Option NameCase :=
  [NameCase.snake, .camel, .pascal, .kebab].find? fun c => c.tag == s

/-! ## Remembered answers -/

/-- A sanitizer and its answers so far. -/
structure Sanitizer.Memo where
  rules : Sanitizer
  answers : OrderedMap String String

namespace Sanitizer.Memo

def new (rules : Sanitizer) : Memo := ⟨rules, .empty⟩

def ticket (target : NameCase) (suffix label : String) : String :=
  label ++ "_" ++ target.tag ++ "_" ++ suffix

def name (m : Memo) (target : NameCase) (suffix label : String) : String × Memo :=
  match m.answers.get? (ticket target suffix label) with
  | some answer => (answer, m)
  | none =>
      let answer := m.rules.name target suffix label
      (answer, { m with answers := m.answers.insert (ticket target suffix label) answer })

theorem name_new (rules : Sanitizer) (target : NameCase) (suffix label : String) :
    ((new rules).name target suffix label).1 = rules.name target suffix label := rfl

end Sanitizer.Memo

end DesignProps
