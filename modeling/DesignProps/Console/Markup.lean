import DesignProps.Console.Emoji
import DesignProps.Console.Literal
import DesignProps.Console.Marked
import DesignProps.Console.Style
import DesignProps.Text.WordChar

/-!
# Markup

Text for the console may hold tags in brackets: `[name]` opens a style, `[/name]` closes it and `[/]` closes the last
one; tags are told apart by the normal form of their style.  A backslash before a tag makes it plain text.  A console
without styles shows the text between the tags, with emoji and without control characters.  A closing tag without an
opening one is refused, and so is a handler whose parameters are no literal.

Main statements: `pieces_of_no_bracket` (without brackets a text is one piece), `ofText_plain` (and with neither
brackets, colons nor control characters it is shown as it is).
-/

set_option autoImplicit false

namespace DesignProps.Console

/-- Why a text cannot be printed. -/
inductive PrintError
  | unopened (tag : String)
  | parameters (text : String)
  /-- A color's channel is not a number. -/
  | channel
  /-- A row cannot be brought to its width. -/
  | row (e : CutError)
  deriving DecidableEq, Repr

namespace Markup

/-! ## Pieces -/

/-- A tag's name, and what follows its equals sign. -/
structure Tag where
  name : List Char
  parameters : Option (List Char)
  deriving DecidableEq, Repr

inductive Piece
  | text (chunk : List Char)
  | opening (tag : Tag)
  | closing (name : List Char)
  deriving DecidableEq, Repr

def isTagStart (c : Char) : Bool := ('a' ≤ c && c ≤ 'z') || c == '#' || c == '/' || c == '@'

/-- The rest of a tag up to its bracket, and what follows. -/
def tagEnd? : List Char → Option (List Char × List Char)
  | [] => none
  | c :: rest =>
      if c = ']' then some ([], rest)
      else if c = '[' then none
      else (tagEnd? rest).map fun (tag, after) => (c :: tag, after)

/-- The tag that a text begins with, behind backslashes, and what follows. -/
def marked? : List Char → Option (Nat × List Char × List Char)
  | '\\' :: rest => (marked? rest).map fun (backslashes, tag) => (backslashes + 1, tag)
  | '[' :: c :: rest => if isTagStart c then (tagEnd? rest).map fun (tag, after) => (0, c :: tag, after) else none
  | _ => none

def tagOf (content : List Char) : Tag where
  name := content.takeWhile (· ≠ '=')
  parameters := if content.contains '=' then some ((content.dropWhile (· ≠ '=')).tail) else none

def pieceOfTag (content : List Char) : Piece :=
  match (tagOf content).name with
  | '/' :: name => .closing (Text.trimBlanks name)
  | _ => .opening (tagOf content)

/-- Two backslashes before a tag are one; an odd one makes the tag plain text. -/
def piecesOfMark (backslashes : Nat) (content : List Char) : List Piece :=
  (if backslashes < 2 then [] else [.text (List.replicate (backslashes / 2) '\\')])
    ++ [if backslashes % 2 = 1 then .text ('[' :: content ++ [']']) else pieceOfTag content]

/-- A bracket that begins no tag may stand behind a backslash. -/
def unescaped : List Char → List Char
  | '\\' :: '[' :: rest => '[' :: unescaped rest
  | c :: rest => c :: unescaped rest
  | [] => []

def chunk (read : List Char) : List Piece := if read.isEmpty then [] else [.text (unescaped read.reverse)]

theorem length_of_tagEnd? {cs tag after : List Char} (h : tagEnd? cs = some (tag, after)) :
    after.length < cs.length := by
  induction cs generalizing tag with
  | nil => simp [tagEnd?] at h
  | cons c rest ih =>
      simp only [tagEnd?] at h
      split at h
      · simp only [Option.some.injEq, Prod.mk.injEq] at h
        simp [h.2]
      · split at h
        · simp at h
        · obtain ⟨⟨inner, left⟩, found, eq⟩ := Option.map_eq_some_iff.1 h
          simp only [Prod.mk.injEq] at eq
          have := ih (eq.2 ▸ found)
          simp only [List.length_cons]
          omega

theorem length_of_marked? {cs content after : List Char} {backslashes : Nat}
    (h : marked? cs = some (backslashes, content, after)) : after.length < cs.length := by
  fun_induction marked? cs generalizing backslashes with
  | case1 rest ih =>
      obtain ⟨⟨n, inner, left⟩, found, eq⟩ := Option.map_eq_some_iff.1 h
      simp only [Prod.mk.injEq] at eq
      obtain ⟨_, rfl, rfl⟩ := eq
      exact Nat.lt_succ_of_lt (ih found)
  | case2 c rest _ =>
      obtain ⟨⟨inner, left⟩, found, eq⟩ := Option.map_eq_some_iff.1 h
      simp only [Prod.mk.injEq] at eq
      have := length_of_tagEnd? (eq.2.2 ▸ found)
      simp only [List.length_cons]
      omega
  | case3 => simp at h
  | case4 => simp at h

/-- The pieces of a text, behind the plain text that was read so far, last character first. -/
def piecesAfter (read : List Char) : List Char → List Piece
  | [] => chunk read
  | c :: rest =>
      match h : marked? (c :: rest) with
      | some (backslashes, content, after) =>
          have : after.length < rest.length + 1 := length_of_marked? h
          chunk read ++ piecesOfMark backslashes content ++ piecesAfter [] after
      | none => piecesAfter (c :: read) rest
termination_by cs => cs.length

def pieces (cs : List Char) : List Piece := piecesAfter [] cs

/-! ## Handlers -/

/-- A tag whose name begins so is no style but names a handler. -/
def Tag.isHandler (t : Tag) : Bool := t.name.head? == some '@'

def isHandlerChar (c : Char) : Bool := c == '.' || Text.isWordChar c

/-- The literal that a handler's parameters hold: what stands in brackets behind a name, or all of it. -/
def handled (parameters : List Char) : List Char :=
  let rest := parameters.dropWhile isHandlerChar
  if rest.isEmpty then ['(', ')']
  else if rest.head? = some '(' ∧ rest.getLast? = some ')' ∧ '\n' ∉ rest then rest
  else parameters

/-- Whether a tag can be closed. -/
def Tag.checkHandler (t : Tag) : Except PrintError Unit :=
  match t.parameters with
  | none => .ok ()
  | some parameters =>
      if t.isHandler && !parameters.isEmpty && !Literal.isLiteral (handled (Text.trimBlanks parameters)) then
        .error (.parameters (String.ofList parameters))
      else .ok ()

/-! ## Marked text -/

/-- The text so far and its spans, with the tags that are open and where they were opened, the last one first. -/
structure Progress where
  marked : Marked
  opened : List (Nat × Tag)
  deriving DecidableEq, Repr

/-- Control characters that a console does not show. -/
def isHiddenControl (c : Char) : Bool :=
  c == '\x07' || c == '\x08' || c == '\x0b' || c == '\x0c' || c == '\r'

def shown (cs : List Char) : List Char := cs.filter fun c => !isHiddenControl c

def Tag.style (t : Tag) : List Char :=
  match t.parameters with
  | some parameters => t.name ++ ' ' :: parameters
  | none => t.name

namespace Progress

def start : Progress := ⟨⟨[], []⟩, []⟩

def addText (p : Progress) (cs : List Char) : Progress :=
  { p with marked := { p.marked with text := p.marked.text ++ shown (Emoji.replace cs) } }

/-- Ends a style where the text ends so far. -/
def addSpan (p : Progress) (opened : Nat × Tag) : Progress :=
  { p with marked :=
      { p.marked with spans := p.marked.spans ++ [⟨opened.1, p.marked.text.length, opened.2.style⟩] } }

def normalForm (name : List Char) : Except PrintError (List Char) :=
  match Style.normalForm name with
  | .ok normal => .ok normal
  | .error _ => .error .channel

def enter (p : Progress) (t : Tag) : Except PrintError Progress :=
  (normalForm t.name).map fun name =>
    { p with opened := (p.marked.text.length, { t with name := name }) :: p.opened }

/-- Leaves the last tag, or the last one of a name. -/
def leave (p : Progress) (name : List Char) : Except PrintError Progress := do
  let name ← if name.isEmpty then .ok name else normalForm name
  let (others, closed) :=
    (p.opened.takeWhile fun e => !(name.isEmpty || e.2.name == name),
      p.opened.dropWhile fun e => !(name.isEmpty || e.2.name == name))
  match closed with
  | [] => .error (.unopened (String.ofList name))
  | opened :: rest => do
      opened.2.checkHandler
      let p := { p with opened := others ++ rest }
      .ok (if opened.2.isHandler then p else p.addSpan opened)

def step (p : Progress) : Piece → Except PrintError Progress
  | .text chunk => .ok (p.addText chunk)
  | .opening tag => p.enter tag
  | .closing name => p.leave name

def run (p : Progress) : List Piece → Except PrintError Progress
  | [] => .ok p
  | piece :: rest =>
      match p.step piece with
      | .ok p => p.run rest
      | .error e => .error e

/-- The styles that are still open end with the text. -/
def finish (p : Progress) : Marked := (p.opened.foldl addSpan p).marked

end Progress

/-- The text that a console shows, and its styles. -/
def ofText (cs : List Char) : Except PrintError Marked :=
  if cs.contains '[' then (Progress.start.run (pieces cs)).map Progress.finish
  else .ok ⟨shown (Emoji.replace cs), []⟩

/-! ## Laws -/

theorem marked?_of_no_bracket {cs : List Char} (h : '[' ∉ cs) : marked? cs = none := by
  fun_induction marked? cs with
  | case1 rest ih => simp [ih fun mem => h (List.mem_cons_of_mem _ mem)]
  | case2 c rest _ => simp at h
  | case3 => rfl
  | case4 => rfl

theorem unescaped_of_no_bracket {cs : List Char} (h : '[' ∉ cs) : unescaped cs = cs := by
  fun_induction unescaped cs with
  | case1 rest ih => simp at h
  | case2 c rest _ ih => rw [ih fun mem => h (List.mem_cons_of_mem _ mem)]
  | case3 => rfl

theorem piecesAfter_of_no_bracket {read cs : List Char} (free : '[' ∉ cs) :
    piecesAfter read cs = chunk (cs.reverse ++ read) := by
  induction cs generalizing read with
  | nil => rw [piecesAfter, List.reverse_nil, List.nil_append]
  | cons c rest ih =>
      rw [piecesAfter]
      split
      · next found => rw [marked?_of_no_bracket free] at found; simp at found
      · rw [ih fun mem => free (List.mem_cons_of_mem _ mem)]
        simp

theorem pieces_of_no_bracket {cs : List Char} (filled : cs ≠ []) (free : '[' ∉ cs) : pieces cs = [.text cs] := by
  rw [pieces, piecesAfter_of_no_bracket free, List.append_nil, chunk]
  simp [filled, unescaped_of_no_bracket free]

theorem ofText_plain {cs : List Char} (brackets : '[' ∉ cs) (colons : ':' ∉ cs)
    (controls : ∀ c ∈ cs, isHiddenControl c = false) : ofText cs = .ok ⟨cs, []⟩ := by
  have kept : shown cs = cs := List.filter_eq_self.2 fun c mem => by simp [controls c mem]
  simp [ofText, brackets, Emoji.replace_of_no_colon cs colons, kept]

end Markup

end DesignProps.Console
