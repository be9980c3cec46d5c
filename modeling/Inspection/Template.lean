import Inspection.Text.Blank
import Inspection.Text.Split

/-!
# Template — Variables in texts

A template holds placeholders: `#`, an opening brace, a name with blanks around it, and a closing
brace.  Names have ASCII letters, digits, `_`, `.` and `-`.  All else, also what only looks like
the start of a placeholder, is literal.

* `Template.pieces`: a text cut into literal characters and placeholders.
* `Bindings.substitute`: the text with the placeholders replaced, in one pass: what a variable
  stands for is not looked at again.
-/

namespace Inspection

namespace Template

/-- A character of a variable's name. -/
def isNameChar (c : Char) : Bool := c.isAlphanum || c == '_' || c == '.' || c == '-'

/-- The text is a variable's name. -/
def isName (s : List Char) : Bool := !s.isEmpty && s.all isNameChar

/-- The inside of a placeholder and what follows its closing brace. -/
def inside? (s : List Char) : Option (List Char × List Char) :=
  let name := (Text.trimStart s).takeWhile isNameChar
  match name, Text.trimStart ((Text.trimStart s).dropWhile isNameChar) with
  | _ :: _, '\x7d' :: rest => some (name, rest)
  | _, _ => none

/-- The name of the placeholder that a text starts with, and what follows it. -/
def placeholder? : List Char → Option (List Char × List Char)
  | '#' :: '\x7b' :: s => inside? s
  | _ => none

/-- A part of a template. -/
inductive Piece where
  | literal (c : Char)
  | placeholder (written name : List Char)
deriving DecidableEq, Repr

/-- A piece as it stands in the template. -/
def Piece.written : Piece → List Char
  | .literal c => [c]
  | .placeholder written _ => written

theorem suffix_of_inside? {s name rest : List Char} (h : inside? s = some (name, rest)) :
    '\x7d' :: rest <:+ s := by
  unfold inside? at h
  simp only at h
  split at h
  · rename_i hrest
    simp only [Option.some.injEq, Prod.mk.injEq] at h
    obtain ⟨-, rfl⟩ := h
    rw [← hrest]
    exact (List.dropWhile_suffix _).trans
      ((List.dropWhile_suffix _).trans (List.dropWhile_suffix _))
  · simp at h

/-- What follows a placeholder is shorter than the text. -/
theorem length_lt_of_placeholder? {s name rest : List Char}
    (h : placeholder? s = some (name, rest)) : rest.length < s.length := by
  unfold placeholder? at h
  split at h
  · rename_i inner
    have hl := (suffix_of_inside? h).length_le
    simp only [List.length_cons] at hl ⊢
    omega
  · simp at h

/-- A text cut into pieces from left to right. -/
def pieces (s : List Char) : List Piece :=
  match s with
  | [] => []
  | c :: cs =>
    match _h : placeholder? (c :: cs) with
    | some (name, rest) =>
      .placeholder ((c :: cs).take ((c :: cs).length - rest.length)) name :: pieces rest
    | none => .literal c :: pieces cs
termination_by s.length
decreasing_by
  · exact length_lt_of_placeholder? ‹_›
  · simp

end Template

/-- A placeholder whose name stands for nothing. -/
structure BindingError where
  name : String
  template : String
deriving DecidableEq, Repr

/-- The wording of the error. -/
def BindingError.message (e : BindingError) : String :=
  "Unbound variable '#\x7b" ++ e.name ++ "\x7d' in template: " ++ e.template

/-- What variables stand for; the latest binding of a name comes first. -/
structure Bindings where
  latestFirst : List (String × String) := []
deriving DecidableEq, Repr

namespace Bindings

/-- No variable stands for anything. -/
def empty : Bindings := {}

/-- Binds a name, for the first time or again. -/
def bind (b : Bindings) (name value : String) : Bindings := ⟨(name, value) :: b.latestFirst⟩

/-- Binds names one after another. -/
def bindAll (b : Bindings) (vars : List (String × String)) : Bindings :=
  vars.foldl (fun b (name, value) => b.bind name value) b

/-- What a name stands for. -/
def get? (b : Bindings) (name : String) : Option String := b.latestFirst.lookup name

@[simp] theorem get?_bind_self (b : Bindings) (name value : String) :
    (b.bind name value).get? name = some value := by
  simp [bind, get?]

theorem get?_bind_of_ne {name other : String} (b : Bindings) (value : String)
    (h : other ≠ name) : (b.bind name value).get? other = b.get? other := by
  simp only [bind, get?, List.lookup_cons, beq_eq_false_iff_ne.2 h]

/-- What a piece stands for; the name of a placeholder that stands for nothing. -/
def render (b : Bindings) : Template.Piece → Except String (List Char)
  | .literal c => .ok [c]
  | .placeholder _ name =>
    match b.get? (String.ofList name) with
    | some value => .ok value.toList
    | none => .error (String.ofList name)

/-- The pieces one after another, up to the first name that stands for nothing. -/
def renderAll (b : Bindings) : List Template.Piece → Except String (List Char)
  | [] => .ok []
  | p :: rest =>
    match b.render p with
    | .error name => .error name
    | .ok text => (renderAll b rest).map (text ++ ·)

/-- The template with its placeholders replaced. -/
def substitute (b : Bindings) (template : String) : Except BindingError String :=
  match b.renderAll (Template.pieces template.toList) with
  | .ok text => .ok (String.ofList text)
  | .error name => .error ⟨name, template⟩

end Bindings

end Inspection
