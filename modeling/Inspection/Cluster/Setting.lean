import Inspection.Decimal.Layout
import Inspection.Text.Lower
import Inspection.Text.Quoted

/-!
# Cluster — Settings

A setting is what a source of settings gives for a name.  It is taken leniently: a number may be
written as a text, a text as a number, and a truth value as either.

* `Setting.natural`, `Setting.flag`, `Setting.text`: what a setting amounts to where a number, a
  truth value or a text is wanted, or why it amounts to none.
* `SettingPath.ofText`: the place that a name with dots and indices means.
* `Setting.put`: the settings with one more, later ones winning over earlier ones.
-/

namespace Inspection.Cluster

open Text (lowered)

/-- What gives settings. -/
inductive Source where
  | file (path : String)
  | environment
deriving DecidableEq, Repr

/-- How messages name a source. -/
def Source.name : Source → String
  | .file path => path
  | .environment => "the environment"

/-- A setting that holds no others. -/
inductive Plain where
  | unset
  | flag (b : Bool)
  | integer (i : Int)
  | number (r : Decimal.Reading)
  | text (s : String)
deriving DecidableEq, Repr

/-- A setting, with the source that gives it; one made to hold others has none. -/
inductive Setting where
  | plain (source : Option Source) (value : Plain)
  | list (source : Option Source) (items : List Setting)
  | table (source : Option Source) (entries : List (String × Setting))

/-! ### Misfits -/

/-- What is wrong with a setting. -/
inductive Mismatch where
  /-- It is something else than is wanted. -/
  | unsuited (found wanted : String) (source : Option Source)
  /-- A table lacks a field. -/
  | missing (field : String)
  /-- A list that stands for a table has too few items. -/
  | short (count : Nat) (wanted : String)
deriving DecidableEq, Repr

/-- Why settings do not have the form that is wanted: what is wrong, and where. -/
structure Misfit where
  mismatch : Mismatch
  /-- The names and indices that lead there, joined. -/
  key : Option String := none
deriving DecidableEq, Repr

namespace Misfit

/-- The wording of a misfit. -/
def message (m : Misfit) : String :=
  let place := (m.key.map fun k => " for key \x60" ++ k ++ "\x60").getD ""
  match m.mismatch with
  | .unsuited found wanted source =>
    "invalid type: " ++ found ++ ", expected " ++ wanted ++ place
      ++ (source.map fun s => " in " ++ s.name).getD ""
  | .missing field => "missing field \x60" ++ field ++ "\x60" ++ place
  | .short count wanted =>
    "invalid length " ++ Text.natText count ++ ", expected " ++ wanted ++ place

/-- The misfit of a setting, seen from the table that has it under a name. -/
def under (name : String) (m : Misfit) : Misfit :=
  let rest := m.key.getD ""
  let joint := if rest.isEmpty || rest.startsWith "[" then "" else "."
  { m with key := some (name ++ joint ++ rest) }

/-- The misfit of a setting, seen from the list that has it at an index. -/
def atIndex (i : Nat) (m : Misfit) : Misfit :=
  { m with key := some ("[" ++ Text.natText i ++ "]" ++ m.key.getD "") }

end Misfit

/-! ### What settings amount to -/

/-- The nearest natural number, halves upward; what is negative or no number counts as zero, and
what is too large as the largest. -/
def roundedNatural : Decimal.Reading → Nat
  | .nan | .infinite true | .finite true _ => 0
  | .infinite false => Text.unsignedBound - 1
  | .finite false units =>
    let one := Nat.pow 2 Decimal.binary64.lowest
    min ((2 * units + one) / (2 * one)) (Text.unsignedBound - 1)

/-- The truth value that a word stands for, by the words for it. -/
def wordFlag? (s : String) : Option Bool :=
  if ["true", "on", "yes"].contains (lowered s) then some true
  else if ["false", "off", "no"].contains (lowered s) then some false
  else none

/-- A truth value as a text. -/
def flagText (b : Bool) : String := if b then "true" else "false"

/-- A number as a text. -/
def numberText (r : Decimal.Reading) : String := Decimal.plain.write Decimal.binary64 r

/-- How messages show a plain setting. -/
def Plain.shown : Plain → String
  | .unset => "unit value"
  | .flag b => "boolean \x60" ++ flagText b ++ "\x60"
  | .integer i => "64-bit integer \x60" ++ Text.intText i ++ "\x60"
  | .number r => "floating point \x60" ++ numberText r ++ "\x60"
  | .text s => "string " ++ Text.quoted s

namespace Setting

/-- How messages show a setting. -/
def shown : Setting → String
  | .plain _ p => p.shown
  | .list .. => "sequence"
  | .table .. => "map"

/-- How messages show a setting where a list or a table is wanted: integers without their width,
numbers with a point. -/
def shownInPlace : Setting → String
  | .plain _ (.integer i) => "integer \x60" ++ Text.intText i ++ "\x60"
  | .plain _ (.number r) =>
    let text := numberText r
    let whole := text.toList.all fun c => c.isDigit || c == '-'
    "floating point \x60" ++ text ++ (if whole then ".0" else "") ++ "\x60"
  | s => s.shown

/-- The source of a setting. -/
def source : Setting → Option Source
  | .plain source _ | .list source _ | .table source _ => source

/-- The misfit of a setting that is not what is wanted. -/
def unsuited (s : Setting) (wanted : String) : Misfit :=
  ⟨.unsuited s.shown wanted s.source, none⟩

/-- The misfit of a setting where a list or a table is wanted. -/
def unsuitedInPlace (s : Setting) (wanted : String) : Misfit :=
  ⟨.unsuited s.shownInPlace wanted none, none⟩

/-- The natural number of 64 bits that a setting amounts to. -/
def natural (s : Setting) : Except Misfit Nat :=
  let n? : Option Nat := match s with
    | .plain _ (.flag b) => some b.toNat
    | .plain _ (.integer i) => if 0 ≤ i then some i.toNat else none
    | .plain _ (.number r) => some (roundedNatural r)
    | .plain _ (.text t) =>
      match wordFlag? t with
      | some b => some b.toNat
      | none => Text.nat? Text.unsignedBound t.toList
    | _ => none
  match n? with
  | some n => .ok n
  | none => .error (s.unsuited "an unsigned 64 bit or less integer")

/-- The truth value that a setting amounts to. -/
def flag (s : Setting) : Except Misfit Bool :=
  match s with
  | .plain _ (.flag b) => .ok b
  | .plain _ (.integer i) => .ok (i != 0)
  | .plain _ (.number r) => .ok (r.value? != some 0)
  | .plain source (.text t) =>
    if t = "1" then .ok true
    else if t = "0" then .ok false
    else match wordFlag? t with
      | some b => .ok b
      | none => .error ((plain source (.text (lowered t))).unsuited "a boolean")
  | _ => .error (s.unsuited "a boolean")

/-- The text that a setting amounts to. -/
def text (s : Setting) : Except Misfit String :=
  match s with
  | .plain _ (.flag b) => .ok (flagText b)
  | .plain _ (.integer i) => .ok (Text.intText i)
  | .plain _ (.number r) => .ok (numberText r)
  | .plain _ (.text t) => .ok t
  | _ => .error (s.unsuited "a string")

/-- The entries of a table; anything else has none. -/
def entries : Setting → List (String × Setting)
  | .table _ es => es
  | _ => []

/-- The items of a list; anything else has none. -/
def items : Setting → List Setting
  | .list _ l => l
  | _ => []

end Setting

/-- Entries with one of them replaced or added. -/
def putEntry (es : List (String × Setting)) (name : String) (s : Setting) :
    List (String × Setting) :=
  if (es.lookup name).isSome then es.map fun e => if e.1 = name then (name, s) else e
  else es ++ [(name, s)]

namespace Setting

/-- A table without entries, made to hold some. -/
def emptyTable : Setting := .table none []

/-- The source of a table; anything else becomes one that is made. -/
def tableSource : Setting → Option Source
  | .table source _ => source
  | _ => none

/-- The source of a list; anything else becomes one that is made. -/
def listSource : Setting → Option Source
  | .list source _ => source
  | _ => none

/-- The table with an entry replaced or added. -/
def withEntry (root : Setting) (name : String) (s : Setting) : Setting :=
  .table root.tableSource (putEntry root.entries name s)

end Setting

/-! ### Places -/

/-- A place among settings. -/
inductive SettingPath where
  | name (s : String)
  | child (p : SettingPath) (s : String)
  | index (p : SettingPath) (i : Int)
deriving DecidableEq, Repr

namespace SettingPath

/-- A character of a name. -/
def isNameChar (c : Char) : Bool := c.isAlphanum || c == ' ' || c == '_' || c == '-'

/-- An index between spaces or tabs: digits, with a minus where it counts from the end. -/
def index? (s : List Char) : Option Int :=
  let isGap (c : Char) : Bool := c == ' ' || c == '\t'
  let inner := ((s.dropWhile isGap).reverse.dropWhile isGap).reverse
  if inner.head? == some '+' then none else Text.int? Text.signedBound inner

/-- The rest of a place's text; none if it is not well formed. -/
def steps? : Nat → SettingPath → List Char → Option SettingPath
  | 0, _, _ => none
  | _ + 1, p, [] => some p
  | fuel + 1, p, '.' :: s =>
    let name := s.takeWhile isNameChar
    if name.isEmpty then none
    else steps? fuel (.child p (String.ofList name)) (s.dropWhile isNameChar)
  | fuel + 1, p, '[' :: s =>
    (Text.splitFirst? (· == ']') s).bind fun (inside, rest) =>
      (index? inside).bind fun i => steps? fuel (.index p i) rest
  | _ + 1, _, _ => none

/-- The place that a name with dots and indices means; a name that is not well formed stands for
itself. -/
def ofText (raw : String) : SettingPath :=
  let s := raw.toList
  let first := s.takeWhile isNameChar
  let path :=
    if first.isEmpty then none
    else steps? (s.length + 1) (.name (String.ofList first)) (s.dropWhile isNameChar)
  path.getD (.name raw)

/-- The settings with the one at a place changed; what is missing on the way is made. -/
def change (f : Setting → Setting) : SettingPath → Setting → Setting
  | .name s, root =>
    root.withEntry s (f ((root.entries.lookup s).getD (.plain none .unset)))
  | .child p s, root =>
    p.change (fun v => v.withEntry s (f ((v.entries.lookup s).getD (.plain none .unset)))) root
  | .index p i, root =>
    p.change (fun v =>
      let count := v.items.length
      let n := if 0 ≤ i then i.toNat else count - i.natAbs
      let unset := Setting.plain none .unset
      let padded := v.items ++ List.replicate (n + 1 - count) unset
      .list v.listSource (padded.set n (f (padded.getD n unset)))) root

end SettingPath

namespace Setting

mutual

/-- The table with a setting under a name; tables are joined entry by entry. -/
def putName (root : Setting) (name : String) : Setting → Setting
  | .table _ es =>
    root.withEntry name (putNames ((root.entries.lookup name).getD emptyTable) es)
  | s => root.withEntry name s

/-- The table with several settings. -/
def putNames (root : Setting) : List (String × Setting) → Setting
  | [] => root
  | (name, s) :: rest => putNames (putName root name s) rest

end

/-- The settings with one more, at the place that its name means in lower case. -/
def put (root : Setting) (name : String) (s : Setting) : Setting :=
  match SettingPath.ofText (lowered name) with
  | .name n => putName root n s
  | .child p n => p.change (fun parent => putName parent n s) root
  | .index p i => (SettingPath.index p i).change (fun _ => s) root

end Setting

end Inspection.Cluster
