import Inspection.Proofs.Report.Status
import Inspection.Proofs.Version.Written
import Inspection.Proofs.View.Elements
import Inspection.View.Format

/-!
# View — When XML is well-formed

The tags, values and texts of a report are right whatever it holds.  The characters are those of its
texts: what markup writes by name may stand anywhere, and every other character is written as it is.
So a document has a character that no document may have exactly when a text of the report has one.

* `allowed_writeAt`: the characters of a tree are right when those of its texts are.
* `RunReport.texts`: the free texts of a report.
* `xml_render_wellFormed`: when the document of a report is well-formed.
* `xml_render_escaped_output`: it is not always.
-/

namespace Inspection

theorem Text.CodeRange.mem_of_within {rs ss : List Text.CodeRange}
    (h : ∀ r ∈ rs, ∃ s ∈ ss, s.first ≤ r.first ∧ r.last ≤ s.last) {c : Char}
    (hc : mem rs c = true) : mem ss c = true := by
  simp only [mem, List.any_eq_true, holds, Bool.and_eq_true, decide_eq_true_eq] at hc ⊢
  obtain ⟨r, hr, hfirst, hlast⟩ := hc
  obtain ⟨s, hs, hsr, hrs⟩ := h r hr
  exact ⟨s, hs, Nat.le_trans hsr hfirst, Nat.le_trans hlast hrs⟩

namespace Xml

/-! ### Characters of a tree -/

/-- All the characters may stand in a document. -/
def Allowed (s : List Char) : Prop := ∀ c ∈ s, isChar c = true

instance (s : List Char) : Decidable (Allowed s) :=
  decidable_of_iff (s.all isChar = true) List.all_eq_true

@[simp]
theorem allowed_nil : Allowed [] := fun _ h => nomatch h

@[simp]
theorem allowed_cons {c : Char} {s : List Char} :
    Allowed (c :: s) ↔ isChar c = true ∧ Allowed s := List.forall_mem_cons

@[simp]
theorem allowed_append {s t : List Char} : Allowed (s ++ t) ↔ Allowed s ∧ Allowed t :=
  List.forall_mem_append

@[simp]
theorem allowed_indent (n : Nat) : Allowed (List.replicate n ' ') := fun c hc => by
  rw [List.eq_of_mem_replicate hc]
  decide

theorem isChar_of_isNameChar {c : Char} (hc : isNameChar c = true) : isChar c = true := by
  rw [isNameChar, Bool.or_eq_true] at hc
  obtain hc | hc := hc
  · exact Text.CodeRange.mem_of_within (by decide) hc
  · exact Text.CodeRange.mem_of_within (by decide) hc

theorem allowed_of_isName {name : List Char} (h : isName name = true) : Allowed name := by
  cases name with
  | nil => exact allowed_nil
  | cons c s =>
    simp only [isName, Bool.and_eq_true, List.all_eq_true] at h
    have hstart : isNameChar c = true := by rw [isNameChar, h.1, Bool.true_or]
    exact allowed_cons.2 ⟨isChar_of_isNameChar hstart, fun d hd => isChar_of_isNameChar (h.2 d hd)⟩

theorem allowed_escapeChar {c : Char} : Allowed (Markup.escapeChar c) ↔ isChar c = true := by
  by_cases hc : c ∈ Markup.named
  · have hnamed : Allowed Markup.named := by decide
    have hwritten : Allowed (Markup.escapeChars Markup.named) := by decide
    exact ⟨fun _ => hnamed c hc, fun _ d hd => hwritten d (List.mem_flatMap_of_mem hc hd)⟩
  · rw [Markup.escapeChar_of_not_mem hc]
    simp

@[simp]
theorem allowed_escapeChars {s : List Char} : Allowed (Markup.escapeChars s) ↔ Allowed s := by
  induction s with
  | nil => exact Iff.rfl
  | cons c s ih =>
    rw [Markup.escapeChars_cons, allowed_append, allowed_escapeChar, ih, allowed_cons]

mutual

/-- The values and texts of a tree. -/
def texts : Xml → List String
  | .element _ attributes children => attributes.map Prod.snd ++ textsAll children
  | .content _ attributes text => attributes.map Prod.snd ++ [text]
  | .closed _ attributes => attributes.map Prod.snd

/-- The values and texts of several trees. -/
def textsAll : List Xml → List String
  | [] => []
  | x :: rest => texts x ++ textsAll rest

end

/-- All the characters of several texts may stand in a document. -/
def AllAllowed (l : List String) : Prop := ∀ t ∈ l, Allowed t.toList

@[simp]
theorem allAllowed_nil : AllAllowed [] := fun _ h => nomatch h

@[simp]
theorem allAllowed_cons {t : String} {l : List String} :
    AllAllowed (t :: l) ↔ Allowed t.toList ∧ AllAllowed l := List.forall_mem_cons

@[simp]
theorem allAllowed_append {l m : List String} :
    AllAllowed (l ++ m) ↔ AllAllowed l ∧ AllAllowed m := List.forall_mem_append

theorem allowed_writeAttributes {as : List (String × String)}
    (hnames : ∀ a ∈ as.map Prod.fst, isName a.toList = true) :
    Allowed (writeAttributes as) ↔ AllAllowed (as.map Prod.snd) := by
  have hmarks : ∀ c ∈ [' ', '=', '"'], isChar c = true := List.all_eq_true.1 (by decide)
  induction as with
  | nil => simp [writeAttributes]
  | cons a as ih =>
    simp only [List.map_cons, List.forall_mem_cons] at hnames
    have hname := allowed_of_isName hnames.1
    simp [writeAttributes, ih hnames.2, hname, hmarks]

theorem allowed_writeHead {name : String} {as : List (String × String)}
    (h : Named name (as.map Prod.fst)) :
    Allowed (writeHead name as) ↔ AllAllowed (as.map Prod.snd) := by
  have hmark : isChar '<' = true := by decide
  simp [writeHead, hmark, allowed_of_isName h.isName_name,
    allowed_writeAttributes h.isName_attribute]

theorem allowed_writeEnd {name : String} (h : isName name.toList = true) :
    Allowed (writeEnd name) := by
  have hmarks : ∀ c ∈ ['<', '/', '>', '\n'], isChar c = true := List.all_eq_true.1 (by decide)
  simp [writeEnd, hmarks, allowed_of_isName h]

theorem allowed_writeAll {xs : List Xml} {depth : Nat}
    (h : ∀ x ∈ xs, Allowed (writeAt depth x) ↔ AllAllowed x.texts) :
    Allowed (writeAll depth xs) ↔ AllAllowed (textsAll xs) := by
  induction xs with
  | nil => simp [writeAll, textsAll]
  | cons x xs ih =>
    simp only [List.forall_mem_cons] at h
    rw [writeAll, textsAll, allowed_append, allAllowed_append, h.1, ih h.2]

/-- **The characters of a tree are right exactly when those of its texts are.** -/
theorem allowed_writeAt {holds : String → Holding} {x : Xml} (hx : Fits holds x) (depth : Nat) :
    Allowed (writeAt depth x) ↔ AllAllowed x.texts := by
  have hmarks : ∀ c ∈ ['/', '>', '\n'], isChar c = true := List.all_eq_true.1 (by decide)
  induction hx generalizing depth with
  | element hname hholds hchildren ih =>
    have hall := allowed_writeAll fun x hx => ih x hx (depth + 1)
    simp [writeAt, texts, hmarks, hall, allowed_writeHead hname, allowed_writeEnd hname.isName_name]
  | content text hname hholds =>
    simp [writeAt, texts, hmarks, allowed_writeHead hname, allowed_writeEnd hname.isName_name]
  | closed hname hholds => simp [writeAt, texts, hmarks, allowed_writeHead hname]

end Xml

/-! ### The free texts of a report -/

/-- The command, the output and the message. -/
def StepResult.texts (s : StepResult) : List String := [s.command, s.output] ++ s.message.toList

/-- The reason of an abort. -/
def NodeOutcome.texts : NodeOutcome → List String
  | .completed => []
  | .aborted _ reason => [reason]

/-- The name and the texts below. -/
def NodeReport.texts (r : NodeReport) : List String :=
  [r.node] ++ r.steps.flatMap StepResult.texts ++ r.outcome.texts

/-- The name, the description and the texts below. -/
def TaskReport.texts (r : TaskReport) : List String :=
  [r.task, r.info] ++ r.nodes.flatMap NodeReport.texts ++ r.unfinished

/-- The name and the reason. -/
def SkippedTask.texts (s : SkippedTask) : List String := [s.task, s.reason]

/-- The name and the message. -/
def BrokenTask.texts (b : BrokenTask) : List String := [b.task, b.message]

/-- The free texts of a report: everything in it that is no number, version or kind. -/
def RunReport.texts (r : RunReport) : List String :=
  r.tasks.flatMap TaskReport.texts ++ r.skipped.flatMap SkippedTask.texts
    ++ r.broken.flatMap BrokenTask.texts

namespace Xml

theorem allowed_of_isDigit {s : List Char} (h : ∀ c ∈ s, c.isDigit = true) : Allowed s := by
  intro c hc
  have hrange : Text.CodeRange.mem [⟨0x30, 0x39⟩] c = true := by
    have hd := h c hc
    rw [Char.isDigit, Bool.and_eq_true, decide_eq_true_eq, decide_eq_true_eq] at hd
    simp only [Text.CodeRange.mem, List.any_cons, List.any_nil, Bool.or_false,
      Text.CodeRange.holds, Bool.and_eq_true, decide_eq_true_eq]
    exact hd
  exact Text.CodeRange.mem_of_within (by decide) hrange

@[simp]
theorem allowed_natText (n : Nat) : Allowed (Text.natText n).toList := by
  rw [Text.natText, String.toList_ofList]
  exact allowed_of_isDigit fun _ => Text.isDigit_of_mem_digits

theorem allowed_version (v : Version) : Allowed v.toChars := by
  have hmarks : ∀ c ∈ '.' :: Version.latestWord, isChar c = true := List.all_eq_true.1 (by decide)
  intro c hc
  obtain hd | rfl | hl := Version.mem_toChars hc
  · exact allowed_of_isDigit (s := [c]) (by simpa using hd) c (List.mem_singleton_self c)
  · exact hmarks _ (List.mem_cons_self ..)
  · exact hmarks c (List.mem_cons_of_mem _ hl)

theorem allowed_bound (b : Bound) : Allowed b.toChars := by
  cases b with
  | unbounded => decide
  | «at» v => exact allowed_version v

@[simp]
theorem allowed_versionText (v : Version) : Allowed v.text.toList := by
  rw [Version.text, String.toList_ofList]
  exact allowed_version v

@[simp]
theorem allowed_rangeText (r : VersionRange) : Allowed r.text.toList := by
  have hmarks : ∀ c ∈ ['[', ',', ' ', ']'], isChar c = true := List.all_eq_true.1 (by decide)
  simp [VersionRange.text, VersionRange.toChars, allowed_bound, hmarks]

@[simp]
theorem allowed_kindText (k : StepKind) : Allowed k.text.toList := by
  cases k <;> decide

@[simp]
theorem allowed_verdictText (v : Verdict) : Allowed v.text.toList := by
  cases v <;> decide

@[simp]
theorem allowed_severityText (s : Severity) : Allowed s.text.toList := by
  cases s <;> decide

@[simp]
theorem allowed_modeText (m : RunMode) : Allowed m.text.toList := by
  cases m <;> decide

/-! ### The texts in the tree of a report -/

@[simp]
theorem allAllowed_flatMap {α : Type} {f : α → List String} {l : List α} :
    AllAllowed (l.flatMap f) ↔ ∀ a ∈ l, AllAllowed (f a) := by
  simp only [AllAllowed, List.mem_flatMap, forall_exists_index, and_imp]
  exact ⟨fun h a ha t => h t a ha, fun h t a ha => h a ha t⟩

@[simp]
theorem allAllowed_textsAll {xs : List Xml} :
    AllAllowed (textsAll xs) ↔ ∀ x ∈ xs, AllAllowed x.texts := by
  induction xs with
  | nil => simp [textsAll]
  | cons x xs ih => simp [textsAll, ih]

theorem allAllowed_ofStep (s : StepResult) :
    AllAllowed (ofStep s).texts ↔ AllAllowed s.texts := by
  -- without a message there is no element, with an empty one there is
  cases hm : s.message <;> simp [ofStep, texts, StepResult.texts, hm]

theorem allAllowed_ofOutcome (o : NodeOutcome) :
    (∀ x ∈ ofOutcome o, AllAllowed x.texts) ↔ AllAllowed o.texts := by
  cases o <;> simp [ofOutcome, texts, NodeOutcome.texts]

theorem allAllowed_ofNode (r : NodeReport) :
    AllAllowed (ofNode r).texts ↔ AllAllowed r.texts := by
  have houtcome := allAllowed_ofOutcome r.outcome
  simp [ofNode, texts, NodeReport.texts, or_imp, forall_and, allAllowed_ofStep, houtcome]

theorem allAllowed_ofTask (r : TaskReport) :
    AllAllowed (ofTask r).texts ↔ AllAllowed r.texts := by
  have hunfinished : AllAllowed r.unfinished ↔ ∀ node ∈ r.unfinished, Allowed node.toList := Iff.rfl
  simp [ofTask, texts, TaskReport.texts, or_imp, forall_and, allAllowed_ofNode, hunfinished]

theorem allAllowed_ofSkipped (s : SkippedTask) :
    AllAllowed (ofSkipped s).texts ↔ AllAllowed s.texts := by
  have hbool : Allowed (if s.interrupted then "true" else "false").toList := by
    cases s.interrupted <;> decide
  simp [ofSkipped, texts, SkippedTask.texts, hbool]

theorem allAllowed_ofBroken (b : BrokenTask) :
    AllAllowed (ofBroken b).texts ↔ AllAllowed b.texts := by
  simp [ofBroken, texts, BrokenTask.texts]

/-- What a report holds beside its free texts may stand in any document. -/
theorem allAllowed_ofReport (r : RunReport) :
    AllAllowed (ofReport r).texts ↔ AllAllowed r.texts := by
  simp [ofReport, texts, RunReport.texts, or_imp, forall_and, allAllowed_ofTask,
    allAllowed_ofSkipped, allAllowed_ofBroken]

/-- The characters of a document are right exactly when those of the report's texts are. -/
theorem allowed_write_ofReport (r : RunReport) :
    Allowed (write (ofReport r)).toList ↔ AllAllowed r.texts := by
  have hdeclaration : Allowed declaration.toList := by decide
  rw [write, String.toList_append, String.toList_ofList, allowed_append,
    allowed_writeAt (ofReport_fits r), allAllowed_ofReport]
  exact and_iff_right hdeclaration

end Xml

/-- **When XML is well-formed.**  The document of a report has one element under a declaration, its
tags match, and its values and texts have no markup of their own, whatever the report holds; all its
characters are such as a document may have exactly when those of the report's texts are. -/
theorem xml_render_wellFormed (color : Bool) (r : RunReport) :
    Xml.IsDocument (ReportFormat.xml.render color r).toList
      ∧ (Xml.WellFormed (ReportFormat.xml.render color r).toList
        ↔ ∀ t ∈ r.texts, ∀ c ∈ t.toList, Xml.isChar c = true) := by
  have hdocument := Xml.isDocument_write (Xml.ofReport_fits r)
  have hchars := Xml.allowed_write_ofReport r
  exact ⟨hdocument, fun h => hchars.1 h.chars, fun h => ⟨hchars.2 h, hdocument⟩⟩

/-- The escape character of an output stands in the document, where no character of its kind may. -/
theorem xml_render_escaped_output :
    ¬ Xml.WellFormed
      (ReportFormat.xml.render false (Sample.report .check "\x1b[31mred")).toList := fun h => by
  have htexts := (Xml.allowed_write_ofReport (Sample.report .check "\x1b[31mred")).1 h.chars
  exact absurd (htexts "\x1b[31mred" (by decide)) (by decide)

end Inspection
