import Inspection.Files.Path
import Inspection.Proofs.Files.Tree
import Inspection.Proofs.Text.Runs

/-!
# Files — Paths below a folder

A path below a folder is written behind that of the folder, and read as the parts of the folder
followed by its own.  So what is said of a path under a root does not depend on how the root is
written.

* `parts_join`: the parts of a path below a folder.
* `extension?_eq_some_iff`, `stem_append`: what a name has before and after its last dot.
* `words_append`, `dottedName_eq_iff`: which paths have one dotted name.
-/

namespace Inspection.Files

open Text (splitAll splitAll_append_cons splitAll_joinWith splitAll_joinWith_eq_flatMap joinWith
  joinWith_eq_intercalate joinWith_splitAll)

variable {path p q : List String} {folder name base ext : String} {ps : List (List Char)}

/-! ### The parts of a path -/

/-- The parts that count: all but the empty ones and `.`. -/
def kept (ps : List (List Char)) : List String :=
  (ps.filter fun p => !(p.isEmpty || p == ['.'])).map String.ofList

/-- The parts of a path that is cut at its slashes. -/
def ofPieces : List (List Char) → List String
  | [] :: rest => if rest.isEmpty then [] else "/" :: kept rest
  | ['.'] :: rest => "." :: kept rest
  | ps => kept ps

theorem parts_eq (path : String) : parts path = ofPieces (splitAll (· == '/') path.toList) := rfl

theorem kept_append (ps qs : List (List Char)) : kept (ps ++ qs) = kept ps ++ kept qs := by
  simp [kept]

/-- All names of entries count. -/
theorem kept_names (h : ∀ name ∈ path, IsEntryName name) :
    kept (path.map String.toList) = path := by
  rw [kept, List.filter_eq_self.2, List.map_map]
  · simp
  · intro piece hpiece
    obtain ⟨name, hname, rfl⟩ := List.mem_map.1 hpiece
    have hempty : name.toList ≠ [] := fun heq => (h name hname).ne_empty (by simpa using heq)
    have hdot : name.toList ≠ ['.'] := fun heq =>
      (h name hname).ne_dot (String.toList_inj.1 heq)
    simp [hempty, hdot]

theorem ofPieces_cons (piece : List Char) (rest : List (List Char)) :
    ofPieces (piece :: rest) =
      if piece = [] then (if rest = [] then [] else "/" :: kept rest)
      else if piece = ['.'] then "." :: kept rest else kept (piece :: rest) := by
  rw [ofPieces.eq_def]
  split
  · simp_all
  · simp_all
  · simp_all

/-- What follows the first parts only adds to them. -/
theorem ofPieces_append (hps : ps ≠ []) (hempty : ps ≠ [[]]) (qs : List (List Char)) :
    ofPieces (ps ++ qs) = ofPieces ps ++ kept qs := by
  obtain ⟨piece, rest, rfl⟩ := List.exists_cons_of_ne_nil hps
  rw [List.cons_append, ofPieces_cons, ofPieces_cons]
  by_cases hnil : piece = []
  · subst hnil
    have hrest : rest ≠ [] := fun h => hempty (by rw [h])
    simp [hrest, kept_append]
  · by_cases hdot : piece = ['.']
    · simp [hdot, kept_append]
    · rw [if_neg hnil, if_neg hdot, if_neg hnil, if_neg hdot, ← List.cons_append, kept_append]

/-- An empty piece between two others does not count. -/
theorem ofPieces_append_cons_nil (hps : ps ≠ []) {qs : List (List Char)} (hqs : qs ≠ []) :
    ofPieces (ps ++ [] :: qs) = ofPieces (ps ++ qs) := by
  obtain ⟨piece, rest, rfl⟩ := List.exists_cons_of_ne_nil hps
  have hkept : kept ([] :: qs) = kept qs := rfl
  rw [List.cons_append, List.cons_append, ofPieces_cons, ofPieces_cons]
  simp only [← List.cons_append, kept_append, hkept]
  simp [hqs]

/-- The pieces of names that stand one behind the other. -/
theorem splitAll_intercalate (hne : path ≠ []) (h : ∀ name ∈ path, IsEntryName name) :
    splitAll (· == '/') ("/".intercalate path).toList = path.map String.toList := by
  have hjoin : ("/".intercalate path).toList = joinWith ['/'] (path.map String.toList) := by
    rw [String.toList_intercalate, joinWith_eq_intercalate]
    rfl
  rw [hjoin]
  refine splitAll_joinWith (by simpa using hne) fun piece hpiece => ?_
  obtain ⟨name, hname, rfl⟩ := List.mem_map.1 hpiece
  exact (h name hname).no_slash

theorem ofPieces_names (hne : path ≠ []) (h : ∀ name ∈ path, IsEntryName name) :
    ofPieces (path.map String.toList) = path := by
  obtain ⟨name, rest, rfl⟩ := List.exists_cons_of_ne_nil hne
  have hname := h name (List.mem_cons_self ..)
  have hempty : name.toList ≠ [] := fun heq => hname.ne_empty (by simpa using heq)
  have hdot : name.toList ≠ ['.'] := fun heq => hname.ne_dot (String.toList_inj.1 heq)
  rw [List.map_cons, ofPieces_cons, if_neg hempty, if_neg hdot, ← List.map_cons, kept_names h]

theorem splitAll_append_slash (s t : List Char) :
    splitAll (· == '/') (s ++ '/' :: t) = splitAll (· == '/') s ++ splitAll (· == '/') t :=
  splitAll_append_cons (by decide) s t

/-- A path below a folder is not taken for an absolute one. -/
theorem startsWith_slash_intercalate (hne : path ≠ []) (h : ∀ name ∈ path, IsEntryName name) :
    ("/".intercalate path).startsWith "/" = false := by
  refine Bool.eq_false_iff.2 fun hstart => ?_
  obtain ⟨t, ht⟩ := String.startsWith_string_iff.1 hstart
  -- the first name would be empty
  have hcut : splitAll (· == '/') ("/".intercalate path).toList = [] :: splitAll (· == '/') t :=
    ht ▸ splitAll_append_slash [] t
  obtain ⟨name, rest, rfl⟩ := List.exists_cons_of_ne_nil hne
  rw [splitAll_intercalate hne h, List.map_cons] at hcut
  exact (h name (List.mem_cons_self ..)).ne_empty (by simpa using (List.cons.inj hcut).1)

/-- **The parts of a path below a folder** are those of the folder, and then its own. -/
theorem parts_join (folder : String) (hne : path ≠ []) (h : ∀ name ∈ path, IsEntryName name) :
    parts (join folder ("/".intercalate path)) = parts folder ++ path := by
  have hpieces := splitAll_intercalate hne h
  have hnames : path.map String.toList ≠ [] := by simpa using hne
  rw [join, startsWith_slash_intercalate hne h, Bool.false_or]
  -- no folder is written, one with a slash at its end, and one that gets a slash
  split
  · rename_i hfolder
    obtain rfl := String.isEmpty_iff.1 hfolder
    rw [parts_eq, hpieces, ofPieces_names hne h]
    rfl
  split
  · rename_i hends
    rw [String.endsWith_eq_endsWith_toSlice, String.Slice.endsWith_string_iff,
      String.copy_toSlice] at hends
    obtain ⟨front, hfront⟩ := hends
    have hcut : splitAll (· == '/') (folder ++ "/".intercalate path).toList =
        splitAll (· == '/') front ++ path.map String.toList := by
      rw [String.toList_append, ← hfront, List.append_assoc, ← hpieces]
      exact splitAll_append_slash front _
    have hfolder : splitAll (· == '/') folder.toList = splitAll (· == '/') front ++ [[]] :=
      hfront ▸ splitAll_append_slash front []
    have hfrontNe := Text.splitAll_ne_nil (· == '/') front
    rw [parts_eq, parts_eq, hcut, hfolder, ← ofPieces_append_cons_nil hfrontNe hnames,
      ← List.singleton_append, ← List.append_assoc, ofPieces_append (by simp) (by simp [hfrontNe]),
      kept_names h]
  · rename_i hfolder _
    have hcut : splitAll (· == '/') (folder ++ "/" ++ "/".intercalate path).toList =
        splitAll (· == '/') folder.toList ++ path.map String.toList := by
      rw [String.toList_append, String.toList_append, List.append_assoc, ← hpieces]
      exact splitAll_append_slash _ _
    have hne' : splitAll (· == '/') folder.toList ≠ [[]] := fun heq => hfolder <| by
      have hjoin := Text.joinWith_splitAll '/' folder.toList
      rw [heq] at hjoin
      exact String.isEmpty_iff.2 (String.toList_inj.1 hjoin.symm)
    rw [parts_eq, parts_eq, hcut, ofPieces_append (Text.splitAll_ne_nil _ _) hne', kept_names h]

/-- **The name of a path under a root** is that of the path below it, however the root is
written. -/
theorem dottedNameUnder_join (root : String) (hne : path ≠ [])
    (h : ∀ name ∈ path, IsEntryName name) :
    dottedNameUnder root (join root ("/".intercalate path)) = dottedName path := by
  rw [dottedNameUnder, parts_join root hne h, if_pos (by simp), List.drop_left]

/-! ### Names and their extensions -/

/-- A name is cut at its last dot. -/
theorem splitLast?_name (base : String) (hext : '.' ∉ ext.toList) :
    Text.splitLast? (· == '.') (base ++ "." ++ ext).toList = some (base.toList, ext.toList) := by
  refine Text.splitLast?_eq_some_iff.2 ⟨'.', by decide, by simp, fun d hd => ?_⟩
  simpa using fun heq : d = '.' => hext (heq ▸ hd)

/-- The extension of a name stands after its last dot, which is not its first character. -/
theorem extension?_eq_some_iff :
    extension? name = some ext ↔
      ∃ base, base ≠ "" ∧ name = base ++ "." ++ ext ∧ '.' ∉ ext.toList := by
  constructor
  · intro h
    rw [extension?] at h
    split at h
    · cases h
    · cases h
    · rename_i before after hbefore hcut
      obtain ⟨c, hc, hname, hafter⟩ := Text.splitLast?_eq_some_iff.1 hcut
      obtain rfl := Option.some.inj h
      obtain rfl : c = '.' := by simpa using hc
      refine ⟨.ofList before, fun hempty => ?_, ?_, ?_⟩
      · exact hbefore (String.ofList_eq_empty_iff.1 hempty)
      · rw [← String.toList_inj, hname]
        simp
      · simpa using fun hmem => by simpa using hafter '.' hmem
  · rintro ⟨base, hbase, rfl, hext⟩
    obtain ⟨c, rest, hcons⟩ := List.exists_cons_of_ne_nil (by simpa using hbase : base.toList ≠ [])
    rw [extension?, splitLast?_name base hext, hcons]
    exact congrArg some String.ofList_toList

theorem stem_append (hbase : base ≠ "") (hext : '.' ∉ ext.toList) :
    stem (base ++ "." ++ ext) = base := by
  obtain ⟨c, rest, hcons⟩ := List.exists_cons_of_ne_nil (by simpa using hbase : base.toList ≠ [])
  rw [stem, splitLast?_name base hext, hcons]
  exact (congrArg String.ofList hcons.symm).trans String.ofList_toList

/-! ### Dotted names -/

/-- The parts of a path without its extension, cut at their dots. -/
def words (path : List String) : List (List Char) :=
  (dropExtension false path).flatMap fun part => splitAll (· == '.') part.toList

/-- The words of a path whose last name has an extension.  A dot that is left of that name stands
for two. -/
theorem words_append (folders : List String) (hbase : base ≠ "") (hext : '.' ∉ ext.toList)
    (hne : ext ≠ "") :
    words (folders ++ [base ++ "." ++ ext]) =
      (folders ++ [if base = "." then ".." else base]).flatMap fun part =>
        splitAll (· == '.') part.toList := by
  have hlength : 3 ≤ (base ++ "." ++ ext).toList.length := by
    have hbase : 0 < base.toList.length := List.length_pos_iff.2 (by simpa using hbase)
    have hext : 0 < ext.toList.length := List.length_pos_iff.2 (by simpa using hne)
    rw [String.toList_append, String.toList_append, List.length_append, List.length_append]
    have hdot : ".".toList.length = 1 := rfl
    omega
  have hname : isName (base ++ "." ++ ext) = true := by
    have hshort : ∀ name ∈ ["/", ".", ".."], name.toList.length < 3 := by decide
    rw [isName, Bool.not_eq_true', List.contains_eq_mem, decide_eq_false_iff_not]
    exact fun hmem => (hshort _ hmem).not_ge hlength
  rw [words, dropExtension, List.getLast?_concat]
  simp only [hname, stem_append hbase hext, List.dropLast_concat]
  by_cases hdot : base = "."
  · simp [hdot]
  · simp [hdot]

theorem dropExtension_ne_nil (hne : path ≠ []) : dropExtension false path ≠ [] := by
  rw [dropExtension]
  split
  · exact hne
  · split
    · exact hne
    · split <;> simp

theorem splitAll_dottedName (hne : path ≠ []) :
    splitAll (· == '.') (dottedName path).toList = words path := by
  have hjoin : (dottedName path).toList =
      joinWith ['.'] ((dropExtension false path).map String.toList) := by
    rw [dottedName, String.toList_intercalate, joinWith_eq_intercalate]
    rfl
  rw [hjoin, splitAll_joinWith_eq_flatMap (by simpa using dropExtension_ne_nil hne), words,
    List.flatMap_map]

/-- **Dotted names are the same where the words are**, whether a slash stands between two words or a
dot. -/
theorem dottedName_eq_iff (hp : p ≠ []) (hq : q ≠ []) :
    dottedName p = dottedName q ↔ words p = words q := by
  constructor
  · intro h
    rw [← splitAll_dottedName hp, h, splitAll_dottedName hq]
  · intro h
    rw [← String.toList_inj, ← joinWith_splitAll '.' (dottedName p).toList,
      splitAll_dottedName hp, h, ← splitAll_dottedName hq, joinWith_splitAll]

end Inspection.Files
