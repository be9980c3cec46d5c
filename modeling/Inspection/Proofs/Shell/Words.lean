import Inspection.Shell.Expand
import Mathlib.Data.List.Basic
import Mathlib.Tactic.Tauto

/-!
# Shell — Words that stand for themselves

A shell gives a meaning to few characters (`metacharacters`).  A line of words without them is one
command of these words: reading finds the words where the blanks are and nothing else, and nothing
in a word is replaced when the command is run.

* `Reads`: what a reader takes from a script, one lemma for each reader of `Reader`.
* `next_plainWords`: what a line of plain words is read as.
* `fields_plainWords`: what plain words come to.
* `isCommandOf_plain`: both, for the text of a line.
-/

namespace Inspection.Shell

/-- The characters to which a shell gives a meaning, at least at some places. -/
def metacharacters : List Char :=
  ['|', '&', ';', '<', '>', '(', ')', '$', '\x60', '\\', '"', '\'', ' ', '\t', '\n', '*', '?', '[',
    ']', '#', '~', '=', '%', '!', '\x7b', '\x7d', '^']

/-- Characters to which a shell gives no meaning make up the word. -/
structure IsPlain (w : List Char) : Prop where
  ne_nil : w ≠ []
  notMem : ∀ c ∈ w, c ∉ metacharacters

/-- Plain words, the first of which does not start a construct. -/
structure IsPlainLine (w : List Char) (ws : List (List Char)) : Prop where
  first : IsPlain w
  notKeyword : String.ofList w ∉ keywords
  others : ∀ v ∈ ws, IsPlain v

/-- What follows the first word of a line: a blank and a word for each of the others. -/
def spaced (ws : List (List Char)) : List Char := ws.flatMap (' ' :: ·)

/-- The words of a command, without anything to replace. -/
def plainWords (ws : List (List Char)) : List Word := ws.map fun w => [.text false w]

/-- The line is one command of the words to a shell that starts: no other command stands in it, and
the words are handed over as they are in every state. -/
def IsCommandOf (line : String) (words : List String) : Prop :=
  ∃ read after, (Reading.ofScript (spellText line)).next =
      .ok (some (.simple 1 [] read []), after) ∧ after.next = .ok (none, after) ∧
    ∀ r st, fields r read st = (.ok words, st)

/-- The reader takes a value from a script and leaves the rest. -/
def Reads {α : Type} (m : Reader α) (r : Reading) (a : α) (r' : Reading) : Prop :=
  m r = .ok (a, r')

/-- A script of which a token has been read too early. -/
def Reading.behind (t : Token) (s : List Char) : Reading := { rest := s, ahead := some t }

variable {α β : Type} {c d : Char} {s w gap : List Char} {ws : List (List Char)} {fuel : Nat}

theorem ne_of_notMem_metacharacters (hc : c ∉ metacharacters) (hd : d ∈ metacharacters) : c ≠ d :=
  fun h => hc (h ▸ hd)

/-! ### Running readers -/

section Reads

variable {m : Reader α} {f : α → Reader β} {r r' r'' : Reading} {a : α} {b : β}

theorem Reads.bind (h : Reads m r a r') (h' : Reads (f a) r' b r'') : Reads (m >>= f) r b r'' := by
  have hm : m r = .ok (a, r') := h
  have hf : f a r' = .ok (b, r'') := h'
  change (m r).bind (fun x => f x.1 x.2) = _
  rw [hm]
  exact hf

theorem reads_pure (a : α) (r : Reading) : Reads (pure a) r a r := rfl

theorem reads_get (r : Reading) : Reads get r r r := rfl

theorem reads_modify (g : Reading → Reading) (r : Reading) : Reads (modify g) r () (g r) := rfl

end Reads

namespace Reader

/-! ### Characters -/

theorem reads_peek_nil : Reads peek (.ofScript []) none (.ofScript []) := rfl

theorem joined_cons (hc : c ≠ '\\') (line : Nat) : joined (c :: s) line = (c :: s, line) := by
  rw [joined]
  rintro s h
  exact hc (List.cons.inj h).1

theorem reads_peek (hc : c ≠ '\\') :
    Reads peek (.ofScript (c :: s)) (some c) (.ofScript (c :: s)) := by
  unfold peek
  refine (reads_modify _ _).bind ?_
  simp only [Reading.ofScript, joined_cons hc]
  rfl

theorem reads_skip (hc : c ≠ '\n') : Reads skip (.ofScript (c :: s)) () (.ofScript s) := by
  change Except.ok _ = _
  simp [Reading.ofScript, hc]

/-- Characters of a kind are taken up to one that is not. -/
theorem reads_takeWhile {p : Char → Bool} {n : Nat}
    (hgap : ∀ d ∈ gap, p d = true ∧ d ≠ '\\' ∧ d ≠ '\n') (hc : c ≠ '\\') (hp : p c = false)
    (hn : gap.length ≤ n) (taken : List Char) :
    Reads (takeWhile p n taken) (.ofScript (gap ++ c :: s)) (taken.reverse ++ gap)
      (.ofScript (c :: s)) := by
  induction gap generalizing n taken with
  | nil =>
    rw [List.append_nil, List.nil_append]
    cases n with
    | zero => exact reads_pure ..
    | succ n =>
      refine (reads_peek hc).bind ?_
      simp only [hp, Bool.false_eq_true, if_false]
      exact reads_pure ..
  | cons d gap ih =>
    obtain ⟨n, rfl⟩ := Nat.exists_eq_succ_of_ne_zero (Nat.ne_zero_of_lt hn)
    obtain ⟨⟨hd, hslash, hline⟩, hgap⟩ := List.forall_mem_cons.1 hgap
    refine (reads_peek hslash).bind ?_
    simp only [hd, if_true]
    refine (reads_skip hline).bind ?_
    simpa using ih hgap (Nat.le_of_succ_le_succ hn) (d :: taken)

theorem reads_skipBlanks (hgap : ∀ d ∈ gap, d = ' ') (hc : c ∉ metacharacters) :
    Reads skipBlanks (.ofScript (gap ++ c :: s)) () (.ofScript (c :: s)) := by
  have hslash : c ≠ '\\' := ne_of_notMem_metacharacters hc (by decide)
  have hspace : c ≠ ' ' := ne_of_notMem_metacharacters hc (by decide)
  have htab : c ≠ '\t' := ne_of_notMem_metacharacters hc (by decide)
  have hcomment : c ≠ '#' := ne_of_notMem_metacharacters hc (by decide)
  have hblanks : ∀ d ∈ gap, isBlankOctet d = true ∧ d ≠ '\\' ∧ d ≠ '\n' := by
    rintro d hd
    rw [hgap d hd]
    decide
  unfold skipBlanks measure
  refine ((reads_get _).bind (reads_pure ..)).bind ?_
  refine (reads_takeWhile hblanks hslash (by simp [isBlankOctet, hspace, htab]) ?_ []).bind ?_
  · simp only [Reading.ofScript, List.length_append]
    omega
  · refine (reads_peek hslash).bind ?_
    rw [show (some c == some '#') = false by simpa using hcomment]
    exact reads_pure ..

/-! ### Words and tokens -/

/-- Every character of a word is a part of it by itself, in reverse. -/
theorem reads_parts (hw : ∀ c ∈ w, c ∉ metacharacters) (hfuel : w.length ≤ fuel)
    (taken : List Part) :
    Reads (parts (fuel + 1) { manner := .bare } 0 taken) (.ofScript (w ++ spaced ws))
      ((w.map fun c => .text false [c]).reverse ++ taken) (.ofScript (spaced ws)) := by
  induction w generalizing fuel taken with
  | nil =>
    unfold parts
    cases ws with
    | nil => exact reads_peek_nil.bind (reads_pure ..)
    | cons v ws => exact (reads_peek (by decide)).bind (reads_pure ..)
  | cons c w ih =>
    obtain ⟨fuel, rfl⟩ := Nat.exists_eq_succ_of_ne_zero (Nat.ne_zero_of_lt hfuel)
    obtain ⟨hc, hw⟩ := List.forall_mem_cons.1 hw
    have hends : Surround.endsAt { manner := .bare } c = false := by
      simp only [metacharacters, List.mem_cons, List.not_mem_nil, or_false, not_or] at hc
      simp only [Surround.endsAt, Bool.false_eq_true, if_false, List.contains_eq_mem, List.mem_cons,
        List.not_mem_nil, or_false, decide_eq_false_iff_not, not_or]
      tauto
    unfold parts
    refine (reads_peek (ne_of_notMem_metacharacters hc (by decide))).bind ?_
    simp only [hends, Bool.false_eq_true, if_false]
    split
    -- only a character without a meaning of its own gets to the last branch
    case h_8 =>
      refine (reads_skip (ne_of_notMem_metacharacters hc (by decide))).bind ?_
      simpa [Surround.isQuoted] using
        ih hw (Nat.le_of_succ_le_succ hfuel) (.text false [c] :: taken)
    all_goals exact absurd (by decide) hc

theorem ofReversed_reverse_map (hw : w ≠ []) :
    Word.ofReversed (w.map fun c => .text false [c]).reverse = [.text false w] := by
  obtain ⟨c, w, rfl⟩ := List.exists_cons_of_ne_nil hw
  rw [Word.ofReversed, List.foldl_reverse]
  clear hw
  induction w generalizing c with
  | nil => rfl
  | cons d w ih =>
    rw [List.map_cons, List.foldr_cons, ih d]
    rfl

theorem reads_rawToken (hgap : ∀ d ∈ gap, d = ' ') (hw : IsPlain w)
    (hfuel : w.length ≤ fuel) :
    Reads (rawToken (fuel + 2) false) (.ofScript (gap ++ (w ++ spaced ws))) (.word [.text false w])
      (.ofScript (spaced ws)) := by
  obtain ⟨c, v, rfl⟩ := List.exists_cons_of_ne_nil hw.ne_nil
  have hc : c ∉ metacharacters := hw.notMem c (List.mem_cons_self ..)
  have hseparator : separator? c = none := by
    unfold separator?
    split
    case h_7 => rfl
    all_goals exact absurd (by decide) hc
  unfold rawToken
  refine (reads_get _).bind ((reads_skipBlanks hgap hc).bind ?_)
  refine (reads_peek (ne_of_notMem_metacharacters hc (by decide))).bind ?_
  simp only [hseparator]
  refine (reads_parts hw.notMem hfuel []).bind ?_
  rw [List.append_nil, ofReversed_reverse_map hw.ne_nil]
  cases ws with
  | nil => exact reads_peek_nil.bind (reads_pure ..)
  | cons u ws =>
    -- a digit may name a descriptor, but what follows is not the mark of a redirection
    refine (reads_peek (by decide)).bind ?_
    dsimp only
    split <;> exact reads_pure ..

theorem reads_passInsertions (s : List Char) :
    Reads passInsertions (.ofScript s) false (.ofScript s) := rfl

theorem reads_passInsertions_behind (t : Token) (s : List Char) :
    Reads passInsertions (.behind t s) false (.behind t s) := rfl

theorem reads_insertAlias (w : Word) (s : List Char) :
    Reads (insertAlias w) (.ofScript s) false (.ofScript s) := rfl

theorem reads_pushBack (t : Token) (s : List Char) :
    Reads (pushBack t) (.ofScript s) () (.behind t s) := rfl

theorem reads_rawToken_behind (t : Token) (s : List Char) :
    Reads (rawToken (fuel + 1) false) (.behind t s) t (.ofScript s) := rfl

theorem keyword?_eq_none (hw : String.ofList w ∉ keywords) :
    Word.keyword? [.text false w] = none := by
  simpa [Word.keyword?, Word.bare?, Word.isQuoted, Word.literal?] using hw

section Tokens

variable {findKeywords findAliases : Bool} {r : Reading}

/-- A word that comes next stays one, as there are no aliases and it is no keyword where keywords
count. -/
theorem reads_token_of_word (hkey : findKeywords = true → String.ofList w ∉ keywords)
    (hpass : Reads passInsertions r false r)
    (hraw : Reads (rawToken fuel false) r (.word [.text false w]) (.ofScript s)) :
    Reads (token (fuel + 1) false findKeywords findAliases) r (.word [.text false w])
      (.ofScript s) := by
  have hkeyword : (if findKeywords then Word.keyword? [.text false w] else none) = none := by
    cases findKeywords with
    | false => rfl
    | true => exact keyword?_eq_none (hkey rfl)
  unfold token
  refine hpass.bind (hraw.bind ?_)
  simp only [hkeyword]
  cases findAliases with
  | false => exact (reads_pure ..).bind (reads_pure ..)
  | true => exact (reads_insertAlias ..).bind (reads_pure ..)

theorem reads_token (hgap : ∀ d ∈ gap, d = ' ') (hw : IsPlain w)
    (hkey : findKeywords = true → String.ofList w ∉ keywords) (hfuel : w.length ≤ fuel) :
    Reads (token (fuel + 3) false findKeywords findAliases) (.ofScript (gap ++ (w ++ spaced ws)))
      (.word [.text false w]) (.ofScript (spaced ws)) :=
  reads_token_of_word hkey (reads_passInsertions _) (reads_rawToken hgap hw hfuel)

theorem reads_token_behind (hkey : findKeywords = true → String.ofList w ∉ keywords) :
    Reads (token (fuel + 2) false findKeywords findAliases) (.behind (.word [.text false w]) s)
      (.word [.text false w]) (.ofScript s) :=
  reads_token_of_word hkey (reads_passInsertions_behind ..) (reads_rawToken_behind ..)

theorem reads_token_nil :
    Reads (token (fuel + 2) false findKeywords findAliases) (.ofScript []) .endOfScript
      (.ofScript []) := rfl

theorem reads_token_end :
    Reads (token (fuel + 2) false findKeywords findAliases) (.behind .endOfScript []) .endOfScript
      (.ofScript []) := rfl

end Tokens

/-! ### Commands -/

theorem assignment?_eq_none (hw : IsPlain w) : Word.assignment? [.text false w] = none := by
  have hall : w.takeWhile (· != '=') = w := by
    rw [← List.append_nil w, List.takeWhile_append_of_pos, List.takeWhile_nil]
    rintro c hc
    simpa using ne_of_notMem_metacharacters (hw.notMem c hc) (show '=' ∈ metacharacters by decide)
  simp [Word.assignment?, hall]

theorem length_spaced_cons (w : List Char) (ws : List (List Char)) :
    (spaced (w :: ws)).length = w.length + (spaced ws).length + 1 := by
  simp only [spaced, List.flatMap_cons, List.cons_append, List.length_cons, List.length_append]

/-- The words behind those that have been taken are taken too, up to the end. -/
theorem reads_simple_of_ne_nil (hws : ∀ w ∈ ws, IsPlain w) (hfuel : (spaced ws).length ≤ fuel)
    (line : Nat) {taken : List Word} (htaken : taken ≠ []) :
    Reads (simple (fuel + 3) line [] taken []) (.ofScript (spaced ws))
      (.simple line [] (taken.reverse ++ plainWords ws) []) (.behind .endOfScript []) := by
  -- each word has more characters than the one step it costs, so the steps last
  induction ws generalizing fuel taken with
  | nil =>
    unfold simple
    refine reads_token_nil.bind ((reads_pushBack ..).bind ?_)
    rw [plainWords, List.map_nil, List.append_nil]
    exact reads_pure ..
  | cons w ws ih =>
    rw [length_spaced_cons] at hfuel
    obtain ⟨fuel, rfl⟩ := Nat.exists_eq_succ_of_ne_zero (Nat.ne_zero_of_lt hfuel)
    obtain ⟨hw, hws⟩ := List.forall_mem_cons.1 hws
    have hempty : taken.isEmpty = false := by simpa using htaken
    have htoken : Reads (token (fuel + 3) false false taken.isEmpty)
        (.ofScript ([' '] ++ (w ++ spaced ws))) (.word [.text false w]) (.ofScript (spaced ws)) :=
      reads_token (by simp) hw (by simp) (by omega)
    have hlength : (spaced ws).length ≤ fuel := by omega
    have hrest := ih hws hlength (List.cons_ne_nil [.text false w] taken)
    unfold simple
    refine htoken.bind ?_
    simp only [hempty, Bool.false_eq_true, if_false]
    simpa [plainWords] using hrest

-- From the list down to its first word, each reader takes that word and hands it on unread.
variable (h : IsPlainLine w ws) (hfuel : (spaced ws).length ≤ fuel)

include h hfuel

theorem reads_simple (line : Nat) :
    Reads (simple (fuel + 4) line [] [] []) (.behind (.word [.text false w]) (spaced ws))
      (.simple line [] (plainWords (w :: ws)) []) (.behind .endOfScript []) := by
  unfold simple
  refine (reads_token_behind (by simp)).bind ?_
  simp only [List.isEmpty_nil, if_true, assignment?_eq_none h.first]
  exact reads_simple_of_ne_nil h.others hfuel line (List.cons_ne_nil _ _)

theorem reads_command :
    Reads (command (fuel + 5) false) (.behind (.word [.text false w]) (spaced ws))
      (.simple 1 [] (plainWords (w :: ws)) []) (.behind .endOfScript []) := by
  unfold command
  refine (reads_get _).bind ((reads_token_behind fun _ => h.notKeyword).bind ?_)
  refine (reads_pushBack ..).bind ((reads_get _).bind ?_)
  exact reads_simple h hfuel 1

theorem reads_piped :
    Reads (piped (fuel + 6) false) (.behind (.word [.text false w]) (spaced ws))
      (.simple 1 [] (plainWords (w :: ws)) []) (.behind .endOfScript []) := by
  unfold piped
  refine (reads_command h hfuel).bind (reads_token_end.bind ?_)
  exact (reads_pushBack ..).bind (reads_pure ..)

theorem reads_pipeline :
    Reads (pipeline (fuel + 7) false) (.behind (.word [.text false w]) (spaced ws))
      (.simple 1 [] (plainWords (w :: ws)) []) (.behind .endOfScript []) := by
  unfold pipeline
  refine (reads_token_behind fun _ => h.notKeyword).bind ?_
  exact (reads_pushBack ..).bind (reads_piped h hfuel)

theorem reads_chain :
    Reads (chain (fuel + 8)) (.behind (.word [.text false w]) (spaced ws))
      (.simple 1 [] (plainWords (w :: ws)) []) (.behind .endOfScript []) := by
  unfold chain
  refine (reads_pipeline h hfuel).bind ?_
  unfold links
  exact reads_token_end.bind ((reads_pushBack ..).bind (reads_pure ..))

omit hfuel in
theorem reads_list (hfuel : w.length + (spaced ws).length ≤ fuel) :
    Reads (list (fuel + 9) true false none) (.ofScript (w ++ spaced ws))
      (some (.simple 1 [] (plainWords (w :: ws)) [])) (.behind .endOfScript []) := by
  have htoken : Reads (token (fuel + 8) false true true) (.ofScript ([] ++ (w ++ spaced ws)))
      (.word [.text false w]) (.ofScript (spaced ws)) :=
    reads_token (by simp) h.first (fun _ => h.notKeyword) (by omega)
  unfold list
  refine htoken.bind ((reads_pushBack ..).bind ?_)
  refine (reads_chain h (by omega)).bind (reads_token_end.bind ?_)
  refine (reads_pushBack ..).bind ?_
  -- the script is at its end, and so is the list
  unfold list
  exact reads_token_end.bind rfl

end Reader

/-- **A line of plain words is one command of these words, and nothing else.** -/
theorem next_plainWords (h : IsPlainLine w ws) :
    ∃ after, (Reading.ofScript (w ++ spaced ws)).next =
        .ok (some (.simple 1 [] (plainWords (w :: ws)) []), after) ∧
      after.next = .ok (none, after) := by
  have hlength : w.length + (spaced ws).length = (w ++ spaced ws).length :=
    (List.length_append ..).symm
  have hfuel : (16 * (w ++ spaced ws).length + 64) * 1 = 16 * (w ++ spaced ws).length + 55 + 9 := by
    omega
  have hread : Reader.list (16 * (w ++ spaced ws).length + 55 + 9) true false none
      { rest := w ++ spaced ws } =
      .ok (some (.simple 1 [] (plainWords (w :: ws)) []), .behind .endOfScript []) :=
    Reader.reads_list h (by omega)
  refine ⟨.behind .endOfScript [], ?_, rfl⟩
  unfold Reading.next
  simp only [Reading.ofScript, List.foldl_nil]
  rw [hfuel, hread]
  rfl

/-! ### What words come to -/

theorem action_bind {m : Action α} {f : α → Action β} {st st' : State} {a : α}
    (h : m st = (.ok a, st')) : (m >>= f) st = f a st' := by
  change (ExceptT.bindCont f (m st).1 : StateM State _) (m st).2 = _
  rw [h]
  rfl

theorem tildePieces_plain (hw : ∀ c ∈ w, c ∉ metacharacters) (st : State) (isCut : Bool) (n : Nat) :
    st.tildePieces .start isCut true n true w = [.text false isCut w] := by
  cases n with
  | zero => rfl
  | succ n =>
    simp only [State.tildePieces, show (TildePlace.start == .parts) = false from rfl,
      Bool.false_eq_true, if_false]
    split
    · exact absurd (by decide) (hw '~' (List.mem_cons_self ..))
    · rfl

theorem hasPattern_plain (hw : ∀ c ∈ w, c ∉ metacharacters) :
    hasPattern (glyphs false w) = false := by
  simp only [hasPattern, glyphs, List.any_eq_false, List.mem_map]
  rintro _ ⟨c, hc, rfl⟩
  have hmany : c ≠ '*' := ne_of_notMem_metacharacters (hw c hc) (by decide)
  have hany : c ≠ '?' := ne_of_notMem_metacharacters (hw c hc) (by decide)
  have hset : c ≠ '[' := ne_of_notMem_metacharacters (hw c hc) (by decide)
  simp [hmany, hany, hset]

theorem fieldsOfWord_plain (hw : IsPlain w) (r : Runner) (st : State) :
    fieldsOfWord r [.text false w] st = (.ok [String.ofList w], st) := by
  have hpieces : wordPieces r { isCut := true, tildes := .start } true [.text false w] st =
      (.ok [.text false false w], st) := by
    -- a part that is text runs nothing, so the pieces are there by computing
    change (Except.ok (st.tildePieces .start false true (w.length + 1) true w ++ []), st) = _
    rw [tildePieces_plain hw.notMem, List.append_nil]
  have hfields : st.fieldsOf [.text false false w] = [glyphs false w] := by
    simp [State.fieldsOf, Gathering.pieces, Gathering.add, Gathering.close, hw.ne_nil]
  have hpaths : st.paths (glyphs false w) = [String.ofList w] := by
    rw [State.paths, hasPattern_plain hw.notMem]
    simp [glyphText, glyphs, Function.comp_def]
  rw [fieldsOfWord, action_bind hpieces]
  change (Except.ok ((st.fieldsOf [.text false false w]).flatMap st.paths), st) = _
  rw [hfields, List.flatMap_singleton, hpaths]

/-- **Plain words come to themselves in every state of a shell.** -/
theorem fields_plainWords (hws : ∀ w ∈ ws, IsPlain w) (r : Runner) (st : State) :
    fields r (plainWords ws) st = (.ok (ws.map String.ofList), st) := by
  induction ws with
  | nil => rfl
  | cons w ws ih =>
    obtain ⟨hw, hws⟩ := List.forall_mem_cons.1 hws
    change fields r ([.text false w] :: plainWords ws) st = _
    rw [fields, action_bind (fieldsOfWord_plain hw r st), action_bind (ih hws)]
    rfl

/-! ### Octets of a line -/

theorem toList_loop (bs : ByteArray) (i : Nat) (taken : List UInt8) :
    ByteArray.toList.loop bs i taken = taken.reverse ++ bs.data.toList.drop i := by
  induction i, taken using ByteArray.toList.loop.induct bs with
  | case1 i taken h ih =>
    have hi : i < bs.data.size := h
    have hget : bs.get! i = bs.data[i] := by simp [ByteArray.get!, getElem!_pos bs.data i hi]
    rw [ByteArray.toList.loop, if_pos h, ih, List.drop_eq_getElem_cons h, hget]
    simp
  | case2 i taken h =>
    rw [ByteArray.toList.loop, if_neg h, List.drop_eq_nil_of_le (Nat.le_of_not_lt h),
      List.append_nil]

theorem encode_ofList (s : List Char) :
    Text.encode (String.ofList s) = s.flatMap String.utf8EncodeChar := by
  rw [Text.encode, ByteArray.toList, toList_loop]
  simp [List.utf8Encode]

theorem spell_utf8EncodeChar (hc : c.toNat < 128) : spell (String.utf8EncodeChar c) = [c] := by
  have hval : c.val.toNat ≤ 127 := Nat.le_of_lt_succ hc
  rw [String.utf8EncodeChar, if_pos hval]
  simp [spell, Nat.mod_eq_of_lt (show c.toNat < 256 by omega)]

/-- A text of ASCII characters is spelled as it is. -/
theorem spellText_ofList (hs : ∀ c ∈ s, c.toNat < 128) : spellText (String.ofList s) = s := by
  rw [spellText, encode_ofList, spell, List.map_flatMap]
  induction s with
  | nil => rfl
  | cons c s ih =>
    obtain ⟨hc, hs⟩ := List.forall_mem_cons.1 hs
    rw [List.flatMap_cons, ih hs]
    exact congrArg (· ++ s) (spell_utf8EncodeChar hc)

/-- **A line of plain words of ASCII characters is a command of these words.** -/
theorem isCommandOf_plain (h : IsPlainLine w ws) (hascii : ∀ v ∈ w :: ws, ∀ c ∈ v, c.toNat < 128) :
    IsCommandOf (String.ofList (w ++ spaced ws)) ((w :: ws).map String.ofList) := by
  have hline : ∀ c ∈ w ++ spaced ws, c.toNat < 128 := by
    simp only [spaced, List.mem_append, List.mem_flatMap, List.mem_cons]
    rintro c (hc | ⟨v, hv, rfl | hc⟩)
    · exact hascii w (List.mem_cons_self ..) c hc
    · decide
    · exact hascii v (List.mem_cons_of_mem _ hv) c hc
  obtain ⟨after, hnext, hafter⟩ := next_plainWords h
  refine ⟨_, after, ?_, hafter, fields_plainWords (List.forall_mem_cons.2 ⟨h.first, h.others⟩)⟩
  rw [spellText_ofList hline, hnext]

end Inspection.Shell
