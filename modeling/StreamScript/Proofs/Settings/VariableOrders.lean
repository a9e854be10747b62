import Mathlib.Data.List.Forall2
import StreamScript.Proofs.Vars.Mirror
import StreamScript.Proofs.Words
import StreamScript.Settings.VariablesFile

/-!
# The orders of a variables file

A name and a value are written on a line of a variables file between braces, and other
lines may stand between the lines that hold such orders (`FileLine`).  The file is read
back as the pairs that were written, in their order, and nothing is wrong with it.

Names and values may have braces in them, as long as each of these has its partner
there (`Balanced`).  Then the reader of a group comes out at the depth where it went in,
with the whole text behind it (`VariablesFile.insideGroup_append`), and the next closing
brace is the one that was written behind the text.  Whether a text is balanced is found by
counting the groups that are open (`balanced_iff`).

A store is given its values in three steps, each of which writes over the one before: the
usual variables, those of the file, the roundtime.  What a key holds in the end is what was
written to it last, and no step changes a computed variable (`Store.get?_setAll`).

`VariablesFile.written_and_applied` is both together.
-/

namespace StreamScript

open Text

/-! ## The lines of a text -/

namespace Text

theorem trim_dropReturn (line : List Char) : trim (dropReturn line) = trim line := by
  rw [dropReturn]
  split
  · next h =>
    obtain ⟨front, rfl⟩ := List.getLast?_eq_some_iff.mp h
    rw [List.dropLast_concat, trim_append_blanks (List.forall_mem_singleton.mpr (by decide))]
  · rfl

/-- The lines of a text are the pieces between its line feeds, except for what a line break takes
from the end of a line and for an empty piece behind the last one. -/
theorem forall₂_lines (cs : List Char) : ∃ pieces,
    List.Forall₂ (fun line piece => trim line = trim piece) (lines cs) pieces ∧
      (cs.splitOn '\n' = pieces ∨ cs.splitOn '\n' = pieces ++ [[]]) := by
  have hreturns (front : List (List Char)) :
      List.Forall₂ (fun line piece => trim line = trim piece) (front.map dropReturn) front :=
    List.forall₂_map_left_iff.mpr (List.forall₂_same.mpr fun line _ => trim_dropReturn line)
  rw [← splitAt_eq_splitOn, lines]
  dsimp only
  generalize splitAt '\n' cs = pieces
  have hkept : ∃ kept, (if pieces.getLast? = some [] then pieces.dropLast else pieces) = kept ∧
      (pieces = kept ∨ pieces = kept ++ [[]]) := by
    split
    · next hlast =>
      obtain ⟨front, rfl⟩ := List.getLast?_eq_some_iff.mp hlast
      exact ⟨front, List.dropLast_concat, .inr rfl⟩
    · exact ⟨pieces, rfl, .inl rfl⟩
  obtain ⟨kept, hkept, hpieces⟩ := hkept
  rw [hkept]
  refine ⟨kept, ?_, hpieces⟩
  rcases List.eq_nil_or_concat kept with rfl | ⟨front, last, rfl⟩
  · exact .nil
  · rw [List.concat_eq_append, List.reverse_concat]
    dsimp only
    rw [List.reverse_reverse]
    refine List.rel_append (hreturns front) (.cons ?_ .nil)
    split
    · exact trim_dropReturn last
    · rfl

end Text

/-! ## Groups in braces -/

/-- Every brace in a text has its partner there. -/
inductive Balanced : List Char → Prop where
  | nil : Balanced []
  | char {c : Char} {cs : List Char} (hopen : c ≠ '\x7b') (hclose : c ≠ '\x7d')
      (h : Balanced cs) : Balanced (c :: cs)
  | group {inside cs : List Char} (hinside : Balanced inside) (h : Balanced cs) :
      Balanced ('\x7b' :: (inside ++ '\x7d' :: cs))

/-- Whether a text closes so many groups that are open in front of it, and those that it opens. -/
def countsOut : Nat → List Char → Bool
  | depth, [] => depth == 0
  | depth, c :: cs =>
      if c = '\x7b' then countsOut (depth + 1) cs
      else if c = '\x7d' then depth != 0 && countsOut (depth - 1) cs
      else countsOut depth cs

theorem countsOut_append {cs : List Char} (h : Balanced cs) (depth : Nat) (rest : List Char) :
    countsOut depth (cs ++ rest) = countsOut depth rest := by
  induction h generalizing depth rest with
  | nil => rfl
  | char hopen hclose _ ih => rw [List.cons_append, countsOut, if_neg hopen, if_neg hclose, ih]
  | @group inside cs _ _ ihinside ih =>
    have hclose : countsOut (depth + 1) ('\x7d' :: (cs ++ rest)) = countsOut depth (cs ++ rest) :=
      rfl
    rw [List.cons_append, List.append_assoc, List.cons_append, countsOut, if_pos rfl, ihinside,
      hclose, ih]

/-- A text that closes so many groups: up to each of the braces that close them it is balanced, and
so it is behind the last one. -/
def ClosesGroups : Nat → List Char → Prop
  | 0, cs => Balanced cs
  | depth + 1, cs => ∃ inside rest, cs = inside ++ '\x7d' :: rest ∧ Balanced inside ∧
      ClosesGroups depth rest

theorem ClosesGroups.char {depth : Nat} {c : Char} {cs : List Char} (h : ClosesGroups depth cs)
    (hopen : c ≠ '\x7b') (hclose : c ≠ '\x7d') : ClosesGroups depth (c :: cs) := by
  cases depth with
  | zero => exact Balanced.char hopen hclose h
  | succ depth =>
    obtain ⟨inside, rest, rfl, hinside, hrest⟩ := h
    exact ⟨c :: inside, rest, rfl, .char hopen hclose hinside, hrest⟩

theorem ClosesGroups.group {depth : Nat} {inside cs : List Char} (h : ClosesGroups depth cs)
    (hinside : Balanced inside) : ClosesGroups depth ('\x7b' :: (inside ++ '\x7d' :: cs)) := by
  cases depth with
  | zero => exact Balanced.group hinside h
  | succ depth =>
    obtain ⟨inside', rest, rfl, hinside', hrest⟩ := h
    refine ⟨'\x7b' :: (inside ++ '\x7d' :: inside'), rest, ?_, .group hinside hinside', hrest⟩
    simp

theorem closesGroups_of_countsOut {depth : Nat} {cs : List Char} (h : countsOut depth cs = true) :
    ClosesGroups depth cs := by
  induction cs generalizing depth with
  | nil =>
    obtain rfl : depth = 0 := beq_iff_eq.mp h
    exact .nil
  | cons c cs ih =>
    rw [countsOut] at h
    split at h
    · next hopen =>
      obtain ⟨inside, rest, rfl, hinside, hrest⟩ := ih h
      exact hopen ▸ hrest.group hinside
    · next hopen =>
      split at h
      · next hclose =>
        cases depth with
        | zero => cases h
        | succ depth => exact ⟨[], cs, hclose ▸ rfl, .nil, ih h⟩
      · next hclose => exact (ih h).char hopen hclose

/-- A text is balanced exactly when it closes the groups that it opens and no others. -/
theorem balanced_iff {cs : List Char} : Balanced cs ↔ countsOut 0 cs = true := by
  refine ⟨fun h => ?_, closesGroups_of_countsOut⟩
  rw [← List.append_nil cs, countsOut_append h]
  rfl

instance : DecidablePred Balanced := fun _ =>
  decidable_of_iff _ balanced_iff.symm

namespace VariablesFile

variable {cs rest line : List Char}

theorem insideGroup_open (depth : Nat) (rest : List Char) :
    insideGroup depth ('\x7b' :: rest) =
      (insideGroup (depth + 1) rest).map fun found => ('\x7b' :: found.1, found.2) :=
  rfl

theorem insideGroup_close (depth : Nat) (rest : List Char) :
    insideGroup (depth + 1) ('\x7d' :: rest) =
      (insideGroup depth rest).map fun found => ('\x7d' :: found.1, found.2) :=
  rfl

theorem insideGroup_char (depth : Nat) {c : Char} (hopen : c ≠ '\x7b') (hclose : c ≠ '\x7d')
    (rest : List Char) :
    insideGroup depth (c :: rest) =
      (insideGroup depth rest).map fun found => (c :: found.1, found.2) := by
  rw [insideGroup, if_neg hopen, if_neg hclose]

/-- What is balanced is read over, at whatever depth. -/
theorem insideGroup_append (h : Balanced cs) (depth : Nat) (rest : List Char) :
    insideGroup depth (cs ++ rest) =
      (insideGroup depth rest).map fun found => (cs ++ found.1, found.2) := by
  induction h generalizing depth rest with
  | nil => exact Option.map_id'.symm
  | char hopen hclose _ ih =>
    rw [List.cons_append, insideGroup_char depth hopen hclose, ih, Option.map_map]
    rfl
  | @group inside cs _ _ ihinside ih =>
    rw [List.cons_append, List.append_assoc, List.cons_append, insideGroup_open, ihinside,
      insideGroup_close, ih, Option.map_map, Option.map_map, Option.map_map]
    simp only [Function.comp_def, List.cons_append, List.append_assoc]

/-- A trimmed and balanced text in braces is read as it is, behind blanks too. -/
theorem readGroup_braced {blanks : List Char} (hblanks : ∀ c ∈ blanks, isBlank c = true)
    (htrim : trim cs = cs) (h : Balanced cs) (rest : List Char) :
    readGroup (blanks ++ '\x7b' :: (cs ++ '\x7d' :: rest)) = .ok (cs, rest) := by
  have hstart : trimStart (blanks ++ '\x7b' :: (cs ++ '\x7d' :: rest)) =
      '\x7b' :: (cs ++ '\x7d' :: rest) := by
    rw [Statement.trimStart_append hblanks]
    rfl
  have hinside : insideGroup 0 (cs ++ '\x7d' :: rest) = some (cs, rest) := by
    rw [insideGroup_append h]
    exact congrArg (fun front => some (front, rest)) (List.append_nil cs)
  rw [readGroup, hstart]
  simp only [hinside, htrim]

/-! ## Lines of a file -/

/-- A text that can stand between braces. -/
structure Braced where
  text : String
  trimmed : trim text.toList = text.toList
  balanced : Balanced text.toList
  oneLine : '\n' ∉ text.toList

/-- Blanks within a line. -/
structure Blanks where
  chars : List Char
  blank : ∀ c ∈ chars, isBlank c = true
  oneLine : '\n' ∉ chars

/-- A line that holds no order: it is blank, or behind its blanks it does not start with a number
sign, or the first word behind the number sign is not `var`, in capital or small letters. -/
def PassedOver (line : List Char) : Prop :=
  (∀ c ∈ line, isBlank c = true) ∨ (trimStart line).head? ≠ some '#' ∨
    eqIgnoringCase (nextWord (trimStart line).tail).1 ['v', 'a', 'r'] = false

instance : DecidablePred PassedOver := fun line =>
  decidable_of_iff (line.all isBlank = true ∨ (trimStart line).head? ≠ some '#' ∨
    eqIgnoringCase (nextWord (trimStart line).tail).1 ['v', 'a', 'r'] = false)
    (or_congr List.all_eq_true Iff.rfl)

/-- A line of a variables file: an order for a name and a value, with any blanks around it, or
something else that is passed over. -/
inductive FileLine where
  | order (front back : Blanks) (name value : Braced) (named : name.text ≠ "")
  | other (text : String) (passed : PassedOver text.toList) (oneLine : '\n' ∉ text.toList)

/-- A name and a value as they are written behind `#var`. -/
def inBraces (name value : List Char) : List Char :=
  ' ' :: '\x7b' :: (name ++ '\x7d' :: ' ' :: '\x7b' :: (value ++ ['\x7d']))

/-- An order as it is written, without blanks around it. -/
def orderChars (name value : List Char) : List Char :=
  '#' :: 'v' :: 'a' :: 'r' :: inBraces name value

namespace FileLine

/-- The line as it stands in the file. -/
def chars : FileLine → List Char
  | order front back name value _ =>
      front.chars ++ (orderChars name.text.toList value.text.toList ++ back.chars)
  | other text _ _ => text.toList

/-- What the line gives. -/
def var? : FileLine → Option (String × String)
  | order _ _ name value _ => some (name.text, value.text)
  | other .. => none

/-- The text of a file with these lines. -/
def fileText (lines : List FileLine) : String :=
  "\n".intercalate (lines.map fun line => String.ofList line.chars)

theorem oneLine (line : FileLine) : '\n' ∉ line.chars := by
  cases line with
  | order front back name value named =>
    have hfront := front.oneLine
    have hback := back.oneLine
    have hname := name.oneLine
    have hvalue := value.oneLine
    simp [chars, orderChars, inBraces, hfront, hback, hname, hvalue]
  | other _ _ oneLine => exact oneLine

end FileLine

/-- A name and a value in braces are read as they are. -/
theorem readVar_inBraces {name : Braced} (value : Braced) (named : name.text ≠ "") :
    readVar (inBraces name.text.toList value.text.toList) = .ok (name.text, value.text) := by
  have hblank : ∀ c ∈ [' '], isBlank c = true := List.forall_mem_singleton.mpr (by decide)
  have hname := readGroup_braced hblank name.trimmed name.balanced
    (' ' :: '\x7b' :: (value.text.toList ++ ['\x7d']))
  have hvalue := readGroup_braced hblank value.trimmed value.balanced []
  have hne : name.text.toList.isEmpty = false :=
    List.isEmpty_eq_false_iff.mpr (mt String.toList_eq_nil_iff.mp named)
  have hstart : trimStart (' ' :: '\x7b' :: (value.text.toList ++ ['\x7d'])) =
      '\x7b' :: (value.text.toList ++ ['\x7d']) := rfl
  rw [List.singleton_append] at hname hvalue
  simp only [readVar, inBraces, hname, bind, Except.bind, hne, Bool.false_eq_true, if_false, pure,
    Except.pure, hstart, hvalue, String.ofList_toList]

theorem trim_orderChars (name value : List Char) :
    trim (orderChars name value) = orderChars name value := by
  have hconcat : orderChars name value = '#' :: (('v' :: 'a' :: 'r' :: ' ' :: '\x7b' ::
      (name ++ '\x7d' :: ' ' :: '\x7b' :: value)) ++ ['\x7d']) := by
    simp [orderChars, inBraces]
  rw [hconcat]
  exact trim_cons_concat (by decide) (by decide) _

theorem readLine?_congr {line line' : List Char} (h : trim line = trim line') :
    readLine? line = readLine? line' := by
  rw [readLine?, readLine?, h]

/-- A line that holds no order is passed over. -/
theorem readLine?_of_passedOver (h : PassedOver line) : readLine? line = none := by
  rw [readLine?, trim]
  cases hstart : trimStart line with
  | nil => rfl
  | cons c rest =>
    have hblank : isBlank c = false := isBlank_of_trimStart_eq hstart
    rw [trimEnd_cons, if_neg fun hnil => Bool.false_ne_true (hblank ▸ hnil.1)]
    by_cases hc : c = '#'
    · have hword : eqIgnoringCase (nextWord rest).1 ['v', 'a', 'r'] = false := by
        rcases h with hall | hhead | hword
        · rw [trimStart, List.dropWhile_eq_nil_iff.mpr hall] at hstart
          cases hstart
        · exact absurd (by rw [hstart, hc]; rfl) hhead
        · rwa [hstart] at hword
      rw [hc]
      simp only [nextWord_trimEnd, hword, Bool.false_eq_true, if_false]
    · split
      · next heq => exact absurd (List.cons.inj heq).1 hc
      · rfl

theorem readLine?_chars (line : FileLine) : readLine? line.chars = line.var?.map .ok := by
  cases line with
  | order front back name value named =>
    have htrim : trim (FileLine.order front back name value named).chars =
        orderChars name.text.toList value.text.toList := by
      rw [FileLine.chars, trim, Statement.trimStart_append front.blank, ← trim,
        trim_append_blanks back.blank, trim_orderChars]
    have hword (args : List Char) : nextWord ('v' :: 'a' :: 'r' :: ' ' :: args) =
        (['v', 'a', 'r'], ' ' :: args) := rfl
    rw [readLine?, htrim, orderChars, inBraces]
    simp only [hword]
    rw [← inBraces, readVar_inBraces value named]
    rfl
  | other text passed _ => exact readLine?_of_passedOver passed

/-! ## Reading a file -/

theorem readLines_congr {lines pieces : List (List Char)}
    (h : List.Forall₂ (fun line piece => trim line = trim piece) lines pieces) (number : Nat) :
    readLines number lines = readLines number pieces := by
  induction h generalizing number with
  | nil => rfl
  | cons hline _ ih => rw [readLines, readLines, readLine?_congr hline, ih]

theorem readLines_concat_nil (lines : List (List Char)) (number : Nat) :
    readLines number (lines ++ [[]]) = readLines number lines := by
  induction lines generalizing number with
  | nil => rfl
  | cons line lines ih => rw [List.cons_append, readLines, readLines, ih]

/-- What a text is read as depends only on the pieces between its line feeds. -/
theorem readLines_lines (cs : List Char) (number : Nat) :
    readLines number (lines cs) = readLines number (cs.splitOn '\n') := by
  obtain ⟨pieces, hlines, hpieces | hpieces⟩ := forall₂_lines cs
  · rw [readLines_congr hlines, hpieces]
  · rw [readLines_congr hlines, hpieces, readLines_concat_nil]

theorem readLines_chars (lines : List FileLine) (number : Nat) :
    readLines number (lines.map FileLine.chars) = (lines.filterMap FileLine.var?, []) := by
  induction lines generalizing number with
  | nil => rfl
  | cons line lines ih =>
    rw [List.map_cons, readLines, ih, readLine?_chars]
    cases line with
    | order => rfl
    | other => rfl

/-- **A file is read back as it was written.** -/
theorem read_fileText (lines : List FileLine) :
    read (FileLine.fileText lines) = (⟨lines.filterMap FileLine.var?⟩, []) := by
  have htext : (FileLine.fileText lines).toList =
      ['\n'].intercalate (lines.map FileLine.chars) := by
    rw [FileLine.fileText, String.toList_intercalate, List.map_map]
    simp only [Function.comp_def, String.toList_ofList]
    rfl
  have hfree : ∀ cs ∈ lines.map FileLine.chars, '\n' ∉ cs := by
    intro cs hcs
    obtain ⟨line, _, rfl⟩ := List.mem_map.mp hcs
    exact line.oneLine
  have hread : readLines 1 ((['\n'].intercalate (lines.map FileLine.chars)).splitOn '\n') =
      (lines.filterMap FileLine.var?, []) := by
    by_cases hnil : lines = []
    · rw [hnil]
      rfl
    · rw [List.splitOn_intercalate '\n' hfree (mt List.map_eq_nil_iff.mp hnil), readLines_chars]
  rw [read, htext, readLines_lines, hread]

end VariablesFile

/-! ## Writes to a store -/

namespace Store

variable {s : Store} {key : String}

/-- A write is read back where it was made, unless the key is computed. -/
theorem get?_set (s : Store) (written value key : String) :
    (s.set written value).2.get? key =
      if s.isComputed key = true then s.get? key
      else if written = key then some value else s.get? key := by
  rw [Store.set]
  split
  · next hskip =>
    split
    · rfl
    · next hliteral =>
      rw [Bool.not_eq_true] at hliteral
      split
      · next heq =>
        rw [heq, hliteral, Bool.false_or, beq_iff_eq] at hskip
        rw [get?_of_not_computed hliteral, hskip]
      · rfl
  · cases hcomputed : s.computed.get? key with
    | some c =>
      have hthere : s.isComputed key = true := Option.isSome_iff_exists.mpr ⟨c, hcomputed⟩
      have hthere' : ({ s with literals := s.literals.insert written value } : Store).computed.get?
          key = some c := hcomputed
      rw [if_pos hthere, get?_of_computed hthere', get?_of_computed hcomputed]
    | none =>
      have hliteral := isComputed_eq_false_iff.mpr hcomputed
      have hliteral' : ({ s with literals := s.literals.insert written value } : Store).isComputed
          key = false := hliteral
      rw [hliteral, if_neg Bool.false_ne_true, get?_of_not_computed hliteral',
        get?_of_not_computed hliteral, Bindings.get?_insert]

theorem computed_setAll (s : Store) (vars : List (String × String)) :
    (s.setAll vars).computed = s.computed := by
  induction vars generalizing s with
  | nil => rfl
  | cons e vars ih => exact (ih _).trans (Write.computed_perform (.set e.1 e.2) s)

/-- **The last write to a key is the one that counts**, and a computed key takes none. -/
theorem get?_setAll (s : Store) (vars : List (String × String)) (key : String) :
    (s.setAll vars).get? key =
      if s.isComputed key = true then s.get? key
      else (vars.reverse.lookup key).or (s.get? key) := by
  induction vars generalizing s with
  | nil =>
    rw [List.reverse_nil, List.lookup_nil, Option.none_or, ite_self]
    rfl
  | cons e vars ih =>
    obtain ⟨written, value⟩ := e
    have hsame : (s.set written value).2.isComputed key = s.isComputed key :=
      congrArg (·.contains key) (Write.computed_perform (.set written value) s)
    change ((s.set written value).2.setAll vars).get? key = _
    rw [ih, hsame, get?_set, List.reverse_cons, List.lookup_append, Option.or_assoc]
    split
    · rfl
    · congr 1
      rw [List.lookup_cons, List.lookup_nil]
      by_cases heq : written = key
      · rw [if_pos heq, beq_iff_eq.mpr heq.symm, Option.some_or]
      · rw [if_neg heq, beq_false_of_ne (Ne.symm heq), Option.none_or]

end Store

namespace VariablesFile

theorem lookup_reverse {key : String} {vars : List (String × String)}
    (h : (vars.map (·.1)).Nodup) : vars.reverse.lookup key = vars.lookup key := by
  induction vars with
  | nil => rfl
  | cons e vars ih =>
    obtain ⟨hfresh, hnodup⟩ := List.nodup_cons.mp h
    rw [List.reverse_cons, List.lookup_append, ih hnodup]
    by_cases heq : key = e.1
    · have hnone : vars.lookup key = none :=
        List.lookup_eq_none_iff.mpr fun e' he' => by
          rw [bne_iff_ne, heq]
          exact fun heq' => hfresh (List.mem_map.mpr ⟨e', he', heq'.symm⟩)
      rw [hnone, Option.none_or, List.lookup_cons, List.lookup_cons, beq_iff_eq.mpr heq]
    · rw [List.lookup_cons, List.lookup_cons, beq_false_of_ne heq, List.lookup_nil, Option.or_none]

/-- **What a store holds when it has been given its values**: no roundtime, and otherwise what the
file gives last, or else the usual value, or else what it held before. -/
theorem get?_apply (file : VariablesFile) (store : Store) (key : String) :
    (file.apply store).get? key =
      if store.isComputed key = true then store.get? key
      else if key = "roundtime" then some "0"
      else (file.get? key).or ((defaults.lookup key).or (store.get? key)) := by
  have hcomputed (vars : List (String × String)) (s : Store) :
      (s.setAll vars).isComputed key = s.isComputed key :=
    congrArg (·.contains key) (Store.computed_setAll s vars)
  have hdefaults : defaults.reverse.lookup key = defaults.lookup key := lookup_reverse (by decide)
  rw [apply, Store.get?_setAll, Store.get?_setAll, Store.get?_setAll, hcomputed, hcomputed,
    hdefaults, get?]
  split
  · rfl
  · rw [List.reverse_singleton, List.lookup_cons, List.lookup_nil]
    by_cases heq : key = "roundtime"
    · rw [if_pos heq, beq_iff_eq.mpr heq, Option.some_or]
    · rw [if_neg heq, beq_false_of_ne heq, Option.none_or]

theorem computed_apply (file : VariablesFile) (store : Store) :
    (file.apply store).computed = store.computed := by
  rw [apply, Store.computed_setAll, Store.computed_setAll, Store.computed_setAll]

/-- **A variables file is read back as it was written, and a store takes its values from it.**  The
pairs of its orders are read in their order and without an error.  A key that is not computed then
holds no roundtime, the value that the file gives it last, the usual value, or what it held before:
the first of these that there is. -/
theorem written_and_applied :
    (∀ lines : List FileLine,
      read (FileLine.fileText lines) = (⟨lines.filterMap FileLine.var?⟩, [])) ∧
    ∀ (file : VariablesFile) (store : Store) (key : String),
      (file.apply store).computed = store.computed ∧
        (file.apply store).get? key =
          if store.isComputed key = true then store.get? key
          else if key = "roundtime" then some "0"
          else (file.get? key).or ((defaults.lookup key).or (store.get? key)) :=
  ⟨read_fileText, fun file store key => ⟨computed_apply file store, get?_apply file store key⟩⟩

/-- The blanks of a text. -/
def Blanks.ofString (text : String)
    (h : text.toList.all (fun c => isBlank c && c != '\n') = true) : Blanks where
  chars := text.toList
  blank c hc := (Bool.and_eq_true_iff.mp (List.all_eq_true.mp h c hc)).1
  oneLine hc := absurd (List.all_eq_true.mp h '\n' hc) (by decide)

/-- A name with a group within a group. -/
def northName : Braced :=
  ⟨"exit \x7bnorth \x7bfar\x7d\x7d", by decide +kernel, by decide +kernel, by decide +kernel⟩

/-- A value that begins with a group and has a number sign in it. -/
def northValue : Braced :=
  ⟨"\x7bgo\x7d\x7b\x7bgate\x7d\x7d #2", by decide +kernel, by decide +kernel, by decide +kernel⟩

/-- A file with a comment, a blank line and another directive around its orders, one of which is
indented. -/
def townLines : List FileLine :=
  [.other "; the town" (by decide +kernel) (by decide +kernel),
    .order (.ofString "\t " (by decide)) (.ofString "" rfl) northName northValue (by decide),
    .other "  \t" (by decide +kernel) (by decide +kernel),
    .other "#alias \x7bvar\x7d \x7bx\x7d" (by decide +kernel) (by decide +kernel),
    .order (.ofString "" rfl) (.ofString " " (by decide))
      ⟨"roundtime", by decide +kernel, by decide +kernel, by decide +kernel⟩
      ⟨"", by decide +kernel, by decide +kernel, by decide +kernel⟩ (by decide)]

/-- The text of this file. -/
def townText : String :=
  "; the town\n" ++ "\t #var \x7bexit \x7bnorth \x7bfar\x7d\x7d\x7d " ++
    "\x7b\x7bgo\x7d\x7b\x7bgate\x7d\x7d #2\x7d\n" ++ "  \t\n" ++ "#alias \x7bvar\x7d \x7bx\x7d\n" ++
    "#var \x7broundtime\x7d \x7b\x7d "

/-- Both orders of the file are read as they were written.  A store that has been given them holds
the value under the name, and the roundtime is set back all the same. -/
theorem town_written_and_applied :
    FileLine.fileText townLines = townText ∧
      read townText = (⟨[(northName.text, northValue.text), ("roundtime", "")]⟩, []) ∧
      ((read townText).1.apply .empty).get? northName.text = some northValue.text ∧
      ((read townText).1.apply .empty).get? "roundtime" = some "0" := by
  have htext : FileLine.fileText townLines = townText := by decide +kernel
  have hread := written_and_applied.1 townLines
  rw [htext] at hread
  have happly := written_and_applied.2 (read townText).1 .empty
  refine ⟨htext, hread, ?_, ?_⟩
  · rw [(happly northName.text).2, hread]
    rfl
  · rw [(happly "roundtime").2]
    rfl

/-- **Blanks in front of an order and capital letters in it make no difference.**  The first line
here does not start with a number sign and the first word on the second is not `var`, but both are
orders. -/
theorem indented_and_capital_orders_taken :
    " #var \x7ba\x7d \x7bb\x7d".toList.head? ≠ some '#' ∧
      (nextWord "VAR \x7bc\x7d \x7bd\x7d".toList).1 ≠ "var".toList ∧
      read " #var \x7ba\x7d \x7bb\x7d\n#VAR \x7bc\x7d \x7bd\x7d" =
        (⟨[("a", "b"), ("c", "d")]⟩, []) := by
  decide +kernel

end VariablesFile

end StreamScript
