import Mathlib.Data.List.Forall2
import StreamScript.Proofs.Vars.Numbered
import StreamScript.Proofs.Words

/-!
# Arguments between quotes

The arguments of a label are written in one text with blanks between them.  An argument
that is empty or has blanks in it stands between double quotes, and any other may
(`WrittenAs`).  Each argument is bound as it is, whichever way it was written
(`Scopes.labelVars_written`).

The text is divided into words first, and a word keeps its quotes until it is bound.  What
carries the proof is therefore that reading a word that was written so leaves the reader
outside of quotes again, with all of the word behind it (`WrittenAs.quotedWordsFrom_append`).
That no blank is lost at the ends of the text needs the quotes too, for a blank at the end
of an argument is followed by one.
-/

namespace StreamScript

namespace Text

variable {arg word cs : List Char} {args words : List (List Char)}

/-! ## Writing an argument -/

/-- A way to write an argument without quotes in it: between quotes, or as it stands if it is not
empty and has no blanks. -/
inductive WrittenAs : List Char → List Char → Prop where
  | quoted {arg : List Char} (hquote : '"' ∉ arg) : WrittenAs arg ('"' :: (arg ++ ['"']))
  | bare {arg : List Char} (hquote : '"' ∉ arg) (hne : arg ≠ [])
      (hblank : ∀ c ∈ arg, isBlank c = false) : WrittenAs arg arg

theorem dropQuotes_eq_self (h : cs.head? ≠ some '"') : dropQuotes cs = cs := by
  cases cs with
  | nil => rfl
  | cons c cs => exact List.dropWhile_cons_of_neg fun heq => h (congrArg some (beq_iff_eq.mp heq))

theorem dropQuotes_of_not_mem (h : '"' ∉ cs) : dropQuotes cs = cs :=
  dropQuotes_eq_self (mt List.mem_of_mem_head? h)

theorem stripQuotes_of_not_mem (h : '"' ∉ cs) : stripQuotes cs = cs := by
  rw [stripQuotes, dropQuotes_of_not_mem h, dropQuotes_of_not_mem (mt List.mem_reverse.mp h),
    List.reverse_reverse]

theorem stripQuotes_quoted (h : '"' ∉ cs) : stripQuotes ('"' :: (cs ++ ['"'])) = cs := by
  have hfront : dropQuotes ('"' :: (cs ++ ['"'])) = dropQuotes (cs ++ ['"']) :=
    List.dropWhile_cons_of_pos rfl
  by_cases hne : cs = []
  · rw [hne]
    rfl
  · have hinside : dropQuotes (cs ++ ['"']) = cs ++ ['"'] := by
      refine dropQuotes_eq_self ?_
      rw [List.head?_append_of_ne_nil _ hne]
      exact mt List.mem_of_mem_head? h
    have hback : dropQuotes ('"' :: cs.reverse) = dropQuotes cs.reverse :=
      List.dropWhile_cons_of_pos rfl
    rw [stripQuotes, hfront, hinside, List.reverse_concat, hback,
      dropQuotes_of_not_mem (mt List.mem_reverse.mp h), List.reverse_reverse]

theorem WrittenAs.stripQuotes_eq (h : WrittenAs arg word) : stripQuotes word = arg := by
  cases h with
  | quoted hquote => exact stripQuotes_quoted hquote
  | bare hquote _ _ => exact stripQuotes_of_not_mem hquote

theorem WrittenAs.ne_nil (h : WrittenAs arg word) : word ≠ [] := by
  cases h with
  | quoted _ => exact List.cons_ne_nil _ _
  | bare _ hne _ => exact hne

/-- Neither way of writing leaves a blank at an end. -/
theorem WrittenAs.trim_eq (h : WrittenAs arg word) : trim word = word := by
  cases h with
  | quoted _ => exact trim_cons_concat (by decide) (by decide) arg
  | bare _ _ hblank => exact trim_word hblank

/-! ## Reading the words -/

theorem quotedWordsFrom_append {inside : Bool}
    (h : ∀ c ∈ cs, c ≠ '"' ∧ (isBlank c && !inside) = false) (front rest : List Char) :
    quotedWordsFrom inside front (cs ++ rest) =
      quotedWordsFrom inside (cs.reverse ++ front) rest := by
  induction cs generalizing front with
  | nil => rfl
  | cons c cs ih =>
    obtain ⟨⟨hquote, hblank⟩, hcs⟩ := List.forall_mem_cons.mp h
    rw [List.cons_append, quotedWordsFrom, if_neg hquote, hblank, if_neg Bool.false_ne_true,
      ih hcs, List.reverse_cons, List.append_assoc, List.singleton_append]

/-- A word that was written so is read as a whole, and outside of quotes again. -/
theorem WrittenAs.quotedWordsFrom_append (h : WrittenAs arg word) (front rest : List Char) :
    quotedWordsFrom false front (word ++ rest) =
      quotedWordsFrom false (word.reverse ++ front) rest := by
  cases h with
  | quoted hquote =>
    have hinside : ∀ c ∈ arg, c ≠ '"' ∧ (isBlank c && !(!false)) = false := fun c hc =>
      ⟨fun heq => hquote (heq ▸ hc), Bool.and_false _⟩
    rw [List.cons_append, quotedWordsFrom, if_pos rfl, List.append_assoc,
      Text.quotedWordsFrom_append hinside, List.singleton_append, quotedWordsFrom, if_pos rfl,
      List.reverse_cons, List.reverse_concat, List.cons_append, List.cons_append,
      List.append_assoc]
    rfl
  | bare hquote _ hblank =>
    refine Text.quotedWordsFrom_append (fun c hc => ⟨fun heq => hquote (heq ▸ hc), ?_⟩) front rest
    rw [hblank c hc, Bool.false_and]

theorem WrittenAs.quotedWords_cons (h : WrittenAs arg word) (rest : List Char) :
    quotedWords (word ++ ' ' :: rest) = word :: quotedWords rest := by
  have hword : wordIfAny word = [word] := if_neg (mt List.isEmpty_iff.mp h.ne_nil)
  rw [quotedWords, h.quotedWordsFrom_append, List.append_nil, quotedWordsFrom,
    if_neg (by decide), if_pos (by decide), List.reverse_reverse, hword]
  rfl

theorem WrittenAs.quotedWords_singleton (h : WrittenAs arg word) : quotedWords word = [word] := by
  have hread := h.quotedWordsFrom_append [] []
  rw [List.append_nil, List.append_nil] at hread
  rw [quotedWords, hread, quotedWordsFrom, List.reverse_reverse]
  exact if_neg (mt List.isEmpty_iff.mp h.ne_nil)

/-! ## A text of arguments -/

/-- A text of arguments: what they are written as, with single blanks between them. -/
def blankBetween (words : List (List Char)) : List Char :=
  [' '].intercalate words

theorem blankBetween_cons_cons (word next : List Char) (words : List (List Char)) :
    blankBetween (word :: next :: words) = word ++ ' ' :: blankBetween (next :: words) := by
  rw [blankBetween, List.intercalate_cons_cons, List.append_assoc]
  rfl

/-- The words of a text of arguments are what the arguments were written as. -/
theorem quotedWords_blankBetween (h : List.Forall₂ WrittenAs args words) (hne : words ≠ []) :
    quotedWords (blankBetween words) = words := by
  induction h with
  | nil => exact absurd rfl hne
  | @cons arg word args words hword hwords ih =>
    cases words with
    | nil =>
      rw [blankBetween, List.intercalate_singleton]
      exact hword.quotedWords_singleton
    | cons next words =>
      rw [blankBetween_cons_cons, hword.quotedWords_cons, ih (List.cons_ne_nil _ _)]

/-- No blank stands at an end of a text of arguments. -/
theorem trim_blankBetween (h : List.Forall₂ WrittenAs args words) (hne : words ≠ []) :
    trim (blankBetween words) = blankBetween words ∧ blankBetween words ≠ [] := by
  induction h with
  | nil => exact absurd rfl hne
  | @cons arg word args words hword hwords ih =>
    cases words with
    | nil =>
      rw [blankBetween, List.intercalate_singleton]
      exact ⟨hword.trim_eq, hword.ne_nil⟩
    | cons next words =>
      obtain ⟨htrim, hrest⟩ := ih (List.cons_ne_nil _ _)
      have hend := trimEnd_of_trim htrim
      have hback : trimEnd (' ' :: blankBetween (next :: words)) =
          ' ' :: blankBetween (next :: words) := by
        rw [trimEnd_cons, hend, if_neg fun hnil => hrest hnil.2]
      have hstart : trimStart (word ++ ' ' :: blankBetween (next :: words)) =
          word ++ ' ' :: blankBetween (next :: words) := by
        refine Statement.trimStart_eq_self fun c hc => ?_
        rw [List.head?_append_of_ne_nil _ hword.ne_nil] at hc
        obtain ⟨cs, rfl⟩ := List.head?_eq_some_iff.mp hc
        exact isBlank_of_trimStart (trimStart_of_trim hword.trim_eq)
      rw [blankBetween_cons_cons, trim, hstart,
        Statement.trimEnd_append (by rw [hback]; exact List.cons_ne_nil _ _), hback]
      exact ⟨rfl, List.append_ne_nil_of_left_ne_nil hword.ne_nil _⟩

theorem map_stripQuotes (h : List.Forall₂ WrittenAs args words) :
    words.map stripQuotes = args := by
  induction h with
  | nil => rfl
  | cons hword _ ih => rw [List.map_cons, hword.stripQuotes_eq, ih]

end Text

open Text

namespace Scopes

variable {args words : List String}

/-- The variables for arguments that have been written out. -/
theorem labelScope_written
    (h : List.Forall₂ WrittenAs (args.map String.toList) (words.map String.toList))
    (hne : args ≠ []) :
    labelScope (" ".intercalate words) = Scope.indexed (" ".intercalate words :: args) := by
  have hwords : words.map String.toList ≠ [] := by
    intro hnil
    have hlength := h.length_eq
    rw [hnil, List.length_map] at hlength
    exact hne (List.length_eq_zero_iff.mp hlength)
  have htext : (" ".intercalate words).toList = blankBetween (words.map String.toList) :=
    String.toList_intercalate
  obtain ⟨htrim, htextne⟩ := trim_blankBetween h hwords
  have hargs : (words.map String.toList).map (fun w => String.ofList (stripQuotes w)) = args := by
    have hstrip := congrArg (List.map String.ofList) (map_stripQuotes h)
    rw [List.map_map, List.map_map, List.map_map] at hstrip
    simpa only [List.map_map, Function.comp_def, String.ofList_toList, List.map_id'] using hstrip
  rw [labelScope, htext, htrim]
  dsimp only
  rw [if_neg (mt List.isEmpty_iff.mp htextne), quotedWords_blankBetween h hwords, hargs, ← htext,
    String.ofList_toList]

/-- **The arguments of a label arrive as they were written.**  The whole text is bound to number
zero and each argument to its own, unchanged, and nothing else is bound, whatever was before. -/
theorem labelVars_written (s : Scopes) (hne : args ≠ [])
    (h : List.Forall₂ WrittenAs (args.map String.toList) (words.map String.toList)) :
    (s.setLabelArgs (" ".intercalate words)).labelVars.BindsNumbers
      ((" ".intercalate words :: args)[·]?) := by
  have hbound : (s.setLabelArgs (" ".intercalate words)).labelVars =
      Scope.indexed (" ".intercalate words :: args) := labelScope_written h hne
  rw [hbound]
  exact Scope.bindsNumbers_indexed _

/-- An empty argument and one with blanks in it are bound next to a bare one; of more arguments that
were bound before, nothing is left. -/
theorem labelVars_written_again :
    ["two words", "", "plain"] ≠ [] ∧
      List.Forall₂ WrittenAs (["two words", "", "plain"].map String.toList)
        (["\"two words\"", "\"\"", "plain"].map String.toList) ∧
      (((ofName "greeter").setLabelArgs "a b c d").setLabelArgs
        (" ".intercalate ["\"two words\"", "\"\"", "plain"])).labelVars.BindsNumbers
        ((" ".intercalate ["\"two words\"", "\"\"", "plain"] ::
          ["two words", "", "plain"])[·]?) := by
  have hne : ["two words", "", "plain"] ≠ [] := List.cons_ne_nil _ _
  have hplain : ∀ c ∈ "plain".toList, isBlank c = false := fun c hc =>
    isBlank_of_isAlpha (List.all_eq_true.mp (rfl : "plain".toList.all Char.isAlpha = true) c hc)
  have hwritten : List.Forall₂ WrittenAs (["two words", "", "plain"].map String.toList)
      (["\"two words\"", "\"\"", "plain"].map String.toList) :=
    .cons (.quoted (by decide)) (.cons (.quoted (by decide))
      (.cons (.bare (by decide) (by decide) hplain) .nil))
  exact ⟨hne, hwritten, labelVars_written _ hne hwritten⟩

end Scopes

end StreamScript
