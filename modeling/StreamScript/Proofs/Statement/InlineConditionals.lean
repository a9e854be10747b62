import StreamScript.Proofs.Expr.ConditionEnd
import StreamScript.Statement.Reader

/-!
# Ways to write a conditional

The body of a conditional on one line may stand behind the word `then`, in braces, or
both.  All of these are read alike (`read_conditional_forms`), whatever the condition is, as
long as it ends neither within quotes or parentheses nor before its text does, and
whatever the body holds: braces, quotes and the word `then` may stand in it.

What stands in front of a condition only decides which conditional it is (`Leads`), and
what stands behind it only where it ends and what is left (`Phrase.Cuts`).  A line is read
by putting the two together (`readChars?_of_leads`).
-/

namespace StreamScript

open Text

/-! ## What ends a condition -/

namespace Phrase

variable {c tail rest more : List Char}

/-- A condition that ends where its text does, and outside quotes and parentheses. -/
structure IsClosed (c : List Char) : Prop where
  whole : splitFrom {} c = ⟨c, [], false⟩
  unquoted : (Scan.after {} c).quoted = false
  depth : (Scan.after {} c).depth = 0

/-- What stands behind a condition ends it, perhaps after blanks, and leaves the rest. -/
structure Cuts (tail rest : List Char) : Prop where
  pauses : Pauses tail
  cut {s : Scan} (hquoted : s.quoted = false) (hdepth : s.depth = 0) :
    ∃ blanks hadThen, (∀ c ∈ blanks, isBlank c = true) ∧
      splitFrom s tail = ⟨blanks, rest, hadThen⟩

theorem cuts_nil : Cuts [] [] :=
  ⟨nofun, fun _ _ => ⟨[], false, List.forall_mem_nil _, rfl⟩⟩

/-- Behind a blank a condition ends at what is not part of it. -/
theorem Cuts.of_endsAt {c : Char} (hadThen : Bool)
    (hend : ∀ s : Scan, s.quoted = false → s.depth = 0 → s.fresh = true →
      s.endsAt (c :: more) = some hadThen) :
    Cuts (' ' :: c :: more) (if hadThen then more.drop 3 else c :: more) := by
  have hblank : isBlank ' ' = true := by decide
  refine ⟨fun d hd => Option.some.inj hd ▸ hblank, fun {s} hquoted hdepth => ?_⟩
  have hnext : s.next ' ' = { s with fresh := true } := by
    simp [Scan.next, hquoted, hblank]
  refine ⟨[' '], hadThen, List.forall_mem_singleton.mpr hblank, ?_⟩
  have hcut := hend (s.next ' ') (by rw [hnext]; exact hquoted) (by rw [hnext]; exact hdepth)
    (by rw [hnext])
  rw [splitFrom, endsAt_blank hblank, splitFrom, hcut]
  cases hadThen <;> rfl

theorem cuts_brace (more : List Char) : Cuts (' ' :: '\x7b' :: more) ('\x7b' :: more) :=
  .of_endsAt false fun s hquoted hdepth _ => by
    simp [Scan.endsAt, hquoted, hdepth]

theorem cuts_then (h : startsWithThen ('t' :: 'h' :: 'e' :: 'n' :: more) = true) :
    Cuts (' ' :: 't' :: 'h' :: 'e' :: 'n' :: more) more :=
  .of_endsAt true fun s hquoted hdepth hfresh => by
    simp [Scan.endsAt, hquoted, hdepth, hfresh, h]

/-- A condition is read up to what ends it. -/
theorem IsClosed.read (hc : IsClosed c) (h : Cuts tail rest) :
    (read (' ' :: (c ++ tail))).phrase? = (read c).phrase? ∧
      (read (' ' :: (c ++ tail))).rest = trim rest := by
  have hblank : isBlank ' ' = true := by decide
  obtain ⟨blanks, hadThen, hblanks, hcut⟩ := h.cut hc.unquoted hc.depth
  have hsplit := splitFrom_append (passes_of_pauses h.pauses (passes_of_splitFrom hc.whole))
  have hfirst : splitFrom {} (' ' :: (c ++ tail)) = ⟨' ' :: (c ++ blanks), rest, hadThen⟩ := by
    have hnext : Scan.next {} ' ' = {} := rfl
    rw [splitFrom, endsAt_blank hblank, hnext, hsplit, hcut]
  have htrim : trim (' ' :: (c ++ blanks)) = trim c := by
    rw [← List.cons_append, trim_append_blanks hblanks]
    rfl
  rw [Phrase.read, Phrase.read, hfirst, hc.whole]
  dsimp only
  rw [htrim]
  exact ⟨rfl, rfl⟩

end Phrase

namespace Statement

variable {inner : List Char → Option Statement} {cs s : List Char} {head : Head}
  {make : Phrase → Head}

/-! ## What stands in front of a condition -/

/-- The reader of bodies that are shorter than a line. -/
def readWithin (n : Nat) (body : List Char) : Option Statement :=
  if _h : body.length < n then readChars? body else none

theorem readChars?_eq (cs : List Char) :
    readChars? cs = readLine? (readWithin cs.length) (trim cs) := by
  rw [readChars?]
  rfl

theorem nextWord_letters {word : List Char} (hword : word.all Char.isAlpha = true)
    (hne : word ≠ []) (h : Phrase.Pauses cs) : nextWord (word ++ cs) = (word, cs) :=
  nextWord_append (List.forall_mem_nil _)
    (fun c hc => isBlank_of_isAlpha (List.all_eq_true.mp hword c hc)) hne h

theorem readLine?_if (h : Phrase.Pauses cs) :
    readLine? inner ('i' :: 'f' :: cs) = readIf? inner cs := by
  change readWords? inner (['i', 'f'] ++ cs) = _
  rw [readWords?, nextWord_letters (by decide) (by decide) h]
  rfl

theorem readLine?_else (h : Phrase.Pauses cs) :
    readLine? inner ('e' :: 'l' :: 's' :: 'e' :: cs) = readElse? inner cs := by
  change readWords? inner (['e', 'l', 's', 'e'] ++ cs) = _
  rw [readWords?, nextWord_letters (by decide) (by decide) h]
  rfl

theorem readLine?_elseif (h : Phrase.Pauses cs) :
    readLine? inner ('e' :: 'l' :: 's' :: 'e' :: 'i' :: 'f' :: cs) =
      readElse? inner ('i' :: 'f' :: cs) := by
  change readWords? inner (['e', 'l', 's', 'e', 'i', 'f'] ++ cs) = _
  rw [readWords?, nextWord_letters (by decide) (by decide) h]
  rfl

theorem readLine?_brace_else {blanks : List Char} (h : ∀ c ∈ blanks, isBlank c = true) :
    readLine? inner ('\x7d' :: (blanks ++ 'e' :: 'l' :: 's' :: 'e' :: cs)) =
      readElse? inner cs := by
  have hstart : trimStart ('e' :: 'l' :: 's' :: 'e' :: cs) = 'e' :: 'l' :: 's' :: 'e' :: cs := rfl
  rw [readLine?, trimStart_append h, hstart]
  rfl

theorem readElse?_if (hstart : trimStart cs = 'i' :: 'f' :: s) (h : Phrase.Pauses s) :
    readElse? inner cs =
      withBody? inner (.elseIf (phraseOf (Phrase.read s))) (Phrase.read s).rest := by
  have hif : afterText? "if" ('i' :: 'f' :: s) = some s := rfl
  rw [readElse?, hstart, hif]
  dsimp only
  split
  · next heq =>
    obtain rfl := Option.some.inj heq
    exact absurd (h '_' rfl) (by decide)
  · next heq =>
    obtain rfl := Option.some.inj heq
    rfl
  · next heq => cases heq

/-- A text that is not blank, without blanks at its ends. -/
structure IsTrimmed (cs : List Char) : Prop where
  trimmed : trim cs = cs
  ne_nil : cs ≠ []

/-- What a line starts with is not trimmed. -/
theorem IsTrimmed.trim_append {front : List Char} (h : IsTrimmed front) (cs : List Char) :
    trim (front ++ cs) = front ++ trimEnd cs := by
  have hstart : trimStart (front ++ cs) = front ++ cs := by
    obtain ⟨c, more, rfl⟩ := List.exists_cons_of_ne_nil h.ne_nil
    have hc := isBlank_of_trimStart (trimStart_of_trim h.trimmed)
    exact trimStart_eq_self fun d hd => Option.some.inj hd ▸ hc
  rw [trim, hstart]
  by_cases hnil : trimEnd cs = []
  · obtain ⟨blanks, hblanks, hcs⟩ := exists_trimEnd_append cs
    rw [hnil, List.nil_append] at hcs
    rw [hnil, hcs, trimEnd_append_blanks hblanks, trimEnd_of_trim h.trimmed, List.append_nil]
  · exact trimEnd_append hnil

/-- What a line ends with is not trimmed. -/
theorem IsTrimmed.trimEnd_append {back : List Char} (h : IsTrimmed back) (front : List Char) :
    trimEnd (front ++ back) = front ++ back := by
  have hback := trimEnd_of_trim h.trimmed
  rw [Statement.trimEnd_append (by rw [hback]; exact h.ne_nil), hback]

/-- A text in front of a condition that makes the line a conditional of a kind. -/
structure Leads (lead : List Char) (make : Phrase → Head) : Prop where
  front : IsTrimmed lead
  read (inner : List Char → Option Statement) {cs : List Char} (h : Phrase.Pauses cs) :
    readLine? inner (lead ++ cs) =
      withBody? inner (make (phraseOf (Phrase.read cs))) (Phrase.read cs).rest

theorem leads_if : Leads "if".toList .ifHolds :=
  ⟨⟨by decide, by decide⟩, fun _ _ h => readLine?_if h⟩

theorem leads_else_if : Leads "else if".toList .elseIf := by
  refine ⟨⟨by decide, by decide⟩, fun inner cs h => ?_⟩
  have hblank : Phrase.Pauses (' ' :: 'i' :: 'f' :: cs) :=
    fun c hc => Option.some.inj hc ▸ by decide
  exact (readLine?_else hblank).trans (readElse?_if rfl h)

theorem leads_elseif : Leads "elseif".toList .elseIf :=
  ⟨⟨by decide, by decide⟩,
    fun _ _ h => (readLine?_elseif h).trans (readElse?_if rfl h)⟩

theorem leads_brace_else_if : Leads "\x7d else if".toList .elseIf := by
  refine ⟨⟨by decide, by decide⟩, fun inner cs h => ?_⟩
  have hblanks : ∀ c ∈ [' '], isBlank c = true := List.forall_mem_singleton.mpr (by decide)
  exact (readLine?_brace_else hblanks).trans (readElse?_if rfl h)

theorem withBody?_trim (cs : List Char) :
    withBody? inner head (trim cs) = withBody? inner head cs := by
  rw [withBody?, withBody?, trim_trim]

theorem pauses_trimEnd (h : Phrase.Pauses cs) : Phrase.Pauses (trimEnd cs) := by
  by_cases hnil : trimEnd cs = []
  · rw [hnil]
    exact nofun
  · rw [Phrase.Pauses, head?_trimEnd hnil]
    exact h

/-- **A line is read by putting together what stands in front of its condition and what stands
behind it.** -/
theorem readChars?_of_leads {lead c tail rest : List Char} (hlead : Leads lead make)
    (hc : Phrase.IsClosed c) (hcuts : Phrase.Cuts tail rest) :
    readChars? (lead ++ ' ' :: (c ++ tail)) =
      withBody? (readWithin (lead ++ ' ' :: (c ++ tail)).length)
        (make (phraseOf (Phrase.read c))) rest := by
  have hpauses : Phrase.Pauses (' ' :: (c ++ tail)) := fun d hd => Option.some.inj hd ▸ by decide
  obtain ⟨hphrase, hrest⟩ := hc.read hcuts
  rw [readChars?_eq, hlead.front.trim_append, hlead.read _ (pauses_trimEnd hpauses),
    Phrase.read_trimEnd, phraseOf, hphrase, hrest, withBody?_trim, phraseOf]

/-! ## Where the body stands -/

/-- A statement stands on its own or in braces, perhaps between blanks. -/
def Holds (rest s : List Char) : Prop :=
  trim rest = s ∨ trim rest = '\x7b' :: (s ++ ['\x7d'])

theorem trim_braces (s : List Char) :
    trim ('\x7b' :: (s ++ ['\x7d'])) = '\x7b' :: (s ++ ['\x7d']) :=
  trim_cons_concat (by decide) (by decide) s

theorem withBody?_of_holds (hs : trim s = s) (hne : s ≠ []) (hbrace : s.head? ≠ some '\x7b')
    (h : Holds cs s) : withBody? inner head cs = (inner s).map (.single head) := by
  obtain ⟨c, more, rfl⟩ := List.exists_cons_of_ne_nil hne
  obtain heq | heq := h
  · rw [withBody?, heq]
    split
    · next hnil => cases hnil
    · next hone => exact absurd (congrArg List.head? hone) hbrace
    · next hcons => exact absurd (congrArg List.head? hcons) hbrace
    · rfl
  · rw [withBody?, heq]
    split
    · next hnil => cases hnil
    · next hone => cases hone
    · next rest _ hcons =>
      obtain rfl := (List.cons.inj hcons).2
      dsimp only
      rw [if_pos List.getLast?_concat, List.dropLast_concat, hs]
    · next hother => exact absurd rfl (hother _)

theorem readWithin_of_lt {n : Nat} (h : s.length < n) : readWithin n s = readChars? s :=
  dif_pos h

/-! ### No statement starts with the word `then` -/

theorem labelOfWord?_eq_none_of_mem {word : List Char} {c : Char} (hmem : c ∈ word)
    (hcolon : c ≠ ':') (hc : isLabelChar c = false) : labelOfWord? word = none := by
  unfold labelOfWord?
  split
  · next hlast =>
    obtain ⟨name, rfl⟩ := List.getLast?_eq_some_iff.mp hlast
    have hname : c ∈ name := by
      obtain hname | heq := List.mem_append.mp hmem
      · exact hname
      · exact absurd (List.mem_singleton.mp heq) hcolon
    have hall : name.all isLabelChar = false :=
      List.all_eq_false.mpr ⟨c, hname, by rw [hc]; exact Bool.false_ne_true⟩
    rw [List.dropLast_concat]
    dsimp only
    rw [hall, Bool.and_false]
    rfl
  · rfl

theorem readCommand?_then {word : String} (h : word.toList.take 4 = ['t', 'h', 'e', 'n']) :
    readCommand? word cs = none := by
  unfold readCommand?
  split
  all_goals first
    | rfl
    | exact absurd h (by decide)

/-- The first word of a text that starts with the word `then` is this word, or goes on with a
brace. -/
theorem nextWord_then (h : Phrase.startsWithThen s = true) :
    lowerAscii ((nextWord s).1.take 4) = ['t', 'h', 'e', 'n'] ∧
      ((nextWord s).1.length = 4 ∨ '\x7b' ∈ (nextWord s).1) := by
  rw [Phrase.startsWithThen, Bool.and_eq_true] at h
  obtain ⟨hfour, hends⟩ := h
  have hlower : lowerAscii (s.take 4) = ['t', 'h', 'e', 'n'] := eq_of_beq hfour
  have hlength : (s.take 4).length = 4 := by
    rw [← length_lowerAscii, hlower]
    rfl
  have hletter : ∀ c ∈ s.take 4, isBlank c = false := by
    intro c hc
    refine Phrase.isBlank_of_toLower_mem ?_
    rw [← hlower]
    exact List.mem_map_of_mem hc
  have hword : (nextWord s).1 = s.take 4 ++ (s.drop 4).takeWhile fun c => !isBlank c := by
    have hpos : ∀ c ∈ s.take 4, (!isBlank c) = true := fun c hc => by rw [hletter c hc]; rfl
    have hstart : trimStart s = s.take 4 ++ s.drop 4 := by
      rw [List.take_append_drop]
      refine trimStart_eq_self fun c hc => hletter c ?_
      rw [← List.take_append_drop 4 s,
        List.head?_append_of_ne_nil _ (List.ne_nil_of_length_pos (by omega))] at hc
      exact List.mem_of_mem_head? hc
    rw [nextWord, hstart, List.takeWhile_append_of_pos hpos]
  refine ⟨by rw [hword, List.take_append_of_le_length (Nat.le_of_eq hlength.symm), List.take_take,
    Nat.min_self, hlower], ?_⟩
  rw [hword]
  cases hmore : s.drop 4 with
  | nil => exact .inl (by rw [List.takeWhile_nil, List.append_nil, hlength])
  | cons c more =>
    rw [hmore, List.head?_cons] at hends
    obtain hblank | hbrace := Bool.or_eq_true_iff.mp hends
    · rw [List.takeWhile_cons_of_neg (by rw [hblank]; decide), List.append_nil]
      exact .inl hlength
    · obtain rfl := eq_of_beq hbrace
      rw [List.takeWhile_cons_of_pos (by decide)]
      exact .inr (List.mem_append_right _ (List.mem_cons_self ..))

theorem labelOfWord?_then {word : List Char}
    (hfour : lowerAscii (word.take 4) = ['t', 'h', 'e', 'n'])
    (hend : word.length = 4 ∨ '\x7b' ∈ word) : labelOfWord? word = none := by
  obtain hlength | hbrace := hend
  · unfold labelOfWord?
    split
    · next hlast =>
      rw [List.take_of_length_le (Nat.le_of_eq hlength)] at hfour
      have hcolon := congrArg List.getLast? hfour
      rw [lowerAscii, List.getLast?_map, hlast] at hcolon
      exact absurd hcolon (by decide)
    · rfl
  · exact labelOfWord?_eq_none_of_mem hbrace (by decide) (by decide)

theorem afterText?_then {word : List Char} {text : String}
    (hfour : lowerAscii (word.take 4) = ['t', 'h', 'e', 'n']) (hlength : text.toList.length ≤ 4)
    (hne : ['t', 'h', 'e', 'n'].take text.toList.length ≠ lowerAscii text.toList) :
    afterText? text word = none := by
  refine if_neg fun heq => hne ?_
  rw [← eq_of_beq heq, ← hfour, lowerAscii, lowerAscii, ← List.map_take, List.take_take,
    Nat.min_eq_left hlength]

theorem readWords?_then (h : Phrase.startsWithThen s = true) : readWords? inner s = none := by
  obtain ⟨hfour, hend⟩ := nextWord_then h
  rw [readWords?]
  generalize nextWord s = next at hfour hend
  obtain ⟨word, rest⟩ := next
  dsimp only at hfour hend ⊢
  rw [labelOfWord?_then hfour hend]
  dsimp only
  rw [argCount?, afterText?_then hfour (by decide) (by decide),
    afterText?_then hfour (by decide) (by decide), afterText?_then hfour (by decide) (by decide)]
  refine readCommand?_then ?_
  rw [String.toList_ofList, lowerAscii, ← List.map_take]
  exact hfour

/-- A text that starts with the word `then` holds no statement. -/
theorem readChars?_then (hs : trim s = s) (h : Phrase.startsWithThen s = true) :
    readChars? s = none := by
  rw [readChars?_eq, hs]
  have hfirst : ∀ c, s.head? = some c → c.toLower = 't' := by
    intro c hc
    obtain ⟨more, rfl⟩ := List.head?_eq_some_iff.mp hc
    exact (List.cons.inj (eq_of_beq (Bool.and_eq_true_iff.mp h).1)).1
  unfold readLine?
  split
  · rfl
  · exact absurd (hfirst _ rfl) (by decide)
  · exact absurd (hfirst _ rfl) (by decide)
  · exact absurd (hfirst _ rfl) (by decide)
  · exact readWords?_then h

/-! ## The forms of a line -/

/-- The ways to put a statement behind a condition. -/
def bodies (s : String) : List String :=
  ["then " ++ s, "\x7b" ++ s ++ "\x7d", "then \x7b" ++ s ++ "\x7d"]

theorem mem_bodies {s body : String} :
    body ∈ bodies s ↔
      body = "then " ++ s ∨ body = "\x7b" ++ s ++ "\x7d" ∨ body = "then \x7b" ++ s ++ "\x7d" := by
  rw [bodies, List.mem_cons, List.mem_cons, List.mem_singleton]

/-- A statement as it is written on a line: trimmed, and no block by itself. -/
structure IsBody (s : List Char) : Prop extends IsTrimmed s where
  brace : s.head? ≠ some '\x7b'

theorem exists_cuts_of_mem_bodies {s body : String} (hs : trim s.toList = s.toList)
    (h : body ∈ bodies s) :
    ∃ rest, Phrase.Cuts (' ' :: body.toList) rest ∧ Holds rest s.toList := by
  obtain rfl | rfl | rfl := mem_bodies.mp h
  · refine ⟨' ' :: s.toList, ?_, .inl hs⟩
    rw [String.toList_append]
    exact Phrase.cuts_then rfl
  · refine ⟨'\x7b' :: (s.toList ++ ['\x7d']), ?_, .inr (trim_braces _)⟩
    rw [String.toList_append, String.toList_append]
    exact Phrase.cuts_brace _
  · refine ⟨' ' :: '\x7b' :: (s.toList ++ ['\x7d']), ?_, .inr (trim_braces _)⟩
    rw [String.toList_append, String.toList_append]
    exact Phrase.cuts_then rfl

/-- What stands behind an `else` without a condition. -/
theorem exists_readElse? {s body : String} (hs : IsBody s.toList)
    (hthen : Phrase.startsWithThen s.toList = false) (hif : afterText? "if" s.toList = none)
    (h : body ∈ s :: bodies s) :
    ∃ rest, Holds rest s.toList ∧ ∀ inner, readElse? inner (' ' :: body.toList) =
      withBody? inner .otherwise rest := by
  have hstart : trimStart (' ' :: s.toList) = s.toList := trimStart_of_trim hs.trimmed
  rw [List.mem_cons, mem_bodies] at h
  obtain rfl | rfl | rfl | rfl := h
  · refine ⟨body.toList, .inl hs.trimmed, fun inner => ?_⟩
    rw [readElse?, hstart, hif, skipThen, trimStart_of_trim hs.trimmed, hthen]
    rfl
  · refine ⟨' ' :: s.toList, .inl hs.trimmed, fun inner => ?_⟩
    rw [String.toList_append]
    rfl
  · refine ⟨'\x7b' :: (s.toList ++ ['\x7d']), .inr (trim_braces _), fun inner => ?_⟩
    rw [String.toList_append, String.toList_append]
    rfl
  · refine ⟨' ' :: '\x7b' :: (s.toList ++ ['\x7d']), .inr (trim_braces _), fun inner => ?_⟩
    rw [String.toList_append, String.toList_append]
    rfl

theorem trimEnd_body {s body : String} (hs : IsBody s.toList) (h : body ∈ s :: bodies s) :
    trimEnd (' ' :: body.toList) = ' ' :: body.toList := by
  have hbrace : IsTrimmed ['\x7d'] := ⟨by decide, List.cons_ne_nil _ _⟩
  rw [List.mem_cons, mem_bodies] at h
  obtain rfl | rfl | rfl | rfl := h
  · exact hs.trimEnd_append [' ']
  · rw [String.toList_append]
    exact hs.trimEnd_append (' ' :: "then ".toList)
  · rw [String.toList_append]
    exact hbrace.trimEnd_append (' ' :: ("\x7b" ++ s).toList)
  · rw [String.toList_append]
    exact hbrace.trimEnd_append (' ' :: ("then \x7b" ++ s).toList)

theorem length_le_of_mem_bodies {s body : String} (h : body ∈ s :: bodies s) :
    s.toList.length ≤ body.toList.length := by
  rw [List.mem_cons, mem_bodies] at h
  obtain rfl | rfl | rfl | rfl := h
  · exact Nat.le_refl _
  all_goals
    simp only [String.toList_append, List.length_append]
    omega

/-- The words in front of a condition, and the conditionals they make. -/
def leadWords : List (String × (Phrase → Head)) :=
  [("if", .ifHolds), ("else if", .elseIf), ("elseif", .elseIf), ("\x7d else if", .elseIf)]

/-- The words of an `else` without a condition. -/
def elseWords : List String :=
  ["else", "\x7d else", "\x7delse"]

theorem leads_of_mem_leadWords {word : String} (h : (word, make) ∈ leadWords) :
    Leads word.toList make := by
  rw [leadWords, List.mem_cons, List.mem_cons, List.mem_cons, List.mem_singleton] at h
  obtain h | h | h | h := h <;> obtain ⟨rfl, rfl⟩ := Prod.mk.inj h
  · exact leads_if
  · exact leads_else_if
  · exact leads_elseif
  · exact leads_brace_else_if

theorem readLine?_of_mem_elseWords {word : String} (h : word ∈ elseWords)
    (hcs : Phrase.Pauses cs) :
    IsTrimmed word.toList ∧
      ∀ inner, readLine? inner (word.toList ++ cs) = readElse? inner cs := by
  rw [elseWords, List.mem_cons, List.mem_cons, List.mem_singleton] at h
  obtain rfl | rfl | rfl := h
  · exact ⟨⟨by decide, by decide⟩, fun _ => readLine?_else hcs⟩
  · have hblanks : ∀ c ∈ [' '], isBlank c = true := List.forall_mem_singleton.mpr (by decide)
    exact ⟨⟨by decide, by decide⟩, fun _ => readLine?_brace_else hblanks⟩
  · exact ⟨⟨by decide, by decide⟩,
      fun _ => readLine?_brace_else (List.forall_mem_nil _)⟩

/-- The expression that a condition is read as. -/
def conditionOf (c : String) : Phrase :=
  phraseOf (Phrase.read c.toList)

section Forms

variable {c s body word : String} {b : Statement}

theorem isBody_of_read? (htrim : trimmed s = s) (hbrace : s.toList.head? ≠ some '\x7b')
    (hread : read? s = some b) : IsBody s.toList := by
  have hs : trim s.toList = s.toList := by
    rw [← String.toList_ofList (l := trim s.toList)]
    exact congrArg String.toList htrim
  refine ⟨⟨hs, fun hnil => ?_⟩, hbrace⟩
  rw [read?, hnil, readChars?_eq] at hread
  cases hread

theorem read?_single (hword : (word, make) ∈ leadWords) (hc : Phrase.IsClosed c.toList)
    (hs : IsBody s.toList) (hread : read? s = some b) (hbody : body ∈ bodies s) :
    read? (word ++ " " ++ c ++ " " ++ body) = some (.single (make (conditionOf c)) b) := by
  obtain ⟨rest, hcuts, hholds⟩ := exists_cuts_of_mem_bodies hs.trimmed hbody
  have hline : (word ++ " " ++ c ++ " " ++ body).toList =
      word.toList ++ ' ' :: (c.toList ++ ' ' :: body.toList) := by
    simp
  have hlength := length_le_of_mem_bodies (List.mem_cons_of_mem s hbody)
  have hlt : s.toList.length <
      (word.toList ++ ' ' :: (c.toList ++ ' ' :: body.toList)).length := by
    simp only [List.length_append, List.length_cons]
    omega
  rw [read?, hline, readChars?_of_leads (leads_of_mem_leadWords hword) hc hcuts,
    withBody?_of_holds hs.trimmed hs.ne_nil hs.brace hholds, readWithin_of_lt hlt]
  exact congrArg (Option.map _) hread

theorem read?_block (hword : (word, make) ∈ leadWords) (hc : Phrase.IsClosed c.toList) :
    (∀ line ∈ [word ++ " " ++ c ++ " \x7b", word ++ " " ++ c ++ " then \x7b"],
      read? line = some (.block (make (conditionOf c)) .here)) ∧
    (∀ line ∈ [word ++ " " ++ c, word ++ " " ++ c ++ " then"],
      read? line = some (.block (make (conditionOf c)) .nextLine)) := by
  have hlead := leads_of_mem_leadWords hword
  have hread {line : String} (tail : String) {rest : List Char} {brace : BracePlace}
      (hline : line.toList = word.toList ++ ' ' :: (c.toList ++ tail.toList))
      (hcuts : Phrase.Cuts tail.toList rest)
      (hbody : ∀ inner, withBody? inner (make (conditionOf c)) rest =
        some (.block (make (conditionOf c)) brace)) :
      read? line = some (.block (make (conditionOf c)) brace) := by
    rw [read?, hline, readChars?_of_leads hlead hc hcuts]
    exact hbody _
  refine ⟨List.forall_mem_cons.mpr ⟨?_, List.forall_mem_singleton.mpr ?_⟩,
    List.forall_mem_cons.mpr ⟨?_, List.forall_mem_singleton.mpr ?_⟩⟩
  · exact hread " \x7b" (by simp) (Phrase.cuts_brace []) fun _ => rfl
  · exact hread " then \x7b" (by simp) (Phrase.cuts_then rfl) fun _ => rfl
  · exact hread "" (by simp) Phrase.cuts_nil fun _ => rfl
  · exact hread " then" (by simp) (Phrase.cuts_then rfl) fun _ => rfl

theorem read?_otherwise (hword : word ∈ elseWords) (hs : IsBody s.toList)
    (hread : read? s = some b) (hif : afterText? "if" s.toList = none)
    (hbody : body ∈ s :: bodies s) :
    read? (word ++ " " ++ body) = some (.single .otherwise b) := by
  have hthen : Phrase.startsWithThen s.toList = false := by
    rw [← Bool.not_eq_true]
    intro hthen
    rw [read?, readChars?_then hs.trimmed hthen] at hread
    cases hread
  obtain ⟨rest, hholds, helse⟩ := exists_readElse? hs hthen hif hbody
  have hpauses : Phrase.Pauses (' ' :: body.toList) := fun d hd => Option.some.inj hd ▸ by decide
  have hline : (word ++ " " ++ body).toList = word.toList ++ ' ' :: body.toList := by simp
  have hlength := length_le_of_mem_bodies hbody
  have hlt : s.toList.length < (word.toList ++ ' ' :: body.toList).length := by
    simp only [List.length_append, List.length_cons]
    omega
  obtain ⟨hfront, hword⟩ := readLine?_of_mem_elseWords hword hpauses
  rw [read?, hline, readChars?_eq, hfront.trim_append, trimEnd_body hs hbody, hword, helse,
    withBody?_of_holds hs.trimmed hs.ne_nil hs.brace hholds, readWithin_of_lt hlt]
  exact congrArg (Option.map _) hread

theorem conditionOf_blank (h : trim c.toList = []) (hc : Phrase.IsClosed c.toList) :
    conditionOf c = .text "" := by
  have hparts : Phrase.parts [] = [] := by rw [Phrase.parts, trimStart_nil]
  rw [conditionOf, phraseOf, Phrase.read, hc.whole]
  dsimp only
  rw [h, hparts]
  rfl

/-- **All ways to write a conditional on one line are read alike.**  A statement may stand behind a
condition after the word `then`, in braces, or both, and it does not matter how the condition is
introduced; behind an `else` it may also stand by itself, unless it would be taken for a condition.
-/
theorem read_conditional_forms (hc : Phrase.IsClosed c.toList) :
    (trim c.toList = [] → conditionOf c = .text "") ∧
    (∀ word make, (word, make) ∈ leadWords →
      (∀ line ∈ [word ++ " " ++ c ++ " \x7b", word ++ " " ++ c ++ " then \x7b"],
        read? line = some (.block (make (conditionOf c)) .here)) ∧
      (∀ line ∈ [word ++ " " ++ c, word ++ " " ++ c ++ " then"],
        read? line = some (.block (make (conditionOf c)) .nextLine))) ∧
    ∀ s b, trimmed s = s → s.toList.head? ≠ some '\x7b' → read? s = some b →
      (∀ word make, (word, make) ∈ leadWords → ∀ body ∈ bodies s,
        read? (word ++ " " ++ c ++ " " ++ body) = some (.single (make (conditionOf c)) b)) ∧
      (afterText? "if" s.toList = none → ∀ word ∈ elseWords, ∀ body ∈ s :: bodies s,
        read? (word ++ " " ++ body) = some (.single .otherwise b)) := by
  refine ⟨fun h => conditionOf_blank h hc, fun word make hword => read?_block hword hc,
    fun s b htrim hbrace hread => ?_⟩
  have hs := isBody_of_read? htrim hbrace hread
  exact ⟨fun word make hword body hbody => read?_single hword hc hs hread hbody,
    fun hif word hword body hbody => read?_otherwise hword hs hread hif hbody⟩

end Forms

/-- A condition that holds a brace and the word `then` where they end nothing. -/
def guardedCondition : String :=
  " contains(\"%1 then \x7b \\\" \", \"(\") || (x then \x7b) = athen "

/-- A statement that holds braces, a quote and the word `then`, and is a conditional itself. -/
def trickyBody : String :=
  "elseif $x then \x7b put \" \x7d then"

theorem read_guarded_conditional_forms :
    Phrase.IsClosed guardedCondition.toList ∧ trimmed trickyBody = trickyBody ∧
      trickyBody.toList.head? ≠ some '\x7b' ∧
      read? trickyBody = some (.single (.elseIf (.text "$x")) (.put "\" \x7d then")) ∧
      afterText? "if" trickyBody.toList = none ∧
      (∀ body ∈ bodies trickyBody,
        read? ("\x7d else if" ++ " " ++ guardedCondition ++ " " ++ body) =
          some (.single (.elseIf (conditionOf guardedCondition))
            (.single (.elseIf (.text "$x")) (.put "\" \x7d then")))) ∧
      ∀ word ∈ elseWords, ∀ body ∈ trickyBody :: bodies trickyBody,
        read? (word ++ " " ++ body) =
          some (.single .otherwise (.single (.elseIf (.text "$x")) (.put "\" \x7d then"))) := by
  have hc : Phrase.IsClosed guardedCondition.toList :=
    ⟨by decide +kernel, by decide +kernel, by decide +kernel⟩
  have htrim : trimmed trickyBody = trickyBody := by decide +kernel
  have hbrace : trickyBody.toList.head? ≠ some '\x7b' := by decide +kernel
  have hread : read? trickyBody = some (.single (.elseIf (.text "$x")) (.put "\" \x7d then")) := by
    decide +kernel
  have hif : afterText? "if" trickyBody.toList = none := by decide +kernel
  have hword : ("\x7d else if", Head.elseIf) ∈ leadWords :=
    List.mem_cons_of_mem _ (List.mem_cons_of_mem _ (List.mem_cons_of_mem _ (List.mem_cons_self ..)))
  obtain ⟨hsingle, helse⟩ := (read_conditional_forms hc).2.2 trickyBody _ htrim hbrace hread
  exact ⟨hc, htrim, hbrace, hread, hif, hsingle _ _ hword, helse hif⟩

end Statement
end StreamScript
