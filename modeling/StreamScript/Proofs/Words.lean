import Mathlib.Data.List.DropRight
import Mathlib.Data.List.TakeWhile
import StreamScript.Proofs.Blocks.JoinedLines

/-!
# Words between blanks

A line is read word by word, and what stands behind its words is trimmed.  The two
agree: trimming one end of a text does not change what the other end is trimmed to
(`trimStart_trimEnd`), and no word is ever trimmed (`trimEnd_word_append`), so that the
first word of a line stays what it is (`nextWord_append`).
-/

namespace StreamScript

namespace Text

/-! ## Trimming and words -/

variable {blanks word tail cs : List Char}

theorem trimEnd_cons (c : Char) (cs : List Char) :
    trimEnd (c :: cs) = if isBlank c = true ∧ trimEnd cs = [] then [] else c :: trimEnd cs := by
  by_cases hnil : trimEnd cs = []
  · have hempty : cs.reverse.dropWhile isBlank = [] := List.reverse_eq_nil_iff.mp hnil
    rw [hnil, trimEnd, List.reverse_cons, List.dropWhile_append, hempty, List.isEmpty_nil,
      if_pos rfl]
    by_cases hc : isBlank c = true
    · rw [List.dropWhile_cons_of_pos hc, if_pos ⟨hc, rfl⟩]
      rfl
    · rw [List.dropWhile_cons_of_neg hc, if_neg fun h => hc h.1]
      rfl
  · have hcons : trimEnd ([c] ++ cs) = [c] ++ trimEnd cs := Statement.trimEnd_append hnil
    rw [if_neg fun h => hnil h.2]
    exact hcons

/-- A word is not trimmed, whatever stands behind it. -/
theorem trimEnd_word_append (h : ∀ c ∈ word, isBlank c = false) (tail : List Char) :
    trimEnd (word ++ tail) = word ++ trimEnd tail := by
  induction word with
  | nil => rfl
  | cons c word ih =>
    obtain ⟨hc, hword⟩ := List.forall_mem_cons.mp h
    rw [List.cons_append, trimEnd_cons, ih hword, List.cons_append,
      if_neg fun hblank => Bool.false_ne_true (hc ▸ hblank.1)]

/-- A word is what it is trimmed to. -/
theorem trim_word (h : ∀ c ∈ word, isBlank c = false) : trim word = word := by
  have hstart : trimStart word = word :=
    Statement.trimStart_eq_self fun c hc => h c (List.mem_of_mem_head? hc)
  have hend := trimEnd_word_append h []
  rw [trimEnd_nil, List.append_nil] at hend
  rw [trim, hstart, hend]

theorem trimStart_trimEnd (cs : List Char) : trimStart (trimEnd cs) = trimEnd (trimStart cs) := by
  induction cs with
  | nil => rfl
  | cons c cs ih =>
    rw [trimEnd_cons]
    by_cases hc : isBlank c = true
    · have hstart : trimStart (c :: cs) = trimStart cs := List.dropWhile_cons_of_pos hc
      rw [hstart, ← ih]
      by_cases hnil : trimEnd cs = []
      · rw [if_pos ⟨hc, hnil⟩, hnil]
      · rw [if_neg fun h => hnil h.2]
        exact List.dropWhile_cons_of_pos hc
    · have hstart : trimStart (c :: cs) = c :: cs := List.dropWhile_cons_of_neg hc
      rw [hstart, trimEnd_cons, if_neg fun h => hc h.1]
      exact List.dropWhile_cons_of_neg hc

theorem trimEnd_trimEnd (cs : List Char) : trimEnd (trimEnd cs) = trimEnd cs := by
  rw [trimEnd, trimEnd, List.reverse_reverse, List.dropWhile_idempotent]

theorem trim_trimEnd (cs : List Char) : trim (trimEnd cs) = trim cs := by
  rw [trim, trimStart_trimEnd, trimEnd_trimEnd, trim]

theorem trimEnd_of_blank (h : ∀ c ∈ blanks, isBlank c = true) : trimEnd blanks = [] := by
  rw [trimEnd, List.reverse_eq_nil_iff, List.dropWhile_eq_nil_iff]
  exact fun c hc => h c (List.mem_reverse.mp hc)

theorem trimEnd_of_trim (h : trim cs = cs) : trimEnd cs = cs := by
  rw [← h, trim, trimEnd_trimEnd]

theorem trimStart_of_trim (h : trim cs = cs) : trimStart cs = cs := by
  have hstart : trimStart (trimStart cs) = trimStart cs := List.dropWhile_idempotent _ _
  rw [← h, trim, trimStart_trimEnd, hstart]

theorem trim_trim (cs : List Char) : trim (trim cs) = trim cs := by
  have hstart : trimStart (trimStart cs) = trimStart cs := List.dropWhile_idempotent _ _
  rw [trim, trim, trimStart_trimEnd, hstart, trimEnd_trimEnd]

theorem isBlank_of_trimStart {c : Char} (h : trimStart (c :: cs) = c :: cs) :
    isBlank c = false := by
  rw [← Bool.not_eq_true]
  intro hc
  have hshort : trimStart (c :: cs) = trimStart cs := List.dropWhile_cons_of_pos hc
  have hlength := congrArg List.length (hshort.symm.trans h)
  have hle := length_trimStart_le cs
  rw [List.length_cons] at hlength
  omega

/-- What stands behind the blanks of a text starts with no blank. -/
theorem isBlank_of_trimStart_eq {c : Char} {rest : List Char} (h : trimStart cs = c :: rest) :
    isBlank c = false := by
  have hstart : trimStart (trimStart cs) = trimStart cs := List.dropWhile_idempotent _ _
  rw [h] at hstart
  exact isBlank_of_trimStart hstart

/-- A text is its trimmed form and blanks behind it. -/
theorem exists_trimEnd_append (cs : List Char) :
    ∃ blanks, (∀ c ∈ blanks, isBlank c = true) ∧ cs = trimEnd cs ++ blanks := by
  refine ⟨(cs.reverse.takeWhile isBlank).reverse, fun c hc => ?_, ?_⟩
  · exact List.mem_takeWhile_imp (List.mem_reverse.mp hc)
  · rw [trimEnd, ← List.reverse_append, List.takeWhile_append_dropWhile, List.reverse_reverse]

theorem trimEnd_append_blanks (h : ∀ c ∈ blanks, isBlank c = true) :
    trimEnd (cs ++ blanks) = trimEnd cs := by
  have hblanks : ∀ c ∈ blanks.reverse, isBlank c = true := fun c hc => h c (List.mem_reverse.mp hc)
  rw [trimEnd, List.reverse_append, List.dropWhile_append_of_pos hblanks]
  rfl

theorem trim_append_blanks (h : ∀ c ∈ blanks, isBlank c = true) :
    trim (cs ++ blanks) = trim cs := by
  rw [← trim_trimEnd, trimEnd_append_blanks h, trim_trimEnd]

/-- A text between two characters that are not blank is not trimmed. -/
theorem trim_cons_concat {c d : Char} (hc : isBlank c = false) (hd : isBlank d = false)
    (cs : List Char) : trim (c :: (cs ++ [d])) = c :: (cs ++ [d]) := by
  have hstart : trimStart (c :: (cs ++ [d])) = c :: (cs ++ [d]) :=
    Statement.trimStart_eq_self fun e he => Option.some.inj he ▸ hc
  have hend : trimEnd [d] = [d] := trimEnd_word_append (List.forall_mem_singleton.mpr hd) []
  rw [trim, hstart, ← List.cons_append,
    Statement.trimEnd_append (by rw [hend]; exact List.cons_ne_nil _ _), hend]

theorem ne_of_isBlank {c d : Char} (hc : isBlank c = true) (hd : isBlank d = false) : c ≠ d := by
  rintro rfl
  exact Bool.false_ne_true (hd.symm.trans hc)

theorem nextWord_append (hblanks : ∀ c ∈ blanks, isBlank c = true)
    (hword : ∀ c ∈ word, isBlank c = false) (hne : word ≠ [])
    (htail : ∀ c, tail.head? = some c → isBlank c = true) :
    nextWord (blanks ++ (word ++ tail)) = (word, tail) := by
  have hstart : trimStart (blanks ++ (word ++ tail)) = word ++ tail := by
    rw [Statement.trimStart_append hblanks]
    refine Statement.trimStart_eq_self fun c hc => ?_
    rw [List.head?_append_of_ne_nil _ hne] at hc
    exact hword c (List.mem_of_mem_head? hc)
  have hpos : ∀ c ∈ word, (!isBlank c) = true := fun c hc => by rw [hword c hc]; rfl
  have htake : tail.takeWhile (fun c => !isBlank c) = [] := by
    cases tail with
    | nil => rfl
    | cons c tail => rw [List.takeWhile_cons, htail c rfl]; rfl
  have hdrop : tail.dropWhile (fun c => !isBlank c) = tail := by
    cases tail with
    | nil => rfl
    | cons c tail => rw [List.dropWhile_cons, htail c rfl]; rfl
  rw [nextWord, hstart, List.takeWhile_append_of_pos hpos, List.dropWhile_append_of_pos hpos, htake,
    hdrop, List.append_nil]

/-- A text is blank up to its first word, and blank behind it. -/
theorem exists_nextWord (cs : List Char) :
    ∃ blanks, (∀ c ∈ blanks, isBlank c = true) ∧
      cs = blanks ++ ((nextWord cs).1 ++ (nextWord cs).2) ∧
      (∀ c ∈ (nextWord cs).1, isBlank c = false) ∧
      ∀ c, (nextWord cs).2.head? = some c → isBlank c = true := by
  refine ⟨cs.takeWhile isBlank, fun c hc => List.mem_takeWhile_imp hc, ?_, fun c hc => ?_,
    fun c hc => ?_⟩
  · rw [nextWord, List.takeWhile_append_dropWhile]
    exact List.takeWhile_append_dropWhile.symm
  · simpa using List.mem_takeWhile_imp hc
  · have hhead := List.head?_dropWhile_not (fun c => !isBlank c) (trimStart cs)
    rw [nextWord] at hc
    rw [hc] at hhead
    simpa using hhead

theorem takeWhile_trimEnd (cs : List Char) :
    (trimEnd cs).takeWhile (fun c => !isBlank c) = cs.takeWhile fun c => !isBlank c := by
  obtain ⟨blanks, hblanks, hcs⟩ := exists_trimEnd_append cs
  have hnone : blanks.takeWhile (fun c => !isBlank c) = [] := by
    cases blanks with
    | nil => rfl
    | cons c blanks =>
      have hc := hblanks c (List.mem_cons_self ..)
      exact List.takeWhile_cons_of_neg (by simp [hc])
  conv_rhs => rw [hcs, List.takeWhile_append, hnone, List.append_nil]
  split
  · next hall => exact (List.takeWhile_prefix _).eq_of_length hall
  · rfl

/-- The first word of a line is that of the line without the blanks around it. -/
theorem nextWord_trim (cs : List Char) : (nextWord (trim cs)).1 = (nextWord cs).1 := by
  rw [nextWord, trimStart_of_trim (trim_trim cs), trim, takeWhile_trimEnd]
  rfl

theorem nextWord_trimEnd (cs : List Char) : (nextWord (trimEnd cs)).1 = (nextWord cs).1 := by
  rw [← nextWord_trim, trim_trimEnd, nextWord_trim]

/-! ## Pieces between separators -/

theorem splitAt_eq_splitOn (sep : Char) (cs : List Char) :
    splitAt sep cs = cs.splitOn sep := by
  induction cs with
  | nil => exact (List.splitOn_nil sep).symm
  | cons c cs ih =>
    rw [List.splitOn_cons_eq_if_modifyHead, ← ih, splitAt]
    by_cases hc : c = sep
    · rw [if_pos hc, if_pos (beq_iff_eq.mpr hc)]
    · rw [if_neg hc, if_neg fun h => hc (beq_iff_eq.mp h)]
      cases hpieces : splitAt sep cs with
      | nil =>
        rw [ih] at hpieces
        exact absurd hpieces (List.splitOn_ne_nil sep cs)
      | cons piece more => rfl

/-! ## ASCII letters -/

theorem isAlpha_of_isLower_toLower {c : Char} (h : c.toLower.isLower = true) :
    c.isAlpha = true := by
  show (c.isUpper || c.isLower) = true
  by_cases hupper : c.isUpper = true
  · rw [hupper, Bool.true_or]
  · have hself : c.toLower = c := dif_neg fun hrange => hupper (decide_eq_true hrange)
    rw [← hself, h, Bool.or_true]

theorem ne_of_isAlpha {c d : Char} (hc : c.isAlpha = true) (hd : d.isAlpha = false) : c ≠ d := by
  rintro rfl
  exact Bool.false_ne_true (hd.symm.trans hc)

theorem toNat_of_isAlpha {c : Char} (h : c.isAlpha = true) : 65 ≤ c.toNat ∧ c.toNat ≤ 122 := by
  obtain hupper | hlower := Bool.or_eq_true_iff.mp h
  · obtain ⟨hle, hge⟩ := of_decide_eq_true hupper
    exact ⟨UInt32.le_iff_toNat_le.mp hle, (UInt32.le_iff_toNat_le.mp hge).trans (by decide)⟩
  · obtain ⟨hle, hge⟩ := Bool.and_eq_true_iff.mp hlower
    have hle := UInt32.le_iff_toNat_le.mp (of_decide_eq_true hle)
    exact ⟨le_trans (by decide) hle, UInt32.le_iff_toNat_le.mp (of_decide_eq_true hge)⟩

/-- The visible characters of ASCII lie where no blank does. -/
theorem isBlank_of_toNat {c : Char} (hle : 33 ≤ c.toNat) (hge : c.toNat ≤ 126) :
    isBlank c = false := by
  simp only [isBlank, blankRanges, inRanges, Bool.or_false, Bool.or_eq_false_iff,
    Bool.and_eq_false_iff, decide_eq_false_iff_not, not_le]
  omega

theorem isBlank_of_isAlpha {c : Char} (h : c.isAlpha = true) : isBlank c = false := by
  obtain ⟨hle, hge⟩ := toNat_of_isAlpha h
  exact isBlank_of_toNat (by omega) (by omega)

theorem isBlank_of_isDigit {c : Char} (h : c.isDigit = true) : isBlank c = false := by
  obtain ⟨hle, hge⟩ := Char.isDigit_iff_toNat.mp h
  exact isBlank_of_toNat (le_trans (by decide) hle) (hge.trans (by decide))

end Text

end StreamScript
