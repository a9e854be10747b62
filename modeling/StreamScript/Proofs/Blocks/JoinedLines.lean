import StreamScript.Proofs.Blocks.Layout

/-!
# A brace in front of an `else`

A line that starts with a closing brace and goes on with `else` reads as what
follows the brace.  The reader gets there by another way than for a line that
starts with `else`, and it hands the body of a one-line conditional to itself with
another bound on the length.  Neither makes a difference
(`Statement.readChars?_joined`): bodies are shorter than the line they stand on,
whichever of the two it is.
-/

namespace StreamScript

open Text Number

/-! ## What is read is no longer than the text -/

theorem Phrase.length_rest_splitFrom_le (scan : Phrase.Scan) (cs : List Char) :
    (Phrase.splitFrom scan cs).rest.length ≤ cs.length := by
  induction cs generalizing scan with
  | nil => exact Nat.le_refl 0
  | cons c cs ih =>
    rw [Phrase.splitFrom]
    split
    · rw [List.length_drop, List.length_cons]
      omega
    · exact Nat.le_refl _
    · exact Nat.le_succ_of_le (ih _)

theorem Phrase.length_rest_read_le (cs : List Char) : (Phrase.read cs).rest.length ≤ cs.length :=
  Nat.le_trans (length_trim_le _) (Phrase.length_rest_splitFrom_le {} cs)

namespace Statement

variable {inner inner' : List Char → Option Statement} {head : Head} {cs word : List Char}
  {s : Statement}

theorem length_skipThen_le (cs : List Char) : (skipThen cs).length ≤ cs.length := by
  have hle := length_trimStart_le cs
  unfold skipThen
  dsimp only
  split
  · rw [List.length_drop]
    omega
  · exact hle

theorem length_afterText?_le {text : String} {rest : List Char}
    (h : afterText? text cs = some rest) : rest.length ≤ cs.length := by
  unfold afterText? at h
  dsimp only at h
  split at h
  · obtain rfl := Option.some.inj h
    rw [List.length_drop]
    omega
  · cases h

/-! ## Readers of bodies that agree on short texts -/

theorem withBody?_congr (h : ∀ body, body.length ≤ cs.length → inner body = inner' body) :
    withBody? inner head cs = withBody? inner' head cs := by
  have hlen := length_trim_le cs
  unfold withBody?
  split
  · rfl
  · rfl
  · next rest _ hcs =>
    rw [hcs, List.length_cons] at hlen
    dsimp only
    rw [h]
    refine Nat.le_trans (length_trim_le _) ?_
    split
    · rw [List.length_dropLast]
      omega
    · omega
  · rw [h _ hlen]

theorem readElse?_congr (h : ∀ body, body.length ≤ cs.length → inner body = inner' body) :
    readElse? inner cs = readElse? inner' cs := by
  have hstart := length_trimStart_le cs
  have hbody {rest : List Char} (hrest : rest.length ≤ cs.length) (head : Head) :
      withBody? inner head rest = withBody? inner' head rest :=
    withBody?_congr fun body hb => h body (Nat.le_trans hb hrest)
  rw [readElse?, readElse?]
  dsimp only
  cases hif : afterText? "if" (trimStart cs) with
  | none => exact hbody (Nat.le_trans (length_skipThen_le _) hstart) _
  | some rest =>
    have hrest := Nat.le_trans (length_afterText?_le hif) hstart
    split
    · next digits heq =>
      obtain rfl := Option.some.inj heq
      rw [List.length_cons] at hrest
      have hdrop := (List.dropWhile_suffix (l := digits) Char.isDigit).length_le
      refine congrArg _ (funext fun count => hbody ?_ _)
      exact Nat.le_trans (length_skipThen_le _) (by omega)
    · next heq =>
      obtain rfl := Option.some.inj heq
      exact hbody (Nat.le_trans (Phrase.length_rest_read_le _) hrest) _
    · next heq => cases heq

/-! ## Which lines continue a chain -/

theorem isElse_of_withBody? (h : withBody? inner head cs = some s) :
    s.isElse = !head.startsChain := by
  unfold withBody? at h
  split at h
  · obtain rfl := Option.some.inj h
    exact isElse_block _ _
  · obtain rfl := Option.some.inj h
    exact isElse_block _ _
  · obtain ⟨body, -, rfl⟩ := Option.map_eq_some_iff.mp h
    exact isElse_single _ _
  · obtain ⟨body, -, rfl⟩ := Option.map_eq_some_iff.mp h
    exact isElse_single _ _

/-- Whether a statement is a command of its own: it is no conditional, and neither a brace, a label
nor a comment. -/
def isWorded : Statement → Bool
  | .block .. | .single .. | .leftBrace | .rightBrace | .label _ | .comment _ => false
  | _ => true

theorem isWorded_of_withWord? {make : String → List Char → Statement}
    (hmake : ∀ word rest, (make word rest).isWorded = true) (h : withWord? make cs = some s) :
    s.isWorded = true := by
  unfold withWord? at h
  dsimp only at h
  split at h
  · cases h
  · obtain rfl := Option.some.inj h
    exact hmake _ _

theorem isWorded_of_readAction? (h : readAction? cs = some s) : s.isWorded = true := by
  have hnamed {name rest : List Char} (h : readNamedAction? name rest = some s) :
      s.isWorded = true := by
    unfold readNamedAction? at h
    dsimp only at h
    split at h
    · obtain rfl := Option.some.inj h
      rfl
    · obtain ⟨⟨command, pattern⟩, -, h⟩ := Option.bind_eq_some_iff.mp h
      dsimp only at h
      split at h
      · cases h
      · obtain rfl := Option.some.inj h
        rfl
  unfold readAction? at h
  split at h
  · dsimp only at h
    split at h
    · cases h
    · exact hnamed h
  · exact hnamed h

theorem isWorded_of_readCommand? {name : String} (h : readCommand? name cs = some s) :
    s.isWorded = true := by
  unfold readCommand? at h
  split at h
  all_goals first
    | exact isWorded_of_readAction? h
    | exact isWorded_of_withWord? (fun _ _ => rfl) h
    | (obtain rfl := Option.some.inj h; rfl)
    | (dsimp only at h; split at h <;> first | (obtain rfl := Option.some.inj h; rfl) | cases h)
    | cases h

theorem isElse_of_isWorded (h : s.isWorded = true) : s.isElse = false := by
  cases s with
  | block | single => cases h
  | _ => rfl

/-- A line of words continues a chain only when it starts with `else`. -/
theorem readElse?_of_readWords? (h : readWords? inner cs = some s) (helse : s.isElse = true) :
    (∃ rest, afterText? "else" (nextWord cs).1 = some rest) ∧
      readElse? inner (cs.drop 4) = some s := by
  have hother {head : Head} {rest : List Char} (hhead : head.startsChain = true)
      (h : withBody? inner head rest = some s) : False := by
    rw [isElse_of_withBody? h, hhead] at helse
    cases helse
  unfold readWords? at h
  dsimp only at h
  split at h
  · obtain rfl := Option.some.inj h
    cases helse
  · split at h
    · exact (hother rfl h).elim
    · split at h
      · exact (hother rfl h).elim
      · next hword => exact ⟨⟨_, hword⟩, h⟩
      · rw [isElse_of_isWorded (isWorded_of_readCommand? h)] at helse
        cases helse

/-- A word at the front of a text stands there also when the text goes on. -/
theorem afterText?_of_prefix {text : String} {rest : List Char} (hword : word <+: cs)
    (h : afterText? text word = some rest) :
    afterText? text cs = some (cs.drop text.toList.length) := by
  unfold afterText? at h ⊢
  dsimp only at h ⊢
  split at h
  · next heq =>
    have hlen : text.toList.length ≤ word.length := by
      have := congrArg List.length (beq_iff_eq.mp heq)
      simp only [lowerAscii, List.length_map, List.length_take] at this
      omega
    obtain ⟨more, rfl⟩ := hword
    rw [List.take_append_of_le_length hlen, if_pos heq]
  · cases h

/-! ## Blanks at the ends -/

theorem trimEnd_append {front back : List Char} (h : trimEnd back ≠ []) :
    trimEnd (front ++ back) = front ++ trimEnd back := by
  have hne : (back.reverse.dropWhile isBlank).isEmpty = false := by
    rw [List.isEmpty_eq_false_iff]
    exact fun hnil => h (by rw [trimEnd, hnil, List.reverse_nil])
  rw [trimEnd, List.reverse_append, List.dropWhile_append, hne, if_neg Bool.false_ne_true,
    List.reverse_append, List.reverse_reverse]
  rfl

theorem trimEnd_prefix (cs : List Char) : trimEnd cs <+: cs := by
  have h := List.reverse_prefix.mpr (List.dropWhile_suffix (l := cs.reverse) isBlank)
  rwa [List.reverse_reverse] at h

theorem head?_trimEnd (h : trimEnd cs ≠ []) : (trimEnd cs).head? = cs.head? := by
  obtain ⟨more, hmore⟩ := trimEnd_prefix cs
  cases ht : trimEnd cs with
  | nil => exact absurd ht h
  | cons c front => rw [← hmore, ht]; rfl

theorem trimStart_eq_self (h : ∀ c, cs.head? = some c → isBlank c = false) :
    trimStart cs = cs := by
  cases cs with
  | nil => rfl
  | cons c cs => rw [trimStart, List.dropWhile_cons, h c rfl]; rfl

theorem trimStart_append {blanks : List Char} (h : ∀ c ∈ blanks, isBlank c = true) :
    trimStart (blanks ++ cs) = trimStart cs := by
  induction blanks with
  | nil => rfl
  | cons c blanks ih =>
    obtain ⟨hc, hblanks⟩ := List.forall_mem_cons.mp h
    rw [List.cons_append, trimStart, List.dropWhile_cons, hc, if_pos rfl]
    exact ih hblanks

/-! ## The brace makes no difference -/

theorem readWords?_of_readLine? (h : readLine? inner cs = some s) (helse : s.isElse = true)
    (hbrace : cs.head? ≠ some '\x7d') : cs ≠ [] ∧ readWords? inner cs = some s := by
  unfold readLine? at h
  split at h
  · cases h
  · obtain rfl := Option.some.inj h
    cases helse
  · obtain rfl := Option.some.inj h
    cases helse
  · exact absurd rfl hbrace
  · next hne _ _ _ => exact ⟨hne, h⟩

/-- **A line that closes a block and goes on with `else` reads as the line without the brace.** -/
theorem readChars?_joined {blanks : List Char} (hblanks : ∀ c ∈ blanks, isBlank c = true)
    (hstart : ∀ c, cs.head? = some c → isBlank c = false) (hbrace : cs.head? ≠ some '\x7d')
    (h : readChars? cs = some s) (helse : s.isElse = true) :
    readChars? ('\x7d' :: (blanks ++ cs)) = some s := by
  have htrim : trim cs = trimEnd cs := by rw [trim, trimStart_eq_self hstart]
  rw [readChars?, htrim] at h
  have hne : trimEnd cs ≠ [] := by
    intro hnil
    rw [hnil] at h
    cases h
  have hhead := head?_trimEnd hne
  obtain ⟨-, hwords⟩ := readWords?_of_readLine? h helse (hhead ▸ hbrace)
  obtain ⟨⟨rest, hword⟩, helse'⟩ := readElse?_of_readWords? hwords helse
  have hstart' : trimStart (trimEnd cs) = trimEnd cs := trimStart_eq_self (hhead ▸ hstart)
  have hprefix : (nextWord (trimEnd cs)).1 <+: trimEnd cs := by
    rw [nextWord, hstart']
    exact List.takeWhile_prefix _
  have htrim' : trim ('\x7d' :: (blanks ++ cs)) = '\x7d' :: (blanks ++ trimEnd cs) := by
    have hbrace' : trimStart ('\x7d' :: (blanks ++ cs)) = '\x7d' :: (blanks ++ cs) := rfl
    rw [trim, hbrace', ← List.cons_append, trimEnd_append hne, List.cons_append]
  rw [readChars?, htrim', readLine?, trimStart_append hblanks, hstart',
    afterText?_of_prefix hprefix hword]
  dsimp only
  rw [← helse']
  refine readElse?_congr fun body hbody => ?_
  have hlen := length_trimEnd_le cs
  have hpos : 0 < (trimEnd cs).length := List.length_pos_iff.mpr hne
  rw [List.length_drop, show "else".toList.length = 4 from rfl] at hbody
  have hlt : body.length < cs.length := by omega
  have hlt' : body.length < ('\x7d' :: (blanks ++ cs)).length := by
    rw [List.length_cons, List.length_append]
    omega
  rw [dif_pos hlt, dif_pos hlt']

end Statement

end StreamScript
