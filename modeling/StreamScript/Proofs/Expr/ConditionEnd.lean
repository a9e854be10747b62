import StreamScript.Expr.Phrase
import StreamScript.Proofs.Words

/-!
# Where a condition ends

The scan for the end of a condition looks at what comes only to tell whether the word
`then` or a brace stands there.  Where it does not stop it is a fold over characters
(`Scan.after`), so that a text it goes through can be cut off in front
(`splitFrom_append`).

The word `then` ends at a blank just as it ends with the text.  So it makes no difference
to the scan whether a text is all there is or goes on with a blank (`endsAt_append`), and
blanks at the end make none to what is read (`read_trimEnd`).
-/

namespace StreamScript
namespace Phrase

open Text

variable {s : Scan} {cs front back tail : List Char}

/-- The state behind a text. -/
def Scan.after (s : Scan) (cs : List Char) : Scan :=
  cs.foldl Scan.next s

@[simp] theorem Scan.after_nil (s : Scan) : s.after [] = s := rfl

@[simp] theorem Scan.after_cons (s : Scan) (c : Char) (cs : List Char) :
    s.after (c :: cs) = (s.next c).after cs := rfl

theorem Scan.after_append (s : Scan) (front back : List Char) :
    s.after (front ++ back) = (s.after front).after back :=
  List.foldl_append

/-- A scan goes through a text that another follows: the condition ends nowhere in it. -/
def Scan.Passes (s : Scan) : (cs tail : List Char) → Prop
  | [], _ => True
  | c :: cs, tail => s.endsAt (c :: (cs ++ tail)) = none ∧ (s.next c).Passes cs tail

theorem Scan.Passes.append (hfront : s.Passes front (back ++ tail))
    (hback : (s.after front).Passes back tail) : s.Passes (front ++ back) tail := by
  induction front generalizing s with
  | nil => exact hback
  | cons c front ih =>
    obtain ⟨hend, hfront⟩ := hfront
    rw [← List.append_assoc] at hend
    exact ⟨hend, ih hfront hback⟩

/-- What a scan goes through belongs to the condition. -/
theorem splitFrom_append (h : s.Passes cs tail) :
    splitFrom s (cs ++ tail) =
      { splitFrom (s.after cs) tail with
        condition := cs ++ (splitFrom (s.after cs) tail).condition } := by
  induction cs generalizing s with
  | nil => rfl
  | cons c cs ih =>
    obtain ⟨hend, hcs⟩ := h
    rw [List.cons_append, splitFrom, hend]
    dsimp only
    rw [ih hcs]
    rfl

/-- A condition that is all of a text is one that the scan goes through. -/
theorem passes_of_splitFrom (h : splitFrom s cs = ⟨cs, [], false⟩) : s.Passes cs [] := by
  induction cs generalizing s with
  | nil => trivial
  | cons c cs ih =>
    rw [splitFrom] at h
    split at h
    · cases h
    · cases h
    · next hend =>
      obtain ⟨hcondition, hrest, hthen⟩ := Split.mk.inj h
      have hcut : splitFrom (s.next c) cs = ⟨cs, [], false⟩ :=
        calc splitFrom (s.next c) cs = ⟨(splitFrom (s.next c) cs).condition,
              (splitFrom (s.next c) cs).rest, (splitFrom (s.next c) cs).hadThen⟩ := rfl
          _ = ⟨cs, [], false⟩ := by rw [(List.cons.inj hcondition).2, hrest, hthen]
      exact ⟨by rwa [List.append_nil], ih hcut⟩

/-! ## Blanks behind a text -/

/-- A text is over, or goes on with a blank. -/
def Pauses (tail : List Char) : Prop :=
  ∀ c, tail.head? = some c → isBlank c = true

theorem pauses_of_blank {blanks : List Char} (h : ∀ c ∈ blanks, isBlank c = true) :
    Pauses blanks := fun c hc => h c (List.mem_of_mem_head? hc)

/-- No blank belongs to the word `then`. -/
theorem isBlank_of_toLower_mem {c : Char} (h : c.toLower ∈ ['t', 'h', 'e', 'n']) :
    isBlank c = false := by
  have hall : ['t', 'h', 'e', 'n'].all Char.isLower = true := by decide
  exact isBlank_of_isAlpha (isAlpha_of_isLower_toLower (List.all_eq_true.mp hall _ h))

theorem eqIgnoringCase_then_of_blank {front back : List Char} {c : Char}
    (hc : isBlank c = true) : eqIgnoringCase (front ++ c :: back) ['t', 'h', 'e', 'n'] = false := by
  refine beq_false_of_ne fun heq => ?_
  have hmem : c.toLower ∈ lowerAscii (front ++ c :: back) :=
    List.mem_map_of_mem (List.mem_append_right _ (List.mem_cons_self ..))
  rw [heq] at hmem
  exact Bool.false_ne_true ((isBlank_of_toLower_mem hmem).symm.trans hc)

theorem startsWithThen_append (htail : Pauses tail) (cs : List Char) :
    startsWithThen (cs ++ tail) = startsWithThen cs := by
  cases tail with
  | nil => rw [List.append_nil]
  | cons t tail =>
    have ht : isBlank t = true := htail t rfl
    obtain hlt | hge := Nat.lt_or_ge cs.length 4
    · -- the blank falls among the four characters, or there are fewer than four
      have hlong : eqIgnoringCase ((cs ++ t :: tail).take 4) ['t', 'h', 'e', 'n'] = false := by
        obtain ⟨n, hn⟩ := Nat.exists_eq_add_of_lt hlt
        rw [hn, List.take_append, List.take_of_length_le (by omega), Nat.add_assoc,
          Nat.add_sub_cancel_left, List.take_succ_cons]
        exact eqIgnoringCase_then_of_blank ht
      have hshort : eqIgnoringCase (cs.take 4) ['t', 'h', 'e', 'n'] = false := by
        refine beq_false_of_ne fun heq => ?_
        have hlength := congrArg List.length heq
        rw [length_lowerAscii, List.length_take] at hlength
        simp only [length_lowerAscii, List.length_cons, List.length_nil] at hlength
        omega
      rw [startsWithThen, startsWithThen, hlong, hshort, Bool.false_and, Bool.false_and]
    · rw [startsWithThen, startsWithThen, List.take_append_of_le_length hge,
        List.drop_append_of_le_length hge]
      cases cs.drop 4 with
      | nil =>
        change (_ && (isBlank t || _)) = _
        rw [ht]
        rfl
      | cons d more => rfl

theorem endsAt_append (htail : Pauses tail) (s : Scan) (c : Char) (cs : List Char) :
    s.endsAt (c :: (cs ++ tail)) = s.endsAt (c :: cs) := by
  have hthen := startsWithThen_append htail (c :: cs)
  rw [List.cons_append] at hthen
  rw [Scan.endsAt, Scan.endsAt, hthen]

theorem passes_of_pauses (htail : Pauses tail) (h : s.Passes cs []) : s.Passes cs tail := by
  induction cs generalizing s with
  | nil => trivial
  | cons c cs ih =>
    obtain ⟨hend, hcs⟩ := h
    rw [List.append_nil] at hend
    refine ⟨?_, ih hcs⟩
    rw [endsAt_append htail, hend]

/-- A condition does not end at a blank. -/
theorem endsAt_blank {c : Char} (hc : isBlank c = true) (s : Scan) (cs : List Char) :
    s.endsAt (c :: cs) = none := by
  have hthen : startsWithThen (c :: cs) = false := by
    rw [startsWithThen, List.take_succ_cons, ← List.nil_append (c :: cs.take 3),
      eqIgnoringCase_then_of_blank hc, Bool.false_and]
  have hbrace : c ≠ '\x7b' := ne_of_isBlank hc (by decide)
  simp [Scan.endsAt, hthen, hbrace]

theorem splitFrom_blanks {blanks : List Char} (h : ∀ c ∈ blanks, isBlank c = true) (s : Scan) :
    splitFrom s blanks = ⟨blanks, [], false⟩ := by
  induction blanks generalizing s with
  | nil => rfl
  | cons c blanks ih =>
    obtain ⟨hc, hblanks⟩ := List.forall_mem_cons.mp h
    rw [splitFrom, endsAt_blank hc]
    dsimp only
    rw [ih hblanks]

/-- Blanks at the end of a text are blanks at the end of its condition or of what follows it. -/
theorem splitFrom_append_blanks {blanks : List Char} (h : ∀ c ∈ blanks, isBlank c = true)
    (s : Scan) (cs : List Char) :
    ∃ front back, (∀ c ∈ front, isBlank c = true) ∧ (∀ c ∈ back, isBlank c = true) ∧
      splitFrom s (cs ++ blanks) =
        ⟨(splitFrom s cs).condition ++ front, (splitFrom s cs).rest ++ back,
          (splitFrom s cs).hadThen⟩ := by
  induction cs generalizing s with
  | nil => exact ⟨blanks, [], h, List.forall_mem_nil _, splitFrom_blanks h s⟩
  | cons c cs ih =>
    have hend := endsAt_append (pauses_of_blank h) s c cs
    rw [List.cons_append, splitFrom, splitFrom, hend]
    cases s.endsAt (c :: cs) with
    | none =>
      obtain ⟨front, back, hfront, hback, hcut⟩ := ih (s.next c)
      dsimp only
      rw [hcut]
      exact ⟨front, back, hfront, hback, rfl⟩
    | some hadThen =>
      cases hadThen with
      | false => exact ⟨[], blanks, List.forall_mem_nil _, h, rfl⟩
      | true =>
        refine ⟨[], blanks.drop (3 - cs.length), List.forall_mem_nil _,
          fun c hc => h c (List.mem_of_mem_drop hc), ?_⟩
        dsimp only
        rw [List.drop_append]
        rfl

/-- **Blanks at the end of a text make no difference to the condition at its front.** -/
theorem read_trimEnd (cs : List Char) : read (trimEnd cs) = read cs := by
  obtain ⟨blanks, hblanks, hcs⟩ := exists_trimEnd_append cs
  obtain ⟨front, back, hfront, hback, hcut⟩ := splitFrom_append_blanks hblanks {} (trimEnd cs)
  rw [← hcs] at hcut
  rw [read, read, hcut]
  dsimp only
  rw [trim_append_blanks hfront, trim_append_blanks hback]

end Phrase
end StreamScript
