import StreamScript.Program.Load
import StreamScript.Proofs.Statement.InlineConditionals

/-!
# The labels of a program

Labels are looked for twice: when a line is read as a statement, and when the table of
labels is made.  Both come to the same, since only the first word of a line is asked, and
that word is what it was when the blanks around the line are gone
(`Statement.read?_label_iff`, `labelName?_iff`).

The table is made by binding the names line by line, so a name that is declared twice
stands for its last line (`Label.get?_table_iff`).
-/

namespace StreamScript

open Text

/-! ## Lines that are labels -/

namespace Statement

variable {inner : List Char → Option Statement} {head : Head} {cs : List Char} {s : Statement}
  {name : String}

theorem not_label_of_withBody? (h : withBody? inner head cs = some s) : s ≠ .label name := by
  rintro rfl
  unfold withBody? at h
  split at h
  · cases h
  · cases h
  · obtain ⟨body, -, heq⟩ := Option.map_eq_some_iff.mp h
    cases heq
  · obtain ⟨body, -, heq⟩ := Option.map_eq_some_iff.mp h
    cases heq

theorem not_label_of_readElse? (h : readElse? inner cs = some s) : s ≠ .label name := by
  unfold readElse? at h
  dsimp only at h
  split at h
  · obtain ⟨count, -, h⟩ := Option.bind_eq_some_iff.mp h
    exact not_label_of_withBody? h
  · exact not_label_of_withBody? h
  · exact not_label_of_withBody? h

/-- A line of words is a label if its first word is one. -/
theorem readWords?_label_iff :
    readWords? inner cs = some (.label name) ↔ labelOfWord? (nextWord cs).1 = some name.toList := by
  unfold readWords?
  dsimp only
  split
  · next word hword =>
    rw [hword, Option.some.injEq, Option.some.injEq, Statement.label.injEq]
    constructor
    · rintro rfl
      exact (String.toList_ofList ..).symm
    · rintro rfl
      exact String.ofList_toList
  · next hword =>
    rw [hword]
    refine iff_of_false (fun h => ?_) nofun
    split at h
    · exact not_label_of_withBody? h rfl
    · split at h
      · exact not_label_of_withBody? h rfl
      · exact not_label_of_readElse? h rfl
      · cases isWorded_of_readCommand? h

theorem ne_nil_of_labelOfWord? {word name : List Char} (h : labelOfWord? word = some name) :
    name ≠ [] := by
  unfold labelOfWord? at h
  split at h
  · dsimp only at h
    split at h
    · next hname =>
      obtain rfl := Option.some.inj h
      rintro hnil
      rw [hnil] at hname
      cases hname
    · cases h
  · cases h

/-- No label starts with the character of a comment or with a brace. -/
theorem labelOfWord?_nextWord_cons {c : Char} (hc : c = '#' ∨ c = '\x7b' ∨ c = '\x7d') :
    labelOfWord? (nextWord (c :: cs)).1 = none := by
  have hblank : isBlank c = false := by rcases hc with rfl | rfl | rfl <;> decide
  have hlabel : isLabelChar c = false := by rcases hc with rfl | rfl | rfl <;> decide
  have hcolon : c ≠ ':' := by rcases hc with rfl | rfl | rfl <;> decide
  have hmem : c ∈ (nextWord (c :: cs)).1 := by
    have hstart : trimStart (c :: cs) = c :: cs :=
      List.dropWhile_cons_of_neg (by rw [hblank]; exact Bool.false_ne_true)
    rw [nextWord, hstart, List.takeWhile_cons_of_pos (by rw [hblank]; rfl)]
    exact List.mem_cons_self ..
  exact labelOfWord?_eq_none_of_mem hmem hcolon hlabel

/-- **A line is read as a label exactly when its first word declares one.** -/
theorem read?_label_iff (text : String) (name : String) :
    read? text = some (.label name) ↔
      labelOfWord? (nextWord text.toList).1 = some name.toList := by
  rw [read?, readChars?, ← nextWord_trim]
  generalize trim text.toList = cs
  unfold readLine?
  split
  · exact iff_of_false (fun h => by cases h) (fun h => by cases h)
  · rw [labelOfWord?_nextWord_cons (.inl rfl)]
    exact iff_of_false (fun h => by cases h) (fun h => by cases h)
  · rw [labelOfWord?_nextWord_cons (.inr (.inl rfl))]
    exact iff_of_false (fun h => by cases h) (fun h => by cases h)
  · rw [labelOfWord?_nextWord_cons (.inr (.inr rfl))]
    refine iff_of_false (fun h => ?_) (fun h => by cases h)
    split at h
    · exact not_label_of_readElse? h rfl
    · cases h
  · exact readWords?_label_iff

end Statement

/-- **The name that a line declares is that of the label it is read as, in small letters.** -/
theorem labelName?_iff (text key : String) :
    labelName? text = some key ↔
      ∃ name, Statement.read? text = some (.label name) ∧
        key = String.ofList (lowercase name.toList) := by
  rw [labelName?, Option.map_eq_some_iff]
  constructor
  · rintro ⟨name, hname, rfl⟩
    refine ⟨String.ofList name, (Statement.read?_label_iff ..).mpr ?_, ?_⟩ <;>
      rw [String.toList_ofList]
    exact hname
  · rintro ⟨name, hname, rfl⟩
    exact ⟨name.toList, (Statement.read?_label_iff ..).mp hname, rfl⟩

/-! ## The table -/

namespace Label

variable {lines : List Line} {line : Line} {key : String} {l : Label}

/-- A label is the last of its name among some lines. -/
structure IsLast (lines : List Line) (key : String) (l : Label) : Prop where
  declares : ∃ line, lines[l.line]? = some line ∧ labelName? line.text = some key ∧
    line.file = l.file
  last : ∀ i line, l.line < i → lines[i]? = some line → labelName? line.text ≠ some key

theorem declared_append (idx : Nat) (lines more : List Line) :
    declared idx (lines ++ more) = declared idx lines ++ declared (idx + lines.length) more := by
  induction lines generalizing idx with
  | nil => rfl
  | cons line lines ih =>
    rw [List.cons_append, declared, declared, ih, List.length_cons, Nat.add_right_comm,
      Nat.add_assoc]
    cases labelName? line.text <;> rfl

/-- One more line binds the name it declares, if it declares one. -/
theorem get?_table_concat (lines : List Line) (line : Line) (key : String) :
    (table (lines ++ [line])).get? key =
      if labelName? line.text = some key then some ⟨lines.length, line.file⟩
      else (table lines).get? key := by
  rw [table, declared_append, Nat.zero_add, Bindings.ofList, List.foldl_append, declared]
  cases hname : labelName? line.text with
  | none => rw [if_neg nofun]; rfl
  | some name =>
    change ((table lines).insert name ⟨lines.length, line.file⟩).get? key = _
    rw [Bindings.get?_insert]
    simp only [Option.some.injEq]

theorem isLast_concat_iff : IsLast (lines ++ [line]) key l ↔
    if labelName? line.text = some key then l = ⟨lines.length, line.file⟩
    else IsLast lines key l := by
  have hline : (lines ++ [line])[lines.length]? = some line := List.getElem?_concat_length
  split
  · next hname =>
    constructor
    · intro h
      obtain ⟨line', hline', -, hfile⟩ := h.declares
      have hlt : l.line < (lines ++ [line]).length := (List.getElem?_eq_some_iff.mp hline').1
      have hge : lines.length ≤ l.line := by
        by_contra hlt
        exact h.last _ _ (Nat.not_le.mp hlt) hline hname
      rw [List.length_append, List.length_singleton] at hlt
      have heq : l.line = lines.length := by omega
      rw [heq, hline] at hline'
      obtain rfl := Option.some.inj hline'
      rw [← heq, hfile]
    · rintro rfl
      refine ⟨⟨line, hline, hname, rfl⟩, fun i line' hlt hline' => ?_⟩
      have hi := (List.getElem?_eq_some_iff.mp hline').1
      rw [List.length_append, List.length_singleton] at hi
      dsimp only at hlt
      omega
  · next hname =>
    have hbefore (i : Nat) (line' : Line) (hname' : labelName? line'.text = some key) :
        (lines ++ [line])[i]? = some line' ↔ lines[i]? = some line' := by
      rcases Nat.lt_or_ge i lines.length with hlt | hge
      · rw [List.getElem?_append_left hlt]
      · rw [List.getElem?_append_right hge, List.getElem?_eq_none hge]
        refine iff_of_false (fun hmem => ?_) nofun
        obtain rfl := List.mem_singleton.mp (List.mem_of_getElem? hmem)
        exact hname hname'
    constructor
    · rintro ⟨⟨line', hline', hname', hfile⟩, hlast⟩
      refine ⟨⟨line', (hbefore _ _ hname').mp hline', hname', hfile⟩, fun i other hlt hother => ?_⟩
      exact fun hkey => hlast i other hlt ((hbefore _ _ hkey).mpr hother) hkey
    · rintro ⟨⟨line', hline', hname', hfile⟩, hlast⟩
      refine ⟨⟨line', (hbefore _ _ hname').mpr hline', hname', hfile⟩, fun i other hlt hother => ?_⟩
      exact fun hkey => hlast i other hlt ((hbefore _ _ hkey).mp hother) hkey

/-- **The table leads from each name to the last line that declares it.** -/
theorem get?_table_iff (lines : List Line) (key : String) (l : Label) :
    (table lines).get? key = some l ↔ IsLast lines key l := by
  induction lines using List.reverseRecOn with
  | nil => exact iff_of_false nofun fun h => by obtain ⟨line, hline, -⟩ := h.declares; cases hline
  | append_singleton lines line ih =>
    rw [get?_table_concat, isLast_concat_iff, ← ih]
    split
    · rw [Option.some.injEq, eq_comm]
    · rfl

theorem isSome_get?_table_iff (lines : List Line) (key : String) :
    ((table lines).get? key).isSome = true ↔ ∃ line ∈ lines, labelName? line.text = some key := by
  induction lines using List.reverseRecOn with
  | nil => exact iff_of_false nofun nofun
  | append_singleton lines line ih =>
    rw [get?_table_concat]
    split
    · next hname =>
      exact iff_of_true rfl ⟨line, List.mem_append_right _ (List.mem_singleton_self line), hname⟩
    · next hname =>
      rw [ih]
      simp [hname]

end Label

end StreamScript
