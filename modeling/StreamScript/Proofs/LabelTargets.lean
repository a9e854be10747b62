import StreamScript.Proofs.Events.Returning
import StreamScript.Proofs.Program.Labels
import StreamScript.Proofs.RoundTrips

/-!
# Every label can be reached

A label that is declared is in the table, and a jump finds it there: variables are put
into the name, and the name is trimmed and written in small letters twice, but a name of
ASCII letters, digits, underscores, dots and hyphens comes out of this as the name that
has been declared (`label?_labelName`).

Where the jump is let through, the script then stands in front of the line of the label,
and of what it was waiting for, of what patterns have captured and of the conditionals
that were open nothing is left (`JumpedTo`).  It does not matter whether the jump stands on
a line of its own, as the body of conditionals on one line, or in the command of an
action: no conditional passes over the line of a label.
-/

namespace StreamScript

open Text

/-! ## Names in ASCII -/

namespace Text

variable {cs : List Char}

theorem toLower_of_isUpper_eq_false {c : Char} (h : c.isUpper = false) : c.toLower = c :=
  dif_neg fun hrange => Bool.false_ne_true (h.symm.trans (decide_eq_true hrange))

theorem isLower_iff {c : Char} : c.isLower = true ↔ c.val ≥ 97 ∧ c.val ≤ 122 := by
  change (decide (c.val ≥ 97) && decide (c.val ≤ 122)) = true ↔ _
  rw [Bool.and_eq_true, decide_eq_true_iff, decide_eq_true_iff]

theorem isLower_toLower {c : Char} (h : c.isUpper = true) : c.toLower.isLower = true := by
  obtain ⟨hle, hge⟩ : c.val ≥ 65 ∧ c.val ≤ 90 := of_decide_eq_true h
  have hlow : 65 ≤ c.val.toNat := UInt32.le_iff_toNat_le.mp hle
  have hhigh : c.val.toNat ≤ 90 := UInt32.le_iff_toNat_le.mp hge
  have hval : c.toLower.val = c.val + 32 := congrArg Char.val (dif_pos ⟨hle, hge⟩)
  have hnat : (c.val + 32).toNat = c.val.toNat + 32 := by
    rw [UInt32.toNat_add]
    exact Nat.mod_eq_of_lt (by change c.val.toNat + 32 < 4294967296; omega)
  rw [isLower_iff, hval, ge_iff_le, UInt32.le_iff_toNat_le, UInt32.le_iff_toNat_le, hnat]
  change 97 ≤ c.val.toNat + 32 ∧ c.val.toNat + 32 ≤ 122
  omega

theorem isUpper_toLower (c : Char) : c.toLower.isUpper = false := by
  cases hupper : c.isUpper with
  | false => rw [toLower_of_isUpper_eq_false hupper, hupper]
  | true =>
    have hlower := isLower_iff.mp (isLower_toLower hupper)
    refine decide_eq_false fun hrange => ?_
    exact absurd (UInt32.le_trans hlower.1 hrange.2) (by decide)

theorem isNameChar_toLower (c : Char) :
    Substitution.isNameChar c.toLower = Substitution.isNameChar c := by
  cases hupper : c.isUpper with
  | false => rw [toLower_of_isUpper_eq_false hupper]
  | true =>
    have hlower := isLower_toLower hupper
    have halpha (d : Char) : d.isAlpha = (d.isUpper || d.isLower) := rfl
    simp [Substitution.isNameChar, Char.isAlphanum, halpha, hupper, hlower]

theorem isAscii_of_isNameChar {c : Char} (h : Substitution.isNameChar c = true) :
    isAscii c = true := by
  simp only [Substitution.isNameChar, Char.isAlphanum, Bool.or_eq_true, beq_iff_eq] at h
  rcases h with (((halpha | hdigit) | rfl) | rfl) | rfl
  · exact decide_eq_true ((toNat_of_isAlpha halpha).2.trans_lt (by decide))
  · exact decide_eq_true ((Char.isDigit_iff_toNat.mp hdigit).2.trans_lt (by decide))
  · rfl
  · rfl
  · rfl

/-- Of ASCII letters the full mapping makes small ASCII letters. -/
theorem lowercase_of_isAscii (h : ∀ c ∈ cs, isAscii c = true) : lowercase cs = lowerAscii cs := by
  rw [lowercase]
  generalize ([] : List Char) = before
  induction cs generalizing before with
  | nil => rfl
  | cons c cs ih =>
    obtain ⟨hc, hcs⟩ := List.forall_mem_cons.mp h
    have hsigma : c.toNat ≠ 0x3A3 := by
      have hlt : c.toNat < 128 := of_decide_eq_true hc
      omega
    rw [lowerFrom, if_neg hsigma, lowerChar, if_pos hc, ih hcs]
    rfl

theorem lowerAscii_lowerAscii (cs : List Char) : lowerAscii (lowerAscii cs) = lowerAscii cs := by
  rw [lowerAscii, lowerAscii, List.map_map]
  exact List.map_congr_left fun c _ => toLower_of_isUpper_eq_false (isUpper_toLower c)

end Text

/-- Whether a text is made of ASCII letters, digits, underscores, dots and hyphens, as names of
variables are. -/
def isNameText (text : String) : Bool :=
  text.toList.all Substitution.isNameChar

variable {m name : String}

theorem isNameText_of_sameName (h : sameName m name = true) (hname : isNameText name = true) :
    isNameText m = true := by
  have hlower (text : String) :
      isNameText text = (lowerAscii text.toList).all Substitution.isNameChar := by
    rw [isNameText, lowerAscii, List.all_map]
    exact congrArg text.toList.all (funext fun c => (isNameChar_toLower c).symm)
  have hsame : lowerAscii m.toList = lowerAscii name.toList := beq_iff_eq.mp h
  rw [hlower, hsame, ← hlower, hname]

theorem isBlank_of_isNameChar {c : Char} (h : Substitution.isNameChar c = true) :
    isBlank c = false := by
  simp only [Substitution.isNameChar, Char.isAlphanum, Bool.or_eq_true, beq_iff_eq] at h
  rcases h with (((halpha | hdigit) | rfl) | rfl) | rfl
  · exact isBlank_of_isAlpha halpha
  · exact isBlank_of_isDigit hdigit
  · rfl
  · rfl
  · rfl

/-- A name does not refer to variables. -/
theorem isPlain_of_isNameText (h : isNameText m = true) : Script.isPlain m = true := by
  refine List.all_eq_true.mpr fun c hc => ?_
  have hname := List.all_eq_true.mp h c hc
  have hne {d : Char} (hd : Substitution.isNameChar d = false) : (c != d) = true :=
    bne_iff_ne.mpr fun heq => Bool.false_ne_true (hd.symm.trans (heq ▸ hname))
  rw [hne (by decide), hne (by decide), hne (by decide)]
  rfl

namespace Script

variable {env : Env} {s t u : Script} {p : Program} {args : String} {l : Label}

/-! ## Jumps -/

/-- A script has jumped in front of a line.  Nothing is left of what it waited for, of what was
captured, and of the conditionals that were open. -/
structure JumpedTo (place : Nat) (s t : Script) : Prop where
  program : t.walk.program = s.walk.program
  phase : t.phase = s.phase
  next : t.walk.next = place
  ifs : t.walk.ifs = []
  wait : t.wait? = none
  timer : t.timer? = none
  targets : t.targets = []
  matchSet : t.matchSet? = none
  captured : t.scopes.captured = .empty

/-- Of the script that jumps only the program and the phase matter. -/
theorem JumpedTo.of_eq {place : Nat} (h : JumpedTo place t u)
    (hprogram : t.walk.program = s.walk.program) (hphase : t.phase = s.phase) :
    JumpedTo place s u :=
  { h with program := h.program.trans hprogram, phase := h.phase.trans hphase }

theorem jumpedTo_arrived (env : Env) (name : String) (args : LabelArgs) (s : Script)
    (hl : l.line ≤ s.walk.program.lines.size) : JumpedTo l.line s (s.arrived env name l args) := by
  have hstand := sameStand_arrived env name l args s
  refine ⟨?_, hstand.phase, ?_, ?_, hstand.wait, hstand.timer, hstand.targets, hstand.matchSet, ?_⟩
  · rw [hstand.walk]
    rfl
  · rw [hstand.walk]
    exact Nat.min_eq_left hl
  · rw [hstand.walk]
    rfl
  · refine (congrArg Scopes.captured (scopes_debug _ .gosubs _)).trans ?_
    cases args <;> rfl

/-- A jump to a name leads to the label that the table has under the name in small letters. -/
theorem label?_labelName (hm : isNameText m = true) (env : Env) (s : Script) :
    s.walk.program.label? (s.labelName env m) = s.walk.program.labels.get? (lowered m) := by
  have hchars := List.all_eq_true.mp hm
  have hascii : ∀ c ∈ m.toList, isAscii c = true := fun c hc => isAscii_of_isNameChar (hchars c hc)
  have hsmall : ∀ c ∈ lowerAscii m.toList, isAscii c = true := by
    intro c hc
    obtain ⟨d, hd, rfl⟩ := List.mem_map.mp hc
    exact isAscii_of_isNameChar (isNameChar_toLower d ▸ hchars d hd)
  have hname : s.labelName env m = lowered m := by
    rw [labelName, substitute_of_isPlain s env (isPlain_of_isNameText hm),
      trim_word fun c hc => isBlank_of_isNameChar (hchars c hc), lowercase_of_isAscii hascii]
    rfl
  rw [hname, Program.label?, lowered, String.toList_ofList, lowercase_of_isAscii hsmall,
    lowerAscii_lowerAscii]

theorem fst_countJump_eq (env : Env) (s : Script) :
    (countJump env s).1 = !s.loopWatch.allows env := by
  rw [fst_countJump, Watch.allows, Bool.not_not]
  rfl

/-- **A jump that the loop guard lets through comes to its label.** -/
theorem execute_goto (hm : isNameText m = true)
    (hlabel : s.walk.program.labels.get? (lowered m) = some l)
    (hl : l.line ≤ s.walk.program.lines.size) (hguard : s.loopWatch.allows env = true)
    (args : String) :
    ∃ t, execute env (.goto m args) s = (.next, t) ∧ JumpedTo l.line s t := by
  have hcount : (countJump env s).1 = false := by rw [fst_countJump_eq, hguard]; rfl
  have harrived := jumpedTo_arrived (l := l) env (s.labelName env m) (.text args) (s.counted env) hl
  exact ⟨_, goto_of_label ((label?_labelName hm env s).trans hlabel) hcount (.text args),
    harrived.of_eq rfl rfl⟩

/-! ## Where a jump may stand -/

/-- A jump to a name leads a script in front of a line, wherever the jump stands: inside of any
conditionals on one line that hold, on the line in front of the script, and in the command of an
action. -/
structure GoesTo (env : Env) (m : String) (place : Nat) (s : Script) : Prop where
  execute : ∀ statement args, (core env statement s).statement = .goto m args →
    ∃ t, execute env statement s = (.next, t) ∧ JumpedTo place s t
  step : ∀ line statement args, s.nextLine? = some line → line.statement? = some statement →
    (core env statement (s.atStatement line statement)).statement = .goto m args →
      ∃ t, step env s = .again t ∧ JumpedTo place s t ∧
        t.nextLine? = s.walk.program.lines[place]?
  command : ∃ t, runCommand env ("goto " ++ m) s = (.jumped, t) ∧ JumpedTo place s t

/-- No conditional passes over the line of a label. -/
theorem passRivals_of_label {line : Line} {name : String}
    (hline : s.walk.program.lines[s.walk.next]? = some line)
    (hstatement : line.statement? = some (.label name)) (place : Nat) (heads : List Head) :
    s.passRivals place heads = s := by
  have hrules (head : Head) : head.rulesOut line = false := by
    cases head <;> simp [Head.rulesOut, Walk.isLoneIfArgs, Walk.isLoneElse, hstatement,
      Statement.isElse]
  have hrival : s.walk.isRival heads = false := by
    rw [Walk.isRival, hline, Option.any_some, List.any_eq_false]
    exact fun head _ => by rw [hrules head]; exact Bool.false_ne_true
  have hnext : (s.passRivals place heads).walk.next = s.walk.next :=
    (next_passRivals_iff place heads s).mpr fun hboth =>
      Bool.false_ne_true (hrival.symm.trans hboth.2)
  rw [passRivals_eq, hnext]

/-- **A jump to a label leads to its line**, from wherever it is made. -/
theorem execute_core_goto {line : Line} {name : String} {statement : Statement}
    (hm : isNameText m = true) (hlabel : s.walk.program.labels.get? (lowered m) = some l)
    (hline : s.walk.program.lines[l.line]? = some line)
    (hname : line.statement? = some (.label name)) (hguard : s.loopWatch.allows env = true)
    (hcore : (core env statement s).statement = .goto m args) :
    ∃ t, execute env statement s = (.next, t) ∧ JumpedTo l.line s t := by
  have hsame := sameButPlace_core env statement s
  have hl : l.line ≤ s.walk.program.lines.size :=
    Nat.le_of_lt (Array.getElem?_eq_some_iff.mp hline).1
  obtain ⟨t, hexecute, hjumped⟩ := execute_goto (s := (core env statement s).script) (l := l) hm
    (by rw [hsame.program, hlabel]) (by rw [hsame.program]; exact hl)
    (by rw [hsame.loopWatch, hguard]) args
  have hthere : t.walk.program.lines[t.walk.next]? = some line := by
    rw [hjumped.program, hjumped.next, hsame.program, hline]
  refine ⟨t, ?_, hjumped.of_eq hsame.program hsame.phase⟩
  rw [execute_core, hcore, hexecute, passRivals_of_label hthere hname]

end Script

/-- A line in front of a name is read as a jump to it. -/
theorem Statement.read?_goto (hm : isNameText m = true) (hne : m ≠ "") :
    Statement.read? ("goto " ++ m) = some (.goto m "") := by
  have hchars := List.all_eq_true.mp hm
  have hblank : ∀ c ∈ m.toList, isBlank c = false := fun c hc => isBlank_of_isNameChar (hchars c hc)
  have hnil : m.toList ≠ [] := fun h => hne (String.toList_eq_nil_iff.mp h)
  have hword : ∀ c ∈ ['g', 'o', 't', 'o'], isBlank c = false := fun c hc =>
    isBlank_of_isAlpha (List.all_eq_true.mp rfl c hc)
  have hfirst : nextWord (['g', 'o', 't', 'o'] ++ ' ' :: m.toList) =
      (['g', 'o', 't', 'o'], ' ' :: m.toList) :=
    @nextWord_append [] _ (' ' :: m.toList) (List.forall_mem_nil _) hword (List.cons_ne_nil _ _)
      fun c hc => Option.some.inj hc ▸ rfl
  have hsecond : nextWord (' ' :: m.toList) = (m.toList, []) := by
    have hlast : nextWord ([' '] ++ (m.toList ++ [])) = (m.toList, []) :=
      nextWord_append (List.all_eq_true.mp rfl) hblank hnil nofun
    rwa [List.append_nil] at hlast
  have htrim : trim (['g', 'o', 't', 'o', ' '] ++ m.toList) =
      ['g', 'o', 't', 'o', ' '] ++ m.toList := by
    have hend : trimEnd m.toList = m.toList := trimEnd_of_trim (trim_word hblank)
    have hstart : trimStart (['g', 'o', 't', 'o', ' '] ++ m.toList) =
        ['g', 'o', 't', 'o', ' '] ++ m.toList :=
      trimStart_eq_self fun c hc => Option.some.inj (show some 'g' = some c from hc) ▸ rfl
    rw [trim, hstart, trimEnd_append (by rw [hend]; exact hnil), hend]
  have hline (inner : List Char → Option Statement) :
      readLine? inner (['g', 'o', 't', 'o', ' '] ++ m.toList) = some (.goto m "") := by
    change readWords? inner (['g', 'o', 't', 'o'] ++ ' ' :: m.toList) = _
    rw [readWords?, hfirst]
    change withWord? (fun label rest => .goto label (piece rest)) (' ' :: m.toList) = _
    rw [withWord?, hsecond]
    dsimp only
    rw [List.isEmpty_eq_false_iff.mpr hnil, String.ofList_toList]
    rfl
  rw [read?, readChars?, String.toList_append]
  exact (congrArg _ htrim).trans (hline _)

namespace Script

variable {env : Env} {s t u : Script} {p : Program} {args : String} {l : Label}

theorem goesTo_of_label {line : Line} {name : String} (hm : isNameText m = true) (hne : m ≠ "")
    (hlabel : s.walk.program.labels.get? (lowered m) = some l)
    (hline : s.walk.program.lines[l.line]? = some line)
    (hname : line.statement? = some (.label name)) (hguard : s.loopWatch.allows env = true) :
    GoesTo env m l.line s where
  execute statement args hcore := execute_core_goto hm hlabel hline hname hguard hcore
  step next statement args hnext hstatement hcore := by
    have hsame := sameButPlace_atStatement next statement s
    obtain ⟨t, hexecute, hjumped⟩ := execute_core_goto (s := s.atStatement next statement) hm
      (by rw [hsame.program, hlabel]) (by rw [hsame.program, hline]) hname
      (by rw [hsame.loopWatch, hguard]) hcore
    have hjumped := hjumped.of_eq hsame.program hsame.phase
    refine ⟨t, ?_, hjumped, ?_⟩
    · rw [step_of_nextLine? env hnext, runLine_of_statement env hnext hstatement, hexecute]
      rfl
    · rw [nextLine?, if_pos (hjumped.phase.trans (phase_of_nextLine? hnext)), hjumped.program,
        hjumped.next]
  command := by
    have hcore : (core env (.goto m "") (s.setVerbatim true)).statement = .goto m "" := rfl
    obtain ⟨t, hexecute, hjumped⟩ := execute_core_goto (s := s.setVerbatim true) hm hlabel hline
      hname hguard hcore
    refine ⟨t.setVerbatim false, ?_, { hjumped with }⟩
    have hplain : isPlain ("goto " ++ m) = true := by
      rw [isPlain, String.toList_append, List.all_append]
      exact Bool.and_eq_true_iff.mpr ⟨by decide, isPlain_of_isNameText hm⟩
    rw [runCommand, substituteAction_of_isPlain _ _ hplain, Statement.read?_goto hm hne]
    dsimp only
    rw [hexecute]
    rfl

end Script

namespace Program

theorem isLast_iff (p : Program) (key : String) (l : Label) :
    p.labels.get? key = some l ↔ Label.IsLast p.lines.toList key l := by
  rw [p.labels_eq]
  exact Label.get?_table_iff _ key l

/-- **Every label that a program declares can be reached.**  The lines that are read as labels are
those that declare one, and the table has the names of these lines in small letters, each with the
last line that declares it.  A jump to a name of ASCII letters, digits, underscores, dots and
hyphens, in letters of any case, that the loop guard lets through leads to this line. -/
theorem labels_reached (p : Program) :
    (∀ (line : Line) (key : String), labelName? line.text = some key ↔
      ∃ name, line.statement? = some (.label name) ∧
        key = String.ofList (lowercase name.toList)) ∧
    (∀ key l, p.labels.get? key = some l ↔ Label.IsLast p.lines.toList key l) ∧
    (∀ key, (p.labels.get? key).isSome = true ↔
      ∃ line ∈ p.lines.toList, labelName? line.text = some key) ∧
    ∀ line ∈ p.lines.toList, ∀ name, line.statement? = some (.label name) →
      isNameText name = true → ∀ m, sameName m name = true →
        Statement.read? ("goto " ++ m) = some (.goto m "") ∧
        ∃ l, Label.IsLast p.lines.toList (lowered m) l ∧
          ∀ (env : Env) (s : Script), s.walk.program = p → s.loopWatch.allows env = true →
            s.GoesTo env m l.line := by
  have hlabel (line : Line) (key : String) : labelName? line.text = some key ↔
      ∃ name, line.statement? = some (.label name) ∧
        key = String.ofList (lowercase name.toList) := by
    rw [line.statement?_eq]
    exact labelName?_iff line.text key
  have hdeclared (key : String) : (p.labels.get? key).isSome = true ↔
      ∃ line ∈ p.lines.toList, labelName? line.text = some key := by
    rw [p.labels_eq]
    exact Label.isSome_get?_table_iff _ key
  refine ⟨hlabel, p.isLast_iff, hdeclared, ?_⟩
  intro line hline name hname hascii m hm
  have hmname : isNameText m = true := isNameText_of_sameName hm hascii
  have hsame : lowerAscii m.toList = lowerAscii name.toList := beq_iff_eq.mp hm
  have hkey : labelName? line.text = some (lowered m) := by
    refine (hlabel line _).mpr ⟨name, hname, ?_⟩
    rw [lowered, hsame, lowercase_of_isAscii fun c hc =>
      isAscii_of_isNameChar (List.all_eq_true.mp hascii c hc)]
  have hne : m ≠ "" := by
    rintro rfl
    have hread := (Statement.read?_label_iff line.text name).mp (line.statement?_eq ▸ hname)
    exact Statement.ne_nil_of_labelOfWord? hread (List.map_eq_nil_iff.mp hsame.symm)
  obtain ⟨l, hl⟩ := Option.isSome_iff_exists.mp ((hdeclared _).mpr ⟨line, hline, hkey⟩)
  have hlast := (p.isLast_iff _ l).mp hl
  refine ⟨Statement.read?_goto hmname hne, l, hlast, fun env s hs hguard => ?_⟩
  subst hs
  obtain ⟨last, hthere, hdeclares, -⟩ := hlast.declares
  obtain ⟨name', hname', -⟩ := (hlabel last _).mp hdeclares
  rw [Array.getElem?_toList] at hthere
  exact Script.goesTo_of_label hmname hne hl hthere hname' hguard

/-- A program that declares a label twice, and jumps to it from within a conditional. -/
def twice : Program where
  name := "twice"
  lines := (["Top-1:", "if_0 then goto TOP-1", "exit", "tOp-1:"].mapIdx fun i text =>
    .ofText "twice" (i + 1) text).toArray

/-- The script of `twice` in front of its jump. -/
def beforeJump : Script :=
  { Script.ofProgram twice {} with phase := .running, walk := ⟨twice, 1, []⟩ }

/-- What the lines of `twice` are read as. -/
structure TwiceTexts : Prop where
  first : (Line.ofText "twice" 1 "Top-1:").statement? = some (.label "Top-1")
  jump : (Line.ofText "twice" 2 "if_0 then goto TOP-1").statement? =
    some (.single (.ifArgs 0) (.goto "TOP-1" ""))
  table : twice.labels.get? (lowered "TOP-1") = some ⟨3, "twice"⟩
  core : (Script.core {} (.single (.ifArgs 0) (.goto "TOP-1" ""))
    (beforeJump.atStatement (.ofText "twice" 2 "if_0 then goto TOP-1")
      (.single (.ifArgs 0) (.goto "TOP-1" "")))).statement = .goto "TOP-1" ""

theorem twice_texts : TwiceTexts := by
  constructor <;> decide +kernel

theorem labels_reached_twice :
    ∃ t, Script.step {} beforeJump = .again t ∧ Script.JumpedTo 3 beforeJump t ∧
      t.nextLine? = some (Line.ofText "twice" 4 "tOp-1:") := by
  obtain ⟨-, htable, -, hreach⟩ := labels_reached twice
  obtain ⟨-, l, hlast, hgoes⟩ := hreach (.ofText "twice" 1 "Top-1:") (List.mem_cons_self ..) "Top-1"
    twice_texts.first (by decide) "TOP-1" (by decide)
  obtain rfl := Option.some.inj (twice_texts.table.symm.trans ((htable _ l).mpr hlast))
  exact (hgoes {} beforeJump rfl (by decide)).step _ _ _ rfl twice_texts.jump twice_texts.core

end Program

end StreamScript
