import StreamScript.Proofs.Events.Deeds
import StreamScript.Proofs.Expr.CountConditions
import StreamScript.Proofs.Vars.PlainReferences

/-!
# Two ways to ask for arguments

Whether there are at least so many arguments is asked by `if_N` of the list of arguments,
but by `else if_N` of the variable `argcount`, which is put into a text that the host then
evaluates.  The variable is written together with the list, when the script starts and
when it drops an argument.  For the rest it is a variable like any other, and the script
may give it another value.

`CountsAgree` says that at some place the two are the same for every count.  Where
variables are put into texts they are if the variable holds the number of the arguments
(`countsAgree_iff`), and that is so on every line as long as nothing that was carried out
has written `argcount`, whatever else it has written.  In the command of an action, whose
text is taken as it stands, they are not (`counts_agree_of_calls`).
-/

namespace StreamScript

open Text Number

namespace Script

variable {env : Env} {s t : Script} {k n : Nat}

/-! ## Bodies that run -/

/-- Whether a script stands at a line and in a chain of which no part has been taken. -/
def isUndecided (s : Script) : Bool :=
  s.walk.index?.isSome && s.walk.ifs.head?.any fun top => !top.satisfied

/-- Whether the body of a conditional runs when a script comes to the conditional. -/
def runsBody (env : Env) : Statement → Script → Bool
  | .block head brace, s => (execute env (.block head brace) s).1 == .next
  | .single head _, s => s.walk.index?.any fun idx => (enterSingle env head idx s).1
  | _, _ => false

theorem exists_of_isUndecided (h : s.isUndecided = true) :
    ∃ idx top outer, s.walk.index? = some idx ∧ s.walk.ifs = top :: outer ∧
      top.satisfied = false := by
  rw [isUndecided, Bool.and_eq_true, Option.isSome_iff_exists] at h
  obtain ⟨⟨idx, hidx⟩, htop⟩ := h
  cases hifs : s.walk.ifs with
  | nil => rw [hifs] at htop; cases htop
  | cons top outer =>
    rw [hifs] at htop
    exact ⟨idx, top, outer, hidx, rfl, Bool.not_eq_true' _ ▸ htop⟩

theorem fst_takeBrace (s : Script) :
    s.takeBrace.1 = decide (s.walk.nextStatement? = some .leftBrace) := by
  unfold takeBrace
  split
  · next hbrace => exact (decide_eq_true hbrace).symm
  · next hbrace => exact (decide_eq_false hbrace).symm

/-- Whether the brace of a block is found is a matter of the place. -/
theorem fst_enterBlock (brace : BracePlace) (hprogram : t.walk.program = s.walk.program)
    (hnext : t.walk.next = s.walk.next) : (t.enterBlock brace).1 = (s.enterBlock brace).1 := by
  cases brace with
  | here => rfl
  | nextLine =>
    have hstatement : t.walk.nextStatement? = s.walk.nextStatement? := by
      rw [Walk.nextStatement?, Walk.nextStatement?, hprogram, hnext]
    rw [enterBlock, enterBlock, fst_takeBrace, fst_takeBrace, hstatement]

theorem enterBlock_keeps (brace : BracePlace) (s : Script) :
    (s.enterBlock brace).2.walk.ifs = s.walk.ifs ∧ (s.enterBlock brace).2.view = s.view := by
  cases brace with
  | here => exact ⟨rfl, rfl⟩
  | nextLine =>
    unfold enterBlock takeBrace
    dsimp only
    split
    · exact ⟨rfl, rfl⟩
    · exact ⟨rfl, s.view_report _⟩

/-- The body of a conditional on one line runs if the test succeeds. -/
theorem runsBody_single (h : s.isUndecided = true) (env : Env) (head : Head) (body : Statement) :
    runsBody env (.single head body) s = (s.decideHead env head).1 := by
  obtain ⟨idx, top, outer, hidx, hifs, hopen⟩ := exists_of_isUndecided h
  rw [runsBody, hidx, Option.any_some]
  cases head with
  | ifHolds | ifArgs => rfl
  | elseIf | otherwise =>
    rw [enterSingle, hifs]
    dsimp only
    rw [hopen, if_neg Bool.false_ne_true]

/-- The body of a block runs if its brace is there and the test succeeds. -/
theorem runsBody_block (h : s.isUndecided = true) (env : Env) (head : Head) (brace : BracePlace) :
    runsBody env (.block head brace) s =
      ((s.enterBlock brace).1 && (s.decideHead env head).1) := by
  obtain ⟨idx, top, outer, hidx, hifs, hopen⟩ := exists_of_isUndecided h
  have hif : ((openIf env head brace idx s).1 == .next) =
      ((s.enterBlock brace).1 && (s.decideHead env head).1) := by
    have hwalk := (s.sameStand_decideHead env head).walk
    have hprogram : (s.decideHead env head).2.walk.program = s.walk.program := by rw [hwalk]
    have hnext : (s.decideHead env head).2.walk.next = s.walk.next := by rw [hwalk]
    have hentered : (((s.decideHead env head).2.openFrame
        ⟨idx, (s.decideHead env head).1⟩).enterBlock brace).1 = (s.enterBlock brace).1 :=
      fst_enterBlock brace hprogram hnext
    rw [openIf, ← hentered]
    dsimp only
    generalize ((s.decideHead env head).2.openFrame ⟨idx, (s.decideHead env head).1⟩).enterBlock
      brace = r
    obtain ⟨_ | _, t⟩ := r <;> cases (s.decideHead env head).1 <;> rfl
  have helse : ((openElse env head brace idx s).1 == .next) =
      ((s.enterBlock brace).1 && (s.decideHead env head).1) := by
    obtain ⟨hkept, hview⟩ := enterBlock_keeps brace s
    rw [hifs] at hkept
    rw [(s.view_decideHead env head).1, ← hview]
    unfold openElse
    generalize s.enterBlock brace = r at hkept ⊢
    obtain ⟨_ | _, t⟩ := r
    · rfl
    · dsimp only at hkept ⊢
      rw [hkept, ← (t.view_decideHead env head).1]
      dsimp only
      rw [hopen, if_neg Bool.false_ne_true]
      cases (t.decideHead env head).1 <;> rfl
  rw [runsBody, execute, hidx]
  cases head with
  | ifHolds | ifArgs => exact hif
  | elseIf | otherwise => exact helse

/-- At this place `else if_N` and `if_N` are the same, as blocks and on one line. -/
def CountsAgree (env : Env) (s : Script) : Prop :=
  ∀ n ≤ maxCount,
    (∀ brace, runsBody env (.block (.elseIf (Statement.argsPhrase n)) brace) s =
      runsBody env (.block (.ifArgs n) brace) s) ∧
    ∀ body, runsBody env (.single (.elseIf (Statement.argsPhrase n)) body) s =
      runsBody env (.single (.ifArgs n) body) s

/-- They are the same if the tests of both always have the same outcome. -/
theorem countsAgree_iff_decideHead (h : s.isUndecided = true) (env : Env) :
    s.CountsAgree env ↔ ∀ n ≤ maxCount,
      (s.decideHead env (.elseIf (Statement.argsPhrase n))).1 =
        decide (n ≤ s.scopes.args.length) := by
  have htest (n : Nat) : (s.decideHead env (.ifArgs n)).1 = decide (n ≤ s.scopes.args.length) := rfl
  constructor
  · intro hagree n hn
    have hsingle := (hagree n hn).2 .exit
    rwa [runsBody_single h, runsBody_single h, htest] at hsingle
  · intro hagree n hn
    constructor
    · intro brace
      rw [runsBody_block h, runsBody_block h, hagree n hn, htest]
    · intro body
      rw [runsBody_single h, runsBody_single h, hagree n hn, htest]

/-! ## What `else if_N` asks -/

/-- The variable `argcount` holds a count. -/
def CountIs (k : Nat) (s : Script) : Prop :=
  s.scopes.locals.get? "argcount" = some (String.ofList (natText k))

/-- With the value of `argcount` put in, the condition compares two counts. -/
theorem substitute_argsPhrase (env : Env) (hverbatim : s.scopes.verbatim = false)
    (hcount : s.CountIs k) (n : Nat) :
    s.substitute env ("%argcount >= " ++ String.ofList (natText n)) =
      String.ofList (atLeastText k n) := by
  have hsigil (c : Char) (hc : c ≠ '$' ∧ c ≠ '%' ∧ c ≠ '&') :
      (s.scopes.sigils env.globals).isSigil c = false := by
    rw [Scopes.isSigil_sigils]
    simp [Ne.symm hc.1, Ne.symm hc.2.1, Ne.symm hc.2.2]
  have hdigit (m : Nat) (c : Char) (hc : c ∈ natText m) :
      (s.scopes.sigils env.globals).isSigil c = false := by
    refine hsigil c ?_
    have hdigit : c.isDigit = true := isDigit_of_mem_natText hc
    refine ⟨?_, ?_, ?_⟩ <;> rintro rfl <;> cases hdigit
  have hlookup : (s.scopes.sigils env.globals).lookup '%' "argcount".toList = some (natText k) := by
    simp only [Scopes.sigils, Sigils.lookup_register, String.ofList_toList,
      show s.scopes.locals.get? "argcount" = _ from hcount]
    simp [Sigils.lookup]
  have hfree : ∀ c ∈ "argcount".toList ++ (" >= ".toList ++ natText n),
      (s.scopes.sigils env.globals).isSigil c = false := by
    intro c hc
    rw [← List.append_assoc] at hc
    obtain hc | hc := List.mem_append.mp hc
    · have hall : ("argcount".toList ++ " >= ".toList).all
          (fun c => decide (c ≠ '$' ∧ c ≠ '%' ∧ c ≠ '&')) = true := by decide
      exact hsigil c (of_decide_eq_true (List.all_eq_true.mp hall c hc))
    · exact hdigit n c hc
  have hresult : Substitution.result? (s.scopes.sigils env.globals)
      ('%' :: "argcount".toList ++ (" >= ".toList ++ natText n)) =
        some (natText k ++ (" >= ".toList ++ natText n)) := by
    refine Substitution.result?_reference (List.cons_ne_nil _ _) (List.all_eq_true.mp (by decide))
      hlookup (hdigit k) hfree fun c hc => ?_
    obtain rfl : ' ' = c := Option.some.inj hc
    decide
  have htext : ("%argcount >= " ++ String.ofList (natText n)).toList =
      '%' :: "argcount".toList ++ (" >= ".toList ++ natText n) := by
    rw [String.toList_append, show (String.ofList (natText n)).toList = _ from String.toList_ofList]
    rfl
  rw [substitute, Scopes.substitute, hverbatim, if_neg Bool.false_ne_true, Sigils.substitute, htext,
    hresult, atLeastText, List.append_assoc]

/-- `else if_N` asks whether the double nearest to what `argcount` holds is at least the double
nearest to the count. -/
theorem decideHead_argsPhrase (hhost : env.host = Host.bundled)
    (hverbatim : s.scopes.verbatim = false) (hcount : s.CountIs k) (hk : k ≤ maxCount)
    (hn : n ≤ maxCount) :
    (s.decideHead env (.elseIf (Statement.argsPhrase n))).1 =
      decide (nearestNat n ≤ nearestNat k) := by
  change ((Statement.argsPhrase n).evalBool env.host (s.substitute env)).result = _
  rw [hhost]
  exact Phrase.evalBool_atLeast hk hn (substitute_argsPhrase env hverbatim hcount n)

/-- Where texts are taken as they stand, `else if_N` does not hold for any count. -/
theorem decideHead_argsPhrase_of_verbatim (hhost : env.host = Host.bundled)
    (hverbatim : s.scopes.verbatim = true) (n : Nat) :
    (s.decideHead env (.elseIf (Statement.argsPhrase n))).1 = false := by
  have hsubst : s.substitute env ("%argcount >= " ++ String.ofList (natText n)) =
      String.ofList ('%' :: ("argcount >= ".toList ++ natText n)) := by
    rw [substitute, Scopes.substitute, hverbatim, if_pos rfl, ← List.cons_append,
      String.ofList_append]
    rfl
  have htrim : trim ('%' :: ("argcount >= ".toList ++ natText n)) =
      '%' :: ("argcount >= ".toList ++ natText n) :=
    trim_append_natText (c := '%') (by decide) "argcount >= ".toList n
  have hblank : ' ' ∈ "argcount >= ".toList ++ natText n :=
    List.mem_append_left _ (List.elem_iff.mp rfl)
  change ((Statement.argsPhrase n).evalBool env.host (s.substitute env)).result = _
  rw [hhost]
  exact Phrase.evalBool_percent hsubst htrim hblank

/-- Of a count that a double holds exactly, a larger count has a larger double. -/
theorem lt_nearestNat (hk : k < 2 ^ 53) (hn : k < n) : k < nearestNat n := by
  by_cases hsmall : n < 2 ^ 53
  · rwa [nearestNat_of_lt hsmall]
  · have hne : n ≠ 0 := by omega
    have hlog : 53 ≤ n.log2 := (Nat.le_log2 hne).mpr (Nat.not_lt.mp hsmall)
    calc k < 2 ^ 53 := hk
      _ ≤ 2 ^ n.log2 := Nat.pow_le_pow_right Nat.two_pos hlog
      _ ≤ nearestNat n := (nearestNat_mem hne).1

/-- **Where texts are taken as they stand, `else if_N` and `if_N` are not the same**: `if_0`
holds. -/
theorem not_countsAgree_of_verbatim (hhost : env.host = Host.bundled)
    (hundecided : s.isUndecided = true) (hverbatim : s.scopes.verbatim = true) :
    ¬ s.CountsAgree env := by
  intro hagree
  have hzero := (countsAgree_iff_decideHead hundecided env).mp hagree 0 (Nat.zero_le _)
  rw [decideHead_argsPhrase_of_verbatim hhost hverbatim] at hzero
  exact absurd (Nat.zero_le _) (of_decide_eq_false hzero.symm)

/-- **Where variables are put into texts, `else if_N` and `if_N` are the same exactly if the count
that `argcount` holds is the number of the arguments.** -/
theorem countsAgree_iff (hhost : env.host = Host.bundled) (hundecided : s.isUndecided = true)
    (hverbatim : s.scopes.verbatim = false) (hfew : s.scopes.args.length < 2 ^ 53)
    (hcount : s.CountIs k) (hk : k ≤ maxCount) :
    s.CountsAgree env ↔ k = s.scopes.args.length := by
  have hmax : s.scopes.args.length + 1 ≤ maxCount := by
    rw [maxCount]
    omega
  have hexact := nearestNat_of_lt hfew
  rw [countsAgree_iff_decideHead hundecided]
  constructor
  · intro hagree
    have htests (n : Nat) (hn : n ≤ maxCount) :
        nearestNat n ≤ nearestNat k ↔ n ≤ s.scopes.args.length := by
      rw [← decide_eq_decide, ← hagree n hn, decideHead_argsPhrase hhost hverbatim hcount hk hn]
    have hle := (htests _ (Nat.le_of_succ_le hmax)).mpr (Nat.le_refl _)
    have hnot := mt (htests _ hmax).mp (Nat.not_succ_le_self _)
    -- a larger count would have a double that is at least that of one argument more
    have hcounted : k ≤ s.scopes.args.length := by
      by_contra hlarge
      exact hnot (nearestNat_mono (Nat.succ_le_of_lt (Nat.not_le.mp hlarge)))
    rw [hexact, nearestNat_of_lt (Nat.lt_of_le_of_lt hcounted hfew)] at hle
    exact Nat.le_antisymm hcounted hle
  · rintro rfl n hn
    rw [decideHead_argsPhrase hhost hverbatim hcount hk hn, decide_eq_decide, hexact]
    constructor
    · intro hle
      by_contra hlarge
      exact Nat.lt_irrefl _ ((lt_nearestNat hfew (Nat.not_le.mp hlarge)).trans_le hle)
    · intro hle
      rw [← hexact]
      exact nearestNat_mono hle

/-! ## How the count is kept -/

/-- The variable `argcount` holds the number of the arguments. -/
def TellsCount (s : Script) : Prop :=
  s.CountIs s.scopes.args.length

theorem tellsCount_begun (args : List String) (s : Script) : (s.begun args).TellsCount :=
  (Bindings.get?_insert ..).trans (if_pos rfl)

namespace TellsCount

theorem of_keeps (h : s.TellsCount) (hkeeps : Keeps "argcount" s t) : t.TellsCount := by
  rw [TellsCount, CountIs, hkeeps.value, hkeeps.args]
  exact h

theorem of_sameVars (h : s.TellsCount) (hsame : SameVars s t) : t.TellsCount :=
  h.of_keeps hsame.keeps

/-- With an argument that is dropped the count goes down. -/
theorem shifted (h : s.TellsCount) : s.shifted.TellsCount := by
  rw [TellsCount, CountIs, Script.shifted]
  unfold Scopes.shiftArgs
  split
  · exact h
  · exact (Bindings.get?_insert ..).trans (if_pos rfl)

/-- A statement that does not write `argcount` leaves it the number of the arguments. -/
theorem execute {statement : Statement} (h : s.TellsCount)
    (hwritten : written? env statement s ≠ some "argcount") :
    (execute env statement s).2.TellsCount := by
  obtain hkeeps | hshifts := keeps_or_shifts hwritten
  · exact h.of_keeps hkeeps
  · exact h.shifted.of_sameVars hshifts

end TellsCount

theorem tellsCount_behind {d : Deed} (h : d.front.TellsCount)
    (hwritten : d.written? ≠ some "argcount") : d.behind.TellsCount := by
  obtain ⟨env, statement, front, byAction⟩ := d
  cases byAction with
  | false => exact h.execute hwritten
  | true =>
    have hscript : (front.setVerbatim true).TellsCount := h
    exact hscript.execute hwritten

theorem verbatim_behind {d : Deed} (h : d.front.scopes.verbatim = false) :
    d.behind.scopes.verbatim = false := by
  obtain ⟨env, statement, front, byAction⟩ := d
  cases byAction with
  | false => exact (speaks_execute env statement front).verbatim.trans h
  | true => rfl

theorem verbatim_script {d : Deed} (h : d.front.scopes.verbatim = false) :
    d.script.scopes.verbatim = d.byAction := by
  obtain ⟨env, statement, front, byAction⟩ := d
  cases byAction with
  | false => exact h
  | true => rfl

/-- Between deeds texts are never taken as they stand. -/
theorem Trail.verbatim {ds : List Deed} (h : Trail s ds t) (hs : s.scopes.verbatim = false) :
    t.scopes.verbatim = false :=
  h.kept (fun hidle hs => hidle.verbatim.trans hs) (fun _ _ hs => hs)
    (fun _ _ _ hfront => verbatim_behind hfront) hs

/-- As long as no deed writes `argcount`, it holds the number of the arguments. -/
theorem Trail.tellsCount {ds : List Deed} (h : Trail s ds t)
    (hwritten : ∀ d ∈ ds, d.written? ≠ some "argcount") (hs : s.IsLive → s.TellsCount) :
    t.IsLive → t.TellsCount := by
  refine h.kept (P := fun s => s.IsLive → s.TellsCount) ?_ ?_ ?_ hs
  · intro s t hidle hs hlive
    exact (hs (hidle.live hlive)).of_sameVars hidle.toSameVars
  · intro s args _ _ _
    exact tellsCount_begun args s
  · intro d hd hphase hfront _
    exact tellsCount_behind (hfront (.inl hphase)) (hwritten d hd)

/-! ## Histories -/

/-- **When `else if_N` and `if_N` are the same.**  Take any program, and any calls made on a fresh
script of it that come back, whatever is drawn at random and whatever the clock shows each time it
is read.  Where a statement is carried out in a chain of which no part has been taken, either of
them could stand.  In the command of an action the two are not the same.  On a line they are as long
as no statement that was carried out has written `argcount`.  If it has been written, and holds a
count, they are the same exactly when that is the number of the arguments. -/
theorem counts_agree_of_calls {program : Program} {settings : Settings} {moments : List Moment}
    {before after : List Deed} {d : Deed} (hcalls : Calls (ofProgram program settings) moments s)
    (hdeeds : moments.flatMap Moment.deeds = before ++ d :: after)
    (hhost : d.env.host = Host.bundled) (hundecided : d.script.isUndecided = true)
    (hfew : d.script.scopes.args.length < 2 ^ 53) :
    (d.byAction = true → ¬ d.script.CountsAgree d.env) ∧
    (d.byAction = false →
      ((∀ e ∈ before, e.written? ≠ some "argcount") → d.script.CountsAgree d.env) ∧
      ∀ k ≤ maxCount, d.script.CountIs k →
        (d.script.CountsAgree d.env ↔ k = d.script.scopes.args.length)) := by
  have htrail := trail_calls hcalls
  rw [hdeeds] at htrail
  obtain ⟨hbefore, hphase⟩ := htrail.front
  have hverbatim : d.script.scopes.verbatim = d.byAction := verbatim_script (hbefore.verbatim rfl)
  constructor
  · intro haction
    exact not_countsAgree_of_verbatim hhost hundecided (hverbatim.trans haction)
  intro hline
  have hvalue (k : Nat) (hk : k ≤ maxCount) (hcount : d.script.CountIs k) :
      d.script.CountsAgree d.env ↔ k = d.script.scopes.args.length :=
    countsAgree_iff hhost hundecided (hverbatim.trans hline) hfew hcount hk
  refine ⟨fun hwritten => ?_, hvalue⟩
  have hlive : ¬ (ofProgram program settings).IsLive := by
    rintro (hrunning | hpaused)
    · cases hrunning
    · cases hpaused
  have hfront : d.front.TellsCount :=
    hbefore.tellsCount hwritten (fun h => absurd h hlive) (.inl hphase)
  have htells : d.script.TellsCount := by
    rw [Deed.script, hline]
    exact hfront
  have hmax : d.script.scopes.args.length ≤ maxCount := by
    rw [maxCount]
    omega
  exact (hvalue _ hmax htells).mpr rfl

/-! ### An example -/

/-- A script that asks for arguments in both ways, behind some other lines. -/
def counting (front : List String) : Program where
  name := "counting"
  lines :=
    let texts := front ++ ["if_5 \x7b", "echo five", "\x7d", "else if_2 \x7b", "echo two", "\x7d"]
    (texts.mapIdx fun i text => .ofText "counting" (i + 1) text).toArray

/-- The call that starts the script. -/
def countingCalls (front args : List String) : List Moment :=
  [⟨{}, .start args, ofProgram (counting front) {}⟩]

/-- What the script carries out. -/
def countingDeeds (front args : List String) : List Deed :=
  (countingCalls front args).flatMap Moment.deeds

theorem calls_counting (front args : List String) :
    Calls (ofProgram (counting front) {}) (countingCalls front args)
      ((ofProgram (counting front) {}).start {} args) :=
  .cons (Call.returns_of_window (by decide) _ _) (.nil _)

theorem countingDeeds_eq (front args : List String) :
    countingDeeds front args = deedsFrom {} ((ofProgram (counting front) {}).begun args) :=
  (List.flatMap_singleton ..).trans (List.flatMap_singleton ..)

/-- Whether a deed is the second question of the script, which has some arguments and some text in
`argcount`. -/
def Asks (args : List String) (count : String) (d : Deed) : Prop :=
  d.statement = .block (.elseIf (Statement.argsPhrase 2)) .here ∧ d.byAction = false ∧
    d.script.isUndecided = true ∧ d.script.scopes.verbatim = false ∧ d.script.scopes.args = args ∧
    d.script.scopes.locals.get? "argcount" = some count

instance (args : List String) (count : String) (d : Deed) : Decidable (Asks args count d) :=
  inferInstanceAs (Decidable (_ ∧ _ ∧ _ ∧ _ ∧ _ ∧ _))

theorem exists_asks {front args : List String} {count : String} (i : Nat)
    (h : ((countingDeeds front args)[i]?.any fun d => Asks args count d) = true) :
    ∃ d, countingDeeds front args =
        (countingDeeds front args).take i ++ d :: (countingDeeds front args).drop (i + 1) ∧
      d.env = {} ∧ Asks args count d := by
  obtain ⟨d, hd, hasks⟩ := (Option.any_eq_true ..).mp h
  obtain ⟨hlt, rfl⟩ := List.getElem?_eq_some_iff.mp hd
  refine ⟨_, ?_, ?_, of_decide_eq_true hasks⟩
  · rw [List.getElem_cons_drop, List.take_append_drop]
  · obtain ⟨m, hm, hmem⟩ := List.mem_flatMap.mp (List.getElem_mem hlt)
    obtain rfl := List.mem_singleton.mp hm
    exact Moment.env_of_mem_deeds hmem

/-- Behind a question for five arguments, the script with two of them asks for two. -/
theorem counts_agree_counting :
    ∃ before d after, countingDeeds [] ["a", "b"] = before ++ d :: after ∧
      Asks ["a", "b"] "2" d ∧ d.script.CountsAgree d.env := by
  have hsecond : ((countingDeeds [] ["a", "b"])[1]?.any fun d => Asks ["a", "b"] "2" d) = true := by
    decide +kernel
  have hwritten : ∀ e ∈ (countingDeeds [] ["a", "b"]).take 1, e.written? ≠ some "argcount" := by
    decide +kernel
  obtain ⟨d, hdeeds, henv, hasks⟩ := exists_asks 1 hsecond
  obtain ⟨-, hline, hundecided, -, hargs, -⟩ := id hasks
  have hhost : d.env.host = Host.bundled := by rw [henv]
  have hfew : d.script.scopes.args.length < 2 ^ 53 := by
    rw [hargs]
    decide
  obtain ⟨-, hagree⟩ :=
    counts_agree_of_calls (calls_counting [] ["a", "b"]) hdeeds hhost hundecided hfew
  exact ⟨_, d, _, hdeeds, hasks, (hagree hline).1 hwritten⟩

/-- The line that gives `argcount` another value. -/
def countingLine : Line :=
  .ofText "counting" 1 "var argcount 3"

theorem statement?_countingLine : countingLine.statement? = some (.setVar "argcount" "3") := by
  decide +kernel

/-- The script behind this line. -/
def countingBehind : Script :=
  (((ofProgram (counting ["var argcount 3"]) {}).begun []).atStatement countingLine
    (.setVar "argcount" "3")).setLocal "argcount" "3"

theorem step_counting :
    step {} ((ofProgram (counting ["var argcount 3"]) {}).begun []) = .again countingBehind := by
  have hnext : ((ofProgram (counting ["var argcount 3"]) {}).begun []).nextLine? =
      some countingLine := rfl
  have hname : isPlain "argcount" = true := by decide
  have hvalue : isPlain "3" = true := by decide
  rw [step_of_nextLine? {} hnext, runLine_of_statement {} hnext statement?_countingLine, execute,
    substitute_of_isPlain _ {} hname, substitute_of_isPlain _ {} hvalue]
  rfl

/-- A script without arguments that has set `argcount` to three runs the body of `else if_2`, and
would not run that of `if_2`. -/
theorem counts_disagree_counting :
    ∃ moments s before d after,
      Calls (ofProgram (counting ["var argcount 3"]) {}) moments s ∧
      moments.flatMap Moment.deeds = before ++ d :: after ∧ Asks [] "3" d ∧
      runsBody d.env d.statement d.script = true ∧
      runsBody d.env (.block (.ifArgs 2) .here) d.script = false := by
  have hsecond : ((countingDeeds ["var argcount 3"] [])[2]?.any fun d => Asks [] "3" d) = true := by
    rw [countingDeeds_eq, deedsFrom_of_again step_counting]
    decide +kernel
  obtain ⟨d, hdeeds, henv, hasks⟩ := exists_asks 2 hsecond
  refine ⟨_, _, _, d, _, calls_counting ["var argcount 3"] [], hdeeds, hasks, ?_⟩
  obtain ⟨hstatement, -, hundecided, hverbatim, hargs, hcount⟩ := hasks
  have hhost : d.env.host = Host.bundled := by rw [henv]
  have hthree : d.script.CountIs 3 := hcount
  have helse := decideHead_argsPhrase hhost hverbatim hthree (n := 2) (by decide) (by decide)
  rw [nearestNat_of_lt (by decide), nearestNat_of_lt (by decide)] at helse
  rw [hstatement, runsBody_block hundecided, runsBody_block hundecided, helse]
  refine ⟨rfl, ?_⟩
  change (true && decide (2 ≤ d.script.scopes.args.length)) = false
  rw [hargs]
  rfl

end Script

end StreamScript
