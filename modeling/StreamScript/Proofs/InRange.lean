import StreamScript.Proofs.LoopBound
import StreamScript.Proofs.Remarks

/-!
# Places that exist

A script keeps many numbers that stand for lines or for entries: the place where it
goes on, the lines of the conditionals that are open, the same once more in every
open subroutine, and the places of the literal entries of a wait.  They are written
by statements, by what passes over lines, and by returns that happen long after the
numbers were taken down.  `InRange` says that each of them stands for something that
is there, and `InRange.execute` that no statement changes this.

The places of entries are looked up when a line comes in.  Because they are in
range nothing that was found is lost on the way (`InRange.findMatch?_eq_none_iff`).
-/

namespace StreamScript

/-! ## Walks -/

namespace Walk

variable {w : Walk}

/-- A walk whose place and whose open conditionals are in its program. -/
structure InRange (w : Walk) : Prop where
  next : w.next ≤ w.program.lines.size
  ifs : ∀ frame ∈ w.ifs, frame.line < w.program.lines.size

theorem lt_size_of_index? {idx : Nat} (h : w.index? = some idx) :
    idx < w.program.lines.size := by
  rw [index?] at h
  split at h
  · next hlt =>
    cases h
    omega
  · cases h

namespace InRange

theorem push (h : w.InRange) {frame : Frame} (hframe : frame.line < w.program.lines.size) :
    (w.push frame).InRange :=
  ⟨h.next, List.forall_mem_cons.mpr ⟨hframe, h.ifs⟩⟩

theorem pop (h : w.InRange) : w.pop.InRange :=
  ⟨h.next, fun frame hframe => h.ifs frame (List.mem_of_mem_tail hframe)⟩

theorem replaceTop (h : w.InRange) {frame : Frame} (hframe : frame.line < w.program.lines.size) :
    (w.replaceTop frame).InRange :=
  h.pop.push hframe

theorem moveTo (h : w.InRange) (idx : Nat) : (w.moveTo idx).InRange :=
  ⟨Nat.min_le_right _ _, h.ifs⟩

theorem skipWhile (h : w.InRange) (p : Line → Bool) : (w.skipWhile p).InRange := by
  refine ⟨?_, h.ifs⟩
  have hnext := h.next
  have hle : ((w.program.lines.toList.drop w.next).takeWhile p).length ≤
      w.program.lines.size - w.next := by
    rw [← Array.length_toList, ← List.length_drop]
    exact (List.takeWhile_sublist p).length_le
  change w.next + ((w.program.lines.toList.drop w.next).takeWhile p).length ≤
    w.program.lines.size
  omega

end InRange

/-- Passing over lines stays among them, and what is opened on the way is opened by one of them. -/
theorem skipLines_le (opened : List Frame) (chained : Bool) (idx : Nat) (lines : List Line)
    (h : ∀ frame ∈ opened, frame.line < idx + lines.length) :
    (skipLines opened chained idx lines).next ≤ idx + lines.length ∧
      ∀ frame ∈ (skipLines opened chained idx lines).opened,
        frame.line < idx + lines.length := by
  induction lines generalizing opened chained idx with
  | nil => exact ⟨Nat.le_refl _, h⟩
  | cons line rest ih =>
    have hlength : idx + (line :: rest).length = idx + 1 + rest.length := by
      rw [List.length_cons]
      omega
    rw [hlength] at h ⊢
    have hpushed (fs : List Frame) (hfs : ∀ frame ∈ fs, frame.line < idx + 1 + rest.length) :
        ∀ frame ∈ (⟨idx, false⟩ :: fs : List Frame), frame.line < idx + 1 + rest.length :=
      List.forall_mem_cons.mpr ⟨by dsimp only; omega, hfs⟩
    have htail (top : Frame) (outer : List Frame) (heq : opened = top :: outer) :
        ∀ frame ∈ outer, frame.line < idx + 1 + rest.length :=
      fun frame hframe => h frame (heq ▸ List.mem_cons_of_mem top hframe)
    have hhere : idx ≤ idx + 1 + rest.length ∧
        ∀ frame ∈ ([] : List Frame), frame.line < idx + 1 + rest.length :=
      ⟨by omega, List.forall_mem_nil _⟩
    rw [skipLines.eq_def]
    dsimp only
    split
    · exact ih _ _ _ h
    · split
      · split
        · exact ih _ _ _ h
        · exact ih _ _ _ (hpushed _ h)
      · split
        · split
          · split
            · exact hhere
            · next top outer =>
              split
              · exact ih _ _ _ (hpushed _ (htail top outer rfl))
              · exact ih _ _ _ (htail top outer rfl)
          · split
            · exact hhere
            · split
              · exact ih _ _ _ (hpushed _ h)
              · exact ih _ _ _ h
        · split
          · split
            · exact ⟨by dsimp only; omega, List.forall_mem_nil _⟩
            · next top outer => exact ih _ _ _ (htail top outer rfl)
          · exact ih _ _ _ h
          · exact ih _ _ _ h

namespace InRange

/-- Passing over a block looks at no line that is not there, and ends in the program. -/
theorem skipBlock (h : w.InRange) : w.skipBlock.2.InRange := by
  have hsize : w.next + (w.program.lines.toList.drop w.next).length = w.program.lines.size := by
    have hnext := h.next
    rw [List.length_drop, Array.length_toList]
    omega
  obtain ⟨hnext, hopened⟩ := skipLines_le [] false w.next (w.program.lines.toList.drop w.next)
    (List.forall_mem_nil _)
  rw [hsize] at hnext hopened
  exact ⟨hnext, List.forall_mem_append.mpr ⟨hopened, h.ifs⟩⟩

theorem skipChain (h : w.InRange) : w.skipChain.2.InRange := by
  fun_induction Walk.skipChain w with
  | case1 w => exact h
  | case2 w => exact h
  | case3 w s hs helse hsingle ih =>
    exact ih ⟨lt_size_of_nextStatement? hs, h.ifs⟩
  | case4 w s hs helse hsingle inner hstop =>
    have hlt := lt_size_of_nextStatement? hs
    have hinner : inner.InRange :=
      InRange.push (w := { w with next := w.next + 1 }) ⟨hlt, h.ifs⟩ hlt
    exact hinner.skipBlock.pop
  | case5 w s hs helse hsingle inner stop hstop ih =>
    have hlt := lt_size_of_nextStatement? hs
    have hinner : inner.InRange :=
      InRange.push (w := { w with next := w.next + 1 }) ⟨hlt, h.ifs⟩ hlt
    exact ih hinner.skipBlock.pop

end InRange

end Walk

/-! ## Subroutines and entries -/

/-- Where a subroutine returns to. -/
def Gosub.walk (program : Program) (frame : Gosub) : Walk :=
  ⟨program, frame.next, frame.ifs⟩

namespace MatchSet

/-- Literal entries whose places are among so many entries. -/
structure InRange (set : MatchSet) (count : Nat) : Prop where
  length : set.places.length = set.literals.size
  places : ∀ place ∈ set.places, place < count

theorem InRange.mono {set : MatchSet} {count more : Nat} (h : set.InRange count)
    (hle : count ≤ more) : set.InRange more :=
  ⟨h.length, fun place hplace => Nat.lt_of_lt_of_le (h.places place hplace) hle⟩

theorem lt_of_mem_literalsFrom {idx : Nat} {entries : List MatchEntry} {found : String × Nat}
    (h : found ∈ literalsFrom idx entries) : found.2 < idx + entries.length := by
  induction entries generalizing idx with
  | nil => cases h
  | cons entry rest ih =>
    rw [List.length_cons]
    cases entry with
    | literal label text =>
      obtain rfl | hrest := List.mem_cons.mp h
      · dsimp only
        omega
      · have hlt := ih hrest
        omega
    | regex label pattern =>
      have hlt : found.2 < idx + 1 + rest.length := ih h
      omega

/-- The literal entries of a list are among its entries. -/
theorem inRange_of_ofEntries? {entries : List MatchEntry} {set : MatchSet}
    (h : ofEntries? entries = some set) : set.InRange entries.length := by
  unfold ofEntries? at h
  split at h
  · cases h
  · cases h
    refine ⟨by simp [LiteralSet.size], ?_⟩
    intro place hplace
    obtain ⟨found, hfound, rfl⟩ := List.mem_map.mp hplace
    simpa using lt_of_mem_literalsFrom hfound

/-- A literal that is found has a place. -/
theorem InRange.firstPlace?_eq_none_iff {set : MatchSet} {count : Nat} (h : set.InRange count)
    {line : String} :
    set.firstPlace? line = none ↔ set.literals.firstMatch? line = none := by
  unfold firstPlace?
  cases hfound : set.literals.firstMatch? line with
  | none => exact iff_of_true rfl rfl
  | some i =>
    have hlt : i < set.places.length := by
      rw [h.length]
      exact (List.findIdx?_eq_some_iff_getElem.mp hfound).1
    rw [Option.bind_some, List.getElem?_eq_getElem hlt]
    exact iff_of_false nofun nofun

theorem InRange.lt_of_firstPlace? {set : MatchSet} {count place : Nat} (h : set.InRange count)
    {line : String} (hplace : set.firstPlace? line = some place) : place < count := by
  obtain ⟨i, -, hi⟩ := Option.bind_eq_some_iff.mp hplace
  exact h.places place (List.mem_of_getElem? hi)

end MatchSet

namespace Script

variable {s t u : Script} {env : Env}

/-- A script all of whose places exist. -/
structure InRange (s : Script) : Prop where
  walk : s.walk.InRange
  gosubs : ∀ frame ∈ s.gosubs, (frame.walk s.walk.program).InRange
  matchSet : ∀ set, s.matchSet? = some set → set.InRange s.targets.length

/-- Two states that have the same places. -/
structure SamePlaces (s t : Script) : Prop where
  walk : t.walk = s.walk
  gosubs : t.gosubs = s.gosubs
  targets : t.targets = s.targets
  matchSet : t.matchSet? = s.matchSet?

theorem SameStand.samePlaces (h : SameStand s t) : SamePlaces s t :=
  ⟨h.walk, h.gosubs, h.targets, h.matchSet⟩

namespace InRange

theorem of_samePlaces (h : InRange s) (hsame : SamePlaces s t) : InRange t where
  walk := hsame.walk ▸ h.walk
  gosubs := by rw [hsame.gosubs, hsame.walk]; exact h.gosubs
  matchSet := by rw [hsame.matchSet, hsame.targets]; exact h.matchSet

theorem of_sameStand (h : InRange s) (hsame : SameStand s t) : InRange t :=
  h.of_samePlaces hsame.samePlaces

/-- Where only the place in the program changes, nothing else has to be looked at. -/
theorem of_sameButPlace (h : InRange s) (hsame : SameButPlace s t) (hwalk : t.walk.InRange) :
    InRange t where
  walk := hwalk
  gosubs := by rw [hsame.gosubs, hsame.program]; exact h.gosubs
  matchSet := by rw [hsame.matchSet, hsame.targets]; exact h.matchSet

theorem clearWaits (h : InRange s) : InRange s.clearWaits :=
  ⟨h.walk, h.gosubs, nofun⟩

/-! ## Waits -/

/-- What is armed does not move anything. -/
theorem await (h : InRange s) (wait : Wait) : InRange (s.await wait).2 :=
  h.of_samePlaces ⟨rfl, rfl, rfl, rfl⟩

theorem setTimer (h : InRange s) (env : Env) (seconds : Float) (kind : TimerKind) :
    InRange (s.setTimer env seconds kind) :=
  h.of_samePlaces ⟨rfl, rfl, rfl, rfl⟩

theorem debug (h : InRange s) (level : DebugLevel) (message : String) :
    InRange (s.debug level message) :=
  h.of_sameStand (s.sameStand_debug level message)

theorem report (h : InRange s) (message : String) : InRange (s.report message) :=
  h.of_sameStand (s.sameStand_report message)

/-- Entries are only ever added, so the places of those there were stay in range. -/
theorem addTarget (h : InRange s) (entry : MatchEntry) :
    InRange { s with targets := s.targets ++ [entry] } where
  walk := h.walk
  gosubs := h.gosubs
  matchSet set hset := (h.matchSet set hset).mono (List.sublist_append_left _ _).length_le

theorem doMatchWait (h : InRange s) (env : Env) (timeout : String) :
    InRange (s.doMatchWait env timeout) := by
  have hset : InRange { s with matchSet? := MatchSet.ofEntries? s.targets } :=
    ⟨h.walk, h.gosubs, fun _ hset => MatchSet.inRange_of_ofEntries? hset⟩
  unfold Script.doMatchWait
  dsimp only
  split
  · exact ((hset.setTimer env _ .matchTimeout).debug .waits _).await .someMatch
  · exact (hset.debug .waits _).await .someMatch

/-! ## Jumps -/

theorem countJump (h : InRange s) (env : Env) : InRange (countJump env s).2 := by
  have hcounted : InRange (s.counted env) := h.of_samePlaces ⟨rfl, rfl, rfl, rfl⟩
  exact hcounted.of_sameStand (sameStand_countJump env s)

/-- What a subroutine restores was in range when it was taken down, and the program is still the
same. -/
theorem leave (h : InRange s) (env : Env) : InRange (leave env s).2 := by
  have hgosubs := h.gosubs
  have hresult := leaveResult env s
  generalize Script.leave env s = r at hresult ⊢
  cases hresult with
  | unopened => exact h.report _
  | @tripped frame outer heq =>
    rw [heq, List.forall_mem_cons] at hgosubs
    have hpop : InRange { s with gosubs := outer } := ⟨h.walk, hgosubs.2, h.matchSet⟩
    exact hpop.countJump env
  | @back frame outer heq =>
    rw [heq, List.forall_mem_cons] at hgosubs
    have hwalk : ({ s.walk with ifs := frame.ifs } : Walk).InRange :=
      ⟨h.walk.next, hgosubs.1.ifs⟩
    refine InRange.of_sameStand ?_ (sameStand_returned frame _)
    exact ⟨hwalk.moveTo frame.next, hgosubs.2, h.matchSet⟩

theorem goto (h : InRange s) (env : Env) (label : String) (args : LabelArgs) :
    InRange (goto env label args s).2 := by
  have hresult := gotoResult env label args s
  generalize Script.goto env label args s = r at hresult ⊢
  cases hresult with
  | leaves => exact h.leave env
  | lost => exact h.report _
  | tripped => exact h.countJump env
  | @lands target =>
    have hwalk : ({ s.walk with ifs := [] } : Walk).InRange :=
      ⟨h.walk.next, List.forall_mem_nil _⟩
    refine InRange.of_sameStand ?_ (sameStand_arrived env _ target args _)
    exact ⟨hwalk.moveTo target.line, h.gosubs, nofun⟩

theorem gosub (h : InRange s) (env : Env) (label args : String) :
    InRange (gosub env label args s).2 := by
  have hgoto := h.goto env label (.text args)
  have hprogram := (s.speaks_goto env label (.text args)).program
  have hresult := gosubResult env label args s
  generalize Script.gosub env label args s = r at hresult ⊢
  cases hresult with
  | forgets => exact ⟨h.walk, List.forall_mem_nil _, h.matchSet⟩
  | full => exact h.report _
  | opens =>
    refine ⟨hgoto.walk, List.forall_mem_cons.mpr ⟨?_, hgoto.gosubs⟩, hgoto.matchSet⟩
    dsimp only
    rw [hprogram]
    exact ⟨h.walk.next, h.walk.ifs⟩
  | fails => exact hgoto

/-! ## Conditionals -/

theorem enterBlock (h : InRange s) (brace : BracePlace) : (s.enterBlock brace).2.walk.InRange := by
  cases brace with
  | here => exact h.walk
  | nextLine =>
    rw [Script.enterBlock, takeBrace]
    split
    · exact h.walk.moveTo _
    · exact h.walk

theorem decideHead (h : InRange s) (env : Env) (head : Head) :
    InRange (s.decideHead env head).2 :=
  h.of_sameStand (s.sameStand_decideHead env head)

theorem openFrame (h : InRange s) {frame : Frame}
    (hframe : frame.line < s.walk.program.lines.size) : InRange (s.openFrame frame) :=
  h.of_sameButPlace ((SameButPlace.refl s).withWalk rfl) (h.walk.push hframe)

theorem replaceFrame (h : InRange s) {frame : Frame}
    (hframe : frame.line < s.walk.program.lines.size) : InRange (s.replaceFrame frame) :=
  h.of_sameButPlace ((SameButPlace.refl s).withWalk rfl) (h.walk.replaceTop hframe)

theorem openIf (h : InRange s) (env : Env) (head : Head) (brace : BracePlace) {idx : Nat}
    (hidx : idx < s.walk.program.lines.size) : InRange (openIf env head brace idx s).2 := by
  refine h.of_sameButPlace (SameButPlace.openIf env head brace idx s) ?_
  have htest := s.sameStand_decideHead env head
  have hframe : InRange
      ((s.decideHead env head).2.openFrame ⟨idx, (s.decideHead env head).1⟩) :=
    (h.decideHead env head).openFrame (by rw [htest.walk]; exact hidx)
  have henter := hframe.enterBlock brace
  unfold Script.openIf
  dsimp only
  split
  · next t heq => rw [heq] at henter; exact henter
  · next t heq => rw [heq] at henter; exact henter

theorem openElse (h : InRange s) (env : Env) (head : Head) (brace : BracePlace) {idx : Nat}
    (hidx : idx < s.walk.program.lines.size) : InRange (openElse env head brace idx s).2 := by
  have hsame := (SameButPlace.refl s).enterBlock brace
  have henter := h.of_sameButPlace hsame (h.enterBlock brace)
  have hlt : idx < (s.enterBlock brace).2.walk.program.lines.size := by
    rw [hsame.program]
    exact hidx
  unfold Script.openElse
  split
  · next t heq => rw [heq] at henter; exact henter
  · next t heq =>
    rw [heq] at henter hlt
    split
    · exact (henter.report _).openFrame hlt
    · split
      · exact henter.replaceFrame hlt
      · refine (henter.decideHead env head).replaceFrame ?_
        rw [(t.sameStand_decideHead env head).walk]
        exact hlt

theorem enterSingle (h : InRange s) (env : Env) (head : Head) {idx : Nat}
    (hidx : idx < s.walk.program.lines.size) : InRange (enterSingle env head idx s).2 := by
  have htest := h.decideHead env head
  have hlt : idx < (s.decideHead env head).2.walk.program.lines.size := by
    rw [(s.sameStand_decideHead env head).walk]
    exact hidx
  cases head with
  | ifHolds | ifArgs => exact htest.openFrame hlt
  | elseIf | otherwise =>
    rw [Script.enterSingle]
    split
    · exact h.report _
    · split
      · exact h.replaceFrame hidx
      · exact htest.replaceFrame hlt

theorem skipRivals (h : InRange s) (head : Head) : InRange (s.skipRivals head) := by
  refine h.of_sameButPlace (SameButPlace.skipRivals head s) ?_
  cases head <;> exact h.walk.skipWhile _

theorem closeBlock (h : InRange s) : InRange s.closeBlock.2 := by
  refine h.of_sameButPlace (SameButPlace.closeBlock s) ?_
  rw [Script.closeBlock]
  split
  · exact h.walk
  · next top outer heq =>
    have hifs := h.walk.ifs
    rw [heq, List.forall_mem_cons] at hifs
    exact ⟨h.walk.next, hifs.2⟩

theorem closeSingle (h : InRange s) (line : Line) (statement : Statement) :
    InRange (s.closeSingle line statement) := by
  refine h.of_sameButPlace (SameButPlace.closeSingle line statement s) ?_
  unfold Script.closeSingle
  split
  · exact h.walk
  · exact iteInduction (motive := fun u : Script => u.walk.InRange) (fun _ => h.walk.pop)
      fun _ => h.walk

/-! ## Statements -/

/-- **No statement leaves a place that does not exist.** -/
theorem execute (h : InRange s) (env : Env) (statement : Statement) :
    InRange (execute env statement s).2 := by
  induction statement generalizing s with
  | single head body ih =>
    rw [Script.execute]
    split
    · exact h
    · next idx hidx =>
      have henter := h.enterSingle env head (Walk.lt_size_of_index? hidx)
      split
      · next t heq => rw [heq] at henter; exact henter
      · next t heq =>
        rw [heq] at henter
        dsimp only
        split
        · exact (ih henter).skipRivals head
        · exact ih henter
  | block head brace =>
    rw [Script.execute]
    split
    · exact h
    · next idx hidx =>
      have hlt := Walk.lt_size_of_index? hidx
      cases head with
      | ifHolds | ifArgs => exact h.openIf env _ brace hlt
      | elseIf | otherwise => exact h.openElse env _ brace hlt
  | rightBrace => exact h.closeBlock
  | goto label args => exact h.goto env label (.text args)
  | gosub label args => exact h.gosub env label args
  | leave => exact h.leave env
  | exit => exact h
  | nextRoom | waitFor | waitForRegex | waitPrompt | waitEval => exact (h.debug .waits _).await _
  | move => exact ((h.of_sameStand (s.sameStand_emit _)).debug .waits _).await _
  | pause => exact (h.debug .waits _).setTimer env _ .pause
  | matchText | matchRegex => exact h.addTarget _
  | matchWait timeout => exact h.doMatchWait env timeout
  | _ => exact h.of_sameStand (s.execute_sameStand env (by rfl)).2

/-! ## Passing over lines -/

theorem skipBlock (h : InRange s) : InRange s.skipBlock.2 := by
  have hskip := h.walk.skipBlock
  have hprogram := Walk.program_skipBlock s.walk
  have hwith {walk : Walk} (hwalk : walk.InRange) (hp : walk.program = s.walk.program) :
      InRange { s with walk := walk } :=
    h.of_sameButPlace ((SameButPlace.refl s).withWalk hp) hwalk
  unfold Script.skipBlock
  split
  · next walk heq => rw [heq] at hskip hprogram; exact hwith hskip hprogram
  · next walk heq => rw [heq] at hskip hprogram; exact hwith hskip hprogram
  · next walk heq =>
    rw [heq] at hskip hprogram
    dsimp only
    refine hwith ?_ ?_
    · exact iteInduction (motive := Walk.InRange) (fun _ => hskip) fun _ => hskip.pop
    · exact iteInduction (motive := fun w : Walk => w.program = s.walk.program)
        (fun _ => hprogram) fun _ => hprogram

theorem skipChain (h : InRange s) : InRange s.skipChain.2 :=
  h.of_sameButPlace ((SameButPlace.refl s).withWalk s.walk.next_le_of_skipChain.1)
    h.walk.skipChain

/-! ## Lines -/

theorem runLine (h : InRange s) (env : Env) : InRange (runLine env s).2 := by
  unfold Script.runLine
  split
  · exact h
  · next line _ =>
    have hremember : InRange (s.remember line) := h.of_sameStand (s.sameStand_remember line)
    dsimp only
    split
    · exact hremember.report _
    · exact (hremember.closeSingle line _).execute env _

end InRange

/-! ## Entries that a line satisfies -/

theorem firstRegex?_eq_none_iff {line : String} {idx : Nat} {entries : List MatchEntry} :
    firstRegex? env line none idx entries = none ↔
      ∀ label pattern, .regex label pattern ∈ entries → env.matcher.regex line pattern = none := by
  induction entries generalizing idx with
  | nil => exact iff_of_true rfl nofun
  | cons entry rest ih =>
    rw [firstRegex?.eq_def]
    simp only [Option.any_none, Bool.false_eq_true, if_false]
    cases entry with
    | literal label text => simp [ih]
    | regex label pattern =>
      dsimp only
      cases hfound : env.matcher.regex line pattern with
      | some caps =>
        refine iff_of_false nofun fun hnone => ?_
        rw [hnone label pattern (List.mem_cons_self ..)] at hfound
        cases hfound
      | none =>
        refine ih.trans ⟨fun hnone label' pattern' hmem => ?_, fun hnone label' pattern' hmem =>
          hnone label' pattern' (List.mem_cons_of_mem _ hmem)⟩
        obtain hfirst | hrest := List.mem_cons.mp hmem
        · cases hfirst
          exact hfound
        · exact hnone label' pattern' hrest

theorem lt_of_firstRegex? {line : String} {limit : Option Nat} {idx place : Nat} {caps : Captures}
    {entries : List MatchEntry} (h : firstRegex? env line limit idx entries = some (place, caps)) :
    place < idx + entries.length := by
  induction entries generalizing idx with
  | nil => cases h
  | cons entry rest ih =>
    have hrest (hr : firstRegex? env line limit (idx + 1) rest = some (place, caps)) :
        place < idx + (entry :: rest).length := by
      have hlt := ih hr
      rw [List.length_cons]
      omega
    rw [firstRegex?.eq_def] at h
    dsimp only at h
    split at h
    · cases h
    · cases entry with
      | literal label text => exact hrest h
      | regex label pattern =>
        dsimp only at h
        split at h
        · cases h
          rw [List.length_cons]
          omega
        · exact hrest h

/-- A line that satisfies none of the entries of a script. -/
structure NothingMatches (env : Env) (line : String) (s : Script) : Prop where
  literals : ∀ set, s.matchSet? = some set → set.literals.firstMatch? line = none
  regexes : ∀ label pattern, .regex label pattern ∈ s.targets →
    env.matcher.regex line pattern = none

/-- **An entry that is found is there**: only where a line satisfies nothing is nothing found. -/
theorem InRange.findMatch?_eq_none_iff (h : InRange s) {line : String} :
    findMatch? env line s = none ↔ s.NothingMatches env line := by
  have hthere {place : Nat} (hlt : place < s.targets.length)
      (answer : MatchEntry → String × Captures) : s.targets[place]?.map answer ≠ none := by
    rw [List.getElem?_eq_getElem hlt]
    exact Option.some_ne_none _
  unfold findMatch?
  dsimp only
  cases hliteral : s.matchSet?.bind fun set => set.firstPlace? line with
  | none =>
    have hliterals : ∀ set, s.matchSet? = some set → set.literals.firstMatch? line = none := by
      intro set hset
      rw [hset, Option.bind_some] at hliteral
      exact (h.matchSet set hset).firstPlace?_eq_none_iff.mp hliteral
    cases hregex : firstRegex? env line none 0 s.targets with
    | none =>
      exact iff_of_true rfl ⟨hliterals, firstRegex?_eq_none_iff.mp hregex⟩
    | some found =>
      refine iff_of_false (hthere (by simpa using lt_of_firstRegex? hregex) _) fun hno => ?_
      rw [firstRegex?_eq_none_iff.mpr hno.regexes] at hregex
      cases hregex
  | some place =>
    obtain ⟨set, hset, hplace⟩ := Option.bind_eq_some_iff.mp hliteral
    have hlt : place < s.targets.length := (h.matchSet set hset).lt_of_firstPlace? hplace
    refine iff_of_false ?_ fun hno => ?_
    · cases hregex : firstRegex? env line (some place) 0 s.targets with
      | none => exact hthere hlt _
      | some found => exact hthere (by simpa using lt_of_firstRegex? hregex) _
    · rw [(h.matchSet set hset).firstPlace?_eq_none_iff.mpr (hno.literals set hset)] at hplace
      cases hplace

end Script

end StreamScript
