import StreamScript.Proofs.Events.Happenings

/-!
# Entries that are registered late

The entries that a script waits for are kept twice: as a list, and once more in a
set of the literal ones, which is made when the wait begins.  Only this set is asked
for literals, while patterns are always looked for in the list.  An action can
register entries while the script waits already, and then the two no longer agree.

`Gathered` says what they have in common in every state that calls lead to: the set
was made of a front part of the list.  What a line is taken to satisfy is therefore
the first entry of that part which it does satisfy or else the first pattern among
the late ones (`findMatch?_eq`).  A late literal is never found, so that the script
goes to the first entry satisfied exactly where this is not one of them
(`first_entry_heeded_iff`).
-/

namespace StreamScript

open Text

/-! ## Entries and lines -/

namespace MatchEntry

/-- Whether an entry is a literal. -/
def isLiteral : MatchEntry → Bool
  | .literal .. => true
  | .regex .. => false

/-- Whether a line satisfies an entry. -/
def isMet (env : Env) (line : String) : MatchEntry → Bool
  | .literal _ text => occursIn text line
  | .regex _ pattern => (env.matcher.regex line pattern).isSome

@[simp] theorem isLiteral_literal (label text : String) : (literal label text).isLiteral = true :=
  rfl

@[simp] theorem isLiteral_regex (label pattern : String) :
    (regex label pattern).isLiteral = false :=
  rfl

@[simp] theorem isMet_literal (env : Env) (line label text : String) :
    (literal label text).isMet env line = occursIn text line :=
  rfl

@[simp] theorem isMet_regex (env : Env) (line label pattern : String) :
    (regex label pattern).isMet env line = (env.matcher.regex line pattern).isSome :=
  rfl

/-- What the label of an entry is given when a line satisfies it. -/
def captures (env : Env) (line : String) : MatchEntry → Captures
  | .literal _ text => [text]
  | .regex _ pattern => (env.matcher.regex line pattern).getD []

end MatchEntry

/-! ## Where a search ends -/

section Search

variable {α : Type} {p q : α → Bool}

theorem filter_map_succ (found limit : Option Nat) :
    ((found.map (· + 1)).filter fun j => !(limit.map (· + 1)).any (· ≤ j)) =
      (found.filter fun j => !limit.any (· ≤ j)).map (· + 1) := by
  cases found <;> cases limit <;> simp [Option.filter]

/-- One of two things is searched in front alone, the other everywhere, and only up to where the
first was found.  This finds whichever is first in front, and else the other behind. -/
theorem findIdx?_or_eq (hpq : ∀ x, p x = true → q x = false) (front back : List α) :
    (((front ++ back).findIdx? q).filter fun j => !(front.findIdx? p).any (· ≤ j)).or
        (front.findIdx? p) =
      (front.findIdx? fun x => p x || q x).or ((back.findIdx? q).map (· + front.length)) := by
  induction front with
  | nil => cases h : back.findIdx? q <;> simp [h]
  | cons x front ih =>
    rw [List.cons_append, List.findIdx?_cons, List.findIdx?_cons, List.findIdx?_cons]
    by_cases hp : p x = true
    · simp [hp, hpq x hp]
    · rw [Bool.not_eq_true] at hp
      by_cases hq : q x = true
      · cases front.findIdx? p <;> simp [hp, hq, Option.filter]
      · rw [Bool.not_eq_true] at hq
        simp only [hp, hq, Bool.or_false, Bool.false_eq_true, if_false]
        rw [filter_map_succ, ← Option.map_or, ih, Option.map_or, Option.map_map]
        rfl

/-- Leaving out some things makes no difference exactly where the first that is found is not one of
them. -/
theorem findIdx?_and_eq_iff {xs : List α} :
    (xs.findIdx? fun x => q x && p x) = xs.findIdx? p ↔
      ∀ i x, xs.findIdx? p = some i → xs[i]? = some x → q x = true := by
  constructor
  · intro h i x hi hx
    obtain ⟨hlt, hboth, -⟩ := List.findIdx?_eq_some_iff_getElem.mp (h.trans hi)
    rw [List.getElem?_eq_getElem hlt] at hx
    obtain rfl := Option.some.inj hx
    exact (Bool.and_eq_true_iff.mp hboth).1
  · intro h
    cases hfound : xs.findIdx? p with
    | none =>
      refine List.findIdx?_eq_none_iff.mpr fun x hx => ?_
      rw [List.findIdx?_eq_none_iff.mp hfound x hx, Bool.and_false]
    | some i =>
      obtain ⟨hlt, hi, hbefore⟩ := List.findIdx?_eq_some_iff_getElem.mp hfound
      refine List.findIdx?_eq_some_iff_getElem.mpr ⟨hlt, ?_, fun j hj hboth => ?_⟩
      · rw [hi, h i _ hfound (List.getElem?_eq_getElem hlt)]
        rfl
      · exact hbefore j hj (Bool.and_eq_true_iff.mp hboth).2

end Search

/-! ## The two copies -/

/-- A place counted from `idx` behind one thing is counted from the next behind none. -/
theorem map_add_one_add (found : Option Nat) (idx : Nat) :
    (found.map (· + 1)).map (· + idx) = found.map (· + (idx + 1)) := by
  cases found with
  | none => rfl
  | some i => exact congrArg some ((Nat.add_assoc i 1 idx).trans (by rw [Nat.add_comm 1 idx]))

namespace MatchSet

theorem findIdx?_literalsFrom (env : Env) (line : String) (idx : Nat)
    (entries : List MatchEntry) :
    (((literalsFrom idx entries).map (·.1)).findIdx? fun text => occursIn text line).bind
        (fun i => ((literalsFrom idx entries).map (·.2))[i]?) =
      (entries.findIdx? fun entry => entry.isLiteral && entry.isMet env line).map (· + idx) := by
  induction entries generalizing idx with
  | nil => rfl
  | cons entry rest ih =>
    rw [List.findIdx?_cons]
    cases entry with
    | literal label text =>
      rw [literalsFrom, List.map_cons, List.map_cons, List.findIdx?_cons]
      by_cases htext : occursIn text line = true
      · simp [htext]
      · rw [if_neg htext, MatchEntry.isLiteral_literal, Bool.true_and, MatchEntry.isMet_literal,
          if_neg htext, map_add_one_add, ← ih, Option.bind_map]
        rfl
    | regex label pattern =>
      rw [literalsFrom, MatchEntry.isLiteral_regex, Bool.false_and, if_neg Bool.false_ne_true,
        map_add_one_add, ← ih]

/-- The set of the literals of some entries finds the first of them that a line satisfies. -/
theorem firstPlace?_ofEntries? (env : Env) (line : String) (entries : List MatchEntry) :
    ((ofEntries? entries).bind fun set => set.firstPlace? line) =
      entries.findIdx? fun entry => entry.isLiteral && entry.isMet env line := by
  have hsearch := findIdx?_literalsFrom env line 0 entries
  have hzero : (fun i : Nat => i + 0) = id := rfl
  rw [hzero, Option.map_id_fun, id] at hsearch
  rw [← hsearch, ofEntries?]
  cases literalsFrom 0 entries with
  | nil => rfl
  | cons found rest => rfl

end MatchSet

namespace Script

variable {env : Env} {line : String} {s t : Script} {n : Nat}

/-- A pattern is looked for in front of a place only. -/
theorem map_fst_firstRegex? (limit : Option Nat) (idx : Nat) (entries : List MatchEntry) :
    (firstRegex? env line limit idx entries).map (·.1) =
      ((entries.findIdx? fun entry => !entry.isLiteral && entry.isMet env line).map
        (· + idx)).filter fun j => !limit.any (· ≤ j) := by
  induction entries generalizing idx with
  | nil => rfl
  | cons entry rest ih =>
    rw [firstRegex?.eq_def, List.findIdx?_cons]
    dsimp only
    by_cases hlimit : limit.any (· ≤ idx) = true
    · -- whatever is found stands here or behind, and so does the place that is not to be reached
      obtain ⟨k, rfl⟩ : ∃ k, limit = some k := by
        cases limit with
        | none => cases hlimit
        | some k => exact ⟨k, rfl⟩
      have hk : k ≤ idx := of_decide_eq_true hlimit
      rw [if_pos hlimit, Option.map_none, eq_comm, Option.filter_eq_none_iff]
      intro j hj hnot
      obtain ⟨i, -, rfl⟩ := Option.map_eq_some_iff.mp hj
      have hle : k ≤ i + idx := by omega
      simp [hle] at hnot
    · rw [if_neg hlimit]
      cases entry with
      | literal label text =>
        rw [MatchEntry.isLiteral_literal, Bool.not_true, Bool.false_and, if_neg Bool.false_ne_true,
          map_add_one_add]
        exact ih (idx + 1)
      | regex label pattern =>
        rw [MatchEntry.isLiteral_regex, Bool.not_false, Bool.true_and, MatchEntry.isMet_regex]
        dsimp only
        cases env.matcher.regex line pattern with
        | some caps => simp [Option.filter, hlimit]
        | none =>
          rw [Option.isSome_none, if_neg Bool.false_ne_true, map_add_one_add]
          exact ih (idx + 1)

/-- A pattern that is found is the one at its place, with what it captured. -/
theorem regex_of_firstRegex? {limit : Option Nat} {idx place : Nat} {caps : Captures}
    {entries : List MatchEntry} (h : firstRegex? env line limit idx entries = some (place, caps)) :
    ∃ label pattern, entries[place - idx]? = some (.regex label pattern) ∧ idx ≤ place ∧
      env.matcher.regex line pattern = some caps := by
  induction entries generalizing idx with
  | nil => cases h
  | cons entry rest ih =>
    have hrest (hr : firstRegex? env line limit (idx + 1) rest = some (place, caps)) :
        ∃ label pattern, (entry :: rest)[place - idx]? = some (.regex label pattern) ∧
          idx ≤ place ∧ env.matcher.regex line pattern = some caps := by
      obtain ⟨label, pattern, hget, hle, hcaps⟩ := ih hr
      have hsucc : place - idx = place - (idx + 1) + 1 := by omega
      exact ⟨label, pattern, by rw [hsucc]; exact hget, by omega, hcaps⟩
    rw [firstRegex?.eq_def] at h
    dsimp only at h
    split at h
    · cases h
    · cases entry with
      | literal label text => exact hrest h
      | regex label pattern =>
        dsimp only at h
        split at h
        · next found hfound =>
          cases h
          exact ⟨label, pattern, by rw [Nat.sub_self]; rfl, Nat.le_refl _, hfound⟩
        · exact hrest h

/-! ## What is found -/

/-- The place of the entry that a line is taken to satisfy: the first that it does among those
registered before the wait, or else the first pattern among the late ones. -/
def heard? (env : Env) (line : String) (registered late : List MatchEntry) : Option Nat :=
  (registered.findIdx? (·.isMet env line)).or
    ((late.findIdx? fun entry => !entry.isLiteral && entry.isMet env line).map
      (· + registered.length))

/-- The place is that of the first pattern that comes before the first literal of the set, or else
of this literal. -/
theorem or_firstPlace?_eq (env : Env) (line : String) {registered late : List MatchEntry}
    (htargets : s.targets = registered ++ late)
    (hset : s.matchSet? = MatchSet.ofEntries? registered) :
    let literal? := s.matchSet?.bind fun set => set.firstPlace? line
    literal? = (registered.findIdx? fun entry => entry.isLiteral && entry.isMet env line) ∧
      ((firstRegex? env line literal? 0 s.targets).map (·.1)).or literal? =
        heard? env line registered late := by
  intro literal?
  have hliteral : literal? =
      registered.findIdx? fun entry => entry.isLiteral && entry.isMet env line := by
    rw [← MatchSet.firstPlace?_ofEntries? env line registered, ← hset]
  have hzero : (fun i : Nat => i + 0) = id := rfl
  have heither : (fun entry : MatchEntry => entry.isLiteral && entry.isMet env line ||
      !entry.isLiteral && entry.isMet env line) = (·.isMet env line) := by
    funext entry
    cases entry.isLiteral <;> simp
  refine ⟨hliteral, ?_⟩
  rw [map_fst_firstRegex?, hzero, Option.map_id_fun, id, hliteral, htargets, findIdx?_or_eq,
    heither, heard?]
  intro entry hentry
  rw [(Bool.and_eq_true_iff.mp hentry).1]
  rfl

/-- **What a search among the entries finds**, when the set was made of a front part of them. -/
theorem findMatch?_eq {registered late : List MatchEntry}
    (htargets : s.targets = registered ++ late)
    (hset : s.matchSet? = MatchSet.ofEntries? registered) :
    findMatch? env line s =
      ((heard? env line registered late).bind (s.targets[·]?)).map fun entry =>
        (entry.label, entry.captures env line) := by
  obtain ⟨hliteral, hplace⟩ := or_firstPlace?_eq env line htargets hset
  rw [← hplace, findMatch?]
  dsimp only
  generalize (s.matchSet?.bind fun set => set.firstPlace? line) = literal? at hliteral ⊢
  cases hregex : firstRegex? env line literal? 0 s.targets with
  | some found =>
    obtain ⟨place, caps⟩ := found
    obtain ⟨label, pattern, hget, -, hcaps⟩ := regex_of_firstRegex? hregex
    rw [Nat.sub_zero] at hget
    simp [hget, MatchEntry.label, MatchEntry.captures, hcaps]
  | none =>
    cases literal? with
    | none => rfl
    | some place =>
      obtain ⟨hlt, hmet, -⟩ := List.findIdx?_eq_some_iff_getElem.mp hliteral.symm
      have hget : s.targets[place]? = some registered[place] := by
        rw [htargets, List.getElem?_append_left hlt, List.getElem?_eq_getElem hlt]
      have hthere := (Bool.and_eq_true_iff.mp hmet).1
      cases hentry : registered[place] with
      | literal label text =>
        rw [hentry] at hget
        simp [hget, MatchEntry.label, MatchEntry.captures]
      | regex label pattern =>
        rw [hentry] at hthere
        cases hthere

/-- The first entry satisfied is found exactly where it is not a late literal. -/
theorem heard?_eq_findIdx?_iff {registered late : List MatchEntry} :
    heard? env line registered late = (registered ++ late).findIdx? (·.isMet env line) ↔
      ∀ i entry, (registered ++ late).findIdx? (·.isMet env line) = some i →
        (registered ++ late)[i]? = some entry → registered.length ≤ i →
          entry.isLiteral = false := by
  rw [heard?, List.findIdx?_append]
  cases hfront : registered.findIdx? (·.isMet env line) with
  | some place =>
    refine iff_of_true rfl fun i entry hi _ hle => ?_
    have hlt := (List.findIdx?_eq_some_iff_getElem.mp hfront).1
    obtain rfl := Option.some.inj hi
    omega
  | none =>
    have hinj : Function.Injective (Option.map fun i : Nat => i + registered.length) :=
      Option.map_injective fun i j hij => Nat.add_right_cancel hij
    have hget (i : Nat) : (registered ++ late)[i + registered.length]? = late[i]? := by
      rw [List.getElem?_append_right (Nat.le_add_left _ _), Nat.add_sub_cancel]
    rw [Option.none_or, Option.none_or, hinj.eq_iff, findIdx?_and_eq_iff]
    constructor
    · intro h i entry hi hentry _
      obtain ⟨j, hj, rfl⟩ := Option.map_eq_some_iff.mp hi
      rw [hget] at hentry
      exact Bool.not_eq_true' _ ▸ h j entry hj hentry
    · intro h i entry hi hentry
      have hliteral := h (i + registered.length) entry (by rw [hi]; rfl)
        (by rw [hget, hentry]) (Nat.le_add_left _ _)
      rw [hliteral]
      rfl

/-! ## Late entries -/

/-- The set was made of so many entries, which others may have followed. -/
structure Gathered (registered late : List MatchEntry) (s : Script) : Prop where
  targets : s.targets = registered ++ late
  matchSet : s.matchSet? = MatchSet.ofEntries? registered

theorem Gathered.of_same {registered late : List MatchEntry} (h : Gathered registered late s)
    (htargets : t.targets = s.targets) (hset : t.matchSet? = s.matchSet?) :
    Gathered registered late t :=
  ⟨htargets.trans h.targets, hset.trans h.matchSet⟩

/-- When a wait for entries begins, none of them is late. -/
theorem gathered_doMatchWait (env : Env) (timeout : String) (s : Script) :
    Gathered s.targets [] (s.doMatchWait env timeout) := by
  have hall : Gathered s.targets [] { s with matchSet? := MatchSet.ofEntries? s.targets } :=
    ⟨(List.append_nil _).symm, rfl⟩
  unfold doMatchWait
  dsimp only
  -- the timer, if there is one, is no part of the entries
  split
  all_goals
    refine hall.of_same ?_ ?_
    · exact (sameStand_debug _ .waits _).targets
    · exact (sameStand_debug _ .waits _).matchSet

/-- The set was made of a front part of the entries. -/
def HasGathered (s : Script) : Prop :=
  ∃ registered late, Gathered registered late s

namespace HasGathered

theorem of_same (h : HasGathered s) (htargets : t.targets = s.targets)
    (hset : t.matchSet? = s.matchSet?) : HasGathered t := by
  obtain ⟨registered, late, hgathered⟩ := h
  exact ⟨registered, late, hgathered.of_same htargets hset⟩

theorem of_sameStand (h : HasGathered s) (hsame : SameStand s t) : HasGathered t :=
  h.of_same hsame.targets hsame.matchSet

theorem of_sameButPlace (h : HasGathered s) (hsame : SameButPlace s t) : HasGathered t :=
  h.of_same hsame.targets hsame.matchSet

/-- Without entries there is no set. -/
theorem of_nil (htargets : s.targets = []) (hset : s.matchSet? = none) : HasGathered s :=
  ⟨[], [], htargets, hset⟩

theorem clearWaits (s : Script) : HasGathered s.clearWaits :=
  of_nil rfl rfl

theorem debug (h : HasGathered s) (level : DebugLevel) (message : String) :
    HasGathered (s.debug level message) :=
  h.of_sameStand (s.sameStand_debug level message)

theorem report (h : HasGathered s) (message : String) : HasGathered (s.report message) :=
  h.of_sameStand (s.sameStand_report message)

/-! ### Waits -/

theorem await (h : HasGathered s) (wait : Wait) : HasGathered (s.await wait).2 :=
  h.of_same rfl rfl

theorem setTimer (h : HasGathered s) (env : Env) (seconds : Float) (kind : TimerKind) :
    HasGathered (s.setTimer env seconds kind) :=
  h.of_same rfl rfl

/-- An entry that is added is a late one. -/
theorem addTarget (h : HasGathered s) (entry : MatchEntry) :
    HasGathered { s with targets := s.targets ++ [entry] } := by
  obtain ⟨registered, late, htargets, hset⟩ := h
  exact ⟨registered, late ++ [entry], by rw [htargets, List.append_assoc], hset⟩

/-- When a wait begins, all entries that are there are gathered. -/
theorem doMatchWait (env : Env) (timeout : String) (s : Script) :
    HasGathered (s.doMatchWait env timeout) :=
  ⟨s.targets, [], gathered_doMatchWait env timeout s⟩

/-! ### Jumps -/

theorem countJump (h : HasGathered s) (env : Env) : HasGathered (countJump env s).2 := by
  have hcounted : HasGathered (s.counted env) := h.of_same rfl rfl
  exact hcounted.of_sameStand (sameStand_countJump env s)

theorem leave (h : HasGathered s) (env : Env) : HasGathered (leave env s).2 := by
  have hpop (outer : List Gosub) : HasGathered { s with gosubs := outer } := h.of_same rfl rfl
  have hresult := leaveResult env s
  generalize Script.leave env s = r at hresult ⊢
  cases hresult with
  | unopened => exact h.report _
  | tripped => exact (hpop _).countJump env
  | back =>
    refine HasGathered.of_sameStand ?_ (sameStand_returned _ _)
    exact h.of_same rfl rfl

theorem goto (h : HasGathered s) (env : Env) (label : String) (args : LabelArgs) :
    HasGathered (goto env label args s).2 := by
  have hresult := gotoResult env label args s
  generalize Script.goto env label args s = r at hresult ⊢
  cases hresult with
  | leaves => exact h.leave env
  | lost => exact h.report _
  | tripped => exact h.countJump env
  | lands => exact HasGathered.of_sameStand (of_nil rfl rfl) (sameStand_arrived ..)

theorem gosub (h : HasGathered s) (env : Env) (label args : String) :
    HasGathered (gosub env label args s).2 := by
  have hgoto := h.goto env label (.text args)
  have hresult := gosubResult env label args s
  generalize Script.gosub env label args s = r at hresult ⊢
  cases hresult with
  | forgets => exact h.of_same rfl rfl
  | full => exact h.report _
  | opens => exact hgoto.of_same rfl rfl
  | fails => exact hgoto

/-! ### Statements -/

/-- No statement makes the set miss an entry that was there when the wait began. -/
theorem execute (h : HasGathered s) (env : Env) (statement : Statement) :
    HasGathered (execute env statement s).2 := by
  have hkept : KeptByConditionals env fun s t => HasGathered s → HasGathered t :=
    SameButPlace.keeps env (fun hsame h => h.of_sameButPlace hsame) fun h h' hs => h' (h hs)
  induction statement generalizing s with
  | single head body ih => exact hkept.single (fun _ h => ih h) head s h
  | block head brace => exact hkept.block head brace s h
  | rightBrace => exact hkept.closeBlock s h
  | goto label args => exact h.goto env label (.text args)
  | gosub label args => exact h.gosub env label args
  | leave => exact h.leave env
  | exit => exact h
  | nextRoom | waitFor | waitForRegex | waitPrompt | waitEval => exact (h.debug .waits _).await _
  | move => exact ((h.of_sameStand (s.sameStand_emit _)).debug .waits _).await _
  | pause => exact (h.debug .waits _).setTimer env _ .pause
  | matchText | matchRegex => exact h.addTarget _
  | matchWait timeout => exact doMatchWait env timeout s
  | _ => exact h.of_sameStand (s.execute_sameStand env (by rfl)).2

theorem runLine (h : HasGathered s) (env : Env) : HasGathered (runLine env s).2 := by
  unfold Script.runLine
  split
  · exact h
  · next line _ =>
    have hremember := h.of_sameStand (s.sameStand_remember line)
    dsimp only
    split
    · exact hremember.report _
    · exact (hremember.of_sameButPlace (SameButPlace.closeSingle line _ _)).execute env _

/-! ### Calls -/

/-- **The set is always made of a front part of the entries**, whatever happens. -/
theorem happens (h : HasGathered s) (hhappens : Happens env s n t) : HasGathered t := by
  cases hhappens with
  | begin | wake | postpone | calm | setTimer => exact h.of_same rfl rfl
  | pause hphase =>
    rw [Script.pause, hphase]
    exact h.of_same rfl rfl
  | cancel =>
    rw [Script.cancel]
    split
    · exact h
    · exact of_nil rfl rfl
  | line => exact (h.of_same (t := s.behindLine) rfl rfl).runLine env
  | skipBlock =>
    rw [skipBlock_eq]
    exact h.of_same rfl rfl
  | skipChain => exact h.of_same rfl rfl
  | order o =>
    rw [Order.outcome]
    split
    · exact h.report _
    · next statement _ =>
      have hverbatim := h.of_sameStand (o.script.sameStand_setVerbatim true)
      exact (hverbatim.execute env statement).of_sameStand (sameStand_setVerbatim _ false)
  | entry label caps => exact h.goto env label (.groups caps)
  | note _ hstand _ => exact h.of_sameStand hstand
  | clearWaits => exact clearWaits s

theorem happenings (h : HasGathered s) (hhappenings : Happenings env s t) : HasGathered t := by
  induction hhappenings with
  | refl => exact h
  | tail _ hlast ih =>
    obtain ⟨n, hhappens⟩ := hlast
    exact ih.happens hhappens

theorem apply (h : HasGathered s) (env : Env) (call : Call) : HasGathered (call.apply env s) :=
  h.happenings (happenings_apply env call s)

theorem calls {moments : List Moment} (h : HasGathered s) (hcalls : Calls s moments t) :
    HasGathered t := by
  induction hcalls with
  | nil => exact h
  | cons _ _ ih => exact ih (h.apply _ _)

end HasGathered

/-! ## The entry that a script goes to -/

/-- A line sets off no action of a script. -/
def SetsOffNothing (env : Env) (line : String) (s : Script) : Prop :=
  ∀ action ∈ s.actions, action.enabled = true →
    env.matcher.regex line (s.scopes.substituteAction env.globals action.pattern) = none

theorem trigger_of_no_match {actions : List Action} (jumped : Bool)
    (h : ∀ action ∈ actions,
      env.matcher.regex line (s.scopes.substituteAction env.globals action.pattern) = none) :
    trigger env line jumped actions s = (if jumped then .jumped else .stayed, s) := by
  induction actions with
  | nil => rfl
  | cons action rest ih =>
    obtain ⟨hfirst, hrest⟩ := List.forall_mem_cons.mp h
    rw [trigger, hfirst]
    exact ih hrest

theorem SetsOffNothing.react (h : SetsOffNothing env line s) :
    s.react env line = (.stayed, s) :=
  trigger_of_no_match false fun action haction => by
    obtain ⟨hmem, henabled⟩ := List.mem_filter.mp haction
    exact h action hmem henabled

/-- What a script does that is taken to have got the entry at a place: it goes to its label, or
waits on if there is none. -/
def settleFor (env : Env) (line : String) (place? : Option Nat) (s : Script) : Script :=
  match place?.bind (s.targets[·]?) with
  | some entry => resolveMatch env entry.label (entry.captures env line) s
  | none => s

/-- A script that waits for its entries goes to the one that is found. -/
theorem onLine_of_someMatch {registered late : List MatchEntry} (h : Gathered registered late s)
    (hphase : s.phase = .running) (hwait : s.wait? = some .someMatch)
    (hquiet : SetsOffNothing env line s) :
    onLine env line s = s.settleFor env line (heard? env line registered late) := by
  have hplan : s.reactPlan env line = .rest s := by rw [reactPlan, hquiet.react]
  rw [onLine_eq env line hphase, hplan, Plan.carryOut, heedPlan, if_neg (not_not_intro hphase),
    hwait]
  dsimp only
  rw [findMatch?_eq h.targets h.matchSet, settleFor]
  cases (heard? env line registered late).bind (s.targets[·]?) with
  | none => rfl
  | some entry => exact (resolveMatch_eq env _ _ s).symm

/-- **Which entry a script goes to.**  In every state that calls lead to, whatever is drawn at
random and whatever the clock shows each time it is read, in which a script waits for one of its
entries, the set of literals was made of a front part of them; the others are late.  A line that
sets off no action makes the script go to the entry that `heard?` says.  This is the first entry
that the line satisfies, exactly where that one is not a late literal. -/
theorem first_entry_heeded_iff {program : Program} {settings : Settings} {moments : List Moment}
    (hcalls : Calls (ofProgram program settings) moments s) (hphase : s.phase = .running)
    (hwait : s.wait? = some .someMatch) (hquiet : SetsOffNothing env line s) :
    ∃ registered late, Gathered registered late s ∧
      onLine env line s = s.settleFor env line (heard? env line registered late) ∧
      (heard? env line registered late = s.targets.findIdx? (·.isMet env line) ↔
        ∀ i entry, s.targets.findIdx? (·.isMet env line) = some i →
          s.targets[i]? = some entry → registered.length ≤ i → entry.isLiteral = false) := by
  have hfresh : HasGathered (ofProgram program settings) := .of_nil rfl rfl
  obtain ⟨registered, late, hgathered⟩ := hfresh.calls hcalls
  refine ⟨registered, late, hgathered, onLine_of_someMatch hgathered hphase hwait hquiet, ?_⟩
  rw [hgathered.targets]
  exact heard?_eq_findIdx?_iff

/-! ### An entry that an action registers -/

namespace Listening

/-- The command that registers an entry, literal or not. -/
def command (word : String) : String :=
  word ++ " late Foo"

/-- The action of `listening`. -/
def action (word : String) : Action :=
  ⟨"", command word, "Add", true⟩

/-- The line that registers the action. -/
def first (word : String) : Line :=
  .ofText "listening" 1 ("action " ++ command word ++ " when Add")

/-- The line that waits. -/
def second : Line :=
  .ofText "listening" 2 "matchwait"

end Listening

/-- A program that waits for its entries, of which it has none until it is told to add one. -/
def listening (word : String) : Program where
  name := "listening"
  lines := #[Listening.first word, Listening.second, .ofText "listening" 3 "late:",
    .ofText "listening" 4 "echo late"]

/-- The script of `listening` where it waits. -/
def listener (word : String) : Script :=
  start {} [] (ofProgram (listening word) {})

/-- A script that has begun to wait for its entries, for ever. -/
def waitingForEntries (s : Script) : Script :=
  { ({ s with matchSet? := MatchSet.ofEntries? s.targets }.debug .waits
      ("matchwait " ++ trimmed "")) with
    wait? := some .someMatch, guard := {} }

theorem step_of_matchWait {next : Line} (hnext : s.nextLine? = some next)
    (hreads : next.statement? = some (.matchWait "")) :
    step env s = .done (waitingForEntries (s.atStatement next (.matchWait ""))) := by
  have hblank : (readFinite? "").filter (0.0 < ·) = none := rfl
  rw [step_of_nextLine? env hnext, runLine_of_statement env hnext hreads, execute, doMatchWait,
    substitute_of_isPlain _ env (by decide), hblank]
  rfl

/-- The script of `listening` behind its first line. -/
def listenerReady (word : String) : Script :=
  let s := (ofProgram (listening word) {}).begun []
  let statement := .action "" (Listening.command word) "Add"
  (execute {} statement (s.atStatement (Listening.first word) statement)).2

theorem listener_eq {word : String} (hreads : (Listening.first word).statement? =
      some (.action "" (Listening.command word) "Add")) :
    listener word =
      waitingForEntries ((listenerReady word).atStatement Listening.second (.matchWait "")) := by
  have hfirst : ((ofProgram (listening word) {}).begun []).nextLine? =
      some (Listening.first word) := rfl
  have hready : step {} ((ofProgram (listening word) {}).begun []) =
      .again (listenerReady word) := by
    rw [step_of_nextLine? {} hfirst, runLine_of_statement {} hfirst hreads]
    rfl
  have hsecond : (listenerReady word).nextLine? = some Listening.second := rfl
  have hwaits : Listening.second.statement? = some (.matchWait "") := by decide +kernel
  have hbound : 2 ≤ stepBound {} ((ofProgram (listening word) {}).begun []) := by
    exact Nat.le_of_ble_eq_true rfl
  rw [listener, start_eq_run [] rfl,
    (Returns.again hready (.done (step_of_matchWait hsecond hwaits))).run_eq hbound]

theorem isPlain_pattern (word : String) : isPlain (Listening.action word).pattern = true := by
  have hplain : isPlain "Add" = true := by decide
  exact hplain

/-- The script of `listening` that has been told to add an entry. -/
def adder (word : String) (entry : MatchEntry) : Script :=
  let s := (listener word).setOff (Listening.action word) ["Add"]
  ({ s.setVerbatim true with targets := s.targets ++ [entry] }).setVerbatim false

/-- The calls that start the script of `listening` and tell it to add its entry. -/
def adderCalls (word : String) : List Moment :=
  [⟨{}, .start [], ofProgram (listening word) {}⟩, ⟨{}, .line "Add", listener word⟩]

/-- What there is to know about a word that registers an entry. -/
structure Registers (word : String) (entry : MatchEntry) (statement : Statement) : Prop where
  plain : isPlain (Listening.command word) = true
  commands : Action.splitCommands (Listening.command word) = [Listening.command word]
  first : (Listening.first word).statement? = some (.action "" (Listening.command word) "Add")
  reads : Statement.read? (Listening.command word) = some statement
  stays : isJump statement = false
  execute : ∀ s : Script, execute {} statement (s.setVerbatim true) =
    (.next, { s.setVerbatim true with targets := s.targets ++ [entry] })
  isMet : entry.isMet {} "Foo" = true
  notMet : entry.isMet {} "Add" = false

namespace Registers

variable {word : String} {entry : MatchEntry} {statement : Statement}

/-- The script of `listening` is told to add its entry, and does so. -/
theorem react_listener (h : Registers word entry statement) :
    (listener word).react {} "Add" = (.stayed, adder word entry) := by
  have hactions : (listener word).actions.filter (·.enabled) = [Listening.action word] := by
    rw [listener_eq h.first]
    rfl
  have hmatch : ({} : Env).matcher.regex "Add" (Listening.action word).pattern = some ["Add"] := by
    have hadd : ({} : Env).matcher.regex "Add" "Add" = some ["Add"] := by decide +kernel
    exact hadd
  have houtcome : Order.outcome {} ⟨Listening.command word,
      (listener word).setOff (Listening.action word) ["Add"]⟩ = (.next, adder word entry) := by
    rw [Order.outcome, Order.statement?, h.reads]
    dsimp only
    rw [h.execute]
    rfl
  rw [(react_of_one_command hactions h.commands (isPlain_pattern word) h.plain hmatch).2,
    Order.reaction, houtcome, Order.statement?, h.reads, Option.any_some, h.stays]
  rfl

theorem gathered_adder (h : Registers word entry statement) :
    Gathered [] [entry] (adder word entry) := by
  have htargets : (listener word).targets = [] := by
    rw [listener_eq h.first]
    rfl
  have hset : (listener word).matchSet? = none := by
    rw [listener_eq h.first]
    rfl
  have hstand := sameStand_setOff (Listening.action word) ["Add"] (listener word)
  constructor
  · rw [adder, setVerbatim, hstand.targets, htargets]
  · rw [adder, setVerbatim]
    exact hstand.matchSet.trans hset

theorem sameButEntries_adder (word : String) (entry : MatchEntry) :
    (adder word entry).phase = (listener word).phase ∧
      (adder word entry).wait? = (listener word).wait? ∧
      (adder word entry).actions = (listener word).actions := by
  have hstand := sameStand_setOff (Listening.action word) ["Add"] (listener word)
  have hactions : ((listener word).setOff (Listening.action word) ["Add"]).actions =
      (listener word).actions := by
    rw [setOff, debug]
    split <;> rfl
  rw [adder, setVerbatim, setVerbatim]
  exact ⟨hstand.phase, hstand.wait, hactions⟩

/-- It still waits for its entries then, and another line sets off nothing. -/
theorem waits_adder (h : Registers word entry statement) :
    (adder word entry).phase = .running ∧ (adder word entry).wait? = some .someMatch ∧
      SetsOffNothing {} "Foo" (adder word entry) := by
  obtain ⟨hphase, hwait, hactions⟩ := sameButEntries_adder word entry
  rw [listener_eq h.first] at hphase hwait hactions
  refine ⟨hphase, hwait, fun action haction _ => ?_⟩
  obtain rfl := List.mem_singleton.mp (hactions ▸ haction)
  have hfoo : ({} : Env).matcher.regex "Foo" "Add" = none := by decide +kernel
  have hplain := substituteAction_of_isPlain (adder word entry).scopes ({} : Env).globals
    (isPlain_pattern word)
  exact (congrArg (({} : Env).matcher.regex "Foo") hplain).trans hfoo

theorem onLine_listener (h : Registers word entry statement) :
    onLine {} "Add" (listener word) = adder word entry := by
  have hphase : (listener word).phase = .running := by
    rw [listener_eq h.first]
    rfl
  refine (onLine_of_stayed hphase h.react_listener ?_).2
  rw [isSatisfiedBy, h.waits_adder.2.1]
  dsimp only
  rw [findMatch?_eq h.gathered_adder.targets h.gathered_adder.matchSet, heard?]
  simp [h.notMet]

theorem calls_adder (h : Registers word entry statement) :
    Calls (ofProgram (listening word) {}) (adderCalls word) (adder word entry) := by
  have hw : 0 < ({} : Env).settings.loopWindow := by decide
  refine .cons (Call.returns_of_window hw _ _) (.cons (Call.returns_of_window hw _ _) ?_)
  rw [Call.apply, Call.apply, ← h.onLine_listener]
  exact .nil _

end Registers

theorem registers_match :
    Registers "match" (.literal "late" "Foo") (.matchText "late" "Foo") where
  plain := by decide +kernel
  commands := by decide +kernel
  first := by decide +kernel
  reads := by decide +kernel
  stays := rfl
  execute _ := rfl
  isMet := by decide +kernel
  notMet := by decide +kernel

theorem registers_matchre :
    Registers "matchre" (.regex "late" "Foo") (.matchRegex "late" "Foo") where
  plain := by decide +kernel
  commands := by decide +kernel
  first := by decide +kernel
  reads := by decide +kernel
  stays := rfl
  execute _ := rfl
  isMet := by decide +kernel
  notMet := by decide +kernel

/-- **A literal that an action registers while the script waits is ignored**: the line that
satisfies it, and no other entry, leaves the script waiting. -/
theorem late_literal_ignored :
    let s := adder "match" (.literal "late" "Foo")
    Calls (ofProgram (listening "match") {}) (adderCalls "match") s ∧
      s.phase = .running ∧ s.wait? = some .someMatch ∧ SetsOffNothing {} "Foo" s ∧
      s.targets = [.literal "late" "Foo"] ∧ s.targets.findIdx? (·.isMet {} "Foo") = some 0 ∧
      onLine {} "Foo" s = s ∧ (s.settleFor {} "Foo" (some 0)).phase = .stopped := by
  intro s
  have hgathered := registers_match.gathered_adder
  obtain ⟨hphase, hwait, hquiet⟩ := registers_match.waits_adder
  refine ⟨registers_match.calls_adder, hphase, hwait, hquiet, hgathered.targets, ?_, ?_, ?_⟩
  · rw [hgathered.targets, List.nil_append, List.findIdx?_cons, registers_match.isMet]
    rfl
  · rw [onLine_of_someMatch hgathered hphase hwait hquiet]
    rfl
  · have hentry : s.targets[0]? = some (.literal "late" "Foo") := by rw [hgathered.targets]; rfl
    rw [settleFor, Option.bind_some, hentry]
    dsimp only
    rw [resolveMatch, goto, substitute_of_isPlain _ _ (by decide)]
    dsimp only [s]
    rw [adder, listener_eq registers_match.first]
    decide +kernel

/-- A pattern that an action registers while the script waits is looked for. -/
theorem late_pattern_heeded :
    let s := adder "matchre" (.regex "late" "Foo")
    Calls (ofProgram (listening "matchre") {}) (adderCalls "matchre") s ∧
      s.phase = .running ∧ s.wait? = some .someMatch ∧ SetsOffNothing {} "Foo" s ∧
      s.targets = [.regex "late" "Foo"] ∧
      onLine {} "Foo" s = s.settleFor {} "Foo" (some 0) := by
  intro s
  obtain ⟨hphase, hwait, hquiet⟩ := registers_matchre.waits_adder
  have hcalls := registers_matchre.calls_adder
  have htargets := registers_matchre.gathered_adder.targets
  have hfirst : s.targets.findIdx? (·.isMet {} "Foo") = some 0 := by
    rw [htargets, List.nil_append, List.findIdx?_cons, registers_matchre.isMet]
    rfl
  obtain ⟨registered, late, -, hline, hiff⟩ := first_entry_heeded_iff hcalls hphase hwait hquiet
  have hheard := hiff.mpr fun i entry _ hentry _ => by
    have hmem := List.mem_of_getElem? hentry
    rw [htargets] at hmem
    obtain rfl := List.mem_singleton.mp hmem
    rfl
  rw [hheard, hfirst] at hline
  exact ⟨hcalls, hphase, hwait, hquiet, htargets, hline⟩

end Script

end StreamScript
