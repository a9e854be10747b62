import StreamScript.Proofs.Blocks.Layout
import StreamScript.Proofs.Runs

/-!
# Lines that come to an end

Putting variables into a text need not end, and then neither does the line that asks
for it.  A `Script` knows nothing of this: where variables never stop being put into a
text, it goes on with the text as it was.  This module says which lines these are, so
that what is shown of a run can be kept apart from what no run reaches.

`Script.ends` follows `execute`: it asks of every text into which variables are put
whether that ends, and of no other.  A call then has one of two fates.  It returns, and
every line on the way has come to an end, or there is a line that it never gets behind
(`Comes`).  Each call has one fate (`Returns.exists_comes`, `Comes.unique`), and where it
returns this is what is computed (`Comes.returns`).
-/

namespace StreamScript

open Text

/-! ## The texts of a statement -/

namespace Phrase

mutual

/-- The texts that variables are put into when a phrase is resolved.  Behind a call that fails
nothing is looked at. -/
def asked (subst : String → String) : Phrase → List String
  | .text s => [s]
  | .call _ args => args
  | .sequence items => askedAll subst items

/-- The same for the items of a sequence. -/
def askedAll (subst : String → String) : List Phrase → List String
  | [] => []
  | item :: rest =>
      asked subst item ++
        match item.resolve subst with
        | .ok _ => askedAll subst rest
        | .error _ => []

end

end Phrase

/-- The texts that variables are put into when a head is tested. -/
def Head.asked (subst : String → String) : Head → List String
  | .ifHolds condition | .elseIf condition => condition.asked subst
  | .otherwise | .ifArgs _ => []

/-- The texts that a statement puts variables into, unless it is a conditional or a jump. -/
def Statement.asked (subst : String → String) : Statement → List String
  | .debug text | .echo text | .put text | .send text | .printBox text | .move text | .save text
  | .unsetVar text | .pause text | .matchText _ text | .matchRegex _ text | .matchWait text
  | .waitFor text | .waitForRegex text => [text]
  | .setVar name value => [name, value]
  | .math var _ number => [var, number]
  | .random lo hi => [lo, hi]
  | .eval var phrase | .evalMath var phrase => var :: phrase.asked subst
  | _ => []

/-- Whether putting variables into a text comes to an end. -/
def Scopes.ends (s : Scopes) (globals : Store) (text : String) : Bool :=
  s.verbatim || (Substitution.result? (s.sigils globals) text.toList).isSome

/-- Whether testing a head comes to an end. -/
def Head.ends (env : Env) (head : Head) (s : Scopes) : Bool :=
  (head.asked (s.substitute env.globals)).all (s.ends env.globals)

/-- Whether a statement that is no conditional and no jump comes to an end. -/
def Statement.ends (env : Env) (statement : Statement) (s : Scopes) : Bool :=
  (statement.asked (s.substitute env.globals)).all (s.ends env.globals)

/-- A text without sigils is done with at once. -/
theorem Scopes.ends_of_no_sigil (s : Scopes) (globals : Store) {text : String}
    (h : text.toList.any (s.sigils globals).isSigil = false) : s.ends globals text = true := by
  rw [ends, Substitution.result?, Substitution.expand?, h, if_neg Bool.false_ne_true,
    Option.isSome_some, Bool.or_true]

namespace Script

variable {env : Env} {s t u : Script} {met met' : List Script}

/-! ## Lines -/

/-- Whether a conditional tests its head: a part of a chain in which a branch has run does not, and
neither does one that belongs to no chain. -/
def tests (head : Head) (s : Script) : Bool :=
  head.startsChain || s.walk.ifs.head?.any fun top => !top.satisfied

/-- Whether a jump comes to an end.  Its arguments are gone over once the jump is certain, and what
patterns have captured is forgotten by then. -/
def gotoEnds (env : Env) (label args : String) (s : Script) : Bool :=
  s.scopes.ends env.globals label &&
    match s.walk.program.label?
        (String.ofList (lowercase (trim (s.substitute env label).toList))) with
    | none => true
    | some _ => (countJump env s).1 || { s.scopes with captured := .empty }.ends env.globals args

/-- **Whether carrying out a statement comes to an end.** -/
def ends (env : Env) : Statement → Script → Bool
  | .block head brace, s =>
      s.walk.index?.isNone || !s.tests head ||
        (!head.startsChain && !(s.enterBlock brace).1) || head.ends env s.scopes
  | .single head body, s =>
      match s.walk.index? with
      | none => true
      | some idx =>
          (!s.tests head || head.ends env s.scopes) &&
            match enterSingle env head idx s with
            | (false, _) => true
            | (true, s) => ends env body s
  | .goto label args, s => s.gotoEnds env label args
  | .gosub label args, s =>
      sameName label "clear" || decide (env.settings.maxGosubs ≤ s.gosubs.length) ||
        s.gotoEnds env label args
  | statement, s => statement.ends env s.scopes

/-- Whether the line in front of a script comes to an end. -/
def lineEnds (env : Env) (s : Script) : Bool :=
  match s.nextLine? with
  | none => true
  | some line =>
      match line.statement? with
      | none => true
      | some statement => ends env statement (s.atStatement line statement)

theorem lineEnds_of_no_line (env : Env) (h : s.nextLine? = none) : s.lineEnds env = true := by
  rw [lineEnds, h]

theorem lineEnds_of_no_statement (env : Env) {line : Line} (h : s.nextLine? = some line)
    (hs : line.statement? = none) : s.lineEnds env = true := by
  rw [lineEnds, h]
  dsimp only
  rw [hs]

theorem lineEnds_of_statement (env : Env) {line : Line} {statement : Statement}
    (h : s.nextLine? = some line) (hs : line.statement? = some statement) :
    s.lineEnds env = ends env statement (s.atStatement line statement) := by
  rw [lineEnds, h]
  dsimp only
  rw [hs]

theorem ends_of_steers (env : Env) {statement : Statement} (h : statement.steers = false)
    (s : Script) : ends env statement s = statement.ends env s.scopes := by
  cases statement with
  | block | single | goto | gosub => cases h
  | _ => rfl

/-- A conditional with a block comes to an end when its head does, if it is tested at all. -/
theorem ends_block {head : Head} {brace : BracePlace} {idx : Nat} (env : Env)
    (hidx : s.walk.index? = some idx) (henter : (s.enterBlock brace).1 = true) :
    ends env (.block head brace) s = (!s.tests head || head.ends env s.scopes) := by
  rw [ends, hidx, henter, Option.isNone_some, Bool.false_or, Bool.not_true, Bool.and_false,
    Bool.or_false]

/-! ## Fates -/

/-- What comes of a call that lets lines run. -/
inductive Fate where
  /-- The call returns. -/
  | returns (t : Script)
  /-- It never gets behind the line in front of a state. -/
  | hangs (u : Script)

/-- Whether a call returns. -/
def Fate.isReturn : Fate → Bool
  | .returns _ => true
  | .hangs _ => false

/-- A call meets with a fate.  The list holds the states that it has met, as in `Returns`. -/
inductive Comes (env : Env) : Script → List Script → Fate → Prop where
  | done {s t : Script} (hends : s.lineEnds env = true) (h : step env s = .done t) :
      Comes env s [s] (.returns t)
  | hangs {s : Script} (hends : s.lineEnds env = false) : Comes env s [s] (.hangs s)
  | again {s t : Script} {met : List Script} {fate : Fate} (hends : s.lineEnds env = true)
      (h : step env s = .again t) (rest : Comes env t met fate) : Comes env s (s :: met) fate

/-- A call whose fate is to return does so. -/
theorem Comes.returns (h : Comes env s met (.returns t)) : Returns env s met t := by
  generalize hfate : Fate.returns t = fate at h
  induction h with
  | done hends hstep =>
    cases hfate
    exact .done hstep
  | hangs => cases hfate
  | again hends hstep _ ih => exact .again hstep (ih hfate)

/-- A call has only one fate, since a line that comes to an end has one outcome. -/
theorem Comes.unique {fate fate' : Fate} (h : Comes env s met fate) (h' : Comes env s met' fate') :
    met = met' ∧ fate = fate' := by
  induction h generalizing met' with
  | done hends hstep =>
    cases h' with
    | done _ hstep' =>
      rw [hstep] at hstep'
      exact ⟨rfl, by injection hstep' with ht; rw [ht]⟩
    | hangs hends' => cases hends.symm.trans hends'
    | again _ hstep' _ => cases hstep.symm.trans hstep'
  | hangs hends =>
    cases h' with
    | done hends' _ => cases hends.symm.trans hends'
    | hangs _ => exact ⟨rfl, rfl⟩
    | again hends' _ _ => cases hends.symm.trans hends'
  | again hends hstep _ ih =>
    cases h' with
    | done _ hstep' => cases hstep.symm.trans hstep'
    | hangs hends' => cases hends.symm.trans hends'
    | again _ hstep' hrest =>
      obtain rfl : _ = _ := Step.again.inj (hstep.symm.trans hstep')
      obtain ⟨rfl, rfl⟩ := ih hrest
      exact ⟨rfl, rfl⟩

/-- Every call meets with a fate. -/
theorem Returns.exists_comes (h : Returns env s met t) :
    ∃ met' fate, Comes env s met' fate := by
  induction h with
  | @done s t hstep =>
    cases hends : s.lineEnds env with
    | true => exact ⟨_, _, .done hends hstep⟩
    | false => exact ⟨_, _, .hangs hends⟩
  | @again s _ _ _ hstep _ ih =>
    cases hends : s.lineEnds env with
    | true =>
      obtain ⟨met', fate, hcomes⟩ := ih
      exact ⟨_, _, .again hends hstep hcomes⟩
    | false => exact ⟨_, _, .hangs hends⟩

/-- Lines that come to an end change nothing about the fate. -/
theorem Runs.comes {fate : Fate} (h : Runs env s met t) (hends : ∀ v ∈ met, v.lineEnds env = true)
    (hcomes : Comes env t met' fate) : Comes env s (met ++ met') fate := by
  induction h with
  | nil => exact hcomes
  | cons hstep _ ih =>
    obtain ⟨hhead, htail⟩ := List.forall_mem_cons.mp hends
    exact .again hhead hstep (ih htail hcomes)

end Script

end StreamScript
