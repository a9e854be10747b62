import StreamScript.Proofs.Blocks.Meaning
import StreamScript.Proofs.Events.Heeding
import StreamScript.Proofs.Events.Sending
import StreamScript.Proofs.Subroutines
import StreamScript.Proofs.Vars.Numbered

/-!
# What a label is given

A jump puts variables into its arguments and binds the text, and the words of it, for
the label it comes to.  It does so only after it has dropped what patterns had
captured.  So the arguments come to what the line that jumps would make of them if
nothing had been captured, and a reference to a captured group does not find it.

`Lands` says when a jump comes to a label, and `Lands.execute` what it leaves of the
variables then.  The text that is bound can be read off the bindings again, up to
blanks at its ends (`Scopes.labelScope_eq_iff`).  So a label is given the text that an
echo would print on the line of the jump exactly where the two texts agree, and they do
wherever nothing has been captured.
-/

namespace StreamScript

open Text

namespace Scopes

variable {s : Scopes} {globals : Store}

/-- The variables without what patterns captured. -/
def forgetCaptured (s : Scopes) : Scopes :=
  { s with captured := .empty }

/-- Whether anything has been captured does not matter where nothing has been, where the text is
taken as it stands, and where it refers to no variable. -/
theorem substitute_forgetCaptured {text : String}
    (h : s.captured = .empty ∨ s.verbatim = true ∨ ∀ c ∈ text.toList, c ∉ ['$', '%', '&']) :
    s.forgetCaptured.substitute globals text = s.substitute globals text := by
  rcases h with hnone | hverbatim | hplain
  · have hsame : s.forgetCaptured = s := by
      rw [forgetCaptured, ← hnone]
    rw [hsame]
  · rw [substitute, substitute, if_pos hverbatim]
    exact if_pos hverbatim
  · rw [substitute_eq_self _ _ hplain, substitute_eq_self _ _ hplain]

theorem substitute_of_within {text result : String} (hverbatim : s.verbatim = false) (depth : Nat)
    (h : Substitution.within (s.sigils globals) depth text.toList = some result.toList) :
    s.substitute globals text = result := by
  rw [substitute, hverbatim, if_neg Bool.false_ne_true, Script.substitute_of_within depth h,
    String.ofList_toList]

theorem trimmed_eq_empty_iff {text : String} :
    trimmed text = "" ↔ (trim text.toList).isEmpty = true := by
  rw [trimmed, List.isEmpty_iff]
  exact String.ofList_eq_empty_iff

/-- Number zero is the whole text without blanks at its ends; of a blank text there is none. -/
theorem get?_labelScope_zero (text : String) :
    (labelScope text).get? "0" = if trimmed text = "" then none else some (trimmed text) := by
  unfold labelScope
  simp only [trimmed_eq_empty_iff]
  split
  · rfl
  · exact Scope.get?_indexed _ 0

/-- **The arguments of a label tell its text**, up to blanks at the ends. -/
theorem labelScope_eq_iff {a b : String} :
    labelScope a = labelScope b ↔ trimmed a = trimmed b := by
  constructor
  · intro h
    have hzero := congrArg (Bindings.get? · "0") h
    rw [get?_labelScope_zero, get?_labelScope_zero] at hzero
    split at hzero
    · next ha =>
      split at hzero
      · next hb => rw [ha, hb]
      · cases hzero
    · split at hzero
      · cases hzero
      · exact Option.some.inj hzero
  · intro h
    have hchars : trim a.toList = trim b.toList := String.ofList_injective h
    unfold labelScope
    rw [hchars]

end Scopes

namespace Script

variable {env : Env} {caller : Script} {statement : Statement} {args : String}

/-! ## Jumps that land -/

/-- A jump with these arguments that comes to a label.  The label is there, and neither the loop
guard nor the number of open subroutines is in the way. -/
inductive Lands (env : Env) (caller : Script) : Statement → String → Prop where
  -- unlike the arguments, the name of the label is made with what was captured
  | goto {label args : String} (target : Label)
      (hlabel : caller.walk.program.label? (caller.labelName env label) = some target)
      (hcount : (countJump env caller).1 = false) : Lands env caller (.goto label args) args
  | gosub {label args : String} (jump : Lands env caller (.goto label args) args)
      (hclear : sameName label "clear" = false)
      (hroom : caller.gosubs.length < env.settings.maxGosubs) :
      Lands env caller (.gosub label args) args

/-- The variables of a script that has come to a label. -/
theorem scopes_arrived (env : Env) (name : String) (target : Label) (args : String) (s : Script) :
    (s.arrived env name target (.text args)).scopes =
      s.scopes.forgetCaptured.setLabelArgs (s.scopes.forgetCaptured.substitute env.globals args) :=
  scopes_debug _ .gosubs _

/-- **What a jump that lands leaves of the variables**: nothing that was captured, and for the label
what the arguments come to without it. -/
theorem Lands.execute (h : Lands env caller statement args) :
    (Script.execute env statement caller).1 = .next ∧
      (Script.execute env statement caller).2.scopes =
        let known := caller.scopes.forgetCaptured
        known.setLabelArgs (known.substitute env.globals args) := by
  cases h with
  | @goto label _ target hlabel hcount =>
    have hgoto := goto_of_label hlabel hcount (.text args)
    change (Script.goto env label (.text args) caller).1 = .next ∧
      (Script.goto env label (.text args) caller).2.scopes = _
    rw [hgoto]
    exact ⟨rfl, scopes_arrived env _ target args _⟩
  | @gosub label _ hjump hclear hroom =>
    obtain ⟨target, hlabel, hcount⟩ := hjump
    have hgoto := goto_of_label hlabel hcount (.text args)
    change (Script.gosub env label args caller).1 = .next ∧
      (Script.gosub env label args caller).2.scopes = _
    rw [gosub_of_goto hclear hroom hgoto]
    exact ⟨rfl, scopes_arrived env _ target args _⟩

/-- **What a label is given.**  A jump that lands goes on at its label.  It changes no variables but
that it drops what patterns had captured and binds the text that its arguments come to without that.
The label gets what an echo of the arguments on the line of the jump would print exactly where the
two texts are the same up to blanks at the ends.  That is so where nothing had been captured, in a
command whose variables have been put in before, and where the arguments refer to no variable. -/
theorem labelVars_of_lands_iff (env : Env) (statement : Statement) (s : Script)
    (h : Lands env (core env statement s).script (core env statement s).statement args) :
    let caller := (core env statement s).script
    let r := execute env statement s
    let said := caller.substitute env args
    let bound := caller.scopes.forgetCaptured.substitute env.globals args
    execute env (.echo args) caller = (.next, caller.emit (.echo said)) ∧
      r.1 = .next ∧ r.2.scopes = caller.scopes.forgetCaptured.setLabelArgs bound ∧
      r.2.scopes.labelVars.get? "0" =
        (if trimmed bound = "" then none else some (trimmed bound)) ∧
      (r.2.scopes.labelVars = Scopes.labelScope said ↔ trimmed bound = trimmed said) ∧
      (caller.scopes.captured = .empty ∨ caller.scopes.verbatim = true ∨
          (∀ c ∈ args.toList, c ∉ ['$', '%', '&']) →
        r.2.scopes.labelVars = Scopes.labelScope said) := by
  intro caller r said bound
  obtain ⟨hflow, hscopes⟩ := h.execute
  have hr : r = _ := execute_core env statement s
  have hscopes' : r.2.scopes = caller.scopes.forgetCaptured.setLabelArgs bound := by
    rw [hr, passRivals_eq]
    exact hscopes
  have hvars : r.2.scopes.labelVars = Scopes.labelScope bound :=
    congrArg Scopes.labelVars hscopes'
  refine ⟨rfl, ?_, hscopes', ?_, ?_, fun hsame => ?_⟩
  · rw [hr]
    exact hflow
  · rw [hvars, Scopes.get?_labelScope_zero]
  · rw [hvars, Scopes.labelScope_eq_iff]
  · exact hvars.trans (congrArg Scopes.labelScope (Scopes.substitute_forgetCaptured hsame))

/-- A program that waits until something is found and tells what. -/
def finder : Program where
  name := "finder"
  lines := (["waitforre Found (.*)", "goto tell $1", "tell:", "echo $0"].mapIdx fun i text =>
    .ofText "finder" (i + 1) text).toArray

/-- The script of `finder` where it waits. -/
def searching : Script :=
  start {} [] (ofProgram finder {})

/-- The script of `finder` when gold has been found. -/
def foundGold : Script :=
  (searching.setCaptured ["Found gold", "gold"]).clearWaits

/-- The script of `finder` that jumps then. -/
def telling : Script :=
  foundGold.atStatement (.ofText "finder" 2 "goto tell $1") (.goto "tell" "$1")

/-- The first line of `finder` waits. -/
theorem searching_eq :
    let first := Line.ofText "finder" 1 "waitforre Found (.*)"
    searching = (execute {} (.waitForRegex "Found (.*)")
      ((begun [] (ofProgram finder {})).atStatement first (.waitForRegex "Found (.*)"))).2 := by
  intro first
  have hline : (begun [] (ofProgram finder {})).nextLine? = some first := rfl
  have hreads : first.statement? = some (.waitForRegex "Found (.*)") := by decide +kernel
  have hstep := step_of_nextLine? {} hline
  rw [runLine_of_statement {} hline hreads] at hstep
  rw [searching, start_eq_run [] rfl, (Returns.done hstep).run_eq (by decide)]
  rfl

/-- When gold is found, the script runs on with what was captured. -/
theorem onLine_searching : onLine {} "Found gold" searching = run {} foundGold := by
  have hphase : searching.phase = .running := by rw [searching_eq]; rfl
  have hactions : searching.actions = [] := by rw [searching_eq]; rfl
  have hwait : searching.wait? = some (.regex "Found (.*)") := by
    rw [searching_eq]
    exact congrArg (fun pattern => some (Wait.regex pattern))
      (substitute_of_isPlain _ {} (by decide))
  have hmatch : ({} : Env).matcher.regex "Found gold" "Found (.*)" =
      some ["Found gold", "gold"] := by
    decide +kernel
  have hreact : searching.reactPlan {} "Found gold" = .rest searching := by
    rw [reactPlan, react, hactions]
    rfl
  have hheed : searching.heedPlan {} "Found gold" = .runOn foundGold := by
    rw [heedPlan, if_neg (not_not_intro hphase), hwait]
    dsimp only
    rw [hmatch]
    rfl
  rw [onLine_eq {} _ hphase, hreact, Plan.carryOut, hheed]
  rfl

/-- The variables of the jump. -/
theorem scopes_telling : telling.scopes =
    { (Scopes.ofName "finder").setArgs [] with
      captured := Scope.indexed ["Found gold", "gold"] } := by
  rw [telling, foundGold, searching_eq]
  rfl

theorem lands_telling (args : String) : Lands {} telling (.goto "tell" args) args := by
  refine .goto ⟨2, "finder"⟩ ?_ (by decide +kernel)
  rw [labelName, substitute_of_isPlain _ _ (by decide)]
  decide +kernel

/-- The name of the script was not captured, so the label is given it. -/
theorem labelVars_telling_scriptname :
    Lands {} telling (.gosub "tell" "by %scriptname") "by %scriptname" ∧
      telling.substitute {} "by %scriptname" = "by finder" ∧
      (execute {} (.gosub "tell" "by %scriptname") telling).2.scopes.labelVars =
        Scopes.labelScope "by finder" := by
  have hlands : Lands {} telling (.gosub "tell" "by %scriptname") "by %scriptname" :=
    .gosub (lands_telling _) (by decide) (by decide +kernel)
  have hsaid : telling.substitute {} "by %scriptname" = "by finder" := by
    rw [substitute, scopes_telling]
    exact Scopes.substitute_of_within rfl 1 (by decide +kernel)
  have hbound : telling.scopes.forgetCaptured.substitute .empty "by %scriptname" =
      "by finder" := by
    rw [scopes_telling]
    exact Scopes.substitute_of_within rfl 1 (by decide +kernel)
  obtain ⟨-, -, -, -, hiff, -⟩ :=
    labelVars_of_lands_iff {} (.gosub "tell" "by %scriptname") telling hlands
  have hvars := hiff.mpr (congrArg trimmed (hbound.trans hsaid.symm))
  rw [show (core {} (.gosub "tell" "by %scriptname") telling).script = telling from rfl,
    hsaid] at hvars
  exact ⟨hlands, hsaid, hvars⟩

/-- **What was captured is lost on the way to a label.**  When gold is found, the script runs on at
a jump that is to tell so.  An echo there would print `gold`, but the label is given `$1`. -/
theorem labelVars_telling_captured :
    onLine {} "Found gold" searching = run {} foundGold ∧
      runLine {} foundGold.behindLine = execute {} (.goto "tell" "$1") telling ∧
      Lands {} telling (.goto "tell" "$1") "$1" ∧ telling.substitute {} "$1" = "gold" ∧
      (execute {} (.goto "tell" "$1") telling).2.scopes.labelVars = Scopes.labelScope "$1" ∧
      (execute {} (.goto "tell" "$1") telling).2.scopes.labelVars ≠
        Scopes.labelScope (telling.substitute {} "$1") := by
  have hline : foundGold.nextLine? = some (.ofText "finder" 2 "goto tell $1") := by
    rw [foundGold, searching_eq]
    rfl
  have hreads : (Line.ofText "finder" 2 "goto tell $1").statement? =
      some (.goto "tell" "$1") := by
    decide +kernel
  have hlands := lands_telling "$1"
  have hsaid : telling.substitute {} "$1" = "gold" := by
    rw [substitute, scopes_telling]
    exact Scopes.substitute_of_within rfl 1 (by decide +kernel)
  have hbound : telling.scopes.forgetCaptured.substitute .empty "$1" = "$1" := by
    rw [scopes_telling]
    exact Scopes.substitute_of_within rfl 1 (by decide +kernel)
  have hvars : (execute {} (.goto "tell" "$1") telling).2.scopes.labelVars =
      Scopes.labelScope "$1" :=
    (congrArg Scopes.labelVars hlands.execute.2).trans (congrArg Scopes.labelScope hbound)
  refine ⟨onLine_searching, runLine_of_statement {} hline hreads, hlands, hsaid, hvars, ?_⟩
  rw [hvars, hsaid, ne_eq, Scopes.labelScope_eq_iff]
  decide

end Script

end StreamScript
