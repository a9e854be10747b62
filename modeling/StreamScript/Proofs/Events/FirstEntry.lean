import Mathlib.Data.List.Infix
import StreamScript.Proofs.Events.Candidates

/-!
# The first entry that a line satisfies

A script that waits for several entries has them searched in two ways at once: all
literals together, with the places where they stand among the entries, and the
patterns one after another, as far as the first literal that was found.  This is
quicker than to try the entries in turn, and it finds the same.

`scan?` tries them in turn.  Right behind the statement that begins the wait, every
entry is in the set of literals or is a pattern, so the search finds what `scan?` does
(`findMatch?_matchWait`).  Which entries a script has registered does not matter, nor
in what order, nor how patterns are matched.
-/

namespace StreamScript

open Text

namespace MatchEntry

variable {env : Env} {line : String}

/-- What an entry gives its label when a line satisfies it. -/
def answer? (env : Env) (line : String) : MatchEntry → Option Captures
  | .literal _ text => if text.toList <:+: line.toList then some [text] else none
  | .regex _ pattern => env.matcher.regex line pattern

/-- The entries tried in turn: the label of the first one that a line satisfies, with what it gives
that label. -/
def scan? (env : Env) (line : String) : List MatchEntry → Option (String × Captures)
  | [] => none
  | entry :: rest =>
      match entry.answer? env line with
      | some caps => some (entry.label, caps)
      | none => scan? env line rest

theorem occursIn_iff {text : String} :
    occursIn text line = true ↔ text.toList <:+: line.toList := by
  rw [occursIn, contains_iff]
  exact exists₂_congr fun _ _ => eq_comm

/-- An entry answers where it is met, and then with what it captures. -/
theorem answer?_eq (entry : MatchEntry) :
    entry.answer? env line =
      if entry.isMet env line then some (entry.captures env line) else none := by
  cases entry with
  | literal label text =>
    rw [isMet_literal, answer?, captures]
    by_cases h : text.toList <:+: line.toList
    · rw [if_pos h, if_pos (occursIn_iff.mpr h)]
    · rw [if_neg h, if_neg (mt occursIn_iff.mp h)]
  | regex label pattern =>
    rw [isMet_regex, answer?, captures]
    cases env.matcher.regex line pattern <;> rfl

/-- To try entries in turn is to look for the place of the first that is met. -/
theorem scan?_eq (entries : List MatchEntry) :
    scan? env line entries =
      ((entries.findIdx? (·.isMet env line)).bind (entries[·]?)).map fun entry =>
        (entry.label, entry.captures env line) := by
  induction entries with
  | nil => rfl
  | cons entry rest ih =>
    rw [scan?, answer?_eq, List.findIdx?_cons]
    cases entry.isMet env line with
    | true => rfl
    | false =>
      rw [if_neg Bool.false_ne_true, if_neg Bool.false_ne_true, Option.bind_map]
      exact ih

end MatchEntry

namespace Script

/-- **The search finds what trying the entries in turn finds.**  When a script has begun to wait for
its entries, of whatever kinds they are and in whatever order, the entry found for a line is the
first one registered that the line satisfies: a literal that occurs in it, with itself captured, or
a pattern that matches it, with what the pattern captured.  If the line satisfies none, none is
found. -/
theorem findMatch?_matchWait (env env' : Env) (timeout line : String) (s : Script) :
    let r := execute env (.matchWait timeout) s
    r.1 = .wait ∧ r.2.wait? = some .someMatch ∧ r.2.targets = s.targets ∧
      findMatch? env' line r.2 = MatchEntry.scan? env' line s.targets := by
  have hgathered := gathered_doMatchWait env timeout s
  have htargets := hgathered.targets.trans (List.append_nil _)
  refine ⟨rfl, rfl, htargets, ?_⟩
  have hheard : heard? env' line s.targets [] = s.targets.findIdx? (·.isMet env' line) :=
    Option.or_none
  rw [execute, findMatch?_eq hgathered.targets hgathered.matchSet, htargets, hheard,
    MatchEntry.scan?_eq]

end Script

end StreamScript
