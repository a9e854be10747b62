import StreamScript.Proofs.Words
import StreamScript.Script.Action

/-!
# Commands in one text

The commands of an action stand in one text with semicolons between them.  A semicolon that belongs
to a command is written with a backslash in front of it (`Action.masked`), while a backslash is
written as it is.  So a backslash at the end of a command would be taken together with the semicolon
behind the command, and the next command would be read as a part of this one.

This is the only thing that can be lost, apart from what no command has: blanks at its ends, or
nothing in it at all.  `Action.splitCommands_joinCommands_iff` says so.  A command at the very end
of the text may end in a backslash.
-/

namespace StreamScript
namespace Action

open Text

variable {cs rest : List Char}

/-! ## Writing commands -/

/-- A command as it is written among others, with a backslash in front of each semicolon. -/
def masked (cs : List Char) : List Char :=
  cs.flatMap fun c => if c = ';' then ['\\', ';'] else [c]

/-- Commands as they are written, with semicolons between them. -/
def joined (commands : List (List Char)) : List Char :=
  [';'].intercalate (commands.map masked)

/-- The text of an action with these commands. -/
def joinCommands (commands : List String) : String :=
  String.ofList (joined (commands.map String.toList))

theorem masked_cons (c : Char) (cs : List Char) :
    masked (c :: cs) = (if c = ';' then ['\\', ';'] else [c]) ++ masked cs :=
  List.flatMap_cons

theorem masked_append (cs rest : List Char) : masked (cs ++ rest) = masked cs ++ masked rest :=
  List.flatMap_append

/-- No semicolon stands at the front of what is written. -/
theorem head?_masked_append_ne (h : cs = [] → rest.head? ≠ some ';') :
    (masked cs ++ rest).head? ≠ some ';' := by
  cases cs with
  | nil => exact h rfl
  | cons c cs =>
    rw [masked_cons]
    by_cases hc : c = ';'
    · simp [hc]
    · simp [hc]

theorem joined_cons_cons (command next : List Char) (commands : List (List Char)) :
    joined (command :: next :: commands) = masked command ++ ';' :: joined (next :: commands) := by
  rw [joined, List.map_cons, List.map_cons, List.intercalate_cons_cons, List.append_assoc]
  rfl

/-! ## Reading commands -/

theorem commandsFrom_semicolon (current rest : List Char) :
    commandsFrom current (';' :: rest) =
      commandIfAny current.reverse ++ commandsFrom [] rest := by
  rw [commandsFrom, if_pos rfl]
  nofun

theorem commandsFrom_backslash_semicolon (current rest : List Char) :
    commandsFrom current ('\\' :: ';' :: rest) = commandsFrom (';' :: current) rest := by
  rw [commandsFrom]

theorem commandsFrom_char {c : Char} (hc : c ≠ ';') (hrest : c = '\\' → rest.head? ≠ some ';')
    (current : List Char) :
    commandsFrom current (c :: rest) = commandsFrom (c :: current) rest := by
  rw [commandsFrom, if_neg hc]
  rintro more rfl rfl
  exact hrest rfl rfl

/-- A command is read as a whole, unless it ends in a backslash and a semicolon is behind it. -/
theorem commandsFrom_masked (h : cs.getLast? = some '\\' → rest.head? ≠ some ';')
    (current : List Char) :
    commandsFrom current (masked cs ++ rest) = commandsFrom (cs.reverse ++ current) rest := by
  induction cs generalizing current with
  | nil => rfl
  | cons c cs ih =>
    have hcs : cs.getLast? = some '\\' → rest.head? ≠ some ';' := fun hlast =>
      h (by rw [List.getLast?_cons, hlast]; rfl)
    rw [List.reverse_cons, List.append_assoc, List.singleton_append, ← ih hcs]
    by_cases hc : c = ';'
    · rw [hc, masked_cons, if_pos rfl]
      exact commandsFrom_backslash_semicolon ..
    · rw [masked_cons, if_neg hc]
      refine commandsFrom_char hc (fun hslash => head?_masked_append_ne fun hnil => ?_) current
      exact h (by rw [hnil, hslash]; rfl)

/-- Behind a backslash at its end a command is not over: the next one is read as a part of it. -/
theorem commandsFrom_joined_cons_cons (current command next : List Char)
    (commands : List (List Char)) :
    commandsFrom current (joined (command :: next :: commands)) =
      if command.getLast? = some '\\' then
        commandsFrom (';' :: (command.dropLast.reverse ++ current)) (joined (next :: commands))
      else
        commandIfAny (command.reverse ++ current).reverse ++
          commandsFrom [] (joined (next :: commands)) := by
  rw [joined_cons_cons]
  split
  · next hlast =>
    obtain ⟨front, rfl⟩ := List.getLast?_eq_some_iff.mp hlast
    have hslash : masked ['\\'] = ['\\'] := rfl
    rw [masked_append, hslash, List.append_assoc, List.dropLast_concat, List.singleton_append,
      commandsFrom_masked (by simp), commandsFrom_backslash_semicolon]
  · next hlast =>
    rw [commandsFrom_masked (absurd · hlast), commandsFrom_semicolon]

theorem commandsFrom_joined_singleton (current command : List Char) :
    commandsFrom current (joined [command]) =
      commandIfAny (command.reverse ++ current).reverse := by
  have hread : commandsFrom current (masked command ++ []) =
      commandsFrom (command.reverse ++ current) [] := commandsFrom_masked (by simp) current
  rw [List.append_nil] at hread
  rw [joined, List.map_singleton, List.intercalate_singleton, hread, commandsFrom]

theorem length_commandIfAny_le (cs : List Char) : (commandIfAny cs).length ≤ 1 := by
  rw [commandIfAny]
  split
  · simp
  · simp

/-- No more commands are read than were written. -/
theorem length_commandsFrom_joined_le (current command : List Char)
    (commands : List (List Char)) :
    (commandsFrom current (joined (command :: commands))).length ≤ commands.length + 1 := by
  induction commands generalizing current command with
  | nil =>
    rw [commandsFrom_joined_singleton]
    exact length_commandIfAny_le _
  | cons next commands ih =>
    rw [commandsFrom_joined_cons_cons]
    split
    · exact Nat.le_succ_of_le (ih _ _)
    · have hfirst := length_commandIfAny_le (command.reverse ++ current).reverse
      have hmore := ih [] next
      rw [List.length_append, List.length_cons]
      omega

/-! ## What a command is -/

/-- A text that can be a command: there is something in it, and no blank at its ends. -/
def IsCommand (command : String) : Prop :=
  command ≠ "" ∧ trimmed command = command

instance : DecidablePred IsCommand := fun _ => inferInstanceAs (Decidable (_ ∧ _))

/-- A text with a backslash at its end. -/
def EndsInBackslash (command : String) : Prop :=
  command.toList.getLast? = some '\\'

instance : DecidablePred EndsInBackslash := fun _ => inferInstanceAs (Decidable (_ = _))

theorem isCommand_of_mem_commandIfAny {part : String} (h : part ∈ commandIfAny cs) :
    IsCommand part := by
  rw [commandIfAny] at h
  split at h
  · exact absurd h List.not_mem_nil
  · next hne =>
    obtain rfl := List.mem_singleton.mp h
    refine ⟨fun heq => hne ?_, ?_⟩
    · rw [← String.toList_ofList (l := trim cs), heq]
      rfl
    · rw [trimmed, String.toList_ofList, trim_trim]

theorem isCommand_of_mem_commandsFrom {current : List Char} {part : String}
    (h : part ∈ commandsFrom current cs) : IsCommand part := by
  fun_induction commandsFrom current cs with
  | case1 => exact isCommand_of_mem_commandIfAny h
  | case2 current rest ih => exact ih h
  | case3 current rest _ ih =>
    rcases List.mem_append.mp h with h | h
    · exact isCommand_of_mem_commandIfAny h
    · exact ih h
  | case4 current c rest _ _ ih => exact ih h

theorem IsCommand.commandIfAny_eq {command : String} (h : IsCommand command) :
    commandIfAny command.toList = [command] := by
  have htrim : trim command.toList = command.toList := by
    rw [← String.toList_ofList (l := trim command.toList), ← trimmed, h.2]
  have hne : ¬ command.toList.isEmpty = true := by simpa using h.1
  rw [commandIfAny, htrim]
  exact (if_neg hne).trans (by rw [String.ofList_toList])

/-! ## Commands that were written -/

theorem commandsFrom_joined_iff {commands : List String} (h : ∀ c ∈ commands, IsCommand c) :
    commandsFrom [] (joined (commands.map String.toList)) = commands ↔
      ∀ c ∈ commands.dropLast, ¬ EndsInBackslash c := by
  induction commands with
  | nil => exact iff_of_true rfl nofun
  | cons command commands ih =>
    obtain ⟨hcommand, hcommands⟩ := List.forall_mem_cons.mp h
    cases commands with
    | nil =>
      refine iff_of_true ?_ nofun
      rw [List.map_singleton, commandsFrom_joined_singleton, List.append_nil, List.reverse_reverse,
        hcommand.commandIfAny_eq]
    | cons next commands =>
      rw [List.map_cons, List.map_cons, commandsFrom_joined_cons_cons, List.dropLast_cons_cons,
        List.forall_mem_cons, List.append_nil, List.append_nil, List.reverse_reverse,
        hcommand.commandIfAny_eq]
      split
      · next hlast =>
        refine iff_of_false ?_ fun hnone => hnone.1 hlast
        intro heq
        have hlength := length_commandsFrom_joined_le
          (';' :: command.toList.dropLast.reverse) next.toList (commands.map String.toList)
        rw [heq, List.length_map, List.length_cons, List.length_cons] at hlength
        omega
      · next hlast =>
        rw [List.singleton_append, List.cons.injEq, ← List.map_cons, ih hcommands]
        exact ⟨fun hnone => ⟨hlast, hnone.2⟩, fun hnone => ⟨rfl, hnone.2⟩⟩

/-- **Commands written in one text are read back, unless one in front of another ends in a
backslash.**  And whatever a text is, all that is read from it are commands. -/
theorem splitCommands_joinCommands_iff (commands : List String) (text : String) :
    (splitCommands (joinCommands commands) = commands ↔
      (∀ c ∈ commands, IsCommand c) ∧ ∀ c ∈ commands.dropLast, ¬ EndsInBackslash c) ∧
      ∀ part ∈ splitCommands text, IsCommand part := by
  have hparts (text : String) : ∀ part ∈ splitCommands text, IsCommand part := fun part h =>
    isCommand_of_mem_commandsFrom h
  have hread : splitCommands (joinCommands commands) =
      commandsFrom [] (joined (commands.map String.toList)) := by
    rw [splitCommands, joinCommands, String.toList_ofList]
  refine ⟨⟨fun heq => ?_, fun h => ?_⟩, hparts text⟩
  · have hall : ∀ c ∈ commands, IsCommand c := heq ▸ hparts (joinCommands commands)
    exact ⟨hall, (commandsFrom_joined_iff hall).mp (hread.symm.trans heq)⟩
  · exact hread.trans ((commandsFrom_joined_iff h.1).mpr h.2)

/-- Semicolons in a command, also behind a backslash of its own, and a command that is nothing but
semicolons. -/
theorem splitCommands_joinCommands_semicolons :
    (∀ c ∈ ["put a\\;b", ";;", "echo \\ c"], IsCommand c) ∧
      (∀ c ∈ ["put a\\;b", ";;", "echo \\ c"].dropLast, ¬ EndsInBackslash c) ∧
      splitCommands (joinCommands ["put a\\;b", ";;", "echo \\ c"]) =
        ["put a\\;b", ";;", "echo \\ c"] ∧
      "look" ∈ splitCommands " look ; ; put \\;" ∧ IsCommand "look" := by
  have hcommands : ∀ c ∈ ["put a\\;b", ";;", "echo \\ c"], IsCommand c := by decide
  have hends : ∀ c ∈ ["put a\\;b", ";;", "echo \\ c"].dropLast, ¬ EndsInBackslash c := by decide
  have hpart : "look" ∈ splitCommands " look ; ; put \\;" := by decide
  obtain ⟨hread, hparts⟩ :=
    splitCommands_joinCommands_iff ["put a\\;b", ";;", "echo \\ c"] " look ; ; put \\;"
  exact ⟨hcommands, hends, hread.mpr ⟨hcommands, hends⟩, hpart, hparts "look" hpart⟩

end Action
end StreamScript
