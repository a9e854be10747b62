import StreamScript.Proofs.Program.Merging

/-!
# The lines of the script that is loaded

However the includes of a script lead to each other, its own lines stay what they are:
each stands in the program once, in its order and with its own number, and no other
line claims to come from it (`Loads.filter_lines`).  An included script has another name
than the scripts it is put into, up to the case of letters, and so never that of the
script at the root.

Which text that is depends on the name.  A name that is loaded has its extension taken
off before the source is asked, and the source takes one off as well.  A name with one
extension therefore leads to the text that the source has under it, but one with two
extensions leads to the text under another name, or to none
(`keepsIntact_iff`).
-/

namespace StreamScript

open Text

/-! ## Texts that are there -/

namespace Bindings

variable {α : Type} {k : String} {v : α}

theorem mem_of_get?_foldl {l : List (String × α)} {b : Bindings α}
    (h : (l.foldl (fun b e => b.insert e.1 e.2) b).get? k = some v) :
    (k, v) ∈ l ∨ b.get? k = some v := by
  induction l generalizing b with
  | nil => exact .inr h
  | cons e l ih =>
    obtain hmem | hget := ih h
    · exact .inl (List.mem_cons_of_mem _ hmem)
    · rw [get?_insert] at hget
      split at hget
      · next heq =>
        obtain rfl := Option.some.inj hget
        exact .inl (heq ▸ List.mem_cons_self ..)
      · exact .inr hget

/-- A value that a list binds to a name stands in the list. -/
theorem mem_of_get?_ofList {l : List (String × α)} (h : (ofList l).get? k = some v) :
    (k, v) ∈ l := by
  obtain hmem | hempty := mem_of_get?_foldl h
  · exact hmem
  · cases hempty

end Bindings

namespace Source

variable {scripts : List (String × List String)} {name : String}

theorem exists_script_of_content? {content : Content}
    (h : (ofScripts scripts).content? name = some content) :
    ∃ script ∈ scripts, content = .ok script.2 := by
  obtain ⟨key, -, hget⟩ := Option.bind_eq_some_iff.mp h
  obtain ⟨script, hmem, hscript⟩ := List.mem_map.mp (Bindings.mem_of_get?_ofList hget)
  exact ⟨script, hmem, (Prod.mk.inj hscript).2.symm⟩

/-- Scripts that are kept in memory can be read. -/
theorem exists_load_of_contains (h : (ofScripts scripts).contains name = true) :
    ∃ text, (ofScripts scripts).load name = .ok text := by
  obtain ⟨content, hcontent⟩ := Option.isSome_iff_exists.mp h
  obtain ⟨script, -, rfl⟩ := exists_script_of_content? hcontent
  exact ⟨script.2, by rw [load, hcontent]⟩

/-- A text that is loaded from memory is that of a script there. -/
theorem exists_script_of_load {text : List String} (h : (ofScripts scripts).load name = .ok text) :
    ∃ script ∈ scripts, script.2 = text := by
  obtain ⟨script, hmem, htext⟩ := exists_script_of_content? (content?_of_load h)
  exact ⟨script, hmem, (Except.ok.inj htext).symm⟩

end Source

namespace Program

variable {source : Source} {file name root : String} {outer text : List String}
  {entries : List (String × Nat)} {lines : List Line} {nestings : List (List String)}
  {program : Program}

/-! ## Which lines come from which script -/

theorem filter_ownLine? (h : file ≠ root) (entries : List (String × Nat)) :
    (entries.filterMap (ownLine? file)).filter (·.file == root) = [] := by
  refine List.filter_eq_nil_iff.mpr fun line hline heq => h ?_
  obtain ⟨entry, -, hown⟩ := List.mem_filterMap.mp hline
  exact (file_of_mem_ownLine? hown).symm.trans (beq_iff_eq.mp heq)

theorem ownLine?_of_included {entry : String × Nat} (h : included? entry.1 = some name) :
    ownLine? file entry = none := by
  rw [ownLine?, h, Option.isSome_some, Bool.or_true, if_pos rfl]

/-- **While a script is being put in, no other line claims to come from it.** -/
theorem Merges.filter_lines (h : Merges source file outer entries lines nestings)
    (hroot : lowered root ∈ (file :: outer).map lowered) :
    lines.filter (·.file == root) =
      (entries.filterMap (ownLine? file)).filter (·.file == root) := by
  induction h with
  | done => rfl
  | @own file outer entry rest lines nestings plain _ ih =>
    rw [List.filter_append, ih hroot, ← List.filter_append, List.filterMap_cons]
    cases ownLine? file entry <;> rfl
  | pass found _ _ ih | missing found _ _ _ ih =>
    rw [ih hroot, List.filterMap_cons, ownLine?_of_included found]
  | @enter file outer entry name text rest inner lines visits nestings found fresh _ _ _ ihWithin
      ihBehind =>
    have hother : name ≠ root := fun heq => fresh (heq ▸ hroot)
    rw [List.filter_append, ihWithin (List.mem_cons_of_mem _ hroot), filter_ownLine? hother,
      ihBehind hroot, List.nil_append, List.filterMap_cons, ownLine?_of_included found]

/-- The lines of a program that come from the script at its root are those of its text. -/
theorem Loads.filter_lines (h : Loads source name program nestings)
    (hload : source.load program.name = .ok text) :
    program.lines.toList.filter (·.file == program.name) = ownLines program.name text := by
  obtain ⟨-, text', hload', hmerges⟩ := h
  cases hload.symm.trans hload'
  have hroot : lowered program.name ∈ [program.name].map lowered := List.mem_cons_self ..
  rw [hmerges.filter_lines hroot, ← ownLines, List.filter_eq_self]
  intro line hline
  obtain ⟨entry, -, hown⟩ := List.mem_filterMap.mp hline
  exact beq_iff_eq.mpr (file_of_mem_ownLine? hown)

/-! ## Loading keeps the root intact -/

/-- Loading a name ends, and the lines that come from the script at the root are those of a text
that are not blank and include nothing, trimmed, in order and with their numbers. -/
def KeepsIntact (source : Source) (name : String) (text : List String) : Prop :=
  ∃ program nestings, load source name = .ok program ∧ Loads source name program nestings ∧
    program.lines.toList.filter (·.file == program.name) = ownLines program.name text

/-- A text is kept intact when it has the same lines as the one that is loaded. -/
theorem keepsIntact_iff_of_load :
    KeepsIntact source name text ↔
      ∃ kept, source.load (stemOf scriptExtension name) = .ok kept ∧
        ownLines (stemOf scriptExtension name) kept =
          ownLines (stemOf scriptExtension name) text := by
  constructor
  · rintro ⟨program, nestings, -, hloads, hlines⟩
    obtain ⟨kept, hkept, -⟩ := hloads.merges
    rw [hloads.filter_lines hkept, hloads.name_eq] at hlines
    exact ⟨kept, hloads.name_eq ▸ hkept, hlines⟩
  · rintro ⟨kept, hkept, hlines⟩
    obtain ⟨program, nestings, hload, hloads⟩ := exists_loads hkept
    rw [← hloads.name_eq] at hkept hlines
    exact ⟨program, nestings, hload, hloads, (hloads.filter_lines hkept).trans hlines⟩

/-- **Loading a script that is kept in memory leaves its text intact, unless its name has a second
extension.**  Whatever the scripts include, and in whatever circles, a name that is there is the
name of a text; loading ends, and the lines that come from the root are those of this text exactly
when the source, asked for the name without its extension, has a text with the same lines.  It has
if no second extension can be taken off. -/
theorem keepsIntact_iff (scripts : List (String × List String)) (name : String)
    (h : (Source.ofScripts scripts).contains name = true) :
    let source := Source.ofScripts scripts
    let stem := stemOf scriptExtension name
    ∃ text, source.load name = .ok text ∧
      (KeepsIntact source name text ↔
        ∃ kept, source.load stem = .ok kept ∧ ownLines stem kept = ownLines stem text) ∧
      (stemOf scriptExtension stem = stem → KeepsIntact source name text) := by
  intro source stem
  obtain ⟨text, htext⟩ := Source.exists_load_of_contains h
  refine ⟨text, htext, keepsIntact_iff_of_load, fun hstem => ?_⟩
  have hkey : source.key? stem = source.key? name := congrArg some hstem
  have hkept : source.load stem = .ok text := Source.load_of_key?_eq hkey htext
  exact keepsIntact_iff_of_load.mpr ⟨text, hkept, rfl⟩

/-- Two scripts that include each other and themselves, in several spellings, and one that is not
there. -/
def circling : List (String × List String) :=
  [("Camp.cmd",
    ["include hunt", "start:", "  echo camp ", "", "include CAMP.cmd", "include ghost"]),
   ("hunt", ["include camp.cmd", "echo hunt", "INCLUDE \"Hunt\""])]

/-- The first of them keeps its two lines, whatever is put in around them. -/
theorem circling_keepsIntact :
    (Source.ofScripts circling).contains "Camp.CMD" = true ∧
      ∃ program, load (Source.ofScripts circling) "Camp.CMD" = .ok program ∧
        (program.lines.toList.filter (·.file == "Camp")).map (fun l => (l.text, l.number)) =
          [("start:", 2), ("echo camp", 3)] := by
  have hthere : (Source.ofScripts circling).contains "Camp.CMD" = true := by decide +kernel
  obtain ⟨text, htext, -, hkeeps⟩ := keepsIntact_iff circling "Camp.CMD" hthere
  have hloaded : (Source.ofScripts circling).load "Camp.CMD" = .ok
      ["include hunt", "start:", "  echo camp ", "", "include CAMP.cmd", "include ghost"] :=
    Source.load_eq_of_toOption (by decide +kernel)
  cases htext.symm.trans hloaded
  have hstem : stemOf scriptExtension "Camp.CMD" = "Camp" := by decide +kernel
  rw [hstem] at hkeeps
  obtain ⟨program, nestings, hload, hloads, hlines⟩ := hkeeps (by decide +kernel)
  refine ⟨hthere, program, hload, ?_⟩
  rw [hloads.name_eq.trans hstem] at hlines
  rw [hlines]
  decide +kernel

/-- **A name with two extensions is there, and its text is not kept.**  It is not even loaded. -/
theorem twice_extended_not_kept :
    let source := Source.ofScripts [("camp.cmd.cmd", ["echo camp"])]
    source.contains "camp.cmd.cmd" = true ∧ source.load "camp.cmd.cmd" = .ok ["echo camp"] ∧
      ¬ KeepsIntact source "camp.cmd.cmd" ["echo camp"] := by
  intro source
  have hmissing : (source.load (stemOf scriptExtension "camp.cmd.cmd")).toOption = none := by
    decide +kernel
  refine ⟨by decide +kernel, Source.load_eq_of_toOption (by decide +kernel), fun hkeeps => ?_⟩
  obtain ⟨kept, hkept, -⟩ := keepsIntact_iff_of_load.mp hkeeps
  rw [hkept] at hmissing
  cases hmissing

end Program

end StreamScript
