import StreamScript.Program.Disk
import StreamScript.Proofs.Program.RootLines

/-!
# Texts within themselves

While a script is being put in, an include of it is passed over.  Scripts are told apart
by their names there, but it is the source that decides which text a name stands for, and
it takes an extension off and resolves paths of its own.  Two names that are not the same
may so stand for one text, and this text is then put in within itself.

No text is, exactly when no chain of includes leads from a name to another one with the
same key (`neverNests_iff`).  For scripts in memory it is enough that no name that occurs
has an extension left when one has been taken off.
-/

namespace StreamScript

open Text

namespace Program

variable {source : Source} {name root : String} {stack : List String}

/-! ## Names with one key -/

/-- While the text under a key is being put in, no text under the same key is begun. -/
def NeverNests (source : Source) (name : String) : Prop :=
  ∀ program nestings, Loads source name program nestings →
    ∀ stack ∈ nestings, (stack.map source.key?).Nodup

/-- No chain of includes leads from a name to another one with the same key.  The names in a chain
differ in more than the case of letters, and each is included by the text of the one before. -/
def KeysDiffer (source : Source) (name : String) : Prop :=
  ∀ stack, Nests source (stemOf scriptExtension name) stack →
    stack.Pairwise fun inner outer => source.key? inner ≠ source.key? outer

theorem neverNests_iff_keysDiffer : NeverNests source name ↔ KeysDiffer source name := by
  have hnodup (stack : List String) : (stack.map source.key?).Nodup ↔
      stack.Pairwise fun inner outer => source.key? inner ≠ source.key? outer := List.pairwise_map
  constructor
  · intro hnever stack hnests
    obtain ⟨text, hload⟩ := hnests.exists_load
    obtain ⟨program, nestings, -, hloads⟩ := exists_loads hload
    rw [← hloads.name_eq, ← hloads.mem_iff] at hnests
    obtain rfl | hmem := List.mem_cons.mp hnests
    · exact List.pairwise_singleton _ _
    · exact (hnodup stack).mp (hnever program nestings hloads stack hmem)
  · intro hchains program nestings hloads stack hmem
    have hnests := hloads.mem_iff.mp (List.mem_cons_of_mem _ hmem)
    exact (hnodup stack).mpr (hchains stack (hloads.name_eq ▸ hnests))

/-! ## Scripts in memory -/

theorem Nests.stem_eq {scripts : List (String × List String)}
    (hroot : stemOf scriptExtension root = root)
    (hincludes : ∀ script ∈ scripts, ∀ target ∈ includes script.2,
      stemOf scriptExtension target = target)
    (h : Nests (Source.ofScripts scripts) root stack) :
    ∀ n ∈ stack, stemOf scriptExtension n = n := by
  induction h with
  | root => exact List.forall_mem_singleton.mpr hroot
  | enter _ loaded included _ _ ih =>
    obtain ⟨script, hscript, htext⟩ := Source.exists_script_of_load loaded
    exact List.forall_mem_cons.mpr ⟨hincludes script hscript _ (htext ▸ included), ih⟩

/-- Where no second extension can be taken off a name, names with one key differ at most in the case
of letters. -/
theorem keysDiffer_of_stems {scripts : List (String × List String)}
    (hroot : stemOf scriptExtension (stemOf scriptExtension name) = stemOf scriptExtension name)
    (hincludes : ∀ script ∈ scripts, ∀ target ∈ includes script.2,
      stemOf scriptExtension target = target) :
    KeysDiffer (Source.ofScripts scripts) name := by
  intro stack hnests
  have hstems := hnests.stem_eq hroot hincludes
  refine (List.pairwise_map.mp hnests.nodup).imp_of_mem fun {inner outer} hinner houter hne hkey =>
    hne (congrArg lowered ?_)
  have hsame : stemOf scriptExtension inner = stemOf scriptExtension outer := Option.some.inj hkey
  rwa [hstems inner hinner, hstems outer houter] at hsame

/-! ## When no text is put in within itself -/

/-- **No text is put in within itself exactly when no chain of includes leads from a name to another
one with the same key.**  What is put in, and within what, is what `Loads` says, and this is how
scripts are loaded.  Among scripts in memory there is no such chain when no second extension can be
taken off the name that is loaded, nor off one that is included. -/
theorem neverNests_iff (source : Source) (name : String) :
    (∀ program, load source name = .ok program ↔
      ∃ nestings, Loads source name program nestings) ∧
    (NeverNests source name ↔
      ∀ stack, Nests source (stemOf scriptExtension name) stack →
        stack.Pairwise fun inner outer => source.key? inner ≠ source.key? outer) ∧
    ∀ scripts, source = Source.ofScripts scripts →
      stemOf scriptExtension (stemOf scriptExtension name) = stemOf scriptExtension name →
      (∀ script ∈ scripts, ∀ target ∈ includes script.2, stemOf scriptExtension target = target) →
      NeverNests source name := by
  refine ⟨fun program => load_eq_ok_iff, neverNests_iff_keysDiffer, ?_⟩
  rintro scripts rfl hroot hincludes
  exact neverNests_iff_keysDiffer.mpr (keysDiffer_of_stems hroot hincludes)

/-- Two scripts that include each other. -/
def eachOther : List (String × List String) :=
  [("camp", ["include tent", "echo camp"]), ("tent", ["include camp", "echo tent"])]

/-- Neither is put in within itself. -/
theorem neverNests_eachOther : NeverNests (Source.ofScripts eachOther) "camp.cmd" :=
  (neverNests_iff _ "camp.cmd").2.2 eachOther rfl (by decide +kernel) (by decide +kernel)

/-! ## Scripts under two names -/

/-- A script that includes itself under another name with the same key is put in within itself. -/
theorem not_neverNests_of_alias (other : String) (text : List String)
    (hname : stemOf scriptExtension name = name) (hload : source.load name = .ok text)
    (hincluded : other ∈ includes text) (hkey : source.key? other = source.key? name)
    (hne : lowered other ≠ lowered name) : ¬ NeverNests source name := by
  intro hnever
  have hnests : Nests source name [other, name] :=
    .enter (.root hload) hload hincluded (Source.load_of_key?_eq hkey hload)
      (fun hmem => hne (List.mem_singleton.mp hmem))
  have hchain := neverNests_iff_keysDiffer.mp hnever [other, name] (hname.symm ▸ hnests)
  exact (List.pairwise_cons.mp hchain).1 name (List.mem_singleton_self name) hkey

/-- **A script is put in within itself** when it includes itself under a name with two extensions,
or, from a folder whose scripts have another extension, under the name of its file. -/
theorem camp_nests_itself :
    ¬ NeverNests (Source.ofScripts [("camp", ["include camp.cmd.cmd", "echo camp"])]) "camp" ∧
      ¬ NeverNests ((Disk.ofFiles [("camp.txt", "include camp.txt".toUTF8)]).source
        (Folder.withExtension "" "txt")) "camp" := by
  constructor
  · exact not_neverNests_of_alias "camp.cmd" ["include camp.cmd.cmd", "echo camp"]
      (by decide +kernel) (Source.load_eq_of_toOption (by decide +kernel)) (by decide +kernel)
      (by decide +kernel) (by decide +kernel)
  · exact not_neverNests_of_alias "camp.txt" ["include camp.txt"] (by decide +kernel)
      (Source.load_eq_of_toOption (by decide +kernel)) (by decide +kernel) (by decide +kernel)
      (by decide +kernel)

end Program

end StreamScript
