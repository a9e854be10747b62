import StreamScript.Program.Load

/-!
# Putting includes in comes to an end

Includes may lead in circles, and the names that are passed over are those of the
scripts being put in at that moment: the set grows when a script is begun and
shrinks when it is done.  The same script may therefore be put in many times, one
time behind the other, but never under a name that is being put in already.

`Merges` says what putting in does without any bound, by one rule for each kind of
line.  It keeps the names themselves, and it tells which scripts were being put in
whenever a further text was begun.  A derivation is finite, so having one means that
putting in ends, and there is one for every text (`merges_expand`): of the finitely
many names that occur, each one begun leaves one less that can still be begun.
Loading is what `Merges` says, in both directions (`load_eq_ok_iff`).
-/

namespace StreamScript

open Text

namespace Source

variable {source : Source} {name name' : String} {text : List String}

theorem content?_of_load (h : source.load name = .ok text) :
    source.content? name = some (.ok text) := by
  rw [load] at h
  split at h
  · cases h
  · cases h
  · next heq => cases h; exact heq

/-- Names with one key stand for one text. -/
theorem load_of_key?_eq (hkey : source.key? name' = source.key? name)
    (h : source.load name = .ok text) : source.load name' = .ok text := by
  have hcontent : source.content? name' = source.content? name := by
    rw [content?, content?, hkey]
  rw [load, hcontent, content?_of_load h]

/-- What comes of loading a script can be told from whether there is a text, and which. -/
theorem load_eq_of_toOption (h : (source.load name).toOption = some text) :
    source.load name = .ok text := by
  cases hload : source.load name with
  | error cause => rw [hload] at h; cases h
  | ok text' => rw [hload] at h; cases h; rfl

end Source

namespace Program

variable {source : Source} {file name raw root : String} {outer text : List String}
  {entries rest : List (String × Nat)} {lines inner : List Line}
  {nestings visits : List (List String)} {depth number : Nat} {program : Program}

/-! ## The lines of a text -/

/-- The script that a line includes. -/
def included? (raw : String) : Option String :=
  (includeTarget? (trim raw.toList)).map (stemOf scriptExtension)

/-- What a line stands for by itself: nothing if it is blank or includes a script. -/
def ownLine? (file : String) (entry : String × Nat) : Option Line :=
  let cs := trim entry.1.toList
  if cs.isEmpty || (included? entry.1).isSome then none
  else some (.ofText file entry.2 (String.ofList cs))

/-- The lines of a text that are not blank and include nothing, trimmed and numbered from one. -/
def ownLines (file : String) (text : List String) : List Line :=
  (text.zipIdx 1).filterMap (ownLine? file)

theorem file_of_mem_ownLine? {entry : String × Nat} {line : Line}
    (h : line ∈ ownLine? file entry) : line.file = file := by
  rw [ownLine?] at h
  split at h
  · cases h
  · obtain rfl := Option.some.inj h
    rfl

/-- What a line stands for depends on what it includes. -/
theorem mergeLine_eq (source : Source) (expanding : List String)
    (inner : String → List String → List Line) (file : String) (entry : String × Nat) :
    mergeLine source expanding inner file entry.2 entry.1 =
      match included? entry.1 with
      | none => (ownLine? file entry).toList
      | some name =>
          if expanding.contains (lowered name) then []
          else
            match source.load name with
            | .ok text => inner name text
            | .error _ => [] := by
  rw [mergeLine, ownLine?, included?]
  dsimp only
  cases hcs : trim entry.1.toList with
  | nil => rfl
  | cons c cs =>
    cases includeTarget? (c :: cs) with
    | none => rfl
    | some target => rfl

/-! ## Putting in -/

/-- **Putting the scripts in that some lines include.**  The lines are the `entries` of `file`,
which is being put in itself, as are the scripts in `outer`, the innermost first.  The result is the
`lines` that they stand for, and for every text that is begun on the way the `nestings` of names
that are being put in then. -/
inductive Merges (source : Source) : (file : String) → (outer : List String) →
    (entries : List (String × Nat)) → (lines : List Line) → (nestings : List (List String)) → Prop
  /-- No line is left. -/
  | done {file : String} {outer : List String} : Merges source file outer [] [] []
  /-- A line that includes nothing stands for itself, if it is not blank. -/
  | own {file : String} {outer : List String} {entry : String × Nat}
      {rest : List (String × Nat)} {lines : List Line} {nestings : List (List String)}
      (plain : included? entry.1 = none) (behind : Merges source file outer rest lines nestings) :
      Merges source file outer (entry :: rest) ((ownLine? file entry).toList ++ lines) nestings
  /-- A script that is being put in is passed over, in whatever case its name is written. -/
  | pass {file : String} {outer : List String} {entry : String × Nat} {name : String}
      {rest : List (String × Nat)} {lines : List Line} {nestings : List (List String)}
      (found : included? entry.1 = some name)
      (open_ : lowered name ∈ (file :: outer).map lowered)
      (behind : Merges source file outer rest lines nestings) :
      Merges source file outer (entry :: rest) lines nestings
  /-- A script that cannot be loaded is passed over. -/
  | missing {file : String} {outer : List String} {entry : String × Nat} {name : String}
      {cause : LoadError} {rest : List (String × Nat)} {lines : List Line}
      {nestings : List (List String)} (found : included? entry.1 = some name)
      (fresh : lowered name ∉ (file :: outer).map lowered)
      (failed : source.load name = .error cause)
      (behind : Merges source file outer rest lines nestings) :
      Merges source file outer (entry :: rest) lines nestings
  /-- Any other script is put in where it is included. -/
  | enter {file : String} {outer : List String} {entry : String × Nat} {name : String}
      {text : List String} {rest : List (String × Nat)} {inner lines : List Line}
      {visits nestings : List (List String)} (found : included? entry.1 = some name)
      (fresh : lowered name ∉ (file :: outer).map lowered)
      (loaded : source.load name = .ok text)
      (within : Merges source name (file :: outer) (text.zipIdx 1) inner visits)
      (behind : Merges source file outer rest lines nestings) :
      Merges source file outer (entry :: rest) (inner ++ lines)
        ((name :: file :: outer) :: (visits ++ nestings))

/-- What is put in is determined by the text. -/
theorem Merges.unique {lines' : List Line} {nestings' : List (List String)}
    (h : Merges source file outer entries lines nestings)
    (h' : Merges source file outer entries lines' nestings') :
    lines = lines' ∧ nestings = nestings' := by
  induction h generalizing lines' nestings' with
  | done =>
    cases h'
    exact ⟨rfl, rfl⟩
  | own plain _ ih =>
    cases h' with
    | own _ behind =>
      obtain ⟨rfl, rfl⟩ := ih behind
      exact ⟨rfl, rfl⟩
    | pass found | missing found | enter found => cases plain.symm.trans found
  | pass found open_ _ ih =>
    cases h' with
    | own plain => cases plain.symm.trans found
    | pass _ _ behind => exact ih behind
    | missing found' fresh | enter found' fresh =>
      cases found.symm.trans found'
      exact absurd open_ fresh
  | missing found fresh failed _ ih =>
    cases h' with
    | own plain => cases plain.symm.trans found
    | pass found' open_ =>
      cases found.symm.trans found'
      exact absurd open_ fresh
    | missing _ _ _ behind => exact ih behind
    | enter found' _ loaded =>
      cases found.symm.trans found'
      cases failed.symm.trans loaded
  | enter found fresh loaded _ _ ihWithin ihBehind =>
    cases h' with
    | own plain => cases plain.symm.trans found
    | pass found' open_ =>
      cases found.symm.trans found'
      exact absurd open_ fresh
    | missing found' _ failed =>
      cases found.symm.trans found'
      cases failed.symm.trans loaded
    | enter found' _ loaded' within behind =>
      cases found.symm.trans found'
      cases loaded.symm.trans loaded'
      obtain ⟨rfl, rfl⟩ := ihWithin within
      obtain ⟨rfl, rfl⟩ := ihBehind behind
      exact ⟨rfl, rfl⟩

/-! ## It comes to an end -/

/-- The names in small letters that the texts of a source include. -/
def mentioned (source : Source) : List String :=
  source.texts.entries.flatMap fun e =>
    match e.2 with
    | .ok text => (includes text).map lowered
    | .error _ => []

/-- How many of these names are not being put in. -/
def untouched (source : Source) (names : List String) : Nat :=
  ((mentioned source).filter fun name => !(names.map lowered).contains name).length

theorem mem_mentioned (hload : source.load name = .ok text) {target : String}
    (h : target ∈ includes text) : lowered target ∈ mentioned source := by
  obtain ⟨key, -, hget⟩ := Option.bind_eq_some_iff.mp (Source.content?_of_load hload)
  exact List.mem_flatMap.mpr ⟨_, Bindings.mem_of_find hget, List.mem_map_of_mem h⟩

theorem length_mentioned_le (source : Source) : (mentioned source).length ≤ source.lineCount := by
  rw [mentioned, Source.lineCount]
  induction source.texts.entries with
  | nil => exact Nat.le_refl 0
  | cons e entries ih =>
    obtain ⟨key, cause | text⟩ := e
    · rw [List.flatMap_cons, List.foldr_cons, List.nil_append]
      exact ih
    · have hincludes : (includes text).length ≤ text.length := List.length_filterMap_le _ _
      rw [List.flatMap_cons, List.foldr_cons, List.length_append, List.length_map]
      exact Nat.add_le_add hincludes ih

/-- A name that is begun is one less that can still be begun. -/
theorem untouched_cons_lt {names : List String} (h : lowered name ∈ mentioned source)
    (hfresh : lowered name ∉ names.map lowered) :
    untouched source (name :: names) < untouched source names := by
  have hsplit : ((mentioned source).filter fun n => !((name :: names).map lowered).contains n) =
      ((mentioned source).filter fun n => !(names.map lowered).contains n).filter
        (· != lowered name) := by
    rw [List.filter_filter]
    refine List.filter_congr fun n _ => ?_
    rw [List.map_cons, List.contains_cons, Bool.not_or]
    rfl
  rw [untouched, hsplit, untouched]
  refine List.length_filter_lt_length_iff_exists.mpr ⟨lowered name, ?_, by simp⟩
  exact List.mem_filter.mpr ⟨h, by simpa using hfresh⟩

/-- **Putting in ends, and the bound on the depth of nesting is never met**: the bound has only to
exceed the number of names that can still be begun. -/
theorem merges_expand (htext : ∀ target ∈ includes text, lowered target ∈ mentioned source)
    (hdepth : untouched source (file :: outer) < depth) :
    ∃ nestings, Merges source file outer (text.zipIdx 1)
      (expand source depth (outer.map lowered) file text) nestings := by
  induction depth generalizing file outer text with
  | zero => exact absurd hdepth (Nat.not_lt_zero _)
  | succ depth ih =>
    rw [expand]
    have hentries : ∀ e ∈ text.zipIdx 1, ∀ target, included? e.1 = some target →
        lowered target ∈ mentioned source := by
      intro e he target htarget
      have hmem : e.1 ∈ text := List.fst_mem_of_mem_zipIdx he
      exact htext target (List.mem_filterMap.mpr ⟨e.1, hmem, htarget⟩)
    clear htext
    generalize text.zipIdx 1 = entries at hentries
    induction entries with
    | nil => exact ⟨[], .done⟩
    | cons e rest ihRest =>
      obtain ⟨he, hrest⟩ := List.forall_mem_cons.mp hentries
      obtain ⟨nestings, behind⟩ := ihRest hrest
      rw [List.flatMap_cons, mergeLine_eq, ← List.map_cons]
      cases hfound : included? e.1 with
      | none => exact ⟨nestings, .own hfound behind⟩
      | some name =>
        dsimp only
        by_cases hopen : lowered name ∈ (file :: outer).map lowered
        · rw [if_pos (List.contains_iff_mem.mpr hopen), List.nil_append]
          exact ⟨nestings, .pass hfound hopen behind⟩
        · rw [if_neg fun h => hopen (List.contains_iff_mem.mp h)]
          cases hload : source.load name with
          | error cause => exact ⟨nestings, .missing hfound hopen hload behind⟩
          | ok text' =>
            have hless := untouched_cons_lt (he name hfound) hopen
            obtain ⟨visits, within⟩ : ∃ visits, Merges source name (file :: outer)
                (text'.zipIdx 1) (expand source depth ((file :: outer).map lowered) name text')
                visits := ih (fun target => mem_mentioned hload) (by omega)
            exact ⟨_, .enter hfound hopen hload within behind⟩

/-! ## Loading -/

/-- Loading a script gives a program, and tells which scripts were being put in whenever an included
text was begun. -/
structure Loads (source : Source) (name : String) (program : Program)
    (nestings : List (List String)) : Prop where
  name_eq : program.name = stemOf scriptExtension name
  merges : ∃ text, source.load program.name = .ok text ∧
    Merges source program.name [] (text.zipIdx 1) program.lines.toList nestings

theorem ext_of_lines {p p' : Program} (hname : p.name = p'.name)
    (hlines : p.lines.toList = p'.lines.toList) : p = p' := by
  obtain ⟨name, lines, labels, hlabels⟩ := p
  obtain ⟨name', lines', labels', hlabels'⟩ := p'
  obtain rfl : name = name' := hname
  obtain rfl : lines = lines' := Array.toList_inj.mp hlines
  obtain rfl : labels = labels' := hlabels.trans hlabels'.symm
  rfl

theorem load_of_error {cause : LoadError}
    (h : source.load (stemOf scriptExtension name) = .error cause) :
    load source name = .error cause := by
  rw [load, h]
  rfl

theorem load_of_ok (h : source.load (stemOf scriptExtension name) = .ok text) :
    load source name = .ok
      { name := stemOf scriptExtension name
        lines := (expand source (source.lineCount + 1) [] (stemOf scriptExtension name)
          text).toArray } := by
  rw [load, h]
  rfl

/-- A script that is there is loaded. -/
theorem exists_loads (h : source.load (stemOf scriptExtension name) = .ok text) :
    ∃ program nestings, load source name = .ok program ∧ Loads source name program nestings := by
  have hlt : untouched source [stemOf scriptExtension name] < source.lineCount + 1 :=
    Nat.lt_succ_of_le
      (Nat.le_trans (List.length_filter_le _ _) (length_mentioned_le source))
  obtain ⟨nestings, hmerges⟩ : ∃ nestings, Merges source (stemOf scriptExtension name) []
      (text.zipIdx 1) (expand source (source.lineCount + 1) [] (stemOf scriptExtension name) text)
      nestings := merges_expand (fun target => mem_mentioned h) hlt
  exact ⟨_, nestings, load_of_ok h, rfl, text, h, hmerges⟩

/-- **Loading does what putting in does**: it ends in a program exactly when the script is there,
and then with the lines that putting its includes in makes of it. -/
theorem load_eq_ok_iff :
    load source name = .ok program ↔ ∃ nestings, Loads source name program nestings := by
  constructor
  · intro h
    cases hload : source.load (stemOf scriptExtension name) with
    | error cause => cases h.symm.trans (load_of_error hload)
    | ok text =>
      obtain ⟨program', nestings, hload', hloads⟩ := exists_loads hload
      cases h.symm.trans hload'
      exact ⟨nestings, hloads⟩
  · rintro ⟨nestings, hname, text, hload, hmerges⟩
    rw [hname] at hload
    obtain ⟨program', nestings', hload', hname', text', hload'', hmerges'⟩ := exists_loads hload
    have hsame : program'.name = program.name := hname'.trans hname.symm
    rw [hname'] at hload''
    cases hload.symm.trans hload''
    rw [hsame] at hmerges'
    rw [hload', ext_of_lines hsame (hmerges'.unique hmerges).1]

/-! ## Which scripts are being put in -/

/-- The scripts that can be being put in at one moment, the innermost first: each is included by the
text of the one around it, and no name occurs twice. -/
inductive Nests (source : Source) (root : String) : List String → Prop
  /-- The script that is loaded stands alone. -/
  | root {text : List String} (loaded : source.load root = .ok text) : Nests source root [root]
  /-- A script is put in that the innermost one includes. -/
  | enter {file name : String} {outer text text' : List String}
      (around : Nests source root (file :: outer)) (loaded : source.load file = .ok text)
      (included : name ∈ includes text) (loaded' : source.load name = .ok text')
      (fresh : lowered name ∉ (file :: outer).map lowered) :
      Nests source root (name :: file :: outer)

theorem Nests.nodup {names : List String} (h : Nests source root names) :
    (names.map lowered).Nodup := by
  induction h with
  | root => exact List.nodup_cons.mpr ⟨List.not_mem_nil, List.nodup_nil⟩
  | enter _ _ _ _ fresh ih => exact List.nodup_cons.mpr ⟨fresh, ih⟩

/-- What is put in lies within the script that is loaded. -/
theorem Nests.exists_load {names : List String} (h : Nests source root names) :
    ∃ text, source.load root = .ok text := by
  induction h with
  | root loaded => exact ⟨_, loaded⟩
  | enter _ _ _ _ _ ih => exact ih

theorem Merges.nests (h : Merges source file outer entries lines nestings)
    (hopen : Nests source root (file :: outer)) (hload : source.load file = .ok text)
    (hentries : ∀ e ∈ entries, e.1 ∈ text) : ∀ stack ∈ nestings, Nests source root stack := by
  induction h generalizing text with
  | done => exact nofun
  | own _ _ ih | pass _ _ _ ih | missing _ _ _ _ ih =>
    exact ih hopen hload (List.forall_mem_cons.mp hentries).2
  | @enter _ _ e _ _ _ _ _ _ _ found fresh loaded _ _ ihWithin ihBehind =>
    obtain ⟨he, hrest⟩ := List.forall_mem_cons.mp hentries
    have hinner := Nests.enter hopen hload (List.mem_filterMap.mpr ⟨e.1, he, found⟩) loaded fresh
    have hwithin := ihWithin hinner loaded fun e => List.fst_mem_of_mem_zipIdx
    exact List.forall_mem_cons.mpr
      ⟨hinner, List.forall_mem_append.mpr ⟨hwithin, ihBehind hopen hload hrest⟩⟩

/-- Of the lines of a text, each include that can be put in is put in. -/
theorem Merges.mem_of_included (h : Merges source file outer entries lines nestings)
    {entry : String × Nat} (hentry : entry ∈ entries) (hfound : included? entry.1 = some name)
    (hload : source.load name = .ok text) (hfresh : lowered name ∉ (file :: outer).map lowered) :
    name :: file :: outer ∈ nestings := by
  induction h with
  | done => cases hentry
  | own plain _ ih =>
    obtain rfl | hrest := List.mem_cons.mp hentry
    · cases plain.symm.trans hfound
    · exact ih hrest hfresh
  | pass found open_ _ ih =>
    obtain rfl | hrest := List.mem_cons.mp hentry
    · cases found.symm.trans hfound
      exact absurd open_ hfresh
    · exact ih hrest hfresh
  | missing found _ failed _ ih =>
    obtain rfl | hrest := List.mem_cons.mp hentry
    · cases found.symm.trans hfound
      cases failed.symm.trans hload
    · exact ih hrest hfresh
  | enter found _ _ _ _ _ ihBehind =>
    obtain rfl | hrest := List.mem_cons.mp hentry
    · cases found.symm.trans hfound
      exact List.mem_cons_self ..
    · exact List.mem_cons_of_mem _ (List.mem_append_right _ (ihBehind hrest hfresh))

theorem exists_entry_of_mem_includes (h : name ∈ includes text) :
    ∃ entry ∈ text.zipIdx 1, included? entry.1 = some name := by
  obtain ⟨raw, hraw, hfound⟩ := List.mem_filterMap.mp h
  obtain ⟨i, hi⟩ := List.mem_iff_getElem?.mp hraw
  refine ⟨(raw, 1 + i), List.mk_mem_zipIdx_iff_le_and_getElem?_sub.mpr ⟨?_, ?_⟩, hfound⟩
  · exact Nat.le_add_right 1 i
  · rwa [Nat.add_sub_cancel_left]

/-- The includes of an included text are put in as well. -/
theorem Merges.mem_of_nested (h : Merges source file outer entries lines nestings) {around : String}
    {rest : List String} (hmem : around :: rest ∈ nestings) {text' : List String}
    (hload : source.load around = .ok text) (hincluded : name ∈ includes text)
    (hload' : source.load name = .ok text') (hfresh : lowered name ∉ (around :: rest).map lowered) :
    name :: around :: rest ∈ nestings := by
  induction h with
  | done => cases hmem
  | own _ _ ih | pass _ _ _ ih | missing _ _ _ _ ih => exact ih hmem
  | enter found _ loaded within _ ihWithin ihBehind =>
    refine List.mem_cons_of_mem _ (List.mem_append.mpr ?_)
    obtain heq | hmem := List.mem_cons.mp hmem
    · cases heq
      cases loaded.symm.trans hload
      obtain ⟨entry, hentry, hfound⟩ := exists_entry_of_mem_includes hincluded
      exact .inl (within.mem_of_included hentry hfound hload' hfresh)
    · exact (List.mem_append.mp hmem).imp ihWithin ihBehind

/-- **The scripts that are being put in when a text is begun are those that can be.** -/
theorem Loads.mem_iff (h : Loads source name program nestings) {stack : List String} :
    stack ∈ [program.name] :: nestings ↔ Nests source program.name stack := by
  obtain ⟨-, text, hload, hmerges⟩ := h
  constructor
  · intro hmem
    obtain rfl | hmem := List.mem_cons.mp hmem
    · exact .root hload
    · exact hmerges.nests (.root hload) hload (fun e => List.fst_mem_of_mem_zipIdx) stack hmem
  · intro hnests
    induction hnests with
    | root => exact List.mem_cons_self ..
    | @enter around name' outer text' _ _ loaded included loaded' fresh ih =>
      refine List.mem_cons_of_mem _ ?_
      obtain heq | hmem := List.mem_cons.mp ih
      · cases heq
        cases hload.symm.trans loaded
        obtain ⟨entry, hentry, hfound⟩ := exists_entry_of_mem_includes included
        exact hmerges.mem_of_included hentry hfound loaded' fresh
      · exact hmerges.mem_of_nested hmem loaded included loaded' fresh

end Program

end StreamScript
