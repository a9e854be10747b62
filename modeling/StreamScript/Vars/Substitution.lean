import StreamScript.Number.Integer
import StreamScript.Text.Cursor
import StreamScript.Text.Trim

/-!
# Putting variables into text

A reference is a sigil and a name.  Each sigil has an ordered list of scopes in
which names are looked up; the first scope that has the name decides.  When the
whole name is unknown it is shortened from the right until some front part is
known, and what was cut off stays behind the value.

A name may be followed by an index in brackets or parentheses.  It then means an
item of a list whose items are divided by bars.  The index is text in its own
right: variables are put into it first.  An index past the end leaves the
reference as it was written, and an index that is no number leaves the whole list
with the index behind it; what has been left like this is never touched again.

Values may hold references themselves, so the text is gone over again until
nothing changes, at most fifteen times and only until it exceeds sixteen
kilobytes.  That bounds the passes over one text, but not the indices within
indices: the index of a reference found in a later pass starts afresh.  Putting
variables in is therefore a recursion that need not end, and `none` stands for
one that does not.
-/

namespace StreamScript

open Text Number

/-- Where a sigil looks names up. -/
abbrev Lookup : Type := String → Option String

/-- Sigils with the scopes they search, in order of registration. -/
structure Sigils where
  entries : List (Char × List Lookup) := []

namespace Sigils

/-- Adds a scope behind those that a sigil already searches. -/
def register (sg : Sigils) (sigil : Char) (look : Lookup) : Sigils :=
  if sg.entries.any (·.1 == sigil) then
    ⟨sg.entries.map fun e => if e.1 == sigil then (e.1, e.2 ++ [look]) else e⟩
  else ⟨sg.entries ++ [(sigil, [look])]⟩

/-- Whether a character is a registered sigil. -/
def isSigil (sg : Sigils) (c : Char) : Bool :=
  sg.entries.any (·.1 == c)

/-- The value of a name under a sigil: that of the first scope that has one. -/
def lookup (sg : Sigils) (sigil : Char) (name : List Char) : Option (List Char) :=
  match sg.entries.lookup sigil with
  | none => none
  | some looks => (looks.findSome? fun look => look (String.ofList name)).map String.toList

end Sigils

namespace Substitution

/-- Characters of a name. -/
def isNameChar (c : Char) : Bool :=
  c.isAlphanum || c == '_' || c == '.' || c == '-'

/-- The sigils that can carry an index. -/
def isIndexSigil (c : Char) : Bool :=
  c == '$' || c == '%' || c == '&'

/-- Characters of an index. -/
def isIndexChar (c : Char) : Bool :=
  isNameChar c || isIndexSigil c

/-! ## References with an index -/

/-- A reference with an index. -/
structure Indexed where
  sigil : Char
  name : List Char
  opener : Char
  index : List Char
  closer : Char
  deriving DecidableEq, Repr

/-- A reference as it was written. -/
def Indexed.text (r : Indexed) : List Char :=
  r.sigil :: r.name ++ r.opener :: r.index ++ [r.closer]

/-- Reads a reference with an index whose sigil is `sigil`; the second part is what follows it. -/
def readIndexed? (sigil : Char) (cs : List Char) : Option (Indexed × List Char) :=
  let name := cs.takeWhile isNameChar
  match cs.dropWhile isNameChar with
  | [] => none
  | opener :: inner =>
      let index := inner.takeWhile isIndexChar
      match inner.dropWhile isIndexChar with
      | [] => none
      | closer :: rest =>
          if name ≠ [] ∧ (opener = '[' ∨ opener = '(') ∧ index ≠ [] ∧
              (closer = ']' ∨ closer = ')') then
            some (⟨sigil, name, opener, index, closer⟩, rest)
          else none

theorem length_readIndexed?_lt {sigil : Char} {cs rest : List Char} {r : Indexed}
    (h : readIndexed? sigil cs = some (r, rest)) : rest.length < cs.length := by
  unfold readIndexed? at h
  split at h
  · simp at h
  · next opener inner hd =>
    split at h
    · simp at h
    · next closer more hi =>
      dsimp only at h
      split at h
      · simp only [Option.some.injEq, Prod.mk.injEq] at h
        obtain ⟨-, rfl⟩ := h
        have h1 := (List.dropWhile_suffix (l := cs) isNameChar).length_le
        have h2 := (List.dropWhile_suffix (l := inner) isIndexChar).length_le
        rw [hd] at h1
        rw [hi] at h2
        simp only [List.length_cons] at h1 h2
        omega
      · simp at h

/-- A stretch of text; a protected one is left alone from then on. -/
structure Segment where
  text : List Char
  isProtected : Bool := false
  deriving DecidableEq, Repr

/-- The text of several stretches. -/
def join (segs : List Segment) : List Char :=
  segs.flatMap (·.text)

/-- Joins neighbouring stretches that are not protected. -/
def mergeOpen : List Segment → List Segment
  | [] => []
  | seg :: rest =>
      match mergeOpen rest with
      | [] => [seg]
      | next :: more =>
          if !seg.isProtected && !next.isProtected then ⟨seg.text ++ next.text, false⟩ :: more
          else seg :: next :: more

/-- What stands in the place of a reference, given its list and its index after substitution. -/
def choose (r : Indexed) (list index : List Char) : Segment :=
  match readInt64? (trim index) with
  | some i =>
      if 0 ≤ i.toInt then
        match (splitAt '|' list)[i.toInt.toNat]? with
        | some item => ⟨item, false⟩
        | none => ⟨r.text, true⟩
      else ⟨r.text, true⟩
  | none => ⟨list ++ r.opener :: index ++ [r.closer], true⟩

/-- A piece of a text in which references with an index are looked for. -/
inductive Piece where
  /-- A stretch that holds none. -/
  | stretch (seg : Segment)
  /-- A reference to a name that is known, and the list it stands for. -/
  | item (r : Indexed) (list : List Char)
  deriving DecidableEq, Repr

/-- The pieces of a text.  `plain` holds what has been passed since the last reference, the latest
character first. -/
def piecesFrom (sg : Sigils) (plain : List Char) : (cs : List Char) → List Piece
  | [] => [.stretch ⟨plain.reverse, false⟩]
  | c :: rest =>
      if isIndexSigil c then
        match _h : readIndexed? c rest with
        | none => piecesFrom sg (c :: plain) rest
        | some (r, more) =>
            match sg.lookup c r.name with
            | none => piecesFrom sg (r.text.reverse ++ plain) more
            | some list => .stretch ⟨plain.reverse, false⟩ :: .item r list :: piecesFrom sg [] more
      else piecesFrom sg (c :: plain) rest
termination_by cs => cs.length
decreasing_by
  all_goals simp only [List.length_cons]
  · omega
  · have := length_readIndexed?_lt _h; omega
  · have := length_readIndexed?_lt _h; omega
  · omega

/-- The pieces of a stretch; a protected one is not looked at. -/
def Segment.pieces (sg : Sigils) (seg : Segment) : List Piece :=
  if seg.isProtected then [.stretch seg] else piecesFrom sg [] seg.text

/-! ## Plain references -/

/-- The value of the longest front part of a name that is known, `n` characters at most, and what
is left of the name. -/
def resolve? (sg : Sigils) (sigil : Char) (name : List Char) : Nat → Option (List Char × List Char)
  | 0 => none
  | n + 1 =>
      match sg.lookup sigil (name.take (n + 1)) with
      | some value => some (value, name.drop (n + 1))
      | none => resolve? sg sigil name n

/-- What a reference becomes. -/
def expand (sg : Sigils) (sigil : Char) (name : List Char) : List Char :=
  match resolve? sg sigil name name.length with
  | some (value, left) => value ++ left
  | none => sigil :: name

/-- Expands the references under one sigil. -/
def plainPass (sg : Sigils) (sigil : Char) : (cs : List Char) → List Char
  | [] => []
  | c :: rest =>
      if c = sigil then
        expand sg sigil (rest.takeWhile isNameChar)
          ++ plainPass sg sigil (rest.dropWhile isNameChar)
      else c :: plainPass sg sigil rest
termination_by cs => cs.length
decreasing_by
  all_goals simp only [List.length_cons]
  · have := (List.dropWhile_suffix (l := rest) isNameChar).length_le; omega
  · omega

/-- Expands the references under every sigil, one sigil after another. -/
def plainPasses (sg : Sigils) (seg : Segment) : Segment :=
  if seg.isProtected then seg
  else { seg with text := sg.entries.foldl (fun cs e => plainPass sg e.1 cs) seg.text }

/-! ## Passes over a text -/

/-- The number of passes at most. -/
def maxPasses : Nat := 15

/-- The number of bytes after which no further pass is made. -/
def maxLength : Nat := 16 * 1024

/-- What a pass leaves, given the stretches that its pieces have become. -/
def afterPass (sg : Sigils) (found : List Segment) : List Segment :=
  (mergeOpen found).map (plainPasses sg)

/-- Whether no pass is made after one that has changed a text so. -/
def isFinal (before after : List Char) : Bool :=
  after == before || maxLength < Cursor.byteLength after

variable {sg : Sigils} {inner inner' : List Char → Option (List Char)} {r : List Char}

/-- What a piece becomes when `inner` puts variables into an index. -/
def Piece.resolve? (inner : List Char → Option (List Char)) : Piece → Option Segment
  | .stretch seg => some seg
  | .item r list => (inner r.index).map (choose r list)

/-- One pass. -/
def pass? (sg : Sigils) (inner : List Char → Option (List Char)) (segs : List Segment) :
    Option (List Segment) :=
  ((segs.flatMap (Segment.pieces sg)).mapM (Piece.resolve? inner)).map (afterPass sg)

/-- Passes until nothing changes, the text is too long, or their number is used up. -/
def passes (sg : Sigils) (inner : List Char → Option (List Char)) :
    Nat → List Segment → Option (List Char)
  | 0, segs => some (join segs)
  | n + 1, segs =>
      match pass? sg inner segs with
      | none => none
      | some after =>
          if isFinal (join segs) (join after) then some (join after)
          else passes sg inner n after

/-- Puts variables into a text, and into its indices in the given way. -/
def expand? (sg : Sigils) (inner : List Char → Option (List Char)) (cs : List Char) :
    Option (List Char) :=
  if cs.any sg.isSigil then passes sg inner maxPasses [⟨cs, false⟩] else some cs

/-! ## Indices are texts themselves -/

/-- Everything that one way to go over an index answers, another answers in the same way. -/
def Extends (inner inner' : List Char → Option (List Char)) : Prop :=
  ∀ idx a, inner idx = some a → inner' idx = some a

theorem Extends.resolve? (h : Extends inner inner') {piece : Piece} {seg : Segment}
    (hp : piece.resolve? inner = some seg) : piece.resolve? inner' = some seg := by
  cases piece with
  | stretch seg' => exact hp
  | item r list =>
    obtain ⟨a, ha, rfl⟩ := Option.map_eq_some_iff.mp hp
    exact Option.map_eq_some_iff.mpr ⟨a, h _ _ ha, rfl⟩

theorem Extends.mapM (h : Extends inner inner') {pieces : List Piece} {found : List Segment}
    (hp : pieces.mapM (Piece.resolve? inner) = some found) :
    pieces.mapM (Piece.resolve? inner') = some found := by
  induction pieces generalizing found with
  | nil => exact hp
  | cons piece pieces ih =>
    rw [List.mapM_cons] at hp ⊢
    obtain ⟨seg, hseg, hp⟩ := Option.bind_eq_some_iff.mp hp
    obtain ⟨segs, hsegs, hp⟩ := Option.bind_eq_some_iff.mp hp
    exact Option.bind_eq_some_iff.mpr ⟨seg, h.resolve? hseg,
      Option.bind_eq_some_iff.mpr ⟨segs, ih hsegs, hp⟩⟩

theorem Extends.pass? (h : Extends inner inner') {segs after : List Segment}
    (hp : pass? sg inner segs = some after) : pass? sg inner' segs = some after := by
  obtain ⟨found, hfound, rfl⟩ := Option.map_eq_some_iff.mp hp
  exact Option.map_eq_some_iff.mpr ⟨found, h.mapM hfound, rfl⟩

theorem Extends.passes (h : Extends inner inner') {n : Nat} {segs : List Segment}
    (hp : passes sg inner n segs = some r) : passes sg inner' n segs = some r := by
  induction n generalizing segs with
  | zero => exact hp
  | succ n ih =>
    rw [Substitution.passes] at hp ⊢
    cases hpass : Substitution.pass? sg inner segs with
    | none => rw [hpass] at hp; cases hp
    | some after =>
      rw [hpass] at hp
      rw [h.pass? hpass]
      dsimp only at hp ⊢
      split
      · next hfinal => rwa [if_pos hfinal] at hp
      · next hfinal =>
        rw [if_neg hfinal] at hp
        exact ih hp

/-- More answers for indices do not change the answers there were. -/
theorem Extends.expand? (h : Extends inner inner') :
    Extends (expand? sg inner) (expand? sg inner') := by
  intro cs r hr
  rw [Substitution.expand?] at hr ⊢
  split
  · next hsigil =>
    rw [if_pos hsigil] at hr
    exact h.passes hr
  · next hsigil => rwa [if_neg hsigil] at hr

/-- Answers to indices in an order in which only having no answer is less carry over to texts. -/
theorem expand?_related {rel : Option (List Char) → Option (List Char) → Prop} (sg : Sigils)
    (inner inner' : List Char → Option (List Char))
    (hrel : ∀ a b, rel a b ↔ ∀ r, a = some r → b = some r)
    (h : ∀ idx, rel (inner idx) (inner' idx)) (cs : List Char) :
    rel (expand? sg inner cs) (expand? sg inner' cs) := by
  have hext : Extends inner inner' := fun idx => (hrel _ _).mp (h idx)
  exact (hrel _ _).mpr (hext.expand? cs)

/-- What a text becomes when variables are put into it, and into its indices in the same way. -/
def result? (sg : Sigils) (cs : List Char) : Option (List Char) :=
  expand? sg (fun idx => result? sg idx) cs
partial_fixpoint monotonicity fun inner inner' h cs =>
  expand?_related sg inner inner' (by
    intro a b
    constructor
    · rintro ⟨⟩ r hr
      · cases hr
      · exact hr
    · intro hab
      cases a with
      | none => constructor
      | some r =>
        rw [hab r rfl]
        constructor) h cs

end Substitution

/-- **Puts variables into a text.**  A program never gets behind a text into which they never stop
being put, so it does not matter what is given for such a text; `result?` tells it apart. -/
def Sigils.substitute (sg : Sigils) (text : String) : String :=
  match Substitution.result? sg text.toList with
  | some cs => String.ofList cs
  | none => text

/-- A text without sigils stays as it is. -/
theorem Sigils.substitute_eq_self {sg : Sigils} {text : String}
    (h : text.toList.any sg.isSigil = false) : sg.substitute text = text := by
  rw [Sigils.substitute, Substitution.result?, Substitution.expand?, h, if_neg Bool.false_ne_true]
  exact String.ofList_toList

end StreamScript
