import StreamScript.Pattern.Cache
import StreamScript.Script.Env

/-!
# Answers from a cache of patterns

What a pattern is compiled to depends only on its text.  A cache therefore answers as if it were
not there, as long as each pattern in it is what its own text is compiled to
(`PatternCache.Sound`).

Asking for a pattern can come to three things only (`PatternCache.Asked`).  A text that is found
changes nothing, and one that cannot be compiled changes nothing either.  One that is compiled is
kept next to what is there already or, if the cache is full, on its own; in both cases what is kept
is part of what was there, so all that has to be looked at is the new entry.

`PatternCache.answers_empty` says what follows for any requests made one after the other, however
patterns are compiled and looked for.
-/

namespace StreamScript
namespace PatternCache

variable {P : Type} {cache : PatternCache P}

/-! ## Room for one more -/

/-- The entries next to which a newly compiled pattern is kept. -/
def room (cache : PatternCache P) : List (String × P) :=
  if capacity ≤ cache.size then [] else cache.entries

theorem length_room_lt (cache : PatternCache P) : cache.room.length < capacity := by
  rw [room]
  split
  · simp [capacity]
  · next hfull =>
    rw [size] at hfull
    omega

theorem room_sublist (cache : PatternCache P) : cache.room.Sublist cache.entries := by
  rw [room]
  split
  · exact List.nil_sublist _
  · exact List.Sublist.refl _

variable [PatternEngine P]

/-! ## Requests -/

/-- What can be asked of a cache: the compiled form of a pattern, or a match in a line. -/
inductive Request where
  | pattern (src : String)
  | regex (line src : String)
  | literal (line target : String)
  deriving DecidableEq, Repr

/-- What is given back for a request. -/
inductive Answer (P : Type) where
  | pattern (p? : Option P)
  | captures (caps? : Option Captures)

namespace Request

/-- Has a cache answer a request. -/
def perform (cache : PatternCache P) : Request → Answer P × PatternCache P
  | pattern src => (.pattern (cache.pattern? src).1, (cache.pattern? src).2)
  | regex line src => (.captures (cache.matchRegex line src).1, (cache.matchRegex line src).2)
  | literal line target => (.captures (cache.matchLiteral line target), cache)

/-- The answer to a request when every pattern is compiled anew. -/
def answer : Request → Answer P
  | pattern src => .pattern (PatternEngine.compile? src)
  | regex line src => .captures ((Matcher.ofEngine P).regex line src)
  | literal line target => .captures ((Matcher.ofEngine P).literal line target)

end Request

/-- The answers to requests made one after the other, and the cache behind them. -/
def answers (cache : PatternCache P) : List Request → List (Answer P) × PatternCache P
  | [] => ([], cache)
  | request :: requests =>
      let (answer, cache) := request.perform cache
      let (answers, cache) := cache.answers requests
      (answer :: answers, cache)

/-! ## What a cache holds -/

/-- A cache within its capacity that holds each text once, with what this text is compiled to. -/
structure Sound (cache : PatternCache P) : Prop where
  size_le : cache.size ≤ capacity
  nodup : (cache.entries.map Prod.fst).Nodup
  compiled : ∀ e ∈ cache.entries, PatternEngine.compile? e.1 = some e.2

theorem sound_empty : Sound (empty : PatternCache P) where
  size_le := Nat.zero_le _
  nodup := List.nodup_nil
  compiled := by simp [empty]

theorem Sound.compile?_of_lookup (h : cache.Sound) {src : String} {p : P}
    (hlookup : cache.entries.lookup src = some p) : PatternEngine.compile? src = some p := by
  obtain ⟨front, back, hentries, -⟩ := List.lookup_eq_some_iff.mp hlookup
  have hmem : (src, p) ∈ cache.entries := by simp [hentries]
  exact h.compiled (src, p) hmem

/-! ## Asking for a pattern -/

/-- What asking for a pattern can come to: it is found, it cannot be compiled, or it is compiled and
kept. -/
inductive Asked (cache : PatternCache P) (src : String) : Option P → PatternCache P → Prop where
  | found {p : P} (hlookup : cache.entries.lookup src = some p) : Asked cache src (some p) cache
  | refused (hlookup : cache.entries.lookup src = none)
      (hcompiled : PatternEngine.compile? (P := P) src = none) : Asked cache src none cache
  | kept {p : P} (hlookup : cache.entries.lookup src = none)
      (hcompiled : PatternEngine.compile? src = some p) :
      Asked cache src (some p) ⟨(src, p) :: cache.room⟩

theorem asked_pattern? (cache : PatternCache P) (src : String) :
    Asked cache src (cache.pattern? src).1 (cache.pattern? src).2 := by
  rw [pattern?]
  split
  · next hlookup => exact .found hlookup
  · next hlookup =>
    split
    · next hcompiled => exact .refused hlookup hcompiled
    · next hcompiled => exact .kept hlookup hcompiled

namespace Asked

variable {src : String} {p? : Option P} {cache' : PatternCache P}

theorem sound (h : Asked cache src p? cache') (hsound : cache.Sound) : cache'.Sound := by
  cases h with
  | found | refused => exact hsound
  | kept hlookup hcompiled =>
    have hroom := cache.room_sublist
    have hnew : src ∉ cache.room.map Prod.fst := by
      intro hmem
      obtain ⟨e, he, rfl⟩ := List.mem_map.mp hmem
      have hne := List.lookup_eq_none_iff.mp hlookup e (hroom.mem he)
      simp at hne
    constructor
    · exact cache.length_room_lt
    · exact List.nodup_cons.mpr ⟨hnew, (hroom.map _).nodup hsound.nodup⟩
    · intro e he
      rcases List.mem_cons.mp he with rfl | he
      · exact hcompiled
      · exact hsound.compiled e (hroom.mem he)

/-- What is given back is what the text is compiled to. -/
theorem eq_compile? (h : Asked cache src p? cache') (hsound : cache.Sound) :
    p? = PatternEngine.compile? src := by
  cases h with
  | found hlookup => exact (hsound.compile?_of_lookup hlookup).symm
  | refused _ hcompiled => exact hcompiled.symm
  | kept _ hcompiled => exact hcompiled.symm

/-- Behind a request the cache holds what it has given back, if it has given back anything. -/
theorem lookup_eq (h : Asked cache src p? cache') : cache'.entries.lookup src = p? := by
  cases h with
  | found hlookup => exact hlookup
  | refused hlookup _ => exact hlookup
  | kept _ _ => exact List.lookup_cons_self

end Asked

/-! ## Requests one after the other -/

/-- A request is answered as if there were no cache, and leaves what it finds sound. -/
theorem Sound.perform (h : cache.Sound) (request : Request) :
    (request.perform cache).1 = request.answer ∧ (request.perform cache).2.Sound := by
  cases request with
  | pattern src =>
    have hasked := cache.asked_pattern? src
    exact ⟨congrArg Answer.pattern (hasked.eq_compile? h), hasked.sound h⟩
  | regex line src =>
    have hasked := cache.asked_pattern? src
    have hmatch : (cache.matchRegex line src).1 = (Matcher.ofEngine P).regex line src :=
      congrArg (fun p? : Option P => p?.bind (PatternEngine.find? · line)) (hasked.eq_compile? h)
    exact ⟨congrArg Answer.captures hmatch, hasked.sound h⟩
  | literal line target => exact ⟨rfl, h⟩

theorem Sound.answers (h : cache.Sound) (requests : List Request) :
    (cache.answers requests).1 = requests.map Request.answer ∧
      (cache.answers requests).2.Sound := by
  induction requests generalizing cache with
  | nil => exact ⟨rfl, h⟩
  | cons request requests ih =>
    obtain ⟨hanswer, hsound⟩ := h.perform request
    obtain ⟨hanswers, hsound'⟩ := ih hsound
    refine ⟨?_, hsound'⟩
    rw [List.map_cons, ← hanswer, ← hanswers]
    rfl

/-- **A cache is not noticed.**  However patterns are compiled and looked for, whatever has been
asked for so far, and in whatever order, every answer is the one that is given when each pattern is
compiled anew.  The cache holds no more than it may, and each entry is what its own text is compiled
to.  Behind a request for one more text it holds for it just what the text is compiled to, so one
that cannot be compiled is not kept. -/
theorem answers_empty (P : Type) [PatternEngine P] (requests : List Request) :
    let (answers, cache) := (empty : PatternCache P).answers requests
    answers = requests.map Request.answer ∧ cache.Sound ∧
      ∀ src, (cache.pattern? src).2.entries.lookup src = PatternEngine.compile? src := by
  obtain ⟨hanswers, hsound⟩ := (sound_empty (P := P)).answers requests
  refine ⟨hanswers, hsound, ?_⟩
  intro src
  have hasked := asked_pattern? ((empty : PatternCache P).answers requests).2 src
  rw [hasked.lookup_eq, hasked.eq_compile? hsound]

end PatternCache
end StreamScript
