import Mathlib.Data.List.Infix
import Mathlib.Data.List.TakeWhile

/-!
# Patterns that are matched with backtracking

A pattern gives the rests of a text after each of its matches at the beginning, in the order in which
a backtracking matcher tries them: a greedy repetition takes as much as it can first. A search tries
the starts from left to right and takes the first match there is.
-/

namespace SentryPeer.Lib

inductive Pattern (α : Type)
  | one (accepts : α → Bool)
  | optional (accepts : α → Bool)
  | many (accepts : α → Bool)
  -- nothing is read, and the rest of the text is looked at
  | check (holds : List α → Bool)
  | seq (first second : Pattern α)

namespace Pattern
variable {α : Type}

def restsOne (accepts : α → Bool) : List α → List (List α)
  | [] => []
  | a :: rest => if accepts a then [rest] else []

def restsMany (accepts : α → Bool) : List α → List (List α)
  | [] => []
  | a :: rest => if accepts a then restsMany accepts rest ++ [rest] else []

def rests : Pattern α → List α → List (List α)
  | .one accepts, text => restsOne accepts text
  | .optional accepts, text => restsOne accepts text ++ [text]
  | .many accepts, text => restsMany accepts text
  | .check holds, text => if holds text then [text] else []
  | .seq first second, text => (first.rests text).flatMap second.rests

def literal [BEq α] : List α → Pattern α
  | [] => .check fun _ => true
  | a :: text => .seq (.one (· == a)) (literal text)

/-- The leftmost match of the first pattern with the second, which is a group, after it: the text from
the beginning and from the end of the group on. -/
def search (prior group : Pattern α) (subject : List α) : Option (List α × List α) :=
  subject.tails.findSome? fun start =>
    ((prior.rests start).flatMap fun inside =>
      (group.rests inside).map fun after => (inside, after)).head?

theorem rests_literal [BEq α] [LawfulBEq α] (word text : List α) :
    (literal word).rests text = if word.isPrefixOf text then [text.drop word.length] else [] := by
  induction word generalizing text with
  | nil => rfl
  | cons a word ih =>
      cases text with
      | nil => rfl
      | cons b text =>
          rw [literal, rests, rests, restsOne, List.isPrefixOf_cons_cons, List.length_cons,
            List.drop_succ_cons, BEq.comm]
          cases a == b with
          | true =>
              rw [Bool.true_and, ← ih]
              simp
          | false => simp

theorem head?_restsMany (accepts : α → Bool) (text : List α) :
    (restsMany accepts text).head? =
      if text.takeWhile accepts = [] then none else some (text.dropWhile accepts) := by
  induction text with
  | nil => rfl
  | cons a rest ih =>
      rw [restsMany, List.takeWhile_cons, List.dropWhile_cons]
      cases accepts a with
      | false => rfl
      | true =>
          simp only [↓reduceIte, List.head?_append, ih, List.cons_ne_nil]
          split_ifs with none
          · have parts := List.takeWhile_append_dropWhile (p := accepts) (l := rest)
            rw [none, List.nil_append] at parts
            rw [parts]
            rfl
          · rfl

/-- When the check after it refuses everything that the repetition could still take, it is made where
the repetition ends. -/
theorem restsMany_check {accepts : α → Bool} {holds : List α → Bool}
    (apart : ∀ a rest, accepts a = true → holds (a :: rest) = false) (text : List α) :
    (restsMany accepts text).flatMap (Pattern.check holds).rests =
      if text.takeWhile accepts ≠ [] ∧ holds (text.dropWhile accepts) = true then
        [text.dropWhile accepts]
      else [] := by
  induction text with
  | nil => simp [restsMany]
  | cons a rest ih =>
      rw [restsMany, List.takeWhile_cons, List.dropWhile_cons]
      cases accepted : accepts a with
      | false => simp
      | true =>
          have parts := List.takeWhile_append_dropWhile (p := accepts) (l := rest)
          simp only [↓reduceIte, List.flatMap_append, ih]
          cases taken : rest.takeWhile accepts with
          | nil =>
              rw [taken, List.nil_append] at parts
              simp [parts, rests]
          | cons b more =>
              have accepted : accepts b = true :=
                List.mem_takeWhile_imp (taken ▸ List.mem_cons_self)
              have refused : holds rest = false := by
                rw [← parts, taken]
                exact apart b _ accepted
              simp [rests, refused]

theorem restsOne_suffix {accepts : α → Bool} {text rest : List α}
    (member : rest ∈ restsOne accepts text) : rest <:+ text := by
  cases text with
  | nil => cases member
  | cons a text =>
      rw [restsOne] at member
      split_ifs at member
      · rw [List.mem_singleton.mp member]
        exact List.suffix_cons a text
      · cases member

theorem restsMany_suffix {accepts : α → Bool} {text rest : List α}
    (member : rest ∈ restsMany accepts text) : rest <:+ text := by
  induction text with
  | nil => cases member
  | cons a text ih =>
      rw [restsMany] at member
      split_ifs at member
      · rcases List.mem_append.mp member with later | last
        · exact (ih later).trans (List.suffix_cons a text)
        · rw [List.mem_singleton.mp last]
          exact List.suffix_cons a text
      · cases member

theorem rests_suffix {pattern : Pattern α} {text rest : List α} (member : rest ∈ pattern.rests text) :
    rest <:+ text := by
  induction pattern generalizing text rest with
  | one accepts => exact restsOne_suffix member
  | optional accepts =>
      rcases List.mem_append.mp member with taken | left
      · exact restsOne_suffix taken
      · rw [List.mem_singleton.mp left]
  | many accepts => exact restsMany_suffix member
  | check holds =>
      rw [rests] at member
      split_ifs at member
      · rw [List.mem_singleton.mp member]
      · cases member
  | seq first second ihFirst ihSecond =>
      obtain ⟨between, begins, ends⟩ := List.mem_flatMap.mp member
      exact (ihSecond ends).trans (ihFirst begins)

theorem search_literal [BEq α] [LawfulBEq α] (word : List α) (group : Pattern α)
    (subject : List α) :
    search (literal word) group subject =
      (subject.tails.find? fun start => word.isPrefixOf start &&
        (group.rests (start.drop word.length)).head?.isSome).bind fun start =>
          (group.rests (start.drop word.length)).head?.map fun after =>
            (start.drop word.length, after) := by
  rw [search]
  induction subject.tails with
  | nil => rfl
  | cons start later ih =>
      rw [List.findSome?_cons, List.find?_cons, rests_literal]
      cases word.isPrefixOf start with
      | false => simpa using ih
      | true =>
          cases first : (group.rests (start.drop word.length)).head? with
          | none =>
              rw [ih]
              simp [first]
          | some after => simp [first]

theorem suffix_of_find?_tails {holds : List α → Bool} {subject start other : List α}
    (found : subject.tails.find? holds = some start) (isTail : other <:+ subject)
    (isStart : holds other = true) : other <:+ start := by
  induction subject with
  | nil =>
      rw [List.suffix_nil] at isTail
      subst isTail
      exact List.nil_suffix
  | cons a subject ih =>
      rw [List.tails_cons, List.find?_cons] at found
      cases here : holds (a :: subject) with
      | true =>
          rw [here] at found
          cases found
          exact isTail
      | false =>
          rw [here] at found
          rcases List.suffix_cons_iff.mp isTail with rfl | later
          · rw [here] at isStart
            cases isStart
          · exact ih found later

/-- A match that a search has found, with the text from the beginning and from the end of its group
on. -/
structure Found [BEq α] (word : List α) (group : Pattern α) (subject inside after : List α) :
    Prop where
  isSubject : ∃ before, subject = before ++ (word ++ inside)
  first : (group.rests inside).head? = some after
  leftmost : ∀ before other, subject = before ++ (word ++ other) → group.rests other ≠ [] →
    other <:+ inside

theorem found_of_search [BEq α] [LawfulBEq α] {word : List α} {group : Pattern α}
    {subject inside after : List α}
    (found : search (literal word) group subject = some (inside, after)) :
    Found word group subject inside after := by
  rw [search_literal, Option.bind_eq_some_iff] at found
  obtain ⟨start, isStart, found⟩ := found
  obtain ⟨_, first, same⟩ := Option.map_eq_some_iff.mp found
  cases same
  have matched := List.find?_some isStart
  simp only [Bool.and_eq_true] at matched
  obtain ⟨text, isText⟩ := List.isPrefixOf_iff_prefix.mp matched.1
  have inside : start.drop word.length = text := by rw [← isText, List.drop_left]
  rw [inside] at first ⊢
  refine ⟨?_, first, fun before other isSubject some_ => ?_⟩
  · obtain ⟨before, isSubject⟩ := (List.mem_tails _ _).mp (List.mem_of_find?_eq_some isStart)
    exact ⟨before, by rw [isText, isSubject]⟩
  · have other_ : (word.isPrefixOf (word ++ other) &&
        (group.rests ((word ++ other).drop word.length)).head?.isSome) = true := by
      simp [some_]
    have later := suffix_of_find?_tails isStart ⟨before, isSubject.symm⟩ other_
    rw [← isText] at later
    have short := later.length_le
    simp only [List.length_append, Nat.add_le_add_iff_left] at short
    exact List.suffix_of_suffix_length_le ((List.suffix_append word other).trans later)
      (List.suffix_append word text) short

theorem exists_search [BEq α] [LawfulBEq α] {word : List α} {group : Pattern α}
    {subject before other : List α} (isSubject : subject = before ++ (word ++ other))
    (matches_ : group.rests other ≠ []) :
    ∃ inside after, search (literal word) group subject = some (inside, after) := by
  have isStart : (word.isPrefixOf (word ++ other) &&
      (group.rests ((word ++ other).drop word.length)).head?.isSome) = true := by
    simp [matches_]
  have isTail : word ++ other ∈ subject.tails :=
    (List.mem_tails _ _).mpr ⟨before, isSubject.symm⟩
  rw [search_literal]
  cases found : subject.tails.find? fun start => word.isPrefixOf start &&
      (group.rests (start.drop word.length)).head?.isSome with
  | none => exact absurd isStart (List.find?_eq_none.mp found _ isTail)
  | some start =>
      have started := List.find?_some found
      simp only [Bool.and_eq_true] at started
      obtain ⟨after, first⟩ := Option.isSome_iff_exists.mp started.2
      exact ⟨start.drop word.length, after, by simp [first]⟩

end Pattern

end SentryPeer.Lib
