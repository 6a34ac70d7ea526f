/-!
# Reading from the front of a text

A reader takes characters from the front of a text and says what they mean, together with what is
left, or refuses them. `Reading.repeated` repeats a step that hands a state on; it stops when the
step is done and refuses a step that takes nothing, so that it always ends.
-/

namespace CommitLint.Text

/-- A meaning for the front of a text and the characters left, if the front has one. -/
abbrev Reader (α : Type) := List Char → Option (α × List Char)

/-- What a step of reading comes to. -/
inductive Step (σ α : Type)
  /-- Reading goes on with a state. -/
  | more (state : σ)
  /-- Reading is done. -/
  | done (result : α)

namespace Reading

/-- Repeats a step until it is done. -/
def repeated {σ α : Type} (step : σ → Reader (Step σ α)) (state : σ) : Reader α := fun cs =>
  match step state cs with
  | none => none
  | some (.done result, rest) => some (result, rest)
  | some (.more next, rest) => if rest.length < cs.length then repeated step next rest else none
termination_by cs => cs.length

theorem repeated_of_done {σ α : Type} {step : σ → Reader (Step σ α)} {state : σ}
    {cs rest : List Char} {result : α}
    (h : step state cs = some (.done result, rest)) :
    repeated step state cs = some (result, rest) := by
  rw [repeated, h]

theorem repeated_of_more {σ α : Type} {step : σ → Reader (Step σ α)} {state next : σ}
    {cs rest : List Char}
    (h : step state cs = some (.more next, rest)) (shorter : rest.length < cs.length) :
    repeated step state cs = repeated step next rest := by
  rw [repeated, h]
  simp [shorter]

/-- Characters are taken up to the first that is not asked for, or to the end. -/
theorem span_append {p : Char → Bool} {front rest : List Char} (inside : ∀ c ∈ front, p c = true)
    (stop : ∀ c ∈ rest.head?, p c = false) :
    (front ++ rest).takeWhile p = front ∧ (front ++ rest).dropWhile p = rest := by
  rw [List.takeWhile_append_of_pos inside, List.dropWhile_append_of_pos inside]
  cases rest with
  | nil => simp
  | cons c rest =>
    have other : ¬ p c = true := by simp [stop c rfl]
    rw [List.takeWhile_cons_of_neg other, List.dropWhile_cons_of_neg other, List.append_nil]
    exact ⟨rfl, rfl⟩

/-- What follows a text, if the characters start with it. -/
def after? (start : List Char) (cs : List Char) : Option (List Char) :=
  if start.isPrefixOf cs then some (cs.drop start.length) else none

end Reading

end CommitLint.Text
