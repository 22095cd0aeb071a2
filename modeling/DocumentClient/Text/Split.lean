/-
  Splitting text at a separator.

  `splitFirst` splits at the first occurrence of a character, `splitLast` at the
  last one; both drop that occurrence and fail where there is none.  Joining the
  two parts again gives the text back (`splitFirst_eq_some`, `splitLast_eq_some`).
  `splitAll` splits at every occurrence, and `join` puts the separator back.
-/

namespace DocumentClient.Text

/-- The text before and after the first occurrence of a character. -/
def splitFirst (separator : Char) : List Char → Option (List Char × List Char)
  | [] => none
  | c :: rest =>
    if c = separator then some ([], rest)
    else (splitFirst separator rest).map fun (before, after) => (c :: before, after)

/-- The text before and after the last occurrence of a character. -/
def splitLast (separator : Char) : List Char → Option (List Char × List Char)
  | [] => none
  | c :: rest =>
    match splitLast separator rest with
    | some (before, after) => some (c :: before, after)
    | none => if c = separator then some ([], rest) else none

/-- The parts of a text between the occurrences of a character. -/
def splitAll (separator : Char) : List Char → List (List Char)
  | [] => [[]]
  | c :: rest =>
    if c = separator then [] :: splitAll separator rest
    else match splitAll separator rest with
      | part :: parts => (c :: part) :: parts
      | [] => [[c]]

/-- Parts with a separator between each two. -/
def join (separator : Char) : List (List Char) → List Char
  | [] => []
  | [part] => part
  | part :: parts => part ++ separator :: join separator parts

variable {separator : Char} {cs before after : List Char}

theorem splitFirst_eq_some (h : splitFirst separator cs = some (before, after)) :
    cs = before ++ separator :: after ∧ separator ∉ before := by
  induction cs generalizing before after with
  | nil => simp [splitFirst] at h
  | cons c rest ih =>
    by_cases hc : c = separator
    · simp [splitFirst, hc] at h
      obtain ⟨rfl, rfl⟩ := h
      simp [hc]
    · simp only [splitFirst, hc, if_false, Option.map_eq_some_iff, Prod.mk.injEq, Prod.exists] at h
      obtain ⟨b, a, found, rfl, rfl⟩ := h
      obtain ⟨rfl, absent⟩ := ih found
      exact ⟨rfl, by simp [absent, Ne.symm hc]⟩

theorem splitLast_eq_none : splitLast separator cs = none ↔ separator ∉ cs := by
  induction cs with
  | nil => simp [splitLast]
  | cons c rest ih =>
    rw [splitLast]
    split
    · rename_i before after found
      have : separator ∈ rest := by
        rcases Classical.em (separator ∈ rest) with h | h
        · exact h
        · rw [ih.2 h] at found
          cases found
      simp [this]
    · rename_i missing
      have absent := ih.1 missing
      by_cases hc : c = separator
      · simp [hc]
      · simp [hc, absent, Ne.symm hc]

theorem splitLast_eq_some (h : splitLast separator cs = some (before, after)) :
    cs = before ++ separator :: after ∧ separator ∉ after := by
  induction cs generalizing before after with
  | nil => simp [splitLast] at h
  | cons c rest ih =>
    rw [splitLast] at h
    split at h
    · rename_i b a found
      simp only [Option.some.injEq, Prod.mk.injEq] at h
      obtain ⟨rfl, rfl⟩ := h
      obtain ⟨rfl, absent⟩ := ih found
      exact ⟨rfl, absent⟩
    · rename_i missing
      split at h
      · rename_i hc
        simp only [Option.some.injEq, Prod.mk.injEq] at h
        obtain ⟨rfl, rfl⟩ := h
        exact ⟨by simp [hc], splitLast_eq_none.1 missing⟩
      · cases h

end DocumentClient.Text
