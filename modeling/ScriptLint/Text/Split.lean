/-
Cutting a list of characters at a separator and joining the parts again.
-/

namespace ScriptLint.Text

/-- The parts between separators; a text without one is a single part. -/
def splitAt (sep : Char) : List Char → List (List Char)
  | [] => [[]]
  | c :: rest =>
    if c = sep then [] :: splitAt sep rest
    else
      match splitAt sep rest with
      | part :: parts => (c :: part) :: parts
      | [] => [[c]]

/-- The parts with the separator between them. -/
def joinWith (sep : Char) : List (List Char) → List Char
  | [] => []
  | [part] => part
  | part :: next :: parts => part ++ sep :: joinWith sep (next :: parts)

/-- Whether `part` occurs in a text. -/
def contains (part : List Char) : List Char → Bool
  | [] => part.isEmpty
  | c :: rest => part.isPrefixOf (c :: rest) || contains part rest

theorem splitAt_ne_nil (sep : Char) (cs : List Char) : splitAt sep cs ≠ [] := by
  cases cs with
  | nil => simp [splitAt]
  | cons c rest =>
    unfold splitAt
    split
    · simp
    · split <;> simp

theorem joinWith_splitAt (sep : Char) (cs : List Char) : joinWith sep (splitAt sep cs) = cs := by
  induction cs with
  | nil => rfl
  | cons c rest ih =>
    unfold splitAt
    split
    · next h =>
      subst h
      obtain ⟨part, parts, e⟩ := List.exists_cons_of_ne_nil (splitAt_ne_nil c rest)
      rw [e] at ih ⊢
      simp [joinWith, ih]
    · obtain ⟨part, parts, e⟩ := List.exists_cons_of_ne_nil (splitAt_ne_nil sep rest)
      rw [e] at ih ⊢
      cases parts with
      | nil => simpa [joinWith] using ih
      | cons next parts => simpa [joinWith] using ih

theorem sep_notMem_of_mem_splitAt {sep : Char} {cs part : List Char} (h : part ∈ splitAt sep cs) :
    sep ∉ part := by
  induction cs generalizing part with
  | nil =>
    simp only [splitAt, List.mem_singleton] at h
    simp [h]
  | cons c rest ih =>
    unfold splitAt at h
    split at h
    · rcases List.mem_cons.1 h with rfl | h
      · simp
      · exact ih h
    · next hc =>
      obtain ⟨first, parts, e⟩ := List.exists_cons_of_ne_nil (splitAt_ne_nil sep rest)
      rw [e] at h ih
      rcases List.mem_cons.1 h with rfl | h
      · intro hm
        rcases List.mem_cons.1 hm with rfl | hm
        · exact hc rfl
        · exact ih (List.mem_cons_self) hm
      · exact ih (List.mem_cons_of_mem _ h)

end ScriptLint.Text
