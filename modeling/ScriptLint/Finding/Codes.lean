/-
Sets of rule codes, kept as strictly sorted lists, so that equal sets are equal lists.
-/
import ScriptLint.Json.Reader
import ScriptLint.Json.Writer

namespace ScriptLint

/-- A set of rule codes in ascending order by code points. -/
abbrev Codes := List String

namespace Codes

/-- Adds a code at its place. -/
def insert (code : String) : Codes → Codes
  | [] => [code]
  | c :: rest =>
    if code < c then code :: c :: rest
    else if code = c then c :: rest
    else c :: insert code rest

/-- Adds the codes of a list. -/
def insertAll (added : List String) (codes : Codes) : Codes :=
  added.foldl (fun acc c => insert c acc) codes

/-- The set of the codes of a list. -/
def ofList (codes : List String) : Codes := insertAll codes []

/-- The text in which codes are handed to scripts. -/
def serialize (codes : Codes) : String := (Json.arr (codes.map Json.str)).compress

/-- The codes in a text. -/
def ofText? (text : String) : Option (List String) := do
  (← Json.read? .standard text).items.mapM Json.str?

theorem mem_insert {code c : String} {codes : Codes} :
    c ∈ insert code codes ↔ c = code ∨ c ∈ codes := by
  induction codes with
  | nil => simp [insert]
  | cons d rest ih =>
    unfold insert
    split
    · simp
    · split
      · next h =>
        subst h
        simp
      · simp only [List.mem_cons, ih]
        constructor
        · rintro (h | h | h)
          · exact .inr (.inl h)
          · exact .inl h
          · exact .inr (.inr h)
        · rintro (h | h | h)
          · exact .inr (.inl h)
          · exact .inl h
          · exact .inr (.inr h)

theorem mem_insertAll {added : List String} {c : String} {codes : Codes} :
    c ∈ insertAll added codes ↔ c ∈ added ∨ c ∈ codes := by
  unfold insertAll
  induction added generalizing codes with
  | nil => simp
  | cons a rest ih =>
    simp only [List.foldl_cons, ih, mem_insert, List.mem_cons]
    constructor
    · rintro (h | h | h)
      · exact .inl (.inr h)
      · exact .inl (.inl h)
      · exact .inr h
    · rintro ((h | h) | h)
      · exact .inr (.inl h)
      · exact .inl h
      · exact .inr (.inr h)

theorem mem_ofList {codes : List String} {c : String} : c ∈ ofList codes ↔ c ∈ codes := by
  simp [ofList, mem_insertAll]

end Codes

end ScriptLint
