/-
Things that come twice. Of a list of keys the first occurrences are left (`eraseDups_concat`). In an
object the last of the members with one key counts: what is left of a value when it is read from a
text is `distinct`, at every depth (`get?_distinct`).
-/
import ScriptLint.Json.Basic
import Mathlib.Data.List.Induction
import Mathlib.Data.List.Nodup

namespace ScriptLint

/-! ## First occurrences -/

theorem eraseDups_concat (keys : List String) (key : String) :
    (keys ++ [key]).eraseDups =
      if key ∈ keys then keys.eraseDups else keys.eraseDups ++ [key] := by
  rw [List.eraseDups_append]
  by_cases h : key ∈ keys
  · simp [List.cons_removeAll, h]
  · simp [List.cons_removeAll, h, List.eraseDups_cons]

theorem nodup_eraseDups (keys : List String) : keys.eraseDups.Nodup := by
  induction keys using List.reverseRecOn with
  | nil => simp
  | append_singleton keys key ih =>
    rw [eraseDups_concat]
    split
    · exact ih
    · rename_i h
      refine List.nodup_append.2 ⟨ih, List.nodup_singleton key, ?_⟩
      intro a ha b hb
      rw [List.mem_singleton] at hb
      rintro rfl
      exact h (hb ▸ List.mem_eraseDups.1 ha)

namespace Json

/-! ## Objects -/

mutual

/-- A value of whose members, at every depth, the last with a key counts. -/
def distinct : Json → Json
  | .arr items => .arr (distinctAll items)
  | .obj members => .obj (distinctMembers (distinctValues members))
  | v => v

def distinctAll : List Json → List Json
  | [] => []
  | v :: rest => v.distinct :: distinctAll rest

/-- Members with their values made distinct; their keys may still come twice. -/
def distinctValues : List (String × Json) → List (String × Json)
  | [] => []
  | (key, v) :: rest => (key, v.distinct) :: distinctValues rest

end

theorem distinctAll_eq_map (vs : List Json) : distinctAll vs = vs.map distinct := by
  induction vs with
  | nil => rfl
  | cons v rest ih => rw [distinctAll, ih, List.map_cons]

theorem distinctValues_eq_map (ms : List (String × Json)) :
    distinctValues ms = ms.map fun m => (m.1, m.2.distinct) := by
  induction ms with
  | nil => rfl
  | cons m rest ih => rw [distinctValues, ih, List.map_cons]

/-! ## Looking up -/

theorem member?_map {α β : Type} (f : α → β) (ms : List (String × α)) (key : String) :
    member? (ms.map fun m => (m.1, f m.2)) key = (member? ms key).map f := by
  induction ms with
  | nil => rfl
  | cons m rest ih =>
    by_cases h : m.1 = key
    · simp [member?, h]
    · simpa [member?, List.find?_cons, h] using ih

/-- Looking up in distinct members finds the last of the members with the key. -/
theorem member?_distinctMembers (ms : List (String × Json)) (key : String) :
    member? (distinctMembers ms) key = member? ms.reverse key := by
  -- from the end, since a member is set in what all earlier ones have left
  induction ms using List.reverseRecOn with
  | nil => rfl
  | append_singleton ms m ih =>
    have hset : distinctMembers (ms ++ [m]) = setMember (distinctMembers ms) m.1 m.2 := by
      simp [distinctMembers]
    rw [hset, List.reverse_append, List.reverse_singleton, List.singleton_append]
    by_cases h : m.1 = key
    · subst h
      rw [member?_setMember_self]
      simp [member?]
    · rw [member?_setMember_of_ne h, ih]
      simp [member?, h]

theorem get?_distinct (ms : List (String × Json)) (key : String) :
    (Json.obj ms).distinct.get? key = (member? ms.reverse key).map distinct := by
  rw [distinct, get?, member?_distinctMembers, distinctValues_eq_map, ← List.map_reverse,
    member?_map]

end Json

end ScriptLint
