/-
JSON values. Numbers keep the difference between integers of any size and binary64 numbers, and
objects keep their members in order.
-/
import ScriptLint.Number.Double

namespace ScriptLint

/-- A JSON value. -/
inductive Json where
  | null
  | bool (b : Bool)
  | int (n : Int)
  | float (x : Double)
  | str (s : String)
  | arr (items : List Json)
  | obj (members : List (String × Json))
  deriving Inhabited, Repr

namespace Json

/-- Sets a member: an existing one keeps its place, a new one comes last. -/
def setMember {α : Type} (members : List (String × α)) (key : String) (value : α) :
    List (String × α) :=
  match members with
  | [] => [(key, value)]
  | (k, v) :: rest => if k = key then (k, value) :: rest else (k, v) :: setMember rest key value

/-- The members of an object written as a list: of members with one key the last counts, at the
place of the first. -/
def distinctMembers (members : List (String × Json)) : List (String × Json) :=
  members.foldl (fun acc m => setMember acc m.1 m.2) []

/-- The value of a member. -/
def member? {α : Type} (members : List (String × α)) (key : String) : Option α :=
  (members.find? fun m => m.1 == key).map (·.2)

/-- The value of a member of an object; `none` for a missing one and for other values. -/
def get? : Json → String → Option Json
  | .obj members, key => member? members key
  | _, _ => none

/-- The value at an index of an array. -/
def at? : Json → Nat → Option Json
  | .arr items, i => items[i]?
  | _, _ => none

/-- The items of an array, none for other values. -/
def items : Json → List Json
  | .arr items => items
  | _ => []

/-- The members of an object, none for other values. -/
def members : Json → List (String × Json)
  | .obj members => members
  | _ => []

/-- The text of a string. -/
def str? : Json → Option String
  | .str s => some s
  | _ => none

/-- The integer of an integral number. -/
def int? : Json → Option Int
  | .int n => some n
  | _ => none

def bool? : Json → Option Bool
  | .bool b => some b
  | _ => none

/-- The text at an index of an array. -/
def textAt? (v : Json) (i : Nat) : Option String := (v.at? i).bind str?

/-- The text of a member. -/
def textOf? (v : Json) (key : String) : Option String := (v.get? key).bind str?

/-- The items at an index of an array, none if there is no array. -/
def itemsAt (v : Json) (i : Nat) : List Json := ((v.at? i).map items).getD []

/-- The integer of an integral number that is not negative. -/
def nat? (v : Json) : Option Nat :=
  match v.int? with
  | some n => if n < 0 then none else some n.toNat
  | none => none

/-- An optional text, `null` when absent. -/
def ofText? : Option String → Json
  | some s => .str s
  | none => .null

/-- Whether a value counts as true in a condition: `null`, `false`, zero and whatever is empty do
not. -/
def truthy : Json → Bool
  | .null => false
  | .bool b => b
  | .int n => n ≠ 0
  | .float x => !x.isZero
  | .str s => !s.isEmpty
  | .arr items => !items.isEmpty
  | .obj members => !members.isEmpty

theorem member?_cons {α : Type} (key other : String) (value : α) (rest : List (String × α)) :
    member? ((key, value) :: rest) other =
      if key = other then some value else member? rest other := by
  unfold member?
  by_cases h : key = other <;> simp [h]

theorem mem_of_member? {α : Type} {members : List (String × α)} {key : String} {value : α}
    (h : member? members key = some value) : (key, value) ∈ members := by
  obtain ⟨⟨other, found⟩, hfind, rfl⟩ := Option.map_eq_some_iff.1 h
  have hkey : other = key := by simpa using List.find?_some hfind
  subst hkey
  exact List.mem_of_find?_eq_some hfind

theorem member?_eq_none_iff {α : Type} {members : List (String × α)} {key : String} :
    member? members key = none ↔ key ∉ members.map (·.1) := by
  rw [member?, Option.map_eq_none_iff, List.find?_eq_none, List.mem_map]
  constructor
  · rintro h ⟨m, hm, hkey⟩
    exact h m hm (by simp [hkey])
  · intro h m hm hkey
    exact h ⟨m, hm, by simpa using hkey⟩

theorem member?_setMember_self {α : Type} (members : List (String × α)) (key : String)
    (value : α) : member? (setMember members key value) key = some value := by
  induction members with
  | nil => simp [setMember, member?]
  | cons m rest ih =>
    obtain ⟨k, v⟩ := m
    unfold setMember
    split
    · next h => simp [member?, h]
    · next h => simpa [member?, List.find?_cons, h] using ih

theorem member?_setMember_of_ne {α : Type} {key other : String} (h : key ≠ other)
    (members : List (String × α)) (value : α) :
    member? (setMember members key value) other = member? members other := by
  induction members with
  | nil => simp [setMember, member?, h]
  | cons m rest ih =>
    obtain ⟨k, v⟩ := m
    unfold setMember
    split
    · next hk =>
      have : ¬k = other := hk ▸ h
      simp [member?, this]
    · next hk =>
      by_cases ho : k = other
      · simp [member?, ho]
      · simpa [member?, List.find?_cons, ho] using ih

end Json

end ScriptLint
