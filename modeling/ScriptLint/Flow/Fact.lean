/-
What is known about the statement at a byte offset: whether control reaches it and whether control
can go on after it. Offsets without a fact are a third case, which no query guesses away.
-/
import ScriptLint.Json.Basic

namespace ScriptLint

/-- What is known about a statement. Facts that come from outside may say anything about stopping,
so that part is a value. -/
structure Fact where
  unreachable : Bool
  stops : Json
  deriving Inhabited, Repr

namespace Fact

/-- A fact as given from outside: whatever counts as true makes the statement unreachable. -/
def ofJson (unreachable stops : Json) : Fact := { unreachable := unreachable.truthy, stops := stops }

/-- A fact whose two parts are known. -/
def ofBools (unreachable stops : Bool) : Fact := { unreachable := unreachable, stops := .bool stops }

end Fact

/-- Facts by offset, each offset once, in the order in which they were first set. -/
structure ControlFlow where
  entries : List (Int × Fact)
  deriving Inhabited

namespace ControlFlow

def empty : ControlFlow := ⟨[]⟩

/-- Sets a fact; the offset keeps its place if it has one. -/
def setEntry (entries : List (Int × Fact)) (offset : Int) (fact : Fact) : List (Int × Fact) :=
  match entries with
  | [] => [(offset, fact)]
  | (o, f) :: rest =>
    if o = offset then (o, fact) :: rest else (o, f) :: setEntry rest offset fact

/-- The facts of a list in which a later entry for an offset replaces an earlier one. -/
def ofList (facts : List (Int × Fact)) : ControlFlow :=
  ⟨facts.foldl (fun acc e => setEntry acc e.1 e.2) []⟩

/-- The fact at an offset. -/
def lookup (flow : ControlFlow) (offset : Int) : Option Fact :=
  (flow.entries.find? fun e => e.1 == offset).map (·.2)

/-- Whether the statement at an offset is reachable, if there is a fact. -/
def isReachable? (flow : ControlFlow) (offset : Int) : Option Bool :=
  (flow.lookup offset).map fun f => !f.unreachable

/-- Whether the statement at an offset stops execution, if there is a fact. -/
def stops? (flow : ControlFlow) (offset : Int) : Option Json :=
  (flow.lookup offset).map (·.stops)

/-- The number of offsets with a fact. -/
def size (flow : ControlFlow) : Nat := flow.entries.length

/-- A one-line description. -/
def describe (flow : ControlFlow) : String := "ControlFlow(" ++ toString flow.size ++ " facts)"

theorem find?_setEntry (entries : List (Int × Fact)) (offset other : Int) (fact : Fact) :
    ((setEntry entries offset fact).find? fun e => e.1 == other)
      = if offset = other then some (offset, fact)
        else entries.find? fun e => e.1 == other := by
  induction entries with
  | nil => by_cases h : offset = other <;> simp [setEntry, h]
  | cons e rest ih =>
    obtain ⟨o, f⟩ := e
    unfold setEntry
    split
    · next ho =>
      subst ho
      by_cases h : o = other <;> simp [h]
    · next ho =>
      by_cases h : offset = other
      · subst h
        simp [ho, ih]
      · by_cases ho' : o = other <;> simp [ho', h, ih]

theorem lookup_setEntry (entries : List (Int × Fact)) (offset other : Int) (fact : Fact) :
    lookup ⟨setEntry entries offset fact⟩ other
      = if offset = other then some fact else lookup ⟨entries⟩ other := by
  unfold lookup
  rw [find?_setEntry]
  split <;> rfl

end ControlFlow

end ScriptLint
