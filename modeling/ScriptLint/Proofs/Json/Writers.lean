/-
The two writers of JSON texts, the host's and that of scripts. What they write is read back as the
same value, if the value has no doubles, no key twice in an object, and is not nested deeper than
the reader goes; where a key comes twice, the last member with it is read (`read?_repeated`).
Scripts moreover keep an integer only if it is a double too, and the order of members only if no key
is an array index.
-/
import ScriptLint.Proofs.Json.Duplicates
import ScriptLint.Proofs.Json.Texts

namespace ScriptLint.Json

/-! ## Values that are kept -/

/-- The values whose numbers are integers of a kind; a key may come twice in an object. -/
inductive Integral (int : Int → Prop) : Json → Prop where
  | null : Integral int .null
  | bool (b : Bool) : Integral int (.bool b)
  | int {n : Int} (h : int n) : Integral int (.int n)
  | str (s : String) : Integral int (.str s)
  | arr {vs : List Json} (h : ∀ v ∈ vs, Integral int v) : Integral int (.arr vs)
  | obj {ms : List (String × Json)} (h : ∀ m ∈ ms, Integral int m.2) : Integral int (.obj ms)

/-- The values that a writer keeps: integers and keys are of a kind that it keeps, and no object
has a key twice. -/
inductive Keeps (int : Int → Prop) (key : String → Prop) : Json → Prop where
  | null : Keeps int key .null
  | bool (b : Bool) : Keeps int key (.bool b)
  | int {n : Int} (h : int n) : Keeps int key (.int n)
  | str (s : String) : Keeps int key (.str s)
  | arr {vs : List Json} (h : ∀ v ∈ vs, Keeps int key v) : Keeps int key (.arr vs)
  | obj {ms : List (String × Json)} (distinct : (ms.map (·.1)).Nodup) (keys : ∀ m ∈ ms, key m.1)
      (h : ∀ m ∈ ms, Keeps int key m.2) : Keeps int key (.obj ms)

mutual

/-- How deep containers that hold something are nested in a value. -/
def nesting : Json → Nat
  | .arr (v :: rest) => nestingOfAll (v :: rest) + 1
  | .obj (m :: rest) => nestingOfMembers (m :: rest) + 1
  | _ => 0

/-- The deepest nesting in some values. -/
def nestingOfAll : List Json → Nat
  | [] => 0
  | v :: rest => max v.nesting (nestingOfAll rest)

/-- The deepest nesting in the values of some members. -/
def nestingOfMembers : List (String × Json) → Nat
  | [] => 0
  | (_, v) :: rest => max v.nesting (nestingOfMembers rest)

end

variable {d : Dialect} {int : Int → Prop} {key : String → Prop}

theorem Keeps.integral {v : Json} (h : Keeps int key v) : Integral int v := by
  induction h with
  | null => exact .null
  | bool b => exact .bool b
  | int h => exact .int h
  | str s => exact .str s
  | arr _ ih => exact .arr ih
  | obj _ _ _ ih => exact .obj ih

/-- Nothing is left out of a value that has no key twice. -/
theorem Keeps.distinct_eq {v : Json} (h : Keeps int key v) : v.distinct = v := by
  induction h with
  | null | bool _ | int _ | str _ => rfl
  | @arr vs _ ih =>
    rw [distinct, distinctAll_eq_map, List.map_congr_left ih, List.map_id']
  | @obj ms hkeys _ _ ih =>
    have hvalues : distinctValues ms = ms := by
      rw [distinctValues_eq_map]
      conv_rhs => rw [← List.map_id' ms]
      exact List.map_congr_left fun m hm => by rw [ih m hm]
    rw [distinct, hvalues, distinctMembers_eq hkeys]

/-! ## The host's writer -/

mutual

/-- What the host writes is read back. -/
theorem reads_write (whole : ∀ n, int n → d.takesWhole (toString n).toList.length = true)
    {depth : Nat} : (v : Json) → Integral int v → v.nesting ≤ depth →
      Reads d depth v.distinct (write v)
  | .null, _, _ => reads_null
  | .bool b, _, _ => reads_bool b
  | .int n, .int h, _ => reads_int (whole n h)
  | .str s, _, _ => reads_str spells_escapeChar s
  | .arr [], _, _ => reads_arr_nil
  | .arr (v :: rest), .arr h, hdepth => by
    obtain ⟨depth, rfl⟩ : ∃ k, depth = k + 1 := ⟨depth - 1, by simp [nesting] at hdepth; omega⟩
    rw [nesting, Nat.add_le_add_iff_right] at hdepth
    exact reads_arr (readsItems_write whole v rest h hdepth)
  | .obj [], _, _ => reads_obj_nil
  | .obj (m :: rest), .obj h, hdepth => by
    obtain ⟨depth, rfl⟩ : ∃ k, depth = k + 1 := ⟨depth - 1, by simp [nesting] at hdepth; omega⟩
    rw [nesting, Nat.add_le_add_iff_right] at hdepth
    exact reads_obj (readsMembers_write whole m rest h hdepth)
termination_by v => sizeOf v

theorem readsItems_write (whole : ∀ n, int n → d.takesWhole (toString n).toList.length = true)
    {depth : Nat} : (v : Json) → (rest : List Json) → (∀ w ∈ v :: rest, Integral int w) →
      nestingOfAll (v :: rest) ≤ depth →
      ReadsItems d depth (distinctAll (v :: rest)) (writeItems (v :: rest))
  | v, [], h, hdepth => by
    rw [nestingOfAll, Nat.max_le] at hdepth
    exact readsItems_one (reads_write whole v (h v List.mem_cons_self) hdepth.1)
  | v, w :: rest, h, hdepth => by
    rw [nestingOfAll, Nat.max_le] at hdepth
    exact readsItems_cons (reads_write whole v (h v List.mem_cons_self) hdepth.1)
      (readsItems_write whole w rest (fun u hu => h u (List.mem_cons_of_mem _ hu)) hdepth.2)
termination_by v rest => sizeOf v + sizeOf rest + 1

theorem readsMembers_write (whole : ∀ n, int n → d.takesWhole (toString n).toList.length = true)
    {depth : Nat} : (m : String × Json) → (rest : List (String × Json)) →
      (∀ w ∈ m :: rest, Integral int w.2) → nestingOfMembers (m :: rest) ≤ depth →
      ReadsMembers d depth (distinctValues (m :: rest)) (writeMembers (m :: rest))
  | (k, v), [], h, hdepth => by
    rw [nestingOfMembers, Nat.max_le] at hdepth
    exact readsMembers_one spells_escapeChar k
      (reads_write whole v (h (k, v) List.mem_cons_self) hdepth.1)
  | (k, v), m :: rest, h, hdepth => by
    rw [nestingOfMembers, Nat.max_le] at hdepth
    have hcons := readsMembers_cons spells_escapeChar k
      (reads_write whole v (h (k, v) List.mem_cons_self) hdepth.1)
      (readsMembers_write whole m rest (fun u hu => h u (List.mem_cons_of_mem _ hu)) hdepth.2)
    simpa [writeMembers, spelledMember, writeString, distinctValues] using hcons
termination_by m rest => sizeOf m + sizeOf rest + 1

end

/-- The host's text of a value is a text of what is left of the value when the last of the members
with one key counts. -/
theorem read?_repeated (whole : ∀ n, int n → d.takesWhole (toString n).toList.length = true)
    {v : Json} (h : Integral int v) (hdepth : v.nesting ≤ d.maxDepth) :
    read? d v.compress = some v.distinct := read?_of_reads (reads_write whole v h hdepth)

/-- The host's text of a value is a text of this value. -/
theorem read?_compress (whole : ∀ n, int n → d.takesWhole (toString n).toList.length = true)
    {v : Json} (h : Keeps int key v) (hdepth : v.nesting ≤ d.maxDepth) :
    read? d v.compress = some v := by
  rw [read?_repeated whole h.integral hdepth, h.distinct_eq]

/-! ## The writer of scripts -/

theorem foldl_eq_self {α β : Type} {f : β → α → β} {acc : β} {l : List α}
    (h : ∀ a ∈ l, f acc a = acc) : l.foldl f acc = acc := by
  induction l with
  | nil => rfl
  | cons a rest ih =>
    rw [List.foldl_cons, h a List.mem_cons_self]
    exact ih fun b hb => h b (List.mem_cons_of_mem _ hb)

/-- Members without array indexes among their keys stay in their order. -/
theorem scriptOrder_eq {α : Type} {ms : List (String × α)}
    (h : ∀ m ∈ ms, indexKey? m.1 = none) : scriptOrder ms = ms := by
  unfold scriptOrder
  rw [foldl_eq_self fun m hm => by rw [h m hm], List.filter_eq_self.2 fun m hm => by rw [h m hm]; rfl]
  rfl

theorem plainMembers_eq (ms : List (String × Json)) :
    plainMembers ms = ms.map fun m => (m.1, plain m.2) := by
  induction ms with
  | nil => rfl
  | cons m rest ih => rw [plainMembers, ih]; rfl

mutual

/-- What a script writes is read back. -/
theorem reads_plain (whole : ∀ n, int n → isExact n = true ∧
      d.takesWhole (toString n).toList.length = true)
    (unindexed : ∀ k, key k → indexKey? k = none) {depth : Nat} :
    (v : Json) → Keeps int key v → v.nesting ≤ depth → Reads d depth v (plain v)
  | .null, _, _ => reads_null
  | .bool b, _, _ => reads_bool b
  | .int n, .int h, _ => by
    obtain ⟨hexact, hshort⟩ := whole n h
    rw [plain, plainInteger, if_pos hexact]
    exact reads_int hshort
  | .str s, _, _ => reads_str spells_plainChar s
  | .arr [], _, _ => reads_arr_nil
  | .arr (v :: rest), .arr h, hdepth => by
    obtain ⟨depth, rfl⟩ : ∃ k, depth = k + 1 := ⟨depth - 1, by simp [nesting] at hdepth; omega⟩
    rw [nesting, Nat.add_le_add_iff_right] at hdepth
    exact reads_arr (readsItems_plain whole unindexed v rest h hdepth)
  | .obj [], _, _ => reads_obj_nil
  | .obj (m :: rest), .obj distinct keys h, hdepth => by
    obtain ⟨depth, rfl⟩ : ∃ k, depth = k + 1 := ⟨depth - 1, by simp [nesting] at hdepth; omega⟩
    rw [nesting, Nat.add_le_add_iff_right] at hdepth
    -- scripts write array indexes first, and there are none
    have horder : scriptOrder (plainMembers (m :: rest)) = plainMembers (m :: rest) := by
      refine scriptOrder_eq fun p hp => ?_
      rw [plainMembers_eq] at hp
      obtain ⟨w, hw, rfl⟩ := List.mem_map.1 hp
      exact unindexed _ (keys w hw)
    have hobj := reads_obj (readsMembers_plain whole unindexed m rest h hdepth)
    rw [distinctMembers_eq distinct] at hobj
    rw [plain, horder]
    exact hobj
termination_by v => sizeOf v

theorem readsItems_plain (whole : ∀ n, int n → isExact n = true ∧
      d.takesWhole (toString n).toList.length = true)
    (unindexed : ∀ k, key k → indexKey? k = none) {depth : Nat} :
    (v : Json) → (rest : List Json) → (∀ w ∈ v :: rest, Keeps int key w) →
      nestingOfAll (v :: rest) ≤ depth →
      ReadsItems d depth (v :: rest) (separated (plainItems (v :: rest)))
  | v, [], h, hdepth => by
    rw [nestingOfAll, Nat.max_le] at hdepth
    exact readsItems_one (reads_plain whole unindexed v (h v List.mem_cons_self) hdepth.1)
  | v, w :: rest, h, hdepth => by
    rw [nestingOfAll, Nat.max_le] at hdepth
    exact readsItems_cons (reads_plain whole unindexed v (h v List.mem_cons_self) hdepth.1)
      (readsItems_plain whole unindexed w rest (fun u hu => h u (List.mem_cons_of_mem _ hu)) hdepth.2)
termination_by v rest => sizeOf v + sizeOf rest + 1

theorem readsMembers_plain (whole : ∀ n, int n → isExact n = true ∧
      d.takesWhole (toString n).toList.length = true)
    (unindexed : ∀ k, key k → indexKey? k = none) {depth : Nat} :
    (m : String × Json) → (rest : List (String × Json)) → (∀ w ∈ m :: rest, Keeps int key w.2) →
      nestingOfMembers (m :: rest) ≤ depth →
      ReadsMembers d depth (m :: rest) (separated ((plainMembers (m :: rest)).map fun m =>
        plainString m.1 ++ ':' :: m.2))
  | (k, v), [], h, hdepth => by
    rw [nestingOfMembers, Nat.max_le] at hdepth
    exact readsMembers_one spells_plainChar k
      (reads_plain whole unindexed v (h (k, v) List.mem_cons_self) hdepth.1)
  | (k, v), m :: rest, h, hdepth => by
    rw [nestingOfMembers, Nat.max_le] at hdepth
    exact readsMembers_cons spells_plainChar k
      (reads_plain whole unindexed v (h (k, v) List.mem_cons_self) hdepth.1)
      (readsMembers_plain whole unindexed m rest (fun u hu => h u (List.mem_cons_of_mem _ hu))
        hdepth.2)
termination_by m rest => sizeOf m + sizeOf rest + 1

end

/-- An integer that is a double has few enough digits for the host. -/
theorem takesWhole_exact {n : Int} (h : isExact n = true) :
    Dialect.wire.takesWhole (toString n).toList.length = true := by
  have hle : n.natAbs < 10 ^ 16 := by
    simp only [isExact, decide_eq_true_eq] at h
    omega
  have digits : ∀ m : Nat, m < 10 ^ 16 → (Nat.toDigits 10 m).length ≤ 16 := fun m hm =>
    (Nat.length_toDigits_le_iff (by decide) (by decide)).2 hm
  have hlen : (toString n).toList.length ≤ 17 := by
    rw [Int.toString_eq_repr, Int.repr_eq_if]
    split
    · rw [Nat.toList_repr]
      have := digits n.toNat (by omega)
      omega
    · rw [String.toList_append, Nat.toList_repr, List.length_append]
      have := digits (-n).toNat (by omega)
      have : "-".toList.length = 1 := rfl
      omega
  simp only [Dialect.takesWhole, Dialect.wire, Option.all_some, decide_eq_true_eq, maxWhole]
  omega

/-- The text that a script sends for a value is read by the host as this value. -/
theorem read?_plainText {v : Json}
    (h : Keeps (fun n => isExact n = true) (fun k => indexKey? k = none) v)
    (hdepth : v.nesting ≤ Dialect.wire.maxDepth) : read? .wire v.plainText = some v :=
  read?_of_reads (reads_plain (fun _ hn => ⟨hn, takesWhole_exact hn⟩) (fun _ hk => hk) v h hdepth)

end ScriptLint.Json
