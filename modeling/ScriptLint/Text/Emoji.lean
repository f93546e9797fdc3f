/-
Emoji written by name: a name between two colons stands for its emoji. A name that is not known
stays as it is, and both of its colons are used up.
-/
import ScriptLint.Text.Emoji.Names

namespace ScriptLint.Text.Emoji

/-! ## Names -/

/-- The small letter of a letter that can occur in a name: one of ASCII, one of Latin 1, and the
signs of the kelvin and the angstrom. -/
def smallLetter (c : Char) : Char :=
  let n := c.toNat
  if (0x41 ≤ n && n ≤ 0x5A) || (0xC0 ≤ n && n ≤ 0xDE && n ≠ 0xD7) then Char.ofNat (n + 0x20)
  else if n = 0x212A then 'k'
  else if n = 0x212B then 'å'
  else c

/-- The emoji of a name; capital letters count as small ones. -/
def named? (name : List Char) : Option (List Char) := names.lookup (name.map smallLetter)

/-- The forms that can be asked for after a name, each with the selector that asks for it. -/
def forms : List (List Char × Char) := [("-text".toList, '\uFE0E'), ("-emoji".toList, '\uFE0F')]

/-- The emoji that a text between two colons stands for: a name, and maybe a form. -/
def meant? (inner : List Char) : Option (List Char) :=
  match forms.find? fun form => form.1.isSuffixOf inner with
  | some (ending, selector) =>
    (named? (inner.take (inner.length - ending.length))).map (· ++ [selector])
  | none => named? inner

/-! ## Texts -/

/-- The text between a colon and the next, if no blank comes before that. -/
def inner? (afterColon : List Char) : Option (List Char) :=
  let inner := afterColon.takeWhile fun c => c ≠ ':' && !isBlank c
  if (afterColon.drop inner.length).head? = some ':' then some inner else none

/-- A text with its names replaced; the first `skip` characters have been dealt with. -/
def replaceFrom : (skip : Nat) → List Char → List Char
  | _, [] => []
  | skip + 1, _ :: rest => replaceFrom skip rest
  | 0, c :: rest =>
    match if c = ':' then inner? rest else none with
    | some inner =>
      (meant? inner).getD (':' :: inner ++ [':']) ++ replaceFrom (inner.length + 1) rest
    | none => c :: replaceFrom 0 rest

/-- A text with an emoji in the place of every name between colons. -/
def replace (cs : List Char) : List Char := replaceFrom 0 cs

/-- A text without colons stays as it is. -/
theorem replace_eq_self {cs : List Char} (h : ':' ∉ cs) : replace cs = cs := by
  unfold replace
  induction cs with
  | nil => rfl
  | cons c rest ih =>
    simp only [List.mem_cons, not_or] at h
    have hc : c ≠ ':' := fun e => h.1 e.symm
    simp [replaceFrom, hc, ih h.2]

end ScriptLint.Text.Emoji
