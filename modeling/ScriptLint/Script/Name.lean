/-
Names in scripts: which texts are names, and which words of the language are none.
-/

namespace ScriptLint.Name

/-- Whether a text has the form of a name: letters, digits and `_` and `$`, with no digit in
front. A character outside ASCII counts as a letter. -/
def isPlain (s : String) : Bool :=
  let isLetter (c : Char) : Bool := c.isAlpha || c = '_' || c = '$' || 0x80 ≤ c.toNat
  match s.toList with
  | [] => false
  | c :: rest => isLetter c && rest.all fun d => isLetter d || d.isDigit

/-- Words with a value of their own. -/
def valueWords : List String := ["false", "null", "super", "this", "true"]

/-- Words of statements and operators. -/
def commandWords : List String :=
  ["break", "case", "catch", "class", "const", "continue", "debugger", "default", "delete", "do",
   "else", "export", "extends", "finally", "for", "function", "if", "import", "in", "instanceof",
   "new", "return", "switch", "throw", "try", "typeof", "var", "void", "while", "with"]

/-- Words that are kept for later versions of the language. They have the form of a name, and yet
nothing can be called by them. -/
def keptWords : List String :=
  ["enum", "implements", "interface", "let", "package", "private", "protected", "public",
   "static", "yield"]

/-- Names that have a meaning of their own and cannot get another. -/
def ownMeanings : List String := ["eval", "arguments"]

/-- Whether a text is a name and no word of the language. -/
def isFree (s : String) : Bool :=
  isPlain s && !valueWords.contains s && !commandWords.contains s

/-- Whether something can be exported under a name: also as the default, and under any text that
stands in quotation marks. -/
def isExportable (s : String) : Bool :=
  s = "default" || !(valueWords.contains s || commandWords.contains s)

end ScriptLint.Name
