/-
The text of the entry module of a plugin. It imports the plugin, makes its rules callable, and
registers the imported class.
-/

namespace ScriptLint.Entry

/-- The lines after the import, the same for every plugin. -/
def bodyLines : List String :=
  ["const rules = new Map();",
   "function registerRule(ruleClass) \x7b",
   "  if (typeof ruleClass !== 'function' || typeof ruleClass.ruleCode !== 'function') \x7b",
   "    return;",
   "  \x7d",
   "  const code = ruleClass.ruleCode();",
   "  rules.set(code, ruleClass);",
   "  Host.opSync('op_add_rule_code', \x7b code \x7d);",
   "\x7d",
   "globalThis.runPlugins = function(programAst, ruleCodes) \x7b",
   "  for (const code of ruleCodes) \x7b",
   "    const rule = rules.get(code);",
   "    if (rule === undefined) \x7b",
   "      continue;",
   "    \x7d",
   "    const diagnostics = new rule().collectDiagnostics(programAst);",
   "    Host.opSync('op_add_diagnostics', \x7b code, diagnostics \x7d);",
   "  \x7d",
   "\x7d;",
   "registerRule(Plugin);"]

/-- The text of the entry module; only the first line depends on the plugin. -/
def source (path : String) : String :=
  "import Plugin from '" ++ path ++ "';\n" ++ String.join (bodyLines.map (· ++ "\n"))

end ScriptLint.Entry
