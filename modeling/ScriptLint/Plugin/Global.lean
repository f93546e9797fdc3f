/-
The names that every module of a plugin can use without importing them: the built-in ones of the
script language, and those that the host has put there.
-/
import ScriptLint.Plugin.Realm

namespace ScriptLint.Global

/-- The names of functions and classes. -/
def functions : List String :=
  ["Object", "Function", "Error", "EvalError", "RangeError", "ReferenceError", "SyntaxError",
   "TypeError", "URIError", "InternalError", "AggregateError", "Array", "parseInt", "parseFloat",
   "isNaN", "isFinite", "decodeURI", "decodeURIComponent", "encodeURI", "encodeURIComponent",
   "escape", "unescape", "Number", "Boolean", "String", "Symbol", "BigInt", "Date", "RegExp",
   "Proxy", "Map", "Set", "WeakMap", "WeakSet", "ArrayBuffer", "SharedArrayBuffer",
   "Uint8ClampedArray", "Int8Array", "Uint8Array", "Int16Array", "Uint16Array", "Int32Array",
   "Uint32Array", "BigInt64Array", "BigUint64Array", "Float32Array", "Float64Array", "DataView",
   "Promise", "eval", "__lintbridgeOp", "__lintbridgeBuildAst"]

/-- The names of objects that have only functions. -/
def objects : List String :=
  ["Host", "__lintbridgeModules", "ControlFlow", "Math", "Reflect", "JSON", "Atomics"]

/-- The members of the global object that are listed and are no functions. -/
def listed : List String := ["Host", "__lintbridgeModules", "ControlFlow"]

/-- The value of a name. -/
def value? (name : String) : Option Value :=
  if name = "Visitor" then some .visitor
  else if functions.contains name then some .function
  else if objects.contains name then some (.json (.obj []))
  else if name = "undefined" || name = "this" then some .undefined
  else if name = "null" then some (.json .null)
  else if name = "true" then some (.json (.bool true))
  else if name = "false" then some (.json (.bool false))
  else if name = "NaN" then some (.json (.float .nan))
  else if name = "Infinity" then some (.json (.float .infinity))
  else if name = "globalThis" then some (.json (.obj (listed.map fun n => (n, .obj []))))
  else none

end ScriptLint.Global
