/-
Which module a specifier names. Module ids are absolute paths without `.`, `..` and empty
segments. A specifier is a `file` URL, an absolute path, or a path relative to the directory of
the module that imports it; package names are not looked up.
-/
import ScriptLint.Module.Path
import ScriptLint.Module.Url

namespace ScriptLint

/-- How the place is found that segments lead to. -/
abbrev Locate := List Path.Segment → Except ModuleFault (List Path.Segment)

/-- The place that segments lead to where there are no links. -/
def Locate.lexical : Locate := fun segs => .ok (Path.normalize segs)

/-- The id of the module at the end of the segments. Paths cannot hold a NUL. -/
def idOfSegments (locate : Locate) (segs : List Path.Segment) : Except ModuleFault String :=
  if segs.any fun s => s.contains (Char.ofNat 0) then .error .nulInPath
  else return String.ofList (Path.render (← locate segs))

/-- The segments a path specifier leads through. -/
def specifierSegments (specifier referrer : List Char) : List Path.Segment :=
  if Path.isAbsolute specifier then Path.segments specifier
  else Path.parent referrer ++ Path.segments specifier

/-- The id of the module that `specifier` names in the module `referrer`. -/
def resolveSpecifierBy (locate : Locate) (specifier referrer : String) :
    Except ModuleFault String :=
  if specifier.isEmpty then .error (.emptySpecifier referrer)
  else
    match Url.parse specifier with
    | .error fault => .error (.badHost fault)
    | .ok url =>
      if url.scheme = "file" then
        idOfSegments locate (Path.segments (Url.unescape (Url.unescape url.path)))
      else if 1 < url.scheme.length then
        .error (.unsupportedScheme url.scheme specifier)
      else idOfSegments locate (specifierSegments specifier.toList referrer.toList)

/-- The id of the module that `specifier` names in the module `referrer` where there are no links. -/
def resolveSpecifier (specifier referrer : String) : Except ModuleFault String :=
  resolveSpecifierBy .lexical specifier referrer

end ScriptLint
