import ScriptLint.Main
import ScriptLint.Plugin.EntrySource
import ScriptLint.Script.Nested
import ScriptLint.Proofs.Module.Order
import ScriptLint.Proofs.Plugin.Isolation
import ScriptLint.Proofs.Lint.Lookup
import ScriptLint.Proofs.Flow.Coverage
import ScriptLint.Proofs.Tree.Lossless
import ScriptLint.Proofs.Tree.Parts
import ScriptLint.Proofs.Tree.Position
import ScriptLint.Proofs.Module.Resolve
import ScriptLint.Proofs.Rule.Typeof
import ScriptLint.Proofs.Plugin.Verdict
import ScriptLint.Proofs.Host.Steps
import ScriptLint.Proofs.Host.Outgoing
import ScriptLint.Proofs.Finding.Checked
import ScriptLint.Proofs.Host.Decoding
import ScriptLint.Proofs.Flow.Stopping
import ScriptLint.Proofs.Rule.Unreachable
import ScriptLint.Proofs.Flow.Exactness
import ScriptLint.Proofs.Flow.Once
import ScriptLint.Proofs.Flow.Trivia
import ScriptLint.Proofs.Module.Requires
import ScriptLint.Proofs.Module.Canonical
import ScriptLint.Proofs.Module.Splice
import ScriptLint.Proofs.Module.Causes
import ScriptLint.Proofs.Module.Failures
import ScriptLint.Proofs.Module.Names
import ScriptLint.Proofs.Files.Discovery
import ScriptLint.Proofs.Script.Activation
import ScriptLint.Proofs.Script.HandlerName
