import GhostEdit.Command.Console
import GhostEdit.Settings.Document

/-!
# Commands about the setup

One command writes the standard configuration file, another tells which providers can be used and
what else is worth knowing.

## Main definitions

* `Setup.settings`: the settings a command works with
* `Setup.initConfig`, `Setup.doctor`
-/

namespace GhostEdit

namespace Setup

open Console

/-- The settings of a configuration file, or of the user's own; what cannot be read gives the
standard settings. -/
def settings (w : World) (files : Files) (path : Option Path) : Except Failure Settings :=
  (Settings.ofFile files w.directory (path.getD w.configPath) w.toml).map (·.getD .standard)

/-- Write settings to a file, and make its directory if that is missing. -/
def save (w : World) (files : Files) (s : Settings) (p : Path) : Except Failure Files := do
  let files ← files.makeDirectory w.directory p.parent
  let bytes ← w.toml.dump s.toDocument
  files.write w.directory p bytes

/-- Write the standard configuration file, but over an existing one only by force. -/
def initConfig (w : World) (path : Option Path) (force : Bool) : Run Unit := do
  let target := path.getD w.configPath
  let shown := String.ofList target.toText
  let files := (← get).files
  if (← need (files.holds w.directory target)) && !force then
    say s!"⚠️  Config file already exists at {shown} (use --force)"
    stop 1
  let files ← need (save w files .standard target)
  modify fun c => { c with files }
  say s!"✅ Wrote default config to {shown}"

/-- The line about a service. -/
def serviceLine (env : Environment) (service : Service) : String :=
  if service.isAvailable env then s!"✅ {service.name} is available"
  else s!"❌ {service.name} unavailable ({service.variableName} not set)"

/-- Tell what the environment offers. -/
def doctor (w : World) : Run Unit := do
  let files := (← get).files
  let s ← need (settings w files none)
  say "🔍 CLI AI Suggest Doctor"
  say "========================"
  Service.all.forM fun service => say (serviceLine w.environment service)
  let shown := String.ofList w.configPath.toText
  if ← need (files.holds w.directory w.configPath) then say s!"✅ Config file found at {shown}"
  else say s!"⚠️  Config file not found at {shown} (using defaults)"
  if s.isOn .offline then say "⚠️  Offline mode is on, no requests will be sent"
  if !s.isOn .enabled then say "⚠️  Suggestions are disabled in config"
  if ← need (files.holds w.directory ⟨[], [".gitignore".toList]⟩) then
    say "✅ .gitignore found, ignored files get no suggestions"
  let available := Service.all.filter (·.isAvailable w.environment)
  if available.isEmpty then say "\n❌ No providers available - set API keys"
  else
    let names := ", ".intercalate (available.map (·.name))
    let configured := s.shown .provider
    say s!"\nAvailable providers: {names} (configured: {configured})"

end Setup

end GhostEdit
