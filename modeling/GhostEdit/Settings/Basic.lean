import GhostEdit.Value.Display

/-!
# Settings

A setting is one of a fixed list of names. It has a place in a configuration document, which may
be inside a section, and a value that stands unless the document gives another. Values are kept
as the document gives them; a value of another kind than expected is a matter for whoever uses it.

## Main definitions

* `Setting`, `Setting.fieldName`, `Setting.place`, `Setting.standard`
* `Settings`, `Settings.standard`
* `Settings.isOn`, `Settings.shown`: a setting as a switch, and in running text
-/

namespace GhostEdit

/-- The things that can be set. -/
inductive Setting where
  | logLevel
  | provider
  | model
  | temperature
  | maxTokens
  | enabled
  | debounceMs
  | throttleMs
  | minChars
  | windowSize
  | chunkSize
  | cacheLifetime
  | cacheCapacity
  | respectIgnore
  | ignoredGlobs
  | acceptKey
  | nextKey
  | prevKey
  | dismissKey
  | completionKey
  | offline
  | requestTimeout
  | failThreshold
  | cooldown
  | showMetrics
  | metricsWindow
deriving DecidableEq, Repr, Inhabited

namespace Setting

/-- All settings in order. -/
def all : List Setting := [
  .logLevel, .provider, .model, .temperature, .maxTokens, .enabled, .debounceMs, .throttleMs,
  .minChars, .windowSize, .chunkSize, .cacheLifetime, .cacheCapacity, .respectIgnore,
  .ignoredGlobs, .acceptKey, .nextKey, .prevKey, .dismissKey, .completionKey, .offline,
  .requestTimeout, .failThreshold, .cooldown, .showMetrics, .metricsWindow]

/-- The name of a setting on its own. -/
def fieldName : Setting → String
  | .logLevel => "log_level"
  | .provider => "provider"
  | .model => "model"
  | .temperature => "temperature"
  | .maxTokens => "max_tokens"
  | .enabled => "suggestion_enabled"
  | .debounceMs => "suggestion_debounce_ms"
  | .throttleMs => "suggestion_throttle_ms"
  | .minChars => "suggestion_min_chars"
  | .windowSize => "suggestion_max_context_lines"
  | .chunkSize => "suggestion_chunk_size"
  | .cacheLifetime => "suggestion_cache_ttl_sec"
  | .cacheCapacity => "suggestion_cache_capacity_bytes"
  | .respectIgnore => "suggestion_respect_ignore"
  | .ignoredGlobs => "suggestion_ignored_globs"
  | .acceptKey => "keys_accept"
  | .nextKey => "keys_next"
  | .prevKey => "keys_prev"
  | .dismissKey => "keys_dismiss"
  | .completionKey => "keys_native_completion"
  | .offline => "network_offline"
  | .requestTimeout => "network_request_timeout_sec"
  | .failThreshold => "network_circuit_fail_threshold"
  | .cooldown => "network_circuit_cooldown_sec"
  | .showMetrics => "show_metrics"
  | .metricsWindow => "metrics_window"

/-- The place of a setting in a configuration document: the sections around it, and its name. -/
def place : Setting → List String × String
  | .logLevel => ([], "log_level")
  | .provider => (["ai"], "provider")
  | .model => (["ai"], "model")
  | .temperature => (["ai"], "temperature")
  | .maxTokens => (["ai"], "max_tokens")
  | .enabled => (["suggestion"], "enabled")
  | .debounceMs => (["suggestion"], "debounce_ms")
  | .throttleMs => (["suggestion"], "throttle_ms")
  | .minChars => (["suggestion"], "min_chars")
  | .windowSize => (["suggestion"], "max_context_lines")
  | .chunkSize => (["suggestion"], "chunk_size")
  | .cacheLifetime => (["suggestion", "cache"], "ttl_sec")
  | .cacheCapacity => (["suggestion", "cache"], "capacity_bytes")
  | .respectIgnore => (["suggestion"], "respect_ignore")
  | .ignoredGlobs => (["suggestion"], "ignored_globs")
  | .acceptKey => (["keys"], "accept")
  | .nextKey => (["keys"], "next")
  | .prevKey => (["keys"], "prev")
  | .dismissKey => (["keys"], "dismiss")
  | .completionKey => (["keys"], "native_completion")
  | .offline => (["network"], "offline")
  | .requestTimeout => (["network"], "request_timeout_sec")
  | .failThreshold => (["network"], "circuit_fail_threshold")
  | .cooldown => (["network"], "circuit_cooldown_sec")
  | .showMetrics => ([], "show_metrics")
  | .metricsWindow => ([], "metrics_window")

/-- The value of a setting unless a document gives another. -/
def standard : Setting → Value
  | .logLevel => .ofString "WARNING"
  | .provider => .ofString "xai"
  | .model => .ofString "grok-code-fast-1"
  | .temperature => .float (Binary64.ofRatio false 1 10)
  | .maxTokens => .int 1024
  | .enabled => .bool true
  | .debounceMs => .int 100
  | .throttleMs => .int 100
  | .minChars => .int 1
  | .windowSize => .int 1000
  | .chunkSize => .int 200
  | .cacheLifetime => .int 300
  | .cacheCapacity => .int 52428800
  | .respectIgnore => .bool true
  | .ignoredGlobs => .arr (["**/.git/**", "**/node_modules/**", "**/.venv/**"].map .ofString)
  | .acceptKey => .ofString "<M-l>"
  | .nextKey => .ofString "<M-j>"
  | .prevKey => .ofString "<M-k>"
  | .dismissKey => .ofString "<C-]>"
  | .completionKey => .ofString "<Tab>"
  | .offline => .bool false
  | .requestTimeout => .int 30
  | .failThreshold => .int 5
  | .cooldown => .int 60
  | .showMetrics => .bool true
  | .metricsWindow => .int 20

/-- The setting with a given name. -/
def named? (name : String) : Option Setting := all.find? (·.fieldName = name)

end Setting

/-- A value for every setting. -/
structure Settings where
  value : Setting → Value

instance : Inhabited Settings := ⟨⟨Setting.standard⟩⟩

namespace Settings

/-- The settings without a document. -/
def standard : Settings := ⟨Setting.standard⟩

/-- The settings with one of them changed. -/
def set (s : Settings) (key : Setting) (v : Value) : Settings :=
  ⟨fun k => if k = key then v else s.value k⟩

/-- Whether a setting is on. -/
def isOn (s : Settings) (key : Setting) : Bool := (s.value key).isTruthy

/-- A setting inside running text. -/
def shown (s : Settings) (key : Setting) : String := String.ofList (s.value key).displayText

end Settings

end GhostEdit
