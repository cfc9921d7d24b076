import MediaGraph.Properties
import MediaGraph.Text.Numeral

/-!
# Client configuration

Limits and names that a client is opened with. In JSON a configuration is a record whose fields all
have defaults, so any part of it may be left out.
-/

namespace MediaGraph

/-- What a client is opened with. Sizes and times are 64-bit words. -/
structure Config where
  clientName : String := "patchbay"
  /-- Barriers that each stage of waiting for an endpoint may take. -/
  syncRetryLimit : UInt64 := 100
  /-- Longest time that one turn of the loop waits for events. -/
  loopTimeoutMs : UInt64 := 1
  maxNameLen : UInt64 := 255
  /-- Properties of every local node, over the standard ones. -/
  nodeProperties : Properties := .empty
  deriving DecidableEq

namespace Config

def standard : Config := {}

def fieldNames : List String :=
  ["client_name", "sync_retry_limit", "loop_timeout_ms", "max_name_len", "node_properties"]

def toJson (config : Config) : Json :=
  .ofFields (fieldNames.zip
    [.text config.clientName, .natural config.syncRetryLimit.toNat,
     .natural config.loopTimeoutMs.toNat, .natural config.maxNameLen.toNat,
     config.nodeProperties.toJson])

/-- Reads a field if it is given, and takes the default if it is not. -/
def field? {α : Type} (default : α) (read : Json → Option α) : Option Json → Option α
  | some json => read json
  | none => some default

def ofFieldValues? : List (Option Json) → Option Config
  | [clientName, syncRetryLimit, loopTimeoutMs, maxNameLen, nodeProperties] => do
    return {
      clientName := ← field? standard.clientName Json.text? clientName
      syncRetryLimit := ← field? standard.syncRetryLimit Json.longWord? syncRetryLimit
      loopTimeoutMs := ← field? standard.loopTimeoutMs Json.longWord? loopTimeoutMs
      maxNameLen := ← field? standard.maxNameLen Json.longWord? maxNameLen
      nodeProperties := ← field? standard.nodeProperties Properties.ofJson? nodeProperties }
  | _ => none

def ofJson? (json : Json) : Option Config := (json.record? fieldNames).bind ofFieldValues?

def inspect (config : Config) : String :=
  Text.record "ClientConfig"
    [("client_name", Text.quoted config.clientName),
     ("sync_retry_limit", Text.decimal config.syncRetryLimit.toNat),
     ("loop_timeout_ms", Text.decimal config.loopTimeoutMs.toNat),
     ("max_name_len", Text.decimal config.maxNameLen.toNat),
     ("node_properties", config.nodeProperties.inspect)]

end Config

end MediaGraph
