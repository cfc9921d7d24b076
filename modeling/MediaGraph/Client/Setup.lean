import MediaGraph.Client.Lifecycle

/-!
# Setting up a client

A `Setup` collects what a client is to be opened with: its configuration, and the observers who are
to hear of the ports that exist already. `connect` opens the client.
-/

namespace MediaGraph

structure Setup where
  config : Config := .standard
  observers : List Observer := []
  deriving DecidableEq

namespace Setup

def withConfig (setup : Setup) (config : Config) : Setup := { setup with config }

def clientName (setup : Setup) (name : String) : Setup :=
  { setup with config := { setup.config with clientName := name } }

def syncRetryLimit (setup : Setup) (limit : UInt64) : Setup :=
  { setup with config := { setup.config with syncRetryLimit := limit } }

def maxNameLen (setup : Setup) (limit : UInt64) : Setup :=
  { setup with config := { setup.config with maxNameLen := limit } }

/-- Sets the longest wait of a turn: whole milliseconds, and the largest word if they do not fit. -/
def loopTimeout (setup : Setup) (seconds nanoseconds : Nat) : Setup :=
  let milliseconds := seconds * 1000 + nanoseconds / 1000000
  { setup with config := { setup.config with
      loopTimeoutMs := UInt64.ofNat (min milliseconds (UInt64.size - 1)) } }

/-- Adds a property to every local node of the client. -/
def nodeProperty (setup : Setup) (key value : String) : Setup :=
  { setup with config := { setup.config with
      nodeProperties := setup.config.nodeProperties.insert key value } }

def observer (setup : Setup) (observer : Observer) : Setup :=
  { setup with observers := setup.observers ++ [observer] }

def connect {σ : Type} (setup : Setup) (backend : Backend σ) (world : σ) :
    Except Refusal (Client σ) × σ :=
  Client.connect backend setup.config setup.observers world

def inspect (setup : Setup) : String :=
  Text.record "GraphClientBuilder"
    [("config", setup.config.inspect), ("observers", Text.decimal setup.observers.length)]

end Setup

end MediaGraph
