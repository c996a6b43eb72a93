/-! Probes and names. A probe tells what is about to be recorded; collection strategies
decide whether it is. Strategies are driven by settings, and the settings of a target
have names made from the name of the target. -/
namespace SpanCapture

/-- What is about to be recorded, and on whose behalf. -/
structure Probe where
  className : String
  methodName : String
  plugin : Option String := none
  aspect : Option String := none
  application : Option String := none
  endpointOnly : Bool := false
  isEndpoint : Bool := false
  deriving Repr, DecidableEq

/-- The identity of a strategy: group, kind and, for some, a target. -/
structure StrategyName where
  group : String
  kind : String
  target : Option String := none
  deriving Repr, DecidableEq

def StrategyName.dotted (name : StrategyName) : String :=
  name.group ++ "." ++ name.kind ++ match name.target with
    | some target => "." ++ target
    | none => ""

namespace SettingName

def agentDisabled : String := "collection.agent.disabled"

def instrumentationRoot : String := "collection.instrumentation."

def pluginsRoot : String := "collection.plugins."

def aspectsRoot : String := "collection.aspects."

def ignoredApplications : String := "collection.ignored-applications"

def endpointRatio : String := "collection.endpoint-only.ratio"

def instrumentation (className methodName : String) : String :=
  instrumentationRoot ++ className ++ "." ++ methodName

def pluginEnabled (plugin : String) : String := pluginsRoot ++ plugin ++ ".enabled"

def aspectEnabled (aspect : String) : String := aspectsRoot ++ aspect ++ ".enabled"

end SettingName
end SpanCapture
