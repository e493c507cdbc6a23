import FrameMachine.Machine

/-! The settings of a run, and their text as a TOML document. -/

namespace FrameMachine

structure Configuration where
  /-- The depth of the deepest frame allowed. -/
  maxDepth : UInt64
  /-- Whether every completed instruction goes to the log. -/
  traceEnabled : Bool
deriving DecidableEq, Inhabited

namespace Configuration

def standard : Configuration := ⟨defaultLimit, false⟩

def boolText (b : Bool) : String := if b then "true" else "false"

/-- The document that says all settings. A TOML integer has 64 bits with sign, so a greater depth
has no document. -/
def render? (config : Configuration) : Option String :=
  if (config.maxDepth.toNat : Int) ≤ Int64.maxValue.toInt then
    some ("[engine]\nmax_depth = " ++ Decimal.text config.maxDepth.toNat
      ++ "\n\n[trace]\nenabled = " ++ boolText config.traceEnabled ++ "\n")
  else none

/-- What is said of a configuration without a document. -/
def renderMessage : String := "Failed to render configuration"

end Configuration

end FrameMachine
