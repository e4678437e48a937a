import GlslCompliance.Command.Word
import GlslCompliance.Decimal.Integer
import GlslCompliance.Language.NameError
import GlslCompliance.Text.ControlSequence
import GlslCompliance.Text.Styled

/-!
# Usage errors

What can be wrong with a command line before any file is looked at.
-/

namespace GlslCompliance.Command

/-- Why the value of a setting could not be read. -/
inductive ValueError where
  | name (e : NameError)
  | integer (e : Decimal.IntegerError)
  | outOfRange (n : Int)
  deriving DecidableEq, Repr

/-- The wording of a value error. -/
def ValueError.message : ValueError → String
  | name e => e.message
  | integer e => e.message
  | outOfRange n => toString n ++ " is not in 0..=4294967295"

/-- Why a command line could not be read. -/
inductive UsageError where
  | invalidValue (setting : Setting) (value : String) (reason : ValueError)
  | missingValue (setting : Setting)
  | repeatedSetting (setting : Setting)
  | repeatedSwitch (name : String)
  | valueForSwitch (name : String)
  | unknownOption (name : String)
  | unexpectedArgument (text : String)
  | unknownSubcommand (text : String)
  | missingSubcommand
  deriving DecidableEq, Repr

/-- A word of the command line that is at fault, in colour. -/
def markFault (word : String) : String := "'" ++ Text.paint true .yellow word ++ "'"

/-- A word that a command line may have, in colour. -/
def markKnown (word : String) : String := "'" ++ Text.paint true .bold word ++ "'"

/-- The wording of a usage error, in colour. -/
def UsageError.message : UsageError → String
  | invalidValue setting value reason =>
    "invalid value " ++ markFault value ++ " for " ++ markKnown setting.label ++ ": "
      ++ reason.message
  | missingValue setting => "a value is required for " ++ markKnown setting.label
  | repeatedSetting setting => markKnown setting.label ++ " cannot be given twice"
  | repeatedSwitch name => markKnown name ++ " cannot be given twice"
  | valueForSwitch name => markKnown name ++ " takes no value"
  | unknownOption name => "unknown option " ++ markFault name
  | unexpectedArgument text => "unexpected argument " ++ markFault text
  | unknownSubcommand text => "unknown subcommand " ++ markFault text
  | missingSubcommand => "a subcommand is required"

/-- The answer to a command line that cannot be read. It is laid out in colour and then stripped of
all control sequences, those in the words of the command line included. A sequence that those words
leave unfinished takes along what stands behind it, at most up to the next change of colour. -/
def UsageError.render (e : UsageError) : String :=
  Text.stripControls (Text.paint true .redBold "error:" ++ " " ++ e.message
    ++ "\n\nFor more information, try " ++ markKnown "--help" ++ ".\n")

end GlslCompliance.Command
