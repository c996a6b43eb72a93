import SpanCapture.CommandLine.Options

/-! The help text, in two forms. The short form has one line for every option, and the
explanations begin in one column. The full form puts explanations below the options, with
the meaning of possible values and then the default in paragraphs of their own. -/
namespace SpanCapture.CommandLine

namespace OptionName

def synopsis (o : OptionName) : String :=
  match o.valueName? with
  | some name => "--" ++ o.long ++ " <" ++ name ++ ">"
  | none => "--" ++ o.long

def lead (o : OptionName) : String :=
  match o.short? with
  | some letter => "  -" ++ String.ofList [letter] ++ ", "
  | none => "      "

/-- The explanation of an option; that of the help itself names its other form. -/
def explanation (full : Bool) (o : OptionName) : String :=
  match o, full with
  | help, true => o.about ++ " (see a summary with '-h')"
  | help, false => o.about ++ " (see more with '--help')"
  | _, _ => o.about

end OptionName

namespace Help

def widestSynopsis : Nat :=
  (OptionName.all.map fun o => o.synopsis.length).foldl max 0

def defaultNote (o : OptionName) : List String :=
  o.default?.toList.map fun value => "[default: " ++ value ++ "]"

def choicesNote (o : OptionName) : List String :=
  if o.choices.isEmpty then []
  else ["[possible values: " ++ ", ".intercalate (o.choices.map Prod.fst) ++ "]"]

def shortEntry (o : OptionName) : String :=
  let gap := "".pushn ' ' (widestSynopsis + 2 - o.synopsis.length)
  o.lead ++ o.synopsis ++ gap ++
    " ".intercalate (o.explanation false :: (defaultNote o ++ choicesNote o)) ++ "\n"

def margin : String := "".pushn ' ' 10

def choiceLines (o : OptionName) : String :=
  if o.choices.isEmpty then ""
  else "\n" ++ margin ++ "Possible values:\n" ++
    String.join (o.choices.map fun (value, meaning) =>
      margin ++ "- " ++ value ++ ": " ++ meaning ++ "\n")

def fullEntry (o : OptionName) : String :=
  let notes := (defaultNote o).map fun note => margin ++ "\n" ++ margin ++ note ++ "\n"
  o.lead ++ o.synopsis ++ "\n" ++ margin ++ o.explanation true ++ "\n" ++
    choiceLines o ++ String.join notes

def text (full : Bool) : String :=
  "In-process span capture engine driven by a synthetic workload\n\n" ++
    "Usage: trazo [OPTIONS]\n\nOptions:\n" ++
    if full then "\n".intercalate (OptionName.all.map fullEntry)
    else String.join (OptionName.all.map shortEntry)

end Help
end SpanCapture.CommandLine
