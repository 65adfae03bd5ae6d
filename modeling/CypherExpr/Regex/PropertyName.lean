import CypherExpr.Regex.Segmentation
import CypherExpr.Text.Age

/-!
# Names of Unicode properties in patterns

A name alone is a binary property, a general category or a script; a pair of names gives the value
of a category, a script, an age or a class of segmentation.
-/

namespace CypherExpr.Regex

open Text (Ranges)

/-- The general categories under their long names, each as the head of its two-letter codes. -/
def categoryNames : List (String × List String) := [
  ("other", ["C"]), ("control", ["Cc"]), ("cntrl", ["Cc"]), ("format", ["Cf"]),
  ("privateuse", ["Co"]), ("letter", ["L"]), ("lowercaseletter", ["Ll"]),
  ("modifierletter", ["Lm"]),
  ("otherletter", ["Lo"]), ("titlecaseletter", ["Lt"]), ("uppercaseletter", ["Lu"]),
  ("casedletter", ["Lu", "Ll", "Lt"]), ("lc", ["Lu", "Ll", "Lt"]), ("mark", ["M"]),
  ("combiningmark", ["M"]), ("spacingmark", ["Mc"]), ("enclosingmark", ["Me"]),
  ("nonspacingmark", ["Mn"]), ("number", ["N"]), ("decimalnumber", ["Nd"]), ("digit", ["Nd"]),
  ("letternumber", ["Nl"]), ("othernumber", ["No"]), ("punctuation", ["P"]), ("punct", ["P"]),
  ("connectorpunctuation", ["Pc"]), ("dashpunctuation", ["Pd"]), ("closepunctuation", ["Pe"]),
  ("finalpunctuation", ["Pf"]), ("initialpunctuation", ["Pi"]), ("otherpunctuation", ["Po"]),
  ("openpunctuation", ["Ps"]), ("symbol", ["S"]), ("currencysymbol", ["Sc"]),
  ("modifiersymbol", ["Sk"]), ("mathsymbol", ["Sm"]), ("othersymbol", ["So"]), ("separator", ["Z"]),
  ("lineseparator", ["Zl"]), ("paragraphseparator", ["Zp"]), ("spaceseparator", ["Zs"])]

/-- The set of a general category, by its code or its long name.  Surrogates are not characters, and
their category has no set. -/
def categorySet (name : String) : Option CharSet :=
  let codes := Text.categoryTable.map Prod.fst
  let heads := ["C", "L", "M", "N", "P", "S", "Z"] ++ codes
  if name = "any" then some (.complement .empty)
  else if name = "ascii" then some (.ofPairs [(0x00, 0x7F)])
  else if name = "assigned" then some (.ranges Text.assignedRanges)
  else if name = "cn" || name = "unassigned" then some BinaryProperty.unassigned
  else
    let found :=
      match heads.find? fun head => looseName head == name with
      | some head => some [head]
      | none => categoryNames.lookup name
    found.map fun parts =>
      let assigned := CharSet.ranges (Ranges.union (parts.map Text.categoryRanges))
      if parts == ["C"] then assigned ∪ BinaryProperty.unassigned else assigned

/-- The full name of a script, by its name or its code. -/
def scriptName (name : String) : Option String :=
  match Text.scriptCodes.find? fun row => looseName row.1 == name with
  | some row => some row.2
  | none => (Text.scriptTable.find? fun row => looseName row.1 == name).map Prod.fst

/-- The set of a script, by its name or its code. -/
def scriptSet (name : String) : Option CharSet :=
  (scriptName name).map Segmentation.scriptRanges

/-- The characters that are used in a script: its own, unless other scripts have taken them, and
those that it shares. -/
def scriptUseSet (name : String) : Option CharSet :=
  (scriptName name).map fun full =>
    let isThis (code : String) := Text.scriptCodes.lookup code == some full
    let shared := Text.sharedTable.map fun row => (row.1, Ranges.ofText row.2)
    let here := shared.filter fun row => row.1.any isThis
    (Segmentation.scriptRanges full \ .ranges (.union (shared.map Prod.snd)))
      ∪ .ranges (.union (here.map Prod.snd))

/-- The characters of a version of Unicode, those of earlier versions among them. -/
def ageSet (name : String) : Option CharSet :=
  let isNamed (version : String) :=
    name == version || name == "v" ++ String.ofList (version.toList.filter fun c => c != '.')
  let before := Text.ageTable.takeWhile fun row => !isNamed row.1
  ((Text.ageTable.drop before.length).head?).map fun last =>
    .ranges (.union ((before ++ [last]).map fun row => Ranges.ofText row.2))

/-- The set that a name alone stands for.  Three names of categories are also short for properties,
and mean the categories. -/
def namedSet (name : String) : Option CharSet :=
  let loose := looseName name
  let category := loose = "cf" || loose = "sc" || loose = "lc"
  (if category then none else NamedSet.lookup BinaryProperty.table loose) <|> categorySet loose
    <|> scriptSet loose

/-- The set of the characters with a value of a property. -/
def valueSet (property value : String) : Option CharSet :=
  let loose := looseName value
  match looseName property with
  | "gc" | "generalcategory" => categorySet loose
  | "sc" | "script" => scriptSet loose
  | "scx" | "scriptextensions" => scriptUseSet loose
  | "age" => ageSet loose
  | "gcb" | "graphemeclusterbreak" => NamedSet.lookup Segmentation.graphemeClasses loose
  | "wb" | "wordbreak" => NamedSet.lookup Segmentation.wordClasses loose
  | "sb" | "sentencebreak" => NamedSet.lookup Segmentation.sentenceClasses loose
  | _ => none

end CypherExpr.Regex
