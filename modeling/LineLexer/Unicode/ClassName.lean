import LineLexer.Unicode.Age
import LineLexer.Unicode.Break.Cluster
import LineLexer.Unicode.Break.Sentence
import LineLexer.Unicode.CaseChange
import LineLexer.Unicode.ScriptExtension

/-!
# Names of classes

What a pattern may write between the braces of `\p{…}`: a property, a general category or a script,
under any of its names, or a value of one of the properties that have more than two.
-/

namespace LineLexer.Unicode.ClassName

open Category Property

/-- The properties. -/
def properties : List NamedSet := [
  ⟨["alpha", "alphabetic"], alphabetic⟩,
  ⟨["lower", "lowercase"], lowercase⟩,
  ⟨["upper", "uppercase"], uppercase⟩,
  ⟨["wspace", "whitespace", "space"], whiteSpace⟩,
  ⟨["cased"], cased⟩,
  ⟨["math"], math⟩,
  ⟨["grext", "graphemeextend"], graphemeExtend⟩,
  ⟨["joinc", "joincontrol"], joinControl⟩,
  ⟨["ids", "idstart"], idStart⟩,
  ⟨["idc", "idcontinue"], idContinue⟩,
  ⟨["hex", "hexdigit"], hexDigit⟩,
  ⟨["ahex", "asciihexdigit"], asciiHexDigit⟩,
  ⟨["dash"], dash⟩,
  ⟨["ideo", "ideographic"], ideographic⟩,
  ⟨["uideo", "unifiedideograph"], unifiedIdeograph⟩,
  ⟨["radical"], radical⟩,
  ⟨["patsyn", "patternsyntax"], patternSyntax⟩,
  ⟨["patws", "patternwhitespace"], patternWhiteSpace⟩,
  ⟨["qmark", "quotationmark"], quotationMark⟩,
  ⟨["dia", "diacritic"], diacritic⟩,
  ⟨["ext", "extender"], extender⟩,
  ⟨["ri", "regionalindicator"], regionalIndicator⟩,
  ⟨["vs", "variationselector"], variationSelector⟩,
  ⟨["nchar", "noncharactercodepoint"], noncharacter⟩,
  ⟨["sd", "softdotted"], softDotted⟩,
  ⟨["term", "terminalpunctuation"], terminalPunctuation⟩,
  ⟨["sterm", "sentenceterminal"], sentenceTerminal⟩,
  ⟨["bidic", "bidicontrol"], bidiControl⟩,
  ⟨["dep", "deprecated"], deprecatedCode⟩,
  ⟨["loe", "logicalorderexception"], logicalOrderException⟩,
  ⟨["di", "defaultignorablecodepoint"], defaultIgnorable⟩,
  ⟨["pcm", "prependedconcatenationmark"], prependedConcatenationMark⟩,
  ⟨["emoji"], emoji⟩,
  ⟨["epres", "emojipresentation"], emojiPresentation⟩,
  ⟨["emod", "emojimodifier"], emojiModifier⟩,
  ⟨["ebase", "emojimodifierbase"], emojiModifierBase⟩,
  ⟨["ecomp", "emojicomponent"], emojiComponent⟩,
  ⟨["extpict", "extendedpictographic"], extendedPictographic⟩,
  ⟨["idsb", "idsbinaryoperator"], idsBinaryOperator⟩,
  ⟨["idst", "idstrinaryoperator"], idsTrinaryOperator⟩,
  ⟨["idsu", "idsunaryoperator"], idsUnaryOperator⟩,
  ⟨["bidim", "bidimirrored"], bidiMirrored⟩,
  ⟨["ci", "caseignorable"], caseIgnorable⟩,
  ⟨["cwcf", "changeswhencasefolded"], changesWhenCasefolded⟩,
  ⟨["cwcm", "changeswhencasemapped"], changesWhenCasemapped⟩,
  ⟨["cwl", "changeswhenlowercased"], changesWhenLowercased⟩,
  ⟨["cwt", "changeswhentitlecased"], changesWhenTitlecased⟩,
  ⟨["cwu", "changeswhenuppercased"], changesWhenUppercased⟩,
  ⟨["grbase", "graphemebase"], graphemeBase⟩,
  ⟨["grlink", "graphemelink"], graphemeLink⟩,
  ⟨["hyphen"], hyphen⟩,
  ⟨["idcompatmathcontinue"], idCompatMathContinue⟩,
  ⟨["idcompatmathstart"], idCompatMathStart⟩,
  ⟨["mcm", "modifiercombiningmark"], modifierCombiningMark⟩,
  ⟨["oalpha", "otheralphabetic"], otherAlphabetic⟩,
  ⟨["odi", "otherdefaultignorablecodepoint"], otherDefaultIgnorable⟩,
  ⟨["ogrext", "othergraphemeextend"], otherGraphemeExtend⟩,
  ⟨["oidc", "otheridcontinue"], otherIdContinue⟩,
  ⟨["oids", "otheridstart"], otherIdStart⟩,
  ⟨["olower", "otherlowercase"], otherLowercase⟩,
  ⟨["omath", "othermath"], otherMath⟩,
  ⟨["oupper", "otheruppercase"], otherUppercase⟩,
  ⟨["xidc", "xidcontinue"], xidContinue⟩,
  ⟨["xids", "xidstart"], xidStart⟩]

/-- The general categories and their groups. -/
def categories : List NamedSet := [
  ⟨["c", "other"], other⟩,
  ⟨["cc", "control", "cntrl"], control⟩,
  ⟨["cf", "format"], format⟩,
  ⟨["cn", "unassigned"], unassigned⟩,
  ⟨["co", "privateuse"], privateUse⟩,
  ⟨["l", "letter"], letter⟩,
  ⟨["lc", "casedletter"], casedLetter⟩,
  ⟨["ll", "lowercaseletter"], lowercaseLetter⟩,
  ⟨["lm", "modifierletter"], modifierLetter⟩,
  ⟨["lo", "otherletter"], otherLetter⟩,
  ⟨["lt", "titlecaseletter"], titlecaseLetter⟩,
  ⟨["lu", "uppercaseletter"], uppercaseLetter⟩,
  ⟨["m", "mark", "combiningmark"], mark⟩,
  ⟨["mc", "spacingmark"], spacingMark⟩,
  ⟨["me", "enclosingmark"], enclosingMark⟩,
  ⟨["mn", "nonspacingmark"], nonspacingMark⟩,
  ⟨["n", "number"], number⟩,
  ⟨["nd", "decimalnumber", "digit"], decimalNumber⟩,
  ⟨["nl", "letternumber"], letterNumber⟩,
  ⟨["no", "othernumber"], otherNumber⟩,
  ⟨["p", "punctuation", "punct"], punctuation⟩,
  ⟨["pc", "connectorpunctuation"], connectorPunctuation⟩,
  ⟨["pd", "dashpunctuation"], dashPunctuation⟩,
  ⟨["pe", "closepunctuation"], closePunctuation⟩,
  ⟨["pf", "finalpunctuation"], finalPunctuation⟩,
  ⟨["pi", "initialpunctuation"], initialPunctuation⟩,
  ⟨["po", "otherpunctuation"], otherPunctuation⟩,
  ⟨["ps", "openpunctuation"], openPunctuation⟩,
  ⟨["s", "symbol"], symbol⟩,
  ⟨["sc", "currencysymbol"], currencySymbol⟩,
  ⟨["sk", "modifiersymbol"], modifierSymbol⟩,
  ⟨["sm", "mathsymbol"], mathSymbol⟩,
  ⟨["so", "othersymbol"], otherSymbol⟩,
  ⟨["z", "separator"], separator⟩,
  ⟨["zl", "lineseparator"], lineSeparator⟩,
  ⟨["zp", "paragraphseparator"], paragraphSeparator⟩,
  ⟨["zs", "spaceseparator"], spaceSeparator⟩,
  ⟨["any"], .all⟩,
  ⟨["assigned"], unassigned.complement⟩,
  ⟨["ascii"], .codes 0 0x7F⟩]

def ofScript (script : Script) : NamedSet := ⟨script.names, script.chars⟩

def scripts : List NamedSet := Script.every.map ofScript

/-- The class under a plain name: a property before a category before a script. -/
def named? (name : List Char) : Option CharSet :=
  let name := looseName name
  (NamedSet.find? properties name).or
    ((NamedSet.find? categories name).or (NamedSet.find? scripts name))

/-- The values of a property that has more than two. -/
def valuesOf? : String → Option (List NamedSet)
  | "gc" | "generalcategory" => some categories
  | "sc" | "script" => some scripts
  | "scx" | "scriptextensions" => some Script.extendedSets
  | "age" => some Age.sets
  | "gcb" | "graphemeclusterbreak" => some Break.Cluster.sets
  | "wb" | "wordbreak" => some Break.Word.sets
  | "sb" | "sentencebreak" => some Break.Sentence.sets
  | _ => none

/-- The class that a value of a property describes, such as a script. -/
def ofValue? (property value : List Char) : Option CharSet :=
  (valuesOf? (String.ofList (looseName property))).bind
    fun sets => NamedSet.find? sets (looseName value)

end LineLexer.Unicode.ClassName
