import PipeQuery.Unicode.Case
import PipeQuery.Unicode.Emoji
import PipeQuery.Unicode.Identifier
import PipeQuery.Unicode.Letter
import PipeQuery.Unicode.Sign

/-!
# Binary properties

The names of the properties that each character has or has not.
-/

set_option autoImplicit false

namespace PipeQuery.Unicode

def propertyNames : List (List String × CharSet) :=
  [(["alpha", "alphabetic"], alphabetic),
   (["oalpha", "otheralphabetic"], otherAlphabetic),
   (["lower", "lowercase"], lowercase),
   (["olower", "otherlowercase"], otherLowercase),
   (["upper", "uppercase"], uppercase),
   (["oupper", "otheruppercase"], otherUppercase),
   (["cased"], cased),
   (["ci", "caseignorable"], caseIgnorable),
   (["cwl", "changeswhenlowercased"], changedByLowercase),
   (["cwu", "changeswhenuppercased"], changedByUppercase),
   (["cwt", "changeswhentitlecased"], changedByTitlecase),
   (["cwcf", "changeswhencasefolded"], changedByFolding),
   (["cwcm", "changeswhencasemapped"], changedByCase),
   (["grext", "graphemeextend"], graphemeExtend),
   (["ogrext", "othergraphemeextend"], otherGraphemeExtend),
   (["grbase", "graphemebase"], graphemeBase),
   (["grlink", "graphemelink"], graphemeLink),
   (["mcm", "modifiercombiningmark"], modifierCombiningMark),
   (["pcm", "prependedconcatenationmark"], prependedConcatenationMark),
   (["math"], math),
   (["omath", "othermath"], otherMath),
   (["emoji"], emoji),
   (["ecomp", "emojicomponent"], emojiComponent),
   (["emod", "emojimodifier"], emojiModifier),
   (["ebase", "emojimodifierbase"], emojiModifierBase),
   (["epres", "emojipresentation"], emojiPresentation),
   (["extpict", "extendedpictographic"], extendedPictographic),
   (["dash"], dash),
   (["hyphen"], hyphen),
   (["hex", "hexdigit"], hexDigit),
   (["ahex", "asciihexdigit"], asciiHexDigit),
   (["qmark", "quotationmark"], quotationMark),
   (["term", "terminalpunctuation"], terminalPunctuation),
   (["sterm", "sentenceterminal"], sentenceTerminal),
   (["dia", "diacritic"], diacritic),
   (["ext", "extender"], extender),
   (["sd", "softdotted"], softDotted),
   (["ideo", "ideographic"], ideographic),
   (["uideo", "unifiedideograph"], unifiedIdeograph),
   (["radical"], radical),
   (["idsu", "idsunaryoperator"], idsUnaryOperator),
   (["idsb", "idsbinaryoperator"], idsBinaryOperator),
   (["idst", "idstrinaryoperator"], idsTrinaryOperator),
   (["joinc", "joincontrol"], joinControl),
   (["bidic", "bidicontrol"], bidiControl),
   (["bidim", "bidimirrored"], bidiMirrored),
   (["di", "defaultignorablecodepoint"], defaultIgnorable),
   (["odi", "otherdefaultignorablecodepoint"], otherDefaultIgnorable),
   (["dep", "deprecated"], deprecatedCharacters),
   (["loe", "logicalorderexception"], logicalOrderException),
   (["nchar", "noncharactercodepoint"], noncharacter),
   (["patsyn", "patternsyntax"], patternSyntax),
   (["patws", "patternwhitespace"], patternWhiteSpace),
   (["ids", "idstart"], idStart),
   (["idc", "idcontinue"], idContinue),
   (["oids", "otheridstart"], otherIdStart),
   (["oidc", "otheridcontinue"], otherIdContinue),
   (["xids", "xidstart"], xidStart),
   (["xidc", "xidcontinue"], xidContinue),
   (["idcompatmathstart"], idCompatMathStart),
   (["idcompatmathcontinue"], idCompatMathContinue),
   (["ri", "regionalindicator"], regionalIndicator),
   (["vs", "variationselector"], variationSelector),
   (["wspace", "space", "whitespace"], whiteSpace)]

def property? (name : String) : Option CharSet :=
  (propertyNames.find? (fun row => row.1.contains name)).map Prod.snd

end PipeQuery.Unicode
