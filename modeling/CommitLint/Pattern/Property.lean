import CommitLint.Pattern.CharSet
import CommitLint.Text.Property
import CommitLint.Text.Script

/-!
# Named sets of characters

The sets that a pattern may name: general categories and groups of them, scripts, and properties
that cut across the categories. Names are compared without regard to case, blanks, dashes and low
lines (`propertyKey`), and a leading `is` does not count.
-/

namespace CommitLint.CharSet

open Text

/-! ### Names -/

/-- The characters of a name that count, in lower case. -/
def significant (name : List Char) : List Char :=
  (name.filter fun c => decide (c.toNat < 128) && c ≠ ' ' && c ≠ '_' && c ≠ '-').map Char.toLower

/-- The form of a name by which it is looked up. -/
def propertyKey (name : List Char) : List Char :=
  match name with
  | i :: s :: rest =>
    if Char.toLower i = 'i' ∧ Char.toLower s = 's' then
      if significant rest = ['c'] then "isc".toList else significant rest
    else significant name
  | _ => significant name

/-- Whether a name is one of those listed, which are written in the form for looking up. -/
def isNamed (key : List Char) (names : List String) : Bool :=
  names.any fun name => name.toList = key

/-- The entry of the first list of names that holds the key. -/
def named? {α : Type} (key : List Char) (entries : List (List String × α)) : Option α :=
  (entries.find? fun e => isNamed key e.1).map Prod.snd

/-! ### General categories -/

/-- The characters of any of the categories. -/
def categories (gs : List Category) : CharSet := anyOf (gs.map category)

def casedLetter : CharSet := categories [.uppercaseLetter, .lowercaseLetter, .titlecaseLetter]

def letter : CharSet :=
  categories [.uppercaseLetter, .lowercaseLetter, .titlecaseLetter, .modifierLetter, .otherLetter]

def mark : CharSet := categories [.nonspacingMark, .spacingMark, .enclosingMark]

def number : CharSet := categories [.decimalNumber, .letterNumber, .otherNumber]

def punctuation : CharSet :=
  categories [.connectorPunctuation, .dashPunctuation, .openPunctuation, .closePunctuation,
    .initialPunctuation, .finalPunctuation, .otherPunctuation]

def symbol : CharSet := categories [.mathSymbol, .currencySymbol, .modifierSymbol, .otherSymbol]

def separator : CharSet := categories [.spaceSeparator, .lineSeparator, .paragraphSeparator]

def other : CharSet := categories [.control, .format, .privateUse, .unassigned]

/-- The general categories and their groups with their names. -/
def categoryNames : List (List String × CharSet) :=
  [(["any"], all),
   (["assigned"], compl (category .unassigned)),
   (["ascii"], ranges [(0, 127)]),
   (["lc", "casedletter"], casedLetter),
   (["lu", "uppercaseletter"], category .uppercaseLetter),
   (["ll", "lowercaseletter"], category .lowercaseLetter),
   (["lt", "titlecaseletter"], category .titlecaseLetter),
   (["lm", "modifierletter"], category .modifierLetter),
   (["lo", "otherletter"], category .otherLetter),
   (["l", "letter"], letter),
   (["mn", "nonspacingmark"], category .nonspacingMark),
   (["mc", "spacingmark"], category .spacingMark),
   (["me", "enclosingmark"], category .enclosingMark),
   (["m", "mark", "combiningmark"], mark),
   (["nd", "decimalnumber", "digit"], digit),
   (["nl", "letternumber"], category .letterNumber),
   (["no", "othernumber"], category .otherNumber),
   (["n", "number"], number),
   (["pc", "connectorpunctuation"], category .connectorPunctuation),
   (["pd", "dashpunctuation"], category .dashPunctuation),
   (["ps", "openpunctuation"], category .openPunctuation),
   (["pe", "closepunctuation"], category .closePunctuation),
   (["pi", "initialpunctuation"], category .initialPunctuation),
   (["pf", "finalpunctuation"], category .finalPunctuation),
   (["po", "otherpunctuation"], category .otherPunctuation),
   (["p", "punct", "punctuation"], punctuation),
   (["sm", "mathsymbol"], category .mathSymbol),
   (["sc", "currencysymbol"], category .currencySymbol),
   (["sk", "modifiersymbol"], category .modifierSymbol),
   (["so", "othersymbol"], category .otherSymbol),
   (["s", "symbol"], symbol),
   (["zs", "spaceseparator"], category .spaceSeparator),
   (["zl", "lineseparator"], category .lineSeparator),
   (["zp", "paragraphseparator"], category .paragraphSeparator),
   (["z", "separator"], separator),
   (["cc", "control", "cntrl"], category .control),
   (["cf", "format"], category .format),
   (["co", "privateuse"], category .privateUse),
   (["cn", "unassigned"], category .unassigned),
   (["c", "other"], other)]

/-! ### Properties -/

def alphabetic : CharSet := anyOf [letter, category .letterNumber, ranges otherAlphabeticRanges]

def alphanumeric : CharSet := union alphabetic number

def lowercase : CharSet := union (category .lowercaseLetter) (ranges otherLowercaseRanges)

def uppercase : CharSet := union (category .uppercaseLetter) (ranges otherUppercaseRanges)

def idStart : CharSet := anyOf [letter, category .letterNumber, ranges otherIdStartRanges]

def idContinue : CharSet :=
  anyOf [idStart, category .nonspacingMark, category .spacingMark, digit,
    category .connectorPunctuation,
    ranges otherIdContinueRanges]

/-- The properties with their names. -/
def propertyNames : List (List String × CharSet) :=
  [(["alpha", "alphabetic"], alphabetic),
   (["lower", "lowercase"], lowercase),
   (["upper", "uppercase"], uppercase),
   (["cased"], anyOf [lowercase, uppercase, category .titlecaseLetter]),
   (["space", "wspace", "whitespace"], space),
   (["ids", "idstart"], idStart),
   (["idc", "idcontinue"], idContinue),
   (["emoji"], ranges emojiRanges),
   (["epres", "emojipresentation"], ranges emojiPresentationRanges),
   (["emod", "emojimodifier"], ranges emojiModifierRanges),
   (["ebase", "emojimodifierbase"], ranges emojiModifierBaseRanges),
   (["ecomp", "emojicomponent"], ranges emojiComponentRanges),
   (["extpict", "extendedpictographic"], ranges extendedPictographicRanges),
   (["dash"], ranges dashRanges),
   (["ahex", "asciihexdigit"], ranges [(0x30, 0x39), (0x41, 0x46), (0x61, 0x66)]),
   (["hex", "hexdigit"], ranges hexDigitRanges),
   (["ideo", "ideographic"], ranges ideographicRanges),
   (["math"], ranges mathRanges),
   (["qmark", "quotationmark"], ranges quotationMarkRanges),
   (["term", "terminalpunctuation"], ranges terminalPunctuationRanges),
   (["sterm", "sentenceterminal"], ranges sentenceTerminalRanges),
   (["dia", "diacritic"], ranges diacriticRanges),
   (["ext", "extender"], ranges extenderRanges),
   (["vs", "variationselector"], ranges variationSelectorRanges),
   (["ri", "regionalindicator"], ranges [(0x1F1E6, 0x1F1FF)]),
   (["joinc", "joincontrol"], ranges [(0x200C, 0x200D)]),
   (["nchar", "noncharactercodepoint"],
    union (ranges [(0xFDD0, 0xFDEF)])
      (ranges ((List.range 17).map fun plane =>
        (plane * 0x10000 + 0xFFFE, plane * 0x10000 + 0xFFFF))))]

/-! ### Looking up -/

/-- The characters of the script that a key names. -/
def scriptNamed? (key : List Char) : Option CharSet :=
  (Script.all.find? fun script => (script.name :: script.codes).any fun name =>
    significant name.toList = key).map
    fun script => ranges script.ranges

/-- The set with a name: a property, a category or a script, looked for in this order. -/
def ofName? (name : List Char) : Option CharSet :=
  let key := propertyKey name
  (named? key propertyNames).or ((named? key categoryNames).or (scriptNamed? key))

/-- The set of the characters for which the property with a name has the value with a name. -/
def ofNameAndValue? (name value : List Char) : Option CharSet :=
  let key := propertyKey name
  if isNamed key ["gc", "generalcategory", "category"] then named? (propertyKey value) categoryNames
  else if isNamed key ["sc", "script"] then scriptNamed? (propertyKey value)
  else Option.none

end CommitLint.CharSet
