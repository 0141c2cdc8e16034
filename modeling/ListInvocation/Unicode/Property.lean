import ListInvocation.Unicode.Age
import ListInvocation.Unicode.Binary
import ListInvocation.Unicode.Category
import ListInvocation.Unicode.GraphemeBreak
import ListInvocation.Unicode.Script
import ListInvocation.Unicode.ScriptExtensions
import ListInvocation.Unicode.SentenceBreak
import ListInvocation.Unicode.WordBreak

/-!
Contract: the characters that a property query asks for.

Names are compared loosely: case, blanks, underscores, hyphens and a leading "is" do not
count. A query without a value asks for a property that a character has or has not, for
a general category or for a script, in this order. The tables are those of Unicode 15.0.

Owns: loose names, groups of categories, properties that are the remainder of another,
and the answers to queries.

Does not own: the tables, or how a query is written.
-/

namespace ListInvocation.Unicode

open Text (CharacterSet)

/-- A question about the properties of a character. -/
inductive PropertyQuery where
  | named (name : String)
  | valued (property value : String)
deriving Repr, DecidableEq

namespace PropertyQuery

def isIgnored (character : Char) : Bool :=
  character == ' ' || character == '_' || character == '-' || !character.val < 0x80

/-- A name without what does not count, after its leading "is" if it has one. -/
def significant (name : List Char) : List Char :=
  (name.filter fun character => !isIgnored character).map Char.toLower

/-- The form of a name that tables use. The name "isc" stands for itself. -/
def looseName (name : String) : String :=
  match name.toList with
  | first :: second :: rest =>
      if first.toLower == 'i' && second.toLower == 's' then
        let significantRest := significant rest
        if significantRest == ['c'] then "isc" else String.ofList significantRest
      else String.ofList (significant name.toList)
  | characters => String.ofList (significant characters)

/-- Groups of general categories: the names of a group, and the categories in it. -/
def categoryGroups : List (List String × List String) := [
  (["lc", "casedletter"], ["lu", "ll", "lt"]),
  (["l", "letter"], ["lu", "ll", "lt", "lm", "lo"]),
  (["m", "mark", "combiningmark"], ["mn", "mc", "me"]),
  (["n", "number"], ["nd", "nl", "no"]),
  (["p", "punctuation", "punct"], ["pc", "pd", "ps", "pe", "pi", "pf", "po"]),
  (["s", "symbol"], ["sm", "sc", "sk", "so"]),
  (["z", "separator"], ["zs", "zl", "zp"]),
  (["c", "other"], ["cc", "cf", "co", "cn"])]

def category? (name : String) : Option CharacterSet :=
  if name = "any" then some CharacterSet.full
  else if name = "ascii" then some (.ofRange 0 0x7F)
  else if name = "assigned" then (categories.find? "cn").map CharacterSet.complement
  else
    match categoryGroups.find? fun group => group.1.contains name with
    | some group => some (categories.unionOf group.2)
    | none => categories.find? name

/-- The characters that a property has beyond the general categories that it takes whole:
the names of such a remainder, the property, and the categories. -/
def remainders : List (List String × String × List String) := [
  (["oalpha", "otheralphabetic"], "alphabetic", ["l", "nl"]),
  (["odi", "otherdefaultignorablecodepoint"], "defaultignorablecodepoint", ["cf"]),
  (["ogrext", "othergraphemeextend"], "graphemeextend", ["mn", "me"]),
  (["oidc", "otheridcontinue"], "idcontinue", ["l", "nl", "mn", "mc", "nd", "pc"]),
  (["oids", "otheridstart"], "idstart", ["l", "nl"]),
  (["olower", "otherlowercase"], "lowercase", ["ll"]),
  (["omath", "othermath"], "math", ["sm"]),
  (["oupper", "otheruppercase"], "uppercase", ["lu"])]

/-- What a remainder leaves out besides categories. -/
def alsoLeftOut (property : String) : CharacterSet :=
  if property = "defaultignorablecodepoint" then
    (binaryProperties.find? "variationselector").getD .empty
  else if property = "idcontinue" then (binaryProperties.find? "idstart").getD .empty
  else .empty

/-- The characters for which a property holds that a character has or has not. -/
def binary? (name : String) : Option CharacterSet :=
  match remainders.find? fun remainder => remainder.1.contains name with
  | none => binaryProperties.find? name
  | some (_, property, groups) =>
      (binaryProperties.find? property).map fun set =>
        set.difference
          ((CharacterSet.unionAll (groups.filterMap category?)).union (alsoLeftOut property))

/-- Names that mean a general category although some property has them too. -/
def categoryFirst : List String := ["cf", "sc", "lc"]

def scriptExtensions? (name : String) : Option CharacterSet :=
  (scriptExtensions.find? name).or (scripts.find? name)

/-- The characters assigned up to a version of the standard. -/
def assignedBy? (version : String) : Option CharacterSet :=
  if ages.entries.any fun entry => entry.1.contains version then
    let earlier := ages.entries.takeWhile fun entry => !entry.1.contains version
    (ages.find? version).map fun added =>
      (CharacterSet.unionAll (earlier.map fun entry => .ofRuns entry.2)).union added
  else none

/-- The characters for which a property without a value holds. -/
def answerNamed? (name : String) : Option CharacterSet :=
  let property? := if categoryFirst.contains name then none else binary? name
  (property?.or (category? name)).or (scripts.find? name)

/-- The characters for which a property has a value. -/
def answerValued? (property value : String) : Option CharacterSet :=
  if ["gc", "generalcategory"].contains property then category? value
  else if ["sc", "script"].contains property then scripts.find? value
  else if ["scx", "scriptextensions"].contains property then scriptExtensions? value
  else if ["age"].contains property then assignedBy? value
  else if ["gcb", "graphemeclusterbreak"].contains property then graphemeBreaks.find? value
  else if ["wb", "wordbreak"].contains property then wordBreaks.find? value
  else if ["sb", "sentencebreak"].contains property then sentenceBreaks.find? value
  else none

/-- The characters that a query asks for, if it asks for anything. -/
def answer? : PropertyQuery → Option CharacterSet
  | named name => answerNamed? (looseName name)
  | valued property value => answerValued? (looseName property) (looseName value)

end PropertyQuery

def alphabetic : CharacterSet :=
  (binaryProperties.find? "alphabetic").getD .empty

end ListInvocation.Unicode
