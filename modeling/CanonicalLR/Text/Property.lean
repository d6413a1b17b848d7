import CanonicalLR.Text.Property.Age
import CanonicalLR.Text.Property.Binary
import CanonicalLR.Text.Property.Break
import CanonicalLR.Text.Property.Category
import CanonicalLR.Text.Property.Script
import CanonicalLR.Text.Property.ScriptExtension

/-! Character properties by name. -/
namespace CanonicalLR.Text.Property

/-- A name as it is looked up: a leading `is`, the case of letters, spaces, low lines, hyphens and all
that is not ASCII do not count. The name `isc` keeps its first letters, for it means a property that
has no table, and not the category `c`. -/
def looseName (text : List Char) : String :=
  let (marked, text) := match text with
    | i :: s :: rest => if i.toLower == 'i' && s.toLower == 's' then (true, rest) else (false, text)
    | _ => (false, text)
  let plain (c : Char) := c.val < 0x80 && c != ' ' && c != '_' && c != '-'
  match marked, (text.filter plain).map Char.toLower with
  | true, ['c'] => "isc"
  | _, name => String.ofList name

private def unions (sets : List (List Nat)) : List Nat :=
  sets.foldl (combine or) []

private def together (names : List String) : List Nat :=
  unions (names.filterMap (find? categories))

private def assigned : List Nat :=
  unions (categories.map (·.bounds))

private def outside (set : List Nat) : List Nat :=
  combine (fun p q => p && !q) [0, 0x110000] set

def category? (name : String) : Option (List Nat) :=
  if name == "any" then some [0, 0x110000]
  else if name == "ascii" then some [0, 0x80]
  else if name == "assigned" then some assigned
  else if ["cn", "unassigned"].contains name then some (outside assigned)
  else if ["lc", "casedletter"].contains name then some (together ["lu", "ll", "lt"])
  else if ["l", "letter"].contains name then some (together ["lu", "ll", "lt", "lm", "lo"])
  else if ["m", "mark", "combiningmark"].contains name then some (together ["mn", "mc", "me"])
  else if ["n", "number"].contains name then some (together ["nd", "nl", "no"])
  else if ["p", "punct", "punctuation"].contains name then
    some (together ["pc", "pd", "ps", "pe", "pi", "pf", "po"])
  else if ["s", "symbol"].contains name then some (together ["sm", "sc", "sk", "so"])
  else if ["z", "separator"].contains name then some (together ["zs", "zl", "zp"])
  else if ["c", "other"].contains name then
    some (unions [together ["cc", "cf", "co"], outside assigned])
  else find? categories name

def version? (name : String) : Option (List Nat) :=
  let later := versions.dropWhile (!·.names.contains name)
  if later.isEmpty then none
  else some (unions ((versions.take (versions.length + 1 - later.length)).map (·.bounds)))

/-- The set that one name stands for: a binary property, a general category or a script. The names of
three categories are also short names of properties; they mean the categories. -/
def named? (name : String) : Option (List Nat) :=
  if ["cf", "sc", "lc"].contains name then category? name
  else find? binary name <|> category? name <|> find? scripts name

def valued? (property value : String) : Option (List Nat) :=
  if ["gc", "generalcategory"].contains property then category? value
  else if ["sc", "script"].contains property then find? scripts value
  else if ["scx", "scriptextensions"].contains property then find? scriptExtensions value
  else if property == "age" then version? value
  else if ["gcb", "graphemeclusterbreak"].contains property then find? graphemeBreaks value
  else if ["wb", "wordbreak"].contains property then find? wordBreaks value
  else if ["sb", "sentencebreak"].contains property then find? sentenceBreaks value
  else none

end CanonicalLR.Text.Property
