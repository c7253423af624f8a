import ApiStub.Regex.CharClass

/-!
# Classes by property

The names that may stand in `\p`: general categories and groups of them, scripts, and binary
properties. Names are compared without case, blanks, underscores and hyphens, and without a
leading "is".
-/

namespace ApiStub.Regex.CharClass

open Unicode (Entry categories scripts properties)

/-- A name in its loose form, without a leading "is". What would be left of "isc" is too short to
tell from another name, so that one keeps its "is". -/
def propertyName (name : List Char) : List Char :=
  match name with
  | i :: s :: rest =>
    if i.toLower == 'i' && s.toLower == 's' then
      let short := Unicode.looseName rest
      if short == ['c'] then ['i', 's', 'c'] else short
    else Unicode.looseName name
  | _ => Unicode.looseName name

/-- The class of an entry. -/
def ofEntry (entry : Entry) : CharClass := ranges (Unicode.decode entry.table)

/-- The categories whose short names are given, together. -/
def ofCategories (shortNames : List String) : CharClass :=
  union ((categories.filter fun entry =>
    shortNames.any fun name => entry.names.head? == some name).map ofEntry)

/-- Every assigned character. -/
def assigned : CharClass := union (categories.map ofEntry)

/-- The class of a category, a group of categories, or one of the sets that count as such. -/
def ofCategoryName? (name : List Char) : Option CharClass :=
  match String.ofList name with
  | "any" => some (ranges [⟨0, 0x10FFFF⟩])
  | "assigned" => some assigned
  | "ascii" => some (ranges [⟨0, 0x7F⟩])
  | "cn" | "unassigned" => some (complement assigned)
  | "c" | "other" => some (union [ofCategories ["Cc", "Cf", "Co"], complement assigned])
  | "l" | "letter" => some (ofCategories ["Lu", "Ll", "Lt", "Lm", "Lo"])
  | "lc" | "casedletter" => some (ofCategories ["Lu", "Ll", "Lt"])
  | "m" | "mark" | "combiningmark" => some (ofCategories ["Mn", "Mc", "Me"])
  | "n" | "number" => some (ofCategories ["Nd", "Nl", "No"])
  | "p" | "punctuation" | "punct" =>
    some (ofCategories ["Pc", "Pd", "Ps", "Pe", "Pi", "Pf", "Po"])
  | "s" | "symbol" => some (ofCategories ["Sm", "Sc", "Sk", "So"])
  | "z" | "separator" => some (ofCategories ["Zs", "Zl", "Zp"])
  | _ => (Unicode.find? categories name).map ofEntry

/-- The class of a script. -/
def ofScriptName? (name : List Char) : Option CharClass :=
  (Unicode.find? scripts name).map ofEntry

/-- The class of a binary property. Three short names are left to the categories. -/
def ofBinaryName? (name : List Char) : Option CharClass :=
  if name ∈ ["cf".toList, "sc".toList, "lc".toList] then none
  else (Unicode.find? properties name).map ofEntry

/-- The class of a name that stands alone. -/
def ofName? (name : List Char) : Option CharClass :=
  let name := propertyName name
  ofBinaryName? name <|> ofCategoryName? name <|> ofScriptName? name

/-- The class of a property and its value. -/
def ofNameAndValue? (name value : List Char) : Option CharClass :=
  match String.ofList (propertyName name) with
  | "gc" | "generalcategory" => ofCategoryName? (propertyName value)
  | "sc" | "script" => ofScriptName? (propertyName value)
  | _ => none

/-- Splits at the first place where a mark stands. -/
def splitAt? (mark : List Char) : List Char → Option (List Char × List Char)
  | [] => none
  | c :: rest =>
    if mark.isPrefixOf (c :: rest) then some ([], (c :: rest).drop mark.length)
    else (splitAt? mark rest).map fun (before, after) => (c :: before, after)

/-- The class of what stands between the braces of `\p`. -/
def ofQuery? (query : List Char) : Option CharClass :=
  match splitAt? ['!', '='] query with
  | some (name, value) => (ofNameAndValue? name value).map complement
  | none =>
    match splitAt? [':'] query <|> splitAt? ['='] query with
    | some (name, value) => ofNameAndValue? name value
    | none => ofName? query

end ApiStub.Regex.CharClass
