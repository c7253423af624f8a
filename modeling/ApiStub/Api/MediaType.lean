import ApiStub.Text.Blank

/-!
# Media types

Which media types announce JSON: `application/json` and every `application/…+json`, with or
without parameters and in any case.
-/

namespace ApiStub.Api

/-- The type without its parameters, in lower case. -/
def mediaEssence (mediaType : String) : String :=
  let chars := mediaType.toList.takeWhile (· != ';')
  (String.ofList (Text.trimBlanks chars)).toLower

/-- Whether the media type announces JSON. -/
def declaresJson (mediaType : String) : Bool :=
  let essence := mediaEssence mediaType
  essence == "application/json" ||
    (essence.startsWith "application/" && essence.endsWith "+json")

end ApiStub.Api
