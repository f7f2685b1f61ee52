import BotTypings.Patch.Basic

/-! Objects that a description does not hold: the union of currency codes and the envelopes in which
every answer arrives. -/
namespace BotTypings

def currenciesObject : String := "Currencies"

def starsCurrency : String := "XTR"

/-- The given codes in order, with the platform's own at the end unless it is among them. -/
def withStars (codes : List String) : List String :=
  if starsCurrency ∈ codes then codes else codes ++ [starsCurrency]

def currencyUnion (codes : List String) : Object where
  name := currenciesObject
  description := "Three-letter ISO 4217 currency codes supported by Telegram payments, plus XTR for Telegram Stars."
  documentationLink := "https://core.telegram.org/bots/payments#supported-currencies"
  kind := .anyOf ((withStars codes).map FieldType.literal)
  typeParameters := none

def addCurrencies : Patch where
  name := "currencies"
  run options s :=
    match options.currencies with
    | [] => .error .noCurrencies
    | code :: codes => .ok (s.upsertObject (currencyUnion (code :: codes)))

def responseOkObject : String := "APIResponseOk"
def responseErrorObject : String := "APIResponseError"
def responseObject : String := "APIResponse"

def methodParameter : String := "Method extends keyof APIMethods = keyof APIMethods"

def responseLink : String := "https://core.telegram.org/bots/api#making-requests"

def okEnvelope : Object where
  name := responseOkObject
  description := "Successful response of the Bot API for the given method"
  documentationLink := responseLink
  kind := .properties
    [⟨"ok", "The request was successful", true, .bool (some true)⟩,
     ⟨"result", "The result of the query", true, .expression "APIMethodReturn<Method>"⟩]
  typeParameters := some methodParameter

def errorEnvelope : Object where
  name := responseErrorObject
  description := "Unsuccessful response of the Bot API"
  documentationLink := responseLink
  kind := .properties
    [⟨"ok", "The request was unsuccessful", true, .bool (some false)⟩,
     ⟨"description", "A human-readable description of the error", true, .plainString⟩,
     ⟨"error_code", "Error code. Its meaning is subject to change in the future", true,
      .plainInteger⟩,
     ⟨"parameters", "Helps to automatically handle the error", false,
      .reference "ResponseParameters"⟩]
  typeParameters := none

def eitherEnvelope : Object where
  name := responseObject
  description := "Response of the Bot API for the given method, successful or not"
  documentationLink := responseLink
  kind := .anyOf [.reference (responseOkObject ++ "<Method>"), .reference responseErrorObject]
  typeParameters := some methodParameter

def addEnvelopes : Patch where
  name := "response_envelopes"
  run _ s :=
    .ok (((s.upsertObject okEnvelope).upsertObject errorEnvelope).upsertObject eitherEnvelope)

end BotTypings
