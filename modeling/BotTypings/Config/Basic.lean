/-! The project configuration: where the description is, where the modules go, where currency codes
come from, and whether the output is formatted. Everything has a default. -/
namespace BotTypings

def publishedCurrencies : String := "https://core.telegram.org/bots/payments/currencies.json"

structure CurrencyConfig where
  url : String
  file : Option String
  deriving DecidableEq, Repr

structure Config where
  input : String
  output : String
  currencies : CurrencyConfig
  format : Bool
  deriving DecidableEq, Repr

def CurrencyConfig.standard : CurrencyConfig := ⟨publishedCurrencies, none⟩

def Config.standard : Config := ⟨"bot-api.json", "out", .standard, true⟩

def Config.fileName : String := ".tgt.yaml"

def Config.template : String :=
  "# tgt configuration
input: bot-api.json   # Bot API schema (custom.json layout)
output: out           # directory for the generated .d.ts modules

currencies:
  url: https://core.telegram.org/bots/payments/currencies.json
  # file: currencies.json   # use a local copy instead of fetching

format: true          # run `npx @biomejs/biome format --write` on the output
"

end BotTypings
