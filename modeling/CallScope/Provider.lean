import CallScope.Decode.Decoder

/-!
# Providers

Who serves a model is told from the endpoint's URL. Each provider has a
host, and the URL belongs to the first provider, in the order of the
table, whose host occurs anywhere in it, letters of ASCII being compared
without regard to case. An endpoint that none of the hosts occurs in is
taken for OpenAI, whose wire format self-hosted servers and proxies nearly
always speak.
-/

namespace CallScope

open Json Decode

/-- **The providers** told apart by their endpoint. -/
inductive Provider where
  | gemini
  | openAi
  | azure
  | anthropic
  | cohere
deriving DecidableEq

namespace Provider

/-- The identifier of a provider in attributes, tags and JSON. -/
def name : Provider → String
  | .gemini => "gemini"
  | .openAi => "openai"
  | .azure => "azure"
  | .anthropic => "anthropic"
  | .cohere => "cohere"

/-- All providers, in the order messages list them. -/
def all : List Provider := [.gemini, .openAi, .azure, .anthropic, .cohere]

/-- The provider with an identifier. -/
def ofName? (name : String) : Option Provider := all.find? fun p => p.name == name

@[simp] theorem ofName?_name (p : Provider) : ofName? p.name = some p := by
  cases p <;> decide

/-- The providers' hosts, first match first. -/
def hosts : List (String × Provider) := [
  ("generativelanguage.googleapis.com", .gemini),
  ("api.openai.com", .openAi),
  ("openai.azure.com", .azure),
  ("api.anthropic.com", .anthropic),
  ("api.cohere.ai", .cohere)]

/-- Whether a text occurs within another. -/
def occursIn (part : List Char) : List Char → Bool
  | [] => part.isEmpty
  | c :: rest => part.isPrefixOf (c :: rest) || occursIn part rest

/-- **The provider of an endpoint.** -/
def ofUrl (url : String) : Provider :=
  let lowered := url.toList.map Char.toLower
  ((hosts.find? fun entry => occursIn entry.1.toList lowered).map Prod.snd).getD .openAi

/-- A provider's identifier as JSON. -/
def toValue (p : Provider) : Value := .string p.name

/-- Reads the identifier of a provider. -/
def decode : Decoder Provider := enumeration (all.map name) ofName?

end Provider
end CallScope
