import Ipam.Text.Split

/-!
# Quotes around a configuration text

Shells and manifests sometimes leave a pair of quotes around a configured value.  One pair is taken
away, single quotes being tried before double quotes; a lone quote is not a pair.
-/

namespace Ipam.Text

/-- The text between two quotes of the given kind, when the text starts and ends with one each. -/
def between? (quote : Char) (cs : List Char) : Option (List Char) :=
  stripStart? quote cs >>= stripEnd? quote

/-- The text without one pair of surrounding quotes. -/
def unquote (cs : List Char) : List Char :=
  (between? '\'' cs <|> between? '"' cs).getD cs

/-- A string without one pair of surrounding quotes. -/
def unquoted (s : String) : String :=
  String.ofList (unquote s.toList)

/-- A lone quote stands for itself. -/
theorem unquote_singleton (c : Char) : unquote [c] = [c] := by
  by_cases h₁ : c = '\'' <;> by_cases h₂ : c = '"' <;>
    simp_all [unquote, between?, stripStart?, stripEnd?]

end Ipam.Text
