/-! String literal types. Quotes and backslashes are escaped, everything else is written as it is. -/
namespace BotTypings.TypeText

def literalChar (c : Char) : List Char :=
  if c = '\\' then ['\\', '\\']
  else if c = '"' then ['\\', '"']
  else [c]

def literalChars (cs : List Char) : List Char := '"' :: cs.flatMap literalChar ++ ['"']

def literal (value : String) : String := String.ofList (literalChars value.toList)

theorem literal_toList (value : String) :
    (literal value).toList = '"' :: (value.toList.flatMap literalChar ++ ['"']) := by
  rw [literal, String.toList_ofList]
  rfl

theorem mem_literal_iff {value : String} {c : Char} (quote : c ≠ '"') (escape : c ≠ '\\') :
    c ∈ (literal value).toList ↔ c ∈ value.toList := by
  have same (d : Char) : c ∈ literalChar d ↔ c = d := by
    unfold literalChar
    split
    · simp_all
    · split <;> simp_all
  simp [literal_toList, quote, same]

end BotTypings.TypeText
