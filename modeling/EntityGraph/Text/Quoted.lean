import EntityGraph.Text.Hidden

/-!
# Quoted text

Error messages and debug reports quote a text in double quotes, escaping what would not show as
itself or would end the quote:

* the double quote and the backslash get a backslash, the single quote stays;
* NUL, tab, carriage return and line feed are written `\0`, `\t`, `\r`, `\n`;
* every other control character and every hidden character (`Text.isHidden`) is written as
  `\u{h}`, its code point in lowercase hexadecimal without leading zeros;
* everything else stands as itself.
-/

namespace EntityGraph

namespace Text

/-- A character as quoted text writes it. -/
def escapeChar (c : Char) : String :=
  if c == '"' then "\\\""
  else if c == '\\' then "\\\\"
  else if c == '\n' then "\\n"
  else if c == '\r' then "\\r"
  else if c == '\t' then "\\t"
  else if c.toNat == 0 then "\\0"
  else if c.toNat < 0x20 || c.toNat == 0x7F || (0x80 ≤ c.toNat && isHidden c) then
    "\\u\x7b" ++ String.ofList (Nat.toDigits 16 c.toNat) ++ "\x7d"
  else String.singleton c

/-- A text in double quotes, each character escaped as `escapeChar` says. -/
def quoted (s : String) : String := "\"" ++ String.join (s.toList.map escapeChar) ++ "\""

end Text

end EntityGraph
