import RouteProbe.Text.DisplayTable

/-! # Quoted text

The form in which diagnostics show a text: between double quotes, with quotes, backslashes and
everything without a visible form of its own written as an escape.
-/

namespace RouteProbe.Text

def showsItself (c : Char) : Bool :=
  if c.toNat < 128 then 0x20 ≤ c.toNat && c.toNat < 0x7F
  else !inRanges unprintableRanges c.toNat && !inRanges extendingRanges c.toNat

def quotedChar (c : Char) : List Char :=
  match c with
  | '\x00' => ['\\', '0']
  | '\t' => ['\\', 't']
  | '\n' => ['\\', 'n']
  | '\r' => ['\\', 'r']
  | '"' => ['\\', '"']
  | '\\' => ['\\', '\\']
  | c => if showsItself c then [c] else ['\\', 'u', '{'] ++ Nat.toDigits 16 c.toNat ++ ['}']

def quoted (text : String) : String :=
  String.ofList ('"' :: text.toList.flatMap quotedChar ++ ['"'])

/-- Texts in quotes between brackets. -/
def quotedList (texts : List String) : String := "[" ++ aux texts ++ "]"
where
  aux : List String → String
    | [] => ""
    | [text] => quoted text
    | text :: rest => quoted text ++ ", " ++ aux rest

end RouteProbe.Text
