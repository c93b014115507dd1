/-!
String literals of the textual languages: contents between double quotes, where a backslash
introduces a quote, a backslash, a line feed, a tab or a carriage return.
-/

namespace TwoWay.Text

def escapedChar (c : Char) : List Char :=
  if c = '"' then ['\\', '"']
  else if c = '\\' then ['\\', '\\']
  else if c = '\n' then ['\\', 'n']
  else if c = '\t' then ['\\', 't']
  else if c = '\r' then ['\\', 'r']
  else [c]

def escaped (text : String) : String :=
  String.ofList ('"' :: text.toList.flatMap escapedChar ++ ['"'])

inductive EscapeError
  | unknownEscape (c : Char)
  | danglingBackslash
  | notEnclosed (text : String)
deriving DecidableEq, Repr

def EscapeError.message : EscapeError → String
  | .unknownEscape c => "unknown escape sequence \\" ++ String.ofList [c]
  | .danglingBackslash => "dangling backslash"
  | .notEnclosed text => text ++ " is not enclosed in double quotes"

def escapeMeaning? (c : Char) : Option Char :=
  if c = '"' then some '"'
  else if c = '\\' then some '\\'
  else if c = 'n' then some '\n'
  else if c = 't' then some '\t'
  else if c = 'r' then some '\r'
  else none

/-- Resolves the escapes between the quotes. -/
def unescapeBody : List Char → Except EscapeError (List Char)
  | [] => .ok []
  | ['\\'] => .error .danglingBackslash
  | '\\' :: c :: rest =>
      match escapeMeaning? c with
      | some meaning => (meaning :: ·) <$> unescapeBody rest
      | none => .error (.unknownEscape c)
  | c :: rest => (c :: ·) <$> unescapeBody rest

/-- What stands between an opening and a closing quote, which may not be the same one. -/
def unquote? : List Char → Option (List Char)
  | '"' :: rest => if rest.getLast? = some '"' then some rest.dropLast else none
  | _ => none

def unescape (literal : String) : Except EscapeError String :=
  match unquote? literal.toList with
  | some body => String.ofList <$> unescapeBody body
  | none => .error (.notEnclosed literal)

end TwoWay.Text
