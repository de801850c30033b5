/-!
# Shell words

A line cut into words at blanks. Quotes keep blanks within a word, and a backslash keeps the
character after it; between double quotes it does so only before a double quote or a backslash.
-/

namespace ChipEight.Text.ShellWords

inductive Error where
  | openQuote
  | openEscape
  deriving DecidableEq, Repr

def Error.message : Error → String
  | .openQuote => "No closing quotation"
  | .openEscape => "No escaped character"

def isSeparator (c : Char) : Bool := c = ' ' || c = '\t' || c = '\r' || c = '\n'

def isQuote (c : Char) : Bool := c = '"' || c = '\x27'

/-- Where in a line the next character stands. -/
inductive Mode where
  | between
  | word
  | quoted (quote : Char)
  | escaped
  /-- After a backslash between double quotes. -/
  | quotedEscape (quote : Char)
  deriving DecidableEq, Repr

/-- The words of the rest of a line; `word` is the current one so far, backwards. -/
def scan (mode : Mode) (word : List Char) : List Char → Except Error (List (List Char))
  | [] =>
    match mode with
    | .between => .ok []
    | .word => .ok [word.reverse]
    | .quoted _ => .error .openQuote
    | .escaped | .quotedEscape _ => .error .openEscape
  | c :: cs =>
    match mode with
    | .between | .word =>
      if isSeparator c then
        if mode = .word then (scan .between [] cs).map (word.reverse :: ·) else scan .between [] cs
      else if isQuote c then scan (.quoted c) word cs
      else if c = '\\' then scan .escaped word cs
      else scan .word (c :: word) cs
    | .quoted quote =>
      if c = quote then scan .word word cs
      else if c = '\\' && quote = '"' then scan (.quotedEscape quote) word cs
      else scan (.quoted quote) (c :: word) cs
    | .escaped => scan .word (c :: word) cs
    | .quotedEscape quote =>
      if c = '\\' || c = quote then scan (.quoted quote) (c :: word) cs
      else scan (.quoted quote) (c :: '\\' :: word) cs

def split (line : List Char) : Except Error (List (List Char)) := scan .between [] line

end ChipEight.Text.ShellWords
