/-!
# Words for a shell

`quote` writes a text so that a POSIX shell reads it back as one word with
exactly that text, and `join` writes a list of texts as the words of a command.
A word of safe characters stands bare; any other is put between single quotes,
where a single quote is written as `'"'"'`: the quotes are closed, a quote in
double quotes follows, and they are opened again.
-/

namespace FleetPlan.Shell

/-- Characters that a shell takes literally outside of quotes. -/
def isSafe (character : Char) : Bool :=
  character.isAlphanum ||
    ['_', '@', '%', '+', '=', ':', ',', '.', '/', '-'].contains character

/-- A single quote, written inside a text between single quotes. -/
def escapedQuote : List Char := ['\'', '"', '\'', '"', '\'']

/-- One character of a text between single quotes. -/
def quotedChar (character : Char) : List Char :=
  if character = '\'' then escapedQuote else [character]

/-- The characters of the word that a shell reads as the given text. -/
def quoteChars (text : List Char) : List Char :=
  if text.isEmpty then ['\'', '\'']
  else if text.all isSafe then text
  else '\'' :: (text.flatMap quotedChar ++ ['\''])

/-- The word that a shell reads as `text`. -/
def quote (text : String) : String :=
  String.ofList (quoteChars text.toList)

/-- The words that a shell reads as `texts`, with a space between neighbours. -/
def join (texts : List String) : String :=
  " ".intercalate (texts.map quote)

end FleetPlan.Shell
