import PipeQuery.Text.Scan

/-!
# Quoted strings and brackets around a token

Strings are written between two equal quotes and keep their escapes as written, so writing one means
choosing a quote under which it reads back as one token.
-/

set_option autoImplicit false

namespace PipeQuery.Text

def enclosed? (opening closing : Char) : List Char → Option (List Char)
  | [] => none
  | c :: rest =>
    if c == opening && rest.getLast? == some closing then some rest.dropLast else none

def unquote? (token : List Char) : Option (List Char) :=
  (enclosed? '"' '"' token).or (enclosed? '\'' '\'' token)

/-- Every character, read on from the scan, leaves a string open, and no escape is pending at the end. -/
def leavesOpen (scan : Scan) : List Char → Bool
  | [] => !scan.escaped
  | c :: rest => (scan.step c).quote.isSome && leavesOpen (scan.step c) rest

/-- Between two such quotes the content is one string that ends at the second quote. -/
def staysQuoted (quote : Char) (content : List Char) : Bool :=
  leavesOpen (Scan.inside quote) content

def isOneToken (scan : Scan) : List Char → Bool
  | [] => scan.settled
  | c :: rest => !(scan.settled && (c == ',' || c == '|')) && isOneToken (scan.step c) rest

/-- Between two such quotes the content reads back as one token, though the string may close and open
again in between. -/
def readsBackQuoted (quote : Char) (content : List Char) : Bool :=
  isOneToken Scan.start (quote :: content ++ [quote])

/-- The quote to write a content with: the first that keeps it one string, else the first under which
it is one token, else the double quote. -/
def quoteFor (content : List Char) : Char :=
  let quotes := ['"', '\'']
  ((quotes.find? (fun quote => staysQuoted quote content)).or
    (quotes.find? (fun quote => readsBackQuoted quote content))).getD '"'

def quoted (content : List Char) : List Char :=
  let quote := quoteFor content
  quote :: content ++ [quote]

theorem length_of_enclosed? {opening closing : Char} {token inner : List Char}
    (found : enclosed? opening closing token = some inner) :
    inner.length + 2 = token.length := by
  cases token with
  | nil => simp [enclosed?] at found
  | cons c rest =>
      simp only [enclosed?] at found
      split at found
      · next ends =>
          cases found
          cases rest with
          | nil => simp at ends
          | cons d rest => simp
      · cases found

end PipeQuery.Text
