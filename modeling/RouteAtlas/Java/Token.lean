import RouteAtlas.Java.Letters

set_option autoImplicit false

namespace RouteAtlas.Java

inductive TokenKind where
  -- An identifier or a keyword; which of the two depends on where it stands.
  | word
  | literal
  | stringStart
  | stringEnd
  -- A backslash and an opening brace, inside a string literal.
  | embeddedStart
  | embeddedEnd
  | symbol
  | comment
  | stray
deriving DecidableEq, Repr

structure Token where
  kind : TokenKind
  text : String
  start : Nat
  stop : Nat
  line : Nat
  lastLine : Nat
deriving DecidableEq, Repr

namespace Token

def follows (token : Token) (before : Token) : Bool :=
  token.start = before.stop

end Token

namespace Numeral

def isDigit (char : Char) : Bool :=
  '0' ≤ char && char ≤ '9'

def isHexDigit (char : Char) : Bool :=
  isDigit char || ('a' ≤ char && char ≤ 'f') || ('A' ≤ char && char ≤ 'F')

def isOctalDigit (char : Char) : Bool :=
  '0' ≤ char && char ≤ '7'

def isBinaryDigit (char : Char) : Bool :=
  char = '0' || char = '1'

def groupsFrom (accepts : Char -> Bool) (several : Bool) : Nat -> Nat -> List Char -> Nat
  -- The length of digits with underscores between them; the flag says whether an underscore has just been read and how
  -- many characters since the last digit are not yet counted.
  | counted, _, [] => counted
  | counted, underscores, char :: rest =>
    if accepts char then groupsFrom accepts several (counted + underscores + 1) 0 rest
    else if char = '_' && (several || underscores = 0) then groupsFrom accepts several counted (underscores + 1) rest
    else counted

def simpleGroups? (accepts : Char -> Bool) (chars : List Char) : Option Nat :=
  match chars with
  | [] => none
  | first :: rest => if accepts first then some (groupsFrom accepts false 1 0 rest) else none

def groups? (accepts : Char -> Bool) (chars : List Char) : Option Nat :=
  match chars with
  | [] => none
  | first :: rest =>
    if !accepts first then none
    else match rest with
      | '_' :: second :: others =>
        if accepts second then some (groupsFrom accepts true 3 0 others) else some 1
      | second :: others => if accepts second then some (groupsFrom accepts true 2 0 others) else some 1
      | [] => some 1

def andThen (length : Option Nat) (next : List Char -> Option Nat) (chars : List Char) : Option Nat :=
  length.bind fun taken => (next (chars.drop taken)).map fun more => taken + more

def exactly (text : List Char) (chars : List Char) : Option Nat :=
  if text.isPrefixOf chars then some text.length else none

def either (first : List Char -> Option Nat) (second : List Char -> Option Nat) (chars : List Char) : Option Nat :=
  (first chars).or (second chars)

def perhaps (form : List Char -> Option Nat) (chars : List Char) : Option Nat :=
  some ((form chars).getD 0)

def inOrder : List (List Char -> Option Nat) -> List Char -> Option Nat
  | [], _ => some 0
  | form :: forms, chars => andThen (form chars) (inOrder forms) chars

def oneOf (letters : List Char) (chars : List Char) : Option Nat :=
  if chars.head?.any letters.contains then some 1 else none

def decimalDigits? (chars : List Char) : Option Nat :=
  match chars with
  | '0' :: _ => some 1
  | _ => groups? isDigit chars

def exponent (letters : List Char) : List Char -> Option Nat :=
  inOrder [oneOf letters, perhaps (oneOf ['+', '-']), groups? isDigit]

def realSuffix : List Char -> Option Nat :=
  oneOf ['f', 'F', 'd', 'D']

def forms : List (List Char -> Option Nat) :=
  let long := perhaps (oneOf ['l', 'L'])
  let hexMark := either (exactly ['0', 'x']) (exactly ['0', 'X'])
  [inOrder [decimalDigits?, long],
    inOrder [hexMark, groups? isHexDigit, long],
    inOrder [either (exactly ['0', 'o']) (either (exactly ['0', 'O']) (exactly ['0'])), simpleGroups? isOctalDigit,
      long],
    inOrder [either (exactly ['0', 'b']) (exactly ['0', 'B']), simpleGroups? isBinaryDigit, long],
    inOrder [groups? isDigit, exactly ['.'], perhaps (groups? isDigit), perhaps (exponent ['e', 'E']),
      perhaps realSuffix],
    inOrder [exactly ['.'], groups? isDigit, perhaps (exponent ['e', 'E']), perhaps realSuffix],
    inOrder [groups? isDigit, exponent ['e', 'E', 'p', 'P'], perhaps realSuffix],
    inOrder [groups? isDigit, perhaps (exponent ['e', 'E']), realSuffix],
    inOrder [hexMark, either (inOrder [groups? isHexDigit, perhaps (exactly ['.'])])
        (inOrder [perhaps (groups? isHexDigit), exactly ['.'], groups? isHexDigit]),
      exponent ['p', 'P'], perhaps realSuffix],
    inOrder [hexMark, perhaps (groups? isHexDigit), exactly ['.'], groups? isHexDigit, exponent ['p', 'P'],
      perhaps realSuffix]]

def length? (chars : List Char) : Option Nat :=
  (forms.filterMap fun form => form chars).max?

end Numeral

end RouteAtlas.Java
