import RouteAtlas.Java.Token

set_option autoImplicit false

namespace RouteAtlas.Java.Lexer

inductive Mode where
  -- In an expression embedded in a string literal, inside so many braces.
  | embedded (depth : Nat)
  | string
  | textBlock
deriving DecidableEq, Repr

structure Position where
  offset : Nat
  line : Nat
deriving DecidableEq, Repr

def Position.after (position : Position) (chars : List Char) : Position :=
  { offset := position.offset + chars.length, line := position.line + chars.count '\n' }

def longSymbols : List String :=
  ["<<=", "...", "->", "::", "++", "--", "&&", "||", "==", "!=", "<=", "+=", "-=", "*=", "/=", "&=", "|=", "^=", "%=",
    "<<"]

def shortSymbols : List Char :=
  ['(', ')', '{', '}', '[', ']', ';', ',', '.', '@', '=', '>', '<', '!', '~', '?', ':', '+', '-', '*', '/', '&', '|',
    '^', '%']

def isSpace (char : Char) : Bool :=
  char = ' ' || ('\t' ≤ char && char ≤ '\r')

def blockCommentLength? : List Char -> Option Nat
  | [] => none
  | '\x00' :: _ => none
  | '*' :: '/' :: _ => some 2
  | _ :: rest => (blockCommentLength? rest).map (· + 1)

def charLength? : List Char -> Option Nat
  | [] => none
  | '\x00' :: _ => none
  | '\n' :: _ => none
  | '\'' :: _ => some 1
  | '\\' :: _ :: rest => (charLength? rest).map (· + 2)
  | _ :: rest => (charLength? rest).map (· + 1)

def escapeLength? : List Char -> Option Nat
  -- The number of characters of an escape in a string literal after its backslash; an opening brace is no escape.
  | [] => none
  | 'x' :: rest => if (rest.take 2).length = 2 && (rest.take 2).all Numeral.isHexDigit then some 3 else none
  | 'u' :: '{' :: rest =>
    let digits := (rest.takeWhile Numeral.isHexDigit).length
    if 0 < digits && (rest.drop digits).head? = some '}' then some (digits + 3) else none
  | 'u' :: rest => if (rest.take 4).length = 4 && (rest.take 4).all Numeral.isHexDigit then some 5 else none
  | first :: rest =>
    if first = '{' || first = '\x00' then none
    else if Numeral.isOctalDigit first then
      some (1 + ((rest.take 2).takeWhile Numeral.isOctalDigit).length)
    else some 1

/-- What is found at a place: how many characters it takes after the first, what token it is if it is one, and the
modes after it. -/
structure Found where
  more : Nat
  token : Option TokenKind
  modes : List Mode

def plain (more : Nat) (modes : List Mode) : Found :=
  { more := more, token := none, modes := modes }

def tokenFound (kind : TokenKind) (more : Nat) (modes : List Mode) : Found :=
  { more := more, token := some kind, modes := modes }

def strayFound (modes : List Mode) : Found :=
  tokenFound .stray 0 modes

def inText (block : Bool) (modes : List Mode) (first : Char) (rest : List Char) : Found :=
  if first = '"' then
    if !block then tokenFound .stringEnd 0 modes.tail
    else if ['"', '"'].isPrefixOf rest then tokenFound .stringEnd 2 modes.tail
    else plain 0 modes
  else if first = '\\' then
    if rest.head? = some '{' then tokenFound .embeddedStart 1 (.embedded 0 :: modes)
    else match escapeLength? rest with
      | some length => plain length modes
      | none => strayFound modes
  else if first = '\x00' then strayFound modes
  else plain 0 modes

def symbolFound (modes : List Mode) (first : Char) (more : Nat) : Found :=
  match modes with
  | .embedded depth :: outer =>
    if first = '{' then tokenFound .symbol more (.embedded (depth + 1) :: outer)
    else if first = '}' then
      if depth = 0 then tokenFound .embeddedEnd more outer
      else tokenFound .symbol more (.embedded (depth - 1) :: outer)
    else tokenFound .symbol more modes
  | _ => tokenFound .symbol more modes

def inCode (modes : List Mode) (first : Char) (rest : List Char) : Found :=
  let chars := first :: rest
  if isSpace first then plain 0 modes
  else if ['/', '/'].isPrefixOf chars then
    tokenFound .comment (rest.takeWhile fun char => char ≠ '\n' && char ≠ '\x00').length modes
  else if ['/', '*'].isPrefixOf chars then
    match blockCommentLength? (rest.drop 1) with
    | some length => tokenFound .comment (1 + length) modes
    | none => strayFound modes
  else if startsIdentifier first then
    tokenFound .word (rest.takeWhile continuesIdentifier).length modes
  else if ['"', '"', '"'].isPrefixOf chars then tokenFound .stringStart 2 (.textBlock :: modes)
  else if first = '"' then tokenFound .stringStart 0 (.string :: modes)
  else if first = '\'' then
    match charLength? rest with
    | some length => if length = 1 then strayFound modes else tokenFound .literal length modes
    | none => strayFound modes
  else match Numeral.length? chars with
    | some length => tokenFound .literal (length - 1) modes
    | none =>
      match longSymbols.find? fun symbol => symbol.toList.isPrefixOf chars with
      | some symbol => symbolFound modes first (symbol.length - 1)
      | none => if shortSymbols.contains first then symbolFound modes first 0 else strayFound modes

def find (modes : List Mode) (first : Char) (rest : List Char) : Found :=
  match modes with
  | .string :: _ => inText false modes first rest
  | .textBlock :: _ => inText true modes first rest
  | _ => inCode modes first rest

def tokensFrom (modes : List Mode) (position : Position) : List Char -> List Token
  | [] => []
  | first :: rest =>
    let found := find modes first rest
    let next := position.after (first :: rest.take found.more)
    match found.token with
    | none => tokensFrom found.modes next (rest.drop found.more)
    | some kind =>
      let token : Token := {
        kind := kind
        text := String.ofList (first :: rest.take found.more)
        start := position.offset
        stop := next.offset
        line := position.line
        lastLine := next.line }
      if kind = .stray then [token] else token :: tokensFrom found.modes next (rest.drop found.more)
termination_by chars => chars.length
decreasing_by all_goals (simp only [List.length_drop, List.length_cons]; omega)

def tokens (source : List Char) : List Token :=
  -- The tokens of a source, with its comments. A byte order mark at its start is passed over.
  match source with
  | first :: rest =>
    if first = '\uFEFF' then tokensFrom [] { offset := 1, line := 1 } rest
    else tokensFrom [] { offset := 0, line := 1 } source
  | [] => []

end RouteAtlas.Java.Lexer
